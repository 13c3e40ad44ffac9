import DialogKit.Proofs.Compile.Dialog

/-!
# Which buttons a dialog reads

The built-in kinds read their buttons from fixed places of the root: whatever comes of one button,
the sections of the others are the same. `ReadsButton` says which sections these are, by the kind
that the root names; `reads_plan` says that the plan of the kind builds buttons from exactly them.
-/

namespace DialogKit

open CompileM
open Document (ofValue?_eq_some part?_eq_some part?_itemOf)

/-- The sections that a plan builds buttons from, in order, whatever buttons come of them. -/
inductive Plan.Reads : Plan → List Document → Prop where
  | finish (layout : Layout) : Reads (.finish layout) []
  | note (event : Log.Event) {next : Plan} {parts : List Document} :
      Reads next parts → Reads (.note event next) parts
  | plain (slot : ButtonSlot) {next : Button → Plan} {parts : List Document} :
      (∀ button, Reads (next button) parts) → Reads (.button none slot next) parts
  | part (part : Document) (slot : ButtonSlot) {next : Button → Plan} {parts : List Document} :
      (∀ button, Reads (next button) parts) →
        Reads (.button (some part) slot next) (part :: parts)

/-- A slot with a section is read, one without is not. -/
theorem Plan.Reads.slot (part : Option Document) (slot : ButtonSlot) {next : Button → Plan}
    {parts : List Document} (h : ∀ button, (next button).Reads parts) :
    (Plan.button part slot next).Reads (part.toList ++ parts) := by
  cases part with
  | none => exact .plain slot h
  | some part => exact .part part slot h

namespace Kind

/-- The kind of a root: its type in lowercase, and in lowercase again where it is looked up. -/
def nameOf (root : Document) : String :=
  Text.lower (Text.lower (root.str "type" Compiler.defaultKind))

/-- The sections of buttons that the built-in kind of a root reads. -/
inductive ReadsButton (root part : Document) : Prop where
  /-- A notice and a dialog of several actions have a button to leave. -/
  | exit (kind : nameOf root = "notice" ∨ nameOf root = "multi_action")
      (found : root.value? "exit_button" = some (.map part.entries))
  /-- The grid of a dialog of several actions, where it is a map. -/
  | gridEntry (kind : nameOf root = "multi_action") {entries : List (String × Value)} {key : String}
      (found : root.value? "buttons" = some (.map entries))
      (mem : (key, .map part.entries) ∈ entries)
  /-- The grid of a dialog of several actions, where it is a list. -/
  | gridItem (kind : nameOf root = "multi_action") {items : List Value}
      (found : root.value? "buttons" = some (.list items)) (mem : .map part.entries ∈ items)
  /-- The two buttons of a confirmation; every unknown kind is one. -/
  | answer (kind : nameOf root ≠ "notice" ∧ nameOf root ≠ "multi_action")
      {entries : List (String × Value)} {name : String}
      (found : root.value? "buttons" = some (.map entries))
      (place : name = "confirm" ∨ name = "cancel")
      (answer : (Document.mk entries).value? name = some (.map part.entries))

/-- The sections that the built-in kind of a root reads, in the order in which it builds them. -/
def buttonParts (root : Document) : List Document :=
  match nameOf root with
  | "notice" => (root.part? "exit_button").toList
  | "multi_action" => gridParts root ++ (root.part? "exit_button").toList
  | _ =>
      ((root.part? "buttons").bind (·.part? "confirm")).toList ++
        ((root.part? "buttons").bind (·.part? "cancel")).toList

theorem mem_gridParts {root part : Document} :
    part ∈ gridParts root ↔
      (∃ entries key, root.value? "buttons" = some (.map entries) ∧
        (key, Value.map part.entries) ∈ entries) ∨
      ∃ items, root.value? "buttons" = some (.list items) ∧ Value.map part.entries ∈ items := by
  unfold gridParts Document.part? Document.items Document.list?
  cases hbuttons : root.value? "buttons" with
  | none => simp
  | some buttons =>
    cases buttons with
    | map entries =>
      have hmap : Document.ofValue? (.map entries) = some ⟨entries⟩ := rfl
      simp [hmap, ofValue?_eq_some]
    | list items =>
      have hlist : Document.ofValue? (.list items) = none := rfl
      simp [hlist, Value.list?, part?_itemOf, ofValue?_eq_some]
    | _ => simp [Document.ofValue?, Value.list?]

theorem mem_buttonParts {root part : Document} :
    part ∈ buttonParts root ↔ ReadsButton root part := by
  have hslot (name : String) :
      part ∈ ((root.part? "buttons").bind (·.part? name)).toList ↔
        ∃ entries, root.value? "buttons" = some (.map entries) ∧
          (Document.mk entries).value? name = some (.map part.entries) := by
    simp only [Option.mem_toList, Option.bind_eq_some_iff, part?_eq_some]
    constructor
    · rintro ⟨buttons, hbuttons, hpart⟩
      exact ⟨buttons.entries, hbuttons, hpart⟩
    · rintro ⟨entries, hbuttons, hpart⟩
      exact ⟨⟨entries⟩, hbuttons, hpart⟩
  unfold buttonParts
  split
  case h_1 hkind =>
    rw [Option.mem_toList, part?_eq_some]
    constructor
    · exact .exit (.inl hkind)
    · rintro (⟨_, hexit⟩ | ⟨hkind', _⟩ | ⟨hkind', _⟩ | ⟨hkind', _⟩)
      · exact hexit
      all_goals simp [hkind] at hkind'
  case h_2 hkind =>
    rw [List.mem_append, mem_gridParts, Option.mem_toList, part?_eq_some]
    constructor
    · rintro ((⟨entries, key, hbuttons, hmem⟩ | ⟨items, hbuttons, hmem⟩) | hexit)
      · exact .gridEntry hkind hbuttons hmem
      · exact .gridItem hkind hbuttons hmem
      · exact .exit (.inr hkind) hexit
    · rintro (⟨_, hexit⟩ | ⟨_, hbuttons, hmem⟩ | ⟨_, hbuttons, hmem⟩ | ⟨hkind', _⟩)
      · exact .inr hexit
      · exact .inl (.inl ⟨_, _, hbuttons, hmem⟩)
      · exact .inl (.inr ⟨_, hbuttons, hmem⟩)
      · simp [hkind] at hkind'
  case h_3 hnotice hgrid =>
    rw [List.mem_append, hslot, hslot]
    constructor
    · rintro (⟨entries, hbuttons, hpart⟩ | ⟨entries, hbuttons, hpart⟩)
      · exact .answer ⟨hnotice, hgrid⟩ hbuttons (.inl rfl) hpart
      · exact .answer ⟨hnotice, hgrid⟩ hbuttons (.inr rfl) hpart
    · rintro (⟨hkind | hkind, _⟩ | ⟨hkind, _⟩ | ⟨hkind, _⟩ | ⟨_, hbuttons, rfl | rfl, hpart⟩)
      · exact absurd hkind hnotice
      · exact absurd hkind hgrid
      · exact absurd hkind hgrid
      · exact absurd hkind hgrid
      · exact .inl ⟨_, hbuttons, hpart⟩
      · exact .inr ⟨_, hbuttons, hpart⟩

/-- The kind that is selected among the built-in ones. -/
theorem resolve_builtin (name : String) :
    (KindSet.builtin.result.resolve name).result =
      match Text.lower name with
      | "notice" => notice
      | "multi_action" => multiAction
      | _ => confirmation := by
  have hget (name : String) : KindSet.builtin.result.get? name = Entries.get? (Text.lower name)
      [("confirmation", confirmation), ("notice", notice), ("multi_action", multiAction)] := rfl
  have hdefault : KindSet.builtin.result.get? "confirmation" = some confirmation := rfl
  unfold KindSet.resolve
  rw [hdefault, hget]
  by_cases hnotice : Text.lower name = "notice"
  · simp [hnotice, Entries.get?]
  by_cases hgrid : Text.lower name = "multi_action"
  · simp [hgrid, Entries.get?]
  by_cases hconfirmation : Text.lower name = "confirmation"
  · simp [hconfirmation, Entries.get?]
  · have hnone : Entries.get? (Text.lower name)
        [("confirmation", confirmation), ("notice", notice), ("multi_action", multiAction)] =
          none := by
      simp [Entries.get?, Ne.symm hnotice, Ne.symm hgrid, Ne.symm hconfirmation]
    rw [hnone]
    dsimp only
    split
    · contradiction
    · contradiction
    · rfl

theorem reads_buildAll {next : List Button → Plan} {rest : List Document}
    (h : ∀ buttons, (next buttons).Reads rest) (parts : List Document) :
    (buildAll parts next).Reads (parts ++ rest) := by
  induction parts generalizing next with
  | nil => exact h []
  | cons part parts ih =>
    exact .part part .action fun button ↦ ih fun buttons ↦ h (button :: buttons)

theorem reads_finishGrid (root : Document) (buttons : List Button) :
    (finishGrid root buttons).Reads (root.part? "exit_button").toList := by
  unfold finishGrid
  cases root.part? "exit_button" with
  | none => exact .finish _
  | some part => exact .part part .action fun _ ↦ .finish _

theorem kindOf_builtin (catalog : Catalog) (host : Host) (root : Document) :
    (Compiler.builtin catalog host).kindOf root =
      match nameOf root with
      | "notice" => notice
      | "multi_action" => multiAction
      | _ => confirmation := by
  unfold Compiler.kindOf Compiler.builtin nameOf
  rw [resolve_builtin]

theorem action_of_mem_placeholders {button : Button} (h : button ∈ placeholders) :
    button.action = none := by
  obtain ⟨_, _, rfl⟩ := List.mem_map.1 h
  rfl

/-- The plan of the selected kind builds its buttons from the sections that the kind reads. -/
theorem reads_plan (catalog : Catalog) (host : Host) (view : KindView) (root : Document) :
    (((Compiler.builtin catalog host).kindOf root).plan view root).Reads (buttonParts root) := by
  rw [kindOf_builtin]
  unfold buttonParts
  split
  case h_1 =>
    have h := Plan.Reads.slot (root.part? "exit_button") .acknowledge
      fun exit ↦ .finish (.notice exit)
    simpa [notice] using h
  case h_2 =>
    refine reads_buildAll (fun buttons ↦ ?_) _
    split
    · exact .note _ (reads_finishGrid root _)
    · exact reads_finishGrid root buttons
  case h_3 =>
    refine .slot _ .confirm fun confirm ↦ ?_
    have h := Plan.Reads.slot ((root.part? "buttons").bind (·.part? "cancel")) .cancel
      fun cancel ↦ .finish (.confirmation confirm cancel)
    simpa using h

end Kind

end DialogKit
