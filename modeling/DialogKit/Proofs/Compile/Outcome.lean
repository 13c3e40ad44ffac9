import DialogKit.Compile.Action

/-!
# Outcomes of compiling a button

What a compilation comes to, without the events that it reports on the way. The outcome of a button
depends on the compilation of other dialogs in one case only: its action is a map of the type
`show_dialog` that names a dialog of the catalog. In every other case the button is built, and it
shows no dialog.
-/

namespace DialogKit

namespace CompileM

variable {α β : Type}

def outcome (x : CompileM α) : Except CompileFault α :=
  x.run.result

@[simp] theorem outcome_pure (a : α) : outcome (pure a) = .ok a := rfl

@[simp] theorem outcome_throw (fault : CompileFault) :
    outcome (throw fault : CompileM α) = .error fault := rfl

@[simp] theorem outcome_lift (x : Logged α) : outcome (ExceptT.lift x) = .ok x.result := rfl

@[simp] theorem outcome_report (level : Log.Level) (target message : String)
    (fields : List Log.Field) : outcome (Compile.report level target message fields) = .ok () := rfl

theorem outcome_bind (x : CompileM α) (f : α → CompileM β) :
    outcome (x >>= f) = (outcome x).bind fun a ↦ outcome (f a) := by
  simp only [outcome, ExceptT.run_bind, Journal.result_bind]
  cases x.run.result <;> rfl

theorem outcome_bind_ok {x : CompileM α} {a : α} (h : outcome x = .ok a) (f : α → CompileM β) :
    outcome (x >>= f) = outcome (f a) := by
  rw [outcome_bind, h]
  rfl

theorem outcome_bind_eq_ok {x : CompileM α} {f : α → CompileM β} {b : β} :
    outcome (x >>= f) = .ok b ↔ ∃ a, outcome x = .ok a ∧ outcome (f a) = .ok b := by
  rw [outcome_bind]
  cases outcome x <;> simp [Except.bind]

theorem map_eq_ok {ε : Type} {x : Except ε α} {f : α → β} {b : β} :
    x.map f = .ok b ↔ ∃ a, x = .ok a ∧ f a = b := by
  cases x <;> simp [Except.map]

theorem map_eq_error {ε : Type} {x : Except ε α} {f : α → β} {fault : ε} :
    x.map f = .error fault ↔ x = .error fault := by
  cases x <;> simp [Except.map]

end CompileM

namespace Compile

open CompileM

/-- The action of a button section is a map of the type `show_dialog`, in any case, whose id is a
scalar with the given text; blank text names no dialog. -/
def Names (part : Document) (target : String) : Prop :=
  ∃ (entries : List (String × Value)) (kind : String),
    part.value? "action" = some (.map entries) ∧
    (Document.mk entries).str? "type" = some kind ∧ Text.lower kind = "show_dialog" ∧
    (Document.mk entries).str? "id" = some target ∧ Text.isBlankText target = false

theorem Names.unique {part : Document} {a b : String} (ha : Names part a) (hb : Names part b) :
    a = b := by
  obtain ⟨entries, _, haction, _, _, hid, _⟩ := ha
  obtain ⟨entries', _, haction', _, _, hid', _⟩ := hb
  rw [haction] at haction'
  obtain rfl : entries = entries' := by simpa using haction'
  rw [hid] at hid'
  simpa using hid'

/-- An action that shows no dialog, or no action. -/
def IsPlain (found : Option Action) : Prop :=
  ∀ target dialog, found ≠ some (.showDialog target dialog)

theorem isPlain_none : IsPlain none := by
  intro _ _
  simp

theorem outcome_required (part : Document) (field kind : String) :
    outcome (required part field kind) = .ok (Component.shownText? part field) := by
  unfold required
  cases Component.shownText? part field <;> rfl

/-- The actions that only need a text never depend on another dialog. -/
theorem outcome_required_map (part : Document) (field kind : String) (make : String → Action) :
    outcome (do return (← required part field kind).map make) =
      .ok ((Component.shownText? part field).map make) := by
  rw [outcome_bind_ok (outcome_required part field kind)]
  rfl

theorem isPlain_map {make : String → Action}
    (hmake : ∀ text target dialog, make text ≠ .showDialog target dialog) (text : Option String) :
    IsPlain (text.map make) := by
  intro target dialog h
  obtain ⟨_, _, hshow⟩ := Option.map_eq_some_iff.1 h
  exact hmake _ _ _ hshow

/-- The action that a section makes without a look at another dialog. -/
def ownAction (part : Document) : Option Action :=
  match Text.lower (part.str "type" "return") with
  | "close" => some .close
  | "return" => some .goBack
  | "copy_to_clipboard" => (Component.shownText? part "text").map .copyToClipboard
  | "open_url" => (Component.shownText? part "url").map .openUrl
  | "run_command" => (Component.shownText? part "command").map (.runCommand · .player)
  | "console_command" => (Component.shownText? part "command").map (.runCommand · .console)
  | "suggest_command" => (Component.shownText? part "command").map .suggestCommand
  | "custom" =>
      (Component.shownText? part "key").bind fun text ↦ (Key.parse? text).toOption.map .custom
  | _ => none

theorem isPlain_ownAction (part : Document) : IsPlain (ownAction part) := by
  unfold ownAction
  split
  case h_8 =>
    intro target dialog h
    obtain ⟨_, _, hcustom⟩ := Option.bind_eq_some_iff.1 h
    obtain ⟨_, _, hshow⟩ := Option.map_eq_some_iff.1 hcustom
    simp at hshow
  all_goals first
    | exact isPlain_none
    | exact isPlain_map (by intro _ _ _; simp) _
    | (intro _ _; simp)

theorem ownAction_of_show {part : Document}
    (h : Text.lower (part.str "type" "return") = "show_dialog") : ownAction part = none := by
  unfold ownAction
  rw [h]
  rfl

theorem outcome_customAction (part : Document) (kind : String) :
    outcome (customAction part kind) = .ok ((Component.shownText? part "key").bind fun text ↦
      (Key.parse? text).toOption.map .custom) := by
  unfold customAction
  rw [outcome_bind_ok (outcome_required part "key" kind)]
  cases Component.shownText? part "key" with
  | none => rfl
  | some text =>
    dsimp only [Option.bind_some]
    cases Key.parse? text <;> rfl

/-- An action of another type than `show_dialog` never depends on another dialog. -/
theorem outcome_action_of_ne {part : Document}
    (h : Text.lower (part.str "type" "return") ≠ "show_dialog") (catalog : Catalog)
    (compileTarget : String → CompileM Definition) :
    outcome (action catalog compileTarget part) = .ok (ownAction part) := by
  unfold action ownAction
  generalize Text.lower (part.str "type" "return") = kind at h
  split
  case h_8 => contradiction
  case h_9 => exact outcome_customAction part "custom"
  case h_12 => split <;> first | contradiction | rfl
  all_goals first
    | exact outcome_pure _
    | exact outcome_required_map ..

/-- What becomes of the action that shows a dialog, once the dialog is compiled: only a cycle goes
up to the dialog that has the button. -/
def shownAs (target : String) : Except CompileFault Definition → Except CompileFault (Option Action)
  | .ok dialog => .ok (some (.showDialog target dialog))
  | .error (.cycle chain) => .error (.cycle chain)
  | .error _ => .ok none

theorem outcome_showAction_of_contains {catalog : Catalog} {part : Document} {target : String}
    (htarget : Component.shownText? part "id" = some target) (hcontains : catalog.contains target)
    (compileTarget : String → CompileM Definition) :
    outcome (showAction catalog compileTarget part) =
      shownAs target (outcome (compileTarget target)) := by
  unfold showAction
  rw [outcome_bind_ok ((outcome_required part "id" "show_dialog").trans (by rw [htarget]))]
  simp only [hcontains, Bool.not_true, Bool.false_eq_true, if_false]
  have hrun : outcome (ExceptT.lift (ExceptT.run (compileTarget target))) =
      .ok (outcome (compileTarget target)) := outcome_lift _
  rw [outcome_bind_ok hrun]
  cases outcome (compileTarget target) with
  | ok dialog => rfl
  | error fault => cases fault <;> rfl

theorem outcome_showAction_of_not_contains {catalog : Catalog} {part : Document}
    (h : ∀ target, Component.shownText? part "id" = some target → catalog.contains target = false)
    (compileTarget : String → CompileM Definition) :
    outcome (showAction catalog compileTarget part) = .ok none := by
  unfold showAction
  rw [outcome_bind_ok (outcome_required part "id" "show_dialog")]
  cases htarget : Component.shownText? part "id" with
  | none => rfl
  | some target =>
    simp only [h target htarget, Bool.not_false, if_true]
    rfl

theorem action_of_show {part : Document} (h : Text.lower (part.str "type" "return") = "show_dialog")
    (catalog : Catalog) (compileTarget : String → CompileM Definition) :
    action catalog compileTarget part = showAction catalog compileTarget part := by
  unfold action
  rw [h]
  rfl

/-- The type of an action only reads as `show_dialog` where it is written. -/
theorem lower_type_eq_show {part : Document} :
    Text.lower (part.str "type" "return") = "show_dialog" ↔
      ∃ kind, part.str? "type" = some kind ∧ Text.lower kind = "show_dialog" := by
  have hreturn : Text.lower "return" ≠ "show_dialog" := by decide
  unfold Document.str
  cases part.str? "type" with
  | none => simp [hreturn]
  | some kind => simp

theorem shownText?_eq_some {part : Document} {path text : String} :
    Component.shownText? part path = some text ↔
      part.str? path = some text ∧ Text.isBlankText text = false := by
  simp [Component.shownText?, Option.filter_eq_some_iff]

/-- A section that stands for a string has no id, so an action with an id is written as a map. -/
theorem value?_action_of_id {part section_ : Document} {id : String}
    (hpart : actionPart? part = some section_) (hid : section_.str? "id" = some id) :
    part.value? "action" = some (.map section_.entries) := by
  unfold actionPart? at hpart
  split at hpart
  case h_1 entries haction =>
    obtain rfl := Option.some.inj hpart
    exact haction
  case h_2 kind haction =>
    obtain rfl := Option.some.inj hpart
    have hnone : (Document.empty.set "type" (.str kind)).str? "id" = none := rfl
    simp [hnone] at hid
  case h_3 => simp at hpart

/-- A button with the given action, as a section dresses it. -/
def dressed (host : Host) (part : Document) (slot : ButtonSlot) (found : Option Action) :
    Button where
  text := host.format (part.str "text" slot.text)
  description := host.format (part.str "description" slot.description)
  width := part.nat32 "width" slot.width
  action := found

/-- The action of a button section; without one the button returns to the screen before. -/
def sectionAction (catalog : Catalog) (compileTarget : String → CompileM Definition)
    (part : Document) : CompileM (Option Action) :=
  match actionPart? part with
  | some section_ => action catalog compileTarget section_
  | none => pure (some .goBack)

theorem outcome_button_none (catalog : Catalog) (host : Host)
    (compileTarget : String → CompileM Definition) (slot : ButtonSlot) :
    outcome (button catalog host compileTarget none slot) = .ok slot.plainButton := rfl

theorem outcome_button_some (catalog : Catalog) (host : Host)
    (compileTarget : String → CompileM Definition) (part : Document) (slot : ButtonSlot) :
    outcome (button catalog host compileTarget (some part) slot) =
      (outcome (sectionAction catalog compileTarget part)).map (dressed host part slot) := by
  unfold button sectionAction
  dsimp only
  cases actionPart? part with
  | none => rfl
  | some section_ =>
    dsimp only
    rw [outcome_bind]
    cases outcome (action catalog compileTarget section_) <;> rfl

/-- The action of a section that names a dialog of the catalog. -/
theorem outcome_sectionAction_of_names {catalog : Catalog} {part : Document} {target : String}
    (h : Names part target) (hcontains : catalog.contains target)
    (compileTarget : String → CompileM Definition) :
    outcome (sectionAction catalog compileTarget part) =
      shownAs target (outcome (compileTarget target)) := by
  obtain ⟨entries, kind, haction, htype, hkind, hid, hblank⟩ := h
  have hpart : actionPart? part = some ⟨entries⟩ := by
    simp only [actionPart?, haction]
  unfold sectionAction
  rw [hpart]
  dsimp only
  rw [action_of_show (lower_type_eq_show.2 ⟨kind, htype, hkind⟩)]
  exact outcome_showAction_of_contains (shownText?_eq_some.2 ⟨hid, hblank⟩) hcontains _

/-- The action of a button section that shows no dialog of the catalog. -/
def plainAction (part : Document) : Option Action :=
  match actionPart? part with
  | some section_ => ownAction section_
  | none => some .goBack

theorem isPlain_plainAction (part : Document) : IsPlain (plainAction part) := by
  unfold plainAction
  split
  · exact isPlain_ownAction _
  · intro _ _
    simp

/-- Every other section has its action without a look at another dialog, and shows none. -/
theorem outcome_sectionAction_of_not_names {catalog : Catalog} {part : Document}
    (h : ∀ target, Names part target → catalog.contains target = false)
    (compileTarget : String → CompileM Definition) :
    outcome (sectionAction catalog compileTarget part) = .ok (plainAction part) := by
  unfold sectionAction plainAction
  cases hpart : actionPart? part with
  | none => rfl
  | some section_ =>
    dsimp only
    by_cases hshow : Text.lower (section_.str "type" "return") = "show_dialog"
    · rw [action_of_show hshow, ownAction_of_show hshow]
      refine outcome_showAction_of_not_contains (fun target htarget ↦ ?_) compileTarget
      obtain ⟨kind, htype, hkind⟩ := lower_type_eq_show.1 hshow
      obtain ⟨hid, hblank⟩ := shownText?_eq_some.1 htarget
      exact h target
        ⟨section_.entries, kind, value?_action_of_id hpart hid, htype, hkind, hid, hblank⟩
    · exact outcome_action_of_ne hshow catalog compileTarget

/-- The action of a section either comes from the one dialog that it names, or depends on none. -/
theorem outcome_sectionAction_cases (catalog : Catalog) (part : Document) :
    (∃ target, Names part target ∧ catalog.contains target ∧ ∀ compileTarget,
      outcome (sectionAction catalog compileTarget part) =
        shownAs target (outcome (compileTarget target))) ∨
    ((∀ target, Names part target → catalog.contains target = false) ∧ ∀ compileTarget,
      outcome (sectionAction catalog compileTarget part) = .ok (plainAction part)) := by
  by_cases h : ∃ target, Names part target ∧ catalog.contains target
  · obtain ⟨target, hnames, hcontains⟩ := h
    exact .inl ⟨target, hnames, hcontains, outcome_sectionAction_of_names hnames hcontains⟩
  · have hnone (target : String) (hnames : Names part target) :
        catalog.contains target = false :=
      Bool.eq_false_iff.2 fun hcontains ↦ h ⟨target, hnames, hcontains⟩
    exact .inr ⟨hnone, outcome_sectionAction_of_not_names hnone⟩

end Compile

end DialogKit
