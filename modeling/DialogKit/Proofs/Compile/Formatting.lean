import DialogKit.Proofs.Compile.Inputs
import DialogKit.Proofs.Definition.Formatting
import Mathlib.Data.Set.Basic

/-!
# Formatting while compiling

The formatter of a host only makes display texts. Which parts of a dialog are built, which actions
its buttons have and which faults there are is decided on the texts as they are written. So a
compilation comes to the same with every formatter, up to the display texts.
-/

namespace DialogKit

open CompileM

/-- The host with another formatter. -/
def Host.formatting (host : Host) (f : Formatter) : Host :=
  { host with format := f }

theorem forall₂_filterMap {α β γ : Type} {R : β → γ → Prop} {g : α → Option β} {g' : α → Option γ}
    (h : ∀ item, Option.Rel R (g item) (g' item)) (items : List α) :
    List.Forall₂ R (items.filterMap g) (items.filterMap g') := by
  have hlift : Relator.LiftFun Eq (Option.Rel R) g g' := by
    rintro item _ rfl
    exact h item
  exact List.rel_filterMap hlift (List.forall₂_refl items)

/-! ## Components -/

namespace Component

section

variable (f : Formatter) (host : Host) (part : Document)

theorem mayShow_label (id : String) :
    f.MayShow (label part id (host.formatting .plain)) (label part id (host.formatting f)) := by
  unfold label
  dsimp only
  split
  · exact f.mayShow_self id
  · exact f.mayShow_format _

theorem mayShow_displayText? (path : String) :
    Option.Rel f.MayShow (displayText? part (host.formatting .plain) path)
      (displayText? part (host.formatting f) path) := by
  unfold displayText?
  cases shownText? part path with
  | none => exact .none
  | some text => exact .some (f.mayShow_format text)

theorem mayShow_lore : List.Forall₂ f.MayShow (lore part (host.formatting .plain))
    (lore part (host.formatting f)) := by
  unfold lore
  rw [List.forall₂_map_left_iff, List.forall₂_map_right_iff, List.forall₂_same]
  exact fun text _ ↦ f.mayShow_format text

theorem agree_itemBody : Agree (BodyElement.Formatted f) (itemBody part (host.formatting .plain))
    (itemBody part (host.formatting f)) := by
  unfold itemBody Host.formatting
  dsimp only
  cases host.materials (part.str "material" "STONE") with
  | none => exact .error _
  | some material =>
    have hname := mayShow_displayText? f host part "display_name"
    have hdescription := mayShow_displayText? f host part "description"
    exact .ok (.item _ _ _ _ _ _ hname (mayShow_lore f host part) hdescription)

theorem agree_body : Agree (BodyElement.Formatted f) (body part (host.formatting .plain))
    (body part (host.formatting f)) := by
  unfold body
  cases part.str? "type" with
  | none => exact .error _
  | some kind =>
    dsimp only
    split
    · exact .ok (.message _ (f.mayShow_format _))
    · exact agree_itemBody f host part
    · exact .error _

theorem formatted_choice? (item : ListItem) :
    Option.Rel (Choice.Formatted f) (choice? (host.formatting .plain) item)
      (choice? (host.formatting f) item) := by
  unfold choice?
  split
  case h_1 text => exact .some (.mk text false (f.mayShow_format text))
  case h_2 => exact .none
  case h_3 entry =>
    cases shownText? entry "id" with
    | none => exact .none
    | some value => exact .some (.mk value _ (f.mayShow_format _))

theorem agree_choiceInput : Agree (InputKind.Formatted f)
    (choiceInput part (host.formatting .plain)) (choiceInput part (host.formatting f)) := by
  have hchoices := forall₂_filterMap (formatted_choice? f host) (part.items "entries")
  unfold choiceInput
  generalize (part.items "entries").filterMap (choice? (host.formatting .plain)) = choices at *
  generalize (part.items "entries").filterMap (choice? (host.formatting f)) = choices' at *
  cases hchoices with
  | nil => exact .error _
  | cons hfirst hrest => exact .ok (.singleOption _ _ (.cons hfirst hrest))

theorem agree_inputKind (id : String) : Agree (InputKind.Formatted f)
    (inputKind part id (host.formatting .plain)).run.result
    (inputKind part id (host.formatting f)).run.result := by
  unfold inputKind
  split
  case h_1 => exact .ok (.same _)
  case h_2 => exact Agree.of_forall_ok fun kind _ ↦ .same kind
  case h_3 => exact .ok (.same _)
  case h_4 => exact agree_choiceInput f host part
  case h_5 => exact .error _

theorem agree_built : Agree (Input.Formatted f) (built part (host.formatting .plain))
    (built part (host.formatting f)) := by
  cases hid : shownText? part "id" with
  | none =>
    rw [built_of_missing hid, built_of_missing hid]
    exact .error _
  | some id =>
    rw [built_of_id hid, built_of_id hid]
    exact (agree_inputKind f host part id).map fun kind kind' hkind ↦
      .mk id (mayShow_label f host part id) hkind

end

end Component

/-! ## The parts of a dialog -/

namespace Compile

/-- The element that an entry makes, if it is a map and the element is built. -/
def bodyOf? (host : Host) (entry : Value) : Option BodyElement :=
  (Document.ofValue? entry).bind fun part ↦ (Component.body part host).toOption

theorem result_bodiesFrom (dialog : String) (host : Host) (index : Nat) (entries : List Value) :
    (bodiesFrom dialog host index (entries.map Document.itemOf)).result =
      entries.filterMap (bodyOf? host) := by
  induction entries generalizing index with
  | nil => rfl
  | cons entry rest ih =>
    cases hpart : Document.itemOf entry with
    | scalar value =>
      have hentry : bodyOf? host entry = none := by
        rw [bodyOf?, ← Document.part?_itemOf, hpart]
        rfl
      rw [List.map_cons, hpart, List.filterMap_cons_none hentry, bodiesFrom]
      exact ih (index + 1)
    | part part =>
      have hentry : bodyOf? host entry = (Component.body part host).toOption := by
        rw [bodyOf?, ← Document.part?_itemOf, hpart]
        rfl
      rw [List.map_cons, hpart, bodiesFrom]
      cases hbody : Component.body part host with
      | error skip =>
        rw [hbody] at hentry
        rw [List.filterMap_cons_none hentry]
        exact ih (index + 1)
      | ok element =>
        rw [hbody] at hentry
        rw [List.filterMap_cons_some hentry]
        exact congrArg (element :: ·) (ih (index + 1))

theorem result_bodies (dialog : String) (host : Host) (root : Document) :
    (bodies dialog host root).result =
      ((root.list? "bodies").getD []).filterMap (bodyOf? host) :=
  result_bodiesFrom dialog host 0 _

section

variable (f : Formatter) (host : Host)

theorem formatted_bodies (dialog : String) (root : Document) :
    List.Forall₂ (BodyElement.Formatted f)
      (bodies dialog (host.formatting .plain) root).result
      (bodies dialog (host.formatting f) root).result := by
  rw [result_bodies, result_bodies]
  apply forall₂_filterMap
  intro entry
  unfold bodyOf?
  cases Document.ofValue? entry with
  | none => exact .none
  | some part => exact (Component.agree_body f host part).toOption

/-- Which inputs are kept only depends on their ids. -/
theorem formatted_firstOfEach {inputs inputs' : List Input}
    (h : List.Forall₂ (Input.Formatted f) inputs inputs') (taken : List String) :
    List.Forall₂ (Input.Formatted f) (firstOfEach taken inputs) (firstOfEach taken inputs') := by
  induction h generalizing taken with
  | nil => exact .nil
  | cons hfirst _ ih =>
    obtain ⟨id, hlabel, hkind⟩ := hfirst
    unfold firstOfEach
    dsimp only
    split
    · exact ih taken
    · exact .cons (.mk id hlabel hkind) (ih _)

theorem formatted_inputs (dialog : String) (root : Document) :
    List.Forall₂ (Input.Formatted f)
      (inputs dialog (host.formatting .plain) root).result
      (inputs dialog (host.formatting f) root).result := by
  rw [result_inputs, result_inputs]
  apply formatted_firstOfEach
  apply forall₂_filterMap
  intro entry
  unfold inputOf?
  cases Document.ofValue? entry with
  | none => exact .none
  | some part => exact (Component.agree_built f host part).toOption

theorem formatted_dressed (part : Document) (slot : ButtonSlot) {found found' : Option Action}
    (h : Option.Rel (Action.Formatted f) found found') :
    (dressed (host.formatting .plain) part slot found).Formatted f
      (dressed (host.formatting f) part slot found') :=
  .mk _ (f.mayShow_format _) (f.mayShow_format _) h

theorem agree_shownAs (target : String) {x y : Except CompileFault Definition}
    (h : Agree (Definition.Formatted f) x y) :
    Agree (Option.Rel (Action.Formatted f)) (shownAs target x) (shownAs target y) := by
  cases h with
  | ok hdialog => exact .ok (.some (.showDialog target hdialog))
  | error fault =>
    cases fault with
    | cycle chain => exact .error _
    | notFound id => exact .ok .none
    | disabled id => exact .ok .none

theorem agree_button (catalog : Catalog)
    {compileTarget compileTarget' : String → CompileM Definition}
    (htarget : ∀ target, Agree (Definition.Formatted f) (outcome (compileTarget target))
      (outcome (compileTarget' target))) (part : Option Document) (slot : ButtonSlot) :
    Agree (Button.Formatted f)
      (outcome (button catalog (host.formatting .plain) compileTarget part slot))
      (outcome (button catalog (host.formatting f) compileTarget' part slot)) := by
  cases part with
  | none => exact .ok (slot.plainButton.formatted_self f)
  | some part =>
    rw [outcome_button_some, outcome_button_some]
    have hfound : Agree (Option.Rel (Action.Formatted f))
        (outcome (sectionAction catalog compileTarget part))
        (outcome (sectionAction catalog compileTarget' part)) := by
      rcases outcome_sectionAction_cases catalog part with
        ⟨target, _, _, hshown⟩ | ⟨_, hplain⟩
      · rw [hshown, hshown]
        exact agree_shownAs f target (htarget target)
      · rw [hplain, hplain]
        cases plainAction part with
        | none => exact .ok .none
        | some action => exact .ok (.some (.same action))
    exact hfound.map fun _ _ ↦ formatted_dressed f host part slot

end

end Compile

namespace Compiler

section

variable (catalog : Catalog) (host : Host) (f : Formatter)

theorem formatted_assembled (id : String) (root : Document) {layout layout' : Layout}
    (h : layout.Made (Button.Formatted f) layout') :
    ((builtin catalog (host.formatting .plain)).assembled id root layout).Formatted f
      ((builtin catalog (host.formatting f)).assembled id root layout') :=
  .mk id _ (f.mayShow_format _) (f.mayShow_format _) (Compile.formatted_bodies f host id root)
    (Compile.formatted_inputs f host id root) h

/-- A dialog is compiled with plain texts, and compiled with a formatter. -/
theorem formatted_compile (id : String) : Agree (Definition.Formatted f)
    (outcome ((builtin catalog (host.formatting .plain)).compile id))
    (outcome ((builtin catalog (host.formatting f)).compile id)) := by
  have hroot : (builtin catalog (host.formatting .plain)).catalog.root? id =
      (builtin catalog (host.formatting f)).catalog.root? id := rfl
  apply agree_compile hroot
  apply agree_dialog (fun _ _ ↦ rfl) (fun button _ ↦ button.formatted_self f) _ _ []
    (Set.mem_univ id)
  · intro _ _ _ _ compileTarget compileTarget' htarget part slot _
    exact Compile.agree_button f host catalog (fun target ↦ htarget target trivial) part slot
  · intro id root layout layout' hmade
    exact formatted_assembled catalog host f id root hmade

end

end Compiler

end DialogKit
