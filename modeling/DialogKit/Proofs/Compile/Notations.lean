import DialogKit.Proofs.Compile.Outcome
import DialogKit.Proofs.Document.Paths
import DialogKit.Proofs.Text.Casing
import DialogKit.Component.Body
import DialogKit.Compile.Parts

/-!
# Notations of components and buttons

The type of a component or of an action may be written in any case, and an action that only has a
type may be written as the type alone. Whichever notation is used, the component is built and the
button is compiled in the same way, down to what is reported.
-/

namespace DialogKit

open Document (str str? nat32 nat32? int? float float? list? items part? value?_set_of_ne
  value?_set_self value?_of_dotless)

/-- The type of a section is written in another case. -/
inductive Document.Retypes (part : Document) : Document → Prop where
  | mk {kind other : String} (written : part.entry? "type" = some (.str kind))
      (same : Text.SameLetters kind other) : Retypes part (part.set "type" (.str other))

namespace Document.Retypes

variable {part part' : Document}

theorem value?_eq (h : part.Retypes part') {path : String}
    (hpath : (Text.split '.' path).head? ≠ some "type") : part'.value? path = part.value? path := by
  obtain ⟨_, _⟩ := h
  exact value?_set_of_ne _ hpath

theorem exists_type (h : part.Retypes part') : ∃ kind other, part.str? "type" = some kind ∧
    part'.str? "type" = some other ∧ Text.lower other = Text.lower kind := by
  obtain ⟨hwritten, hsame⟩ := h
  refine ⟨_, _, ?_, ?_, hsame.symm.lower_eq⟩
  · rw [str?, value?_of_dotless (by decide), hwritten]
    rfl
  · rw [str?, value?_set_self _ (by decide)]
    rfl

theorem lower_type (h : part.Retypes part') (default : String) :
    Text.lower (part'.str "type" default) = Text.lower (part.str "type" default) := by
  obtain ⟨kind, other, hkind, hother, hsame⟩ := h.exists_type
  rw [str, str, hkind, hother]
  exact hsame

end Document.Retypes

/-! ## Components -/

namespace Component

variable {part part' : Document}

theorem inputKind_of_retypes (h : part.Retypes part') (id : String) (host : Host) :
    inputKind part' id host = inputKind part id host := by
  unfold inputKind booleanInput stringOnly rangeInput textInput multiline? choiceInput shownText?
  rw [h.lower_type]
  simp (disch := decide) only [str, str?, Document.bool, Document.bool?, nat32, nat32?, int?,
    float, float?, list?, items, part?, h.value?_eq]
  rfl

theorem input_of_retypes (h : part.Retypes part') (host : Host) :
    input part' host = input part host := by
  unfold input label rawLabel shownText?
  simp (disch := decide) only [str, str?, h.value?_eq, inputKind_of_retypes h]
  rfl

theorem body_of_retypes (h : part.Retypes part') (host : Host) :
    body part' host = body part host := by
  obtain ⟨kind, other, hkind, hother, hsame⟩ := h.exists_type
  unfold body messageBody itemBody displayText? lore shownText?
  rw [hkind, hother]
  dsimp only
  rw [hsame]
  simp (disch := decide) only [str, str?, Document.bool, Document.bool?, nat32, nat32?, int?,
    list?, h.value?_eq]

end Component

/-! ## Buttons -/

/-- The action of a button section is written in another notation. -/
inductive Document.RewritesButton (part : Document) : Document → Prop where
  /-- A string stands for a map with only a type. -/
  | spelledOut {kind : String} (written : part.entry? "action" = some (.str kind)) :
      RewritesButton part (part.set "action" (.map [("type", .str kind)]))
  | retyped {section_ section' : Document}
      (written : part.entry? "action" = some section_.toValue)
      (retypes : section_.Retypes section') :
      RewritesButton part (part.set "action" section'.toValue)

/-- The two sections make the same button in every slot, whatever their actions show. -/
def Document.ActsAlike (part part' : Document) : Prop :=
  ∀ catalog host compileTarget slot,
    Compile.button catalog host compileTarget (some part') slot =
      Compile.button catalog host compileTarget (some part) slot

theorem Document.ActsAlike.refl (part : Document) : part.ActsAlike part :=
  fun _ _ _ _ ↦ rfl

namespace Compile

variable {part part' : Document}

theorem action_of_retypes (h : part.Retypes part') (catalog : Catalog)
    (compileTarget : String → CompileM Definition) :
    action catalog compileTarget part' = action catalog compileTarget part := by
  unfold action showAction customAction required Component.shownText?
  rw [h.lower_type]
  simp (disch := decide) only [str?, h.value?_eq]

theorem sectionAction_of_rewrites (h : part.RewritesButton part') (catalog : Catalog)
    (compileTarget : String → CompileM Definition) :
    sectionAction catalog compileTarget part' = sectionAction catalog compileTarget part := by
  unfold sectionAction actionPart?
  cases h with
  | spelledOut hwritten =>
    rw [value?_set_self _ (by decide), value?_of_dotless (by decide), hwritten]
    rfl
  | retyped hwritten hretypes =>
    rw [value?_set_self _ (by decide), value?_of_dotless (by decide), hwritten]
    exact action_of_retypes hretypes catalog compileTarget

theorem button_some (catalog : Catalog) (host : Host)
    (compileTarget : String → CompileM Definition) (part : Document) (slot : ButtonSlot) :
    button catalog host compileTarget (some part) slot =
      sectionAction catalog compileTarget part >>= fun found ↦
        pure (dressed host part slot found) := by
  unfold button sectionAction
  dsimp only
  cases actionPart? part <;> rfl

/-- The other notation of an action makes no other button. -/
theorem actsAlike_of_rewrites (h : part.RewritesButton part') : part.ActsAlike part' := by
  intro catalog host compileTarget slot
  have hvalue {path : String} (hpath : (Text.split '.' path).head? ≠ some "action") :
      part'.value? path = part.value? path := by
    cases h <;> exact value?_set_of_ne _ hpath
  have hdressed : dressed host part' slot = dressed host part slot := by
    unfold dressed
    simp (disch := decide) only [str, str?, nat32, nat32?, int?, hvalue]
  rw [button_some, button_some, sectionAction_of_rewrites h, hdressed]

end Compile

end DialogKit
