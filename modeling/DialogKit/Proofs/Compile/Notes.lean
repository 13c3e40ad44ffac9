import DialogKit.Proofs.Compile.Trail

/-!
# What a compilation notes

Compiling a dialog notes events on the way: its own, those of its parts and those of the dialogs
that its buttons show. `Log.Notes` says that all of them have a property, whatever the compilation
comes to. With it the events of a dialog are told from those of others: neither a button nor the
plan of a built-in kind reports a component that is left out.
-/

namespace DialogKit

namespace Log

variable {ε α β : Type} {P : Event → Prop}

/-- Every event that is noted has the property. -/
def Notes (P : Event → Prop) (x : ExceptT ε (Journal Event) α) : Prop :=
  ∀ event ∈ x.run.notes, P event

theorem run_notes_bind (x : ExceptT ε (Journal Event) α) (f : α → ExceptT ε (Journal Event) β) :
    (x >>= f).run.notes = x.run.notes ++ match x.run.result with
      | .ok a => (f a).run.notes
      | .error _ => [] := by
  simp only [ExceptT.run_bind, Journal.notes_bind]
  cases x.run.result <;> rfl

theorem run_notes_lift (x : Logged α) :
    (ExceptT.lift x : ExceptT ε (Journal Event) α).run.notes = x.notes :=
  List.append_nil x.notes

theorem run_notes_lift_bind (x : Logged α) (f : α → ExceptT ε (Journal Event) β) :
    (ExceptT.lift x >>= f).run.notes = x.notes ++ (f x.result).run.notes := by
  rw [run_notes_bind, run_notes_lift]
  rfl

theorem notes_pure (a : α) : Notes P (pure a : ExceptT ε (Journal Event) α) := by
  rintro event ⟨⟩

theorem notes_throw (fault : ε) : Notes P (throw fault : ExceptT ε (Journal Event) α) := by
  rintro event ⟨⟩

theorem notes_lift {x : Logged α} (h : ∀ event ∈ x.notes, P event) :
    Notes P (ExceptT.lift x : ExceptT ε (Journal Event) α) :=
  fun event hevent ↦ h event (run_notes_lift (ε := ε) x ▸ hevent)

theorem Notes.bind {x : ExceptT ε (Journal Event) α} {f : α → ExceptT ε (Journal Event) β}
    (hx : Notes P x) (hf : ∀ a, Notes P (f a)) : Notes P (x >>= f) := by
  intro event hevent
  rw [run_notes_bind, List.mem_append] at hevent
  rcases hevent with hevent | hevent
  · exact hx event hevent
  · cases hresult : x.run.result with
    | error fault => simp [hresult] at hevent
    | ok a => exact hf a event (by simpa [hresult] using hevent)

theorem notes_lift_bind {x : Logged α} {f : α → ExceptT ε (Journal Event) β}
    (hx : ∀ event ∈ x.notes, P event) (hf : Notes P (f x.result)) :
    Notes P (ExceptT.lift x >>= f) := by
  intro event hevent
  rw [run_notes_lift_bind, List.mem_append] at hevent
  exact hevent.elim (hx event) (hf event)

theorem notes_report {level : Level} {target message : String} {fields : List Field}
    (h : P ⟨level, target, message, fields⟩) :
    Notes P (Compile.report level target message fields) :=
  notes_lift fun _ hevent ↦ List.mem_singleton.1 hevent ▸ h

end Log

open Log (Notes notes_pure notes_throw notes_lift notes_report)

/-! ## Reports of components that are left out -/

namespace Compile

/-- The message of an event that reports a component that is left out. -/
def skipMessage : String := "skipping dialog element"

/-- The event that reports a component that is left out of a dialog. -/
def skipEvent (dialog : String) (element : Element) (index : Nat) (skip : Skip) : Log.Event where
  level := .warn
  target := "dialog_config::compile"
  message := skipMessage
  fields := [.quoted "dialog" dialog, .quoted "element" element.name, .nat "index" index,
    .bare "reason" skip.message]

/-- The event reports a component of the dialog that is left out. -/
def skipsIn (dialog : String) (event : Log.Event) : Bool :=
  event.message == skipMessage && event.fields.head? == some (.quoted "dialog" dialog)

theorem skipsIn_skipEvent (dialog other : String) (element : Element) (index : Nat) (skip : Skip) :
    skipsIn dialog (skipEvent other element index skip) = (other == dialog) := by
  by_cases h : other = dialog <;> simp [skipsIn, skipEvent, h]

theorem skipsIn_of_message {event : Log.Event} (h : event.message ≠ skipMessage)
    (dialog : String) : skipsIn dialog event = false := by
  simp [skipsIn, h]

/-- No event reports a component of the dialog that is left out. -/
abbrev Silent {α : Type} (dialog : String) (x : CompileM α) : Prop :=
  Notes (skipsIn dialog · = false) x

theorem silent_iff {α : Type} {dialog : String} {x : CompileM α} :
    Silent dialog x ↔ x.run.notes.filter (skipsIn dialog) = [] := by
  simp [Notes, List.filter_eq_nil_iff]

section

variable {dialog : String} {catalog : Catalog} {host : Host}
  {compileTarget : String → CompileM Definition}

theorem silent_report {level : Log.Level} {target message : String} {fields : List Log.Field}
    (h : message ≠ skipMessage) : Silent dialog (report level target message fields) :=
  notes_report (skipsIn_of_message h dialog)

theorem silent_required (part : Document) (field kind : String) :
    Silent dialog (required part field kind) := by
  unfold required
  cases Component.shownText? part field with
  | some text => exact notes_pure _
  | none => exact (silent_report (by decide)).bind fun _ ↦ notes_pure _

theorem silent_showAction (htarget : ∀ target, Silent dialog (compileTarget target))
    (part : Document) : Silent dialog (showAction catalog compileTarget part) := by
  refine (silent_required part "id" "show_dialog").bind fun found ↦ ?_
  cases found with
  | none => exact notes_pure _
  | some target =>
    dsimp only
    split
    · exact (silent_report (by decide)).bind fun _ ↦ notes_pure _
    · refine (notes_lift (htarget target)).bind fun result ↦ ?_
      split
      · exact notes_pure _
      · exact notes_throw _
      · exact (silent_report (by decide)).bind fun _ ↦ notes_pure _

theorem silent_customAction (part : Document) (kind : String) :
    Silent dialog (customAction part kind) := by
  refine (silent_required part "key" kind).bind fun found ↦ ?_
  cases found with
  | none => exact notes_pure _
  | some text =>
    dsimp only
    split
    · exact notes_pure _
    · exact (silent_report (by decide)).bind fun _ ↦ notes_pure _

theorem silent_action (htarget : ∀ target, Silent dialog (compileTarget target))
    (part : Document) : Silent dialog (action catalog compileTarget part) := by
  have hrequired (field kind : String) (make : String → Action) :
      Silent dialog (do return (← required part field kind).map make) :=
    (silent_required part field kind).bind fun _ ↦ notes_pure _
  unfold action
  split
  case h_8 => exact silent_showAction htarget part
  case h_9 => exact silent_customAction part "custom"
  case h_12 => exact (silent_report (by decide)).bind fun _ ↦ notes_pure _
  all_goals first
    | exact notes_pure _
    | exact hrequired _ _ _

theorem silent_button (htarget : ∀ target, Silent dialog (compileTarget target))
    (part : Option Document) (slot : ButtonSlot) :
    Silent dialog (button catalog host compileTarget part slot) := by
  cases part with
  | none => exact notes_pure _
  | some part =>
    unfold button
    dsimp only
    cases actionPart? part with
    | some section_ => exact (silent_action htarget section_).bind fun _ ↦ notes_pure _
    | none => exact (notes_pure _).bind fun _ ↦ notes_pure _

end

end Compile

/-- The plan notes no event that reports a component that is left out, whatever buttons come of
its sections. -/
inductive Plan.SkipsNothing : Plan → Prop where
  | finish (layout : Layout) : SkipsNothing (.finish layout)
  | fail (fault : CompileFault) : SkipsNothing (.fail fault)
  | note {event : Log.Event} {next : Plan} : event.message ≠ Compile.skipMessage →
      SkipsNothing next → SkipsNothing (.note event next)
  | button (part : Option Document) (slot : ButtonSlot) {next : Button → Plan} :
      (∀ button, SkipsNothing (next button)) → SkipsNothing (.button part slot next)

/-- Leaving components out is not the business of the kinds in the set. -/
def KindSet.SkipNothing (set : KindSet) : Prop :=
  ∀ name kind, set.get? name = some kind → ∀ view root, (kind.plan view root).SkipsNothing

namespace Kind

theorem skipsNothing_buildAll {next : List Button → Plan}
    (h : ∀ buttons, (next buttons).SkipsNothing) (parts : List Document) :
    (buildAll parts next).SkipsNothing := by
  induction parts generalizing next with
  | nil => exact h []
  | cons part parts ih =>
    exact .button _ _ fun button ↦ ih fun buttons ↦ h (button :: buttons)

theorem skipsNothing_finishGrid (root : Document) (buttons : List Button) :
    (finishGrid root buttons).SkipsNothing := by
  unfold finishGrid
  cases root.part? "exit_button" with
  | none => exact .finish _
  | some part => exact .button _ _ fun _ ↦ .finish _

theorem skipsNothing_confirmation (view : KindView) (root : Document) :
    (confirmation.plan view root).SkipsNothing :=
  .button _ _ fun _ ↦ .button _ _ fun _ ↦ .finish _

theorem skipsNothing_notice (view : KindView) (root : Document) :
    (notice.plan view root).SkipsNothing :=
  .button _ _ fun _ ↦ .finish _

theorem skipsNothing_multiAction (view : KindView) (root : Document) :
    (multiAction.plan view root).SkipsNothing := by
  refine skipsNothing_buildAll (fun buttons ↦ ?_) _
  split
  · exact .note (by decide) (skipsNothing_finishGrid root _)
  · exact skipsNothing_finishGrid root buttons

end Kind

theorem KindSet.skipNothing_builtin : KindSet.builtin.result.SkipNothing := by
  intro name kind hget
  obtain rfl | rfl | rfl := eq_of_get?_builtin hget
  · exact Kind.skipsNothing_confirmation
  · exact Kind.skipsNothing_notice
  · exact Kind.skipsNothing_multiAction

namespace Compiler

open Compile (Silent skipsIn)

theorem silent_runPlan {c : Compiler} {compileTarget : String → CompileM Definition}
    {dialog : String} (htarget : ∀ target, Silent dialog (compileTarget target)) {plan : Plan}
    (hplan : plan.SkipsNothing) : Silent dialog (c.runPlan compileTarget plan) := by
  induction hplan with
  | finish layout => exact notes_pure _
  | fail fault => exact notes_throw _
  | note hmessage _ ih =>
    refine (notes_lift fun _ hevent ↦ ?_).bind fun _ ↦ ih
    exact List.mem_singleton.1 hevent ▸ Compile.skipsIn_of_message hmessage dialog
  | button part slot _ ih => exact (Compile.silent_button htarget part slot).bind ih

theorem message_of_notes_resolve {set : KindSet} {name : String} {event : Log.Event}
    (h : event ∈ (set.resolve name).notes) :
    event.message = "unsupported dialog type, using confirmation" := by
  unfold KindSet.resolve at h
  cases hget : set.get? name with
  | some kind => simp [hget] at h
  | none =>
    rw [hget] at h
    exact List.mem_singleton.1 h ▸ rfl

end Compiler

end DialogKit
