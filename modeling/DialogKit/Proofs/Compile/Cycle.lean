import DialogKit.Proofs.Compile.Plan
import Mathlib.Logic.Relation

/-!
# Cycles of dialogs

A dialog shows another one when a button that its kind reads names that dialog and the catalog has
it. Compiling a dialog fails with a cycle exactly when showing leads from it to a dialog that leads
back to itself. This holds for every catalog: a target reached twice on different ways is no cycle,
and no faulty part of a dialog hides one.

On the way, compiling runs along a path of dialogs. With any path it fails exactly when showing
leads to a dialog of the path or to a cycle; `stopped_iff` is the step from a path to the next one.
-/

namespace DialogKit

open CompileM Relation

namespace Catalog

/-- A button that the kind of `a` reads names the dialog `b` of the catalog. -/
def Shows (catalog : Catalog) (a b : String) : Prop :=
  ∃ root part, catalog.root? a = some root ∧ Kind.ReadsButton root part ∧ Compile.Names part b ∧
    catalog.contains b

/-- Showing leads from the dialog to one that leads back to itself. -/
def LeadsToCycle (catalog : Catalog) (id : String) : Prop :=
  ∃ b, ReflTransGen catalog.Shows id b ∧ TransGen catalog.Shows b b

/-- The root of the dialog says that it may not be opened. -/
def Disables (catalog : Catalog) (id : String) : Prop :=
  ∃ root, catalog.root? id = some root ∧ root.value? "enabled" = some (.bool false)

/-- Showing leads from the dialog to one of a path, or to a cycle. -/
def Stopped (catalog : Catalog) (path : List String) (id : String) : Prop :=
  ∃ b, ReflTransGen catalog.Shows id b ∧ (b ∈ path ∨ TransGen catalog.Shows b b)

theorem stopped_nil {catalog : Catalog} {id : String} :
    catalog.Stopped [] id ↔ catalog.LeadsToCycle id := by
  simp [Stopped, LeadsToCycle]

/-- Off the path, a dialog is stopped exactly when one that it shows is, with the dialog itself on
the path. -/
theorem stopped_iff {catalog : Catalog} {path : List String} {id : String} (hid : id ∉ path) :
    catalog.Stopped path id ↔ ∃ target, catalog.Shows id target ∧
      catalog.Stopped (path ++ [id]) target := by
  constructor
  · rintro ⟨b, hreach, hstop⟩
    rcases hreach.cases_head with rfl | ⟨target, hshows, hrest⟩
    · have hcycle : TransGen catalog.Shows id id := hstop.resolve_left hid
      obtain ⟨target, hshows, hback⟩ := TransGen.head'_iff.1 hcycle
      exact ⟨target, hshows, id, hback, .inl (by simp)⟩
    · exact ⟨target, hshows, b, hrest, hstop.imp_left fun h ↦ by simp [h]⟩
  · rintro ⟨target, hshows, b, hrest, hstop⟩
    rcases hstop with hpath | hcycle
    · rcases List.mem_append.1 hpath with hb | hb
      · exact ⟨b, .head hshows hrest, .inl hb⟩
      · obtain rfl : b = id := by simpa using hb
        exact ⟨b, .refl, .inr (.head' hshows hrest)⟩
    · exact ⟨b, .head hshows hrest, .inr hcycle⟩

theorem isSome_root? {catalog : Catalog} {id : String} :
    (catalog.root? id).isSome = catalog.contains id := by
  simp [root?, contains]

theorem isEnabled_eq_false {catalog : Catalog} {id : String} (h : catalog.contains id) :
    catalog.isEnabled id = false ↔ catalog.Disables id := by
  rw [← isSome_root?] at h
  obtain ⟨root, hroot⟩ := Option.isSome_iff_exists.1 h
  have hbool : root.bool "enabled" true = false ↔ root.value? "enabled" = some (.bool false) := by
    unfold Document.bool Document.bool?
    cases root.value? "enabled" with
    | none => simp
    | some value => cases value <;> simp [Value.bool?]
  simp [isEnabled, Disables, hroot, hbool]

end Catalog

/-- A result that is a cycle where `P` holds and a success elsewhere. -/
def CyclesIff {α : Type} (x : Except CompileFault α) (P : Prop) : Prop :=
  (∃ chain, x = .error (.cycle chain)) ∧ P ∨ (∃ a, x = .ok a) ∧ ¬ P

namespace CyclesIff

variable {α β : Type} {x : Except CompileFault α} {P Q : Prop}

theorem congr (h : CyclesIff x P) (hpq : P ↔ Q) : CyclesIff x Q := by
  rwa [CyclesIff, ← hpq]

theorem map (h : CyclesIff x P) (f : α → β) : CyclesIff (x.map f) P := by
  rcases h with ⟨⟨chain, rfl⟩, hp⟩ | ⟨⟨a, rfl⟩, hp⟩
  · exact .inl ⟨⟨chain, rfl⟩, hp⟩
  · exact .inr ⟨⟨f a, rfl⟩, hp⟩

/-- Of two steps one after the other, either one may meet the cycle. -/
theorem bind (h : CyclesIff x P) {f : α → Except CompileFault β} (hf : ∀ a, CyclesIff (f a) Q) :
    CyclesIff (x.bind f) (P ∨ Q) := by
  rcases h with ⟨⟨chain, rfl⟩, hp⟩ | ⟨⟨a, rfl⟩, hp⟩
  · exact .inl ⟨⟨chain, rfl⟩, .inl hp⟩
  · exact (hf a).congr (by simp [hp])

/-- Whether a target met a cycle still shows in the button. -/
theorem shownAs {target : String} {x : Except CompileFault Definition} (h : CyclesIff x P) :
    CyclesIff (Compile.shownAs target x) P := by
  rcases h with ⟨⟨chain, rfl⟩, hp⟩ | ⟨⟨a, rfl⟩, hp⟩
  · exact .inl ⟨⟨chain, rfl⟩, hp⟩
  · exact .inr ⟨⟨_, rfl⟩, hp⟩

theorem error_iff (h : CyclesIff x P) : (∃ chain, x = .error (.cycle chain)) ↔ P := by
  rcases h with ⟨hx, hp⟩ | ⟨⟨a, rfl⟩, hp⟩
  · exact iff_of_true hx hp
  · simp [hp]

theorem ok_iff (h : CyclesIff x P) : (∃ a, x = .ok a) ↔ ¬ P := by
  rcases h with ⟨⟨chain, rfl⟩, hp⟩ | ⟨hx, hp⟩
  · simp [hp]
  · exact iff_of_true hx hp

theorem ne_notFound (h : CyclesIff x P) (id : String) : x ≠ .error (.notFound id) := by
  rcases h with ⟨⟨chain, rfl⟩, _⟩ | ⟨⟨a, rfl⟩, _⟩ <;> simp

theorem ne_disabled (h : CyclesIff x P) (id : String) : x ≠ .error (.disabled id) := by
  rcases h with ⟨⟨chain, rfl⟩, _⟩ | ⟨⟨a, rfl⟩, _⟩ <;> simp

end CyclesIff

namespace Compile

/-- The section names a dialog of the catalog that is not compiled because of a cycle. -/
def CutOff (catalog : Catalog) (stopped : String → Prop) (part : Document) : Prop :=
  ∃ target, Names part target ∧ catalog.contains target ∧ stopped target

section

variable {catalog : Catalog} {compileTarget : String → CompileM Definition}
  {stopped : String → Prop}

theorem cyclesIff_button (host : Host)
    (htarget : ∀ target, catalog.contains target →
      CyclesIff (outcome (compileTarget target)) (stopped target))
    (part : Document) (slot : ButtonSlot) :
    CyclesIff (outcome (button catalog host compileTarget (some part) slot))
      (CutOff catalog stopped part) := by
  rw [outcome_button_some]
  refine CyclesIff.map ?_ _
  rcases outcome_sectionAction_cases catalog part with
    ⟨target, hnames, hcontains, hshown⟩ | ⟨hnone, hplain⟩
  · have hcut : stopped target ↔ CutOff catalog stopped part := by
      constructor
      · intro hstop
        exact ⟨target, hnames, hcontains, hstop⟩
      · rintro ⟨other, hother, _, hstop⟩
        rwa [hnames.unique hother]
    rw [hshown]
    exact (htarget target hcontains).shownAs.congr hcut
  · refine .inr ⟨⟨_, hplain compileTarget⟩, ?_⟩
    rintro ⟨target, hnames, hcontains, _⟩
    simp [hnone target hnames] at hcontains

end

end Compile

namespace Compiler

theorem cyclesIff_runPlan (c : Compiler) {compileTarget : String → CompileM Definition}
    {stopped : String → Prop}
    (htarget : ∀ target, c.catalog.contains target →
      CyclesIff (outcome (compileTarget target)) (stopped target))
    {plan : Plan} {parts : List Document} (hreads : plan.Reads parts) :
    CyclesIff (outcome (c.runPlan compileTarget plan))
      (∃ part ∈ parts, Compile.CutOff c.catalog stopped part) := by
  induction hreads with
  | finish layout => exact .inr ⟨⟨layout, rfl⟩, by simp⟩
  | note event _ ih =>
    unfold runPlan
    rwa [outcome_bind_ok (outcome_lift _)]
  | plain slot _ ih =>
    unfold runPlan
    rw [outcome_bind_ok (Compile.outcome_button_none ..)]
    exact ih _
  | part part slot _ ih =>
    unfold runPlan
    rw [outcome_bind]
    have hbutton := Compile.cyclesIff_button c.host htarget part slot
    exact (hbutton.bind ih).congr (by simp)

section

variable (catalog : Catalog) (host : Host)

/-- Induction along the path: each dialog that is put on it leaves fewer dialogs off it. -/
theorem cyclesIff_dialog (path : List String) (id : String) (hid : catalog.contains id) :
    CyclesIff (outcome ((builtin catalog host).dialog path id)) (catalog.Stopped path id) := by
  induction path, id using dialog.induct (builtin catalog host) with
  | case1 path id hmem =>
    have herror := (builtin catalog host).dialog_of_mem hmem
    exact .inl ⟨⟨_, herror⟩, id, .refl, .inl hmem⟩
  | case2 path id hmem hnone =>
    have hsome := Catalog.isSome_root?.trans hid
    change catalog.root? id = none at hnone
    simp [hnone] at hsome
  | case3 path id hmem root hroot ih =>
    rw [dialog_of_root? _ hmem hroot, outcome_build]
    have hreads := Kind.reads_plan catalog host
    refine ((cyclesIff_runPlan _ ih (hreads _ root)).map _).congr ?_
    rw [Catalog.stopped_iff hmem]
    constructor
    · rintro ⟨part, hpart, target, hnames, hcontains, hstop⟩
      exact ⟨target, ⟨root, part, hroot, Kind.mem_buttonParts.1 hpart, hnames, hcontains⟩, hstop⟩
    · rintro ⟨target, ⟨root', part, hroot', hreads, hnames, hcontains⟩, hstop⟩
      obtain rfl := Option.some.inj (hroot'.symm.trans hroot)
      exact ⟨part, Kind.mem_buttonParts.2 hreads, target, hnames, hcontains, hstop⟩

/-- What compiling a dialog comes to: the dialog is unknown, or it may not be opened, or showing
leads from it to a cycle, or else it is compiled. -/
theorem compile_outcome_iff (id : String) :
    let result := outcome ((builtin catalog host).compile id)
    (result = .error (.notFound id) ↔ ¬ catalog.contains id) ∧
    (result = .error (.disabled id) ↔ catalog.contains id ∧ catalog.Disables id) ∧
    ((∃ chain, result = .error (.cycle chain)) ↔
      catalog.contains id ∧ ¬ catalog.Disables id ∧ catalog.LeadsToCycle id) ∧
    ((∃ definition, result = .ok definition) ↔
      catalog.contains id ∧ ¬ catalog.Disables id ∧ ¬ catalog.LeadsToCycle id) := by
  intro result
  by_cases hid : catalog.contains id
  · have hdisables := Catalog.isEnabled_eq_false hid
    by_cases henabled : catalog.isEnabled id = true
    · have hresult : result = outcome ((builtin catalog host).dialog [] id) :=
        congrArg outcome ((builtin catalog host).compile_of_enabled hid henabled)
      have hcycles := (cyclesIff_dialog catalog host [] id hid).congr Catalog.stopped_nil
      rw [← hresult] at hcycles
      have hnot : ¬ catalog.Disables id := by simpa [henabled] using hdisables
      refine ⟨?_, ?_, ?_, ?_⟩
      · simpa [hid] using hcycles.ne_notFound id
      · simpa [hnot] using hcycles.ne_disabled id
      · simp [hid, hnot, hcycles.error_iff]
      · simp [hid, hnot, hcycles.ok_iff]
    · have hfalse : catalog.isEnabled id = false := by simpa using henabled
      have hresult : result = .error (.disabled id) :=
        (builtin catalog host).compile_of_disabled hid hfalse
      simp [hresult, hid, hdisables.1 hfalse]
  · have hfalse : catalog.contains id = false := by simpa using hid
    have hresult : result = .error (.notFound id) :=
      (builtin catalog host).compile_of_not_contains hfalse
    simp [hresult, hid]

end

end Compiler

end DialogKit
