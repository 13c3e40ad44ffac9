import DialogKit.Proofs.Catalog.Store
import DialogKit.Proofs.Compile.Chains
import DialogKit.Proofs.Compile.Locality

/-!
# Targets that cannot be compiled

A dialog whose kind fails without a look at anything but the root may as well be missing: every
other dialog comes to the same without it. A button that shows it has no action, as a button has
that shows a dialog of which the catalog knows nothing.

The path does not tell the two apart either. A failing dialog builds no button, so no other dialog
is ever compiled behind it.
-/

namespace DialogKit

open CompileM

/-! ## Kinds that fail -/

/-- The plan fails, whatever it notes before. -/
inductive Plan.FailsWith (fault : CompileFault) : Plan → Prop where
  | fail : FailsWith fault (.fail fault)
  | note (event : Log.Event) {next : Plan} : FailsWith fault next →
      FailsWith fault (.note event next)

theorem Plan.FailsWith.only {fault : CompileFault} {plan : Plan} (h : plan.FailsWith fault)
    (P : Button → Prop) : plan.Only P := by
  induction h with
  | fail => exact .fail fault
  | note event _ ih => exact .note event ih

theorem Compiler.outcome_runPlan_of_failsWith (c : Compiler)
    (compileTarget : String → CompileM Definition) {fault : CompileFault} {plan : Plan}
    (h : plan.FailsWith fault) : outcome (c.runPlan compileTarget plan) = .error fault := by
  induction h with
  | fail => rfl
  | note event _ ih =>
    unfold runPlan
    rwa [outcome_bind_ok (outcome_lift _)]

namespace Kind

/-- The kind looks at nothing but the root. -/
def ReadsRoot (kind : Kind) : Prop :=
  ∀ view view' root, kind.plan view root = kind.plan view' root

/-- On every root the kind finds something missing, without a look at anything else. -/
structure Fails (kind : Kind) : Prop where
  readsRoot : kind.ReadsRoot
  missing : ∀ view root, ∃ id, (kind.plan view root).FailsWith (.notFound id)

theorem Fails.showsBuilt {kind : Kind} (h : kind.Fails) : kind.ShowsBuilt := by
  intro P _ view root
  obtain ⟨_, hfails⟩ := h.missing view root
  exact hfails.only _

end Kind

theorem ScriptedKind.fails_kind {k : ScriptedKind} (h : k.mode = .fail) : k.kind.Fails := by
  have hplan (view : KindView) (root : Document) :
      k.kind.plan view root = .fail (.notFound k.section_) := by
    unfold ScriptedKind.kind
    rw [h]
  constructor
  · intro view view' root
    rw [hplan, hplan]
  · intro view root
    rw [hplan]
    exact ⟨_, .fail⟩

/-- The built-in kinds and further ones. -/
def KindSet.builtinAnd (kinds : List Kind) : KindSet :=
  (KindSet.builtin.result.addAll kinds).result

namespace KindSet

variable {failing : List Kind} (hfailing : ∀ kind ∈ failing, kind.Fails)

include hfailing

theorem readRoots_builtinAnd : (builtinAnd failing).ReadRoots := by
  have hread : ∀ name kind, (builtinAnd failing).get? name = some kind → kind.ReadsRoot := by
    apply forall_get?_addAll
    · intro name kind hget
      obtain rfl | rfl | rfl := eq_of_get?_builtin hget
      all_goals exact fun _ _ _ ↦ rfl
    · exact fun kind hmem ↦ (hfailing kind hmem).readsRoot
  intro name
  exact forall_resolve hread (fun _ _ _ ↦ rfl) name

theorem showBuilt_builtinAnd : (builtinAnd failing).ShowBuilt :=
  showBuilt_builtin.addAll fun kind hmem ↦ (hfailing kind hmem).showsBuilt

end KindSet

/-! ## Buttons that show a failing dialog -/

namespace Compile

variable {catalog catalog' : Catalog} {compileTarget compileTarget' : String → CompileM Definition}
  {part : Document} {target : String}

theorem plainAction_of_names (h : Names part target) : plainAction part = none := by
  obtain ⟨entries, kind, haction, htype, hkind, _⟩ := h
  have hpart : actionPart? part = some ⟨entries⟩ := by
    simp only [actionPart?, haction]
  rw [plainAction, hpart]
  exact ownAction_of_show (lower_type_eq_show.2 ⟨kind, htype, hkind⟩)

theorem outcome_button_of_missing (h : Names part target)
    (hmissing : catalog.contains target = false) (host : Host) (slot : ButtonSlot) :
    outcome (button catalog host compileTarget (some part) slot) =
      .ok (dressed host part slot none) := by
  have hnone (other : String) (hother : Names part other) : catalog.contains other = false :=
    hother.unique h ▸ hmissing
  rw [outcome_button_some, outcome_sectionAction_of_not_names hnone, plainAction_of_names h]
  rfl

theorem outcome_button_of_notFound (h : Names part target) (hknown : catalog.contains target)
    {missing : String} (hfault : outcome (compileTarget target) = .error (.notFound missing))
    (host : Host) (slot : ButtonSlot) :
    outcome (button catalog host compileTarget (some part) slot) =
      .ok (dressed host part slot none) := by
  rw [outcome_button_some, outcome_sectionAction_of_names h hknown, hfault]
  rfl

end Compile

namespace Compiler

/-- The compiler without a dialog. -/
def without (c : Compiler) (id : String) : Compiler :=
  { c with catalog := c.catalog.remove id }

theorem outcome_runPlan_congr {c c' : Compiler}
    {compileTarget compileTarget' : String → CompileM Definition}
    (h : ∀ part slot, outcome (Compile.button c.catalog c.host compileTarget part slot) =
      outcome (Compile.button c'.catalog c'.host compileTarget' part slot)) (plan : Plan) :
    outcome (c.runPlan compileTarget plan) = outcome (c'.runPlan compileTarget' plan) := by
  induction plan with
  | finish layout => rfl
  | fail fault => rfl
  | note event next ih =>
    unfold runPlan
    rwa [outcome_bind_ok (outcome_lift _), outcome_bind_ok (outcome_lift _)]
  | button part slot next ih =>
    unfold runPlan
    rw [outcome_bind, outcome_bind, h]
    exact congrArg _ (funext ih)

section

variable {c : Compiler} {target missing : String} {root : Document}

theorem dialog_of_fails {path : List String} (hpath : target ∉ path)
    (hroot : c.catalog.root? target = some root)
    (hfails : ∀ view, ((c.kindOf root).plan view root).FailsWith (.notFound missing)) :
    outcome (c.dialog path target) = .error (.notFound missing) := by
  rw [dialog_of_root? c hpath hroot, outcome_build,
    outcome_runPlan_of_failsWith c _ (hfails _)]
  rfl

variable (hkeys : c.catalog.order.Nodup)

include hkeys in
theorem contains_without_self : (c.without target).catalog.contains target = false := by
  have hnone : (c.catalog.remove target).get? target = none := Catalog.get?_remove_self hkeys
  simp [without, Catalog.contains, hnone]

theorem get?_without_of_ne {id : String} (h : id ≠ target) :
    (c.without target).catalog.get? id = c.catalog.get? id :=
  Catalog.get?_remove_of_ne h.symm

theorem root?_without_of_ne {id : String} (h : id ≠ target) :
    (c.without target).catalog.root? id = c.catalog.root? id := by
  rw [Catalog.root?, Catalog.root?, get?_without_of_ne h]

theorem contains_without_of_ne {id : String} (h : id ≠ target) :
    (c.without target).catalog.contains id = c.catalog.contains id := by
  rw [Catalog.contains, Catalog.contains, get?_without_of_ne h]

variable (hroot : c.catalog.root? target = some root)
  (hfails : ∀ view, ((c.kindOf root).plan view root).FailsWith (.notFound missing))

include hroot in
theorem contains_of_root? : c.catalog.contains target := by
  rw [← Catalog.isSome_root?, hroot]
  rfl

include hkeys hroot hfails in
/-- Without the failing dialog each button is built alike, if the other targets are compiled
alike. -/
theorem outcome_button_without {path : List String} (hpath : target ∉ path)
    (hothers : ∀ id ≠ target,
      outcome (c.dialog path id) = outcome ((c.without target).dialog path id))
    (part : Option Document) (slot : ButtonSlot) :
    outcome (Compile.button c.catalog c.host (c.dialog path) part slot) =
      outcome (Compile.button (c.without target).catalog c.host ((c.without target).dialog path)
        part slot) := by
  cases part with
  | none => rfl
  | some part =>
    by_cases hnames : Compile.Names part target
    · rw [Compile.outcome_button_of_notFound hnames (contains_of_root? hroot)
        (dialog_of_fails hpath hroot hfails),
        Compile.outcome_button_of_missing hnames (contains_without_self hkeys)]
    · have hother : ∀ section_ ∈ some part, ∀ id, Compile.Names section_ id → id ≠ target := by
        rintro _ hsome id hid rfl
        exact hnames (Option.some.inj hsome ▸ hid)
      apply Compile.outcome_button_congr
      · exact fun section_ hsection id hid ↦
          (contains_without_of_ne (hother section_ hsection id hid)).symm
      · exact fun section_ hsection id hid ↦ hothers id (hother section_ hsection id hid)

include hkeys hroot hfails in
/-- The failing dialog is on no path, so it is met as a target alone. -/
theorem dialog_without (hkinds : c.kinds.ReadRoots) {path : List String} (hpath : target ∉ path)
    {id : String} (hid : id ≠ target) :
    outcome (c.dialog path id) = outcome ((c.without target).dialog path id) := by
  apply Agree.iff_eq.1
  refine agree_of_build (Q := fun path id ↦ target ∉ path ∧ id ≠ target) ?_ ?_ ⟨hpath, hid⟩
  · rintro path id ⟨_, hid⟩
    rw [root?_without_of_ne hid]
  · rintro path id root root' ⟨hpath, hid⟩ _ hsome hsome' htargets
    obtain rfl : root' = root :=
      Option.some.inj (hsome'.symm.trans ((root?_without_of_ne hid).trans hsome))
    have hlonger : target ∉ path ++ [id] := by simp [hpath, Ne.symm hid]
    have hbuttons := outcome_button_without hkeys hroot hfails hlonger
      fun other hother ↦ Agree.iff_eq.1 (htargets other ⟨hlonger, hother⟩)
    have hplan : (c.kindOf root').plan (c.view (path ++ [id])) root' =
        ((c.without target).kindOf root').plan ((c.without target).view (path ++ [id])) root' :=
      hkinds _ _ _ root'
    apply Agree.iff_eq.2
    rw [outcome_build, outcome_build, hplan, outcome_runPlan_congr hbuttons]
    rfl

include hroot hfails in
theorem dialog_ne_ok (path : List String) (d : Definition) :
    outcome (c.dialog path target) ≠ .ok d := by
  by_cases hpath : target ∈ path
  · simp [dialog_of_mem c hpath]
  · simp [dialog_of_fails hpath hroot hfails]

include hroot hfails in
/-- No button shows the failing dialog, at any depth. -/
theorem not_embeds_of_fails (hshow : c.kinds.ShowBuilt) {path : List String} {id : String}
    {d dialog : Definition} (h : outcome (c.dialog path id) = .ok d) :
    ¬ d.Embeds target dialog := by
  intro hembeds
  induction hembeds generalizing path id with
  | here hmem haction =>
    have hdialog := (carries_of_dialog c hshow h _ hmem _ _ haction).2
    exact dialog_ne_ok hroot hfails _ _ hdialog
  | deeper hmem haction _ ih =>
    exact ih hroot (carries_of_dialog c hshow h _ hmem _ _ haction).2

end

/-- A dialog whose kind fails may as well be missing. Without it every other dialog is compiled to
the same, faults and embedded dialogs included, and so is every button that does not show it. A
button that shows it has no action, wherever it stands, and nothing embeds it. Compiling it by
itself gives the fault of its kind, if it may be opened at all. -/
theorem compile_without (c : Compiler) {failing : List Kind}
    (hkinds : c.kinds = .builtinAnd failing) (hfailing : ∀ kind ∈ failing, kind.Fails)
    (hkeys : c.catalog.order.Nodup) {target : String} {root : Document}
    (hroot : c.catalog.root? target = some root) (hkind : (c.kindOf root).Fails) :
    (∀ id ≠ target, outcome (c.compile id) = outcome ((c.without target).compile id)) ∧
    (∀ path, target ∉ path →
      (∀ id ≠ target, outcome (c.dialog path id) = outcome ((c.without target).dialog path id)) ∧
      (∀ part slot, Compile.Names part target →
        outcome (Compile.button c.catalog c.host (c.dialog path) (some part) slot) =
          .ok (Compile.dressed c.host part slot none)) ∧
      ∀ part slot, outcome (Compile.button c.catalog c.host (c.dialog path) part slot) =
        outcome (Compile.button (c.without target).catalog c.host
          ((c.without target).dialog path) part slot)) ∧
    (∀ id d dialog, outcome (c.compile id) = .ok d → ¬ d.Embeds target dialog) ∧
    ∃ missing, (∀ view, ((c.kindOf root).plan view root).FailsWith (.notFound missing)) ∧
      (c.catalog.isEnabled target → outcome (c.compile target) = .error (.notFound missing)) := by
  have hread : c.kinds.ReadRoots := hkinds ▸ KindSet.readRoots_builtinAnd hfailing
  have hshow : c.kinds.ShowBuilt := hkinds ▸ KindSet.showBuilt_builtinAnd hfailing
  obtain ⟨missing, hmissing⟩ := hkind.missing (c.view []) root
  have hfails : ∀ view, ((c.kindOf root).plan view root).FailsWith (.notFound missing) :=
    fun view ↦ hkind.readsRoot view (c.view []) root ▸ hmissing
  have hdialog {path : List String} (hpath : target ∉ path) (id : String) (hid : id ≠ target) :
      outcome (c.dialog path id) = outcome ((c.without target).dialog path id) :=
    dialog_without hkeys hroot hfails hread hpath hid
  refine ⟨?_, ?_, ?_, missing, hfails, ?_⟩
  · intro id hid
    apply Agree.iff_eq.1
    apply agree_compile (root?_without_of_ne hid).symm
    exact Agree.iff_eq.2 (hdialog List.not_mem_nil id hid)
  · intro path hpath
    refine ⟨hdialog hpath, ?_, outcome_button_without hkeys hroot hfails hpath (hdialog hpath)⟩
    intro part slot hnames
    exact Compile.outcome_button_of_notFound hnames (contains_of_root? hroot)
      (dialog_of_fails hpath hroot hfails) c.host slot
  · intro id d dialog h
    exact not_embeds_of_fails hroot hfails hshow (c.compile_eq_ok.1 h).2.2
  · intro henabled
    rw [compile_of_enabled c (contains_of_root? hroot) henabled]
    exact dialog_of_fails List.not_mem_nil hroot hfails

/-- A kind that never gets the part it needs. -/
def brokenKind : ScriptedKind :=
  ⟨"Broken", .fail, "spare part", .action⟩

/-- A grid that shows a dialog of the broken kind before a leaf, which that dialog would show. -/
def workshop : Compiler where
  catalog := ⟨[("grid", ⟨[("type", .str "multi_action"),
      ("buttons", .list [showing "broken", showing "leaf"])]⟩),
    ("broken", ⟨("type", .str "BROKEN") :: (noticeOf "leaf").entries⟩), ("leaf", ⟨[]⟩)]⟩
  kinds := .builtinAnd [brokenKind.kind]

theorem compile_without_workshop :
    (∀ kind ∈ [brokenKind.kind], kind.Fails) ∧ workshop.catalog.order.Nodup ∧
    (∃ root, workshop.catalog.root? "broken" = some root ∧ (workshop.kindOf root).Fails) ∧
    (∃ d, outcome (workshop.compile "grid") = .ok d ∧
      outcome ((workshop.without "broken").compile "grid") = .ok d ∧
      d.layout.buttons.map (·.action.isSome) = [false, true] ∧ d.Embeds "leaf" leafDialog ∧
      ¬ d.Embeds "broken" leafDialog) ∧
    outcome (workshop.compile "broken") = .error (.notFound "spare part") := by
  have hkind : brokenKind.kind.Fails := ScriptedKind.fails_kind rfl
  have hkinds : ∀ kind ∈ [brokenKind.kind], kind.Fails := by simpa using hkind
  have hkeys : workshop.catalog.order.Nodup := by decide
  have hroot : workshop.catalog.root? "broken" = some _ := rfl
  have hbroken : workshop.kindOf ⟨("type", .str "BROKEN") :: (noticeOf "leaf").entries⟩ =
      brokenKind.kind := rfl
  obtain ⟨hsame, _, hembeds, missing, hmissing, hfault⟩ :=
    compile_without workshop rfl hkinds hkeys hroot (hbroken ▸ hkind)
  have hrun : ∃ d t, Trail.compile workshop 4 "grid" = some (.ok d, t) ∧
      d.layout.buttons.map (·.action.isSome) = [false, true] ∧ d.Embeds "leaf" leafDialog :=
    ⟨_, _, rfl, rfl, .here (.tail _ (.head _)) rfl⟩
  obtain ⟨d, _, hrun, hactions, hleaf⟩ := hrun
  have hgrid := Trail.outcome_of_compile (by decide) hrun
  obtain rfl : missing = "spare part" := by
    cases hmissing (workshop.view [])
    rfl
  exact ⟨hkinds, hkeys, ⟨_, rfl, hbroken ▸ hkind⟩,
    ⟨d, hgrid, (hsame "grid" (by decide)).symm.trans hgrid, hactions, hleaf,
      hembeds "grid" d _ hgrid⟩, hfault rfl⟩

end Compiler

end DialogKit
