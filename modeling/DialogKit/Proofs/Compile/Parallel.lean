import DialogKit.Proofs.Compile.Cycle
import Mathlib.Data.List.Forall2

/-!
# Compilations side by side

Two compilations of one dialog, over two catalogs or for two hosts, go through the same plan, since
the built-in kinds only look at the root. Where the buttons that they build on the way correspond,
so do the layouts: `parallel_plan` follows the plan of a kind, `agree_runPlan` what becomes of it.
`agree_dialog` is the induction along the path that leads from buttons to dialogs.
-/

namespace DialogKit

open CompileM

/-- The same fault on both sides, or values that correspond. -/
inductive Agree {ε α β : Type} (R : α → β → Prop) : Except ε α → Except ε β → Prop where
  | error (fault : ε) : Agree R (.error fault) (.error fault)
  | ok {a : α} {b : β} : R a b → Agree R (.ok a) (.ok b)

namespace Agree

variable {ε α β γ δ : Type} {R : α → β → Prop} {S : γ → δ → Prop} {x : Except ε α}
  {y : Except ε β}

theorem map (h : Agree R x y) {f : α → γ} {g : β → δ} (hfg : ∀ a b, R a b → S (f a) (g b)) :
    Agree S (x.map f) (y.map g) := by
  cases h with
  | error fault => exact .error fault
  | ok hab => exact .ok (hfg _ _ hab)

theorem bind (h : Agree R x y) {f : α → Except ε γ} {g : β → Except ε δ}
    (hfg : ∀ a b, R a b → Agree S (f a) (g b)) : Agree S (x.bind f) (y.bind g) := by
  cases h with
  | error fault => exact .error fault
  | ok hab => exact hfg _ _ hab

theorem iff_eq {y : Except ε α} : Agree Eq x y ↔ x = y := by
  constructor
  · intro h
    cases h with
    | error fault => rfl
    | ok hab => exact congrArg _ hab
  · rintro rfl
    cases x with
    | error fault => exact .error fault
    | ok a => exact .ok rfl

theorem mapError {ζ : Type} (h : Agree R x y) (f : ε → ζ) :
    Agree R (x.mapError f) (y.mapError f) := by
  cases h with
  | error fault => exact .error (f fault)
  | ok hab => exact .ok hab

theorem toOption (h : Agree R x y) : Option.Rel R x.toOption y.toOption := by
  cases h with
  | error fault => exact .none
  | ok hab => exact .some hab

/-- What holds of a value, said of a result and itself. -/
theorem of_forall_ok {R : α → α → Prop} (h : ∀ a, x = .ok a → R a a) : Agree R x x := by
  cases x with
  | error fault => exact .error fault
  | ok a => exact .ok (h a rfl)

theorem eq_error {fault : ε} (h : Agree R (.error fault) y) : y = .error fault := by
  cases h with
  | error => rfl

theorem exists_ok {a : α} (h : Agree R (.ok a) y) : ∃ b, y = .ok b ∧ R a b := by
  cases h with
  | ok hab => exact ⟨_, rfl, hab⟩

theorem ok_iff {a : α} {b : β} : Agree R (.ok a : Except ε α) (.ok b) ↔ R a b := by
  constructor
  · intro h
    cases h with
    | ok hab => exact hab
  · exact .ok

end Agree

/-- Two layouts that a built-in kind makes of buttons that correspond. A grid is never empty. -/
inductive Layout.Made (R : Button → Button → Prop) : Layout → Layout → Prop where
  | confirmation {confirm confirm' cancel cancel' : Button} :
      R confirm confirm' → R cancel cancel' →
        Made R (.confirmation confirm cancel) (.confirmation confirm' cancel')
  | notice {exit exit' : Button} : R exit exit' → Made R (.notice exit) (.notice exit')
  | multiAction {buttons buttons' : List Button} {exit exit' : Option Button} (columns : UInt32) :
      buttons ≠ [] → List.Forall₂ R buttons buttons' → Option.Rel R exit exit' →
        Made R (.multiAction buttons exit columns) (.multiAction buttons' exit' columns)

theorem Layout.Made.buttons {R : Button → Button → Prop} {layout layout' : Layout}
    (h : layout.Made R layout') : List.Forall₂ R layout.buttons layout'.buttons := by
  cases h with
  | confirmation hconfirm hcancel => exact .cons hconfirm (.cons hcancel .nil)
  | notice hexit => exact .cons hexit .nil
  | multiAction columns _ hbuttons hexit =>
    apply List.rel_append hbuttons
    cases hexit with
    | some hsame => exact .cons hsame .nil
    | none => exact .nil

/-- Two plans that build buttons from the same sections, and end in layouts that correspond if the
buttons do. -/
inductive Plan.Parallel (Q : Document → Prop) (R : Button → Button → Prop) :
    Plan → Plan → Prop where
  | finish {layout layout' : Layout} : layout.Made R layout' →
      Parallel Q R (.finish layout) (.finish layout')
  | note (event : Log.Event) {next next' : Plan} : Parallel Q R next next' →
      Parallel Q R (.note event next) (.note event next')
  | button {part : Option Document} (slot : ButtonSlot) {next next' : Button → Plan} :
      (∀ section_ ∈ part, Q section_) →
      (∀ button button', R button button' → Parallel Q R (next button) (next' button')) →
        Parallel Q R (.button part slot next) (.button part slot next')

theorem Compiler.agree_runPlan (c c' : Compiler)
    {compileTarget compileTarget' : String → CompileM Definition} {Q : Document → Prop}
    {R : Button → Button → Prop}
    (hbutton : ∀ part slot, (∀ section_ ∈ part, Q section_) →
      Agree R (outcome (Compile.button c.catalog c.host compileTarget part slot))
        (outcome (Compile.button c'.catalog c'.host compileTarget' part slot)))
    {plan plan' : Plan} (h : plan.Parallel Q R plan') :
    Agree (Layout.Made R) (outcome (c.runPlan compileTarget plan))
      (outcome (c'.runPlan compileTarget' plan')) := by
  induction h with
  | finish hlayout => exact .ok hlayout
  | note event _ ih =>
    unfold runPlan
    rwa [outcome_bind_ok (outcome_lift _), outcome_bind_ok (outcome_lift _)]
  | button slot hpart _ ih =>
    unfold runPlan
    rw [outcome_bind, outcome_bind]
    exact (hbutton _ slot hpart).bind ih

namespace Kind

variable {Q : Document → Prop} {R : Button → Button → Prop}

theorem parallel_buildAll {next next' : List Button → Plan}
    (hnext : ∀ buttons buttons', List.Forall₂ R buttons buttons' →
      (next buttons).Parallel Q R (next' buttons'))
    {parts : List Document} (hparts : ∀ part ∈ parts, Q part) :
    (buildAll parts next).Parallel Q R (buildAll parts next') := by
  induction parts generalizing next next' with
  | nil => exact hnext [] [] .nil
  | cons part parts ih =>
    obtain ⟨hpart, hparts⟩ := List.forall_mem_cons.1 hparts
    apply Plan.Parallel.button .action (by simpa using hpart)
    intro button button' hbutton
    apply ih _ hparts
    intro buttons buttons' hbuttons
    exact hnext _ _ (.cons hbutton hbuttons)

theorem parallel_finishGrid {root : Document} {buttons buttons' : List Button}
    (hparts : ∀ part ∈ root.part? "exit_button", Q part) (hne : buttons ≠ [])
    (hbuttons : List.Forall₂ R buttons buttons') :
    (finishGrid root buttons).Parallel Q R (finishGrid root buttons') := by
  unfold finishGrid
  cases hexit : root.part? "exit_button" with
  | none => exact .finish (.multiAction _ hne hbuttons .none)
  | some part =>
    apply Plan.Parallel.button .action (by simpa [hexit] using hparts)
    intro exit exit' hsame
    exact .finish (.multiAction _ hne hbuttons (.some hsame))

/-- The plans of a built-in kind for two compilers and two paths run in parallel. -/
theorem parallel_plan (catalog catalog' : Catalog) (host host' : Host) (view view' : KindView)
    (root : Document) (hplaceholders : ∀ button ∈ placeholders, R button button) :
    (((Compiler.builtin catalog host).kindOf root).plan view root).Parallel (ReadsButton root) R
      (((Compiler.builtin catalog' host').kindOf root).plan view' root) := by
  rw [kindOf_builtin, kindOf_builtin]
  have hread : ∀ part ∈ buttonParts root, ReadsButton root part :=
    fun part hpart ↦ mem_buttonParts.1 hpart
  unfold buttonParts at hread
  revert hread
  split
  case h_1 =>
    intro hread
    apply Plan.Parallel.button .acknowledge (by simpa using hread)
    intro exit exit' hexit
    exact .finish (.notice hexit)
  case h_2 =>
    intro hread
    rw [List.forall_mem_append] at hread
    obtain ⟨hgrid, hexit⟩ := hread
    have hexit : ∀ part ∈ root.part? "exit_button", ReadsButton root part := by simpa using hexit
    apply parallel_buildAll _ hgrid
    intro buttons buttons' hbuttons
    cases hbuttons with
    | nil =>
      apply Plan.Parallel.note noButtons
      apply parallel_finishGrid hexit (by simp [placeholders])
      exact List.forall₂_same.2 hplaceholders
    | cons hfirst hrest => exact parallel_finishGrid hexit (by simp) (.cons hfirst hrest)
  case h_3 =>
    intro hread
    rw [List.forall_mem_append] at hread
    obtain ⟨hconfirm, hcancel⟩ := hread
    apply Plan.Parallel.button .confirm (by simpa using hconfirm)
    intro confirm confirm' hsame
    apply Plan.Parallel.button .cancel (by simpa using hcancel)
    intro cancel cancel' hsame'
    exact .finish (.confirmation hsame hsame')

end Kind

namespace Compiler

/-- The induction along the path, for two compilations side by side: they correspond wherever they
come (`Q`), if they know the same dialogs there, and each dialog is put together alike as far as its
targets are. -/
theorem agree_of_build {c c' : Compiler} {D : Definition → Definition → Prop}
    {Q : List String → String → Prop}
    (hknown : ∀ path id, Q path id → (c.catalog.root? id).isSome = (c'.catalog.root? id).isSome)
    (hbuild : ∀ path id root root', Q path id → id ∉ path → c.catalog.root? id = some root →
      c'.catalog.root? id = some root' →
      (∀ target, Q (path ++ [id]) target →
        Agree D (outcome (c.dialog (path ++ [id]) target))
          (outcome (c'.dialog (path ++ [id]) target))) →
      Agree D (outcome (c.build (c.dialog (path ++ [id])) (path ++ [id]) id root))
        (outcome (c'.build (c'.dialog (path ++ [id])) (path ++ [id]) id root')))
    {path : List String} {id : String} (h : Q path id) :
    Agree D (outcome (c.dialog path id)) (outcome (c'.dialog path id)) := by
  induction path, id using dialog.induct c with
  | case1 path id hmem =>
    rw [dialog_of_mem _ hmem, dialog_of_mem _ hmem]
    exact .error _
  | case2 path id hmem hnone =>
    have hnone' : c'.catalog.root? id = none := by simpa [hnone] using (hknown path id h).symm
    rw [dialog_of_root?_eq_none _ hmem hnone, dialog_of_root?_eq_none _ hmem hnone']
    exact .error _
  | case3 path id hmem root hsome ih =>
    have hsome' : (c'.catalog.root? id).isSome := by simpa [hsome] using (hknown path id h).symm
    obtain ⟨root', hroot'⟩ := Option.isSome_iff_exists.1 hsome'
    rw [dialog_of_root? _ hmem hsome, dialog_of_root? _ hmem hroot']
    exact hbuild path id root root' h hmem hsome hroot' ih

section

variable {catalog catalog' : Catalog} {host host' : Host} {R : Button → Button → Prop}
  {D : Definition → Definition → Prop}

/-- The layouts of two compilations correspond, if the buttons that they build do. -/
theorem agree_layout {compileTarget compileTarget' : String → CompileM Definition}
    {root : Document}
    (hbutton : ∀ part slot, (∀ section_ ∈ part, Kind.ReadsButton root section_) →
      Agree R (outcome (Compile.button catalog host compileTarget part slot))
        (outcome (Compile.button catalog' host' compileTarget' part slot)))
    (hplaceholders : ∀ button ∈ Kind.placeholders, R button button) (view view' : KindView) :
    Agree (Layout.Made R)
      (outcome ((builtin catalog host).runPlan compileTarget
        (((builtin catalog host).kindOf root).plan view root)))
      (outcome ((builtin catalog' host').runPlan compileTarget'
        (((builtin catalog' host').kindOf root).plan view' root))) :=
  agree_runPlan (builtin catalog host) (builtin catalog' host') hbutton
    (Kind.parallel_plan catalog catalog' host host' view view' root hplaceholders)

/-- Two compilations of one dialog correspond on every path, if they see the same roots, the buttons
correspond wherever their targets do, and so do the dialogs put together around them. -/
theorem agree_dialog {ids : Set String}
    (hroot : ∀ id ∈ ids, catalog.root? id = catalog'.root? id)
    (hplaceholders : ∀ button ∈ Kind.placeholders, R button button)
    (hbutton : ∀ id ∈ ids, ∀ root, catalog.root? id = some root →
      ∀ compileTarget compileTarget',
        (∀ target ∈ ids, Agree D (outcome (compileTarget target))
          (outcome (compileTarget' target))) →
        ∀ part slot, (∀ section_ ∈ part, Kind.ReadsButton root section_) →
          Agree R (outcome (Compile.button catalog host compileTarget part slot))
            (outcome (Compile.button catalog' host' compileTarget' part slot)))
    (hassembled : ∀ id root layout layout', layout.Made R layout' →
      D ((builtin catalog host).assembled id root layout)
        ((builtin catalog' host').assembled id root layout'))
    (path : List String) {id : String} (hid : id ∈ ids) :
    Agree D (outcome ((builtin catalog host).dialog path id))
      (outcome ((builtin catalog' host').dialog path id)) := by
  apply agree_of_build (Q := fun _ id ↦ id ∈ ids) _ _ hid
  · intro path id hid
    exact congrArg Option.isSome (hroot id hid)
  · intro path id root root' hid _ hsome hsome' htarget
    obtain rfl : root = root' := Option.some.inj (hsome.symm.trans ((hroot id hid).trans hsome'))
    rw [outcome_build, outcome_build]
    have hlayout := agree_layout (hbutton id hid root hsome _ _ htarget) hplaceholders
      ((builtin catalog host).view (path ++ [id])) ((builtin catalog' host').view (path ++ [id]))
    exact hlayout.map (hassembled id root)

end

/-- Two compilations let the same dialogs in, and compile them alike from there on. -/
theorem agree_compile_of_entry {c c' : Compiler} {D : Definition → Definition → Prop} {id : String}
    (hcontains : c.catalog.contains id = c'.catalog.contains id)
    (henabled : c.catalog.isEnabled id = c'.catalog.isEnabled id)
    (hdialog : Agree D (outcome (c.dialog [] id)) (outcome (c'.dialog [] id))) :
    Agree D (outcome (c.compile id)) (outcome (c'.compile id)) := by
  cases hknown : c.catalog.contains id with
  | false =>
    rw [c.compile_of_not_contains hknown, c'.compile_of_not_contains (hcontains ▸ hknown)]
    exact .error _
  | true =>
    have hknown' : c'.catalog.contains id := hcontains ▸ hknown
    cases hon : c.catalog.isEnabled id with
    | false =>
      rw [c.compile_of_disabled hknown hon, c'.compile_of_disabled hknown' (henabled ▸ hon)]
      exact .error _
    | true =>
      rw [c.compile_of_enabled hknown hon, c'.compile_of_enabled hknown' (henabled ▸ hon)]
      exact hdialog

/-- Whether a dialog may be compiled at all is read off its root. -/
theorem agree_compile {c c' : Compiler} {D : Definition → Definition → Prop} {id : String}
    (hroot : c.catalog.root? id = c'.catalog.root? id)
    (hdialog : Agree D (outcome (c.dialog [] id)) (outcome (c'.dialog [] id))) :
    Agree D (outcome (c.compile id)) (outcome (c'.compile id)) := by
  apply agree_compile_of_entry _ _ hdialog
  · rw [← Catalog.isSome_root?, ← Catalog.isSome_root?, hroot]
  · unfold Catalog.isEnabled
    rw [hroot]

end Compiler

end DialogKit
