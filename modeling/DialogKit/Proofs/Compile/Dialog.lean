import DialogKit.Compile.Dialog
import DialogKit.Proofs.Compile.Outcome

/-!
# Outcomes of compiling a dialog

Putting a dialog together comes down to running the plan of its kind: inputs and body elements never
fail, they are left out. Off its path a dialog is put together with itself at the end of the path.
-/

namespace DialogKit.Compiler

open CompileM

/-- A compiler with the built-in kinds. -/
def builtin (catalog : Catalog) (host : Host) : Compiler where
  catalog
  kinds := KindSet.builtin.result
  host

/-- The kind that a root selects. -/
def kindOf (c : Compiler) (root : Document) : Kind :=
  (c.kinds.resolve (Text.lower (root.str "type" defaultKind))).result

/-- The dialog that a root, together with its layout, makes. -/
def assembled (c : Compiler) (id : String) (root : Document) (layout : Layout) : Definition where
  id
  title := c.host.format (root.str "title" defaultTitle)
  externalTitle := c.host.format (root.str "external_title" defaultTitle)
  closesOnEscape := root.bool "can_close_with_escape" true
  body := (Compile.bodies id c.host root).result
  inputs := (Compile.inputs id c.host root).result
  layout

/-- What the kind of a dialog sees, with the dialog at the end of the path. -/
def view (c : Compiler) (path : List String) : KindView :=
  ⟨path, c.catalog, c.host⟩

theorem outcome_build (c : Compiler) (compileTarget : String → CompileM Definition)
    (path : List String) (id : String) (root : Document) :
    outcome (c.build compileTarget path id root) =
      (outcome (c.runPlan compileTarget ((c.kindOf root).plan (c.view path) root))).map
        (c.assembled id root) := by
  unfold build
  rw [outcome_bind_ok (outcome_report ..), outcome_bind_ok (outcome_lift _),
    outcome_bind_ok (outcome_lift _), outcome_bind_ok (outcome_lift _), outcome_bind]
  unfold kindOf view
  cases outcome (c.runPlan compileTarget _) <;> rfl

theorem dialog_of_mem (c : Compiler) {path : List String} {id : String} (h : id ∈ path) :
    outcome (c.dialog path id) = .error (.cycle (chainOf path id)) := by
  rw [dialog, dif_pos h]
  exact outcome_bind_ok (outcome_report ..) _

theorem dialog_of_root? (c : Compiler) {path : List String} {id : String} {root : Document}
    (h : id ∉ path) (hroot : c.catalog.root? id = some root) :
    c.dialog path id =
      c.build (fun target ↦ c.dialog (path ++ [id]) target) (path ++ [id]) id root := by
  rw [dialog, dif_neg h]
  split
  case h_1 hnone => simp [hroot] at hnone
  case h_2 root' hroot' =>
    obtain rfl : root' = root := by simpa [hroot] using hroot'.symm
    rfl

theorem dialog_of_root?_eq_none (c : Compiler) {path : List String} {id : String} (h : id ∉ path)
    (hroot : c.catalog.root? id = none) : c.dialog path id = throw (.notFound id) := by
  rw [dialog, dif_neg h]
  split
  case h_1 => rfl
  case h_2 root hsome => simp [hroot] at hsome

/-- A dialog that is compiled is off the path and in the catalog, and the plan of its kind ends with
its layout. -/
theorem dialog_eq_ok (c : Compiler) {path : List String} {id : String} {d : Definition} :
    outcome (c.dialog path id) = .ok d ↔ id ∉ path ∧ ∃ root layout,
      c.catalog.root? id = some root ∧
      outcome (c.runPlan (fun target ↦ c.dialog (path ++ [id]) target)
        ((c.kindOf root).plan (c.view (path ++ [id])) root)) = .ok layout ∧
      c.assembled id root layout = d := by
  by_cases hmem : id ∈ path
  · simp [dialog_of_mem c hmem, hmem]
  cases hroot : c.catalog.root? id with
  | none => simp [dialog_of_root?_eq_none c hmem hroot]
  | some root =>
    rw [dialog_of_root? c hmem hroot, outcome_build]
    simp [hmem, map_eq_ok]

section

variable (c : Compiler) {id : String}

theorem compile_of_not_contains (h : c.catalog.contains id = false) :
    outcome (c.compile id) = .error (.notFound id) := by
  simp only [compile, h, Bool.not_false, if_true]
  exact outcome_bind_ok (outcome_report ..) _

theorem compile_of_disabled (h : c.catalog.contains id) (hoff : c.catalog.isEnabled id = false) :
    outcome (c.compile id) = .error (.disabled id) := by
  simp only [compile, h, hoff, Bool.not_true, Bool.not_false, Bool.false_eq_true, if_false, if_true]
  exact outcome_bind_ok (outcome_report ..) _

theorem compile_of_enabled (h : c.catalog.contains id) (hon : c.catalog.isEnabled id) :
    c.compile id = c.dialog [] id := by
  simp only [compile, h, hon, Bool.not_true, Bool.false_eq_true, if_false]

theorem compile_eq_ok {d : Definition} :
    outcome (c.compile id) = .ok d ↔
      c.catalog.contains id ∧ c.catalog.isEnabled id ∧ outcome (c.dialog [] id) = .ok d := by
  cases hcontains : c.catalog.contains id with
  | false => simp [compile_of_not_contains c hcontains]
  | true =>
    cases henabled : c.catalog.isEnabled id with
    | false => simp [compile_of_disabled c hcontains henabled]
    | true => simp [compile_of_enabled c hcontains henabled]

end

end DialogKit.Compiler
