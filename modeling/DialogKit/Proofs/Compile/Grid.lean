import DialogKit.Proofs.Compile.Plan
import DialogKit.Proofs.Document.Paths
import Mathlib.Data.List.Forall2

/-!
# The grid of a dialog of several actions

The buttons of the grid stand for the maps among its entries, one button for each and in their
order, whether the grid is a list or a map; the keys of a map play no part. The button to leave
comes after them. Only where no entry is a map does the grid show the placeholders.
-/

namespace DialogKit

open CompileM

/-- The values of a map or of a list, in order. -/
def Value.members : Value → List Value
  | .map entries => entries.map Prod.snd
  | .list items => items
  | _ => []

/-- The entries of the grid of a dialog of several actions, in order. -/
def Document.gridEntries (root : Document) : List Value :=
  ((root.value? "buttons").map Value.members).getD []

theorem Kind.gridParts_eq (root : Document) :
    gridParts root = root.gridEntries.filterMap Document.ofValue? := by
  unfold gridParts Document.part? Document.items Document.list? Document.gridEntries
  cases root.value? "buttons" with
  | none => rfl
  | some buttons =>
    cases buttons with
    | map entries =>
      change entries.filterMap (fun entry ↦ Document.ofValue? entry.2) =
        (entries.map Prod.snd).filterMap Document.ofValue?
      rw [List.filterMap_map]
      rfl
    | list items =>
      have hlist : Document.ofValue? (.list items) = none := rfl
      simp [hlist, Value.list?, Value.members, List.filterMap_map, Document.part?_itemOf]
    | _ => rfl

theorem Kind.gridParts_of_written {root : Document} {buttons : Value}
    (h : root.entry? "buttons" = some buttons) :
    gridParts root = buttons.members.filterMap Document.ofValue? := by
  rw [gridParts_eq, Document.gridEntries, Document.value?_of_dotless (by decide), h]
  rfl

namespace Compiler

/-- The button that the section makes in a grid. -/
def Makes (c : Compiler) (compileTarget : String → CompileM Definition) (part : Document)
    (button : Button) : Prop :=
  outcome (Compile.button c.catalog c.host compileTarget (some part) .action) = .ok button

section

variable {c : Compiler} {compileTarget : String → CompileM Definition} {layout : Layout}

theorem runPlan_buildAll_eq_ok {parts : List Document} {next : List Button → Plan} :
    outcome (c.runPlan compileTarget (Kind.buildAll parts next)) = .ok layout ↔
      ∃ buttons, List.Forall₂ (c.Makes compileTarget) parts buttons ∧
        outcome (c.runPlan compileTarget (next buttons)) = .ok layout := by
  induction parts generalizing next with
  | nil => simp [Kind.buildAll]
  | cons part parts ih =>
    rw [Kind.buildAll, runPlan, outcome_bind_eq_ok]
    simp only [ih]
    constructor
    · rintro ⟨button, hbutton, buttons, hbuttons, hnext⟩
      exact ⟨button :: buttons, .cons hbutton hbuttons, hnext⟩
    · rintro ⟨_, hbuttons, hnext⟩
      cases hbuttons with
      | cons hbutton hbuttons => exact ⟨_, hbutton, _, hbuttons, hnext⟩

theorem runPlan_finishGrid_eq_ok {root : Document} {buttons : List Button} :
    outcome (c.runPlan compileTarget (Kind.finishGrid root buttons)) = .ok layout ↔
      ∃ exit, Option.Rel (c.Makes compileTarget) (root.part? "exit_button") exit ∧
        layout = .multiAction buttons exit (root.nat32 "columns" 2) := by
  unfold Kind.finishGrid
  cases root.part? "exit_button" with
  | none =>
    constructor
    · intro h
      exact ⟨none, .none, (Except.ok.inj h).symm⟩
    · rintro ⟨_, hexit, rfl⟩
      cases hexit
      rfl
  | some part =>
    dsimp only
    rw [runPlan, outcome_bind_eq_ok]
    constructor
    · rintro ⟨exit, hexit, hlayout⟩
      exact ⟨some exit, .some hexit, (Except.ok.inj hlayout).symm⟩
    · rintro ⟨_, hexit, rfl⟩
      cases hexit with
      | some hexit => exact ⟨_, hexit, rfl⟩

end

/-- The layout of a dialog of several actions, wherever it is compiled. -/
theorem grid_of_dialog {catalog : Catalog} {host : Host} {path : List String} {id : String}
    {root : Document} {d : Definition} (hroot : catalog.root? id = some root)
    (hkind : Kind.nameOf root = "multi_action")
    (h : outcome ((builtin catalog host).dialog path id) = .ok d) :
    let makes := (builtin catalog host).Makes ((builtin catalog host).dialog (path ++ [id]))
    ∃ grid exit, d.layout = .multiAction grid exit (root.nat32 "columns" 2) ∧
      (Kind.gridParts root = [] ∧ grid = Kind.placeholders ∨
        Kind.gridParts root ≠ [] ∧ List.Forall₂ makes (Kind.gridParts root) grid) ∧
      Option.Rel makes (root.part? "exit_button") exit := by
  intro makes
  obtain ⟨_, found, layout, hfound, hlayout, rfl⟩ := ((builtin catalog host).dialog_eq_ok).1 h
  obtain rfl : root = found := Option.some.inj (hroot.symm.trans hfound)
  rw [Kind.kindOf_builtin, hkind] at hlayout
  obtain ⟨buttons, hbuttons, hrest⟩ := runPlan_buildAll_eq_ok.1 hlayout
  generalize Kind.gridParts root = parts at hbuttons
  cases hbuttons with
  | nil =>
    simp only [List.isEmpty_nil, if_true, runPlan] at hrest
    rw [outcome_bind_ok (outcome_lift _)] at hrest
    obtain ⟨exit, hexit, rfl⟩ := runPlan_finishGrid_eq_ok.1 hrest
    exact ⟨_, exit, rfl, .inl ⟨rfl, rfl⟩, hexit⟩
  | cons hfirst hothers =>
    simp only [List.isEmpty_cons, Bool.false_eq_true, if_false] at hrest
    obtain ⟨exit, hexit, rfl⟩ := runPlan_finishGrid_eq_ok.1 hrest
    exact ⟨_, exit, rfl, .inr ⟨List.cons_ne_nil _ _, .cons hfirst hothers⟩, hexit⟩

end Compiler

end DialogKit
