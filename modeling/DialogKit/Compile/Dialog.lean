import DialogKit.Compile.Action
import DialogKit.Compile.Parts
import DialogKit.Kind.Set

/-!
# Compiling dialogs

A dialog is compiled together with every dialog that its buttons show. The path of the dialogs being
compiled holds no id twice: a target on the path is a cycle. So the path never grows longer than the
catalog, and compilation ends on every catalog.
-/

namespace DialogKit

/-- What dialogs are compiled from and with. -/
structure Compiler where
  catalog : Catalog
  kinds : KindSet
  host : Host := {}

namespace Compiler

open Compile (report)

/-- The title of a dialog without one. -/
def defaultTitle : String := "Default Title"

/-- The kind of a dialog that names none. -/
def defaultKind : String := "notice"

/-- Runs the plan of a kind; `compileTarget` compiles the dialogs that buttons show. -/
def runPlan (c : Compiler) (compileTarget : String → CompileM Definition) :
    Plan → CompileM Layout
  | .finish layout => pure layout
  | .fail fault => throw fault
  | .note event next => do
      ExceptT.lift (Journal.note event)
      c.runPlan compileTarget next
  | .button part slot next => do
      let button ← Compile.button c.catalog c.host compileTarget part slot
      c.runPlan compileTarget (next button)

/-- Puts a dialog together from its root; the path ends with the id of the dialog. -/
def build (c : Compiler) (compileTarget : String → CompileM Definition) (path : List String)
    (id : String) (root : Document) : CompileM Definition := do
  report .trace "dialog_config::compile" "compiling dialog"
    [.quoted "dialog" id, .nat "depth" path.length]
  let inputs ← ExceptT.lift (Compile.inputs id c.host root)
  let body ← ExceptT.lift (Compile.bodies id c.host root)
  let kind ← ExceptT.lift (c.kinds.resolve (Text.lower (root.str "type" defaultKind)))
  let layout ← c.runPlan compileTarget (kind.plan ⟨path, c.catalog, c.host⟩ root)
  report .trace "dialog_config::compile" "compiled dialog"
    [.quoted "dialog" id, .nat "inputs" inputs.length, .nat "body" body.length,
      .quoted "kind" layout.typeName]
  return {
    id
    title := c.host.format (root.str "title" defaultTitle)
    externalTitle := c.host.format (root.str "external_title" defaultTitle)
    closesOnEscape := root.bool "can_close_with_escape" true
    body
    inputs
    layout }

/-- The ids of the catalog that are not on a path. -/
def offPath (c : Compiler) (path : List String) : List String :=
  c.catalog.order.filter fun id ↦ !path.contains id

theorem offPath_append (c : Compiler) (path : List String) (id : String) :
    c.offPath (path ++ [id]) = (c.offPath path).filter fun other ↦ other != id := by
  unfold offPath
  rw [List.filter_filter]
  refine List.filter_congr fun other _ ↦ ?_
  by_cases h : other = id <;> simp [h]

/-- A dialog of the catalog that is put on the path leaves fewer dialogs off it. -/
theorem offPath_lt (c : Compiler) {path : List String} {id : String} {root : Document}
    (hid : ¬ id ∈ path) (hroot : c.catalog.root? id = some root) :
    (c.offPath (path ++ [id])).length < (c.offPath path).length := by
  have hmem : id ∈ c.catalog.order := by
    unfold Catalog.root? Catalog.get? at hroot
    obtain ⟨document, hget, _⟩ := Option.map_eq_some_iff.1 hroot
    exact Entries.mem_keys_of_get? hget
  rw [offPath_append, List.length_filter_lt_length_iff_exists]
  exact ⟨id, by simp [offPath, hmem, hid], by simp⟩

/-- The chain of a cycle: the path from the repeated id on, and that id again. -/
def chainOf (path : List String) (id : String) : List String :=
  path.dropWhile (· != id) ++ [id]

/-- Compiles a dialog as the next one on a path. -/
def dialog (c : Compiler) (path : List String) (id : String) : CompileM Definition :=
  if _hid : id ∈ path then do
    let chain := chainOf path id
    report .warn "dialog_config::compile" "show_dialog cycle"
      [.bare "chain" (CompileFault.showChain chain)]
    throw (.cycle chain)
  else
    match _hroot : c.catalog.root? id with
    | none => throw (.notFound id)
    | some root => c.build (fun target ↦ c.dialog (path ++ [id]) target) (path ++ [id]) id root
termination_by (c.offPath path).length
decreasing_by exact c.offPath_lt _hid _hroot

/-- Compiles the dialog that is to be opened. -/
def compile (c : Compiler) (id : String) : CompileM Definition :=
  if !c.catalog.contains id then do
    report .warn "dialog_config::compile" "dialog not found"
      [.quoted "dialog" id, .bare "available" (String.intercalate ", " c.catalog.ids)]
    throw (.notFound id)
  else if !c.catalog.isEnabled id then do
    report .debug "dialog_config::compile" "dialog is disabled" [.quoted "dialog" id]
    throw (.disabled id)
  else c.dialog [] id

end Compiler

end DialogKit
