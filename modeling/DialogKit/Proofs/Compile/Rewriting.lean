import DialogKit.Proofs.Catalog.Layout
import DialogKit.Proofs.Compile.Grid
import DialogKit.Proofs.Compile.Notations
import DialogKit.Proofs.Compile.Trail
import Mathlib.Logic.Relation

/-!
# Notations of dialogs

A dialog may be written in several ways: its parts in any of their notations, its own type in any
case, and the grid of a dialog of several actions as a list or as a map with any keys. All of them
are compiled to the same, wherever the dialog is embedded.
-/

namespace DialogKit

open CompileM
open Document (value?_set_of_ne value?_set_self value?_of_dotless)

/-! ## Rewriting documents -/

/-- One map among the values is written in another way. -/
inductive Document.RewritesItem (R : Document → Document → Prop) :
    List Value → List Value → Prop where
  | mk (before : List Value) {part part' : Document} (after : List Value) : R part part' →
      RewritesItem R (before ++ part.toValue :: after) (before ++ part'.toValue :: after)

/-- The content of the dialog under the id is written in another way, in one place. -/
inductive Document.Rewrites (id : String) (root : Document) : Document → Prop where
  | kind {root' : Document} (retypes : root.Retypes root') : Rewrites id root root'
  | component {key : String} {items items' : List Value} (place : key = "inputs" ∨ key = "bodies")
      (written : root.entry? key = some (.list items))
      (rewrites : RewritesItem Retypes items items') :
      Rewrites id root (root.set key (.list items'))
  | exit {part part' : Document} (written : root.entry? "exit_button" = some part.toValue)
      (rewrites : part.RewritesButton part') :
      Rewrites id root (root.set "exit_button" part'.toValue)
  | listed {items items' : List Value} (written : root.entry? "buttons" = some (.list items))
      (rewrites : RewritesItem RewritesButton items items') :
      Rewrites id root (root.set "buttons" (.list items'))
  | keyed {before after : List (String × Value)} {key : String} {part part' : Document}
      (written : root.entry? "buttons" = some (.map (before ++ (key, part.toValue) :: after)))
      (rewrites : part.RewritesButton part') :
      Rewrites id root (root.set "buttons" (.map (before ++ (key, part'.toValue) :: after)))
  /-- The grid of a dialog of several actions is given keys. -/
  | toMap {entries : List (String × Value)} (grid : Kind.nameOf root = "multi_action")
      (other : id ≠ "buttons") (distinct : (Entries.keys entries).Nodup)
      (written : root.entry? "buttons" = some (.list (entries.map Prod.snd))) :
      Rewrites id root (root.set "buttons" (.map entries))
  /-- The keys of such a grid are taken away. -/
  | toList {entries : List (String × Value)} (grid : Kind.nameOf root = "multi_action")
      (other : id ≠ "buttons") (written : root.entry? "buttons" = some (.map entries)) :
      Rewrites id root (root.set "buttons" (.list (entries.map Prod.snd)))

/-- The content of one dialog is written in another way, at the top level of its document or under
its id. -/
inductive Catalog.Rewrites (catalog : Catalog) : Catalog → Prop where
  | flat {id : String} {root root' : Document} (known : catalog.get? id = some root)
      (flat : isNested id root = false) (rewrites : root.Rewrites id root') :
      Rewrites catalog (catalog.insert id root')
  | nested {id : String} {document root root' : Document} (known : catalog.get? id = some document)
      (entry : document.entry? id = some root.toValue) (rewrites : root.Rewrites id root') :
      Rewrites catalog (catalog.insert id (document.set id root'.toValue))

/-! ## Roots that are compiled alike -/

/-- The keys at which a root says what is neither a component nor a button. -/
def Document.plainKeys : List String :=
  ["title", "external_title", "can_close_with_escape", "columns", "enabled"]

/-- The keys under which a root may be rewritten. -/
def Document.notedKeys : List String :=
  ["type", "inputs", "bodies", "exit_button", "buttons"]

/-- What a compilation reads of the roots is the same, and their buttons act alike. -/
structure Document.Alike (root root' : Document) : Prop where
  plain : ∀ key ∈ plainKeys, root'.value? key = root.value? key
  kind : Text.lower (root'.str "type" Compiler.defaultKind) =
    Text.lower (root.str "type" Compiler.defaultKind)
  inputs : ∀ dialog host, Compile.inputs dialog host root' = Compile.inputs dialog host root
  bodies : ∀ dialog host, Compile.bodies dialog host root' = Compile.bodies dialog host root
  exit : Option.Rel ActsAlike (root.part? "exit_button") (root'.part? "exit_button")
  grid : Kind.nameOf root = "multi_action" →
    List.Forall₂ ActsAlike (Kind.gridParts root) (Kind.gridParts root')
  answers : Kind.nameOf root ≠ "multi_action" → ∀ name ∈ ["confirm", "cancel"],
    Option.Rel ActsAlike ((root.part? "buttons").bind (·.part? name))
      ((root'.part? "buttons").bind (·.part? name))

/-- A value that may be written under a key, since what is read there stays the same. -/
structure Document.Harmless (root : Document) (key : String) (value : Value) : Prop where
  place : key ∈ notedKeys := by decide
  kind : key = "type" → Text.lower ((root.set key value).str "type" Compiler.defaultKind) =
    Text.lower (root.str "type" Compiler.defaultKind) := by simp
  inputs : key = "inputs" → ∀ dialog host,
    Compile.inputs dialog host (root.set key value) = Compile.inputs dialog host root := by simp
  bodies : key = "bodies" → ∀ dialog host,
    Compile.bodies dialog host (root.set key value) = Compile.bodies dialog host root := by simp
  exit : key = "exit_button" → Option.Rel ActsAlike (root.part? "exit_button")
    ((root.set key value).part? "exit_button") := by simp
  grid : key = "buttons" → Kind.nameOf root = "multi_action" →
    List.Forall₂ ActsAlike (Kind.gridParts root) (Kind.gridParts (root.set key value)) := by simp
  answers : key = "buttons" → Kind.nameOf root ≠ "multi_action" → ∀ name ∈ ["confirm", "cancel"],
    Option.Rel ActsAlike ((root.part? "buttons").bind (·.part? name))
      (((root.set key value).part? "buttons").bind (·.part? name)) := by simp

theorem Document.rel_actsAlike_refl (part : Option Document) : Option.Rel ActsAlike part part := by
  cases part with
  | none => exact .none
  | some part => exact .some (.refl part)

theorem Document.forall₂_actsAlike_refl (parts : List Document) :
    List.Forall₂ ActsAlike parts parts :=
  List.forall₂_same.2 fun part _ ↦ .refl part

theorem Document.Alike.refl (root : Document) : root.Alike root where
  plain _ _ := rfl
  kind := rfl
  inputs _ _ := rfl
  bodies _ _ := rfl
  exit := rel_actsAlike_refl _
  grid _ := forall₂_actsAlike_refl _
  answers _ _ _ := rel_actsAlike_refl _

theorem Document.Harmless.alike {root : Document} {key : String} {value : Value}
    (h : root.Harmless key value) : root.Alike (root.set key value) := by
  have hvalue {path : String} (hpath : Text.split '.' path = [path]) (hne : key ≠ path) :
      (root.set key value).value? path = root.value? path :=
    value?_set_of_ne value (by rw [hpath]; simpa using hne.symm)
  constructor
  case plain =>
    have hdot : ∀ plain ∈ plainKeys, Text.split '.' plain = [plain] := by decide
    have hother : ∀ plain ∈ plainKeys, plain ∉ notedKeys := by decide
    intro plain hplain
    exact hvalue (hdot plain hplain) fun heq ↦ hother plain hplain (heq ▸ h.place)
  case kind =>
    by_cases hkey : key = "type"
    · exact h.kind hkey
    · rw [str, str?, hvalue (by decide) hkey]
      rfl
  case inputs =>
    by_cases hkey : key = "inputs"
    · exact h.inputs hkey
    · intro dialog host
      rw [Compile.inputs, items, list?, hvalue (by decide) hkey]
      rfl
  case bodies =>
    by_cases hkey : key = "bodies"
    · exact h.bodies hkey
    · intro dialog host
      rw [Compile.bodies, items, list?, hvalue (by decide) hkey]
      rfl
  case exit =>
    by_cases hkey : key = "exit_button"
    · exact h.exit hkey
    · rw [part?, part?, hvalue (by decide) hkey]
      exact rel_actsAlike_refl _
  case grid =>
    intro hkind
    by_cases hkey : key = "buttons"
    · exact h.grid hkey hkind
    · rw [Kind.gridParts_eq, Kind.gridParts_eq, gridEntries, gridEntries,
        hvalue (by decide) hkey]
      exact forall₂_actsAlike_refl _
  case answers =>
    intro hkind
    by_cases hkey : key = "buttons"
    · exact h.answers hkey hkind
    · intro name _
      rw [part?, part?, hvalue (by decide) hkey]
      exact rel_actsAlike_refl _

/-! ## Rewriting leaves roots alike -/

namespace Compile

variable {items items' : List Value}

theorem inputsFrom_of_rewrites (h : Document.RewritesItem Document.Retypes items items')
    (dialog : String) (host : Host) (index : Nat) (taken : List String) :
    inputsFrom dialog host index taken (items'.map Document.itemOf) =
      inputsFrom dialog host index taken (items.map Document.itemOf) := by
  obtain ⟨before, after, hretypes⟩ := h
  induction before generalizing index taken with
  | nil =>
    simp only [List.nil_append, List.map_cons, Document.toValue, Document.itemOf, inputsFrom,
      Component.input_of_retypes hretypes]
  | cons first before ih =>
    simp only [List.cons_append, List.map_cons, inputsFrom, ih]

theorem bodiesFrom_of_rewrites (h : Document.RewritesItem Document.Retypes items items')
    (dialog : String) (host : Host) (index : Nat) :
    bodiesFrom dialog host index (items'.map Document.itemOf) =
      bodiesFrom dialog host index (items.map Document.itemOf) := by
  obtain ⟨before, after, hretypes⟩ := h
  induction before generalizing index with
  | nil =>
    simp only [List.nil_append, List.map_cons, Document.toValue, Document.itemOf, bodiesFrom,
      Component.body_of_retypes hretypes]
  | cons first before ih =>
    simp only [List.cons_append, List.map_cons, bodiesFrom, ih]

end Compile

namespace Document

/-- In a map, too, the section under each key acts alike. -/
theorem rel_part?_keyed {part part' : Document} (h : part.ActsAlike part')
    (before after : List (String × Value)) (key : String) {name : String}
    (hname : Text.split '.' name = [name]) :
    Option.Rel ActsAlike ((Document.mk (before ++ (key, part.toValue) :: after)).part? name)
      ((Document.mk (before ++ (key, part'.toValue) :: after)).part? name) := by
  rw [part?, part?, value?_of_dotless hname, value?_of_dotless hname, entry?, entry?]
  induction before with
  | nil =>
    by_cases hkey : key = name
    · simp only [List.nil_append, Entries.get?, hkey, if_true]
      exact .some h
    · simp only [List.nil_append, Entries.get?, hkey, if_false]
      exact rel_actsAlike_refl _
  | cons entry before ih =>
    obtain ⟨k, value⟩ := entry
    by_cases hk : k = name
    · simp only [List.cons_append, Entries.get?, hk, if_true]
      exact rel_actsAlike_refl _
    · simpa only [List.cons_append, Entries.get?, hk, if_false] using ih

theorem forall₂_parts {before after : List Value} {part part' : Document}
    (h : part.ActsAlike part') :
    List.Forall₂ ActsAlike ((before ++ part.toValue :: after).filterMap ofValue?)
      ((before ++ part'.toValue :: after).filterMap ofValue?) := by
  have hpart (part : Document) : ofValue? part.toValue = some part := rfl
  rw [List.filterMap_append, List.filterMap_append, List.filterMap_cons_some (hpart part),
    List.filterMap_cons_some (hpart part')]
  exact List.rel_append (forall₂_actsAlike_refl _) (.cons h (forall₂_actsAlike_refl _))

/-- The buttons may be written as another value with the same sections, in the grid of a dialog of
several actions and under the two names of any other dialog. -/
theorem alike_set_buttons {root : Document} {value value' : Value}
    (hwritten : root.entry? "buttons" = some value)
    (hgrid : List.Forall₂ ActsAlike (value.members.filterMap ofValue?)
      (value'.members.filterMap ofValue?))
    (hanswers : Kind.nameOf root ≠ "multi_action" → ∀ name ∈ ["confirm", "cancel"],
      Option.Rel ActsAlike ((ofValue? value).bind (·.part? name))
        ((ofValue? value').bind (·.part? name))) :
    root.Alike (root.set "buttons" value') := by
  refine Harmless.alike { grid := fun _ _ ↦ ?_, answers := fun _ hkind name hname ↦ ?_ }
  · rwa [Kind.gridParts_of_written hwritten, Kind.gridParts_of_written (entry?_set_self _)]
  · rw [part?, part?, value?_of_dotless (by decide), hwritten, value?_set_self _ (by decide)]
    exact hanswers hkind name hname

theorem Rewrites.alike {id : String} {root root' : Document} (h : root.Rewrites id root') :
    root.Alike root' := by
  have hread {key : String} {value : Value} (hdot : Text.split '.' key = [key])
      (hwritten : root.entry? key = some value) : root.value? key = some value := by
    rw [value?_of_dotless hdot, hwritten]
  cases h with
  | kind hretypes =>
    have hkind := hretypes.lower_type Compiler.defaultKind
    obtain ⟨_, _⟩ := hretypes
    exact Harmless.alike { kind := fun _ ↦ hkind }
  | @component _ items items' hplace hwritten hrewrites =>
    rcases hplace with rfl | rfl
    · refine Harmless.alike { inputs := fun _ dialog host ↦ ?_ }
      rw [Compile.inputs, Compile.inputs, Document.items, Document.items, list?, list?,
        hread (by decide) hwritten, value?_set_self _ (by decide)]
      exact Compile.inputsFrom_of_rewrites hrewrites dialog host 0 []
    · refine Harmless.alike { bodies := fun _ dialog host ↦ ?_ }
      rw [Compile.bodies, Compile.bodies, Document.items, Document.items, list?, list?,
        hread (by decide) hwritten, value?_set_self _ (by decide)]
      exact Compile.bodiesFrom_of_rewrites hrewrites dialog host 0
  | exit hwritten hrewrites =>
    refine Harmless.alike { exit := fun _ ↦ ?_ }
    rw [part?, part?, hread (by decide) hwritten, value?_set_self _ (by decide)]
    exact .some (Compile.actsAlike_of_rewrites hrewrites)
  | listed hwritten hrewrites =>
    obtain ⟨before, after, hpart⟩ := hrewrites
    exact alike_set_buttons hwritten (forall₂_parts (Compile.actsAlike_of_rewrites hpart))
      fun _ _ _ ↦ .none
  | keyed hwritten hrewrites =>
    have hacts := Compile.actsAlike_of_rewrites hrewrites
    have hdot : ∀ name ∈ ["confirm", "cancel"], Text.split '.' name = [name] := by decide
    refine alike_set_buttons hwritten ?_ fun _ name hname ↦ ?_
    · rw [Value.members, Value.members, List.map_append, List.map_append]
      exact forall₂_parts hacts
    · exact rel_part?_keyed hacts _ _ _ (hdot name hname)
  | toMap hgrid _ _ hwritten =>
    exact alike_set_buttons hwritten (forall₂_actsAlike_refl _) fun hne ↦ absurd hgrid hne
  | toList hgrid _ hwritten =>
    exact alike_set_buttons hwritten (forall₂_actsAlike_refl _) fun hne ↦ absurd hgrid hne

end Document

/-! ## Compilations over roots that are alike -/

namespace Compiler

open Document (ActsAlike)

section

variable {c : Compiler} {compileTarget : String → CompileM Definition}

theorem runPlan_button_congr {part part' : Option Document} (h : Option.Rel ActsAlike part part')
    {next next' : Button → Plan}
    (hnext : ∀ button,
      c.runPlan compileTarget (next' button) = c.runPlan compileTarget (next button))
    (slot : ButtonSlot) : c.runPlan compileTarget (.button part' slot next') =
      c.runPlan compileTarget (.button part slot next) := by
  unfold runPlan
  cases h with
  | none => simp only [hnext]
  | some hacts => simp only [hacts c.catalog c.host compileTarget slot, hnext]

theorem runPlan_buildAll_congr {parts parts' : List Document}
    (h : List.Forall₂ ActsAlike parts parts') {next next' : List Button → Plan}
    (hnext : ∀ buttons,
      c.runPlan compileTarget (next' buttons) = c.runPlan compileTarget (next buttons)) :
    c.runPlan compileTarget (Kind.buildAll parts' next') =
      c.runPlan compileTarget (Kind.buildAll parts next) := by
  induction h generalizing next next' with
  | nil => exact hnext []
  | cons hacts _ ih =>
    exact runPlan_button_congr (.some hacts) (fun button ↦ ih fun _ ↦ hnext _) .action

theorem runPlan_finishGrid_congr {root root' : Document} (h : root.Alike root')
    (buttons : List Button) : c.runPlan compileTarget (Kind.finishGrid root' buttons) =
      c.runPlan compileTarget (Kind.finishGrid root buttons) := by
  have hcolumns : root'.nat32 "columns" 2 = root.nat32 "columns" 2 := by
    rw [Document.nat32, Document.nat32?, Document.int?, h.plain "columns" (by decide)]
    rfl
  unfold Kind.finishGrid
  rw [hcolumns]
  have hexit := h.exit
  generalize root.part? "exit_button" = part at hexit
  generalize root'.part? "exit_button" = part' at hexit
  cases hexit with
  | none => rfl
  | some hacts => exact runPlan_button_congr (.some hacts) (fun _ ↦ rfl) .action

end

variable (catalog : Catalog) (host : Host) {root root' : Document}

/-- The plans of the selected kind are run alike. -/
theorem runPlan_of_alike (h : root.Alike root') (compileTarget : String → CompileM Definition)
    (view : KindView) :
    (builtin catalog host).runPlan compileTarget
        (((builtin catalog host).kindOf root).plan view root') =
      (builtin catalog host).runPlan compileTarget
        (((builtin catalog host).kindOf root).plan view root) := by
  rw [Kind.kindOf_builtin]
  split
  case h_1 => exact runPlan_button_congr h.exit (fun _ ↦ rfl) .acknowledge
  case h_2 hkind =>
    refine runPlan_buildAll_congr (h.grid hkind) fun buttons ↦ ?_
    split
    · unfold runPlan
      rw [runPlan_finishGrid_congr h]
    · exact runPlan_finishGrid_congr h buttons
  case h_3 hgrid =>
    refine runPlan_button_congr (h.answers hgrid "confirm" (by decide)) (fun confirm ↦ ?_) .confirm
    exact runPlan_button_congr (h.answers hgrid "cancel" (by decide)) (fun _ ↦ rfl) .cancel

theorem build_of_alike (h : root.Alike root') (compileTarget : String → CompileM Definition)
    (path : List String) (id : String) :
    (builtin catalog host).build compileTarget path id root =
      (builtin catalog host).build compileTarget path id root' := by
  have htext {key : String} (hkey : key ∈ Document.plainKeys) (default : String) :
      root'.str key default = root.str key default := by
    rw [Document.str, Document.str?, h.plain key hkey]
    rfl
  have hescape : root'.bool "can_close_with_escape" true =
      root.bool "can_close_with_escape" true := by
    rw [Document.bool, Document.bool?, h.plain _ (by decide)]
    rfl
  have hplan := runPlan_of_alike catalog host h compileTarget ((builtin catalog host).view path)
  unfold kindOf view at hplan
  unfold build
  rw [h.inputs, h.bodies, h.kind, htext (by decide), htext (by decide), hescape]
  refine bind_congr fun _ ↦ bind_congr fun inputs ↦ bind_congr fun body ↦ ?_
  apply CompileM.lift_bind_congr
  rw [hplan]

variable {catalog} {catalog' : Catalog}

/-- Catalogs with the same ids, whose roots are alike, are compiled to the same, down to what is
reported. -/
theorem compile_of_alike (hids : catalog.ids = catalog'.ids)
    (hroot : ∀ id, Option.Rel Document.Alike (catalog.root? id) (catalog'.root? id)) (id : String) :
    (builtin catalog host).compile id = (builtin catalog' host).compile id := by
  have hknown (id : String) : catalog.contains id = catalog'.contains id := by
    have halike := hroot id
    rw [← Catalog.isSome_root?, ← Catalog.isSome_root?]
    generalize catalog.root? id = root at halike
    generalize catalog'.root? id = root' at halike
    cases halike <;> rfl
  have henabled (id : String) : catalog.isEnabled id = catalog'.isEnabled id := by
    have halike := hroot id
    unfold Catalog.isEnabled
    generalize catalog.root? id = root at halike
    generalize catalog'.root? id = root' at halike
    cases halike with
    | none => rfl
    | some halike =>
      dsimp only
      rw [Document.bool, Document.bool, Document.bool?, Document.bool?,
        halike.plain "enabled" (by decide)]
  refine compile_congr_of_build hknown henabled hids ?_ id
  intro compileTarget path id root root' hsome hsome'
  have halike := hroot id
  change catalog.root? id = some root at hsome
  change catalog'.root? id = some root' at hsome'
  rw [hsome, hsome'] at halike
  cases halike with
  | some halike =>
    exact (build_of_alike catalog host halike compileTarget path id).trans
      (build_congr KindSet.readRoots_builtin hknown compileTarget path id root')

end Compiler

/-! ## Rewriting catalogs -/

namespace Catalog

variable {catalog catalog' : Catalog}

theorem isNested_of_written {id : String} {document : Document} {value : Value}
    (h : document.entry? id = some value) :
    isNested id document = (Document.ofValue? value).isSome := by
  unfold isNested
  rw [h]
  cases value <;> rfl

/-- Writing an entry of the same shape does not hide the content of a document. -/
theorem isNested_set {id key : String} {root : Document} {value value' : Value}
    (written : root.entry? key = some value)
    (hshape : key = id → (Document.ofValue? value').isSome = (Document.ofValue? value).isSome) :
    isNested id (root.set key value') = isNested id root := by
  by_cases hkey : key = id
  · subst hkey
    rw [isNested_of_written (Document.entry?_set_self _), isNested_of_written written]
    exact hshape rfl
  · unfold isNested
    rw [Document.entry?_set_of_ne _ hkey]

theorem isNested_of_rewrites {id : String} {root root' : Document} (h : root.Rewrites id root') :
    isNested id root' = isNested id root := by
  cases h with
  | kind hretypes =>
    obtain ⟨hwritten, _⟩ := hretypes
    exact isNested_set hwritten fun _ ↦ rfl
  | component _ hwritten _ => exact isNested_set hwritten fun _ ↦ rfl
  | exit hwritten _ => exact isNested_set hwritten fun _ ↦ rfl
  | listed hwritten _ => exact isNested_set hwritten fun _ ↦ rfl
  | keyed hwritten _ => exact isNested_set hwritten fun _ ↦ rfl
  | toMap _ hother _ hwritten => exact isNested_set hwritten fun heq ↦ absurd heq.symm hother
  | toList _ hother hwritten => exact isNested_set hwritten fun heq ↦ absurd heq.symm hother

/-- One rewriting leaves the ids as they are and every root alike. -/
theorem Rewrites.alike (h : catalog.Rewrites catalog') :
    catalog'.ids = catalog.ids ∧
      ∀ id, Option.Rel Document.Alike (catalog.root? id) (catalog'.root? id) := by
  have hinsert {id : String} {document document' root root' : Document}
      (hknown : catalog.get? id = some document) (hroot : unwrap id document = root)
      (hroot' : unwrap id document' = root') (halike : root.Alike root') (other : String) :
      Option.Rel Document.Alike (catalog.root? other)
        ((catalog.insert id document').root? other) := by
    unfold root?
    by_cases hother : id = other
    · subst hother
      rw [hknown, get?_insert_self, Option.map_some, Option.map_some, hroot, hroot']
      exact .some halike
    · rw [get?_insert_of_ne hother]
      cases catalog.get? other with
      | none => exact .none
      | some document => exact .some (.refl _)
  cases h with
  | flat hknown hflat hrewrites =>
    have hflat' := (isNested_of_rewrites hrewrites).trans hflat
    exact ⟨ids_insert hknown, hinsert hknown (unwrap_of_isNested_eq_false hflat)
      (unwrap_of_isNested_eq_false hflat') hrewrites.alike⟩
  | nested hknown hentry hrewrites =>
    refine ⟨ids_insert hknown, hinsert hknown ?_ ?_ hrewrites.alike⟩
    · rw [unwrap, hentry]
      rfl
    · rw [unwrap, Document.entry?_set_self]
      rfl

end Catalog

namespace Compiler

/-- However the dialogs of a catalog are rewritten, each is compiled to the same. In particular the
grid of a dialog of several actions has one button for each map among its entries, in their order
and before the button to leave, or the placeholders if there is no such entry. -/
theorem compile_of_rewrites {catalog catalog' : Catalog}
    (h : Relation.ReflTransGen Catalog.Rewrites catalog catalog') (host : Host) :
    (∀ id, (builtin catalog' host).compile id = (builtin catalog host).compile id) ∧
    ∀ path id root d, catalog.root? id = some root → Kind.nameOf root = "multi_action" →
      outcome ((builtin catalog host).dialog path id) = .ok d →
      let makes := (builtin catalog host).Makes ((builtin catalog host).dialog (path ++ [id]))
      let parts := root.gridEntries.filterMap Document.ofValue?
      ∃ grid exit, d.layout = .multiAction grid exit (root.nat32 "columns" 2) ∧
        d.layout.buttons = grid ++ exit.toList ∧
        (parts = [] ∧ grid = Kind.placeholders ∨ parts ≠ [] ∧ List.Forall₂ makes parts grid) ∧
        Option.Rel makes (root.part? "exit_button") exit := by
  constructor
  · intro id
    induction h with
    | refl => rfl
    | tail _ hstep ih =>
      obtain ⟨hids, hroot⟩ := hstep.alike
      exact (compile_of_alike host hids.symm hroot id).symm.trans ih
  · intro path id root d hroot hkind hd makes parts
    obtain ⟨grid, exit, hlayout, hgrid, hexit⟩ := grid_of_dialog hroot hkind hd
    rw [Kind.gridParts_eq] at hgrid
    exact ⟨grid, exit, hlayout, congrArg Layout.buttons hlayout, hgrid, hexit⟩

/-- A menu under its own id, with the given type and buttons, before an empty dialog. -/
def menuOf (kind : String) (buttons : Value) : Catalog :=
  ⟨[("menu", ⟨[("menu", .map [("type", .str kind), ("buttons", buttons)])]⟩), ("leaf", ⟨[]⟩)]⟩

/-- A button section that only has an action. -/
def buttonWith (action : Value) : Value :=
  .map [("action", action)]

/-- A list that becomes a map with the empty key and a key with a dot. -/
theorem compile_of_rewrites_menu :
    let close := buttonWith (.map [("type", .str "close")])
    let listed := menuOf "multi_action" (.list [buttonWith (.str "close"), .null, showing "leaf"])
    let keyed := menuOf "Multi_ACTION" (.map [("", close), ("a.b", .null), ("a", showing "leaf")])
    Relation.ReflTransGen Catalog.Rewrites listed keyed ∧
    (builtin keyed {}).compile "menu" = (builtin listed {}).compile "menu" ∧
    ∃ d grid, outcome ((builtin keyed {}).compile "menu") = .ok d ∧
      d.layout = .multiAction grid none 2 ∧ grid.map (·.action.isSome) = [true, true] ∧
      d.Embeds "leaf" leafDialog := by
  intro close listed keyed
  let spelled := menuOf "multi_action" (.list [close, .null, showing "leaf"])
  let mapped := menuOf "multi_action" (.map [("", close), ("a.b", .null), ("a", showing "leaf")])
  have hspelled : Catalog.Rewrites listed spelled :=
    @Catalog.Rewrites.nested listed "menu" _ _ _ rfl rfl
      (.listed rfl (.mk [] [.null, showing "leaf"] (.spelledOut rfl)))
  have hmapped : Catalog.Rewrites spelled mapped :=
    @Catalog.Rewrites.nested spelled "menu" _ _ _ rfl rfl
      (@Document.Rewrites.toMap "menu" _ [("", close), ("a.b", .null), ("a", showing "leaf")]
        (by decide) (by decide) (by decide) rfl)
  have hretyped : Catalog.Rewrites mapped keyed :=
    @Catalog.Rewrites.nested mapped "menu" _ _ _ rfl rfl
      (.kind (@Document.Retypes.mk _ "multi_action" "Multi_ACTION" rfl (by decide)))
  have hrewrites : Relation.ReflTransGen Catalog.Rewrites listed keyed :=
    ((Relation.ReflTransGen.single hspelled).tail hmapped).tail hretyped
  obtain ⟨hsame, hgrid⟩ := compile_of_rewrites hrewrites {}
  have hrun : ∃ d t, Trail.compile (builtin listed {}) 3 "menu" = some (.ok d, t) ∧
      d.layout.buttons.map (·.action.isSome) = [true, true] ∧ d.Embeds "leaf" leafDialog :=
    ⟨_, _, rfl, rfl, .here (.tail _ (.head _)) rfl⟩
  obtain ⟨d, _, hrun, hactions, hleaf⟩ := hrun
  have hlisted := Trail.outcome_of_compile (by decide) hrun
  obtain ⟨grid, exit, hlayout, hbuttons, _, hexit⟩ :=
    hgrid [] "menu" _ d rfl (by decide) ((compile_eq_ok _).1 hlisted).2.2
  obtain rfl : exit = none := by
    cases exit with
    | none => rfl
    | some exit => nomatch hexit
  rw [hbuttons, Option.toList_none, List.append_nil] at hactions
  exact ⟨hrewrites, hsame "menu", d, grid, hsame "menu" ▸ hlisted, hlayout, hactions, hleaf⟩

end Compiler

end DialogKit
