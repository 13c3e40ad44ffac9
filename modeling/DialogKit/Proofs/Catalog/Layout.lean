import DialogKit.Proofs.Compile.Embedding
import DialogKit.Validation.Check
import Mathlib.Data.List.Basic

/-!
# Documents that hold their content under their own id

Whether a dialog is written at the top level of its document or under its own id makes no
difference. Where a document holds its content under its id, the content may take its place: every
dialog is compiled as before, down to what is logged on the way, is as free to be opened, and asks
for the same permissions. The validator only loses its hint about the layout.

The compiler, the permissions and the validator read a document through its root, in which the id is
a plain key: dots and slashes in it mean nothing, and other keys beside it are not looked at.
-/

namespace DialogKit

namespace Catalog

/-- The document holds the content under the id, and the content holds no map under it again. -/
structure Nests (id : String) (document content : Document) : Prop where
  entry : document.entry? id = some (.map content.entries)
  flat : isNested id content = false

section

variable {catalog : Catalog} {id : String} {document content : Document}

theorem unwrap_of_isNested_eq_false (h : isNested id document = false) :
    unwrap id document = document := by
  unfold isNested at h
  unfold unwrap
  split at h
  · simp at h
  · simp_all

theorem Nests.isNested (h : Nests id document content) : Catalog.isNested id document = true := by
  unfold Catalog.isNested
  rw [h.entry]

/-- In its own place or under the id, the content is the root. -/
theorem Nests.unwrap_eq (h : Nests id document content) :
    unwrap id document = unwrap id content := by
  rw [unwrap_of_isNested_eq_false h.flat, unwrap, h.entry]

theorem get?_insert_self : (catalog.insert id document).get? id = some document :=
  Entries.get?_insert_self id document catalog.dialogs

theorem get?_insert_of_ne {other : String} (h : id ≠ other) :
    (catalog.insert id document).get? other = catalog.get? other :=
  Entries.get?_insert_of_ne h document catalog.dialogs

theorem insert_of_get? (h : catalog.get? id = some document) :
    catalog.insert id document = catalog :=
  congrArg Catalog.mk (Entries.insert_of_get? h)

theorem root?_insert_content (hget : catalog.get? id = some document)
    (hnests : Nests id document content) (other : String) :
    (catalog.insert id content).root? other = catalog.root? other := by
  unfold root?
  by_cases hother : id = other
  · subst hother
    rw [get?_insert_self, hget, Option.map_some, Option.map_some, hnests.unwrap_eq]
  · rw [get?_insert_of_ne hother]

/-- A document that takes the place of another one has its place among the ids too. -/
theorem ids_insert (hget : catalog.get? id = some document) :
    (catalog.insert id content).ids = catalog.ids := by
  have horder : (catalog.insert id content).order = catalog.order :=
    Entries.keys_insert_of_mem (Entries.mem_keys_of_get? hget)
  unfold ids
  rw [horder]

/-- Catalogs that come about by adding, replacing and removing dialogs. -/
inductive Built : Catalog → Prop
  | empty : Built empty
  | insert {catalog : Catalog} (h : Built catalog) (id : String) (document : Document) :
      Built (catalog.insert id document)
  | remove {catalog : Catalog} (h : Built catalog) (id : String) : Built (catalog.remove id)

/-- Each of their ids has one place. -/
theorem Built.nodup_order (h : Built catalog) : catalog.order.Nodup := by
  induction h with
  | empty => exact List.nodup_nil
  | insert _ id document ih => exact Entries.nodup_keys_insert ih
  | @remove catalog _ id ih =>
    have horder : (catalog.remove id).order = catalog.order.erase id := Entries.keys_erase ..
    exact horder ▸ ih.erase id

/-- The sorted ids are the ids of the catalog. -/
theorem ids_perm_order (catalog : Catalog) : catalog.ids.Perm catalog.order := by
  have hsorted := (List.mergeSort_perm (catalog.order.map fun id ↦ (Text.lower id, id))
    fun a b ↦ a.1 ≤ b.1).map Prod.snd
  simpa [ids, Function.comp_def] using hsorted

end

end Catalog

/-! ## Compilations that see the same roots -/

theorem CompileM.lift_bind_congr {α β : Type} {x : Logged α} {f g : α → CompileM β}
    (h : f x.result = g x.result) : (ExceptT.lift x >>= f : CompileM β) = ExceptT.lift x >>= g := by
  apply ExceptT.ext
  rw [ExceptT.run_bind_lift, ExceptT.run_bind_lift]
  apply Journal.ext
  · simp only [Journal.result_bind, h]
  · simp only [Journal.notes_bind, h]

/-- The kinds of the set look at nothing but the root of a dialog. -/
def KindSet.ReadRoots (kinds : KindSet) : Prop :=
  ∀ name view view' root,
    (kinds.resolve name).result.plan view root = (kinds.resolve name).result.plan view' root

theorem KindSet.readRoots_builtin : KindSet.builtin.result.ReadRoots := by
  intro name view view' root
  rw [Kind.resolve_builtin]
  split <;> rfl

section

variable {catalog catalog' : Catalog} {kinds : KindSet} {host : Host}

theorem Compile.button_congr (h : ∀ id, catalog.contains id = catalog'.contains id) (host : Host)
    (compileTarget : String → CompileM Definition) (part : Option Document) (slot : ButtonSlot) :
    button catalog host compileTarget part slot = button catalog' host compileTarget part slot := by
  simp only [button, action, showAction, h]

namespace Compiler

theorem runPlan_congr (h : ∀ id, catalog.contains id = catalog'.contains id)
    (compileTarget : String → CompileM Definition) (plan : Plan) :
    runPlan ⟨catalog, kinds, host⟩ compileTarget plan =
      runPlan ⟨catalog', kinds, host⟩ compileTarget plan := by
  induction plan with
  | finish layout => rfl
  | fail fault => rfl
  | note event next ih =>
    unfold runPlan
    rw [ih]
  | button part slot next ih =>
    unfold runPlan
    simp only [ih, Compile.button_congr h]

theorem build_congr (hkinds : kinds.ReadRoots)
    (h : ∀ id, catalog.contains id = catalog'.contains id)
    (compileTarget : String → CompileM Definition) (path : List String) (id : String)
    (root : Document) :
    build ⟨catalog, kinds, host⟩ compileTarget path id root =
      build ⟨catalog', kinds, host⟩ compileTarget path id root := by
  unfold build
  refine bind_congr fun _ ↦ bind_congr fun inputs ↦ bind_congr fun body ↦ ?_
  apply CompileM.lift_bind_congr
  rw [runPlan_congr h, hkinds _ _ ⟨path, catalog', host⟩]

/-- Two compilations that know the same dialogs and put each of them together alike are the same on
every path. -/
theorem dialog_congr_of_build {c c' : Compiler}
    (hknown : ∀ id, c.catalog.contains id = c'.catalog.contains id)
    (hbuild : ∀ compileTarget path id root root', c.catalog.root? id = some root →
      c'.catalog.root? id = some root' →
      c.build compileTarget path id root = c'.build compileTarget path id root')
    (path : List String) (id : String) : c.dialog path id = c'.dialog path id := by
  have hsome (id : String) : (c.catalog.root? id).isSome = (c'.catalog.root? id).isSome := by
    rw [Catalog.isSome_root?, Catalog.isSome_root?, hknown]
  induction path, id using dialog.induct c with
  | case1 path id hmem => rw [dialog, dialog, dif_pos hmem, dif_pos hmem]
  | case2 path id hmem hnone =>
    have hnone' : c'.catalog.root? id = none := by simpa [hnone] using (hsome id).symm
    rw [dialog_of_root?_eq_none _ hmem hnone, dialog_of_root?_eq_none _ hmem hnone']
  | case3 path id hmem root hroot ih =>
    have hsome' : (c'.catalog.root? id).isSome := by simpa [hroot] using (hsome id).symm
    obtain ⟨root', hroot'⟩ := Option.isSome_iff_exists.1 hsome'
    rw [dialog_of_root? _ hmem hroot, dialog_of_root? _ hmem hroot',
      hbuild _ _ id root root' hroot hroot']
    simp only [ih]

/-- Such compilations also are the same from the entry on, if they let the same dialogs in and name
the same ids. -/
theorem compile_congr_of_build {c c' : Compiler}
    (hknown : ∀ id, c.catalog.contains id = c'.catalog.contains id)
    (henabled : ∀ id, c.catalog.isEnabled id = c'.catalog.isEnabled id)
    (hids : c.catalog.ids = c'.catalog.ids)
    (hbuild : ∀ compileTarget path id root root', c.catalog.root? id = some root →
      c'.catalog.root? id = some root' →
      c.build compileTarget path id root = c'.build compileTarget path id root')
    (id : String) : c.compile id = c'.compile id := by
  unfold compile
  rw [dialog_congr_of_build hknown hbuild]
  simp only [hknown, henabled, hids]

/-- Besides the ids, a compilation reads nothing of the catalog but the roots. -/
theorem compile_congr (hkinds : kinds.ReadRoots)
    (hroot : ∀ id, catalog.root? id = catalog'.root? id) (hids : catalog.ids = catalog'.ids)
    (id : String) : compile ⟨catalog, kinds, host⟩ id = compile ⟨catalog', kinds, host⟩ id := by
  have hcontains (id : String) : catalog.contains id = catalog'.contains id := by
    rw [← Catalog.isSome_root?, ← Catalog.isSome_root?, hroot]
  refine compile_congr_of_build hcontains (fun id ↦ ?_) hids ?_ id
  · unfold Catalog.isEnabled
    rw [hroot]
  · intro compileTarget path id root root' hsome hsome'
    obtain rfl : root = root' := Option.some.inj (hsome.symm.trans ((hroot id).trans hsome'))
    exact build_congr hkinds hcontains compileTarget path id root

end Compiler

end

/-! ## Validation -/

namespace Validation

/-- The hint that a dialog is written under its own id. -/
def nestingHint (id : String) : Issue where
  severity := .info
  dialog := id
  input := none
  message := "Dialog uses nested structure (dialog ID as root key)"
  suggestion := "Consider moving content to root level for cleaner structure"

variable {catalog : Catalog} {id : String} {document content : Document}

theorem issues_of_nests (h : Catalog.Nests id document content) (format : Formatter) :
    (dialog format id document).issues = nestingHint id :: (dialog format id content).issues := by
  have hnested : nestingIssues ⟨id, format⟩ document = [nestingHint id] := by
    rw [nestingIssues, if_pos h.isNested]
    rfl
  have hflat : nestingIssues ⟨id, format⟩ content = [] := by
    rw [nestingIssues, if_neg (by simp [h.flat])]
  simp only [dialog, hnested, hflat, h.unwrap_eq]
  rfl

/-- The issues with the dialog under an id, if there is one. -/
def issuesOf (format : Formatter) (catalog : Catalog) (id : String) : List Issue :=
  ((catalog.get? id).map fun document ↦ (dialog format id document).issues).getD []

theorem issues_catalog (format : Formatter) (catalog : Catalog) :
    (Validation.catalog format catalog).issues = catalog.ids.flatMap (issuesOf format catalog) := by
  refine List.flatMap_congr fun id _ ↦ ?_
  unfold issuesOf
  cases catalog.get? id <;> rfl

theorem issuesOf_insert_self (format : Formatter) :
    issuesOf format (catalog.insert id document) id = (dialog format id document).issues := by
  rw [issuesOf, Catalog.get?_insert_self, Option.map_some, Option.getD_some]

/-- The dialogs under other ids keep their issues. -/
theorem flatMap_issuesOf_insert (format : Formatter) {ids : List String} (h : id ∉ ids) :
    ids.flatMap (issuesOf format (catalog.insert id document)) =
      ids.flatMap (issuesOf format catalog) := by
  refine List.flatMap_congr fun other hother ↦ ?_
  have hne : id ≠ other := fun heq ↦ h (heq ▸ hother)
  rw [issuesOf, issuesOf, Catalog.get?_insert_of_ne hne]

/-- The issues with a catalog that has each id once, around those with one of its dialogs. -/
theorem exists_issues_eq (hkeys : catalog.order.Nodup) (hget : catalog.get? id = some document)
    (format : Formatter) :
    ∃ before after, ∀ other,
      (Validation.catalog format (catalog.insert id other)).issues =
        before ++ (dialog format id other).issues ++ after := by
  have hmem : id ∈ catalog.ids :=
    (catalog.ids_perm_order.mem_iff).2 (Entries.mem_keys_of_get? hget)
  obtain ⟨front, back, hids⟩ := List.append_of_mem hmem
  have hnodup : (front ++ id :: back).Nodup := hids ▸ (catalog.ids_perm_order.nodup_iff).2 hkeys
  have hfront : id ∉ front := fun hid ↦
    (List.nodup_append.1 hnodup).2.2 id hid id (List.mem_cons_self ..) rfl
  have hback : id ∉ back := (List.nodup_cons.1 (List.nodup_append.1 hnodup).2.1).1
  refine ⟨front.flatMap (issuesOf format catalog), back.flatMap (issuesOf format catalog),
    fun other ↦ ?_⟩
  calc
    _ = (front ++ id :: back).flatMap (issuesOf format (catalog.insert id other)) := by
      rw [issues_catalog, Catalog.ids_insert hget, hids]
    _ = _ := by
      rw [List.flatMap_append, List.flatMap_cons, flatMap_issuesOf_insert format hfront,
        flatMap_issuesOf_insert format hback, issuesOf_insert_self, List.append_assoc]

end Validation

namespace Catalog

/-- The content of a document may take the place of the document that holds it under its own id.
Nothing else in the catalog sees it, and the validator has one hint less. -/
theorem content_alike {catalog : Catalog} {id : String} {document content : Document}
    (hget : catalog.get? id = some document) (hnests : Nests id document content) :
    let flat := catalog.insert id content
    (∀ host other, (Compiler.builtin flat host).compile other =
      (Compiler.builtin catalog host).compile other) ∧
    (∀ other, flat.isEnabled other = catalog.isEnabled other ∧
      flat.permissionToOpen other = catalog.permissionToOpen other ∧
      flat.permissionToOpenRemote other = catalog.permissionToOpenRemote other) ∧
    (catalog.order.Nodup → ∀ format, ∃ before after,
      (Validation.catalog format catalog).issues =
        before ++ Validation.nestingHint id :: after ∧
      (Validation.catalog format flat).issues = before ++ after) := by
  intro flat
  have hroot : ∀ other, flat.root? other = catalog.root? other := root?_insert_content hget hnests
  refine ⟨fun host other ↦ ?_, fun other ↦ ?_, fun hkeys format ↦ ?_⟩
  · exact Compiler.compile_congr KindSet.readRoots_builtin hroot (ids_insert hget) other
  · unfold isEnabled permissionToOpen permissionToOpenRemote
    rw [hroot]
    exact ⟨rfl, rfl, rfl⟩
  · obtain ⟨before, after, hissues⟩ := Validation.exists_issues_eq hkeys hget format
    refine ⟨before, (Validation.dialog format id content).issues ++ after, ?_, ?_⟩
    · have hcatalog := hissues document
      rw [insert_of_get? hget, Validation.issues_of_nests hnests] at hcatalog
      rw [hcatalog, List.append_assoc, List.cons_append]
    · rw [hissues content, List.append_assoc]

/-- A disabled dialog under its own id, with another key beside it, and a notice that shows it. -/
def wrappedCatalog : Catalog :=
  ⟨[("menu", Compiler.noticeOf "shop/v1.0"),
    ("shop/v1.0", ⟨[("since", .int 1), ("shop/v1.0", .map [("enabled", .bool false)])]⟩)]⟩

theorem content_alike_wrapped :
    let flat := wrappedCatalog.insert "shop/v1.0" ⟨[("enabled", .bool false)]⟩
    (∃ document, wrappedCatalog.get? "shop/v1.0" = some document ∧
      Nests "shop/v1.0" document ⟨[("enabled", .bool false)]⟩) ∧
    wrappedCatalog.order.Nodup ∧
    (Compiler.builtin flat {}).compile "menu" =
      (Compiler.builtin wrappedCatalog {}).compile "menu" ∧
    flat.isEnabled "shop/v1.0" = false ∧ wrappedCatalog.isEnabled "shop/v1.0" = false ∧
    ∃ before after,
      (Validation.catalog id wrappedCatalog).issues =
        before ++ Validation.nestingHint "shop/v1.0" :: after ∧
      (Validation.catalog id flat).issues = before ++ after := by
  intro flat
  have hnests : Nests "shop/v1.0"
      ⟨[("since", .int 1), ("shop/v1.0", .map [("enabled", .bool false)])]⟩
      ⟨[("enabled", .bool false)]⟩ := ⟨rfl, rfl⟩
  have hkeys : wrappedCatalog.order.Nodup := by decide
  have hget : wrappedCatalog.get? "shop/v1.0" = some _ := rfl
  obtain ⟨hcompile, hgates, hissues⟩ := content_alike hget hnests
  have hdisabled : wrappedCatalog.isEnabled "shop/v1.0" = false := rfl
  exact ⟨⟨_, rfl, hnests⟩, hkeys, hcompile {} "menu", (hgates _).1.trans hdisabled, hdisabled,
    hissues hkeys id⟩

end Catalog

end DialogKit
