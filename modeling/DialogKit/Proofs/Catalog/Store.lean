import DialogKit.Proofs.Catalog.Layout
import DialogKit.Proofs.Text.Replace
import Mathlib.Data.List.Induction

/-!
# Catalogs over whole runs of changes

A catalog is told by the changes that led to it. Each id has the document that was last written
under it, and stands where it came since it was last absent: a document that replaces another one
takes over its place, and a removal keeps the order of the others. A text that cannot be read
changes nothing. The sorted ids and the ids for a typed prefix are views of this order, in which
ids that differ by case alone stay in order.
-/

namespace DialogKit

/-! ## Texts -/

/-- The text is that of a map, which is the document. -/
inductive Source.Reads : Source.Format → String → Document → Prop
  | ron {source : String} {document : Document}
      (parsed : Ron.parse source = .ok (.map document.entries)) : Reads .ron source document
  | json {source : String} {json : Json} {document : Document}
      (parsed : Json.parse source = .ok json)
      (isMap : Value.ofJson json = .map document.entries) : Reads .json source document

namespace Document

theorem ofSourceValue_eq_ok {format : Source.Format} {value : Value} {document : Document} :
    ofSourceValue format value = .ok document ↔ value = .map document.entries := by
  rw [← ofValue?_eq_some, ofSourceValue]
  cases ofValue? value <;> simp

theorem ofText_eq_ok {format : Source.Format} {source : String} {document : Document} :
    ofText format source = .ok document ↔ Source.Reads format source document := by
  cases format with
  | ron =>
    simp only [ofText, ofRonText]
    constructor
    · intro h
      split at h
      case h_1 hparsed => exact .ron (ofSourceValue_eq_ok.1 h ▸ hparsed)
      case h_2 => cases h
    · rintro ⟨hparsed⟩
      rw [hparsed]
      exact ofSourceValue_eq_ok.2 rfl
  | json =>
    simp only [ofText, ofJsonText]
    constructor
    · intro h
      split at h
      case h_1 hparsed => exact .json hparsed (ofSourceValue_eq_ok.1 h)
      case h_2 => cases h
    · rintro (_ | ⟨hparsed, hmap⟩)
      rw [hparsed]
      exact ofSourceValue_eq_ok.2 hmap

end Document

namespace Catalog

/-! ## Changes -/

/-- A change of a catalog. -/
inductive Edit where
  | insert (id : String) (document : Document)
  | insertText (id : String) (format : Source.Format) (source : String)
  | remove (id : String)

/-- The catalog after a change. -/
def apply (c : Catalog) : Edit → Catalog
  | .insert id document => c.insert id document
  | .insertText id format source =>
      match c.insertText id format source with
      | .ok c' => c'
      | .error _ => c
  | .remove id => c.remove id

/-- The catalog that the changes lead to, one after the other. -/
def after (edits : List Edit) : Catalog :=
  edits.foldl apply empty

theorem after_snoc (edits : List Edit) (edit : Edit) :
    after (edits ++ [edit]) = (after edits).apply edit := by
  rw [after, List.foldl_append]
  rfl

/-- The change writes the document under the id. -/
inductive Edit.Writes : Edit → String → Document → Prop
  | insert (id : String) (document : Document) : Writes (.insert id document) id document
  | insertText {id : String} {format : Source.Format} {source : String} {document : Document}
      (reads : Source.Reads format source document) :
      Writes (.insertText id format source) id document

/-- The change neither writes under the id nor removes it. -/
structure Edit.Spares (edit : Edit) (id : String) : Prop where
  not_writes : ∀ document, ¬ edit.Writes id document
  ne_remove : edit ≠ .remove id

theorem Edit.Writes.unique {edit : Edit} {id id' : String} {document document' : Document}
    (h : edit.Writes id document) (h' : edit.Writes id' document') :
    id' = id ∧ document' = document := by
  cases h with
  | insert => cases h'; exact ⟨rfl, rfl⟩
  | insertText hreads =>
    cases h' with
    | insertText hreads' =>
      have hok := (Document.ofText_eq_ok.2 hreads').symm.trans (Document.ofText_eq_ok.2 hreads)
      exact ⟨rfl, Except.ok.inj hok⟩

theorem insertText_of_reads {format : Source.Format} {source : String} {document : Document}
    (c : Catalog) (id : String) (h : Source.Reads format source document) :
    c.insertText id format source = .ok (c.insert id document) := by
  rw [insertText, Document.ofText_eq_ok.2 h]
  rfl

/-- A text that is not that of a map is refused. -/
theorem insertText_of_not_reads {format : Source.Format} {source : String} (c : Catalog)
    (id : String) (h : ¬ ∃ document, Source.Reads format source document) :
    ∃ fault, c.insertText id format source = .error fault := by
  cases htext : Document.ofText format source with
  | ok document => exact absurd ⟨document, Document.ofText_eq_ok.1 htext⟩ h
  | error fault => exact ⟨fault, by rw [insertText, htext]; rfl⟩

/-- A change writes one document, removes one id or keeps the catalog. -/
theorem apply_cases (edit : Edit) :
    (∃ id document, edit.Writes id document ∧ ∀ c, apply c edit = c.insert id document) ∨
    (∃ id, edit = .remove id ∧ ∀ c, apply c edit = c.remove id) ∨
    (∀ id, edit.Spares id) ∧ ∀ c, apply c edit = c := by
  cases edit with
  | insert id document => exact .inl ⟨id, document, .insert id document, fun _ ↦ rfl⟩
  | remove id => exact .inr (.inl ⟨id, rfl, fun _ ↦ rfl⟩)
  | insertText id format source =>
    by_cases hreads : ∃ document, Source.Reads format source document
    · obtain ⟨document, hreads⟩ := hreads
      refine .inl ⟨id, document, .insertText hreads, fun c ↦ ?_⟩
      rw [apply, insertText_of_reads c id hreads]
    · refine .inr (.inr ⟨fun other ↦ ⟨fun document hwrites ↦ ?_, nofun⟩, fun c ↦ ?_⟩)
      · cases hwrites with
        | insertText h => exact hreads ⟨document, h⟩
      · obtain ⟨fault, hfault⟩ := insertText_of_not_reads c id hreads
        rw [apply, hfault]

section

variable {c : Catalog} {edits : List Edit} {edit : Edit} {id : String} {document : Document}

theorem built_after (edits : List Edit) : Built (after edits) := by
  induction edits using List.reverseRecOn with
  | nil => exact .empty
  | append_singleton edits edit ih =>
    rw [after_snoc]
    obtain ⟨id, document, _, happly⟩ | ⟨id, _, happly⟩ | ⟨_, happly⟩ := apply_cases edit
    · exact happly _ ▸ ih.insert id document
    · exact happly _ ▸ ih.remove id
    · exact (happly _).symm ▸ ih

theorem get?_remove_self (hkeys : c.order.Nodup) : (c.remove id).get? id = none :=
  Entries.get?_erase_self hkeys

theorem get?_remove_of_ne {other : String} (h : id ≠ other) :
    (c.remove id).get? other = c.get? other :=
  Entries.get?_erase_of_ne h c.dialogs

theorem mem_order_iff : id ∈ c.order ↔ ∃ document, c.get? id = some document :=
  Entries.isSome_get?.symm.trans Option.isSome_iff_exists

/-- What is under an id after a change: what the change writes there, or what was there before. -/
theorem get?_apply (hkeys : c.order.Nodup) :
    (c.apply edit).get? id = some document ↔
      edit.Writes id document ∨ c.get? id = some document ∧ edit.Spares id := by
  obtain ⟨target, written, hwrites, happly⟩ | ⟨target, rfl, happly⟩ | ⟨hspares, happly⟩ :=
    apply_cases edit
  · rw [happly]
    by_cases htarget : target = id
    · subst htarget
      rw [get?_insert_self]
      constructor
      · intro heq
        exact .inl (Option.some.inj heq ▸ hwrites)
      · rintro (h | ⟨_, hspares⟩)
        · rw [(hwrites.unique h).2]
        · exact absurd hwrites (hspares.not_writes written)
    · have hnot : ∀ document, ¬ edit.Writes id document := fun _ h ↦
        htarget (hwrites.unique h).1.symm
      have hspares : edit.Spares id := ⟨hnot, fun heq ↦ by subst heq; cases hwrites⟩
      rw [get?_insert_of_ne htarget]
      simp [hnot, hspares]
  · have hnot : ∀ document, ¬ (Edit.remove target).Writes id document := nofun
    rw [happly]
    by_cases htarget : target = id
    · subst htarget
      rw [get?_remove_self hkeys]
      simp only [hnot, false_or, reduceCtorEq, false_iff, not_and]
      exact fun _ hspares ↦ hspares.ne_remove rfl
    · have hspares : (Edit.remove target).Spares id := ⟨hnot, by simpa using htarget⟩
      rw [get?_remove_of_ne htarget]
      simp [hnot, hspares]
  · rw [happly]
    simp [hspares id, (hspares id).not_writes]

/-! ## The history of a catalog -/

/-- The document is the last one that was written under the id, which was not removed later. -/
def LastWrite (edits : List Edit) (id : String) (document : Document) : Prop :=
  ∃ before edit later, edits = before ++ edit :: later ∧ edit.Writes id document ∧
    ∀ other ∈ later, other.Spares id

/-- The change at the place writes a document under the id while there is none, and the id was not
removed later. -/
def EntersAt (edits : List Edit) (id : String) (place : Nat) : Prop :=
  ∃ before edit later document, edits = before ++ edit :: later ∧ before.length = place ∧
    edit.Writes id document ∧ (∀ earlier, ¬ LastWrite before id earlier) ∧ .remove id ∉ later

/-- A place in a list with one entry more is the last one or a place in the list. -/
theorem snoc_eq_append_cons {α : Type} {xs ys zs : List α} {x y : α} :
    xs ++ [x] = ys ++ y :: zs ↔
      ys = xs ∧ y = x ∧ zs = [] ∨ ∃ zs', zs = zs' ++ [x] ∧ xs = ys ++ y :: zs' := by
  rcases zs.eq_nil_or_concat with rfl | ⟨zs', z, rfl⟩
  · constructor
    · intro h
      obtain ⟨rfl, hlast⟩ := List.append_inj' h rfl
      exact .inl ⟨rfl, (List.singleton_inj.1 hlast).symm, rfl⟩
    · rintro (⟨rfl, rfl, _⟩ | ⟨_, hzs, _⟩)
      · rfl
      · simp at hzs
  · have hassoc : ys ++ y :: (zs'.concat z) = (ys ++ y :: zs') ++ [z] := by simp
    rw [hassoc]
    constructor
    · intro h
      obtain ⟨rfl, hlast⟩ := List.append_inj' h rfl
      obtain rfl := List.singleton_inj.1 hlast
      exact .inr ⟨zs', by simp, rfl⟩
    · rintro (⟨_, _, hnil⟩ | ⟨_, hzs, rfl⟩)
      · simp at hnil
      · rw [List.concat_eq_append] at hzs
        obtain ⟨rfl, hlast⟩ := List.append_inj' hzs rfl
        rw [hlast]

theorem not_lastWrite_nil : ¬ LastWrite [] id document := by
  rintro ⟨before, edit, later, hedits, _⟩
  simp at hedits

theorem lastWrite_snoc : LastWrite (edits ++ [edit]) id document ↔
    edit.Writes id document ∨ LastWrite edits id document ∧ edit.Spares id := by
  unfold LastWrite
  simp only [snoc_eq_append_cons]
  constructor
  · rintro ⟨before, last, later, ⟨rfl, rfl, rfl⟩ | ⟨later', rfl, rfl⟩, hwrites, hspares⟩
    · exact .inl hwrites
    · rw [List.forall_mem_append, List.forall_mem_singleton] at hspares
      exact .inr ⟨⟨before, last, later', rfl, hwrites, hspares.1⟩, hspares.2⟩
  · rintro (hwrites | ⟨⟨before, last, later, rfl, hwrites, hlater⟩, hspares⟩)
    · exact ⟨edits, edit, [], .inl ⟨rfl, rfl, rfl⟩, hwrites, nofun⟩
    · refine ⟨before, last, _, .inr ⟨later, rfl, rfl⟩, hwrites, ?_⟩
      rw [List.forall_mem_append, List.forall_mem_singleton]
      exact ⟨hlater, hspares⟩

theorem entersAt_snoc {place : Nat} : EntersAt (edits ++ [edit]) id place ↔
    (edits.length = place ∧ (∃ document, edit.Writes id document) ∧
      ∀ earlier, ¬ LastWrite edits id earlier) ∨ EntersAt edits id place ∧ edit ≠ .remove id := by
  unfold EntersAt
  simp only [snoc_eq_append_cons]
  constructor
  · rintro ⟨before, first, later, document, ⟨rfl, rfl, rfl⟩ | ⟨later', rfl, rfl⟩, hplace, hwrites,
      habsent, hkept⟩
    · exact .inl ⟨hplace, ⟨document, hwrites⟩, habsent⟩
    · rw [List.mem_append, List.mem_singleton, not_or] at hkept
      exact .inr ⟨⟨before, first, later', document, rfl, hplace, hwrites, habsent, hkept.1⟩,
        Ne.symm hkept.2⟩
  · rintro (⟨hplace, ⟨document, hwrites⟩, habsent⟩ | ⟨⟨before, first, later, document, rfl, hplace,
      hwrites, habsent, hkept⟩, hne⟩)
    · exact ⟨edits, edit, [], document, .inl ⟨rfl, rfl, rfl⟩, hplace, hwrites, habsent, nofun⟩
    · refine ⟨before, first, _, document, .inr ⟨later, rfl, rfl⟩, hplace, hwrites, habsent, ?_⟩
      rw [List.mem_append, List.mem_singleton, not_or]
      exact ⟨hkept, Ne.symm hne⟩

theorem EntersAt.lt_length {place : Nat} (h : EntersAt edits id place) : place < edits.length := by
  obtain ⟨before, first, later, _, rfl, rfl, _⟩ := h
  simp

/-- What is under an id is what was last written there. -/
theorem get?_after : (after edits).get? id = some document ↔ LastWrite edits id document := by
  induction edits using List.reverseRecOn with
  | nil =>
    refine iff_of_false ?_ not_lastWrite_nil
    simp [after, empty, get?]
  | append_singleton edits edit ih =>
    rw [after_snoc, get?_apply (built_after edits).nodup_order, ih, lastWrite_snoc]

theorem mem_order_after : id ∈ (after edits).order ↔ ∃ document, LastWrite edits id document := by
  simp only [mem_order_iff, get?_after]

theorem not_mem_order_after :
    id ∉ (after edits).order ↔ ∀ document, ¬ LastWrite edits id document := by
  rw [mem_order_after, not_exists]

/-- What is written under an id that is not removed later, or something written after it, stays. -/
theorem exists_lastWrite {before later : List Edit} (hwrites : ∃ document, edit.Writes id document)
    (hkept : .remove id ∉ later) :
    ∃ document, LastWrite (before ++ edit :: later) id document := by
  induction later using List.reverseRecOn with
  | nil =>
    obtain ⟨document, hdocument⟩ := hwrites
    exact ⟨document, before, edit, [], rfl, hdocument, nofun⟩
  | append_singleton later last ih =>
    rw [List.mem_append, List.mem_singleton, not_or] at hkept
    rw [← List.cons_append, ← List.append_assoc]
    simp only [lastWrite_snoc]
    by_cases hlast : ∃ document, last.Writes id document
    · obtain ⟨document, hdocument⟩ := hlast
      exact ⟨document, .inl hdocument⟩
    · obtain ⟨document, hdocument⟩ := ih hkept.1
      exact ⟨document, .inr ⟨hdocument, not_exists.1 hlast, Ne.symm hkept.2⟩⟩

/-- The ids that have come and not gone are those of the catalog. -/
theorem EntersAt.mem_order {place : Nat} (h : EntersAt edits id place) :
    id ∈ (after edits).order := by
  obtain ⟨before, first, later, document, rfl, _, hwrites, _, hkept⟩ := h
  exact mem_order_after.2 (exists_lastWrite ⟨document, hwrites⟩ hkept)

theorem EntersAt.unique {place place' : Nat} (h : EntersAt edits id place)
    (h' : EntersAt edits id place') : place' = place := by
  induction edits using List.reverseRecOn with
  | nil => exact absurd h.lt_length (Nat.not_lt_zero _)
  | append_singleton edits edit ih =>
    obtain ⟨hplace, _, habsent⟩ | ⟨hearlier, _⟩ := entersAt_snoc.1 h <;>
      obtain ⟨hplace', _, habsent'⟩ | ⟨hearlier', _⟩ := entersAt_snoc.1 h'
    · exact hplace'.symm.trans hplace
    · exact absurd hearlier'.mem_order (not_mem_order_after.2 habsent)
    · exact absurd hearlier.mem_order (not_mem_order_after.2 habsent')
    · exact ih hearlier hearlier'

/-- The first id came before the second one. -/
def EntersBefore (edits : List Edit) (first second : String) : Prop :=
  ∃ place place', EntersAt edits first place ∧ EntersAt edits second place' ∧ place < place'

/-- The ids stand in the order in which they came. -/
structure InOrder (edits : List Edit) (ids : List String) : Prop where
  enters : ∀ id ∈ ids, ∃ place, EntersAt edits id place
  sorted : ids.Pairwise (EntersBefore edits)

/-- A change keeps the order of the ids that it does not remove. -/
theorem InOrder.snoc {ids : List String} (h : InOrder edits ids)
    (hne : ∀ id ∈ ids, edit ≠ .remove id) : InOrder (edits ++ [edit]) ids where
  enters id hid := by
    obtain ⟨place, hplace⟩ := h.enters id hid
    exact ⟨place, entersAt_snoc.2 (.inr ⟨hplace, hne id hid⟩)⟩
  sorted := by
    refine h.sorted.imp_of_mem ?_
    rintro first second hfirst hsecond ⟨place, place', hplace, hplace', hlt⟩
    exact ⟨place, place', entersAt_snoc.2 (.inr ⟨hplace, hne first hfirst⟩),
      entersAt_snoc.2 (.inr ⟨hplace', hne second hsecond⟩), hlt⟩

theorem InOrder.sublist {ids ids' : List String} (h : InOrder edits ids) (hids : ids'.Sublist ids) :
    InOrder edits ids' where
  enters id hid := h.enters id (hids.subset hid)
  sorted := h.sorted.sublist hids

/-- A new id comes after all others. -/
theorem InOrder.concat {ids : List String} (h : InOrder edits ids)
    (hwrites : edit.Writes id document) (hnew : ∀ earlier, ¬ LastWrite edits id earlier) :
    InOrder (edits ++ [edit]) (ids ++ [id]) := by
  have hne (other : String) : edit ≠ .remove other := by
    rintro rfl
    cases hwrites
  have hkept : InOrder (edits ++ [edit]) ids := h.snoc fun other _ ↦ hne other
  have henters : EntersAt (edits ++ [edit]) id edits.length :=
    entersAt_snoc.2 (.inl ⟨rfl, ⟨document, hwrites⟩, hnew⟩)
  constructor
  · rw [List.forall_mem_append, List.forall_mem_singleton]
    exact ⟨hkept.enters, _, henters⟩
  · rw [List.pairwise_append]
    refine ⟨hkept.sorted, List.pairwise_singleton .., fun first hfirst second hsecond ↦ ?_⟩
    obtain rfl := List.mem_singleton.1 hsecond
    obtain ⟨place, hplace⟩ := h.enters first hfirst
    exact ⟨place, edits.length, entersAt_snoc.2 (.inr ⟨hplace, hne first⟩), henters,
      hplace.lt_length⟩

theorem order_insert_of_not_mem (h : id ∉ c.order) :
    (c.insert id document).order = c.order ++ [id] := by
  rw [order, insert, Entries.insert_of_not_mem_keys h]
  exact List.map_append

theorem inOrder_after (edits : List Edit) : InOrder edits (after edits).order := by
  induction edits using List.reverseRecOn with
  | nil => exact ⟨nofun, .nil⟩
  | append_singleton edits edit ih =>
    have hnodup := (built_after edits).nodup_order
    rw [after_snoc]
    obtain ⟨id, document, hwrites, happly⟩ | ⟨id, rfl, happly⟩ | ⟨hspares, happly⟩ :=
      apply_cases edit
    · rw [happly]
      by_cases hmem : id ∈ (after edits).order
      · have horder : ((after edits).insert id document).order = (after edits).order :=
          Entries.keys_insert_of_mem hmem
        rw [horder]
        exact ih.snoc fun other _ heq ↦ by subst heq; cases hwrites
      · rw [order_insert_of_not_mem hmem]
        exact ih.concat hwrites (not_mem_order_after.1 hmem)
    · have horder : ((after edits).remove id).order = (after edits).order.erase id :=
        Entries.keys_erase ..
      rw [happly, horder]
      refine (ih.sublist List.erase_sublist).snoc fun other hmem heq ↦ ?_
      obtain rfl := Edit.remove.inj heq
      exact hnodup.not_mem_erase hmem
    · rw [happly]
      exact ih.snoc fun id _ ↦ (hspares id).ne_remove

end

/-! ## Views -/

section

variable {c : Catalog}

/-- The order of the sorted ids, which goes by what they are paired with. -/
def byKey (entry entry' : String × String) : Bool :=
  entry.1 ≤ entry'.1

theorem byKey_trans (a b c : String × String) (hab : byKey a b = true) (hbc : byKey b c = true) :
    byKey a c = true := by
  simp only [byKey, decide_eq_true_eq] at *
  exact String.le_trans hab hbc

theorem byKey_total (a b : String × String) : (byKey a b || byKey b a) = true := by
  simpa [byKey] using String.le_total a.1 b.1

/-- The ids with their lowercase. -/
def keyed (c : Catalog) : List (String × String) :=
  c.order.map fun id ↦ (Text.lower id, id)

theorem ids_eq (c : Catalog) : c.ids = (c.keyed.mergeSort byKey).map Prod.snd := rfl

theorem fst_eq_lower {entry : String × String} (h : entry ∈ c.keyed.mergeSort byKey) :
    entry.1 = Text.lower entry.2 := by
  obtain ⟨id, _, rfl⟩ := List.mem_map.1 ((List.mergeSort_perm ..).mem_iff.1 h)
  rfl

/-- The ids are sorted by their lowercase. -/
theorem sorted_ids (c : Catalog) :
    c.ids.Pairwise fun id id' ↦ Text.lower id ≤ Text.lower id' := by
  rw [ids_eq, List.pairwise_map]
  refine (List.pairwise_mergeSort byKey_trans byKey_total c.keyed).imp_of_mem ?_
  intro entry entry' hentry hentry' hle
  rw [← fst_eq_lower hentry, ← fst_eq_lower hentry']
  simpa [byKey] using hle

/-- Ids of the same lowercase stay in the order of the catalog. -/
theorem filter_ids (c : Catalog) (key : String) :
    c.ids.filter (fun id ↦ Text.lower id = key) =
      c.order.filter (fun id ↦ Text.lower id = key) := by
  have hsorted : (c.keyed.filter fun entry ↦ entry.1 = key).Pairwise fun entry entry' ↦
      byKey entry entry' = true := by
    refine List.pairwise_of_forall_mem_list fun entry hentry entry' hentry' ↦ ?_
    have hkey := (List.mem_filter.1 hentry).2
    have hkey' := (List.mem_filter.1 hentry').2
    simp_all [byKey]
  have hpart : (c.order.filter fun id ↦ Text.lower id = key).Sublist c.ids := by
    have hkeyed := List.sublist_mergeSort byKey_trans byKey_total hsorted List.filter_sublist
    simpa [keyed, List.filter_map, Function.comp_def, ids_eq] using hkeyed.map Prod.snd
  symm
  refine List.Sublist.eq_of_length ?_ (c.ids_perm_order.filter _).length_eq.symm
  simpa using hpart.filter fun id ↦ Text.lower id = key

theorem complete_eq (c : Catalog) (typed : String) :
    c.complete typed =
      c.ids.filter fun id ↦ (Text.lower typed).toList <+: (Text.lower id).toList := by
  refine List.filter_congr fun id _ ↦ ?_
  rw [Bool.eq_iff_iff, Text.startsWith_iff, decide_eq_true_iff]

theorem complete_empty (c : Catalog) : c.complete "" = c.ids := by
  rw [complete_eq, List.filter_eq_self]
  exact fun id _ ↦ by simp [Text.lower, Text.lowerChars]

end

/-- A catalog tells its history: each id that is there stands once, with the document that was last
written under it, in the order in which the ids came since they were last absent. A text that is
not that of a map keeps the catalog. The sorted ids are those of the catalog, stably sorted, and a
typed prefix picks out of them the ids whose lowercase starts with its own. -/
theorem tells_history (edits : List Edit) :
    let c := after edits
    c.order.Nodup ∧
    (∀ id document, (id, document) ∈ c.dialogs ↔ LastWrite edits id document) ∧
    (∀ id ∈ c.order, ∃! place, EntersAt edits id place) ∧
    c.order.Pairwise (EntersBefore edits) ∧
    (∀ id format source, (¬ ∃ document, Source.Reads format source document) →
      (∃ fault, c.insertText id format source = .error fault) ∧
      after (edits ++ [.insertText id format source]) = c) ∧
    c.ids.Perm c.order ∧
    (c.ids.Pairwise fun id id' ↦ Text.lower id ≤ Text.lower id') ∧
    (∀ key, c.ids.filter (fun id ↦ Text.lower id = key) =
      c.order.filter fun id ↦ Text.lower id = key) ∧
    (∀ typed, c.complete typed =
      c.ids.filter fun id ↦ (Text.lower typed).toList <+: (Text.lower id).toList) ∧
    c.complete "" = c.ids := by
  intro c
  have hkeys : c.order.Nodup := (built_after edits).nodup_order
  refine ⟨hkeys, fun id document ↦ ?_, fun id hid ↦ ?_, (inOrder_after edits).sorted, ?_,
    c.ids_perm_order, sorted_ids c, filter_ids c, complete_eq c, complete_empty c⟩
  · rw [← get?_after]
    exact ⟨Entries.get?_of_mem hkeys, Entries.mem_of_get?⟩
  · obtain ⟨place, hplace⟩ := (inOrder_after edits).enters id hid
    exact ⟨place, hplace, fun _ h ↦ hplace.unique h⟩
  · intro id format source hreads
    obtain ⟨fault, hfault⟩ := insertText_of_not_reads c id hreads
    refine ⟨⟨fault, hfault⟩, ?_⟩
    rw [after_snoc, apply, hfault]

/-- A list in place of a map keeps what is there under the id. -/
theorem tells_history_list :
    let edits : List Edit := [.insert "b" ⟨[]⟩, .insertText "B" .ron "\x7b\x7d"]
    (after edits).order = ["b", "B"] ∧ (¬ ∃ document, Source.Reads .ron "[]" document) ∧
    after (edits ++ [.insertText "b" .ron "[]"]) = after edits := by
  intro edits
  have hlist : ¬ ∃ document, Source.Reads .ron "[]" document := by
    rintro ⟨document, hreads⟩
    have hrefused : (Document.ofText .ron "[]").toOption = none := rfl
    rw [Document.ofText_eq_ok.2 hreads] at hrefused
    cases hrefused
  obtain ⟨_, _, _, _, hrefused, _⟩ := tells_history edits
  exact ⟨rfl, hlist, (hrefused "b" .ron "[]" hlist).2⟩

example : (after [.insert "b" ⟨[]⟩, .insert "B" ⟨[]⟩, .insert "a" ⟨[]⟩, .insert "b" ⟨[]⟩,
    .remove "B", .insert "B" ⟨[]⟩]).order = ["b", "a", "B"] := by decide

end Catalog

end DialogKit
