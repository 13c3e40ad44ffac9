import DialogKit.Proofs.Catalog.Store
import DialogKit.Proofs.Cli.Paths
import DialogKit.Proofs.Json.Values
import Mathlib.Data.List.Nodup

/-!
# Directories as catalogs

A directory is loaded as one catalog, in whatever order its files are found. The dialogs are added by
their paths, so of two files with one id the one in object notation counts, and the fault of a
directory with faulty files is that of the first of them.
-/

namespace DialogKit.Cli

/-! ## Trees -/

/-- Files as they lie below a directory. Each is found once and can be read, and the stem of none is
made of dots only. -/
structure Tree (files : List FoundFile) : Prop where
  distinct : (files.map FoundFile.path).Nodup
  readable : ∀ file ∈ files, ∃ source, file.text = .ok source
  slashless : ∀ file ∈ files, Slashless file.path
  stemmed : ∀ file ∈ files, Stemmed file.path

/-- A dialog as it is found, with the text of its file. -/
structure FoundDialog where
  path : Path
  id : String
  format : Source.Format
  source : String

namespace FoundDialog

structure StandsIn (dialog : FoundDialog) (files : List FoundFile) : Prop where
  found : ⟨dialog.path, .ok dialog.source⟩ ∈ files
  leads : LeadsTo dialog.path dialog.id dialog.format

def Reads (dialog : FoundDialog) (document : Document) : Prop :=
  Source.Reads dialog.format dialog.source document

def Fails (dialog : FoundDialog) (fault : Source.Fault) : Prop :=
  Document.ofText dialog.format dialog.source = .error fault

/-- The change that adds the dialog to a catalog. -/
def edit (dialog : FoundDialog) : Catalog.Edit :=
  .insertText dialog.id dialog.format dialog.source

/-- No dialog with the same id stands in object notation beside the dialog, unless it does so itself. -/
structure Counts (dialog : FoundDialog) (files : List FoundFile) : Prop where
  stands : dialog.StandsIn files
  unmatched : dialog.format = .json →
    ∀ other : FoundDialog, other.StandsIn files → other.id = dialog.id → other.format = .json

/-- The dialog is the first one that fails. -/
structure FailsFirst (dialog : FoundDialog) (files : List FoundFile) (fault : Source.Fault) :
    Prop where
  stands : dialog.StandsIn files
  fails : dialog.Fails fault
  first : ∀ (other : FoundDialog) (fault' : Source.Fault), other.StandsIn files →
    other.Fails fault' → ¬ other.path < dialog.path

end FoundDialog

/-- The catalog has the dialogs of the files, as they were added in the order of their paths. -/
structure Gathers (files : List FoundFile) (catalog : Catalog) : Prop where
  added : ∃ dialogs : List FoundDialog, (∀ dialog, dialog ∈ dialogs ↔ dialog.StandsIn files) ∧
    dialogs.Pairwise (fun dialog later ↦ dialog.path < later.path) ∧
    catalog = Catalog.after (dialogs.map FoundDialog.edit)
  ids : ∀ id, id ∈ catalog.order ↔ ∃ dialog : FoundDialog, dialog.StandsIn files ∧ dialog.id = id
  documents : ∀ id document, catalog.get? id = some document ↔
    ∃ dialog : FoundDialog, dialog.Counts files ∧ dialog.id = id ∧ dialog.Reads document

/-! ## Files in order -/

/-- The files in the order of their paths. -/
def inOrder (files : List FoundFile) : List FoundFile :=
  files.mergeSort fun a b ↦ pathLE a.path b.path

theorem pairwise_inOrder (files : List FoundFile) :
    (inOrder files).Pairwise fun file later ↦ ¬ later.path < file.path := by
  have htrans (a b c : FoundFile) (hab : pathLE a.path b.path = true)
      (hbc : pathLE b.path c.path = true) : pathLE a.path c.path = true := by
    rw [pathLE_iff] at hab hbc ⊢
    exact List.le_trans hab hbc
  have htotal (a b : FoundFile) : (pathLE a.path b.path || pathLE b.path a.path) = true := by
    rw [Bool.or_eq_true, pathLE_iff, pathLE_iff]
    exact List.le_total a.path b.path
  have hsorted := List.pairwise_mergeSort htrans htotal files
  exact hsorted.imp fun h ↦ pathLE_iff.1 h

theorem perm_inOrder (files : List FoundFile) : (inOrder files).Perm files :=
  List.mergeSort_perm ..

section

variable {files listing : List FoundFile} (htree : Tree files)

include htree

theorem Tree.eq_of_path_eq {file other : FoundFile} (hfile : file ∈ files) (hother : other ∈ files)
    (hpath : file.path = other.path) : file = other :=
  List.inj_on_of_nodup_map htree.distinct hfile hother hpath

theorem Tree.lt_inOrder :
    (inOrder files).Pairwise fun file later ↦ file.path < later.path := by
  have hnodup : ((inOrder files).map FoundFile.path).Nodup :=
    ((perm_inOrder files).map FoundFile.path).nodup_iff.2 htree.distinct
  have hne : (inOrder files).Pairwise fun file later ↦ file.path ≠ later.path :=
    List.pairwise_map.1 hnodup
  have hboth := (pairwise_inOrder files).and hne
  apply hboth.imp
  rintro file later ⟨hle, hne⟩
  by_contra hge
  exact hne (List.le_antisymm hle hge)

/-- However the files are listed, they come in one order. -/
theorem Tree.inOrder_eq (hperm : listing.Perm files) : inOrder listing = inOrder files := by
  have hmem {file : FoundFile} {found : List FoundFile} (hfound : found.Perm files)
      (hfile : file ∈ inOrder found) : file ∈ files :=
    hfound.subset ((perm_inOrder found).subset hfile)
  apply List.Perm.eq_of_pairwise ?_ (pairwise_inOrder listing) (pairwise_inOrder files)
  · calc
      (inOrder listing).Perm listing := perm_inOrder listing
      _ |>.Perm files := hperm
      _ |>.Perm (inOrder files) := (perm_inOrder files).symm
  · intro file other hfile hother hle hge
    exact htree.eq_of_path_eq (hmem hperm hfile) (hmem (.refl files) hother)
      (List.le_antisymm hle hge)

end

/-! ## Dialogs in order -/

/-- The dialog in a file. -/
def dialog? (file : FoundFile) : Option FoundDialog :=
  match dialogFile? file.path, file.text with
  | some (id, format), .ok source => some ⟨file.path, id, format, source⟩
  | _, _ => none

theorem dialog?_eq_some {file : FoundFile} {dialog : FoundDialog} (hstem : Stemmed file.path) :
    dialog? file = some dialog ↔
      file = ⟨dialog.path, .ok dialog.source⟩ ∧ LeadsTo dialog.path dialog.id dialog.format := by
  constructor
  · intro h
    unfold dialog? at h
    split at h
    case h_1 id format source hfound htext =>
      obtain rfl := Option.some.inj h
      exact ⟨by rw [← htext], (dialogFile?_eq_some hstem).1 hfound⟩
    case h_2 => simp at h
  · rintro ⟨rfl, hleads⟩
    have hfound := (dialogFile?_eq_some hstem).2 hleads
    unfold dialog?
    simp only [hfound]

theorem path_of_dialog? {file : FoundFile} {dialog : FoundDialog} (h : dialog? file = some dialog) :
    dialog.path = file.path := by
  unfold dialog? at h
  split at h
  case h_1 =>
    obtain rfl := Option.some.inj h
    rfl
  case h_2 => simp at h

/-- The dialogs of the files, in the order of their paths. -/
def dialogsOf (files : List FoundFile) : List FoundDialog :=
  (inOrder files).filterMap dialog?

section

variable {files : List FoundFile} (htree : Tree files)

include htree

theorem Tree.mem_filterMap_dialog? {dialog : FoundDialog} :
    dialog ∈ files.filterMap dialog? ↔ dialog.StandsIn files := by
  rw [List.mem_filterMap]
  constructor
  · rintro ⟨file, hfile, hdialog⟩
    obtain ⟨rfl, hleads⟩ := (dialog?_eq_some (htree.stemmed file hfile)).1 hdialog
    exact ⟨hfile, hleads⟩
  · intro h
    have hdialog := (dialog?_eq_some (htree.stemmed _ h.found)).2 ⟨rfl, h.leads⟩
    exact ⟨_, h.found, hdialog⟩

theorem Tree.mem_dialogsOf {dialog : FoundDialog} :
    dialog ∈ dialogsOf files ↔ dialog.StandsIn files :=
  ((perm_inOrder files).filterMap dialog?).mem_iff.trans htree.mem_filterMap_dialog?

theorem Tree.lt_dialogsOf :
    (dialogsOf files).Pairwise fun dialog later ↦ dialog.path < later.path := by
  apply List.pairwise_filterMap.2
  apply htree.lt_inOrder.imp
  intro file later hlt dialog hdialog laterDialog hlater
  rw [path_of_dialog? hdialog, path_of_dialog? hlater]
  exact hlt

end

/-! ## One dialog after the other -/

/-- Adds a dialog to a catalog. -/
def addDialog (dir : String) (catalog : Catalog) (dialog : FoundDialog) : Except Failure Catalog :=
  (catalog.insertText dialog.id dialog.format dialog.source).mapError
    (.badFile (shownPath dir dialog.path))

section

variable (dir : String) {files : List FoundFile} {dialogs : List FoundDialog}

theorem addFile_of_dialog? {file : FoundFile} {source : String} (htext : file.text = .ok source)
    (catalog : Catalog) :
    addFile dir catalog file =
      match dialog? file with
      | some dialog => addDialog dir catalog dialog
      | none => .ok catalog := by
  unfold addFile dialog?
  rw [htext]
  cases dialogFile? file.path <;> rfl

theorem foldlM_addFile (hreadable : ∀ file ∈ files, ∃ source, file.text = .ok source)
    (catalog : Catalog) :
    files.foldlM (addFile dir) catalog = (files.filterMap dialog?).foldlM (addDialog dir) catalog := by
  induction files generalizing catalog with
  | nil => rfl
  | cons file files ih =>
    obtain ⟨⟨source, htext⟩, hrest⟩ := List.forall_mem_cons.1 hreadable
    rw [List.foldlM_cons, addFile_of_dialog? dir htext]
    cases hdialog : dialog? file with
    | none =>
      rw [List.filterMap_cons_none hdialog]
      exact ih hrest catalog
    | some dialog =>
      rw [List.filterMap_cons_some hdialog, List.foldlM_cons]
      exact bind_congr (ih hrest)

theorem addDialog_of_reads {dialog : FoundDialog} {document : Document}
    (h : dialog.Reads document) (catalog : Catalog) :
    addDialog dir catalog dialog = .ok (catalog.apply dialog.edit) := by
  have hinsert := Catalog.insertText_of_reads catalog dialog.id h
  rw [addDialog, FoundDialog.edit, Catalog.apply, hinsert]
  rfl

theorem addDialog_of_fails {dialog : FoundDialog} {fault : Source.Fault}
    (h : dialog.Fails fault) (catalog : Catalog) :
    addDialog dir catalog dialog = .error (.badFile (shownPath dir dialog.path) fault) := by
  have htext : Document.ofText dialog.format dialog.source = .error fault := h
  rw [addDialog, Catalog.insertText, htext]
  rfl

theorem foldlM_addDialog_of_reads (h : ∀ dialog ∈ dialogs, ∃ document, dialog.Reads document)
    (catalog : Catalog) :
    dialogs.foldlM (addDialog dir) catalog =
      .ok ((dialogs.map FoundDialog.edit).foldl Catalog.apply catalog) := by
  induction dialogs generalizing catalog with
  | nil => rfl
  | cons dialog dialogs ih =>
    obtain ⟨⟨document, hreads⟩, hrest⟩ := List.forall_mem_cons.1 h
    rw [List.foldlM_cons, addDialog_of_reads dir hreads]
    exact ih hrest _

theorem foldlM_addDialog_of_fails {before later : List FoundDialog} {dialog : FoundDialog}
    {fault : Source.Fault} (hbefore : ∀ earlier ∈ before, ∃ document, earlier.Reads document)
    (hfails : dialog.Fails fault) (catalog : Catalog) :
    (before ++ dialog :: later).foldlM (addDialog dir) catalog =
      .error (.badFile (shownPath dir dialog.path) fault) := by
  rw [List.foldlM_append, foldlM_addDialog_of_reads dir hbefore]
  change (dialog :: later).foldlM (addDialog dir) _ = _
  rw [List.foldlM_cons, addDialog_of_fails dir hfails]
  rfl

end

theorem FoundDialog.reads_or_fails (dialog : FoundDialog) :
    (∃ document, dialog.Reads document) ∨ ∃ fault, dialog.Fails fault := by
  cases htext : Document.ofText dialog.format dialog.source with
  | ok document => exact .inl ⟨document, Document.ofText_eq_ok.1 htext⟩
  | error fault => exact .inr ⟨fault, htext⟩

theorem FoundDialog.Fails.not_reads {dialog : FoundDialog} {fault : Source.Fault}
    (h : dialog.Fails fault) {document : Document} : ¬ dialog.Reads document := by
  intro hreads
  have htext : Document.ofText dialog.format dialog.source = .error fault := h
  rw [Document.ofText_eq_ok.2 hreads] at htext
  simp at htext

/-- All dialogs of a list read, or there is a first one that fails. -/
theorem exists_first_fault (dialogs : List FoundDialog) :
    (∀ dialog ∈ dialogs, ∃ document, dialog.Reads document) ∨
    ∃ before dialog later fault, dialogs = before ++ dialog :: later ∧
      (∀ earlier ∈ before, ∃ document, earlier.Reads document) ∧ dialog.Fails fault := by
  induction dialogs with
  | nil => exact .inl (by simp)
  | cons dialog dialogs ih =>
    obtain hreads | ⟨fault, hfails⟩ := dialog.reads_or_fails
    · obtain hall | ⟨before, failing, later, fault, rfl, hbefore, hfails⟩ := ih
      · exact .inl (List.forall_mem_cons.2 ⟨hreads, hall⟩)
      · have hfront : ∀ earlier ∈ dialog :: before, ∃ document, earlier.Reads document :=
          List.forall_mem_cons.2 ⟨hreads, hbefore⟩
        exact .inr ⟨dialog :: before, failing, later, fault, rfl, hfront, hfails⟩
    · exact .inr ⟨[], dialog, dialogs, fault, rfl, by simp, hfails⟩

/-! ## What is gathered -/

theorem writes_edit {dialog : FoundDialog} {id : String} {document : Document} :
    dialog.edit.Writes id document ↔ dialog.id = id ∧ dialog.Reads document := by
  constructor
  · rintro ⟨⟩
    exact ⟨rfl, ‹_›⟩
  · rintro ⟨rfl, hreads⟩
    exact .insertText hreads

/-- Dialogs are only added, so an id keeps a document once one was written under it. -/
theorem exists_lastWrite_edits {dialogs : List FoundDialog} {dialog : FoundDialog}
    {document : Document} (hdialog : dialog ∈ dialogs) (hreads : dialog.Reads document) :
    ∃ document, Catalog.LastWrite (dialogs.map FoundDialog.edit) dialog.id document := by
  obtain ⟨before, later, rfl⟩ := List.append_of_mem hdialog
  rw [List.map_append, List.map_cons]
  apply Catalog.exists_lastWrite ⟨document, writes_edit.2 ⟨rfl, hreads⟩⟩
  simp [FoundDialog.edit]

theorem exists_of_lastWrite {dialogs : List FoundDialog} {id : String} {document : Document}
    (h : Catalog.LastWrite (dialogs.map FoundDialog.edit) id document) :
    ∃ before dialog later, dialogs = before ++ dialog :: later ∧ dialog.id = id ∧
      dialog.Reads document ∧
      ∀ other ∈ later, other.id = id → ∀ document, ¬ other.Reads document := by
  obtain ⟨_, edit, _, hedits, hwrites, hspares⟩ := h
  obtain ⟨before, rest, rfl, rfl, hrest⟩ := List.map_eq_append_iff.1 hedits
  obtain ⟨dialog, later, rfl, rfl, rfl⟩ := List.map_eq_cons_iff.1 hrest
  obtain ⟨hid, hreads⟩ := writes_edit.1 hwrites
  refine ⟨before, dialog, later, rfl, hid, hreads, ?_⟩
  intro other hother hotherId document hotherReads
  have hspared := hspares _ (List.mem_map_of_mem hother)
  exact hspared.not_writes document (writes_edit.2 ⟨hotherId, hotherReads⟩)

section

variable {files : List FoundFile} (htree : Tree files) {dialog other : FoundDialog}

include htree

/-- The files of one id differ in their extensions alone. -/
theorem Tree.twins (h : dialog.StandsIn files) (hother : other.StandsIn files)
    (hid : other.id = dialog.id) :
    ∃ dirs stem, dialog.path = dirs ++ [stem ++ "." ++ dialog.format.name] ∧
      other.path = dirs ++ [stem ++ "." ++ other.format.name] := by
  have hotherLeads : LeadsTo other.path dialog.id other.format := hid ▸ hother.leads
  exact h.leads.twins hotherLeads (htree.slashless _ h.found) (htree.slashless _ hother.found)

theorem Tree.json_lt_ron (h : dialog.StandsIn files) (hother : other.StandsIn files)
    (hid : other.id = dialog.id) (hjson : dialog.format = .json) (hron : other.format = .ron) :
    dialog.path < other.path := by
  obtain ⟨dirs, stem, hpath, hotherPath⟩ := htree.twins h hother hid
  rw [hpath, hotherPath, hjson, hron]
  exact Cli.json_lt_ron dirs stem

theorem Tree.source_eq (h : dialog.StandsIn files) (hother : other.StandsIn files)
    (hid : other.id = dialog.id) (hformat : other.format = dialog.format) :
    other.source = dialog.source := by
  obtain ⟨dirs, stem, hpath, hotherPath⟩ := htree.twins h hother hid
  have hsame : other.path = dialog.path := by rw [hpath, hotherPath, hformat]
  have hfile := htree.eq_of_path_eq hother.found h.found hsame
  simpa using congrArg FoundFile.text hfile

/-- Two dialogs that count for one id read as the same document. -/
theorem Tree.document_unique {document document' : Document} (h : dialog.Counts files)
    (hother : other.Counts files) (hid : other.id = dialog.id) (hreads : dialog.Reads document)
    (hotherReads : other.Reads document') : document' = document := by
  have hformat : other.format = dialog.format := by
    cases hdialog : dialog.format with
    | json => exact h.unmatched hdialog other hother.stands hid
    | ron =>
      cases hotherFormat : other.format with
      | json => exact (hother.unmatched hotherFormat dialog h.stands hid.symm).symm.trans hdialog
      | ron => rfl
  have hsource := htree.source_eq h.stands hother.stands hid hformat
  rw [FoundDialog.Reads, hformat, hsource] at hotherReads
  have hok := (Document.ofText_eq_ok.2 hotherReads).symm.trans (Document.ofText_eq_ok.2 hreads)
  exact Except.ok.inj hok

/-- Where another dialog stands in the list, its path tells. -/
theorem Tree.placed {before later : List FoundDialog}
    (hdialogs : dialogsOf files = before ++ dialog :: later) (hother : other.StandsIn files) :
    other ∈ before ∧ other.path < dialog.path ∨ other = dialog ∨
      other ∈ later ∧ dialog.path < other.path := by
  have hsorted := htree.lt_dialogsOf
  have hmem := htree.mem_dialogsOf.2 hother
  rw [hdialogs] at hsorted hmem
  obtain ⟨_, hrest, hacross⟩ := List.pairwise_append.1 hsorted
  rcases List.mem_append.1 hmem with hbefore | hback
  · have hlt := hacross other hbefore dialog (List.mem_cons_self ..)
    exact .inl ⟨hbefore, hlt⟩
  · rcases List.mem_cons.1 hback with heq | hlater
    · exact .inr (.inl heq)
    · have hlt := (List.pairwise_cons.1 hrest).1 other hlater
      exact .inr (.inr ⟨hlater, hlt⟩)

/-- The last of the dialogs of an id is the one that counts. -/
theorem Tree.counts_of_last {before later : List FoundDialog}
    (hdialogs : dialogsOf files = before ++ dialog :: later)
    (hlater : ∀ other ∈ later, other.id ≠ dialog.id) : dialog.Counts files := by
  have hstands : dialog.StandsIn files := htree.mem_dialogsOf.1 (by simp [hdialogs])
  refine ⟨hstands, ?_⟩
  intro hjson other hother hid
  cases hron : other.format with
  | json => rfl
  | ron =>
    -- The twin in object notation would come behind the dialog.
    have hlt := htree.json_lt_ron hstands hother hid hjson hron
    rcases htree.placed hdialogs hother with ⟨_, hgt⟩ | rfl | ⟨hmem, _⟩
    · exact absurd hgt (List.lt_asymm hlt)
    · exact absurd hlt (List.lt_irrefl _)
    · exact absurd hid (hlater other hmem)

theorem Tree.gathers
    (hreads : ∀ dialog : FoundDialog, dialog.StandsIn files → ∃ document, dialog.Reads document) :
    Gathers files (Catalog.after ((dialogsOf files).map FoundDialog.edit)) := by
  have hlast {id : String} {document : Document}
      (h : Catalog.LastWrite ((dialogsOf files).map FoundDialog.edit) id document) :
      ∃ dialog : FoundDialog, dialog.Counts files ∧ dialog.id = id ∧ dialog.Reads document := by
    obtain ⟨before, dialog, later, hdialogs, rfl, hdialogReads, hlater⟩ := exists_of_lastWrite h
    refine ⟨dialog, htree.counts_of_last hdialogs ?_, rfl, hdialogReads⟩
    intro other hother hid
    have hstands : other.StandsIn files := htree.mem_dialogsOf.1 (by simp [hdialogs, hother])
    obtain ⟨document, hotherReads⟩ := hreads other hstands
    exact hlater other hother hid document hotherReads
  have hwritten {dialog : FoundDialog} (hstands : dialog.StandsIn files) :
      ∃ document, Catalog.LastWrite ((dialogsOf files).map FoundDialog.edit) dialog.id document := by
    obtain ⟨document, hdocument⟩ := hreads dialog hstands
    exact exists_lastWrite_edits (htree.mem_dialogsOf.2 hstands) hdocument
  constructor
  case added => exact ⟨dialogsOf files, fun _ ↦ htree.mem_dialogsOf, htree.lt_dialogsOf, rfl⟩
  case ids =>
    intro id
    rw [Catalog.mem_order_after]
    constructor
    · rintro ⟨document, h⟩
      obtain ⟨dialog, hcounts, hid, _⟩ := hlast h
      exact ⟨dialog, hcounts.stands, hid⟩
    · rintro ⟨dialog, hstands, rfl⟩
      exact hwritten hstands
  case documents =>
    intro id document
    rw [Catalog.get?_after]
    constructor
    · exact hlast
    · -- Some dialog was written last under the id, and only one of the id can count.
      rintro ⟨dialog, hcounts, rfl, hdocument⟩
      obtain ⟨document', h⟩ := hwritten hcounts.stands
      obtain ⟨other, hotherCounts, hid, hotherReads⟩ := hlast h
      obtain rfl := htree.document_unique hcounts hotherCounts hid hdocument hotherReads
      exact h

/-- A dialog that fails behind others that read is the first one that fails. -/
theorem Tree.failsFirst {before later : List FoundDialog} {fault : Source.Fault}
    (hdialogs : dialogsOf files = before ++ dialog :: later)
    (hbefore : ∀ earlier ∈ before, ∃ document, earlier.Reads document)
    (hfails : dialog.Fails fault) : dialog.FailsFirst files fault := by
  refine ⟨htree.mem_dialogsOf.1 (by simp [hdialogs]), hfails, ?_⟩
  intro other fault' hother hotherFails
  rcases htree.placed hdialogs hother with ⟨hearlier, _⟩ | rfl | ⟨_, hlt⟩
  · obtain ⟨document, hreads⟩ := hbefore other hearlier
    exact absurd hreads hotherFails.not_reads
  · exact List.lt_irrefl other.path
  · exact List.lt_asymm hlt

end

/-! ## Any order -/

theorem catalogOf_eq {files : List FoundFile} (htree : Tree files) (dir : String) :
    catalogOf dir files = (dialogsOf files).foldlM (addDialog dir) Catalog.empty := by
  have hreadable : ∀ file ∈ inOrder files, ∃ source, file.text = .ok source :=
    fun file hfile ↦ htree.readable file ((perm_inOrder files).subset hfile)
  exact foldlM_addFile dir hreadable Catalog.empty

/-- A directory is loaded with the same result in whatever order its files are found. -/
theorem loads_in_any_order {files : List FoundFile} (htree : Tree files) (dir : String) :
    (∃ result, (∀ (disk : Disk) (listing : List FoundFile), listing.Perm files →
        disk.walk dir = .ok listing → loadDirectory disk dir = result) ∧
      ((∀ dialog : FoundDialog, dialog.StandsIn files → ∃ document, dialog.Reads document) →
        ∃ catalog, result = .ok catalog ∧ Gathers files catalog) ∧
      ((∃ dialog : FoundDialog, dialog.StandsIn files ∧ ∃ fault, dialog.Fails fault) →
        ∃ dialog : FoundDialog, ∃ fault, dialog.FailsFirst files fault ∧
          result = .error (.badFile (shownPath dir dialog.path) fault))) ∧
    ∀ dialog other : FoundDialog, dialog.StandsIn files → other.StandsIn files →
      other.id = dialog.id →
      ∃ dirs stem, dialog.path = dirs ++ [stem ++ "." ++ dialog.format.name] ∧
        other.path = dirs ++ [stem ++ "." ++ other.format.name] := by
  refine ⟨⟨catalogOf dir files, ?_, ?_, ?_⟩, fun _ _ ↦ htree.twins⟩
  · intro disk listing hperm hwalk
    have hsame : catalogOf dir listing = catalogOf dir files :=
      congrArg (List.foldlM (addFile dir) Catalog.empty) (htree.inOrder_eq hperm)
    unfold loadDirectory
    rw [hwalk]
    exact hsame
  · intro hreads
    have hall : ∀ dialog ∈ dialogsOf files, ∃ document, dialog.Reads document :=
      fun dialog hdialog ↦ hreads dialog (htree.mem_dialogsOf.1 hdialog)
    refine ⟨_, ?_, htree.gathers hreads⟩
    rw [catalogOf_eq htree, foldlM_addDialog_of_reads dir hall]
    rfl
  · rintro ⟨dialog, hstands, fault, hfails⟩
    obtain hall | ⟨before, first, later, fault, hdialogs, hbefore, hfirst⟩ :=
      exists_first_fault (dialogsOf files)
    · obtain ⟨document, hreads⟩ := hall dialog (htree.mem_dialogsOf.2 hstands)
      exact absurd hreads hfails.not_reads
    · refine ⟨first, fault, htree.failsFirst hdialogs hbefore hfirst, ?_⟩
      rw [catalogOf_eq htree, hdialogs, foldlM_addDialog_of_fails dir hbefore hfirst]

/-- Two files of one id, in a directory with a dot in its name. -/
theorem loads_in_any_order_twins :
    let object : FoundFile := ⟨["menu.v2", "a.b.ron"], .ok "\x7b\x7d"⟩
    let interchange : FoundFile := ⟨["menu.v2", "a.b.json"], .ok "\x7b\"a\":true\x7d"⟩
    let disk : Disk := ⟨fun _ ↦ .error .missing, fun _ ↦ .ok [object, interchange]⟩
    Tree [interchange, object] ∧ ∃ catalog, loadDirectory disk "dialogs" = .ok catalog ∧
      catalog.get? "menu.v2/a.b" = some ⟨[]⟩ ∧ ∀ id ∈ catalog.order, id = "menu.v2/a.b" := by
  intro object interchange disk
  have hron : Ron.parse "\x7b\x7d" = .ok (.map []) := rfl
  have hexact : Json.Exact Json.depthLimit (.object [("a", .bool true)]) :=
    .object (by decide) (List.forall_mem_singleton.2 (.bool true))
  have hrender : Json.render (.object [("a", .bool true)]) = "\x7b\"a\":true\x7d" := by
    decide +kernel
  have hjson : Json.parse "\x7b\"a\":true\x7d" = .ok (.object [("a", .bool true)]) := by
    rw [← hrender]
    exact Json.parse_render hexact
  have htree : Tree [interchange, object] := by
    constructor
    case distinct => decide
    case readable => simp [object, interchange]
    case slashless => simp [Slashless, object, interchange]
    case stemmed =>
      have hstemmed (name : String) (h : 'a' ∈ (splitExtension name).1.toList) :
          Stemmed (["menu.v2"] ++ [name]) :=
        stemmed_concat fun hdots ↦ absurd (hdots 'a' h) (by decide)
      exact List.forall_mem_cons.2 ⟨hstemmed "a.b.json" (by decide),
        List.forall_mem_singleton.2 (hstemmed "a.b.ron" (by decide))⟩
  let first : FoundDialog := ⟨interchange.path, "menu.v2/a.b", .json, "\x7b\"a\":true\x7d"⟩
  let second : FoundDialog := ⟨object.path, "menu.v2/a.b", .ron, "\x7b\x7d"⟩
  have hfirst : first.Reads ⟨[("a", .bool true)]⟩ := .json hjson rfl
  have hsecond : second.Reads ⟨[]⟩ := .ron hron
  have hdialogs : [interchange, object].filterMap dialog? = [first, second] := rfl
  have hstands (dialog : FoundDialog) :
      dialog.StandsIn [interchange, object] ↔ dialog = first ∨ dialog = second := by
    rw [← htree.mem_filterMap_dialog?, hdialogs]
    simp
  have hreads : ∀ dialog : FoundDialog, dialog.StandsIn [interchange, object] →
      ∃ document, dialog.Reads document := by
    intro dialog hdialog
    rcases (hstands dialog).1 hdialog with rfl | rfl
    · exact ⟨_, hfirst⟩
    · exact ⟨_, hsecond⟩
  obtain ⟨⟨result, hany, hloads, _⟩, _⟩ := loads_in_any_order htree "dialogs"
  obtain ⟨catalog, rfl, hgathers⟩ := hloads hreads
  refine ⟨htree, catalog, hany disk _ (List.Perm.swap ..) rfl, ?_, ?_⟩
  · have hcounts : second.Counts [interchange, object] := ⟨(hstands second).2 (.inr rfl), nofun⟩
    exact (hgathers.documents _ _).2 ⟨second, hcounts, rfl, hsecond⟩
  · intro id hid
    obtain ⟨dialog, hdialog, rfl⟩ := (hgathers.ids id).1 hid
    rcases (hstands dialog).1 hdialog with rfl | rfl
    · rfl
    · rfl

end DialogKit.Cli
