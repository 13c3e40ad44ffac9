import DialogKit.Document.Source
import DialogKit.Text.Casing
import DialogKit.Text.Replace

/-!
# Catalogs

The dialog documents that are known, by id, in the order in which their ids first came. A document
may hold its content under its own id instead of at the top level; the content is its root.
-/

namespace DialogKit

structure Catalog where
  dialogs : Entries String Document

namespace Catalog

def empty : Catalog := ⟨[]⟩

/-- The permission to open a dialog, unless the dialog names another. -/
def openPermission : String := "dialogs.open.*"

/-- The permission to open a dialog for somebody else, unless the dialog names another. -/
def remotePermission : String := "dialogs.remote.*"

def get? (c : Catalog) (id : String) : Option Document :=
  Entries.get? id c.dialogs

def contains (c : Catalog) (id : String) : Bool :=
  (c.get? id).isSome

def insert (c : Catalog) (id : String) (document : Document) : Catalog :=
  ⟨Entries.insert id document c.dialogs⟩

/-- Reads a text and adds its document. -/
def insertText (c : Catalog) (id : String) (format : Source.Format) (source : String) :
    Except Source.Fault Catalog :=
  (Document.ofText format source).map (c.insert id)

def remove (c : Catalog) (id : String) : Catalog :=
  ⟨Entries.erase id c.dialogs⟩

def size (c : Catalog) : Nat :=
  c.dialogs.length

def isEmpty (c : Catalog) : Bool :=
  c.dialogs.isEmpty

/-- The ids in the order of the catalog. -/
def order (c : Catalog) : List String :=
  Entries.keys c.dialogs

/-- The ids sorted by their lowercase; equal ones stay in order. -/
def ids (c : Catalog) : List String :=
  let keyed := c.order.map fun id ↦ (Text.lower id, id)
  (keyed.mergeSort fun a b ↦ a.1 ≤ b.1).map Prod.snd

/-- The sorted ids whose lowercase starts with the lowercase of the typed text. -/
def complete (c : Catalog) (typed : String) : List String :=
  let typed := Text.lower typed
  c.ids.filter fun id ↦ Text.startsWith typed (Text.lower id)

/-- Whether a document holds its content under its own id. -/
def isNested (id : String) (document : Document) : Bool :=
  match document.entry? id with
  | some (.map _) => true
  | _ => false

/-- The content of a document. -/
def unwrap (id : String) (document : Document) : Document :=
  match document.entry? id with
  | some (.map entries) => ⟨entries⟩
  | _ => document

/-- The content of a dialog. -/
def root? (c : Catalog) (id : String) : Option Document :=
  (c.get? id).map (unwrap id)

/-- Whether a dialog may be opened. -/
def isEnabled (c : Catalog) (id : String) : Bool :=
  match c.root? id with
  | some root => root.bool "enabled" true
  | none => false

def permissionToOpen (c : Catalog) (id : String) : String :=
  match c.root? id with
  | some root => root.str "permission_to_open" openPermission
  | none => openPermission

def permissionToOpenRemote (c : Catalog) (id : String) : String :=
  match c.root? id with
  | some root => root.str "permission_to_open_remote" remotePermission
  | none => remotePermission

end Catalog

end DialogKit
