import DialogKit.Kind.Basic

/-!
# Scripted kinds

Kinds of dialogs written down as data: a name, the section that holds the one button, and what the
button shows by itself.
-/

namespace DialogKit

inductive KindMode where
  /-- Fails as if the dialog named by the section were not found. -/
  | fail
  /-- Shows where the dialog stands: the path to it, and the dialogs of the catalog. -/
  | path
  /-- A notice with the button of the section. -/
  | notice
  deriving DecidableEq, Repr

structure ScriptedKind where
  name : String
  mode : KindMode
  section_ : String
  slot : ButtonSlot

namespace ScriptedKind

/-- The button that shows where a dialog stands. -/
def pathButton (view : KindView) : Button where
  text := String.intercalate ">" view.path
  description := String.intercalate "," view.catalog.ids
  width := view.catalog.size.toUInt32
  action := none

def kind (k : ScriptedKind) : Kind where
  name := k.name
  plan view root :=
    match k.mode with
    | .fail => .fail (.notFound k.section_)
    | .path => .finish (.notice (pathButton view))
    | .notice => .button (root.part? k.section_) k.slot fun exit ↦ .finish (.notice exit)

end ScriptedKind

end DialogKit
