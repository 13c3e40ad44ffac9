import DialogKit.Catalog
import DialogKit.Compile.Fault
import DialogKit.Definition.Basic
import DialogKit.Host
import DialogKit.Log

/-!
# Dialog kinds

A dialog names its kind, and the kind says how the buttons of the dialog are laid out. A kind reads
the root of the dialog and gives a plan: which buttons to build, in order, and what to make of
them. Building a button may mean compiling another dialog, so the plan leaves it to its runner.
-/

namespace DialogKit

/-- What a button shows where its section says nothing, and its width. -/
structure ButtonSlot where
  text : String
  description : String
  width : UInt32
  deriving DecidableEq

namespace ButtonSlot

def confirm : ButtonSlot := ⟨"Confirm", "Click to confirm.", 100⟩

def cancel : ButtonSlot := ⟨"Cancel", "Click to cancel.", 100⟩

def acknowledge : ButtonSlot := ⟨"OK", "Click to acknowledge.", 100⟩

def action : ButtonSlot := ⟨"Action", "Click to perform action.", 100⟩

/-- The button of a slot without a section. -/
def plainButton (slot : ButtonSlot) : Button :=
  ⟨slot.text, slot.description, slot.width, none⟩

end ButtonSlot

/-- The steps from the root of a dialog to its layout. -/
inductive Plan where
  | finish (layout : Layout)
  | fail (fault : CompileFault)
  | note (event : Log.Event) (next : Plan)
  /-- Builds the button of a slot from its section, if there is one. -/
  | button (part : Option Document) (slot : ButtonSlot) (next : Button → Plan)

/-- What a kind may look at besides the root of the dialog. -/
structure KindView where
  /-- The ids of the dialogs being compiled, the outermost first and this one last. -/
  path : List String
  catalog : Catalog
  host : Host

structure Kind where
  name : String
  plan : KindView → Document → Plan

end DialogKit
