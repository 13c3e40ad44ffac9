import DialogKit.Document.Basic
import DialogKit.Json.Reader
import DialogKit.Json.Writer
import DialogKit.Ron.Reader
import DialogKit.Source.Fault

/-!
# Documents as text

A document is read from either of two formats; its top level is a map. It is written in the
interchange format.
-/

namespace DialogKit

namespace Source

/-- The fault of a text in object notation, at the mark where reading stopped. -/
def Fault.ofStop (source : String) (stop : Ron.Stop) : Fault :=
  let place := stop.cursor.mark
  .malformed .ron stop.cause.message
    (some ⟨place.line, place.column, excerpt source place.line place.column⟩)

def Fault.ofJson (source : String) (fault : Json.Fault) : Fault :=
  .malformed .json fault.message
    (some ⟨fault.line, fault.column, excerpt source fault.line fault.column⟩)

end Source

namespace Document

def ofSourceValue (format : Source.Format) (value : Value) : Except Source.Fault Document :=
  match ofValue? value with
  | some document => .ok document
  | none => .error (.notAMap format value.typeName)

def ofRonText (source : String) : Except Source.Fault Document :=
  match Ron.parse source with
  | .ok value => ofSourceValue .ron value
  | .error stop => .error (.ofStop source stop)

def ofJsonText (source : String) : Except Source.Fault Document :=
  match Json.parse source with
  | .ok value => ofSourceValue .json (.ofJson value)
  | .error fault => .error (.ofJson source fault)

def ofText : Source.Format → String → Except Source.Fault Document
  | .ron => ofRonText
  | .json => ofJsonText

/-- The document in the interchange format. -/
def toJsonText (d : Document) : String :=
  d.toValue.toJson.render

end Document

end DialogKit
