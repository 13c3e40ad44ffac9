import DialogKit.Source.Excerpt

/-!
# Faults of a source text

Why a source text gives no document: it does not follow its format, or it holds something other
than a map.
-/

namespace DialogKit.Source

/-- The formats that documents are written in. -/
inductive Format where
  | ron
  | json
  deriving DecidableEq, Repr

def Format.name : Format → String
  | .ron => "ron"
  | .json => "json"

/-- A place in a source text, with the lines around it. -/
structure Spot where
  line : Nat
  column : Nat
  excerpt : String
  deriving DecidableEq, Repr

inductive Fault where
  /-- The text does not follow its format. -/
  | malformed (format : Format) (message : String) (spot : Option Spot)
  /-- The text holds a value of the named type instead of a map. -/
  | notAMap (format : Format) (found : String)
  deriving DecidableEq, Repr

def Fault.message : Fault → String
  | .malformed _ message _ => message
  | .notAMap format found =>
      "expected a map at the top level of the " ++ format.name ++ " source, found " ++ found

/-- The message with its place and the lines around it. -/
def Fault.pretty : Fault → String
  | .malformed format message (some spot) =>
      "Dialog " ++ format.name ++ " parse error at line " ++ toString spot.line ++ ", column " ++
        toString spot.column ++ "\n" ++ message ++ "\n" ++ spot.excerpt
  | .malformed format message none => "Dialog " ++ format.name ++ " parse error\n" ++ message
  | fault@(.notAMap _ _) => "Dialog document error\n" ++ fault.message

end DialogKit.Source
