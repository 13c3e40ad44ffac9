import DialogKit.Decimal.Style

/-!
# Left out components

Why a component of a dialog is left out of the built dialog. This is no failure of the dialog.
-/

namespace DialogKit

/-- The components that may be left out. -/
inductive Element where
  | input
  | body
  | singleOption
  deriving DecidableEq, Repr

def Element.name : Element → String
  | .input => "input"
  | .body => "body"
  | .singleOption => "single_option"

inductive Skip where
  /-- A required field is absent or blank. -/
  | missingField (element : Element) (field : String)
  | unsupportedType (element : Element) (kind : String)
  /-- The host does not know the material. -/
  | unknownMaterial (name : String)
  /-- The lower bound is not below the upper one. -/
  | invalidRange (id : String) (min max : Float)
  | nonFinite (id field : String)
  | duplicateId (id : String)
  /-- A scalar stands where a map was expected. -/
  | notAMap (element : Element)

def Skip.message : Skip → String
  | .missingField element field =>
      element.name ++ " is missing required '" ++ field ++ "' field"
  | .unsupportedType element kind => "unsupported " ++ element.name ++ " type '" ++ kind ++ "'"
  | .unknownMaterial name => "invalid material '" ++ name ++ "'"
  | .invalidRange id min max =>
      "number_range '" ++ id ++ "' has min " ++ Decimal.text min ++ " not below max " ++
        Decimal.text max
  | .nonFinite id field => "number_range '" ++ id ++ "' has non-finite " ++ field
  | .duplicateId id => "duplicate input id '" ++ id ++ "'"
  | .notAMap element => element.name ++ " entry is not a map"

end DialogKit
