import DialogKit.Text.Blank
import DialogKit.Text.Casing

/-!
# Host services

What the host of the dialogs provides while they are built: a formatter for display texts, and the
item materials it knows.
-/

namespace DialogKit

/-- Turns authored markup into display text. -/
abbrev Formatter := String → String

/-- The name by which the host knows a material, if it knows it. -/
abbrev Materials := String → Option String

namespace Materials

def canonical (name : String) : String :=
  Text.upper (Text.trim name)

/-- The characters of a material name. -/
def isNameChar (c : Char) : Bool :=
  c.isUpper || c.isDigit || c == '_'

/-- Every well-formed name, in uppercase. -/
def wellFormed : Materials := fun name ↦
  let name := canonical name
  if !name.toList.isEmpty && name.toList.all isNameChar then some name else none

/-- The names of a fixed list. -/
def listed (names : List String) : Materials := fun name ↦
  names.find? (· == canonical name)

end Materials

structure Host where
  format : Formatter := id
  materials : Materials := Materials.wellFormed

end DialogKit
