import DialogKit.Decimal.Style
import DialogKit.Entries

/-!
# Interchange values

The tree of an interchange document. Objects keep the order of their entries, and a number stays
what it was written as: a whole number of 64 bits with or without sign, or a floating point number.
-/

namespace DialogKit

namespace Json

inductive Number where
  | natural (n : UInt64)
  /-- A whole number below zero. -/
  | negative (i : Int64)
  | real (x : Float)

namespace Number

/-- The whole number, where it fits into 64 bits with a sign. -/
def whole? : Number → Option Int64
  | .natural n => if n.toNat < Nat.pow 2 63 then some (Int64.ofNat n.toNat) else none
  | .negative i => some i
  | .real _ => none

def toFloat : Number → Float
  | .natural n => n.toFloat
  | .negative i => i.toFloat
  | .real x => x

def text : Number → String
  | .natural n => toString n.toNat
  | .negative i => toString i.toInt
  | .real x => Decimal.Style.interchange.float x

end Number

end Json

inductive Json where
  | null
  | bool (b : Bool)
  | number (n : Json.Number)
  | string (s : String)
  | array (items : List Json)
  | object (entries : List (String × Json))

namespace Json

instance : Inhabited Json := ⟨.null⟩

def ofNat (n : Nat) : Json :=
  .number (.natural n.toUInt64)

def ofInt (i : Int) : Json :=
  if 0 ≤ i then ofNat i.toNat else .number (.negative (Int64.ofInt i))

/-- The value under a key of an object. -/
def get? (key : String) : Json → Option Json
  | .object entries => Entries.get? key entries
  | _ => none

end Json

end DialogKit
