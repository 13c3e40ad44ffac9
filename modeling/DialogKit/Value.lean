import DialogKit.Json.Basic

/-!
# Configuration values

The loosely typed values that dialogs are written in. Maps keep the order in which they were
written. The views of a value never fail: a value of another shape has no such view.
-/

namespace DialogKit

inductive Value where
  | null
  | bool (b : Bool)
  | int (i : Int64)
  /-- A number that was written with a point, or a whole number of more than 64 bits. -/
  | float (x : Float)
  | str (s : String)
  | list (items : List Value)
  | map (entries : List (String × Value))

namespace Value

instance : Inhabited Value := ⟨.null⟩

def typeName : Value → String
  | .null => "null"
  | .bool _ => "bool"
  | .int _ => "int"
  | .float _ => "float"
  | .str _ => "string"
  | .list _ => "list"
  | .map _ => "map"

def isNumber : Value → Bool
  | .int _ | .float _ => true
  | _ => false

def float? : Value → Option Float
  | .int i => some i.toFloat
  | .float x => some x
  | _ => none

/-- The whole part of a number; floating point numbers beyond 64 bits give the nearest bound. -/
def int? : Value → Option Int64
  | .int i => some i
  | .float x => if x.isFinite then some x.toInt64 else none
  | _ => none

/-- Only a real boolean has a boolean view. -/
def bool? : Value → Option Bool
  | .bool b => some b
  | _ => none

def str? : Value → Option String
  | .str s => some s
  | _ => none

/-- The text of a scalar. -/
def text? : Value → Option String
  | .bool b => some (if b then "true" else "false")
  | .int i => some (toString i.toInt)
  | .float x => some (Decimal.text x)
  | .str s => some s
  | .null | .list _ | .map _ => none

def list? : Value → Option (List Value)
  | .list items => some items
  | _ => none

def map? : Value → Option (List (String × Value))
  | .map entries => some entries
  | _ => none

/-- The text under which a value is looked up when it is the key of a map. -/
def keyText : Value → String
  | .null => "null"
  | value => value.text?.getD ("<" ++ value.typeName ++ ">")

mutual

/-- Equality of values: numbers are compared as numbers, and maps regardless of their order. -/
def same : Value → Value → Bool
  | .null, .null => true
  | .bool a, .bool b => a == b
  | .int a, .int b => a == b
  | .float a, .float b => a == b
  | .str a, .str b => a == b
  | .list a, .list b => sameItems a b
  | .map a, .map b => a.length == b.length && sameEntries a b
  | _, _ => false

def sameItems : List Value → List Value → Bool
  | [], [] => true
  | a :: as, b :: bs => same a b && sameItems as bs
  | _, _ => false

/-- Whether every entry has an equal one among the others. -/
def sameEntries : List (String × Value) → List (String × Value) → Bool
  | [], _ => true
  | (key, a) :: rest, others =>
      (match Entries.get? key others with
        | some b => same a b
        | none => false) && sameEntries rest others

end

mutual

def ofJson : Json → Value
  | .null => .null
  | .bool b => .bool b
  | .number n =>
      match n.whole? with
      | some i => .int i
      | none => .float n.toFloat
  | .string s => .str s
  | .array items => .list (ofItems items)
  | .object entries => .map (ofEntries entries)

def ofItems : List Json → List Value
  | [] => []
  | item :: rest => ofJson item :: ofItems rest

def ofEntries : List (String × Json) → List (String × Value)
  | [] => []
  | (key, value) :: rest => (key, ofJson value) :: ofEntries rest

end

mutual

def toJson : Value → Json
  | .null => .null
  | .bool b => .bool b
  | .int i => Json.ofInt i.toInt
  | .float x => .number (.real x)
  | .str s => .string s
  | .list items => .array (toItems items)
  | .map entries => .object (toEntries entries)

def toItems : List Value → List Json
  | [] => []
  | item :: rest => toJson item :: toItems rest

def toEntries : List (String × Value) → List (String × Json)
  | [] => []
  | (key, value) :: rest => (key, toJson value) :: toEntries rest

end

end Value

end DialogKit
