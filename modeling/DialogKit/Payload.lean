import DialogKit.Json.Basic
import DialogKit.Text.Quoted

/-!
# Payloads

The values that a player submits with an action, by the id of their input. Reading an absent value,
or one of another shape, gives nothing.
-/

namespace DialogKit

structure Payload where
  values : Entries String Json

namespace Payload

def empty : Payload := ⟨[]⟩

/-- The payload of an interchange value: the entries of an object, and nothing otherwise. -/
def ofJson : Json → Payload
  | .object entries => ⟨entries⟩
  | _ => empty

/-- Adds a value; a known key keeps its place. -/
def insert (p : Payload) (key : String) (value : Json) : Payload :=
  ⟨Entries.insert key value p.values⟩

def get? (p : Payload) (key : String) : Option Json :=
  Entries.get? key p.values

def keys (p : Payload) : List String :=
  Entries.keys p.values

def has (p : Payload) (key : String) : Bool :=
  (p.get? key).isSome

def textOf? : Json → Option String
  | .string s => some s
  | .number n => some n.text
  | .bool b => some (if b then "true" else "false")
  | .null | .array _ | .object _ => none

/-- The text of a scalar. -/
def text? (p : Payload) (key : String) : Option String :=
  (p.get? key).bind textOf?

/-- Numbers that are not whole numbers of 64 bits with a sign lose their fraction and are brought
into that range. -/
def intOf? : Json → Option Int64
  | .number n =>
      match n.whole? with
      | some i => some i
      | none => if n.toFloat.isFinite then some n.toFloat.toInt64 else none
  | _ => none

def int? (p : Payload) (key : String) : Option Int64 :=
  (p.get? key).bind intOf?

def floatOf? : Json → Option Float
  | .number n => some n.toFloat
  | _ => none

def float? (p : Payload) (key : String) : Option Float :=
  (p.get? key).bind floatOf?

def boolOf? : Json → Option Bool
  | .bool b => some b
  | _ => none

/-- Only a real boolean has a boolean view. -/
def bool? (p : Payload) (key : String) : Option Bool :=
  (p.get? key).bind boolOf?

mutual

/-- How a value shows in diagnostics. -/
def debugValue : Json → String
  | .null => "Null"
  | .bool b => "Bool(" ++ (if b then "true" else "false") ++ ")"
  | .number n => "Number(" ++ n.text ++ ")"
  | .string s => "String(" ++ Text.quoted s ++ ")"
  | .array items => "Array [" ++ String.intercalate ", " (debugItems items) ++ "]"
  | .object entries =>
      "Object \x7b" ++ String.intercalate ", " (debugEntries entries) ++ "\x7d"

def debugItems : List Json → List String
  | [] => []
  | item :: rest => debugValue item :: debugItems rest

def debugEntries : List (String × Json) → List String
  | [] => []
  | (key, value) :: rest => (Text.quoted key ++ ": " ++ debugValue value) :: debugEntries rest

end

/-- How a payload shows in diagnostics. -/
def debug (p : Payload) : String :=
  "Payload \x7b values: \x7b" ++ String.intercalate ", " (debugEntries p.values) ++ "\x7d \x7d"

end Payload

end DialogKit
