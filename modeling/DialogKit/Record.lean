import DialogKit.Decimal.Style
import DialogKit.Text.Quoted

/-!
# Records

The plain data of a structured value, with its field names, for writing it out; and its text in
object notation, one field or item a line, each level indented by four blanks.
-/

namespace DialogKit

inductive Record where
  | bool (b : Bool)
  | nat (n : Nat)
  | float (x : Float)
  | text (s : String)
  /-- One of a few names, written without quotes. -/
  | symbol (name : String)
  | absent
  | present (value : Record)
  | list (items : List Record)
  | fields (entries : List (String × Record))

namespace Record

def ofOption {α : Type} (record : α → Record) : Option α → Record
  | none => .absent
  | some value => .present (record value)

def word (n : UInt32) : Record :=
  .nat n.toNat

def texts (items : List String) : Record :=
  .list (items.map .text)

def indentation (level : Nat) : String :=
  String.ofList (List.replicate (4 * level) ' ')

mutual

/-- The text of a record that starts behind an indentation of the given level. -/
def render (level : Nat) : Record → String
  | .bool b => if b then "true" else "false"
  | .nat n => toString n
  | .float x => Decimal.Style.pointed.float x
  | .text s => Text.fullyQuoted s
  | .symbol name => name
  | .absent => "None"
  | .present value => "Some(" ++ render level value ++ ")"
  | .list [] => "[]"
  | .list (item :: rest) =>
      "[\n" ++ renderItems (level + 1) (item :: rest) ++ indentation level ++ "]"
  | .fields [] => "()"
  | .fields (entry :: rest) =>
      "(\n" ++ renderFields (level + 1) (entry :: rest) ++ indentation level ++ ")"

def renderItems (level : Nat) : List Record → String
  | [] => ""
  | item :: rest =>
      indentation level ++ render level item ++ ",\n" ++ renderItems level rest

def renderFields (level : Nat) : List (String × Record) → String
  | [] => ""
  | (name, value) :: rest =>
      indentation level ++ name ++ ": " ++ render level value ++ ",\n" ++ renderFields level rest

end

end Record

end DialogKit
