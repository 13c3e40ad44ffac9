import DialogKit.Text.Lines
import DialogKit.Value

/-!
# Documents

A document is a map addressed by dotted paths such as `buttons.confirm.text`: each part of the path
is a key one level deeper. A part may be empty, and a key with a dot in it is reached only by
`entry?`. Reading an absent value, or one of another shape, gives the caller's default.
-/

namespace DialogKit

structure Document where
  entries : List (String × Value)

/-- One item of a list in a document. -/
inductive ListItem where
  /-- A map, as a document of its own. -/
  | part (document : Document)
  | scalar (value : Value)

namespace Document

def empty : Document := ⟨[]⟩

def ofValue? : Value → Option Document
  | .map entries => some ⟨entries⟩
  | _ => none

theorem ofValue?_eq_some {value : Value} {part : Document} :
    ofValue? value = some part ↔ value = .map part.entries := by
  constructor
  · intro h
    cases value <;> simp [ofValue?] at h
    rw [← h]
  · rintro rfl
    rfl

def toValue (d : Document) : Value :=
  .map d.entries

/-- The value under a key of the top level, dots included. -/
def entry? (d : Document) (key : String) : Option Value :=
  Entries.get? key d.entries

/-- Follows the parts of a path down from a value. -/
def descend : List String → Value → Option Value
  | [], value => some value
  | key :: rest, .map entries => (Entries.get? key entries).bind (descend rest)
  | _ :: _, _ => none

def value? (d : Document) (path : String) : Option Value :=
  descend (Text.split '.' path) d.toValue

def str? (d : Document) (path : String) : Option String :=
  (d.value? path).bind Value.text?

def str (d : Document) (path default : String) : String :=
  (d.str? path).getD default

def bool? (d : Document) (path : String) : Option Bool :=
  (d.value? path).bind Value.bool?

def bool (d : Document) (path : String) (default : Bool) : Bool :=
  (d.bool? path).getD default

def int? (d : Document) (path : String) : Option Int64 :=
  (d.value? path).bind Value.int?

def int (d : Document) (path : String) (default : Int64) : Int64 :=
  (d.int? path).getD default

def clamp32 (i : Int64) : Int32 :=
  Int32.ofInt (max (-Int.pow 2 31) (min (Int.pow 2 31 - 1) i.toInt))

def clampNat32 (i : Int64) : UInt32 :=
  (min (Nat.pow 2 32 - 1) i.toInt.toNat).toUInt32

/-- A whole number, brought into the range of 32 bits with a sign. -/
def int32? (d : Document) (path : String) : Option Int32 :=
  (d.int? path).map clamp32

def int32 (d : Document) (path : String) (default : Int32) : Int32 :=
  (d.int32? path).getD default

/-- A whole number, brought into the range of 32 bits without a sign. -/
def nat32? (d : Document) (path : String) : Option UInt32 :=
  (d.int? path).map clampNat32

def nat32 (d : Document) (path : String) (default : UInt32) : UInt32 :=
  (d.nat32? path).getD default

def float? (d : Document) (path : String) : Option Float :=
  (d.value? path).bind Value.float?

def float (d : Document) (path : String) (default : Float) : Float :=
  (d.float? path).getD default

def float32? (d : Document) (path : String) : Option Float32 :=
  (d.float? path).map Float.toFloat32

def float32 (d : Document) (path : String) (default : Float32) : Float32 :=
  (d.float32? path).getD default

def list? (d : Document) (path : String) : Option (List Value) :=
  (d.value? path).bind Value.list?

def itemOf : Value → ListItem
  | .map entries => .part ⟨entries⟩
  | value => .scalar value

/-- The items of a list; anything else has none. -/
def items (d : Document) (path : String) : List ListItem :=
  ((d.list? path).getD []).map itemOf

/-- The texts of the scalars in a list. -/
def texts (d : Document) (path : String) : List String :=
  ((d.list? path).getD []).filterMap Value.text?

/-- The map at a path, as a document of its own. -/
def part? (d : Document) (path : String) : Option Document :=
  (d.value? path).bind ofValue?

theorem part?_eq_some {d part : Document} {path : String} :
    d.part? path = some part ↔ d.value? path = some (.map part.entries) := by
  simp [part?, Option.bind_eq_some_iff, ofValue?_eq_some]

def contains (d : Document) (path : String) : Bool :=
  (d.value? path).isSome

def isList (d : Document) (path : String) : Bool :=
  (d.list? path).isSome

def isPart (d : Document) (path : String) : Bool :=
  (d.part? path).isSome

def keys (d : Document) : List String :=
  Entries.keys d.entries

def size (d : Document) : Nat :=
  d.entries.length

def isEmpty (d : Document) : Bool :=
  d.entries.isEmpty

/-- Writes an entry of the top level. -/
def set (d : Document) (key : String) (value : Value) : Document :=
  ⟨Entries.insert key value d.entries⟩

def same (d other : Document) : Bool :=
  d.toValue.same other.toValue

end Document

/-- The document of an item that is a map. -/
def ListItem.part? : ListItem → Option Document
  | .part d => some d
  | .scalar _ => none

theorem Document.part?_itemOf (value : Value) : (itemOf value).part? = ofValue? value := by
  cases value <;> rfl

end DialogKit
