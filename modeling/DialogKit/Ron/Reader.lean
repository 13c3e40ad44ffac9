import DialogKit.Ron.Shape
import DialogKit.Value

/-!
# Reading object notation

Any value in object notation: maps in braces, named fields and items in parentheses with or without
a name before them, lists, optional values, scalars. A name alone is null, `Some` is left out, and
what stands in parentheses without field names is a list. Keys of maps may be any values; they are
looked up by their text. A repeated key keeps its first place and takes the last value.

Each list, map and optional value takes one level of nesting, and so does each item; 128 levels are
allowed. Loops over items carry a bound that the length of the text supplies.
-/

namespace DialogKit.Ron

/-- What an attribute at the start of a text may switch on. -/
structure Extensions where
  unwrapNewtypes : Bool := false
  implicitSome : Bool := false
  unwrapVariantNewtypes : Bool := false
  explicitStructNames : Bool := false

def Extensions.enable (on : Extensions) (name : String) : Option Extensions :=
  match name with
  | "unwrap_newtypes" => some { on with unwrapNewtypes := true }
  | "implicit_some" => some { on with implicitSome := true }
  | "unwrap_variant_newtypes" => some { on with unwrapVariantNewtypes := true }
  | "explicit_struct_names" => some { on with explicitStructNames := true }
  | _ => none

/-- Whether the next character goes on with an identifier. -/
def nextIsIdentifierPart (c : Cursor) : Bool :=
  match c.rest with
  | [] => false
  | head :: _ => Text.isIdentifierPart head

/-- Steps over each part with the blanks behind it; tells whether all were there. -/
def passParts : List String → Cursor → Except Stop (Bool × Cursor)
  | [], c => .ok (true, c)
  | part :: rest, c =>
      match c.pass? part with
      | some c => do passParts rest (← skipSpace c)
      | none => do
          let (_, c) ← passParts rest c
          return (false, c)

/-- The names in an attribute. -/
def readExtensionNames (on : Extensions) : Nat → Reader Extensions
  | 0, c => .ok (on, c)
  | bound + 1, c => do
      let (name, c) ← readIdentifier c
      match on.enable name with
      | none => c.stop (.noSuchExtension name)
      | some on =>
          let (comma, c) ← passComma c
          if nextIsIdentifierPart c then
            if comma then readExtensionNames on bound c else c.stop .expectedComma
          else return (on, c)

/-- The attributes at the start of a text. -/
def readAttributes (on : Extensions) : Nat → Reader Extensions
  | 0, c => .ok (on, c)
  | bound + 1, c =>
      if !c.nextIs '#' then .ok (on, c)
      else do
        let (opened, c) ← passParts ["#", "!", "[", "enable", "("] c
        if !opened then c.stop .expectedAttribute
        else
          let c ← skipSpace c
          let (on, c) ← readExtensionNames on (c.rest.length + 1) c
          let c ← skipSpace c
          let (closed, c) ← passParts [")", "]"] c
          if !closed then c.stop .expectedAttributeEnd
          else readAttributes on bound (← skipSpace c)

/-- Whether another item follows, where items have commas between them. -/
def hasItem (comma : Bool) (closing : Char) (c : Cursor) : Except Stop (Bool × Cursor) := do
  let c ← skipSpace c
  if c.nextIs closing then return (false, c)
  else if comma then return (true, c)
  else c.stop .expectedComma

/-- Items up to the closing character, which is not taken. -/
def readItems (closing : Char) (item : Reader Value) :
    Nat → Bool → Cursor → Except Stop (List Value × Cursor)
  | 0, _, c => c.stop .endOfText
  | bound + 1, comma, c => do
      match ← hasItem comma closing c with
      | (false, c) => return ([], c)
      | (true, c) =>
          let (head, c) ← item c
          let (comma, c) ← passComma c
          let (tail, c) ← readItems closing item bound comma c
          return (head :: tail, c)

/-- What follows a key: a colon and a value. -/
def readEntryValue {α : Type} (item : Reader α) : Reader α := fun c ↦ do
  let c ← skipSpace c
  match c.pass? ":" with
  | none => c.stop .expectedMapColon
  | some c => item (← skipSpace c)

/-- Entries up to the closing character, which is not taken. -/
def readEntries (closing : Char) (key : Reader String) (item : Reader Value) :
    Nat → Bool → Cursor → Except Stop (List (String × Value) × Cursor)
  | 0, _, c => c.stop .endOfText
  | bound + 1, comma, c => do
      match ← hasItem comma closing c with
      | (false, c) => return ([], c)
      | (true, c) =>
          let (name, c) ← key c
          let (value, c) ← readEntryValue item c
          let (comma, c) ← passComma c
          let (rest, c) ← readEntries closing key item bound comma c
          return ((name, value) :: rest, c)

/-- What is expected of the values that are read. -/
structure Rules where
  extensions : Extensions
  /-- Values are passed over, so that strings of bytes do no harm. -/
  ignoring : Bool := false

/-- Takes the closing character, or fails. -/
def close {α : Type} (closing : Char) (cause : Cause) (result : α) (c : Cursor) :
    Except Stop (α × Cursor) := do
  let c ← skipSpace c
  return (result, ← c.expectChar closing cause)

def tooDeep {α : Type} : Reader α := fun c ↦ c.stop .tooDeep

/-- The items of a list after its opening character; inside a wrapper the closing one is left. -/
def readList (closing : Char) (cause : Cause) (wrapped : Bool) (item : Reader Value) :
    Reader Value := fun c ↦ do
  let (items, c) ← readItems closing item (c.rest.length + 1) true c
  if wrapped then return (.list items, ← skipSpace c)
  else close closing cause (.list items) c

/-- The entries of a map after its opening character; inside a wrapper the closing one is left. -/
def readMap (closing : Char) (cause : Cause) (wrapped : Bool) (key : Reader String)
    (item : Reader Value) : Reader Value := fun c ↦ do
  let (entries, c) ← readEntries closing key item (c.rest.length + 1) true c
  let value := Value.map (Entries.ofList entries)
  if wrapped then return (value, ← skipSpace c) else close closing cause value c

/-- An optional value; `inner` reads what it wraps. -/
def readOption {α : Type} (rules : Rules) (none_ : α) (inner : Bool → Reader α) : Reader α :=
  fun c ↦
    match c.passWord? "None" with
    | some c => .ok (none_, c)
    | none => do
        let (opened, c) ←
          match c.passWord? "Some" with
          | none => pure (none, c)
          | some c => do
              let c ← skipSpace c
              pure (c.pass? "(", c)
        match opened with
        | some c =>
            let (value, c) ← inner rules.extensions.unwrapVariantNewtypes (← skipSpace c)
            let (_, c) ← passComma c
            return (value, ← c.expectChar ')' .expectedStructEnd)
        | none =>
            if rules.extensions.implicitSome then inner false c else c.stop .expectedOption

def ofInteger (i : Int) : Value :=
  if i < Int.pow 2 63 then .int (Int64.ofInt i) else .float i.toNat.toUInt64.toFloat

/-- Words that are values. -/
def passWordValue? (c : Cursor) : Option (Value × Cursor) :=
  [("true", Value.bool true), ("false", .bool false), ("None", .null), ("inf", .float (1.0 / 0.0)),
    ("inff32", .float (1.0 / 0.0)), ("inff64", .float (1.0 / 0.0)), ("NaN", .float (0.0 / 0.0)),
    ("NaNf32", .float (0.0 / 0.0)), ("NaNf64", .float (0.0 / 0.0))].findSome? fun (word, value) ↦
      (c.passWord? word).map (value, ·)

/-- The bytes of a string of bytes as messages show them. -/
def showByte (b : Nat) : List Char :=
  if b = 0x09 then ['\\', 't']
  else if b = 0x0A then ['\\', 'n']
  else if b = 0x0D then ['\\', 'r']
  else if b = 0x22 || b = 0x27 || b = 0x5C then ['\\', Char.ofNat b]
  else if 0x20 ≤ b && b < 0x7F then [Char.ofNat b]
  else ['\\', 'x', Text.hexDigit (b / 16), Text.hexDigit (b % 16)]

/-- No value is a string of bytes. -/
def readBytesValue (rules : Rules) : Reader Value := fun c ↦ do
  let (bytes, c) ← readByteString c
  if rules.ignoring then return (.null, c)
  else
    let shown := String.ofList (bytes.flatMap showByte)
    c.stop (.wrongValue "any configuration value" ("the byte string b\"" ++ shown ++ "\""))

def readNumberValue : Reader Value := fun c ↦ do
  match ← readNumber c with
  | (.inl i, c) => return (ofInteger i, c)
  | (.inr x, c) => return (.float x, c)

/-- Reads any value within so many levels. A wrapped value stands where the parentheses of its
wrapper may serve as its own. -/
def readAny (rules : Rules) (limit : Nat) : Bool → Reader Value :=
  let inner : Bool → Reader Value :=
    match limit with
    | 0 => fun _ ↦ tooDeep
    | limit + 1 => readAny rules limit
  let item : Reader Value :=
    match limit with
    | limit + 2 => readAny rules limit false
    | _ => tooDeep
  let guarded (read : Reader Value) : Reader Value := if limit = 0 then tooDeep else read
  let fieldName : Reader String := if limit ≤ 1 then tooDeep else readIdentifier
  let key : Reader String := fun c ↦ do
    let (value, c) ← item c
    return (value.keyText, c)
  let fields (wrapped : Bool) : Reader Value :=
    guarded (readMap ')' .expectedStructEnd wrapped fieldName item)
  let items (wrapped : Bool) : Reader Value :=
    guarded (readList ')' .expectedStructEnd wrapped item)
  let inParentheses : Reader Value := fun c ↦ do
    match ← lookAhead c with
    | (.unit, c) => return (.null, c)
    | (.named, c) => fields false (← c.expectChar '(' .expectedStruct)
    | (_, c) => items false (← c.expectChar '(' .expectedStruct)
  let plain : Reader Value := fun c ↦
    match passWordValue? c with
    | some found => .ok found
    | none =>
        if c.startsWithWord "Some" then readOption rules .null inner c
        else
          match c.pass? "()" with
          | some c => .ok (.null, c)
          | none =>
              match passIdentifier? c with
              | some c => do inParentheses (← skipSpace c)
              | none =>
                  match c.rest with
                  | [] => c.stop .endOfText
                  | '(' :: _ => inParentheses c
                  | '[' :: _ =>
                      guarded (readList ']' .expectedListEnd false item) (c.advance 1)
                  | '{' :: _ =>
                      guarded (readMap '}' .expectedMapEnd false key item) (c.advance 1)
                  | '+' :: _ | '-' :: _ | '.' :: _ => readNumberValue c
                  | '"' :: _ | 'r' :: _ => do
                      let (s, c) ← readString c
                      return (.str s, c)
                  | '\'' :: _ => do
                      let (ch, c) ← readChar c
                      return (.str (String.singleton ch), c)
                  | 'b' :: _ =>
                      if c.startsWith "b'" then readNumberValue c else readBytesValue rules c
                  | head :: _ =>
                      if head.isDigit then readNumberValue c else c.stop (.unexpectedChar head)
  fun wrapped c ↦
    if !wrapped then plain c
    else if c.nextIs ')' then .ok (.null, c)
    else do
      match ← lookInside c with
      | (.named, c) => fields true c
      | (.severalItems, c) | (.emptyItems, c) => items true c
      | (_, c) => plain c

/-- The levels of nesting that a text may have. -/
def levelLimit : Nat := 128

/-- The start of a text: blanks and attributes. -/
def readStart (source : String) : Except Stop (Extensions × Cursor) := do
  let c ← skipSpace (Cursor.start source)
  readAttributes {} (c.rest.length + 1) c

/-- The end of a text: blanks only. -/
def finish (c : Cursor) : Except Stop Unit := do
  let c ← skipSpace c
  if c.rest.isEmpty then return () else c.stop .trailingCharacters

/-- Reads a text that holds one value. -/
def parse (source : String) : Except Stop Value := do
  let (extensions, c) ← readStart source
  let (value, c) ← readAny { extensions } levelLimit false c
  finish c
  return value

end DialogKit.Ron
