import DialogKit.Decimal.Nearest
import DialogKit.Ron.Cursor
import DialogKit.Text.Utf8

/-!
# Tokens of object notation

Identifiers, characters, strings and numbers.
-/

namespace DialogKit.Ron

/-- How byte strings, byte literals and raw strings start; these are not identifiers. -/
def startsLiteral (c : Cursor) : Bool :=
  ["b\"", "b'", "br#", "br\"", "r\"", "r#\"", "r##"].any c.startsWith

/-- Steps over an identifier, if one is next. -/
def passIdentifier? (c : Cursor) : Option Cursor :=
  if startsLiteral c then none
  else if c.startsWith "r#" then
    let length := ((c.rest.drop 2).takeWhile isRawPart).length
    if length = 0 then none else some (c.advance (2 + length))
  else
    match c.rest with
    | [] => none
    | first :: rest =>
        if Text.isIdentifierStart first then
          some (c.advance (1 + (rest.takeWhile Text.isIdentifierPart).length))
        else none

def readIdentifier : Reader String := fun c ↦
  let raw := c.rest.takeWhile isRawPart
  match c.rest with
  | [] => c.stop .endOfText
  | first :: _ =>
      if !Text.isIdentifierStart first then
        if isRawPart first then c.stop (.suggestRawIdentifier (String.ofList raw))
        else c.stop .expectedIdentifier
      else if startsLiteral c then c.stop .expectedIdentifier
      else if c.startsWith "r#" then
        let inner := c.advance 2
        let name := inner.rest.takeWhile isRawPart
        if name.isEmpty then (inner.backTo c).stop .expectedIdentifier
        else .ok (String.ofList name, inner.advance name.length)
      else
        let name := c.rest.takeWhile Text.isIdentifierPart
        if name.length < raw.length then c.stop (.suggestRawIdentifier (String.ofList raw))
        else .ok (String.ofList name, c.advance name.length)

/-- A byte written by an escape, or a character. -/
inductive Escaped where
  | byte (b : Nat)
  | char (c : Char)

def hexValue? (c : Char) : Option Nat :=
  if '0' ≤ c && c ≤ '9' then some (c.toNat - 0x30)
  else if 'a' ≤ c && c ≤ 'f' then some (c.toNat - 0x57)
  else if 'A' ≤ c && c ≤ 'F' then some (c.toNat - 0x37)
  else none

def readHexDigit : Reader Nat := fun c ↦ do
  let (head, c) ← c.nextChar
  match hexValue? head with
  | some n => return (n, c)
  | none => c.stop (.invalidEscape "Non-hex digit found")

def readHexByte : Reader Nat := fun c ↦ do
  let (high, c) ← readHexDigit c
  let (low, c) ← readHexDigit c
  return (16 * high + low, c)

/-- The character of escaped bytes, of which some are read and `room` more may follow. -/
def readByteChar : Nat → List Nat → Cursor → Except Stop (Char × Cursor)
  | room, bytes, c =>
      match Text.utf8Char? bytes, room with
      | some ch, _ => .ok (ch, c)
      | none, 0 => c.stop .badByteEscape
      | none, room + 1 =>
          match c.pass? "\\x" with
          | none => c.stop .badByteEscape
          | some c => do
              let (b, c) ← readHexByte c
              readByteChar room (bytes ++ [b]) c

/-- The digits of a code point: up to six, ended by a brace that is not taken. -/
def readCodePoint : Nat → Nat → Cursor → Except Stop (Option Nat × Cursor)
  | 0, value, c => .ok (some value, c)
  | room + 1, value, c =>
      match c.rest with
      | [] => c.stop .endOfText
      | '}' :: _ => .ok (if room = 5 then none else some value, c)
      | _ :: _ => do
          let (digit, c) ← readHexDigit c
          readCodePoint room (16 * value + digit) c

def readUnicodeEscape : Reader Escaped := fun c ↦ do
  let c ← c.expectChar '{' (.invalidEscape "Missing \x7b in Unicode escape")
  match ← readCodePoint 6 0 c with
  | (none, c) =>
      c.stop (.invalidEscape "Expected 1-6 digits, got 0 digits in Unicode escape")
  | (some value, c) =>
      let c ← c.expectChar '}' (.invalidEscape "No \x7d at the end of Unicode escape")
      if value.isValidChar then return (.char (Char.ofNat value), c)
      else c.stop (.invalidEscape "Not a valid Unicode-escaped character")

/-- Where an escape stands. -/
inductive Setting where
  /-- In text, where a character may take several escaped bytes. -/
  | text
  | character
  | bytes
  deriving DecidableEq, Repr

/-- A byte escape after its letter. Outside of bytes it has to give a character. -/
def readByteEscape (setting : Setting) : Reader Escaped := fun c ↦ do
  let (b, c) ← readHexByte c
  match setting with
  | .bytes => return (.byte b, c)
  | .character =>
      let (ch, c) ← readByteChar 0 [b] c
      return (.char ch, c)
  | .text =>
      let (ch, c) ← readByteChar 3 [b] c
      return (.char ch, c)

/-- What a backslash stands before. -/
def readEscape (setting : Setting) : Reader Escaped := fun c ↦ do
  let (head, c) ← c.nextChar
  match head with
  | '\'' => return (.byte 0x27, c)
  | '"' => return (.byte 0x22, c)
  | '\\' => return (.byte 0x5C, c)
  | 'n' => return (.byte 0x0A, c)
  | 'r' => return (.byte 0x0D, c)
  | 't' => return (.byte 0x09, c)
  | '0' => return (.byte 0, c)
  | 'x' => readByteEscape setting c
  | 'u' => readUnicodeEscape c
  | _ => c.stop (.invalidEscape "Unknown escape character")

def Escaped.bytes : Escaped → List Nat
  | .byte b => [b]
  | .char c => Text.utf8Bytes c

/-- The character of an escape that is none of bytes. -/
def Escaped.toChar : Escaped → Char
  | .byte b => Char.ofNat b
  | .char c => c

/-- How far a quote is away. -/
def quoteAt? (c : Cursor) : Option Nat :=
  let before := c.countWhile (· != '"')
  if before < c.rest.length then some before else none

/-- What stands between quotes after the opening one, and how far the closing quote is passed by one
more step. -/
def readQuotedParts {α : Type} (setting : Setting) (plain : Char → List α)
    (escaped : Escaped → List α) : Nat → Cursor → Except Stop ((List α × Nat) × Cursor)
  | 0, c => c.stop .expectedStringEnd
  | bound + 1, c =>
      match quoteAt? c with
      | none => c.stop .expectedStringEnd
      | some size =>
          let run := (c.rest.take size).takeWhile (· != '\\')
          let parts := run.flatMap plain
          if run.length = size then .ok ((parts, size + 1), c)
          else do
            let (e, c) ← readEscape setting (c.advance (run.length + 1))
            let ((rest, step), c) ← readQuotedParts setting plain escaped bound c
            return ((parts ++ escaped e ++ rest, step), c)

/-- The text between quotes after the opening one. -/
def readQuoted : Reader String := fun c ↦ do
  let ((cs, step), c) ←
    readQuotedParts .text (fun ch ↦ [ch]) (fun e ↦ [e.toChar]) (c.rest.length + 1) c
  return (String.ofList cs, c.advance step)

def readQuotedByteString : Reader (List Nat) := fun c ↦ do
  let ((bytes, step), c) ←
    readQuotedParts .bytes Text.utf8Bytes Escaped.bytes (c.rest.length + 1) c
  return (bytes, c.advance step)

/-- The characters up to the first occurrence of a part, if there is one. -/
def charsBefore? (part : List Char) : List Char → Option (List Char)
  | [] => if part.isEmpty then some [] else none
  | c :: rest =>
      if part.isPrefixOf (c :: rest) then some [] else (charsBefore? part rest).map (c :: ·)

/-- A raw text after its letter: hashes, a quote, and all up to a quote with as many hashes. -/
def readRaw (cause : Cause) : Reader (List Char) := fun c ↦ do
  let hashes := c.rest.takeWhile (· == '#')
  let c := c.advance hashes.length
  let c ← c.expectChar '"' cause
  match charsBefore? ('"' :: hashes) c.rest with
  | none => c.stop .expectedStringEnd
  | some cs => return (cs, c.advance (cs.length + hashes.length + 1))

def readString : Reader String := fun c ↦
  match c.pass? "\"" with
  | some c => readQuoted c
  | none =>
      match c.pass? "r" with
      | some c => do
          let (cs, c) ← readRaw .expectedString c
          return (String.ofList cs, c)
      | none => c.stop .expectedString

def readByteString : Reader (List Nat) := fun c ↦
  match c.pass? "b\"" with
  | some c => readQuotedByteString c
  | none =>
      match c.pass? "br" with
      | some c => do
          let (cs, c) ← readRaw .expectedByteString c
          return (cs.flatMap Text.utf8Bytes, c)
      | none => c.stop .expectedByteString

/-- A character in single quotes. -/
def readChar : Reader Char := fun c ↦ do
  let c ← c.expectChar '\'' .expectedChar
  let (head, c) ← c.nextChar
  if head == '\\' then
    let (escaped, c) ← readEscape .character c
    return (escaped.toChar, ← c.expectChar '\'' .expectedChar)
  else
    return (head, ← c.expectChar '\'' .expectedChar)

def isIntChar (c : Char) : Bool :=
  c == '_' || (hexValue? c).isSome

def isFloatChar (c : Char) : Bool :=
  c.isDigit || ['e', 'E', '.', '+', '-', '_'].contains c

/-- Whether the number that is next has more than the characters of an integer. -/
def nextIsFloat (c : Cursor) : Bool :=
  let body := match c.rest with
    | '+' :: rest | '-' :: rest => rest
    | rest => rest
  (body.takeWhile isIntChar).length < (body.takeWhile isFloatChar).length

/-- The words for numbers without digits. -/
def floatWords : List (String × Float) :=
  [("inf", 1.0 / 0.0), ("+inf", 1.0 / 0.0), ("-inf", -1.0 / 0.0), ("NaN", 0.0 / 0.0),
    ("+NaN", 0.0 / 0.0), ("-NaN", -(0.0 / 0.0))]

/-- A word for a number without digits, alone or with a width after it. -/
def passFloatWord? (c : Cursor) : Option (Float × Cursor) :=
  floatWords.findSome? fun (word, x) ↦
    ["", "f32", "f64"].findSome? fun width ↦ (c.passWord? (word ++ width)).map (x, ·)

/-- The characters of a float without the underscores, which stand behind digits only; or how far
the first misplaced one is away. -/
def dropUnderscores (allowed : Bool) (index : Nat) : List Char → Except Nat (List Char)
  | [] => .ok []
  | '_' :: rest =>
      if allowed then dropUnderscores allowed (index + 1) rest else .error index
  | c :: rest => do
      let allowed := (allowed || c.isDigit || c == 'e' || c == 'E') && c != '.'
      return c :: (← dropUnderscores allowed (index + 1) rest)

def readFloat : Reader Float := fun c ↦
  match passFloatWord? c with
  | some found => .ok found
  | none =>
      let run := c.rest.takeWhile isFloatChar
      if run.isEmpty then c.stop .expectedFloat
      else if c.nextIs '_' then c.stop .leadingUnderscore
      else
        match dropUnderscores false 0 run with
        | .error index => (c.advance index).stop .floatUnderscore
        | .ok digits =>
            let ended := c.advance run.length
            let tail := (ended.passWord? "f32").map (true, ·) <|>
              (ended.passWord? "f64").map (false, ·)
            match tail, Decimal.read? digits with
            | some (single, after), some x =>
                .ok (if single then x.toFloat32.toFloat else x.toFloat, after)
            | some (_, after), none => (after.backTo c).stop .expectedFloat
            | none, some x => .ok (x.toFloat, ended)
            | none, none =>
                if ended.nextIs 'f' then (ended.backTo c).stop .expectedFloat
                else c.stop .expectedFloat

/-- The range of an integer of a given width. -/
structure IntRange where
  least : Int
  greatest : Int

def IntRange.signed (bits : Nat) : IntRange := ⟨-Int.pow 2 (bits - 1), Int.pow 2 (bits - 1) - 1⟩

def IntRange.unsigned (bits : Nat) : IntRange := ⟨0, Int.pow 2 bits - 1⟩

def IntRange.holds (range : IntRange) (i : Int) : Bool :=
  range.least ≤ i && i ≤ range.greatest

/-- The value of digits in a base: the cause of a failure comes with the count of characters to
step over. -/
def integerDigits (range : IntRange) (below : Bool) (base size : Nat) :
    Nat → Int → List Char → Except (Cause × Nat) Int
  | _, value, [] => .ok value
  | index, value, '_' :: rest => integerDigits range below base size (index + 1) value rest
  | index, value, c :: rest =>
      let digit := (hexValue? c).getD 0
      let scaled := value * base
      if !range.holds scaled then .error (.integerOutOfBounds, size)
      else if base ≤ digit then .error (.invalidDigit c base, index)
      else
        let value := if below then scaled - digit else scaled + digit
        if !range.holds value then .error (.integerOutOfBounds, size)
        else integerDigits range below base size (index + 1) value rest

/-- An unsigned run of digits, with the mark of its base before it. -/
def readDigits (range : IntRange) (below : Bool) : Reader Int := fun c ↦
  let (base, c) := ([("0b", 2), ("0o", 8), ("0x", 16)].findSome? fun (mark, base) ↦
    (c.pass? mark).map (base, ·)).getD (10, c)
  let run := c.rest.takeWhile isIntChar
  if run.isEmpty then c.stop .expectedInteger
  else if c.nextIs '_' then c.stop .leadingUnderscore
  else
    match integerDigits range below base run.length 0 0 run with
    | .ok value => .ok (value, c.advance run.length)
    | .error (cause, count) => (c.advance count).stop cause

/-- The widths that may stand behind an integer. -/
def intWidths : List (String × IntRange) :=
  [("i8", .signed 8), ("i16", .signed 16), ("i32", .signed 32), ("i64", .signed 64),
    ("u8", .unsigned 8), ("u16", .unsigned 16), ("u32", .unsigned 32), ("u64", .unsigned 64)]

/-- Steps over the width behind an integer, where digits were not at fault. -/
def passWidth (c : Cursor) : Cursor :=
  (passIdentifier? c).getD c

/-- An integer after its sign. -/
def readUnsigned (below : Bool) : Reader Int := fun c ↦
  let whole : IntRange := if below then .signed 64 else .unsigned 64
  let run := c.rest.takeWhile isIntChar
  match c.rest.drop run.length with
  | 'i' :: _ | 'u' :: _ =>
      let ended := c.advance run.length
      match intWidths.findSome? fun (word, range) ↦ (ended.passWord? word).map (range, ·) with
      | some (range, after) =>
          match readDigits range below (after.backTo c) with
          | .ok (value, c) => .ok (value, passWidth c)
          | .error ⟨cause, c⟩ =>
              match cause with
              | .leadingUnderscore | .invalidDigit _ _ => c.stop cause
              | _ => (passWidth c).stop cause
      | none => readDigits whole below (ended.backTo c)
  | _ => readDigits whole below c

/-- A byte literal after its opening. -/
def readByteLiteral : Reader Int := fun c ↦ do
  let (head, c) ← c.nextChar
  let (value, c) ←
    if head == '\\' then do
      match ← readEscape .bytes c with
      | (.byte b, c) => pure (b, c)
      | (.char _, c) =>
          c.stop (.invalidEscape "Unexpected Unicode escape in byte literal")
    else if head.toNat < 0x80 then pure (head.toNat, c)
    else c.stop .expectedByteLiteral
  return (value, ← c.expectChar '\'' .expectedByteLiteral)

def readInteger : Reader Int := fun c ↦
  match c.rest with
  | [] => c.stop .endOfText
  | '+' :: _ => readUnsigned false c.pastOne
  | '-' :: _ => readUnsigned true c.pastOne
  | _ :: _ =>
      match c.pass? "b'" with
      | some c => readByteLiteral c
      | none => readUnsigned false c

/-- An integer or a float. What is no integer may still be a float, unless the integer got
further. -/
def readNumber : Reader (Int ⊕ Float) := fun c ↦
  if nextIsFloat c then (readFloat c).map fun (x, c) ↦ (.inr x, c)
  else
    match readInteger c with
    | .ok (i, c) => .ok (.inl i, c)
    | .error failed =>
        match readFloat (failed.cursor.backTo c) with
        | .ok (x, after) =>
            if after.rest.length ≤ failed.cursor.rest.length then .ok (.inr x, after)
            else (after.backTo failed.cursor).stop failed.cause
        | .error other => (other.cursor.backTo failed.cursor).stop failed.cause

end DialogKit.Ron
