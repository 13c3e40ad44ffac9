import DialogKit.Json.Numeral
import DialogKit.Text.Quoted

/-!
# Reading interchange text

A document is one value between blanks. Values nest at most 127 deep. In an object a repeated key
keeps its first place and takes the last value.

Loops over items and characters carry a bound that the length of the text supplies; every round
takes at least one character, so the bound is never what ends them.
-/

namespace DialogKit.Json

def hexValue? (c : Char) : Option Nat :=
  if '0' ≤ c && c ≤ '9' then some (c.toNat - 0x30)
  else if 'a' ≤ c && c ≤ 'f' then some (c.toNat - 0x57)
  else if 'A' ≤ c && c ≤ 'F' then some (c.toNat - 0x37)
  else none

/-- The value of hexadecimal digits, if all are such digits. -/
def hexNumber? (cs : List Char) : Option Nat :=
  cs.foldlM (fun n c ↦ (hexValue? c).map (16 * n + ·)) 0

/-- Four hexadecimal digits. They are taken as four bytes, whatever these are. -/
def readUnit (c : Cursor) : Except Fault (Nat × Cursor) :=
  let digits := c.rest.take 4
  match hexNumber? digits with
  | some n => if digits.length = 4 then .ok (n, c.skip 4) else .error (c.atEnd.fault .endInString)
  | none =>
      match Cursor.skipBytes 4 c.rest c.line c.column with
      | some (line, column) => .error ⟨.invalidEscape, line, column⟩
      | none => .error (c.atEnd.fault .endInString)

/-- Passes the expected character of a surrogate pair. -/
def passPair (expected : Char) (c : Cursor) : Except Fault Cursor :=
  match c.rest with
  | [] => .error (c.fault .endInString)
  | head :: _ => if head == expected then .ok c.next else .error (c.faultAhead .unpairedSurrogate)

/-- A character written as one unit or as a pair of surrogates. -/
def readUnits (c : Cursor) : Except Fault (Char × Cursor) := do
  let (high, c) ← readUnit c
  if 0xDC00 ≤ high && high ≤ 0xDFFF then
    throw (c.fault .loneSurrogate)
  else if high < 0xD800 || 0xDBFF < high then
    return (Char.ofNat high, c)
  else
    let c ← passPair '\\' c
    let c ← passPair 'u' c
    let (low, c) ← readUnit c
    if low < 0xDC00 || 0xDFFF < low then
      throw (c.fault .loneSurrogate)
    else
      return (Char.ofNat (0x10000 + (high - 0xD800) * 0x400 + (low - 0xDC00)), c)

/-- What a backslash stands before. -/
def readEscape (c : Cursor) : Except Fault (Char × Cursor) :=
  match c.rest with
  | [] => .error (c.fault .endInString)
  | '"' :: _ => .ok ('"', c.next)
  | '\\' :: _ => .ok ('\\', c.next)
  | '/' :: _ => .ok ('/', c.next)
  | 'b' :: _ => .ok ('\x08', c.next)
  | 'f' :: _ => .ok ('\x0c', c.next)
  | 'n' :: _ => .ok ('\n', c.next)
  | 'r' :: _ => .ok ('\r', c.next)
  | 't' :: _ => .ok ('\t', c.next)
  | 'u' :: _ => readUnits c.next
  | _ :: _ => .error (c.faultAhead .invalidEscape)

/-- The characters of a string up to and with its closing quote. -/
def readChars : Nat → Cursor → Except Fault (List Char × Cursor)
  | 0, c => .error (c.fault .endInString)
  | bound + 1, c =>
      match c.rest with
      | [] => .error (c.fault .endInString)
      | '"' :: _ => .ok ([], c.next)
      | '\\' :: _ => do
          let (head, c) ← readEscape c.next
          let (tail, c) ← readChars bound c
          return (head :: tail, c)
      | head :: _ =>
          if head < ' ' then .error (c.faultAhead .controlCharacter)
          else do
            let (tail, c) ← readChars bound c.next
            return (head :: tail, c)

/-- A string after its opening quote. -/
def readString (c : Cursor) : Except Fault (String × Cursor) := do
  let (chars, c) ← readChars (c.rest.length + 1) c
  return (String.ofList chars, c)

/-- The rest of a word of which the first character is passed. -/
def readWord : List Char → Cursor → Except Fault Cursor
  | [], c => .ok c
  | expected :: word, c =>
      match c.rest with
      | [] => .error (c.fault .endInValue)
      | head :: _ => if head == expected then readWord word c.next
          else .error (c.faultAhead .expectedWord)

/-- Moves to the next item of a list, or behind its end. -/
def nextItem (first : Bool) (c : Cursor) : Except Fault (Option Cursor × Cursor) :=
  let c := c.skipSpace
  match c.rest with
  | [] => .error (c.fault .endInList)
  | ']' :: _ => .ok (none, c.next)
  | head :: _ =>
      if first then .ok (some c, c)
      else if head == ',' then
        let c := c.next.skipSpace
        match c.rest with
        | [] => .error (c.fault .endInValue)
        | ']' :: _ => .error (c.faultAhead .trailingComma)
        | _ :: _ => .ok (some c, c)
      else .error (c.faultAhead .expectedListEnd)

/-- Moves behind the opening quote of the next key of an object, or behind the object's end. -/
def nextKey (first : Bool) (c : Cursor) : Except Fault (Option Cursor × Cursor) :=
  let c := c.skipSpace
  match c.rest with
  | [] => .error (c.fault .endInObject)
  | '}' :: _ => .ok (none, c.next)
  | head :: _ =>
      if first then
        if head == '"' then .ok (some c.next, c) else .error (c.faultAhead .keyNotString)
      else if head == ',' then
        let c := c.next.skipSpace
        match c.rest with
        | [] => .error (c.fault .endInValue)
        | '"' :: _ => .ok (some c.next, c)
        | '}' :: _ => .error (c.faultAhead .trailingComma)
        | _ :: _ => .error (c.faultAhead .keyNotString)
      else .error (c.faultAhead .expectedObjectEnd)

/-- Passes the colon behind a key. -/
def passColon (c : Cursor) : Except Fault Cursor :=
  let c := c.skipSpace
  match c.rest with
  | [] => .error (c.fault .endInObject)
  | ':' :: _ => .ok c.next
  | _ :: _ => .error (c.faultAhead .expectedColon)

/-- The items of a list after its opening bracket. -/
def readItems (item : Cursor → Except Fault (Json × Cursor)) :
    Nat → Bool → Cursor → Except Fault (List Json × Cursor)
  | 0, _, c => .error (c.fault .endInList)
  | bound + 1, first, c => do
      match ← nextItem first c with
      | (none, c) => return ([], c)
      | (some c, _) =>
          let (head, c) ← item c
          let (tail, c) ← readItems item bound false c
          return (head :: tail, c)

/-- The entries of an object after its opening brace, as they are written. -/
def readEntries (item : Cursor → Except Fault (Json × Cursor)) :
    Nat → Bool → Cursor → Except Fault (List (String × Json) × Cursor)
  | 0, _, c => .error (c.fault .endInObject)
  | bound + 1, first, c => do
      match ← nextKey first c with
      | (none, c) => return ([], c)
      | (some c, _) =>
          let (key, c) ← readString c
          let c ← passColon c
          let (value, c) ← item c
          let (rest, c) ← readEntries item bound false c
          return ((key, value) :: rest, c)

/-- A value that nests at most `depth` deep. -/
def readValue (depth : Nat) (c : Cursor) : Except Fault (Json × Cursor) :=
  let c := c.skipSpace
  match c.rest with
  | [] => .error (c.fault .endInValue)
  | 'n' :: _ => do return (.null, ← readWord ['u', 'l', 'l'] c.next)
  | 't' :: _ => do return (.bool true, ← readWord ['r', 'u', 'e'] c.next)
  | 'f' :: _ => do return (.bool false, ← readWord ['a', 'l', 's', 'e'] c.next)
  | '-' :: _ => do
      let (n, c) ← readNumber c.next true
      return (.number n, c)
  | '"' :: _ => do
      let (s, c) ← readString c.next
      return (.string s, c)
  | '[' :: _ =>
      match depth with
      | 0 => .error (c.faultAhead .tooDeep)
      | depth + 1 => do
          let (items, c) ← readItems (readValue depth) (c.rest.length + 1) true c.next
          return (.array items, c)
  | '{' :: _ =>
      match depth with
      | 0 => .error (c.faultAhead .tooDeep)
      | depth + 1 => do
          let (entries, c) ← readEntries (readValue depth) (c.rest.length + 1) true c.next
          return (.object (Entries.ofList entries), c)
  | head :: _ =>
      if head.isDigit then do
        let (n, c) ← readNumber c false
        return (.number n, c)
      else .error (c.faultAhead .expectedValue)

/-- The greatest nesting of lists and objects. -/
def depthLimit : Nat := 127

/-- The end of a document: only blanks are left. -/
def finish (c : Cursor) : Except Fault Unit :=
  let c := c.skipSpace
  if c.rest.isEmpty then .ok () else .error (c.faultAhead .trailingCharacters)

/-- What a value is, as a message about an unexpected value says. -/
def describe : Json → String
  | .null => "null"
  | .bool b => "boolean `" ++ (if b then "true" else "false") ++ "`"
  | .number (.real x) => "floating point `" ++ Decimal.Style.interchange.float x ++ "`"
  | .number n => "integer `" ++ n.text ++ "`"
  | .string s => "string " ++ Text.quoted s
  | .array _ => "sequence"
  | .object _ => "map"

/-- The string at the start of a document, and the cursor behind it. A list or object in its place
is refused before it is read. -/
def readStringDocument (source : String) : Except Fault (String × Cursor) :=
  let c := (Cursor.start source).skipSpace
  let unexpected (found : String) (c : Cursor) : Fault :=
    c.fault (.unexpectedValue found "a string")
  match c.rest with
  | '"' :: _ => readString c.next
  | '[' :: _ => .error (unexpected "sequence" c)
  | '{' :: _ => .error (unexpected "map" c)
  | _ => do
      let (value, c) ← readValue depthLimit c
      throw (unexpected value.describe c)

/-- Reads a document. -/
def parse (source : String) : Except Fault Json := do
  let (value, c) ← readValue depthLimit (Cursor.start source)
  finish c
  return value

end DialogKit.Json
