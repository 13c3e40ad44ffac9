import DialogKit.Ron.Fault

/-!
# Reading position

The rest of a text in object notation, the place reached, and the mark: the place before the last
step forward. A fault is reported at the mark. Places count lines and characters from one. Passing
blanks and comments is a step too, also where there are none; at the end of the text it is not.
Taking one character, whichever it is, moves the place and leaves the mark.
-/

namespace DialogKit.Ron

structure Place where
  line : Nat
  column : Nat
  deriving DecidableEq, Repr

structure Cursor where
  rest : List Char
  place : Place
  mark : Place

/-- Why reading stopped, and where. -/
structure Stop where
  cause : Cause
  cursor : Cursor

/-- Reads something at a cursor and moves it on. -/
abbrev Reader (α : Type) := Cursor → Except Stop (α × Cursor)

def Place.after (p : Place) (cs : List Char) : Place :=
  cs.foldl (fun p c ↦ if c == '\n' then ⟨p.line + 1, 1⟩ else ⟨p.line, p.column + 1⟩) p

namespace Cursor

def start (source : String) : Cursor :=
  ⟨source.toList, ⟨1, 1⟩, ⟨1, 1⟩⟩

/-- One step over so many characters. -/
def advance (count : Nat) (c : Cursor) : Cursor :=
  ⟨c.rest.drop count, c.place.after (c.rest.take count), c.place⟩

/-- Past one character; the mark stays. -/
def pastOne (c : Cursor) : Cursor :=
  { c.advance 1 with mark := c.mark }

def stop {α : Type} (c : Cursor) (cause : Cause) : Except Stop α :=
  .error ⟨cause, c⟩

/-- Back at an earlier cursor; the mark stays. -/
def backTo (c earlier : Cursor) : Cursor :=
  { earlier with mark := c.mark }

def startsWith (c : Cursor) (part : String) : Bool :=
  part.toList.isPrefixOf c.rest

/-- Whether an identifier is next, and no longer one. -/
def startsWithWord (c : Cursor) (word : String) : Bool :=
  c.startsWith word &&
    match c.rest.drop word.length with
    | [] => true
    | next :: _ => !Text.isIdentifierPart next

/-- Steps over a part of text, if it is next. -/
def pass? (c : Cursor) (part : String) : Option Cursor :=
  if c.startsWith part then some (c.advance part.length) else none

def passWord? (c : Cursor) (word : String) : Option Cursor :=
  if c.startsWithWord word then some (c.advance word.length) else none

def nextIs (c : Cursor) (expected : Char) : Bool :=
  c.rest.head? == some expected

/-- Takes one character. -/
def nextChar : Reader Char := fun c ↦
  match c.rest with
  | [] => c.stop .endOfText
  | head :: _ => .ok (head, c.pastOne)

def expectChar (expected : Char) (cause : Cause) (c : Cursor) : Except Stop Cursor :=
  if c.nextIs expected then .ok (c.advance 1) else c.stop cause

def countWhile (c : Cursor) (test : Char → Bool) : Nat :=
  (c.rest.takeWhile test).length

end Cursor

def isSpace (c : Char) : Bool :=
  [' ', '\t', '\n', '\r', '\x0b', '\x0c', '\u0085', '\u200e', '\u200f', '\u2028', '\u2029'].contains
    c

/-- The rest of a block comment; block comments nest. -/
def passBlockComment : Nat → Nat → Cursor → Except Stop Cursor
  | _, 0, c => .ok c
  | 0, _, c => c.stop .unclosedComment
  | bound + 1, level + 1, c =>
      if c.rest.isEmpty then c.stop .unclosedComment
      else
        let c := c.advance (c.countWhile fun ch ↦ ch != '/' && ch != '*')
        match c.pass? "/*" with
        | some c => passBlockComment bound (level + 2) c
        | none =>
            match c.pass? "*/" with
            | some c => passBlockComment bound level c
            | none =>
                if c.rest.isEmpty then c.stop .unclosedComment
                else passBlockComment bound (level + 1) c.pastOne

/-- Steps over a comment, if one is next, and tells whether text may follow it. -/
def passComment? (c : Cursor) : Except Stop (Option (Bool × Cursor)) :=
  match c.pass? "/" with
  | none => .ok none
  | some c => do
      let (head, c) ← c.nextChar
      if head == '/' then
        let c := c.advance (c.countWhile (· != '\n'))
        return some (!c.rest.isEmpty, c)
      else if head == '*' then
        return some (true, ← passBlockComment (c.rest.length + 1) 1 c)
      else
        c.stop (.unexpectedChar head)

/-- Blanks and comments, at least one step. -/
def passSpaces : Nat → Cursor → Except Stop Cursor
  | 0, c => .ok c
  | bound + 1, c => do
      let c := c.advance (c.countWhile isSpace)
      match ← passComment? c with
      | none => return c
      | some (false, c) => return c
      | some (true, c) => passSpaces bound c

/-- Steps over blanks and comments; at the end of the text there is no step. -/
def skipSpace (c : Cursor) : Except Stop Cursor :=
  if c.rest.isEmpty then .ok c else passSpaces (c.rest.length + 1) c

/-- Steps over a comma and the blanks around it, and tells whether there was one. -/
def passComma (c : Cursor) : Except Stop (Bool × Cursor) := do
  let c ← skipSpace c
  match c.pass? "," with
  | some c => return (true, ← skipSpace c)
  | none => return (false, c)

end DialogKit.Ron
