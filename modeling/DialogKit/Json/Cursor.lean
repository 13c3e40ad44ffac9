import DialogKit.Json.Fault

/-!
# Reading position

The rest of an interchange text together with the place reached. Columns count the bytes of the
characters read. Most faults are reported one byte ahead, at the character that is in the way.
-/

namespace DialogKit.Json

structure Cursor where
  rest : List Char
  line : Nat
  column : Nat

namespace Cursor

def start (source : String) : Cursor :=
  ⟨source.toList, 1, 0⟩

/-- The place after one more character. -/
def next (c : Cursor) : Cursor :=
  match c.rest with
  | [] => c
  | '\n' :: rest => ⟨rest, c.line + 1, 0⟩
  | head :: rest => ⟨rest, c.line, c.column + head.utf8Size⟩

def skip : Nat → Cursor → Cursor
  | 0, c => c
  | count + 1, c => skip count c.next

/-- The characters up to the first that fails the test, and the cursor behind them. -/
def passWhile (test : Char → Bool) (c : Cursor) : List Char × Cursor :=
  let passed := c.rest.takeWhile test
  (passed, c.skip passed.length)

def isSpace (c : Char) : Bool :=
  c == ' ' || c == '\n' || c == '\t' || c == '\r'

def skipSpace (c : Cursor) : Cursor :=
  (c.passWhile isSpace).2

/-- A fault at the place reached. -/
def fault (c : Cursor) (cause : Cause) : Fault :=
  ⟨cause, c.line, c.column⟩

/-- A fault one byte ahead of the place reached, or at the end of the text. -/
def faultAhead (c : Cursor) (cause : Cause) : Fault :=
  match c.rest with
  | [] => c.fault cause
  | '\n' :: _ => ⟨cause, c.line + 1, 0⟩
  | _ :: _ => ⟨cause, c.line, c.column + 1⟩

/-- The place after so many bytes; `none` if the text has fewer. -/
def skipBytes : Nat → List Char → Nat → Nat → Option (Nat × Nat)
  | 0, _, line, column => some (line, column)
  | _ + 1, [], _, _ => none
  | bytes + 1, '\n' :: rest, line, _ => skipBytes bytes rest (line + 1) 0
  | bytes + 1, head :: rest, line, column =>
      skipBytes (bytes + 1 - head.utf8Size) rest line (column + min (bytes + 1) head.utf8Size)
termination_by structural _ rest => rest

/-- The place at the end of the text. -/
def atEnd (c : Cursor) : Cursor :=
  c.skip c.rest.length

end Cursor

end DialogKit.Json
