import DialogKit.Text.Lines

/-!
# Excerpts

The lines around a place in a source text: up to two before it and one after it, each with its
number, and a caret under the place.
-/

namespace DialogKit.Source

/-- A line number set to the right in at least four columns, with its margin. -/
def gutter (n : Nat) : String :=
  let digits := toString n
  String.ofList (List.replicate (4 - digits.length) ' ')
    |> fun padding ↦ " " ++ padding ++ digits ++ " | "

def textRow (n : Nat) (text : String) : String :=
  gutter n ++ text

/-- The row under line `n` whose caret stands below the given column. -/
def caretRow (n column : Nat) : String :=
  String.ofList (List.replicate ((gutter n).length + (column - 1)) ' ') ++ "^"

/-- The rows of the lines numbered from `n` on. -/
def rowsFrom (line column : Nat) : Nat → List String → List String
  | _, [] => []
  | n, text :: rest =>
      textRow n text :: (if n == line then [caretRow n column] else []) ++
        rowsFrom line column (n + 1) rest

/-- The rows of an excerpt. -/
def rows (source : String) (line column : Nat) : List String :=
  let lines := Text.lines source
  let first := max 1 (line - 2)
  let last := min lines.length (line + 1)
  rowsFrom line column first ((lines.take last).drop (first - 1))

/-- The excerpt around a place, each row with a line end. -/
def excerpt (source : String) (line column : Nat) : String :=
  String.join ((rows source line column).map (· ++ "\n"))

end DialogKit.Source
