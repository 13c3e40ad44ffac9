/-!
# Lines

The lines of a text, each without its line end. A line ends at a line feed, together with one
carriage return before it; a text that ends with a line end has no further empty line.
-/

namespace DialogKit.Text

/-- One carriage return taken off the end. -/
def dropReturn (cs : List Char) : List Char :=
  if cs.getLast? = some '\r' then cs.dropLast else cs

/-- The parts between the separators; there is always one part more than there are separators. -/
def splitChars (separator : Char) : List Char → List (List Char)
  | [] => [[]]
  | c :: rest =>
      if c == separator then [] :: splitChars separator rest
      else
        match splitChars separator rest with
        | [] => [[c]]
        | part :: parts => (c :: part) :: parts

/-- The parts of a text between the separators. -/
def split (separator : Char) (s : String) : List String :=
  (splitChars separator s.toList).map String.ofList

/-- The lines of a text: all parts but the last end with a line feed. -/
def lineChars (cs : List Char) : List (List Char) :=
  let parts := splitChars '\n' cs
  let ended := parts.dropLast.map dropReturn
  match parts.getLast? with
  | some [] | none => ended
  | some rest => ended ++ [rest]

def lines (s : String) : List String :=
  (lineChars s.toList).map String.ofList

end DialogKit.Text
