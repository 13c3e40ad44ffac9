import DialogKit.Json.Basic
import DialogKit.Text.Quoted

/-!
# Writing interchange text

Values without blanks between them. In strings the quote, the backslash and the control characters
below the space are escaped, and everything else is written as it is.
-/

namespace DialogKit.Json

def controlEscape (n : Nat) : List Char :=
  ['\\', 'u', '0', '0', Text.hexDigit (n / 16), Text.hexDigit (n % 16)]

def escapeChar (c : Char) : List Char :=
  if c == '"' then ['\\', '"']
  else if c == '\\' then ['\\', '\\']
  else if c == '\x08' then ['\\', 'b']
  else if c == '\x0c' then ['\\', 'f']
  else if c == '\n' then ['\\', 'n']
  else if c == '\r' then ['\\', 'r']
  else if c == '\t' then ['\\', 't']
  else if c < ' ' then controlEscape c.toNat
  else [c]

def stringChars (s : String) : List Char :=
  '"' :: s.toList.flatMap escapeChar ++ ['"']

/-- Parts with commas between them. -/
def joinParts : List (List Char) → List Char
  | [] => []
  | [part] => part
  | part :: rest => part ++ ',' :: joinParts rest

mutual

def chars : Json → List Char
  | .null => "null".toList
  | .bool b => (if b then "true" else "false").toList
  | .number n => n.text.toList
  | .string s => stringChars s
  | .array items => '[' :: joinParts (itemParts items) ++ [']']
  | .object entries => '{' :: joinParts (entryParts entries) ++ ['}']

def itemParts : List Json → List (List Char)
  | [] => []
  | item :: rest => chars item :: itemParts rest

def entryParts : List (String × Json) → List (List Char)
  | [] => []
  | (key, value) :: rest => (stringChars key ++ ':' :: chars value) :: entryParts rest

end

/-- The text of a value. -/
def render (value : Json) : String :=
  String.ofList (chars value)

/-- The text of a string. -/
def renderString (s : String) : String :=
  String.ofList (stringChars s)

end DialogKit.Json
