import DialogKit.Text.Unprintable

/-!
# Quoted text

Text between quotes with every character that would not show written as an escape: the usual short
escapes for tab, line ends, backslash and the zero character, and `\u` with hexadecimal digits in
braces for the rest, also for a character that extends the one before it. The forms differ only in
which quotes take a backslash.
-/

namespace DialogKit.Text

def hexDigit (n : Nat) : Char :=
  if n < 10 then Char.ofNat (0x30 + n) else Char.ofNat (0x57 + n)

/-- The lowercase hexadecimal digits of a code point, without leading zeros. -/
def hexDigits (n : Nat) : List Char :=
  let digits := (List.range 6).reverse.map fun place ↦ n / Nat.pow 16 place % 16
  let significant := digits.dropWhile (· == 0)
  if significant.isEmpty then ['0'] else significant.map hexDigit

/-- The escape of a character by its code point. -/
def numericEscape (c : Char) : List Char :=
  '\\' :: 'u' :: '{' :: hexDigits c.toNat ++ ['}']

/-- How one character is written when `quotes` take a backslash. -/
def escapeChar (quotes : List Char) (c : Char) : List Char :=
  if c == '\x00' then ['\\', '0']
  else if c == '\t' then ['\\', 't']
  else if c == '\r' then ['\\', 'r']
  else if c == '\n' then ['\\', 'n']
  else if c == '\\' || quotes.contains c then ['\\', c]
  else if graphemeExtenders.contains c || unprintable.contains c then numericEscape c
  else [c]

/-- Text in double quotes. -/
def quoted (s : String) : String :=
  String.ofList ('"' :: s.toList.flatMap (escapeChar ['"']) ++ ['"'])

/-- Text in double quotes in which single quotes are escaped too. -/
def fullyQuoted (s : String) : String :=
  String.ofList ('"' :: s.toList.flatMap (escapeChar ['"', '\'']) ++ ['"'])

/-- A character in single quotes. -/
def quotedChar (c : Char) : String :=
  String.ofList ('\'' :: escapeChar ['\''] c ++ ['\''])

end DialogKit.Text
