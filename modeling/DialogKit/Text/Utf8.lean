/-!
# UTF-8

The bytes of a character, and the character of bytes.
-/

namespace DialogKit.Text

/-- The bytes of a character. -/
def utf8Bytes (c : Char) : List Nat :=
  let n := c.toNat
  if n < 0x80 then [n]
  else if n < 0x800 then [0xC0 + n / 0x40, 0x80 + n % 0x40]
  else if n < 0x10000 then [0xE0 + n / 0x1000, 0x80 + n / 0x40 % 0x40, 0x80 + n % 0x40]
  else
    [0xF0 + n / 0x40000, 0x80 + n / 0x1000 % 0x40, 0x80 + n / 0x40 % 0x40, 0x80 + n % 0x40]

/-- The bits that bytes of one character carry: those of the first byte depend on the count. -/
def utf8Payload : List Nat → Nat
  | [] => 0
  | [b] => b
  | first :: rest =>
      rest.foldl (fun n b ↦ 0x40 * n + b % 0x40) (first % Nat.pow 2 (6 - rest.length))

/-- The character with exactly the given bytes. -/
def utf8Char? (bytes : List Nat) : Option Char :=
  let c := Char.ofNat (utf8Payload bytes)
  if utf8Bytes c = bytes then some c else none

end DialogKit.Text
