/-!
# Reading decimals

Decimals as they are written, and the numbers nearest to them in double and in single precision; of
two equally near numbers the one with an even mantissa is taken. Decimals beyond the range of
numbers read as infinite, and those below half of the least number as zero.
-/

namespace DialogKit.Decimal

/-- The decimal `digits * 10 ^ exponent` with a sign. -/
structure Numeral where
  negative : Bool
  digits : Nat
  exponent : Int
  deriving DecidableEq, Repr

namespace Numeral

/-- A decimal with the same nearest numbers, but with an exponent of moderate size: above the range
of numbers the power of the first digit stays above it, and below it no digit is left. -/
def moderate (n : Numeral) : Numeral :=
  let power := (Nat.toDigits 10 n.digits).length + n.exponent
  if n.digits = 0 || power < -330 then { n with digits := 0, exponent := 0 }
  else if 310 < power then { n with digits := 1, exponent := 310 }
  else n

/-- The nearest number of double precision. -/
def toFloat (n : Numeral) : Float :=
  let m := n.moderate
  let magnitude := Float.ofScientific m.digits (m.exponent < 0) m.exponent.natAbs
  if n.negative then -magnitude else magnitude

/-- The nearest number of single precision. -/
def toFloat32 (n : Numeral) : Float32 :=
  let m := n.moderate
  let magnitude := Float32.ofScientific m.digits (m.exponent < 0) m.exponent.natAbs
  if n.negative then -magnitude else magnitude

end Numeral

/-- The value of a run of decimal digits; other characters count as nothing. -/
def ofDigitChars (cs : List Char) : Nat :=
  cs.foldl (fun n c ↦ if c.isDigit then 10 * n + (c.toNat - 0x30) else n) 0

/-- Reads a sign, and whether there was one, off the front. -/
def takeSign : List Char → Bool × List Char
  | '-' :: rest => (true, rest)
  | '+' :: rest => (false, rest)
  | rest => (false, rest)

/-- The exponent written at the end of a decimal: a letter, a sign and digits. -/
def exponentOf? : List Char → Option Int
  | [] => some 0
  | c :: rest =>
      if c == 'e' || c == 'E' then
        let (negative, digits) := takeSign rest
        if digits.isEmpty || !digits.all Char.isDigit then none
        else
          let size : Int := ofDigitChars digits
          some (if negative then -size else size)
      else none

/-- Reads a decimal: a sign, digits with a point among or around them, and an exponent. At least
one digit stands before the exponent. -/
def read? (cs : List Char) : Option Numeral :=
  let (negative, rest) := takeSign cs
  let whole := rest.takeWhile Char.isDigit
  let (places, rest) :=
    match rest.dropWhile Char.isDigit with
    | '.' :: rest => (rest.takeWhile Char.isDigit, rest.dropWhile Char.isDigit)
    | rest => ([], rest)
  if whole.isEmpty && places.isEmpty then none
  else
    (exponentOf? rest).map fun exponent ↦
      ⟨negative, ofDigitChars (whole ++ places), exponent - places.length⟩

end DialogKit.Decimal
