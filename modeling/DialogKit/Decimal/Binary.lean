/-!
# Binary numbers

A floating point number as the integers that it stands for: a sign, and a mantissa times a power of
two. Everything written about a number is computed from these integers exactly.
-/

namespace DialogKit.Decimal

/-- A floating point number; `gapHalves` tells that the next number below is half as far away as
the next one above. -/
inductive Binary where
  | finite (negative : Bool) (mantissa : Nat) (exponent : Int) (gapHalves : Bool)
  | infinite (negative : Bool)
  | undefined
  deriving DecidableEq, Repr

/-- Reads the fields of an interchange format with the given field widths. -/
def Binary.ofFields (fractionBits exponentBits bits : Nat) : Binary :=
  let fraction := bits % Nat.pow 2 fractionBits
  let field := bits / Nat.pow 2 fractionBits % Nat.pow 2 exponentBits
  let negative := bits / Nat.pow 2 (fractionBits + exponentBits) % 2 == 1
  let offset : Int := Int.pow 2 (exponentBits - 1) - 1 + fractionBits
  if field == Nat.pow 2 exponentBits - 1 then
    if fraction == 0 then .infinite negative else .undefined
  else if field == 0 then .finite negative fraction (1 - offset) false
  else
    .finite negative (Nat.pow 2 fractionBits + fraction) (field - offset)
      (fraction == 0 && field != 1)

def Binary.ofFloat (x : Float) : Binary :=
  ofFields 52 11 x.toBits.toNat

def Binary.ofFloat32 (x : Float32) : Binary :=
  ofFields 23 8 x.toBits.toNat

end DialogKit.Decimal
