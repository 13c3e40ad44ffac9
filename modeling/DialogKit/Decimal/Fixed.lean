import DialogKit.Decimal.Style

/-!
# Numbers with fixed places

A number rounded to a given count of decimal places. The exact value decides, and a tie goes to
the even neighbour; the sign stays even where only zeros are left.
-/

namespace DialogKit.Decimal

/-- The integer nearest to `num / den`, the even one of two equally near. -/
def roundDiv (num den : Nat) : Nat :=
  let quotient := num / den
  let twice := 2 * (num % den)
  if twice < den then quotient
  else if den < twice then quotient + 1
  else quotient + quotient % 2

def fixedChars (places mantissa : Nat) (exponent : Int) : List Char :=
  let scaled :=
    roundDiv (mantissa * Nat.pow 10 places * Nat.pow 2 exponent.toNat) (Nat.pow 2 (-exponent).toNat)
  let digits := digitChars scaled
  let padded := List.replicate (places + 1 - digits.length) '0' ++ digits
  let whole := padded.length - places
  padded.take whole ++ if places = 0 then [] else '.' :: padded.drop whole

/-- The text of a number with the given count of places. -/
def fixed (places : Nat) (x : Float) : String :=
  match Binary.ofFloat x with
  | .undefined => "NaN"
  | .infinite negative => signedInfinity negative
  | .finite negative mantissa exponent _ =>
      let text := fixedChars places mantissa exponent
      String.ofList (if negative then '-' :: text else text)

end DialogKit.Decimal
