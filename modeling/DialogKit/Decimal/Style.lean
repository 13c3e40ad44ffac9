import DialogKit.Decimal.Shortest

/-!
# Writing numbers

The shortest decimal of a number, laid out. A style says which numbers are written positionally,
what follows a whole number, and how the numbers without digits read. Outside its positional range
a number is written with an exponent that has a sign.
-/

namespace DialogKit.Decimal

structure Style where
  /-- Written after a whole number. -/
  wholeTail : String
  /-- The least and greatest power of the first digit that are written positionally, if limited. -/
  positional : Option (Int × Int)
  /-- Written for an infinite number, by its sign. -/
  infinite : Bool → String
  undefined : String
  tie : Tie

def signedInfinity (negative : Bool) : String :=
  if negative then "-inf" else "inf"

/-- The text of documents and messages: always positional, and whole numbers have no point. -/
def Style.plain : Style := ⟨"", none, signedInfinity, "NaN", .up⟩

/-- The text of a number that always shows a point. -/
def Style.pointed : Style := ⟨".0", none, signedInfinity, "NaN", .up⟩

/-- The text of a number in an interchange document, where only finite numbers are written. -/
def Style.interchange : Style := ⟨".0", some (-5, 15), fun _ ↦ "null", "null", .even⟩

def digitChars (n : Nat) : List Char :=
  Nat.toDigits 10 n

/-- Digits with a point after the first `point` of them, filled up with zeros. -/
def positionalChars (style : Style) (digits : List Char) (point : Int) : List Char :=
  if point ≤ 0 then '0' :: '.' :: List.replicate (-point).toNat '0' ++ digits
  else
    let whole := point.toNat
    if digits.length ≤ whole then
      digits ++ List.replicate (whole - digits.length) '0' ++ style.wholeTail.toList
    else digits.take whole ++ '.' :: digits.drop whole

/-- Digits with a point after the first and an exponent. -/
def exponentChars (digits : List Char) (power : Int) : List Char :=
  let fraction := if digits.length ≤ 1 then [] else '.' :: digits.drop 1
  digits.take 1 ++ fraction ++ 'e' :: (if power < 0 then '-' else '+') :: digitChars power.natAbs

def Style.digits (style : Style) (d : Digits) : List Char :=
  let digits := digitChars d.digits
  let point := digits.length + d.scale
  match style.positional with
  | none => positionalChars style digits point
  | some (least, greatest) =>
      if least ≤ point - 1 && point - 1 ≤ greatest then positionalChars style digits point
      else exponentChars digits (point - 1)

def Style.write (style : Style) : Binary → String
  | .undefined => style.undefined
  | .infinite negative => style.infinite negative
  | .finite negative mantissa exponent gapHalves =>
      let text := style.digits (shortest style.tie mantissa exponent gapHalves)
      String.ofList (if negative then '-' :: text else text)

def Style.float (style : Style) (x : Float) : String :=
  style.write (.ofFloat x)

/-- The plain text of a number. -/
def text (x : Float) : String :=
  Style.plain.float x

/-- The plain text of a number of single precision. -/
def text32 (x : Float32) : String :=
  Style.plain.write (.ofFloat32 x)

end DialogKit.Decimal
