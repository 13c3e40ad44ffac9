import DialogKit.Decimal.Nearest
import DialogKit.Json.Basic
import DialogKit.Json.Cursor

/-!
# Numbers in interchange text

A number is read digit by digit into a whole number of 64 bits; digits that no longer fit only move
the decimal point. Without point and exponent it stays whole if it fits. Otherwise it is scaled by
powers of ten in floating point, which may be off by the last bit of the nearest number.
-/

namespace DialogKit.Json

/-- The digits of a number read so far: its leading digits, and the power of ten to apply. -/
structure Significand where
  digits : Nat
  exponent : Int
  deriving DecidableEq, Repr

def digitValue (c : Char) : Nat :=
  c.toNat - 0x30

/-- Whether one more digit still fits into 64 bits. -/
def fits (digits : Nat) (c : Char) : Bool :=
  10 * digits + digitValue c < Nat.pow 2 64

/-- Whole digits: after the first that does not fit, the rest only count. -/
def wholeDigits : Nat → List Char → Significand
  | digits, [] => ⟨digits, 0⟩
  | digits, c :: rest =>
      if fits digits c then wholeDigits (10 * digits + digitValue c) rest
      else ⟨digits, rest.length + 1⟩

/-- Digits after the point: from the first that does not fit on they are ignored. -/
def pointDigits : Significand → List Char → Significand
  | s, [] => s
  | s, c :: rest =>
      if fits s.digits c then pointDigits ⟨10 * s.digits + digitValue c, s.exponent - 1⟩ rest
      else s

/-- The power of ten as a floating point number, up to the greatest one. -/
def powerOfTen (n : Nat) : Float :=
  Float.ofScientific 1 false n

/-- `x * 10 ^ exponent`, unless it is too great; powers beyond the greatest one are applied in
steps, of which three are enough to reach zero. -/
def scaleBy (x : Float) : Nat → Int → Option Float
  | steps, exponent =>
      if exponent.natAbs ≤ 308 then
        if 0 ≤ exponent then
          let y := x * powerOfTen exponent.natAbs
          if y.isInf then none else some y
        else some (x / powerOfTen exponent.natAbs)
      else if x == 0.0 then some x
      else if 0 ≤ exponent then none
      else
        match steps with
        | 0 => some 0.0
        | steps + 1 => scaleBy (x / 1e308) steps (exponent + 308)

/-- The floating point number with the given digits. -/
def Significand.toFloat? (s : Significand) (negative : Bool) : Option Float :=
  (scaleBy s.digits.toUInt64.toFloat 3 s.exponent).map fun x ↦ if negative then -x else x

/-- A whole number: zero with a sign, and what does not fit, become floating point numbers. -/
def wholeNumber (negative : Bool) (digits : Nat) : Number :=
  if !negative then .natural digits.toUInt64
  else if digits = 0 || Nat.pow 2 63 < digits then .real (-digits.toUInt64.toFloat)
  else .negative (Int64.ofInt (-digits))

def finishReal (c : Cursor) (negative : Bool) (s : Significand) :
    Except Fault (Number × Cursor) :=
  match s.toFloat? negative with
  | some x => .ok (.real x, c)
  | none => .error (c.fault .numberOutOfRange)

/-- The digits of an exponent up to the first that makes it exceed 32 bits with a sign: its value
and its digits, or only the digits up to there. -/
def exponentDigits (value : Nat) : Nat → List Char → Nat × Option Nat
  | taken, [] => (taken, some value)
  | taken, c :: rest =>
      let value := 10 * value + digitValue c
      if value < Nat.pow 2 31 then exponentDigits value (taken + 1) rest else (taken + 1, none)

/-- Keeps an exponent within 32 bits with a sign. -/
def clampExponent (e : Int) : Int :=
  max (-Int.pow 2 31) (min (Int.pow 2 31 - 1) e)

/-- The exponent after its letter, and with it the number. -/
def readExponent (c : Cursor) (negative : Bool) (s : Significand) :
    Except Fault (Number × Cursor) :=
  let (below, c) :=
    match c.rest with
    | '+' :: _ => (false, c.next)
    | '-' :: _ => (true, c.next)
    | _ => (false, c)
  match c.rest with
  | [] => .error (c.fault .endInValue)
  | first :: _ =>
      if !first.isDigit then .error (c.faultAhead .invalidNumber)
      else
        let run := c.rest.takeWhile Char.isDigit
        match exponentDigits 0 0 run with
        | (_, some value) =>
            let shift : Int := if below then -value else value
            finishReal (c.skip run.length) negative ⟨s.digits, clampExponent (s.exponent + shift)⟩
        | (taken, none) =>
            if s.digits != 0 && !below then .error ((c.skip taken).fault .numberOutOfRange)
            else .ok (.real (if negative then -0.0 else 0.0), c.skip run.length)

/-- What may follow the digits of a number that is no longer whole. -/
def readTail (c : Cursor) (negative : Bool) (s : Significand) : Except Fault (Number × Cursor) :=
  match c.rest with
  | 'e' :: _ | 'E' :: _ => readExponent c.next negative s
  | _ => finishReal c negative s

/-- The digits after the point, of which there is at least one. -/
def readPlaces (c : Cursor) (negative : Bool) (s : Significand) : Except Fault (Number × Cursor) :=
  let (run, after) := c.passWhile Char.isDigit
  match run, c.rest with
  | [], [] => .error (c.fault .endInValue)
  | [], _ :: _ => .error (c.faultAhead .invalidNumber)
  | _ :: _, _ => readTail after negative (pointDigits s run)

/-- A number after its sign. -/
def readNumber (c : Cursor) (negative : Bool) : Except Fault (Number × Cursor) :=
  let (run, after) := c.passWhile Char.isDigit
  match run, c.rest with
  | [], [] => .error (c.fault .endInValue)
  | [], _ :: _ => .error (c.faultAhead .invalidNumber)
  | '0' :: _ :: _, _ => .error (c.next.faultAhead .invalidNumber)
  | run, _ =>
      let s := wholeDigits 0 run
      match after.rest with
      | '.' :: _ => readPlaces after.next negative s
      | 'e' :: _ | 'E' :: _ => readExponent after.next negative s
      | _ =>
          if s.exponent = 0 then .ok (wholeNumber negative s.digits, after)
          else finishReal after negative s

end DialogKit.Json
