import DialogKit.Json.Numeral
import DialogKit.Proofs.Json.Strings

/-!
# Whole numbers in interchange text

A whole number that is written in decimal digits is read back as it was. The reader takes the
digits as long as they fit into 64 bits, which those of a number of 64 bits always do, and refuses
a leading zero, which only zero itself has. What stands behind the digits must not go on with them:
a point or an exponent would make another number of it.
-/

namespace DialogKit.Json

/-- Behind a value comes the end of the text, of the list or of the object, or the next part. -/
def Closed (rest : List Char) : Prop :=
  ∀ c ∈ rest.head?, c = ',' ∨ c = ']' ∨ c = '}'

theorem closed_nil : Closed [] :=
  fun _ h ↦ nomatch h

theorem closed_cons {c : Char} (h : c = ',' ∨ c = ']' ∨ c = '}') (rest : List Char) :
    Closed (c :: rest) := by
  rintro _ ⟨⟩
  exact h

/-! ## Digits -/

theorem le_ofDigitChars (cs : List Char) (n : Nat) : n ≤ Nat.ofDigitChars 10 cs n := by
  induction cs generalizing n with
  | nil => simp
  | cons c cs ih =>
    rw [Nat.ofDigitChars_cons]
    exact Nat.le_trans (by omega) (ih _)

/-- The digits of a number of 64 bits are all taken. -/
theorem wholeDigits_eq {cs : List Char} {digits : Nat}
    (h : Nat.ofDigitChars 10 cs digits < Nat.pow 2 64) :
    wholeDigits digits cs = ⟨Nat.ofDigitChars 10 cs digits, 0⟩ := by
  induction cs generalizing digits with
  | nil => simp [wholeDigits]
  | cons c cs ih =>
    rw [Nat.ofDigitChars_cons] at h ⊢
    have hfits : fits digits c = true :=
      decide_eq_true (Nat.lt_of_le_of_lt (le_ofDigitChars cs _) h)
    rw [wholeDigits, if_pos hfits]
    exact ih h

/-- Only zero is written with a leading zero. -/
theorem exists_toDigits_eq {n : Nat} (h : n ≠ 0) :
    ∃ c cs, Nat.toDigits 10 n = c :: cs ∧ c ≠ '0' := by
  induction n using Nat.strongRecOn with
  | ind n ih =>
    by_cases hlt : n < 10
    · exact ⟨_, [], Nat.toDigits_of_lt_base hlt, by simpa using h⟩
    · obtain ⟨c, cs, hdigits, hc⟩ := ih (n / 10) (by omega) (by omega)
      refine ⟨c, cs ++ [(n % 10).digitChar], ?_, hc⟩
      rw [Nat.toDigits_of_base_le (by omega) (by omega), hdigits, List.cons_append]

theorem isDigit_of_mem_toDigits {n : Nat} {c : Char} (h : c ∈ Nat.toDigits 10 n) :
    c.isDigit = true :=
  Nat.isDigit_of_mem_toDigits (by decide) (by decide) h

/-! ## Numbers -/

theorem passWhile_isDigit {n : Nat} {c : Cursor} {rest : List Char}
    (hrest : c.rest = Nat.toDigits 10 n ++ rest) (hclosed : Closed rest) :
    ∃ after : Cursor, after.rest = rest ∧
      c.passWhile Char.isDigit = (Nat.toDigits 10 n, after) := by
  have hstop : rest.takeWhile Char.isDigit = [] ∧ rest.dropWhile Char.isDigit = rest := by
    cases rest with
    | nil => exact ⟨rfl, rfl⟩
    | cons c rest =>
      have hdigit : c.isDigit = false := by
        rcases hclosed c rfl with rfl | rfl | rfl <;> rfl
      simp [hdigit]
  have htake : c.rest.takeWhile Char.isDigit = Nat.toDigits 10 n := by
    rw [hrest, List.takeWhile_append_of_pos fun c ↦ isDigit_of_mem_toDigits, hstop.1,
      List.append_nil]
  refine ⟨(c.passWhile Char.isDigit).2, ?_, Prod.ext htake rfl⟩
  rw [Cursor.rest_passWhile, hrest, List.dropWhile_append_of_pos fun c ↦ isDigit_of_mem_toDigits,
    hstop.2]

/-- A run of digits that has no leading zero and fits into 64 bits is a number, if nothing behind it
goes on with it. -/
theorem readNumber_of_run {run : List Char} {n : Nat} {c after : Cursor}
    (hpass : c.passWhile Char.isDigit = (run, after)) (hne : run ≠ [])
    (hzero : ∀ d ds, run ≠ '0' :: d :: ds) (hwhole : wholeDigits 0 run = ⟨n, 0⟩)
    (hclosed : Closed after.rest) (negative : Bool) :
    readNumber c negative = .ok (wholeNumber negative n, after) := by
  unfold readNumber
  simp only [hpass]
  split
  case h_1 => exact absurd rfl hne
  case h_2 => exact absurd rfl hne
  case h_3 => exact absurd rfl (hzero _ _)
  case h_4 =>
    rw [hwhole]
    split
    case h_4 => rfl
    all_goals
      next hrest =>
        rcases hclosed _ (by rw [hrest]; rfl) with h | h | h <;> simp at h

/-- Behind its sign, a number of 64 bits is read from its digits. -/
theorem readNumber_toDigits {n : Nat} (h : n < Nat.pow 2 64) (negative : Bool) {c : Cursor}
    {rest : List Char} (hrest : c.rest = Nat.toDigits 10 n ++ rest) (hclosed : Closed rest) :
    Yields (readNumber · negative) c (wholeNumber negative n) rest := by
  obtain ⟨after, rfl, hpass⟩ := passWhile_isDigit hrest hclosed
  have hwhole : wholeDigits 0 (Nat.toDigits 10 n) = ⟨n, 0⟩ := by
    rw [wholeDigits_eq (by rwa [Nat.ofDigitChars_ten_toDigits]), Nat.ofDigitChars_ten_toDigits]
  refine ⟨after, rfl, readNumber_of_run hpass Nat.toDigits_ne_nil ?_ hwhole hclosed negative⟩
  intro d ds hrun
  by_cases hzero : n = 0
  · simp [hzero] at hrun
  · obtain ⟨c, cs, hdigits, hc⟩ := exists_toDigits_eq hzero
    rw [hdigits] at hrun
    exact hc (List.cons.inj hrun).1

namespace Number

/-- The number has a text of its own: it is whole, and a negative one is below zero. -/
def Whole : Number → Prop
  | .natural _ => True
  | .negative i => i.toInt < 0
  | .real _ => False

end Number

theorem text_natural (n : UInt64) :
    (Number.natural n).text.toList = Nat.toDigits 10 n.toNat :=
  String.toList_ofList

theorem text_negative {i : Int64} (h : i.toInt < 0) :
    (Number.negative i).text.toList = '-' :: Nat.toDigits 10 i.toInt.natAbs := by
  obtain ⟨n, hn⟩ := Int.eq_negSucc_of_lt_zero h
  have htext : (Number.negative i).text = "-" ++ Nat.repr (n + 1) := by
    rw [Number.text, hn]
    rfl
  have hdigits : (Nat.repr (n + 1)).toList = Nat.toDigits 10 (n + 1) := String.toList_ofList
  rw [htext, hn, Int.natAbs_negSucc, String.toList_append, hdigits]
  rfl

theorem readNumber_natural (n : UInt64) {c : Cursor} {rest : List Char}
    (hrest : c.rest = Nat.toDigits 10 n.toNat ++ rest) (hclosed : Closed rest) :
    Yields (readNumber · false) c (.natural n) rest := by
  have hsame : wholeNumber false n.toNat = .natural n := congrArg Number.natural n.ofNat_toNat
  exact hsame ▸ readNumber_toDigits n.toNat_lt false hrest hclosed

theorem readNumber_negative {i : Int64} (h : i.toInt < 0) {c : Cursor} {rest : List Char}
    (hrest : c.rest = Nat.toDigits 10 i.toInt.natAbs ++ rest) (hclosed : Closed rest) :
    Yields (readNumber · true) c (.negative i) rest := by
  have hleast : i.toInt.natAbs ≤ Nat.pow 2 63 := by
    have hle := i.le_toInt
    have hpow : Nat.pow 2 63 = 9223372036854775808 := rfl
    omega
  have hsame : wholeNumber true i.toInt.natAbs = .negative i := by
    have hint : -(i.toInt.natAbs : Int) = i.toInt := by omega
    have hsmall : (i.toInt.natAbs = 0 || Nat.pow 2 63 < i.toInt.natAbs) = false := by
      simpa using ⟨Int.ne_of_lt h, hleast⟩
    rw [wholeNumber, if_neg (by simp), hsmall, if_neg (by simp), hint, Int64.ofInt_toInt]
  have hlt : i.toInt.natAbs < Nat.pow 2 64 := Nat.lt_of_le_of_lt hleast (by decide)
  exact hsame ▸ readNumber_toDigits hlt true hrest hclosed

end DialogKit.Json
