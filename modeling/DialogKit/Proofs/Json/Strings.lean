import DialogKit.Json.Reader
import DialogKit.Json.Writer
import Mathlib.Data.List.Basic

/-!
# Strings in interchange text

The reader takes back every string from what the writer makes of it. A character is written in one
of three ways: behind a backslash, by its code point, or as itself. The reader tells these apart by
the characters in front, and each way gives back the character it was made from.
-/

namespace DialogKit.Json

/-! ## Positions -/

namespace Cursor

@[simp]
theorem rest_next (c : Cursor) : c.next.rest = c.rest.tail := by
  unfold next
  split <;> simp_all

@[simp]
theorem rest_skip (count : Nat) (c : Cursor) : (c.skip count).rest = c.rest.drop count := by
  induction count generalizing c with
  | zero => rfl
  | succ count ih => rw [skip, ih, rest_next, List.drop_tail]

theorem rest_passWhile (test : Char → Bool) (c : Cursor) :
    (c.passWhile test).2.rest = c.rest.dropWhile test := by
  calc
    _ = c.rest.drop (c.rest.takeWhile test).length := rest_skip ..
    _ = (c.rest.takeWhile test ++ c.rest.dropWhile test).drop (c.rest.takeWhile test).length := by
      rw [List.takeWhile_append_dropWhile]
    _ = _ := List.drop_left

end Cursor

/-- At the cursor, the reader gets the value and leaves the rest. Where the cursor stands in the
text matters for faults only. -/
def Yields {α : Type} (reader : Cursor → Except Fault (α × Cursor)) (c : Cursor) (value : α)
    (rest : List Char) : Prop :=
  ∃ after : Cursor, after.rest = rest ∧ reader c = .ok (value, after)

/-! ## One character -/

theorem hexNumber?_controlEscape {n : Nat} (h : n < 32) :
    hexNumber? ((controlEscape n).drop 2) = some n := by
  have hall : ∀ n < 32, hexNumber? ((controlEscape n).drop 2) = some n := by decide
  exact hall n h

/-- How a character is written: behind a backslash if the reader has a mark for it, by its code
point, or as itself. -/
inductive Written (ch : Char) : List Char → Prop
  | short {mark : Char}
      (back : ∀ c : Cursor, c.rest.head? = some mark → readEscape c = .ok (ch, c.next)) :
      Written ch ['\\', mark]
  | control (below : ch.toNat < 32) : Written ch (controlEscape ch.toNat)
  | plain (quote : ch ≠ '"') (backslash : ch ≠ '\\') (above : ¬ ch < ' ') : Written ch [ch]

theorem Written.of_beq {ch marked mark : Char} (h : (ch == marked) = true)
    (back : ∀ line column rest, readEscape ⟨mark :: rest, line, column⟩ =
      .ok (marked, Cursor.next ⟨mark :: rest, line, column⟩)) : Written ch ['\\', mark] := by
  obtain rfl := beq_iff_eq.1 h
  refine .short fun c hhead ↦ ?_
  obtain ⟨rest, line, column⟩ := c
  obtain ⟨tail, rfl⟩ := List.head?_eq_some_iff.1 hhead
  exact back line column tail

theorem written_escapeChar (ch : Char) : Written ch (escapeChar ch) := by
  unfold escapeChar
  split_ifs with hquote hslash hback hfeed hline hreturn htab hcontrol
  · exact .of_beq hquote fun _ _ _ ↦ rfl
  · exact .of_beq hslash fun _ _ _ ↦ rfl
  · exact .of_beq hback fun _ _ _ ↦ rfl
  · exact .of_beq hfeed fun _ _ _ ↦ rfl
  · exact .of_beq hline fun _ _ _ ↦ rfl
  · exact .of_beq hreturn fun _ _ _ ↦ rfl
  · exact .of_beq htab fun _ _ _ ↦ rfl
  · exact .control hcontrol
  · exact .plain (by simpa using hquote) (by simpa using hslash) hcontrol

theorem readUnit_of_digits {digits rest : List Char} {n : Nat} (hlength : digits.length = 4)
    (hnumber : hexNumber? digits = some n) {c : Cursor} (hrest : c.rest = digits ++ rest) :
    Yields readUnit c n rest := by
  have htake : c.rest.take 4 = digits := by rw [hrest, ← hlength, List.take_left]
  have hdrop : c.rest.drop 4 = rest := by rw [hrest, ← hlength, List.drop_left]
  refine ⟨c.skip 4, by rw [Cursor.rest_skip, hdrop], ?_⟩
  simp only [readUnit, htake, hnumber, hlength, if_true]

theorem readUnits_of_lt {n : Nat} (h : n < 0xD800) {c : Cursor} {rest : List Char}
    (hunit : Yields readUnit c n rest) : Yields readUnits c (Char.ofNat n) rest := by
  obtain ⟨after, hafter, hread⟩ := hunit
  have hlow : ¬ 0xDC00 ≤ n := by omega
  refine ⟨after, hafter, ?_⟩
  simp [readUnits, hread, hlow, h, bind, Except.bind, pure, Except.pure]

/-- The reader takes the character in one round and goes on with the rest. -/
def Takes (bound : Nat) (c : Cursor) (ch : Char) (rest : List Char) : Prop :=
  ∃ after : Cursor, after.rest = rest ∧
    readChars (bound + 1) c = (readChars bound after).map fun (tail, last) ↦ (ch :: tail, last)

theorem takes_of_readEscape {bound : Nat} {c : Cursor} {ch : Char} {tail rest : List Char}
    (hrest : c.rest = '\\' :: tail) (h : Yields readEscape c.next ch rest) :
    Takes bound c ch rest := by
  obtain ⟨after, hafter, hread⟩ := h
  refine ⟨after, hafter, ?_⟩
  simp only [readChars, hrest, hread]
  rfl

theorem readEscape_control {n : Nat} (h : n < 32) {c : Cursor} {rest : List Char}
    (hrest : c.rest = (controlEscape n).tail ++ rest) :
    Yields readEscape c (Char.ofNat n) rest := by
  have hmark : c.rest = 'u' :: ((controlEscape n).drop 2 ++ rest) := hrest
  have hdigits : c.next.rest = (controlEscape n).drop 2 ++ rest := by
    rw [Cursor.rest_next, hmark, List.tail_cons]
  have hunit : Yields readUnit c.next n rest :=
    readUnit_of_digits rfl (hexNumber?_controlEscape h) hdigits
  obtain ⟨after, hafter, hread⟩ := readUnits_of_lt (by omega) hunit
  refine ⟨after, hafter, ?_⟩
  simp only [readEscape, hmark, hread]

theorem takes_of_written {bound : Nat} {c : Cursor} {ch : Char} {text rest : List Char}
    (h : Written ch text) (hrest : c.rest = text ++ rest) : Takes bound c ch rest := by
  cases h with
  | @short mark back =>
    have hnext : c.next.rest = mark :: rest := by
      rw [Cursor.rest_next, hrest]
      rfl
    have hafter : c.next.next.rest = rest := by rw [Cursor.rest_next, hnext, List.tail_cons]
    exact takes_of_readEscape hrest ⟨c.next.next, hafter, back c.next (by rw [hnext]; rfl)⟩
  | control below =>
    have hread : Yields readEscape c.next (Char.ofNat ch.toNat) rest := by
      refine readEscape_control below ?_
      rw [Cursor.rest_next, hrest]
      rfl
    rw [Char.ofNat_toNat] at hread
    exact takes_of_readEscape hrest hread
  | plain quote backslash above =>
    refine ⟨c.next, by rw [Cursor.rest_next, hrest]; rfl, ?_⟩
    simp only [readChars, hrest, List.cons_append, List.nil_append]
    rw [if_neg above]
    rfl

/-! ## Whole strings -/

/-- Any bound will do that leaves one round for each character and one for the closing quote. -/
theorem readChars_flatMap (cs : List Char) {rest : List Char} {bound : Nat}
    (hbound : cs.length < bound) {c : Cursor}
    (hrest : c.rest = cs.flatMap escapeChar ++ '"' :: rest) :
    Yields (readChars bound) c cs rest := by
  induction cs generalizing bound c with
  | nil =>
    obtain ⟨bound, rfl⟩ := Nat.exists_eq_succ_of_ne_zero (Nat.ne_of_gt hbound)
    refine ⟨c.next, by rw [Cursor.rest_next, hrest]; rfl, ?_⟩
    have hquote : c.rest = '"' :: rest := hrest
    simp only [readChars, hquote]
  | cons ch cs ih =>
    obtain ⟨bound, rfl⟩ := Nat.exists_eq_succ_of_ne_zero (Nat.ne_of_gt (Nat.zero_lt_of_lt hbound))
    rw [List.flatMap_cons, List.append_assoc] at hrest
    have htakes : Takes bound c ch (cs.flatMap escapeChar ++ '"' :: rest) :=
      takes_of_written (written_escapeChar ch) hrest
    obtain ⟨next, hnext, hread⟩ := htakes
    obtain ⟨after, hafter, hcs⟩ := ih (Nat.lt_of_succ_lt_succ hbound) hnext
    refine ⟨after, hafter, ?_⟩
    rw [hread, hcs]
    rfl

/-- No character is lost in writing, so the bound that the length of a text gives is enough. -/
theorem length_le_flatMap_escapeChar (cs : List Char) :
    cs.length ≤ (cs.flatMap escapeChar).length := by
  induction cs with
  | nil => simp
  | cons ch cs ih =>
    have hwritten := written_escapeChar ch
    have hch : 1 ≤ (escapeChar ch).length := by
      generalize escapeChar ch = text at hwritten
      cases hwritten <;> simp [controlEscape]
    rw [List.flatMap_cons, List.length_append, List.length_cons]
    omega

/-- Behind its opening quote, every string is read back. -/
theorem readString_stringChars (s : String) {c : Cursor} {rest : List Char}
    (hrest : c.rest = (stringChars s).tail ++ rest) : Yields readString c s rest := by
  have hchars : c.rest = s.toList.flatMap escapeChar ++ '"' :: rest := by
    rw [hrest, stringChars, List.cons_append, List.tail_cons, List.append_assoc,
      List.singleton_append]
  have hbound : s.toList.length < c.rest.length + 1 := by
    have hlength := length_le_flatMap_escapeChar s.toList
    rw [hchars, List.length_append]
    omega
  obtain ⟨after, hafter, hread⟩ := readChars_flatMap s.toList hbound hchars
  refine ⟨after, hafter, ?_⟩
  rw [readString, hread]
  simp [bind, Except.bind, pure, Except.pure]

/-- A document of one string gives it back, with nothing left to read. -/
theorem readStringDocument_renderString (s : String) :
    ∃ after : Cursor, readStringDocument (renderString s) = .ok (s, after) ∧
      finish after = .ok () := by
  have hstart : (Cursor.start (renderString s)).rest = stringChars s := String.toList_ofList
  have hspace : (Cursor.start (renderString s)).skipSpace.rest = stringChars s := by
    rw [Cursor.skipSpace, Cursor.rest_passWhile, hstart]
    rfl
  have hquote : (Cursor.start (renderString s)).skipSpace.next.rest =
      (stringChars s).tail ++ [] := by rw [Cursor.rest_next, hspace, List.append_nil]
  obtain ⟨after, hafter, hread⟩ := readString_stringChars s hquote
  refine ⟨after, ?_, ?_⟩
  · rw [← hread, readStringDocument, hspace]
    rfl
  · have hend : after.skipSpace.rest = [] := by
      rw [Cursor.skipSpace, Cursor.rest_passWhile, hafter]
      rfl
    rw [finish, hend]
    rfl

end DialogKit.Json
