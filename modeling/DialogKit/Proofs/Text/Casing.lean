import DialogKit.Text.Casing

/-!
# ASCII letters in either case

Two texts have the same letters if they only differ in the case of ASCII letters. Full case mapping
does not tell them apart: an ASCII letter in either case has the same lowercase, is cased, is not
case-ignorable and is no sigma, so it also decides alike which form a sigma beside it takes. For a
text of ASCII characters full case mapping changes its capitals only.
-/

namespace DialogKit.Text

/-- The texts are the same up to the case of ASCII letters. -/
def SameLetters (s t : String) : Prop :=
  lowerAscii s = lowerAscii t

instance (s t : String) : Decidable (SameLetters s t) :=
  inferInstanceAs (Decidable (lowerAscii s = lowerAscii t))

theorem SameLetters.symm {s t : String} (h : SameLetters s t) : SameLetters t s := Eq.symm h

/-- A character is an ASCII capital, which becomes the small letter, or it stays. -/
theorem toLower_cases {P : Char → Char → Prop}
    (capital : ∀ place : Fin 26, P (Char.ofNat (65 + place)) (Char.ofNat (97 + place)))
    (other : ∀ c, P c c) (c : Char) : P c c.toLower := by
  unfold Char.toLower
  split
  case isTrue hcapital =>
    obtain ⟨hleast, hgreatest⟩ := hcapital
    have hleast : 65 ≤ c.toNat := UInt32.le_iff_toNat_le.1 hleast
    have hgreatest : c.toNat ≤ 90 := UInt32.le_iff_toNat_le.1 hgreatest
    have hnat : (c.val + ('a'.val - 'A'.val)).toNat = 97 + (c.toNat - 65) := by
      have hadd : (c.val + 32).toNat = (c.toNat + 32) % 4294967296 := UInt32.toNat_add ..
      change (c.val + 32).toNat = _
      omega
    have hc : Char.ofNat (65 + (c.toNat - 65)) = c := by
      rw [Nat.add_sub_cancel' hleast, Char.ofNat_toNat]
    have hplace : P c (Char.ofNat (97 + (c.toNat - 65))) := by
      simpa only [hc] using capital ⟨c.toNat - 65, by omega⟩
    rw [← hnat] at hplace
    exact Char.ofNat_toNat ⟨c.val + ('a'.val - 'A'.val), _⟩ ▸ hplace
  case isFalse => exact other c

theorem lowerChar_toLower (c : Char) : lowerChar c.toLower = lowerChar c :=
  toLower_cases (P := fun c small ↦ lowerChar small = lowerChar c) (by decide) (fun _ ↦ rfl) c

theorem cased_toLower (c : Char) : cased.contains c.toLower = cased.contains c :=
  toLower_cases (P := fun c small ↦ cased.contains small = cased.contains c) (by decide)
    (fun _ ↦ rfl) c

theorem caseIgnorable_toLower (c : Char) :
    caseIgnorable.contains c.toLower = caseIgnorable.contains c :=
  toLower_cases (P := fun c small ↦ caseIgnorable.contains small = caseIgnorable.contains c)
    (by decide) (fun _ ↦ rfl) c

theorem isSigma_toLower (c : Char) : (c.toLower == 'Σ') = (c == 'Σ') :=
  toLower_cases (P := fun c small ↦ (small == 'Σ') = (c == 'Σ')) (by decide) (fun _ ↦ rfl) c

theorem startsCased_toLower (cs : List Char) :
    startsCased (cs.map Char.toLower) = startsCased cs := by
  have hignored : caseIgnorable.contains ∘ Char.toLower = caseIgnorable.contains :=
    funext caseIgnorable_toLower
  unfold startsCased
  rw [List.dropWhile_map, hignored]
  cases cs.dropWhile caseIgnorable.contains with
  | nil => rfl
  | cons c _ => exact cased_toLower c

theorem lowerChars_toLower (before cs : List Char) :
    lowerChars (before.map Char.toLower) (cs.map Char.toLower) = lowerChars before cs := by
  induction cs generalizing before with
  | nil => rfl
  | cons c after ih =>
    have hrest := ih (c :: before)
    rw [List.map_cons] at hrest
    rw [List.map_cons, lowerChars, lowerChars, hrest, isSigma_toLower, lowerChar_toLower,
      lowerSigma, lowerSigma, startsCased_toLower, startsCased_toLower]

theorem lower_lowerAscii (s : String) : lower (lowerAscii s) = lower s := by
  unfold lower lowerAscii
  rw [String.toList_ofList]
  exact congrArg String.ofList (lowerChars_toLower [] s.toList)

/-- Names that are compared in lowercase are compared regardless of the case of ASCII letters. -/
theorem SameLetters.lower_eq {s t : String} (h : SameLetters s t) : lower s = lower t := by
  rw [← lower_lowerAscii s, ← lower_lowerAscii t, h]

example : SameLetters "Multi_Action" "mULTI_aCTION" ∧ ¬ SameLetters "ΟΔΟΣ" "οδος" := by decide

/-- Text is its own lowercase if each of its characters is. The capital sigma is apart, because its
lowercase depends on the characters around it. -/
theorem lower_eq_self {s : String} (h : ∀ c ∈ s.toList, lowerChar c = [c] ∧ c ≠ 'Σ') :
    lower s = s := by
  have hchars (before cs : List Char) (hcs : ∀ c ∈ cs, lowerChar c = [c] ∧ c ≠ 'Σ') :
      lowerChars before cs = cs := by
    induction cs generalizing before with
    | nil => rfl
    | cons c cs ih =>
      obtain ⟨hlower, hsigma⟩ := hcs c (List.mem_cons_self ..)
      rw [lowerChars, if_neg (by simpa using hsigma), hlower,
        ih _ fun c hc ↦ hcs c (List.mem_cons_of_mem _ hc), List.singleton_append]
  rw [lower, hchars [] s.toList h, String.ofList_toList]

/-! ## Texts of ASCII characters -/

def Ascii (s : String) : Prop :=
  ∀ c ∈ s.toList, c.toNat < 128

instance (s : String) : Decidable (Ascii s) :=
  List.decidableBAll _ _

/-- What holds of each of the 128 characters holds of every ASCII character. -/
theorem of_ascii {P : Char → Prop} (h : ∀ n < 128, P (Char.ofNat n)) {c : Char}
    (hc : c.toNat < 128) : P c := by
  have hchar := h c.toNat hc
  rwa [Char.ofNat_toNat] at hchar

/-- Among ASCII characters only the capitals have another lowercase. -/
theorem lower_of_ascii {s : String} (h : Ascii s) : lower s = lowerAscii s := by
  have hsmall : ∀ c ∈ (lowerAscii s).toList, lowerChar c = [c] ∧ c ≠ 'Σ' := by
    intro c hc
    rw [lowerAscii, String.toList_ofList] at hc
    obtain ⟨d, hd, rfl⟩ := List.mem_map.1 hc
    exact of_ascii (P := fun d ↦ lowerChar d.toLower = [d.toLower] ∧ d.toLower ≠ 'Σ')
      (by decide) (h d hd)
  calc
    lower s = lower (lowerAscii s) := (lower_lowerAscii s).symm
    _ = lowerAscii s := lower_eq_self hsmall

end DialogKit.Text
