import DialogKit.Text.Casing
import Mathlib.Data.List.TakeWhile

/-!
# The lowercase of a leading part

The lowercase of a text starts with the lowercase of its leading parts, except where a leading part
stops in the middle of a word, behind a capital sigma. No other character has a lowercase that
depends on what follows. A sigma looks ahead to the nearest character that is not case-ignorable, so
its lowercase is settled by a leading part that has such a character behind it. Otherwise it ends a
word of the leading part, while in the whole text the word may go on.
-/

namespace DialogKit.Text

/-! ## Looking ahead -/

/-- Case-ignorable characters are passed over. -/
theorem startsCased_append_of_ignorable {marks : List Char}
    (h : ∀ c ∈ marks, caseIgnorable.contains c) (cs : List Char) :
    startsCased (marks ++ cs) = startsCased cs := by
  unfold startsCased
  rw [List.dropWhile_append_of_pos h]

/-- Behind a character that is not case-ignorable nothing counts. -/
theorem startsCased_append_of_not_ignorable {front : List Char}
    (h : ¬ ∀ c ∈ front, caseIgnorable.contains c) (cs : List Char) :
    startsCased (front ++ cs) = startsCased front := by
  have hstop : front.dropWhile caseIgnorable.contains ≠ [] := by
    rwa [Ne, List.dropWhile_eq_nil_iff]
  obtain ⟨c, rest, hrest⟩ := List.exists_cons_of_ne_nil hstop
  unfold startsCased
  rw [List.dropWhile_append, hrest]
  rfl

/-- A sigma keeps its form when the text goes on, unless it ended a word that goes on too. -/
theorem lowerSigma_eq_append_iff {before after rest : List Char} :
    lowerSigma before after = lowerSigma before (after ++ rest) ↔
      ¬ (startsCased before ∧ (∀ c ∈ after, caseIgnorable.contains c) ∧ startsCased rest) := by
  unfold lowerSigma
  by_cases hmarks : ∀ c ∈ after, caseIgnorable.contains c
  · have hafter : startsCased after = false := by
      rw [← List.append_nil after, startsCased_append_of_ignorable hmarks]
      rfl
    rw [startsCased_append_of_ignorable hmarks, hafter, iff_true_intro hmarks, true_and]
    cases startsCased before <;> cases startsCased rest <;> decide
  · rw [startsCased_append_of_not_ignorable hmarks]
    simp [hmarks]

/-! ## Parts that stop behind a sigma -/

/-- The front ends with a capital sigma, case-ignorable characters aside, and the rest goes on with
the word of that sigma. What is before the front is read backwards. -/
def SplitsAtSigma (before front rest : List Char) : Prop :=
  ∃ stem marks, front = stem ++ 'Σ' :: marks ∧ startsCased (stem.reverse ++ before) ∧
    (∀ c ∈ marks, caseIgnorable.contains c) ∧ startsCased rest

theorem not_splitsAtSigma_nil {before rest : List Char} : ¬ SplitsAtSigma before [] rest := by
  rintro ⟨stem, marks, hfront, _⟩
  simp at hfront

theorem splitsAtSigma_cons {before front rest : List Char} {c : Char} :
    SplitsAtSigma before (c :: front) rest ↔
      (c = 'Σ' ∧ startsCased before ∧ (∀ d ∈ front, caseIgnorable.contains d) ∧
        startsCased rest) ∨ SplitsAtSigma (c :: before) front rest := by
  constructor
  · rintro ⟨stem, marks, hfront, hbefore, hmarks, hrest⟩
    cases stem with
    | nil =>
      obtain ⟨rfl, rfl⟩ := List.cons.inj hfront
      exact .inl ⟨rfl, hbefore, hmarks, hrest⟩
    | cons d stem =>
      obtain ⟨rfl, rfl⟩ := List.cons.inj hfront
      exact .inr ⟨stem, marks, rfl, by simpa using hbefore, hmarks, hrest⟩
  · rintro (⟨rfl, hbefore, hmarks, hrest⟩ | ⟨stem, marks, rfl, hbefore, hmarks, hrest⟩)
    · exact ⟨[], front, rfl, hbefore, hmarks, hrest⟩
    · exact ⟨c :: stem, marks, rfl, by simpa using hbefore, hmarks, hrest⟩

/-- By induction on the front; what has been passed joins what is before it. -/
theorem lowerChars_prefix_iff {before front rest : List Char} :
    lowerChars before front <+: lowerChars before (front ++ rest) ↔
      ¬ SplitsAtSigma before front rest := by
  induction front generalizing before with
  | nil => simp [lowerChars, not_splitsAtSigma_nil]
  | cons c front ih =>
    rw [splitsAtSigma_cons, not_or, ← ih, List.cons_append, lowerChars, lowerChars]
    by_cases hsigma : c = 'Σ'
    · subst hsigma
      simp only [beq_self_eq_true, if_true, List.singleton_append, List.cons_prefix_cons,
        lowerSigma_eq_append_iff, true_and]
    · simp only [beq_iff_eq, hsigma, if_false, List.prefix_append_right_inj, false_and,
        not_false_eq_true, true_and]

/-! ## Texts -/

/-- The text `front ++ rest` is split inside of a word, behind a capital sigma. -/
def SigmaSplit (front rest : String) : Prop :=
  SplitsAtSigma [] front.toList rest.toList

/-- The text has a capital sigma inside of a word: on both sides of it, the nearest character that is
not case-ignorable is cased. -/
def HasInnerSigma (s : String) : Prop :=
  ∃ before after, s.toList = before ++ 'Σ' :: after ∧ startsCased before.reverse ∧
    startsCased after

theorem lower_prefix_iff {front rest : String} :
    (lower front).toList <+: (lower (front ++ rest)).toList ↔ ¬ SigmaSplit front rest := by
  unfold lower SigmaSplit
  rw [String.toList_ofList, String.toList_ofList, String.toList_append]
  exact lowerChars_prefix_iff

example : lower "ΝΗΣ" = "νης" ∧ lower "ΝΗΣΟΣ" = "νησος" := by decide

/-- A text can be split like this exactly where it has such a sigma. -/
theorem exists_sigmaSplit_iff {s : String} :
    (∃ front rest, s = front ++ rest ∧ SigmaSplit front rest) ↔ HasInnerSigma s := by
  constructor
  · rintro ⟨front, rest, rfl, stem, marks, hfront, hstem, hmarks, hrest⟩
    refine ⟨stem, marks ++ rest.toList, ?_, by simpa using hstem, ?_⟩
    · rw [String.toList_append, hfront, List.append_assoc, List.cons_append]
    · rwa [startsCased_append_of_ignorable hmarks]
  · rintro ⟨before, after, hs, hbefore, hafter⟩
    refine ⟨String.ofList (before ++ ['Σ']), String.ofList after, ?_, before, [], ?_, ?_, ?_, ?_⟩
    · rw [← String.ofList_append, List.append_assoc, List.singleton_append, ← hs,
        String.ofList_toList]
    · exact String.toList_ofList
    · simpa using hbefore
    · simp
    · rwa [String.toList_ofList]

theorem not_hasInnerSigma {s : String} (h : 'Σ' ∉ s.toList) : ¬ HasInnerSigma s := by
  rintro ⟨before, after, hs, _⟩
  rw [hs] at h
  simp at h

end DialogKit.Text
