import DialogKit.Text.Blank
import Mathlib.Data.List.Basic
import Mathlib.Data.List.TakeWhile

/-!
# Trimmed text

Trimming takes the blanks off both ends of a text and nothing else. So every text is its trimmed
part with blanks around it, and a part that neither starts nor ends with a blank is what is left of
the text when only blanks stand around it.
-/

namespace DialogKit.Text

/-- No blank stands at either end. -/
structure Tight (cs : List Char) : Prop where
  head : ∀ c ∈ cs.head?, isBlank c = false
  last : ∀ c ∈ cs.getLast?, isBlank c = false

theorem tight_of_forall {cs : List Char} (h : ∀ c ∈ cs, isBlank c = false) : Tight cs :=
  ⟨fun c hc ↦ h c (List.mem_of_mem_head? hc), fun c hc ↦ h c (List.mem_of_mem_getLast? hc)⟩

theorem Tight.reverse {cs : List Char} (h : Tight cs) : Tight cs.reverse := by
  constructor
  · rw [List.head?_reverse]
    exact h.last
  · rw [List.getLast?_reverse]
    exact h.head

/-- The ends are those of the first and of the last part, whatever stands between them. -/
theorem Tight.append {front back : List Char} (hfront : Tight front) (hback : Tight back)
    (hne : front ≠ []) (hne' : back ≠ []) (cs : List Char) : Tight (front ++ cs ++ back) := by
  constructor
  · rw [List.append_assoc, List.head?_append_of_ne_nil _ hne]
    exact hfront.head
  · rw [List.getLast?_append_of_ne_nil _ hne']
    exact hback.last

theorem trimStartChars_append {front cs : List Char} (hfront : ∀ c ∈ front, isBlank c = true)
    (hcs : ∀ c ∈ cs.head?, isBlank c = false) : trimStartChars (front ++ cs) = cs := by
  unfold trimStartChars
  rw [List.dropWhile_append_of_pos hfront]
  cases cs with
  | nil => rfl
  | cons c cs =>
    apply List.dropWhile_cons_of_neg
    simp [hcs c rfl]

/-- What is tight is left when the blanks around it go. -/
theorem trimChars_append {front cs back : List Char} (hfront : ∀ c ∈ front, isBlank c = true)
    (hcs : Tight cs) (hback : ∀ c ∈ back, isBlank c = true) :
    trimChars (front ++ cs ++ back) = cs := by
  have hreverse : ∀ c ∈ back.reverse, isBlank c = true := by simpa using hback
  cases cs with
  | nil =>
    have hblank : ∀ c ∈ front ++ back, isBlank c = true := by
      intro c hc
      exact (List.mem_append.1 hc).elim (hfront c) (hback c)
    have hstart : trimStartChars (front ++ back ++ []) = [] :=
      trimStartChars_append hblank (by simp)
    rw [List.append_nil] at hstart ⊢
    rw [trimChars, hstart]
    rfl
  | cons c cs =>
    have hstart : trimStartChars (front ++ (c :: cs ++ back)) = c :: cs ++ back :=
      trimStartChars_append hfront hcs.head
    rw [trimChars, List.append_assoc, hstart, trimEndChars, List.reverse_append,
      trimStartChars_append hreverse hcs.reverse.head, List.reverse_reverse]

theorem exists_append_trimStartChars (cs : List Char) :
    ∃ front, (∀ c ∈ front, isBlank c = true) ∧ cs = front ++ trimStartChars cs :=
  ⟨cs.takeWhile isBlank, fun _ ↦ List.mem_takeWhile_imp, List.takeWhile_append_dropWhile.symm⟩

/-- Only blanks go. -/
theorem exists_append_trimChars (cs : List Char) :
    ∃ front back, (∀ c ∈ front, isBlank c = true) ∧ (∀ c ∈ back, isBlank c = true) ∧
      cs = front ++ trimChars cs ++ back := by
  obtain ⟨front, hfront, hcs⟩ := exists_append_trimStartChars cs
  obtain ⟨back, hback, hrest⟩ := exists_append_trimStartChars (trimStartChars cs).reverse
  refine ⟨front, back.reverse, hfront, by simpa using hback, ?_⟩
  calc
    cs = front ++ trimStartChars cs := hcs
    _ = front ++ (trimStartChars cs).reverse.reverse := by rw [List.reverse_reverse]
    _ = front ++ (back ++ trimStartChars (trimStartChars cs).reverse).reverse := by rw [← hrest]
    _ = front ++ (trimChars cs ++ back.reverse) := by
      rw [List.reverse_append, trimChars, trimEndChars]
    _ = front ++ trimChars cs ++ back.reverse := (List.append_assoc ..).symm

theorem trimChars_eq_nil {cs : List Char} : trimChars cs = [] ↔ ∀ c ∈ cs, isBlank c = true := by
  constructor
  · intro h c hc
    obtain ⟨front, back, hfront, hback, hcs⟩ := exists_append_trimChars cs
    rw [hcs, h, List.append_nil] at hc
    exact (List.mem_append.1 hc).elim (hfront c) (hback c)
  · intro h
    have hnil : ∀ c ∈ ([] : List Char), isBlank c = false := by simp
    have htrim : trimChars (cs ++ [] ++ []) = [] :=
      trimChars_append h (tight_of_forall hnil) (by simp)
    simpa using htrim

theorem trim_eq_self {s : String} (h : ∀ c ∈ s.toList, isBlank c = false) : trim s = s := by
  have hnil : ∀ c ∈ ([] : List Char), isBlank c = true := by simp
  have hchars : trimChars ([] ++ s.toList ++ []) = s.toList :=
    trimChars_append hnil (tight_of_forall h) hnil
  rw [List.nil_append, List.append_nil] at hchars
  rw [trim, hchars, String.ofList_toList]

/-! ## The trimmed text as a part of the text -/

theorem toList_trim (s : String) : (trim s).toList = trimChars s.toList :=
  String.toList_ofList

theorem mem_of_mem_trim {s : String} {c : Char} (h : c ∈ (trim s).toList) : c ∈ s.toList := by
  obtain ⟨front, back, -, -, hs⟩ := exists_append_trimChars s.toList
  rw [toList_trim] at h
  rw [hs]
  simp [h]

theorem mem_trim_of_mem {s : String} {c : Char} (h : c ∈ s.toList) (hc : isBlank c = false) :
    c ∈ (trim s).toList := by
  obtain ⟨front, back, hfront, hback, hs⟩ := exists_append_trimChars s.toList
  rw [hs, List.mem_append, List.mem_append] at h
  rw [toList_trim]
  rcases h with (hmem | hmem) | hmem
  · simp [hfront c hmem] at hc
  · exact hmem
  · simp [hback c hmem] at hc

end DialogKit.Text
