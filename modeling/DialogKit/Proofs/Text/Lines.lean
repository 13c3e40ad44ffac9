import DialogKit.Text.Lines
import Mathlib.Data.List.Basic

/-!
# Parts and lines

A text is cut into parts at each separator, and nothing else is lost: parts without separators are
found again in the text that is put together from them. The lines of a text are its parts between
line feeds, without the last part if nothing stands in it. So a text has as many lines as line feeds,
and one more if something stands behind the last one.
-/

namespace DialogKit.Text

/-! ## Parts -/

theorem splitChars_ne_nil (separator : Char) (cs : List Char) : splitChars separator cs ≠ [] := by
  cases cs with
  | nil => exact List.cons_ne_nil _ _
  | cons c rest =>
    unfold splitChars
    split
    · exact List.cons_ne_nil _ _
    · split <;> exact List.cons_ne_nil _ _

theorem split_ne_nil (separator : Char) (s : String) : split separator s ≠ [] :=
  fun h ↦ splitChars_ne_nil separator s.toList (List.map_eq_nil_iff.1 h)

theorem splitChars_append (separator : Char) (front back : List Char) :
    splitChars separator (front ++ separator :: back) =
      splitChars separator front ++ splitChars separator back := by
  induction front with
  | nil => simp [splitChars]
  | cons c front ih =>
    rw [List.cons_append, splitChars, splitChars, ih]
    split
    · rfl
    · cases hparts : splitChars separator front with
      | nil => exact absurd hparts (splitChars_ne_nil separator front)
      | cons part parts => rfl

theorem splitChars_of_not_mem {separator : Char} {cs : List Char} (h : separator ∉ cs) :
    splitChars separator cs = [cs] := by
  induction cs with
  | nil => rfl
  | cons c cs ih =>
    obtain ⟨hc, hcs⟩ := List.ne_and_not_mem_of_not_mem_cons h
    rw [splitChars, if_neg (by simpa using hc.symm), ih hcs]

theorem split_of_not_mem {separator : Char} {s : String} (h : separator ∉ s.toList) :
    split separator s = [s] := by
  rw [split, splitChars_of_not_mem h, List.map_singleton, String.ofList_toList]

/-- A text holds no separator, or it goes on behind the first one. -/
@[elab_as_elim]
theorem parts_induction {motive : List Char → Prop} (separator : Char)
    (single : ∀ cs, separator ∉ cs → motive cs)
    (more : ∀ front back, separator ∉ front → motive back → motive (front ++ separator :: back))
    (cs : List Char) : motive cs := by
  induction hlength : cs.length using Nat.strongRecOn generalizing cs with
  | ind n ih =>
    by_cases h : separator ∈ cs
    · obtain ⟨front, back, rfl, hfront⟩ := List.eq_append_cons_of_mem h
      refine more front back hfront (ih back.length ?_ back rfl)
      rw [← hlength, List.length_append, List.length_cons]
      omega
    · exact single cs h

variable {separator : Char}

theorem splitChars_first {front : List Char} (h : separator ∉ front) (back : List Char) :
    splitChars separator (front ++ separator :: back) = front :: splitChars separator back := by
  rw [splitChars_append, splitChars_of_not_mem h, List.singleton_append]

/-- Parts that each end with a separator, which is in none of them. -/
theorem splitChars_flatMap {parts : List (List Char)} (h : ∀ part ∈ parts, separator ∉ part) :
    splitChars separator (parts.flatMap fun part ↦ part ++ [separator]) = parts ++ [[]] := by
  induction parts with
  | nil => rfl
  | cons part parts ih =>
    obtain ⟨hpart, hparts⟩ := List.forall_mem_cons.1 h
    rw [List.flatMap_cons, List.append_assoc, List.singleton_append, splitChars_append,
      splitChars_of_not_mem hpart, ih hparts]
    rfl

/-- Parts with separators between them, which are in none of them. -/
theorem splitChars_intercalate {parts : List (List Char)} (hne : parts ≠ [])
    (h : ∀ part ∈ parts, separator ∉ part) :
    splitChars separator ([separator].intercalate parts) = parts := by
  induction parts with
  | nil => exact absurd rfl hne
  | cons part parts ih =>
    obtain ⟨hpart, hparts⟩ := List.forall_mem_cons.1 h
    cases parts with
    | nil => rw [List.intercalate_singleton, splitChars_of_not_mem hpart]
    | cons next parts =>
      rw [List.intercalate_cons_cons, List.append_assoc, List.singleton_append, splitChars_append,
        splitChars_of_not_mem hpart, ih (List.cons_ne_nil _ _) hparts, List.singleton_append]

/-! ## Lines -/

/-- Nothing stands behind the last line feed. -/
def Ended (cs : List Char) : Prop :=
  ∀ c ∈ cs.getLast?, c = '\n'

theorem ended_append {front back : List Char} :
    Ended (front ++ '\n' :: back) ↔ Ended back := by
  unfold Ended
  cases back with
  | nil => simp
  | cons c back => rw [List.getLast?_append_cons, List.getLast?_cons_cons]

theorem lineChars_of_not_mem {cs : List Char} (h : '\n' ∉ cs) (hne : cs ≠ []) :
    lineChars cs = [cs] := by
  unfold lineChars
  rw [splitChars_of_not_mem h]
  cases cs with
  | nil => exact absurd rfl hne
  | cons => rfl

/-- The first line ends at the first line feed. -/
theorem lineChars_first {front : List Char} (h : '\n' ∉ front) (back : List Char) :
    lineChars (front ++ '\n' :: back) = dropReturn front :: lineChars back := by
  unfold lineChars
  rw [splitChars_first h]
  cases hparts : splitChars '\n' back with
  | nil => exact absurd hparts (splitChars_ne_nil '\n' back)
  | cons part parts =>
    simp only [List.dropLast_cons_cons, List.getLast?_cons_cons, List.map_cons]
    split <;> simp

theorem mem_of_mem_dropReturn {cs : List Char} {c : Char} (h : c ∈ dropReturn cs) : c ∈ cs := by
  unfold dropReturn at h
  split at h
  · exact List.dropLast_subset _ h
  · exact h

theorem not_mem_of_mem_lineChars {cs line : List Char} (h : line ∈ lineChars cs) :
    '\n' ∉ line := by
  induction cs using parts_induction '\n' with
  | single cs hcs =>
    by_cases hne : cs = []
    · subst hne
      simp [lineChars, splitChars] at h
    · rw [lineChars_of_not_mem hcs hne, List.mem_singleton] at h
      exact h ▸ hcs
  | more front back hfront ih =>
    rw [lineChars_first hfront, List.mem_cons] at h
    rcases h with rfl | hback
    · exact fun hmem ↦ hfront (mem_of_mem_dropReturn hmem)
    · exact ih hback

/-- Each line feed ends a line, and so does the end of a text that is not ended by one. -/
theorem length_lineChars (cs : List Char) :
    Ended cs ∧ (lineChars cs).length = cs.count '\n' ∨
      ¬ Ended cs ∧ (lineChars cs).length = cs.count '\n' + 1 := by
  induction cs using parts_induction '\n' with
  | single cs hcs =>
    rw [List.count_eq_zero_of_not_mem hcs]
    by_cases hne : cs = []
    · subst hne
      exact .inl ⟨by simp [Ended], rfl⟩
    · have hopen : ¬ Ended cs := by
        obtain ⟨c, hlast⟩ := Option.isSome_iff_exists.1 (List.getLast?_isSome.2 hne)
        exact fun h ↦ hcs (h c hlast ▸ List.mem_of_getLast? hlast)
      rw [lineChars_of_not_mem hcs hne]
      exact .inr ⟨hopen, rfl⟩
  | more front back hfront ih =>
    rw [lineChars_first hfront, ended_append, List.length_cons, List.count_append,
      List.count_eq_zero_of_not_mem hfront, List.count_cons_self, Nat.zero_add]
    simpa only [Nat.add_right_cancel_iff] using ih

theorem not_mem_of_mem_lines {s line : String} (h : line ∈ lines s) : '\n' ∉ line.toList := by
  obtain ⟨cs, hcs, rfl⟩ := List.mem_map.1 h
  rw [String.toList_ofList]
  exact not_mem_of_mem_lineChars hcs

theorem length_lines (s : String) : (lines s).length = (lineChars s.toList).length :=
  List.length_map ..

end DialogKit.Text
