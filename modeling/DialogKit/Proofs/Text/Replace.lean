import DialogKit.Text.Replace
import Mathlib.Data.List.Basic

/-!
# What a replacement leaves

A replacement meets the part where the text goes on with it, and there puts in what replaces it.
All else stays: a character where the part does not start, and so every run of characters that are
not the first one of the part.
-/

namespace DialogKit.Text

theorem dropPart?_eq_some {part cs rest : List Char} :
    dropPart? part cs = some rest ↔ cs = part ++ rest := by
  induction part generalizing cs with
  | nil => simp [dropPart?, eq_comm]
  | cons p part ih =>
    cases cs with
    | nil => simp [dropPart?]
    | cons c cs =>
      by_cases h : p = c
      · simp [dropPart?, h, ih]
      · simp [dropPart?, h, Ne.symm h]

theorem isSome_dropPart? {part cs : List Char} : (dropPart? part cs).isSome ↔ part <+: cs := by
  rw [Option.isSome_iff_exists]
  exact exists_congr fun rest ↦ dropPart?_eq_some.trans eq_comm

theorem startsWith_iff {part s : String} :
    startsWith part s = true ↔ part.toList <+: s.toList :=
  isSome_dropPart?

section

variable {head : Char} {part by_ : List Char}

theorem replaceFrom_length_append (front back : List Char) :
    replaceFrom head part by_ front.length (front ++ back) = replaceFrom head part by_ 0 back := by
  induction front with
  | nil => rfl
  | cons c front ih => exact ih

theorem replaceFrom_part_append (back : List Char) :
    replaceFrom head part by_ 0 (head :: part ++ back) =
      by_ ++ replaceFrom head part by_ 0 back := by
  have hdrop : dropPart? (head :: part) (head :: (part ++ back)) = some back :=
    dropPart?_eq_some.2 rfl
  rw [List.cons_append, replaceFrom, hdrop]
  exact congrArg _ (replaceFrom_length_append part back)

theorem replaceFrom_cons {c : Char} {rest : List Char} (h : ¬ (head :: part) <+: (c :: rest)) :
    replaceFrom head part by_ 0 (c :: rest) = c :: replaceFrom head part by_ 0 rest := by
  have hdrop : dropPart? (head :: part) (c :: rest) = none := by
    rwa [← Option.not_isSome_iff_eq_none, isSome_dropPart?]
  rw [replaceFrom, hdrop]

theorem replaceFrom_append {front : List Char} (h : head ∉ front) (back : List Char) :
    replaceFrom head part by_ 0 (front ++ back) =
      front ++ replaceFrom head part by_ 0 back := by
  induction front with
  | nil => rfl
  | cons c front ih =>
    obtain ⟨hc, hfront⟩ := List.ne_and_not_mem_of_not_mem_cons h
    have hprefix : ¬ (head :: part) <+: (c :: (front ++ back)) :=
      fun hpart ↦ hc (List.cons_prefix_cons.1 hpart).1
    rw [List.cons_append, replaceFrom_cons hprefix, ih hfront, List.cons_append]

end

end DialogKit.Text
