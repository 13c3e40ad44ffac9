import DialogKit.Cli.Load
import DialogKit.Proofs.Text.Lines
import Mathlib.Data.List.TakeWhile

/-!
# Paths of dialogs

The path of a file with a dialog is its id, with the extension of a format behind the last part. So
the files of one id differ in their formats alone, and the file with object notation comes last among
them: paths are ordered part by part, and parts by their characters.
-/

namespace DialogKit.Cli

/-! ## Extensions -/

section

variable {name stem extension : String}

theorem bne_dot_of_not_mem {cs : List Char} (h : '.' ∉ cs) :
    ∀ c ∈ cs.reverse, (c != '.') = true := by
  intro c hc
  rw [bne_iff_ne]
  rintro rfl
  exact h (List.mem_reverse.1 hc)

theorem splitExtension_of_not_mem (h : '.' ∉ name.toList) : splitExtension name = (name, none) := by
  have hextension : (name.toList.reverse.takeWhile (· != '.')).reverse = name.toList := by
    rw [List.takeWhile_eq_self_iff.2 (bne_dot_of_not_mem h), List.reverse_reverse]
  unfold splitExtension
  simp only [hextension, String.length_toList, Nat.sub_self, Nat.zero_sub, List.take_zero,
    List.isEmpty_nil, if_true]

theorem splitExtension_append (h : '.' ∉ extension.toList) :
    splitExtension (stem ++ "." ++ extension) =
      if stem = "" then (stem ++ "." ++ extension, none) else (stem, some extension) := by
  have hname : (stem ++ "." ++ extension).toList =
      stem.toList ++ '.' :: extension.toList := by simp
  have hextension :
      ((stem ++ "." ++ extension).toList.reverse.takeWhile (· != '.')).reverse =
        extension.toList := by
    rw [hname, List.reverse_append, List.reverse_cons, List.append_assoc,
      List.takeWhile_append_of_pos (bne_dot_of_not_mem h)]
    simp
  have hstem : (stem ++ "." ++ extension).toList.take
      ((stem ++ "." ++ extension).length - extension.toList.length - 1) = stem.toList := by
    have hlength : (stem ++ "." ++ extension).length - extension.toList.length - 1 =
        stem.toList.length := by
      rw [← String.length_toList, hname, List.length_append, List.length_cons]
      omega
    rw [hlength, hname, List.take_left]
  unfold splitExtension
  simp only [hextension, hstem, String.ofList_toList, List.isEmpty_iff, String.toList_eq_nil_iff]

/-- A name that has a dot goes on without one behind its last dot. -/
theorem exists_of_mem_dot (h : '.' ∈ name.toList) :
    ∃ stem extension, name = stem ++ "." ++ extension ∧ '.' ∉ extension.toList := by
  obtain ⟨back, front, hname, hback⟩ := List.eq_append_cons_of_mem (List.mem_reverse.2 h)
  refine ⟨String.ofList front.reverse, String.ofList back.reverse, ?_, ?_⟩
  · apply String.toList_injective
    have hreverse := congrArg List.reverse hname
    simpa using hreverse
  · simpa using hback

theorem splitExtension_eq_some :
    splitExtension name = (stem, some extension) ↔
      name = stem ++ "." ++ extension ∧ '.' ∉ extension.toList ∧ stem ≠ "" := by
  constructor
  · intro h
    by_cases hdot : '.' ∈ name.toList
    · obtain ⟨front, back, rfl, hback⟩ := exists_of_mem_dot hdot
      rw [splitExtension_append hback] at h
      split at h
      · simp at h
      · obtain ⟨rfl, rfl⟩ : front = stem ∧ back = extension := by simpa using h
        exact ⟨rfl, hback, ‹_›⟩
    · rw [splitExtension_of_not_mem hdot] at h
      simp at h
  · rintro ⟨rfl, hextension, hne⟩
    rw [splitExtension_append hextension, if_neg hne]

theorem formatOf?_eq_some {format : Source.Format} :
    formatOf? extension = some format ↔ extension = format.name := by
  constructor
  · intro h
    have hname := List.find?_some h
    exact (eq_of_beq hname).symm
  · rintro rfl
    cases format <;> rfl

end

/-! ## The dialogs of files -/

/-- The file at the path has the dialog with the id, in the format: the path is the id, but for the
extension. -/
inductive LeadsTo : Path → String → Source.Format → Prop
  | mk (dirs : Path) {stem : String} (hne : stem ≠ "") (format : Source.Format) :
      LeadsTo (dirs ++ [stem ++ "." ++ format.name])
        (String.intercalate "/" (dirs ++ [stem])) format

/-- What stands before the last dot of the name of the file is not made of dots only, unless nothing
stands there. -/
def Stemmed (path : Path) : Prop :=
  ∀ dirs stem extension, path = dirs ++ [stem ++ "." ++ extension] → '.' ∉ extension.toList →
    stem ≠ "" → ¬ ∀ c ∈ stem.toList, c = '.'

theorem stemmed_concat {dirs : Path} {name : String}
    (h : ¬ ∀ c ∈ (splitExtension name).1.toList, c = '.') : Stemmed (dirs ++ [name]) := by
  intro dirs' stem extension hpath hextension hne hdots
  obtain ⟨_, hname⟩ := List.append_inj' hpath rfl
  obtain rfl := List.singleton_inj.1 hname
  rw [splitExtension_eq_some.2 ⟨rfl, hextension, hne⟩] at h
  exact h hdots

theorem nameOfStem_eq_self {stem : String} (h : ¬ ∀ c ∈ stem.toList, c = '.') :
    nameOfStem stem = stem := by
  unfold nameOfStem
  split
  case isTrue hdot =>
    obtain rfl := eq_of_beq hdot
    exact absurd (by simp) h
  case isFalse => rfl

section

variable {path : Path} {id : String} {format : Source.Format}

theorem not_mem_name (format : Source.Format) : '.' ∉ format.name.toList := by
  cases format <;> decide

theorem dialogFile?_concat (dirs : Path) {stem : String} (hne : stem ≠ "")
    (format : Source.Format) :
    dialogFile? (dirs ++ [stem ++ "." ++ format.name]) =
      some (String.intercalate "/" (dirs ++ [nameOfStem stem]), format) := by
  have hsplit := splitExtension_eq_some.2 ⟨rfl, not_mem_name format, hne⟩
  have hformat : formatOf? format.name = some format := formatOf?_eq_some.2 rfl
  unfold dialogFile?
  simp only [List.getLast?_concat, List.dropLast_concat, hsplit, hformat, Option.map_some]

theorem exists_of_dialogFile? (h : dialogFile? path = some (id, format)) :
    ∃ dirs stem, path = dirs ++ [stem ++ "." ++ format.name] ∧ stem ≠ "" := by
  unfold dialogFile? at h
  split at h
  case h_1 => simp at h
  case h_2 name hname =>
    split at h
    case h_1 => simp at h
    case h_2 stem extension hsplit =>
      obtain ⟨found, hfound, hpair⟩ := Option.map_eq_some_iff.1 h
      obtain rfl : found = format := congrArg Prod.snd hpair
      obtain rfl := formatOf?_eq_some.1 hfound
      obtain ⟨rfl, _, hne⟩ := splitExtension_eq_some.1 hsplit
      exact ⟨path.dropLast, stem, (List.dropLast_append_getLast? _ hname).symm, hne⟩

theorem dialogFile?_eq_some (hstem : Stemmed path) :
    dialogFile? path = some (id, format) ↔ LeadsTo path id format := by
  constructor
  · intro h
    obtain ⟨dirs, stem, rfl, hne⟩ := exists_of_dialogFile? h
    have hself := nameOfStem_eq_self (hstem dirs stem _ rfl (not_mem_name format) hne)
    rw [dialogFile?_concat dirs hne, hself] at h
    obtain rfl : String.intercalate "/" (dirs ++ [stem]) = id :=
      congrArg Prod.fst (Option.some.inj h)
    exact .mk dirs hne format
  · rintro ⟨dirs, hne, format⟩
    have hself := nameOfStem_eq_self (hstem dirs _ _ rfl (not_mem_name format) hne)
    rw [dialogFile?_concat dirs hne, hself]

example : dialogFile? ["menu.v2", "a.b.ron"] = some ("menu.v2/a.b", .ron) := by decide

/-- No part has a slash in it. -/
def Slashless (path : Path) : Prop :=
  ∀ name ∈ path, '/' ∉ name.toList

theorem split_intercalate {parts : Path} (hne : parts ≠ []) (h : Slashless parts) :
    Text.split '/' (String.intercalate "/" parts) = parts := by
  have hchars : ∀ part ∈ parts.map String.toList, '/' ∉ part := by
    intro part hpart
    obtain ⟨name, hname, rfl⟩ := List.mem_map.1 hpart
    exact h name hname
  have hneChars : parts.map String.toList ≠ [] := by simpa using hne
  calc
    Text.split '/' (String.intercalate "/" parts) =
        (Text.splitChars '/' (['/'].intercalate (parts.map String.toList))).map String.ofList := by
      rw [Text.split, String.toList_intercalate]
      rfl
    _ = (parts.map String.toList).map String.ofList := by
      rw [Text.splitChars_intercalate hneChars hchars]
    _ = parts := by simp [Function.comp_def]

/-- The path is found again in the id. -/
theorem LeadsTo.split_id (h : LeadsTo path id format) (hpath : Slashless path) :
    ∃ dirs stem, path = dirs ++ [stem ++ "." ++ format.name] ∧
      Text.split '/' id = dirs ++ [stem] := by
  cases h with
  | @mk dirs stem hne =>
    -- The stem begins a name of the path, so it has no slash either.
    have hparts : Slashless (dirs ++ [stem]) := by
      unfold Slashless at hpath ⊢
      rw [List.forall_mem_append, List.forall_mem_singleton] at hpath ⊢
      exact ⟨hpath.1, fun hmem ↦ hpath.2 (by simp [hmem])⟩
    exact ⟨dirs, stem, rfl, split_intercalate (by simp) hparts⟩

/-- The files of one id differ in their extensions alone. -/
theorem LeadsTo.twins {path' : Path} {format' : Source.Format} (h : LeadsTo path id format)
    (h' : LeadsTo path' id format') (hpath : Slashless path) (hpath' : Slashless path') :
    ∃ dirs stem, path = dirs ++ [stem ++ "." ++ format.name] ∧
      path' = dirs ++ [stem ++ "." ++ format'.name] := by
  obtain ⟨dirs, stem, rfl, hid⟩ := h.split_id hpath
  obtain ⟨dirs', stem', rfl, hid'⟩ := h'.split_id hpath'
  have hsplit : dirs ++ [stem] = dirs' ++ [stem'] := hid.symm.trans hid'
  obtain ⟨rfl, hlast⟩ := List.append_inj' hsplit rfl
  obtain rfl := List.singleton_inj.1 hlast
  exact ⟨dirs, stem, rfl, rfl⟩

end

/-! ## The order of paths -/

theorem pathLE_iff {path path' : Path} : pathLE path path' = true ↔ ¬ path' < path := by
  induction path generalizing path' with
  | nil => exact iff_of_true rfl (List.not_lt_nil path')
  | cons part path ih =>
    cases path' with
    | nil => exact iff_of_false Bool.false_ne_true (not_not_intro (List.nil_lt_cons part path))
    | cons part' path' =>
      rw [pathLE, List.cons_lt_cons_iff]
      split
      case isTrue heq =>
        obtain rfl := eq_of_beq heq
        have hself : ¬ part < part := String.lt_irrefl part
        simp only [ih, hself, true_and, false_or]
      case isFalse hne =>
        have hparts : part' ≠ part := fun heq ↦ hne (beq_iff_eq.2 heq.symm)
        simp only [decide_eq_true_eq, hparts, false_and, or_false]
        constructor
        · exact String.lt_asymm
        · intro hge
          by_contra hle
          exact hparts (Std.Trichotomous.trichotomous part' part hge hle)

/-- Object notation comes behind the interchange format. -/
theorem json_lt_ron (dirs : List String) (stem : String) :
    dirs ++ [stem ++ "." ++ Source.Format.json.name] <
      dirs ++ [stem ++ "." ++ Source.Format.ron.name] := by
  have hname : stem ++ "." ++ Source.Format.json.name < stem ++ "." ++ Source.Format.ron.name := by
    rw [String.lt_iff, String.toList_append, String.toList_append (t := Source.Format.ron.name)]
    apply List.append_left_lt
    decide
  apply List.append_left_lt
  exact List.cons_lt_cons_iff.2 (.inl hname)

end DialogKit.Cli
