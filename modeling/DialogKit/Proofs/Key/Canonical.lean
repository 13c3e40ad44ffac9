import DialogKit.Key
import DialogKit.Proofs.Json.Strings
import DialogKit.Proofs.Text.Casing
import DialogKit.Proofs.Text.Trimming

/-!
# Keys are canonical

A key is its text: reading the text, making a key from its parts again and reading its interchange
text all give the key back, and no two keys share a text. What is read and made may be in any letter
case and have blanks around it. Then it is trimmed and lowered first, which leaves the characters of
a key as they are; and the first colon of the text of a key is the one between its parts, because
the namespace has none.
-/

namespace DialogKit

namespace Key

/-! ## The characters of a key -/

/-- One of the characters a-z, 0-9, dot, low line and hyphen. -/
def NamespaceChar (c : Char) : Prop :=
  ('a' ≤ c ∧ c ≤ 'z') ∨ ('0' ≤ c ∧ c ≤ '9') ∨ c = '.' ∨ c = '_' ∨ c = '-'

/-- Neither part is empty; the slash is for the value only. -/
structure WellFormed (key : Key) : Prop where
  space_ne : key.space ≠ ""
  space_chars : ∀ c ∈ key.space.toList, NamespaceChar c
  value_ne : key.value ≠ ""
  value_chars : ∀ c ∈ key.value.toList, NamespaceChar c ∨ c = '/'

theorem namespaceChar_of_isNamespaceChar {c : Char} (h : isNamespaceChar c = true) :
    NamespaceChar c := by
  simp only [isNamespaceChar, Bool.or_eq_true, beq_iff_eq] at h
  rcases h with (((hletter | hdigit) | hdot) | hline) | hhyphen
  · have hbounds : (decide ('a' ≤ c) && decide (c ≤ 'z')) = true := hletter
    exact .inl (by simpa using hbounds)
  · have hbounds : (decide ('0' ≤ c) && decide (c ≤ '9')) = true := hdigit
    exact .inr (.inl (by simpa using hbounds))
  · exact .inr (.inr (.inl hdot))
  · exact .inr (.inr (.inr (.inl hline)))
  · exact .inr (.inr (.inr (.inr hhyphen)))

/-- A key carries the proof that its parts are what they should be. -/
theorem wellFormed (key : Key) : key.WellFormed := by
  have hspace := key.space_valid
  have hvalue := key.value_valid
  simp only [isNamespace, isValue, isValueChar, Bool.and_eq_true, Bool.not_eq_true',
    List.isEmpty_eq_false_iff, List.all_eq_true, Bool.or_eq_true, beq_iff_eq] at hspace hvalue
  constructor
  · intro hempty
    simp [hempty] at hspace
  · intro c hc
    exact namespaceChar_of_isNamespaceChar (hspace.2 c hc)
  · intro hempty
    simp [hempty] at hvalue
  · intro c hc
    exact (hvalue.2 c hc).imp_left namespaceChar_of_isNamespaceChar

/-- What keeps a character as it is, on its own and in a text, when keys are read. -/
structure Stable (c : Char) : Prop where
  shown : Text.isBlank c = false
  lowered : Text.lowerChar c = [c] ∧ c ≠ 'Σ'
  noColon : c ≠ ':'

theorem stable_of_lt {n : Nat} (h : n < 128) (hchar : isValueChar (Char.ofNat n) = true) :
    Stable (Char.ofNat n) := by
  have hall : ∀ n < 128, isValueChar (Char.ofNat n) = true →
      Text.isBlank (Char.ofNat n) = false ∧
      (Text.lowerChar (Char.ofNat n) = [Char.ofNat n] ∧ Char.ofNat n ≠ 'Σ') ∧
      Char.ofNat n ≠ ':' := by
    decide
  obtain ⟨hshown, hlowered, hcolon⟩ := hall n h hchar
  exact ⟨hshown, hlowered, hcolon⟩

theorem NamespaceChar.toNat_lt {c : Char} (h : NamespaceChar c) : c.toNat < 128 := by
  rcases h with ⟨-, hz⟩ | ⟨-, hnine⟩ | rfl | rfl | rfl
  · exact Nat.lt_of_le_of_lt hz (by decide)
  · exact Nat.lt_of_le_of_lt hnine (by decide)
  all_goals decide

theorem stable_of_isValueChar {c : Char} (h : isValueChar c = true) : Stable c := by
  have hascii : c.toNat < 128 := by
    simp only [isValueChar, Bool.or_eq_true, beq_iff_eq] at h
    rcases h with hchar | rfl
    · exact (namespaceChar_of_isNamespaceChar hchar).toNat_lt
    · decide
  have hstable : Stable (Char.ofNat c.toNat) := stable_of_lt hascii (by rwa [Char.ofNat_toNat])
  rwa [Char.ofNat_toNat] at hstable

theorem isValueChar_of_mem_space (k : Key) : ∀ c ∈ k.space.toList, isValueChar c = true := by
  intro c hc
  have hspace := k.space_valid
  simp only [isNamespace, Bool.and_eq_true, List.all_eq_true] at hspace
  simp [isValueChar, hspace.2 c hc]

theorem isValueChar_of_mem_value (k : Key) : ∀ c ∈ k.value.toList, isValueChar c = true := by
  have hvalue := k.value_valid
  simp only [isValue, Bool.and_eq_true, List.all_eq_true] at hvalue
  exact hvalue.2

/-! ## Keys from their parts -/

theorem normalise_eq_self {part : String} (h : ∀ c ∈ part.toList, isValueChar c = true) :
    normalise part = part := by
  have htrim : Text.trim part = part :=
    Text.trim_eq_self fun c hc ↦ (stable_of_isValueChar (h c hc)).shown
  rw [normalise, htrim, Text.lower_eq_self fun c hc ↦ (stable_of_isValueChar (h c hc)).lowered]

/-- A key is made from parts that come to its own. -/
theorem make?_eq_ok_iff {space value : String} {k : Key} :
    make? space value = .ok k ↔ normalise space = k.space ∧ normalise value = k.value := by
  obtain ⟨space', value', hspace, hvalue⟩ := k
  unfold make?
  constructor
  · intro h
    dsimp only at h
    split_ifs at h
    simpa using h
  · rintro ⟨rfl, rfl⟩
    rw [dif_pos hspace, dif_pos hvalue]

theorem make?_parts (k : Key) : make? k.space k.value = .ok k :=
  make?_eq_ok_iff.2 ⟨normalise_eq_self (isValueChar_of_mem_space k),
    normalise_eq_self (isValueChar_of_mem_value k)⟩

/-! ## Keys from their text -/

theorem splitAtColon?_append {before : List Char} (h : ':' ∉ before) (after : List Char) :
    splitAtColon? (before ++ ':' :: after) = some (before, after) := by
  induction before with
  | nil => rfl
  | cons c before ih =>
    obtain ⟨hc, hbefore⟩ := List.ne_and_not_mem_of_not_mem_cons h
    rw [List.cons_append, splitAtColon?, if_neg (by simpa using hc.symm), ih hbefore]
    rfl

theorem eq_append_of_splitAtColon? {cs before after : List Char}
    (h : splitAtColon? cs = some (before, after)) : cs = before ++ ':' :: after := by
  induction cs generalizing before with
  | nil => simp [splitAtColon?] at h
  | cons c cs ih =>
    unfold splitAtColon? at h
    split_ifs at h with hc
    · obtain ⟨rfl, rfl⟩ : [] = before ∧ cs = after := by simpa using h
      rw [beq_iff_eq.1 hc, List.nil_append]
    · obtain ⟨⟨front, back⟩, hsplit, hparts⟩ := Option.map_eq_some_iff.1 h
      obtain ⟨rfl, rfl⟩ : c :: front = before ∧ back = after := by simpa using hparts
      rw [ih hsplit, List.cons_append]

/-- A key that is read is made from what stands on both sides of a colon. -/
theorem exists_make?_of_parse? {text : String} {k : Key} (h : parse? text = .ok k) :
    ∃ space value, Text.trim text = space ++ ":" ++ value ∧ make? space value = .ok k := by
  unfold parse? at h
  split at h
  next c before d after hsplit =>
    refine ⟨_, _, ?_, h⟩
    rw [← String.toList_inj, eq_append_of_splitAtColon? hsplit]
    simp
  · simp at h

theorem toList_text (k : Key) : k.text.toList = k.space.toList ++ ':' :: k.value.toList := by
  simp [text]

theorem splitAtColon?_text (k : Key) :
    splitAtColon? k.text.toList = some (k.space.toList, k.value.toList) := by
  have hcolon : ':' ∉ k.space.toList := fun hmem ↦
    (stable_of_isValueChar (isValueChar_of_mem_space k ':' hmem)).noColon rfl
  rw [toList_text, splitAtColon?_append hcolon]

theorem trim_text (k : Key) : Text.trim k.text = k.text := by
  refine Text.trim_eq_self fun c hc ↦ ?_
  rw [toList_text, List.mem_append, List.mem_cons] at hc
  rcases hc with hspace | rfl | hvalue
  · exact (stable_of_isValueChar (isValueChar_of_mem_space k c hspace)).shown
  · rfl
  · exact (stable_of_isValueChar (isValueChar_of_mem_value k c hvalue)).shown

theorem parse?_text (k : Key) : parse? k.text = .ok k := by
  have hspace : k.space.toList ≠ [] := by simpa using k.wellFormed.space_ne
  have hvalue : k.value.toList ≠ [] := by simpa using k.wellFormed.value_ne
  obtain ⟨c, before, hbefore⟩ := List.exists_cons_of_ne_nil hspace
  obtain ⟨d, after, hafter⟩ := List.exists_cons_of_ne_nil hvalue
  unfold parse?
  rw [trim_text, splitAtColon?_text, hbefore, hafter]
  dsimp only
  rw [← hbefore, ← hafter, String.ofList_toList, String.ofList_toList, make?_parts]

theorem text_injective : Function.Injective text := by
  intro k k' h
  have hparse : parse? k.text = .ok k' := by rw [h, parse?_text]
  exact Except.ok.inj ((parse?_text k).symm.trans hparse)

theorem ofJsonText_toJsonText (k : Key) : ofJsonText k.toJsonText = .ok k := by
  obtain ⟨after, hread, hfinish⟩ := Json.readStringDocument_renderString k.text
  simp [ofJsonText, toJsonText, hread, hfinish, parse?_text, Except.mapError, bind, Except.bind,
    pure, Except.pure]

/-! ## What holds of every key -/

/-- The key is given back by its text, by its parts and by its interchange text. -/
structure Canonical (k : Key) : Prop where
  wellFormed : k.WellFormed
  text_eq : k.text = k.space ++ ":" ++ k.value
  of_text : parse? k.text = .ok k
  of_parts : make? k.space k.value = .ok k
  of_json : ofJsonText k.toJsonText = .ok k

/-- Whatever parts or text a key comes from, it is canonical; and two keys are the same exactly if
they have the same parts, or the same text. -/
theorem canonical :
    (∀ space value k, make? space value = .ok k →
      k.space = normalise space ∧ k.value = normalise value ∧ k.Canonical) ∧
    (∀ text k, parse? text = .ok k →
      (∃ space value, Text.trim text = space ++ ":" ++ value ∧ make? space value = .ok k) ∧
      k.Canonical) ∧
    ∀ k k' : Key, (k = k' ↔ k.space = k'.space ∧ k.value = k'.value) ∧
      (k = k' ↔ k.text = k'.text) := by
  have hcanonical (k : Key) : k.Canonical :=
    ⟨k.wellFormed, rfl, parse?_text k, make?_parts k, ofJsonText_toJsonText k⟩
  refine ⟨fun space value k hmake ↦ ?_, fun text k hparse ↦ ?_, fun k k' ↦ ⟨?_, ?_⟩⟩
  · obtain ⟨hspace, hvalue⟩ := make?_eq_ok_iff.1 hmake
    exact ⟨hspace.symm, hvalue.symm, hcanonical k⟩
  · exact ⟨exists_make?_of_parse? hparse, hcanonical k⟩
  · cases k
    cases k'
    rw [mk.injEq]
  · exact text_injective.eq_iff.symm

/-- Blanks around the parts go, also inside the text, and the sign for kelvin is lowered to `k`. -/
theorem canonical_kit :
    ∃ k : Key, make? " \u212AIT " "Buy/Sword\n" = .ok k ∧
      parse? "\tKit :\u00a0BUY/sword" = .ok k ∧ k.text = "kit:buy/sword" ∧
      k.space = normalise " \u212AIT " ∧ k.Canonical := by
  let k : Key := ⟨"kit", "buy/sword", by decide, by decide⟩
  have hmake : make? " \u212AIT " "Buy/Sword\n" = .ok k := by decide +kernel
  have hparse : parse? "\tKit :\u00a0BUY/sword" = .ok k := by decide +kernel
  obtain ⟨hspace, -, -⟩ := canonical.1 _ _ k hmake
  obtain ⟨-, hcanonical⟩ := canonical.2.1 _ k hparse
  have htext : k.text = "kit:buy/sword" :=
    (canonical.2.2 k ⟨"kit", "buy/sword", by decide, by decide⟩).2.1 rfl
  exact ⟨k, hmake, hparse, htext, hspace, hcanonical⟩

end Key

end DialogKit
