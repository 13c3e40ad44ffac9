import DialogKit.Proofs.Key.Canonical

/-!
# The grammar of keys

A text of ASCII characters is read as a key if and only if it is a name and a value with a colon
between them and blanks around each; letters may be in either case. Any other text has one fault,
which is that of the first part that is wrong. Without a colon inside the trimmed text there is
nothing to read. Then comes the namespace, and last the value, to which every colon after the first
one belongs. Beyond ASCII there are further texts that are read as keys, such as one that starts
with the sign for kelvin, whose lowercase is the letter `k`.
-/

namespace DialogKit.Key

open Text

/-! ## The grammar -/

instance (c : Char) : Decidable (NamespaceChar c) :=
  inferInstanceAs (Decidable (('a' ≤ c ∧ c ≤ 'z') ∨ ('0' ≤ c ∧ c ≤ '9') ∨ c = '.' ∨ c = '_' ∨
    c = '-'))

/-- A letter in either case, a digit, dot, low line or hyphen. -/
def NameChar (c : Char) : Prop :=
  ('A' ≤ c ∧ c ≤ 'Z') ∨ NamespaceChar c

/-- A character of a name, or the slash. -/
def PathChar (c : Char) : Prop :=
  NameChar c ∨ c = '/'

/-- The space, and the characters from the tab to the carriage return. -/
def BlankChar (c : Char) : Prop :=
  c = ' ' ∨ ('\t' ≤ c ∧ c ≤ '\r')

instance (c : Char) : Decidable (NameChar c) :=
  inferInstanceAs (Decidable (('A' ≤ c ∧ c ≤ 'Z') ∨ NamespaceChar c))

instance (c : Char) : Decidable (PathChar c) :=
  inferInstanceAs (Decidable (NameChar c ∨ c = '/'))

instance (c : Char) : Decidable (BlankChar c) :=
  inferInstanceAs (Decidable (c = ' ' ∨ ('\t' ≤ c ∧ c ≤ '\r')))

/-- One or more of the characters. -/
structure Run (P : Char → Prop) (s : String) : Prop where
  ne_empty : s ≠ ""
  chars : ∀ c ∈ s.toList, P c

instance (P : Char → Prop) [DecidablePred P] (s : String) : Decidable (Run P s) :=
  have := List.decidableBAll P s.toList
  decidable_of_iff (s ≠ "" ∧ ∀ c ∈ s.toList, P c) ⟨fun h ↦ ⟨h.1, h.2⟩, fun h ↦ ⟨h.1, h.2⟩⟩

/-- No more than blanks. -/
def Gap (s : String) : Prop :=
  ∀ c ∈ s.toList, BlankChar c

instance (s : String) : Decidable (Gap s) :=
  List.decidableBAll _ _

/-- The text is the name and the value with a colon between them and blanks around each. -/
structure Spells (text name value : String) : Prop where
  nameRun : Run NameChar name
  valueRun : Run PathChar value
  gaps : ∃ w₁ w₂ w₃ w₄, (Gap w₁ ∧ Gap w₂ ∧ Gap w₃ ∧ Gap w₄) ∧
    text = w₁ ++ name ++ w₂ ++ ":" ++ (w₃ ++ value ++ w₄)

/-- What stands before and after the first colon. -/
structure SplitsAt (text before after : String) : Prop where
  eq : text = before ++ ":" ++ after
  first : ':' ∉ before.toList

/-- The first colon is neither the first nor the last character. -/
structure SplitsInside (text before after : String) : Prop extends SplitsAt text before after where
  before_ne : before ≠ ""
  after_ne : after ≠ ""

/-- There is no colon, or the first one is the first or the last character. -/
def Unsplit (text : String) : Prop :=
  ':' ∉ text.toList ∨ (∃ after, SplitsAt text "" after) ∨ ∃ before, SplitsAt text before ""

/-! ## Characters -/

theorem isBlank_iff {c : Char} (h : c.toNat < 128) : isBlank c = true ↔ BlankChar c :=
  of_ascii (P := fun c ↦ isBlank c = true ↔ BlankChar c) (by decide) h

theorem isNamespaceChar_toLower {c : Char} (h : c.toNat < 128) :
    isNamespaceChar c.toLower = true ↔ NameChar c :=
  of_ascii (P := fun c ↦ isNamespaceChar c.toLower = true ↔ NameChar c) (by decide) h

theorem isValueChar_toLower {c : Char} (h : c.toNat < 128) :
    isValueChar c.toLower = true ↔ PathChar c :=
  of_ascii (P := fun c ↦ isValueChar c.toLower = true ↔ PathChar c) (by decide) h

theorem nameChar_toLower {c : Char} (h : c.toNat < 128) : NameChar c.toLower ↔ NameChar c :=
  of_ascii (P := fun c ↦ NameChar c.toLower ↔ NameChar c) (by decide) h

theorem pathChar_toLower {c : Char} (h : c.toNat < 128) : PathChar c.toLower ↔ PathChar c :=
  of_ascii (P := fun c ↦ PathChar c.toLower ↔ PathChar c) (by decide) h

theorem PathChar.toNat_lt {c : Char} (h : PathChar c) : c.toNat < 128 := by
  rcases h with (⟨-, hz⟩ | hname) | rfl
  · exact Nat.lt_of_le_of_lt hz (by decide)
  · exact hname.toNat_lt
  · decide

theorem PathChar.isBlank_eq_false {c : Char} (h : PathChar c) : isBlank c = false :=
  of_ascii (P := fun c ↦ PathChar c → isBlank c = false) (by decide) h.toNat_lt h

theorem NameChar.ne_colon {c : Char} (h : NameChar c) : c ≠ ':' := by
  rintro rfl
  exact absurd h (by decide)

theorem BlankChar.ne_colon {c : Char} (h : BlankChar c) : c ≠ ':' := by
  rintro rfl
  exact absurd h (by decide)

/-! ## Parts of a text -/

theorem toList_lowerAscii (s : String) : (lowerAscii s).toList = s.toList.map Char.toLower :=
  String.toList_ofList

theorem run_lowerAscii {P Q : Char → Prop} {s : String}
    (h : ∀ c ∈ s.toList, P c.toLower ↔ Q c) : Run P (lowerAscii s) ↔ Run Q s := by
  have hne : lowerAscii s ≠ "" ↔ s ≠ "" := by
    rw [lowerAscii, Ne, String.ofList_eq_empty_iff, List.map_eq_nil_iff, String.toList_eq_nil_iff]
  constructor
  · intro hrun
    refine ⟨hne.1 hrun.ne_empty, fun c hc ↦ (h c hc).1 (hrun.chars _ ?_)⟩
    rw [toList_lowerAscii]
    exact List.mem_map_of_mem hc
  · intro hrun
    refine ⟨hne.2 hrun.ne_empty, fun c hc ↦ ?_⟩
    rw [toList_lowerAscii] at hc
    obtain ⟨d, hd, rfl⟩ := List.mem_map.1 hc
    exact (h d hd).2 (hrun.chars d hd)

theorem run_iff {p : Char → Bool} {s : String} :
    (!s.toList.isEmpty && s.toList.all p) = true ↔ Run (fun c ↦ p c = true) s := by
  rw [Bool.and_eq_true, List.all_eq_true]
  constructor
  · rintro ⟨hne, hchars⟩
    exact ⟨fun hempty ↦ by simp [hempty] at hne, hchars⟩
  · intro hrun
    exact ⟨by simpa using hrun.ne_empty, hrun.chars⟩

theorem isNamespace_lowerAscii {s : String} (h : Ascii s) :
    isNamespace (lowerAscii s) = true ↔ Run NameChar s :=
  run_iff.trans (run_lowerAscii fun c hc ↦ isNamespaceChar_toLower (h c hc))

theorem isValue_lowerAscii {s : String} (h : Ascii s) :
    isValue (lowerAscii s) = true ↔ Run PathChar s :=
  run_iff.trans (run_lowerAscii fun c hc ↦ isValueChar_toLower (h c hc))

theorem normalise_of_ascii {s : String} (h : Ascii s) :
    normalise s = lowerAscii (trim s) :=
  lower_of_ascii fun c hc ↦ h c (mem_of_mem_trim hc)

theorem Gap.isBlank {w : String} (h : Gap w) : ∀ c ∈ w.toList, isBlank c = true := by
  intro c hc
  have hlt : c.toNat < 128 := by
    rcases h c hc with rfl | ⟨-, hreturn⟩
    · decide
    · exact Nat.lt_of_le_of_lt hreturn (by decide)
  exact (isBlank_iff hlt).2 (h c hc)

theorem Run.tight {P : Char → Prop} {s : String} (h : Run P s) (hP : ∀ c, P c → PathChar c) :
    Tight s.toList :=
  tight_of_forall fun c hc ↦ (hP c (h.chars c hc)).isBlank_eq_false

/-! ## Reading -/

theorem unsplit_or_splitsInside (text : String) :
    Unsplit text ∨ ∃ before after, SplitsInside text before after := by
  by_cases hcolon : ':' ∈ text.toList
  · obtain ⟨before, after, hchars, hfirst⟩ := List.eq_append_cons_of_mem hcolon
    have hsplit : SplitsAt text (String.ofList before) (String.ofList after) := by
      constructor
      · rw [← String.toList_inj, hchars]
        simp
      · rwa [String.toList_ofList]
    by_cases hbefore : String.ofList before = ""
    · exact .inl (.inr (.inl ⟨_, hbefore ▸ hsplit⟩))
    · by_cases hafter : String.ofList after = ""
      · exact .inl (.inr (.inr ⟨_, hafter ▸ hsplit⟩))
      · exact .inr ⟨_, _, hsplit, hbefore, hafter⟩
  · exact .inl (.inl hcolon)

theorem SplitsAt.splitAtColon?_eq {text before after : String} (h : SplitsAt text before after) :
    splitAtColon? text.toList = some (before.toList, after.toList) := by
  have hchars : text.toList = before.toList ++ ':' :: after.toList := by
    rw [h.eq]
    simp
  rw [hchars, splitAtColon?_append h.first]

theorem SplitsInside.not_unsplit {text before after : String}
    (h : SplitsInside text before after) : ¬ Unsplit text := by
  have hparts := h.splitAtColon?_eq
  rintro (hcolon | ⟨_, hsplit⟩ | ⟨_, hsplit⟩)
  · rw [h.eq] at hcolon
    simp at hcolon
  · rw [hsplit.splitAtColon?_eq] at hparts
    exact h.before_ne (String.toList_inj.1 (Prod.mk.inj (Option.some.inj hparts)).1).symm
  · rw [hsplit.splitAtColon?_eq] at hparts
    exact h.after_ne (String.toList_inj.1 (Prod.mk.inj (Option.some.inj hparts)).2).symm

theorem parse?_of_unsplit {s : String} (h : Unsplit (trim s)) :
    parse? s = .error (.malformed s) := by
  unfold parse?
  rcases h with hcolon | ⟨after, hsplit⟩ | ⟨before, hsplit⟩
  · split
    next hsome =>
      refine absurd ?_ hcolon
      rw [eq_append_of_splitAtColon? hsome]
      simp
    · rfl
  · rw [hsplit.splitAtColon?_eq]
    rfl
  · rw [hsplit.splitAtColon?_eq]
    cases before.toList <;> rfl

/-- What is read is made from the parts on both sides of the first colon. -/
theorem parse?_of_splitsInside {s before after : String} (h : SplitsInside (trim s) before after) :
    parse? s = make? before after := by
  obtain ⟨c, cs, hbefore⟩ : ∃ c cs, before.toList = c :: cs :=
    List.exists_cons_of_ne_nil (by simpa using h.before_ne)
  obtain ⟨d, ds, hafter⟩ : ∃ d ds, after.toList = d :: ds :=
    List.exists_cons_of_ne_nil (by simpa using h.after_ne)
  unfold parse?
  rw [h.splitAtColon?_eq, hbefore, hafter]
  dsimp only
  rw [← hbefore, ← hafter, String.ofList_toList, String.ofList_toList]

theorem SplitsInside.ascii {s before after : String} (h : SplitsInside (trim s) before after)
    (hascii : Ascii s) : Ascii before ∧ Ascii after := by
  have hmem (c : Char) (hc : c ∈ before.toList ∨ c ∈ after.toList) : c.toNat < 128 := by
    refine hascii c (mem_of_mem_trim ?_)
    rw [h.eq]
    rcases hc with hc | hc <;> simp [hc]
  exact ⟨fun c hc ↦ hmem c (.inl hc), fun c hc ↦ hmem c (.inr hc)⟩

theorem make?_of_not_namespace {space value : String}
    (h : isNamespace (normalise space) = false) :
    make? space value = .error (.badNamespace (normalise space)) := by
  unfold make?
  exact dif_neg (by simp [h])

theorem make?_of_not_value {space value : String} (hspace : isNamespace (normalise space) = true)
    (hvalue : isValue (normalise value) = false) :
    make? space value = .error (.badValue (normalise value)) := by
  unfold make?
  dsimp only
  rw [dif_pos hspace, dif_neg (by simp [hvalue])]

/-! ## Spelled keys -/

theorem Gap.append {w w' : String} (h : Gap w) (h' : Gap w') : Gap (w ++ w') := by
  intro c hc
  rw [String.toList_append] at hc
  exact (List.mem_append.1 hc).elim (h c) (h' c)

theorem exists_gap_trim {s : String} (h : Ascii s) :
    ∃ front back, Gap front ∧ Gap back ∧ s = front ++ trim s ++ back := by
  obtain ⟨front, back, hfront, hback, hs⟩ := exists_append_trimChars s.toList
  have hascii (c : Char) (hc : c ∈ front ∨ c ∈ back) : c.toNat < 128 := by
    apply h
    rw [hs]
    rcases hc with hc | hc <;> simp [hc]
  refine ⟨String.ofList front, String.ofList back, fun c hc ↦ ?_, fun c hc ↦ ?_, ?_⟩
  · rw [String.toList_ofList] at hc
    exact (isBlank_iff (hascii c (.inl hc))).1 (hfront c hc)
  · rw [String.toList_ofList] at hc
    exact (isBlank_iff (hascii c (.inr hc))).1 (hback c hc)
  · rw [← String.toList_inj, String.toList_append, String.toList_append, String.toList_ofList,
      String.toList_ofList, toList_trim]
    exact hs

/-- The first colon of a text that spells a key is the one between the name and the value. -/
theorem Spells.splitsInside {s name value : String} (h : Spells s name value) :
    ∃ before after, SplitsInside (trim s) before after ∧ trim before = name ∧
      trim after = value := by
  obtain ⟨hname, hvalue, w₁, w₂, w₃, w₄, ⟨hw₁, hw₂, hw₃, hw₄⟩, htext⟩ := h
  have hname_ne : name.toList ≠ [] := by simpa using hname.ne_empty
  have hvalue_ne : value.toList ≠ [] := by simpa using hvalue.ne_empty
  have hnil : ∀ c ∈ ([] : List Char), isBlank c = true := by simp
  refine ⟨name ++ w₂, w₃ ++ value, ⟨⟨?_, ?_⟩, ?_, ?_⟩, ?_, ?_⟩
  · have htight := (hname.tight fun _ ↦ .inl).append (hvalue.tight fun _ ↦ id) hname_ne hvalue_ne
      (w₂.toList ++ ':' :: w₃.toList)
    have htrim := trimChars_append hw₁.isBlank htight hw₄.isBlank
    rw [← String.toList_inj, toList_trim, htext]
    simpa using htrim
  · rw [String.toList_append, List.mem_append]
    rintro (hcolon | hcolon)
    · exact (hname.chars _ hcolon).ne_colon rfl
    · exact (hw₂ _ hcolon).ne_colon rfl
  · simpa using fun hempty ↦ absurd hempty hname.ne_empty
  · simpa using fun _ ↦ hvalue.ne_empty
  · have htrim := trimChars_append hnil (hname.tight fun _ ↦ .inl) hw₂.isBlank
    rw [← String.toList_inj, toList_trim, String.toList_append]
    exact htrim
  · have htrim := trimChars_append hw₃.isBlank (hvalue.tight fun _ ↦ id) hnil
    rw [← String.toList_inj, toList_trim, String.toList_append]
    simpa using htrim

theorem spells_of_splitsInside {s before after : String} (hascii : Ascii s)
    (h : SplitsInside (trim s) before after) (hname : Run NameChar (trim before))
    (hvalue : Run PathChar (trim after)) : Spells s (trim before) (trim after) := by
  obtain ⟨hbefore, hafter⟩ := h.ascii hascii
  obtain ⟨u, v, hu, hv, hs⟩ := exists_gap_trim hascii
  obtain ⟨w₁, w₂, hw₁, hw₂, heq⟩ := exists_gap_trim hbefore
  obtain ⟨w₃, w₄, hw₃, hw₄, heq'⟩ := exists_gap_trim hafter
  refine ⟨hname, hvalue, u ++ w₁, w₂, w₃, w₄ ++ v, ⟨hu.append hw₁, hw₂, hw₃, hw₄.append hv⟩, ?_⟩
  calc
    s = u ++ trim s ++ v := hs
    _ = u ++ (before ++ ":" ++ after) ++ v := by rw [← h.eq]
    _ = u ++ (w₁ ++ trim before ++ w₂ ++ ":" ++ (w₃ ++ trim after ++ w₄)) ++ v := by
      rw [← heq, ← heq']
    _ = _ := by simp only [String.append_assoc]

/-! ## What becomes of a text -/

theorem run_nameChar_lowerAscii {s : String} (h : Ascii s) :
    Run NameChar (lowerAscii s) ↔ Run NameChar s :=
  run_lowerAscii fun c hc ↦ nameChar_toLower (h c hc)

theorem run_pathChar_lowerAscii {s : String} (h : Ascii s) :
    Run PathChar (lowerAscii s) ↔ Run PathChar s :=
  run_lowerAscii fun c hc ↦ pathChar_toLower (h c hc)

theorem ascii_trim {s : String} (h : Ascii s) : Ascii (trim s) :=
  fun c hc ↦ h c (mem_of_mem_trim hc)

/-- The namespace is looked at before the value. -/
theorem make?_cases {space value : String} (hspace : Ascii space) (hvalue : Ascii value) :
    (¬ Run NameChar (trim space) ∧
      make? space value = .error (.badNamespace (lowerAscii (trim space)))) ∨
    (Run NameChar (trim space) ∧ ¬ Run PathChar (trim value) ∧
      make? space value = .error (.badValue (lowerAscii (trim value)))) ∨
    Run NameChar (trim space) ∧ Run PathChar (trim value) ∧
      ∃ k, make? space value = .ok k ∧ k.space = lowerAscii (trim space) ∧
        k.value = lowerAscii (trim value) := by
  have hname := isNamespace_lowerAscii (ascii_trim hspace)
  have hpath := isValue_lowerAscii (ascii_trim hvalue)
  rw [← normalise_of_ascii hspace] at hname ⊢
  rw [← normalise_of_ascii hvalue] at hpath ⊢
  by_cases hn : Run NameChar (trim space)
  · by_cases hv : Run PathChar (trim value)
    · have hmake := (make?_eq_ok_iff (k := ⟨_, _, hname.2 hn, hpath.2 hv⟩)).2 ⟨rfl, rfl⟩
      exact .inr (.inr ⟨hn, hv, _, hmake, rfl, rfl⟩)
    · have hbad : isValue (normalise value) = false := by
        rw [← Bool.not_eq_true, hpath]
        exact hv
      exact .inr (.inl ⟨hn, hv, make?_of_not_value (hname.2 hn) hbad⟩)
  · have hbad : isNamespace (normalise space) = false := by
      rw [← Bool.not_eq_true, hname]
      exact hn
    exact .inl ⟨hn, make?_of_not_namespace hbad⟩

section

variable {s : String} (hascii : Ascii s)

include hascii

/-- What is spelled is read, in lowercase. -/
theorem exists_parse?_of_spells {name value : String} (h : Spells s name value) :
    ∃ k, parse? s = .ok k ∧ k.space = lowerAscii name ∧ k.value = lowerAscii value := by
  obtain ⟨before, after, hsplit, rfl, rfl⟩ := h.splitsInside
  obtain ⟨hbefore, hafter⟩ := hsplit.ascii hascii
  rw [parse?_of_splitsInside hsplit]
  obtain ⟨hbad, _⟩ | ⟨_, hbad, _⟩ | ⟨_, _, hmake⟩ := make?_cases hbefore hafter
  · exact absurd h.nameRun hbad
  · exact absurd h.valueRun hbad
  · exact hmake

theorem exists_spells_of_parse? {k : Key} (h : parse? s = .ok k) :
    ∃ name value, Spells s name value := by
  obtain hunsplit | ⟨before, after, hsplit⟩ := unsplit_or_splitsInside (trim s)
  · simp [parse?_of_unsplit hunsplit] at h
  · obtain ⟨hbefore, hafter⟩ := hsplit.ascii hascii
    rw [parse?_of_splitsInside hsplit] at h
    obtain ⟨_, hmake⟩ | ⟨_, _, hmake⟩ | ⟨hname, hvalue, _⟩ := make?_cases hbefore hafter
    · simp [hmake] at h
    · simp [hmake] at h
    · exact ⟨_, _, spells_of_splitsInside hascii hsplit hname hvalue⟩

theorem parse?_eq_malformed_iff {text : String} :
    parse? s = .error (.malformed text) ↔ text = s ∧ Unsplit (trim s) := by
  obtain hunsplit | ⟨before, after, hsplit⟩ := unsplit_or_splitsInside (trim s)
  · simp [parse?_of_unsplit hunsplit, hunsplit, eq_comm]
  · obtain ⟨hbefore, hafter⟩ := hsplit.ascii hascii
    rw [parse?_of_splitsInside hsplit]
    obtain ⟨_, hmake⟩ | ⟨_, _, hmake⟩ | ⟨_, _, k, hmake, _⟩ := make?_cases hbefore hafter <;>
      simp [hmake, hsplit.not_unsplit]

variable {before after : String} (hsplit : SplitsInside (trim s) before after)

include hsplit

theorem parse?_eq_badNamespace_iff {text : String} :
    parse? s = .error (.badNamespace text) ↔
      text = lowerAscii (trim before) ∧ ¬ Run NameChar (lowerAscii (trim before)) := by
  obtain ⟨hbefore, hafter⟩ := hsplit.ascii hascii
  rw [parse?_of_splitsInside hsplit, run_nameChar_lowerAscii (ascii_trim hbefore)]
  obtain ⟨hname, hmake⟩ | ⟨hname, _, hmake⟩ | ⟨hname, _, k, hmake, _⟩ :=
    make?_cases hbefore hafter <;>
    simp [hmake, hname, eq_comm]

theorem parse?_eq_badValue_iff {text : String} :
    parse? s = .error (.badValue text) ↔ text = lowerAscii (trim after) ∧
      Run NameChar (lowerAscii (trim before)) ∧ ¬ Run PathChar (lowerAscii (trim after)) := by
  obtain ⟨hbefore, hafter⟩ := hsplit.ascii hascii
  rw [parse?_of_splitsInside hsplit, run_nameChar_lowerAscii (ascii_trim hbefore),
    run_pathChar_lowerAscii (ascii_trim hafter)]
  obtain ⟨hname, hmake⟩ | ⟨hname, hvalue, hmake⟩ | ⟨hname, hvalue, k, hmake, _⟩ :=
    make?_cases hbefore hafter <;>
    simp [hmake, hname, eq_comm] <;> simp [hvalue]

/-- A second colon belongs to the value, which cannot have one. -/
theorem not_run_of_mem_colon (hcolon : ':' ∈ after.toList) :
    ¬ Run PathChar (lowerAscii (trim after)) := by
  rw [run_pathChar_lowerAscii (ascii_trim (hsplit.ascii hascii).2)]
  intro hrun
  exact absurd (hrun.chars ':' (mem_trim_of_mem hcolon (by decide))) (by decide)

end

/-- A text of ASCII characters that spells a key is read as this key, in lowercase, and no other
text is read. The fault tells what is wrong first: that there is no colon inside the trimmed text,
the namespace, or else the value; so behind a good namespace a second colon is a fault of the
value. -/
theorem reads_grammar {s : String} (hascii : Ascii s) :
    ((∃ k, parse? s = .ok k) ↔ ∃ name value, Spells s name value) ∧
    (∀ name value, Spells s name value →
      ∃ k, parse? s = .ok k ∧ k.space = lowerAscii name ∧ k.value = lowerAscii value) ∧
    (∀ text, parse? s = .error (.malformed text) ↔ text = s ∧ Unsplit (trim s)) ∧
    (¬ Unsplit (trim s) → ∃ before after, SplitsInside (trim s) before after ∧
      let space := lowerAscii (trim before)
      let value := lowerAscii (trim after)
      (∀ text, parse? s = .error (.badNamespace text) ↔
        text = space ∧ ¬ Run NameChar space) ∧
      (∀ text, parse? s = .error (.badValue text) ↔
        text = value ∧ Run NameChar space ∧ ¬ Run PathChar value) ∧
      (Run NameChar space → ':' ∈ after.toList → parse? s = .error (.badValue value))) := by
  refine ⟨⟨?_, ?_⟩, fun _ _ ↦ exists_parse?_of_spells hascii,
    fun _ ↦ parse?_eq_malformed_iff hascii, ?_⟩
  · rintro ⟨k, hk⟩
    exact exists_spells_of_parse? hascii hk
  · rintro ⟨name, value, hspells⟩
    obtain ⟨k, hk, _⟩ := exists_parse?_of_spells hascii hspells
    exact ⟨k, hk⟩
  · intro hunsplit
    obtain ⟨before, after, hsplit⟩ := (unsplit_or_splitsInside (trim s)).resolve_left hunsplit
    refine ⟨before, after, hsplit, fun _ ↦ parse?_eq_badNamespace_iff hascii hsplit,
      fun _ ↦ parse?_eq_badValue_iff hascii hsplit, fun hname hcolon ↦ ?_⟩
    apply (parse?_eq_badValue_iff hascii hsplit).2
    exact ⟨rfl, hname, not_run_of_mem_colon hascii hsplit hcolon⟩

/-- A key in capitals, with blanks of every sort around its parts. -/
def spacedKit : String := "\t My.Kit\x0b:\x0c Buy/Sword-1 \n"

/-- The second text has a second colon behind a good namespace, and the third one nothing before the
colon. -/
theorem reads_grammar_kit :
    (Ascii spacedKit ∧ Spells spacedKit "My.Kit" "Buy/Sword-1" ∧
      ∃ k, parse? spacedKit = .ok k ∧ k.space = "my.kit" ∧ k.value = "buy/sword-1") ∧
    (Ascii "Shop : A:b " ∧ ¬ Unsplit (trim "Shop : A:b ") ∧
      parse? "Shop : A:b " = .error (.badValue "a:b")) ∧
    Ascii "  :buy" ∧ Unsplit (trim "  :buy") ∧ parse? "  :buy" = .error (.malformed "  :buy") := by
  have hkit : Ascii spacedKit := by decide
  have hspells : Spells spacedKit "My.Kit" "Buy/Sword-1" :=
    ⟨by decide, by decide, "\t ", "\x0b", "\x0c ", " \n", by decide, by decide⟩
  have hshop : Ascii "Shop : A:b " := by decide
  have hsplit : SplitsInside (trim "Shop : A:b ") "Shop " " A:b" :=
    ⟨⟨by decide, by decide⟩, by decide, by decide⟩
  have hbuy : Ascii "  :buy" := by decide
  have hunsplit : Unsplit (trim "  :buy") := .inr (.inl ⟨"buy", by decide, by decide⟩)
  refine ⟨⟨hkit, hspells, ?_⟩, ⟨hshop, hsplit.not_unsplit, ?_⟩, hbuy, hunsplit, ?_⟩
  · exact (reads_grammar hkit).2.1 _ _ hspells
  · obtain ⟨before, after, hsplit', _, _, hsecond⟩ :=
      (reads_grammar hshop).2.2.2 hsplit.not_unsplit
    have hparts := hsplit'.splitAtColon?_eq.symm.trans hsplit.splitAtColon?_eq
    obtain ⟨hbefore, hafter⟩ := Prod.mk.inj (Option.some.inj hparts)
    obtain rfl := String.toList_inj.1 hbefore
    obtain rfl := String.toList_inj.1 hafter
    exact hsecond (by decide) (by decide)
  · exact ((reads_grammar hbuy).2.2.1 _).2 ⟨rfl, hunsplit⟩

end DialogKit.Key
