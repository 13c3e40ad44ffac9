import DialogKit.Proofs.Component.Input
import DialogKit.Validation.Check

/-!
# The errors of a checked dialog

An error is always the fault of one entry of the inputs, and what it is depends on the entry and on
the ids of the entries before it: `error_iff` lists the cases. A range is at fault exactly if both
of its bounds are given and its numbers make no slider.
-/

namespace DialogKit.Validation

open Component (shownText? typeName? RangeFits)

/-! ## Ranges -/

/-- Both bounds of a range are given as numbers; other ranges are not looked at. -/
def GivesBounds (part : Document) : Prop :=
  (part.float? "min").isSome ∧ (part.float? "max").isSome

/-- The numbers of a range that are looked at. -/
def givenNumbers (part : Document) (min max : Float) : List (String × Float) :=
  ("min", min) :: ("max", max) :: (part.float? "step").toList.map ("step", ·) ++
    (part.float? "initial").toList.map ("initial", ·)

section

variable {s : Subject} {part : Document} {id : String} {min max : Float} {issue : Issue}

theorem rangeIssues_of_bounds (hmin : part.float? "min" = some min)
    (hmax : part.float? "max" = some max) :
    rangeIssues s part id = finiteIssues s id (givenNumbers part min max) ++
      if min.isFinite && max.isFinite then boundIssues s id min max (part.float? "initial")
      else [] := by
  simp only [rangeIssues, hmin, hmax, givenNumbers]

theorem forall_givenNumbers {P : String × Float → Prop} :
    (∀ number ∈ givenNumbers part min max, P number) ↔ P ("min", min) ∧ P ("max", max) ∧
      (∀ step ∈ part.float? "step", P ("step", step)) ∧
      ∀ initial ∈ part.float? "initial", P ("initial", initial) := by
  simp [givenNumbers, or_imp, forall_and]

/-- With both bounds given, the defaults of the other numbers never keep a range from fitting. -/
theorem rangeFits_iff_of_bounds (hmin : part.float? "min" = some min)
    (hmax : part.float? "max" = some max) :
    RangeFits part ↔ min < max ∧ ∀ number ∈ givenNumbers part min max,
      number.2.isFinite = true := by
  have hone : (1.0 : Float).isFinite = true := rfl
  have hmin' : part.float "min" 0.0 = min := by rw [Document.float, hmin, Option.getD_some]
  have hmax' : part.float "max" 100.0 = max := by rw [Document.float, hmax, Option.getD_some]
  have hgiven (key : String) {default : Float} (hdefault : default.isFinite = true) :
      (part.float key default).isFinite = true ↔ ∀ x ∈ part.float? key, x.isFinite = true := by
    unfold Document.float
    cases part.float? key <;> simp [hdefault]
  rw [forall_givenNumbers]
  constructor
  · rintro ⟨hbelow, hmin, hmax, hstep, hinitial⟩
    rw [hmin'] at hbelow hmin hinitial
    rw [hmax'] at hbelow hmax
    exact ⟨hbelow, hmin, hmax, (hgiven "step" hone).1 hstep, (hgiven "initial" hmin).1 hinitial⟩
  · rintro ⟨hbelow, hmin, hmax, hstep, hinitial⟩
    refine ⟨?_, ?_, ?_, (hgiven "step" hone).2 hstep, ?_⟩
    · rwa [hmin', hmax']
    · rwa [hmin']
    · rwa [hmax']
    · rw [hmin']
      exact (hgiven "initial" hmin).2 hinitial

/-- A range that gives its bounds but makes no slider has an error. -/
theorem exists_error_rangeIssues (s : Subject) (id : String) (hgives : GivesBounds part)
    (hnot : ¬ RangeFits part) : ∃ issue ∈ rangeIssues s part id, issue.severity = .error := by
  obtain ⟨min, hmin⟩ := Option.isSome_iff_exists.1 hgives.1
  obtain ⟨max, hmax⟩ := Option.isSome_iff_exists.1 hgives.2
  rw [rangeFits_iff_of_bounds hmin hmax] at hnot
  rw [rangeIssues_of_bounds hmin hmax]
  by_cases hfinite : ∀ number ∈ givenNumbers part min max, number.2.isFinite = true
  · have hbelow : ¬ min < max := fun hbelow ↦ hnot ⟨hbelow, hfinite⟩
    obtain ⟨hmin, hmax, _⟩ := forall_givenNumbers.1 hfinite
    simp only [hmin, hmax, Bool.and_self, if_true, boundIssues, hbelow, if_false]
    exact ⟨_, List.mem_append_right _ (List.mem_append_left _ (.head _)), rfl⟩
  · obtain ⟨number, hnumber⟩ := Classical.not_forall.1 hfinite
    obtain ⟨hmem, hnumber⟩ := Classical.not_imp.1 hnumber
    refine ⟨_, List.mem_append_left _ (List.mem_map_of_mem (List.mem_filter.2 ⟨hmem, ?_⟩)), rfl⟩
    simpa using hnumber

/-- An issue with a setting of the input that has the id; no such issue is about the id itself. -/
structure Concerns (s : Subject) (id : String) (issue : Issue) : Prop where
  dialog : issue.dialog = s.dialog
  input : issue.input = some id
  ne_repeatedId : ∀ name, issue ≠ repeatedId s name

theorem concerns_inputIssue {severity : Severity} {message suggestion : String}
    (h : suggestion ≠ (repeatedId s id).suggestion) :
    Concerns s id (s.inputIssue severity id message suggestion) where
  dialog := rfl
  input := rfl
  ne_repeatedId _ heq := h (congrArg Issue.suggestion heq)

theorem concerns_finiteIssues {numbers : List (String × Float)}
    (h : issue ∈ finiteIssues s id numbers) : Concerns s id issue := by
  obtain ⟨number, _, rfl⟩ := List.mem_map.1 h
  refine concerns_inputIssue fun heq ↦ ?_
  have hfirst := congrArg (fun text : String ↦ text.toList.head?) heq
  simp [repeatedId, Subject.inputIssue] at hfirst

/-- An issue with the bounds is only an error if they do not rise. -/
theorem mem_boundIssues {initial : Option Float} (h : issue ∈ boundIssues s id min max initial) :
    Concerns s id issue ∧ (issue.severity = .error → ¬ min < max) := by
  rcases List.mem_append.1 h with h | h
  · split at h
    case isTrue => simp at h
    case isFalse hnot =>
      obtain rfl := List.mem_singleton.1 h
      exact ⟨concerns_inputIssue (by simp [repeatedId, Subject.inputIssue]), fun _ ↦ hnot⟩
  · cases initial with
    | none => simp at h
    | some x =>
      dsimp only at h
      split at h
      case isTrue =>
        obtain rfl := List.mem_singleton.1 h
        exact ⟨concerns_inputIssue (by simp [repeatedId, Subject.inputIssue]), nofun⟩
      case isFalse => simp at h

/-- A range has errors only if it gives its bounds and makes no slider. -/
theorem error_rangeIssues (h : issue ∈ rangeIssues s part id) (herror : issue.severity = .error) :
    GivesBounds part ∧ ¬ RangeFits part := by
  cases hmin : part.float? "min" with
  | none => simp [rangeIssues, hmin] at h
  | some min =>
  cases hmax : part.float? "max" with
  | none => simp [rangeIssues, hmin, hmax] at h
  | some max =>
  refine ⟨⟨by simp [hmin], by simp [hmax]⟩, fun hfits ↦ ?_⟩
  obtain ⟨hbelow, hfinite⟩ := (rangeFits_iff_of_bounds hmin hmax).1 hfits
  rw [rangeIssues_of_bounds hmin hmax, List.mem_append] at h
  rcases h with hnumber | hbounds
  · obtain ⟨number, hmem, rfl⟩ := List.mem_map.1 hnumber
    obtain ⟨hmem, hnot⟩ := List.mem_filter.1 hmem
    simp [hfinite number hmem] at hnot
  · split at hbounds
    · exact (mem_boundIssues hbounds).2 herror hbelow
    · simp at hbounds

theorem concerns_rangeIssues (h : issue ∈ rangeIssues s part id) : Concerns s id issue := by
  unfold rangeIssues at h
  split at h
  · rcases List.mem_append.1 h with hnumber | hbounds
    · exact concerns_finiteIssues hnumber
    · split at hbounds
      · exact (mem_boundIssues hbounds).1
      · simp at hbounds
  · simp at h

end

/-! ## Entries -/

/-- The id of an entry that is a map. -/
def entryId? (entry : Value) : Option String :=
  (Document.ofValue? entry).bind fun part ↦ shownText? part "id"

/-- How an entry is named in its issues: by its id, or by its place if it has none. -/
def entryName (index : Nat) (part : Document) : String :=
  (shownText? part "id").getD ("input[" ++ toString index ++ "]")

/-- The issues with one entry. -/
def entryIssues (s : Subject) (index : Nat) (seen : List String) (entry : Value) : List Issue :=
  match Document.ofValue? entry with
  | none => []
  | some part =>
      match shownText? part "id" with
      | none => [missingId s index]
      | some id => (if seen.contains id then [repeatedId s id] else []) ++ settingIssues s part id

section

variable {s : Subject} {part : Document} {id : String} {issue : Issue}

theorem inputIssuesFrom_cons (s : Subject) (index : Nat) (seen : List String) (entry : Value)
    (rest : List Value) :
    inputIssuesFrom s index seen (entry :: rest) = entryIssues s index seen entry ++
      inputIssuesFrom s (index + 1) ((entryId? entry).toList ++ seen) rest := by
  rw [inputIssuesFrom, entryIssues, entryId?]
  cases Document.ofValue? entry with
  | none => rfl
  | some part => cases hid : shownText? part "id" <;> simp [hid]

/-- The ids that are seen behind the given entries, the last one first. -/
def seenAfter (before : List Value) : List String :=
  (before.filterMap entryId?).reverse

theorem mem_seenAfter {before : List Value} :
    id ∈ seenAfter before ↔
      ∃ earlier : Document, .map earlier.entries ∈ before ∧ shownText? earlier "id" = some id := by
  have hentry (entry : Value) : entryId? entry = some id ↔
      ∃ earlier : Document, entry = .map earlier.entries ∧ shownText? earlier "id" = some id := by
    simp only [entryId?, Option.bind_eq_some_iff, Document.ofValue?_eq_some]
  simp only [seenAfter, List.mem_reverse, List.mem_filterMap, hentry]
  constructor
  · rintro ⟨_, hmem, earlier, rfl, hid⟩
    exact ⟨earlier, hmem, hid⟩
  · rintro ⟨earlier, hmem, hid⟩
    exact ⟨_, hmem, earlier, rfl, hid⟩

theorem seenAfter_cons (entry : Value) (before : List Value) :
    seenAfter (entry :: before) = seenAfter before ++ (entryId? entry).toList := by
  unfold seenAfter
  cases h : entryId? entry <;> simp [h]

/-- The issues with a list of entries are those with each entry at its place, behind the ids of the
entries before it. -/
theorem mem_inputIssuesFrom {index : Nat} {seen : List String} {entries : List Value} :
    issue ∈ inputIssuesFrom s index seen entries ↔
      ∃ before entry after, entries = before ++ entry :: after ∧
        issue ∈ entryIssues s (index + before.length) (seenAfter before ++ seen) entry := by
  induction entries generalizing index seen with
  | nil => simp [inputIssuesFrom]
  | cons first rest ih =>
    have hplace (before : List Value) :
        index + 1 + before.length = index + (first :: before).length := by
      rw [List.length_cons]
      omega
    rw [inputIssuesFrom_cons, List.mem_append, ih]
    simp only [← List.append_assoc, ← seenAfter_cons, hplace]
    constructor
    · rintro (hfirst | ⟨before, entry, after, rfl, hentry⟩)
      · exact ⟨[], first, rest, rfl, hfirst⟩
      · exact ⟨first :: before, entry, after, rfl, hentry⟩
    · rintro ⟨before, entry, after, hentries, hentry⟩
      cases before with
      | nil =>
        obtain ⟨rfl, rfl⟩ := List.cons.inj hentries
        exact .inl hentry
      | cons other before =>
        obtain ⟨rfl, rfl⟩ := List.cons.inj hentries
        exact .inr ⟨before, entry, after, rfl, hentry⟩

/-- The errors that an entry has behind the given entries. -/
inductive EntryError (s : Subject) (before : List Value) (part : Document) : Issue → Prop where
  | missing (absent : shownText? part "id" = none) :
      EntryError s before part (missingId s before.length)
  | repeated {id : String} {earlier : Document} (found : shownText? part "id" = some id)
      (mem : .map earlier.entries ∈ before) (same : shownText? earlier "id" = some id) :
      EntryError s before part (repeatedId s id)
  | range {id : String} {issue : Issue} (found : shownText? part "id" = some id)
      (type : typeName? part = some "number_range") (mem : issue ∈ rangeIssues s part id)
      (error : issue.severity = .error) : EntryError s before part issue

theorem severity_markupIssues {initial : String} {maxLength : Int}
    (h : issue ∈ markupIssues s id initial maxLength) : issue.severity ≠ .error := by
  rcases List.mem_append.1 h with h | h <;> split at h <;> simp_all [Subject.inputIssue]

theorem severity_textIssues (h : issue ∈ textIssues s part id) : issue.severity ≠ .error := by
  unfold textIssues at h
  split at h
  · simp at h
  · rcases List.mem_append.1 h with h | h
    · split at h
      · exact severity_markupIssues h
      · simp at h
    · split at h <;> simp_all [Subject.inputIssue]

theorem severity_booleanIssues (h : issue ∈ booleanIssues s part id) :
    issue.severity ≠ .error := by
  unfold booleanIssues at h
  split at h <;> simp_all [Subject.inputIssue]

/-- Of the settings, only those of a range have errors. -/
theorem error_settingIssues (h : issue ∈ settingIssues s part id)
    (herror : issue.severity = .error) :
    typeName? part = some "number_range" ∧ issue ∈ rangeIssues s part id := by
  unfold settingIssues at h
  split at h
  case h_3 htype => exact ⟨htype, h⟩
  case h_1 =>
    rcases List.mem_cons.1 h with rfl | h
    · simp [Subject.inputIssue] at herror
    · exact absurd herror (severity_textIssues h)
  case h_2 => exact absurd herror (severity_textIssues h)
  case h_4 => exact absurd herror (severity_booleanIssues h)
  case h_5 => simp at h

theorem error_entryIssues_iff {before : List Value} {entry : Value} :
    issue ∈ entryIssues s before.length (seenAfter before) entry ∧ issue.severity = .error ↔
      ∃ part : Document, entry = .map part.entries ∧ EntryError s before part issue := by
  unfold entryIssues
  constructor
  · rintro ⟨h, herror⟩
    cases hpart : Document.ofValue? entry with
    | none => simp [hpart] at h
    | some part =>
    refine ⟨part, Document.ofValue?_eq_some.1 hpart, ?_⟩
    cases hid : shownText? part "id" with
    | none =>
      simp only [hpart, hid, List.mem_singleton] at h
      exact h ▸ .missing hid
    | some id =>
      simp only [hpart, hid, List.mem_append] at h
      rcases h with h | h
      · split at h
        case isTrue hseen =>
          obtain rfl := List.mem_singleton.1 h
          obtain ⟨earlier, hmem, hsame⟩ := mem_seenAfter.1 (List.contains_iff_mem.1 hseen)
          exact .repeated hid hmem hsame
        case isFalse => simp at h
      · obtain ⟨htype, hrange⟩ := error_settingIssues h herror
        exact .range hid htype hrange herror
  · rintro ⟨part, rfl, h⟩
    have hpart : Document.ofValue? (.map part.entries) = some part := rfl
    rw [hpart]
    cases h with
    | missing hid => simp [hid, missingId, Subject.inputIssue]
    | repeated hid hmem hsame =>
      have hseen := mem_seenAfter.2 ⟨_, hmem, hsame⟩
      simp [hid, hseen, repeatedId, Subject.inputIssue]
    | range hid htype hrange herror =>
      unfold typeName? at htype
      simp [hid, settingIssues, htype, hrange, herror]

theorem severity_nestingIssues {document : Document} (h : issue ∈ nestingIssues s document) :
    issue.severity ≠ .error := by
  unfold nestingIssues at h
  split at h <;> simp_all [Subject.dialogIssue]

theorem severity_buttonIssues {root : Document} (h : issue ∈ buttonIssues s root) :
    issue.severity ≠ .error := by
  unfold buttonIssues at h
  split at h
  · split at h <;> simp_all [Subject.dialogIssue]
  · simp at h

theorem severity_titleIssues {root : Document} (h : issue ∈ titleIssues s root) :
    issue.severity ≠ .error := by
  unfold titleIssues at h
  split at h <;> simp_all [Subject.dialogIssue]

end

/-! ## Dialogs -/

/-- The entries of the inputs of a dialog. -/
def inputEntries (id : String) (document : Document) : List Value :=
  ((Catalog.unwrap id document).list? "inputs").getD []

/-- The errors of a dialog are those of the entries of its inputs. -/
theorem error_iff {format : Formatter} {id : String} {document : Document} {issue : Issue} :
    issue ∈ (dialog format id document).issues ∧ issue.severity = .error ↔
      ∃ (before : List Value) (part : Document) (after : List Value),
        inputEntries id document = before ++ .map part.entries :: after ∧
        EntryError ⟨id, format⟩ before part issue := by
  have hinputs (h : issue.severity = .error) : issue ∈ (dialog format id document).issues ↔
      issue ∈ inputIssuesFrom ⟨id, format⟩ 0 [] (inputEntries id document) := by
    simp only [dialog, List.mem_append, inputEntries]
    constructor
    · rintro (((hnesting | hinput) | hbutton) | htitle)
      · exact absurd h (severity_nestingIssues hnesting)
      · exact hinput
      · exact absurd h (severity_buttonIssues hbutton)
      · exact absurd h (severity_titleIssues htitle)
    · exact fun hinput ↦ .inl (.inl (.inr hinput))
  rw [and_congr_left hinputs, mem_inputIssuesFrom]
  simp only [List.append_nil, Nat.zero_add]
  constructor
  · rintro ⟨⟨before, entry, after, hentries, hentry⟩, herror⟩
    obtain ⟨part, rfl, hpart⟩ := error_entryIssues_iff.1 ⟨hentry, herror⟩
    exact ⟨before, part, after, hentries, hpart⟩
  · rintro ⟨before, part, after, hentries, hpart⟩
    obtain ⟨hentry, herror⟩ := error_entryIssues_iff.2 ⟨part, rfl, hpart⟩
    exact ⟨⟨before, _, after, hentries, hentry⟩, herror⟩

end DialogKit.Validation
