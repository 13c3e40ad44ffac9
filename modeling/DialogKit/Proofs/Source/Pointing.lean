import DialogKit.Document.Source
import DialogKit.Proofs.Json.Places
import DialogKit.Proofs.Source.Excerpt

/-!
# Carets under faults

A fault of an interchange text comes with an excerpt. The line of the fault is counted by line
feeds, so it may be the empty one behind the last line feed, which is no line of the source any more
and which an excerpt does not show. On every other line the excerpt points at the fault: it has one
caret, directly below the row of the line. Without that row it has no caret at all.
-/

namespace DialogKit.Source

/-! ## Excerpts with and without a caret -/

/-- The rows of an excerpt. -/
def rowsOf (shown : String) : List String :=
  (Text.split '\n' shown).dropLast

def IsCaretRow (row : String) : Prop :=
  ∃ place, row = spaces place ++ "^"

/-- The excerpt at the place has one row with a caret, directly below the row of its line. A line
behind the last one of the source is empty. -/
def PointsAt (source : String) (spot : Spot) : Prop :=
  ∃ above row caret below, rowsOf spot.excerpt = above ++ row :: caret :: below ∧
    NumberedRow spot.line ((Text.lines source)[spot.line - 1]?.getD "") row ∧ IsCaretRow caret ∧
    ∀ other ∈ above ++ row :: below, ¬ IsCaretRow other

theorem rowsOf_printed {rows : List String} (h : ∀ row ∈ rows, '\n' ∉ row.toList) :
    rowsOf (printed rows) = rows := by
  rw [rowsOf, split_printed h, List.dropLast_concat]

theorem isCaretRow_caretRow (line column : Nat) : IsCaretRow (caretRow line column) :=
  ⟨(gutter line).length + (column - 1), by rw [caretRow, spaces]⟩

/-- A numbered row has a bar. -/
theorem ShowsLine.not_isCaretRow {lines : List String} {n : Nat} {row : String}
    (h : ShowsLine lines n row) : ¬ IsCaretRow row := by
  obtain ⟨_, text, _, ⟨_⟩⟩ := h
  rintro ⟨place, hrow⟩
  have hbar : '|' ∈ (spaces place ++ "^").toList := by
    rw [← hrow]
    simp
  simp [spaces] at hbar

theorem not_isCaretRow_of_forall₂ {lines : List String} {ns : List Nat} {rows : List String}
    (h : List.Forall₂ (ShowsLine lines) ns rows) : ∀ row ∈ rows, ¬ IsCaretRow row := by
  induction h with
  | nil => simp
  | cons hrow _ ih => exact List.forall_mem_cons.2 ⟨hrow.not_isCaretRow, ih⟩

section

variable {source : String} {line : Nat} (column : Nat)

theorem rowsOf_excerpt (hline : 1 ≤ line) :
    rowsOf (excerpt source line column) = rows source line column :=
  rowsOf_printed (not_mem_of_mem_rows hline column)

theorem pointsAt_excerpt (hline : 1 ≤ line) (hlast : line ≤ (Text.lines source).length) :
    PointsAt source ⟨line, column, excerpt source line column⟩ := by
  obtain ⟨above, text, below, htext, hrows, habove, hbelow⟩ := exists_rows hline hlast column
  have hrow : ShowsLine (Text.lines source) line (textRow line text) :=
    showsLine_textRow hline htext
  refine ⟨above, textRow line text, caretRow line column, below, ?_, ?_,
    isCaretRow_caretRow line column, ?_⟩
  · rw [rowsOf_excerpt column hline, hrows]
  · dsimp only
    rw [htext]
    exact numberedRow_textRow line text
  · rw [List.forall_mem_append, List.forall_mem_cons]
    exact ⟨not_isCaretRow_of_forall₂ habove, hrow.not_isCaretRow,
      not_isCaretRow_of_forall₂ hbelow⟩

/-- Behind the last line there is nothing to point at. -/
theorem not_isCaretRow_excerpt (hlast : (Text.lines source).length < line) :
    ∀ row ∈ rowsOf (excerpt source line column), ¬ IsCaretRow row := by
  obtain ⟨ns, hrows⟩ := showsLine_rows_of_lt hlast column
  rw [rowsOf_excerpt column (Nat.one_le_of_lt hlast)]
  exact not_isCaretRow_of_forall₂ hrows

theorem PointsAt.exists_isCaretRow {spot : Spot} (h : PointsAt source spot) :
    ∃ row ∈ rowsOf spot.excerpt, IsCaretRow row := by
  obtain ⟨above, row, caret, below, hrows, _, hcaret, _⟩ := h
  exact ⟨caret, by simp [hrows], hcaret⟩

end

/-! ## Faults of interchange texts -/

/-- The line is one of those that the line feeds of the source divide it into. -/
def CountedLine (source : String) (line : Nat) : Prop :=
  ∃ passed rest, source.toList = passed ++ rest ∧ line = 1 + passed.count '\n'

/-- The line is the empty one behind the last line feed, or that of an empty source. -/
structure BehindLines (source : String) (line : Nat) : Prop where
  ended : Text.Ended source.toList
  line_eq : line = 1 + source.toList.count '\n'

theorem CountedLine.le {source : String} {line : Nat} (h : CountedLine source line) :
    1 ≤ line ∧ line ≤ 1 + source.toList.count '\n' := by
  obtain ⟨passed, rest, hsource, rfl⟩ := h
  rw [hsource, List.count_append]
  omega

/-- A counted line is one of the lines of the source, unless it is the empty one behind them. -/
theorem CountedLine.le_length_iff {source : String} {line : Nat} (h : CountedLine source line) :
    line ≤ (Text.lines source).length ↔ ¬ BehindLines source line := by
  have hle := h.le.2
  have hbehind : BehindLines source line ↔
      Text.Ended source.toList ∧ line = 1 + source.toList.count '\n' :=
    ⟨fun h ↦ ⟨h.ended, h.line_eq⟩, fun h ↦ ⟨h.1, h.2⟩⟩
  rw [hbehind, Text.length_lines]
  obtain ⟨hended, hlength⟩ | ⟨hopen, hlength⟩ := Text.length_lineChars source.toList
  · simp only [hended, hlength, true_and]
    omega
  · simp only [hopen, hlength, false_and, not_false_eq_true, iff_true]
    omega

theorem ofJsonText_of_parse {source : String} {fault : Json.Fault}
    (h : Json.parse source = .error fault) :
    Document.ofJsonText source = .error (.malformed .json fault.message
      (some ⟨fault.line, fault.column, excerpt source fault.line fault.column⟩)) := by
  unfold Document.ofJsonText
  rw [h]
  rfl

theorem spot_of_ofJsonText {source message : String} {format : Format} {spot : Option Spot}
    (h : Document.ofJsonText source = .error (.malformed format message spot)) :
    ∃ line column, CountedLine source line ∧
      spot = some ⟨line, column, excerpt source line column⟩ := by
  unfold Document.ofJsonText at h
  split at h
  case h_1 value _ =>
    unfold Document.ofSourceValue at h
    split at h <;> simp at h
  case h_2 fault hparse =>
    obtain ⟨_, _, rfl⟩ : _ ∧ _ ∧
        some ⟨fault.line, fault.column, excerpt source fault.line fault.column⟩ = spot := by
      simpa [Fault.ofJson] using h
    exact ⟨fault.line, fault.column, Json.line_of_parse hparse, rfl⟩

/-- A fault of an interchange text comes with an excerpt, which points at the line of the fault if
that is not the empty one behind the last line feed. -/
theorem points_at_fault {source message : String} {format : Format} {spot : Option Spot}
    (h : Document.ofJsonText source = .error (.malformed format message spot)) :
    ∃ place, spot = some place ∧ CountedLine source place.line ∧
      (PointsAt source place ↔ ¬ BehindLines source place.line) ∧
      (BehindLines source place.line → ∀ row ∈ rowsOf place.excerpt, ¬ IsCaretRow row) := by
  obtain ⟨line, column, hcounted, rfl⟩ := spot_of_ofJsonText h
  have hnone (hbehind : BehindLines source line) :
      ∀ row ∈ rowsOf (excerpt source line column), ¬ IsCaretRow row := by
    have hlast : ¬ line ≤ (Text.lines source).length :=
      fun hle ↦ hcounted.le_length_iff.1 hle hbehind
    exact not_isCaretRow_excerpt column (Nat.lt_of_not_le hlast)
  refine ⟨_, rfl, hcounted, ⟨?_, ?_⟩, hnone⟩
  · intro hpoints hbehind
    obtain ⟨row, hrow, hcaret⟩ := hpoints.exists_isCaretRow
    exact hnone hbehind row hrow hcaret
  · intro hbehind
    exact pointsAt_excerpt column hcounted.le.1 (hcounted.le_length_iff.2 hbehind)

/-- What a text fails with, to be computed for a given one. -/
theorem parse_eq_error {source : String} {fault : Json.Fault}
    (h : (match Json.parse source with | .ok _ => none | .error found => some found) = some fault) :
    Json.parse source = .error fault := by
  split at h
  case h_1 => simp at h
  case h_2 found hfound => rw [hfound, Option.some.inj h]

/-- A colon is missing on the second line of three. -/
theorem points_at_fault_colon :
    let source := "\x7b\n  \"a\" 1\n\x7d"
    ∃ message place, Document.ofJsonText source =
        .error (.malformed .json message (some place)) ∧ place.line = 2 ∧
      PointsAt source place := by
  intro source
  have hparse : Json.parse source = .error ⟨.expectedColon, 2, 7⟩ :=
    parse_eq_error (by decide +kernel)
  have hfault := ofJsonText_of_parse hparse
  obtain ⟨place, hplace, _, hpoints, _⟩ := points_at_fault hfault
  obtain rfl := Option.some.inj hplace
  have hlast : source.toList.getLast? = some '\x7d' := by decide
  refine ⟨_, _, hfault, rfl, hpoints.2 fun hbehind ↦ ?_⟩
  have hend : '\x7d' = '\n' := hbehind.ended _ hlast
  simp at hend

/-- The object is not closed, which is found on the line behind the last one. -/
theorem pointless_behind_lines :
    let source := "\x7b\n"
    ∃ message place, Document.ofJsonText source =
        .error (.malformed .json message (some place)) ∧ place.line = 2 ∧
      place.excerpt = "    1 | \x7b\n" ∧ ¬ PointsAt source place := by
  intro source
  have hparse : Json.parse source = .error ⟨.endInObject, 2, 0⟩ :=
    parse_eq_error (by decide +kernel)
  refine ⟨_, _, ofJsonText_of_parse hparse, rfl, by decide, ?_⟩
  rintro ⟨above, row, caret, below, hrows, _⟩
  have hlength : (rowsOf (excerpt source 2 0)).length = 1 := by decide
  rw [hrows, List.length_append, List.length_cons, List.length_cons] at hlength
  omega

end DialogKit.Source
