import DialogKit.Proofs.Text.Lines
import DialogKit.Source.Excerpt
import Mathlib.Data.List.Infix

/-!
# The layout of excerpts

An excerpt shows up to two lines before a line of the source, the line, and up to one line after it,
each in a row of its own behind its number. One row more stands directly below that of the line, with
nothing in it but a caret below the character at the column, however many digits the number has.
-/

namespace DialogKit.Source

/-! ## Rows -/

def spaces (count : Nat) : String :=
  String.ofList (List.replicate count ' ')

/-- Digits behind spaces that fill the field up to the width. -/
structure RightAligned (width : Nat) (digits field : String) : Prop where
  exists_spaces : ∃ padding, field = spaces padding ++ digits
  length_eq : field.length = max width digits.length

/-- A line behind its number, which is set to the right in at least four columns. -/
inductive NumberedRow (n : Nat) (text : String) : String → Prop
  | mk {field : String} (aligned : RightAligned 4 (toString n) field) :
      NumberedRow n text (" " ++ field ++ " | " ++ text)

/-- The row of a line that is there. -/
def ShowsLine (lines : List String) (n : Nat) (row : String) : Prop :=
  1 ≤ n ∧ ∃ text, lines[n - 1]? = some text ∧ NumberedRow n text row

/-- The caret stands at the place of the row at which the text has its character at the column. -/
structure PointsInto (text row : String) (column : Nat) (caret : String) (place : Nat) : Prop where
  caret_eq : caret = spaces place ++ "^"
  exists_margin : ∃ margin, row = margin ++ text ∧ place + 1 = margin.length + column
  character : row.toList[place]? = text.toList[column - 1]?

/-- Rows, each with a line end. -/
def printed (rows : List String) : String :=
  String.join (rows.map (· ++ "\n"))

theorem toList_printed (rows : List String) :
    (printed rows).toList = (rows.map String.toList).flatMap fun row ↦ row ++ ['\n'] := by
  rw [printed, String.toList_join, List.flatMap_map, List.flatMap_map]
  exact List.flatMap_congr fun row _ ↦ by simp

theorem split_printed {rows : List String} (h : ∀ row ∈ rows, '\n' ∉ row.toList) :
    Text.split '\n' (printed rows) = rows ++ [""] := by
  have hrows : ∀ row ∈ rows.map String.toList, '\n' ∉ row := by simpa using h
  rw [Text.split, toList_printed, Text.splitChars_flatMap hrows, List.map_append, List.map_map]
  simp

/-! ## One row -/

theorem rightAligned_gutter (n : Nat) : ∃ field, RightAligned 4 (toString n) field ∧
    gutter n = " " ++ field ++ " | " := by
  refine ⟨spaces (4 - (toString n).length) ++ toString n, ⟨⟨_, rfl⟩, ?_⟩, ?_⟩
  · rw [String.length_append, spaces, String.length_ofList, List.length_replicate]
    omega
  · rw [← String.append_assoc]
    rfl

theorem numberedRow_textRow (n : Nat) (text : String) : NumberedRow n text (textRow n text) := by
  obtain ⟨field, hfield, hgutter⟩ := rightAligned_gutter n
  rw [textRow, hgutter]
  exact ⟨hfield⟩

theorem pointsInto_caretRow (n : Nat) (text : String) {column : Nat} (hcolumn : 1 ≤ column) :
    PointsInto text (textRow n text) column (caretRow n column)
      ((gutter n).length + (column - 1)) := by
  constructor
  case caret_eq => rw [caretRow, spaces]
  case exists_margin => exact ⟨gutter n, by rw [textRow], by omega⟩
  case character =>
    rw [textRow, String.toList_append, ← String.length_toList,
      List.getElem?_append_right (Nat.le_add_right ..), Nat.add_sub_cancel_left]

/-! ## All rows -/

/-- The lines stand in the source from the number on. -/
def StandFrom (lines : List String) (n : Nat) (texts : List String) : Prop :=
  texts <+: lines.drop (n - 1)

section

variable {lines texts : List String} {line n : Nat}

theorem StandFrom.head {text : String} (h : StandFrom lines n (text :: texts)) :
    lines[n - 1]? = some text := by
  obtain ⟨rest, hrest⟩ := h
  calc
    lines[n - 1]? = (lines.drop (n - 1))[0]? := by rw [List.getElem?_drop, Nat.add_zero]
    _ = some text := by rw [← hrest]; rfl

theorem StandFrom.drop (h : StandFrom lines n texts) (hn : 1 ≤ n) (count : Nat) :
    StandFrom lines (n + count) (texts.drop count) := by
  have hcount : n - 1 + count = n + count - 1 := by omega
  have hdrop := List.IsPrefix.drop h count
  rwa [List.drop_drop, hcount] at hdrop

theorem StandFrom.tail {text : String} (h : StandFrom lines n (text :: texts)) (hn : 1 ≤ n) :
    StandFrom lines (n + 1) texts :=
  h.drop hn 1

theorem showsLine_textRow (hn : 1 ≤ n) {text : String} (h : lines[n - 1]? = some text) :
    ShowsLine lines n (textRow n text) :=
  ⟨hn, text, h, numberedRow_textRow n text⟩

theorem rowsFrom_append (line column n : Nat) (texts texts' : List String) :
    rowsFrom line column n (texts ++ texts') =
      rowsFrom line column n texts ++ rowsFrom line column (n + texts.length) texts' := by
  induction texts generalizing n with
  | nil => rfl
  | cons text texts ih =>
    rw [List.cons_append, rowsFrom, rowsFrom, ih, List.length_cons, Nat.add_right_comm n,
      List.append_assoc]
    rfl

/-- Lines that are all before the place, or all behind it, are shown without a caret. -/
theorem showsLine_rowsFrom (hn : 1 ≤ n) (hstand : StandFrom lines n texts)
    (hline : line < n ∨ n + texts.length ≤ line) (column : Nat) :
    List.Forall₂ (ShowsLine lines) (List.range' n texts.length)
      (rowsFrom line column n texts) := by
  induction texts generalizing n with
  | nil => exact .nil
  | cons text texts ih =>
    rw [List.length_cons] at hline ⊢
    have hne : (n == line) = false := by simp only [beq_eq_false_iff_ne]; omega
    rw [rowsFrom, hne]
    exact .cons (showsLine_textRow hn hstand.head) (ih (by omega) (hstand.tail hn) (by omega))

/-- Among the rows of lines that stand around a place, the caret is directly below the place. -/
theorem rowsFrom_around (hn : 1 ≤ n) {before after : List String} {text : String}
    (hstand : StandFrom lines n (before ++ text :: after)) (hline : line = n + before.length)
    (column : Nat) :
    ∃ above below, lines[line - 1]? = some text ∧
      rowsFrom line column n (before ++ text :: after) =
        above ++ textRow line text :: caretRow line column :: below ∧
      List.Forall₂ (ShowsLine lines) (List.range' n before.length) above ∧
      List.Forall₂ (ShowsLine lines) (List.range' (line + 1) after.length) below := by
  have hbefore : StandFrom lines n before := (List.prefix_append _ _).trans hstand
  have hat : StandFrom lines line (text :: after) := by
    have hdrop := hstand.drop hn before.length
    rwa [List.drop_left, ← hline] at hdrop
  -- Neither the lines before nor those behind contain the place, so only its own row has a caret.
  have hbelow : line < line + 1 ∨ line + 1 + after.length ≤ line := .inl (Nat.lt_succ_self line)
  refine ⟨_, _, hat.head, ?_, showsLine_rowsFrom hn hbefore (.inr hline.ge) column,
    showsLine_rowsFrom (by omega) (hat.tail (by omega)) hbelow column⟩
  rw [rowsFrom_append, ← hline, rowsFrom, beq_self_eq_true, if_pos rfl, List.cons_append,
    List.singleton_append]

end

/-! ## The whole excerpt -/

theorem NumberedRow.not_mem {n : Nat} {text row : String} (h : NumberedRow n text row)
    (htext : '\n' ∉ text.toList) : '\n' ∉ row.toList := by
  obtain ⟨⟨⟨padding, rfl⟩, _⟩⟩ := h
  have hdigits : '\n' ∉ Nat.toDigits 10 n := by
    intro hmem
    have hdigit : '\n'.isDigit = true :=
      Nat.isDigit_of_mem_toDigits (by decide) (by decide) hmem
    simp at hdigit
  simp [spaces, hdigits, htext]

theorem ShowsLine.not_mem {source row : String} {n : Nat} (h : ShowsLine (Text.lines source) n row) :
    '\n' ∉ row.toList := by
  obtain ⟨_, text, hget, hrow⟩ := h
  exact hrow.not_mem (Text.not_mem_of_mem_lines (List.mem_of_getElem? hget))

/-- The numbers of the lines from the first to the last. -/
def numbers (first last : Nat) : List Nat :=
  List.range' first (last + 1 - first)

/-- The rows around a line: those above it, its own one, the one with the caret, and those below. -/
structure LaidOut (lines : List String) (line column : Nat) (above : List String)
    (row caret : String) (below : List String) : Prop where
  rows_above : List.Forall₂ (ShowsLine lines) (numbers (max 1 (line - 2)) (line - 1)) above
  own_row : ShowsLine lines line row
  caret_row : ∃ text place, lines[line - 1]? = some text ∧ PointsInto text row column caret place
  rows_below :
    List.Forall₂ (ShowsLine lines) (numbers (line + 1) (min lines.length (line + 1))) below
  unbroken : ∀ shown ∈ above ++ row :: caret :: below, '\n' ∉ shown.toList

theorem not_mem_caretRow (n column : Nat) : '\n' ∉ (caretRow n column).toList := by
  simp [caretRow]

theorem not_mem_of_forall₂ {source : String} {ns : List Nat} {rows : List String}
    (h : List.Forall₂ (ShowsLine (Text.lines source)) ns rows) :
    ∀ row ∈ rows, '\n' ∉ row.toList := by
  induction h with
  | nil => simp
  | cons hrow _ ih => exact List.forall_mem_cons.2 ⟨hrow.not_mem, ih⟩

/-- The lines from the first to the last, with one line among them taken apart. -/
theorem exists_lines {lines : List String} {first line last : Nat} (hfirst : 1 ≤ first)
    (hline : first ≤ line) (hlast : line ≤ last) (hlength : last ≤ lines.length) :
    ∃ before text after, (lines.take last).drop (first - 1) = before ++ text :: after ∧
      line = first + before.length ∧ last = line + after.length := by
  generalize hshown : (lines.take last).drop (first - 1) = shown
  have hshownLength : shown.length = last - (first - 1) := by
    rw [← hshown, List.length_drop, List.length_take, Nat.min_eq_left hlength]
  have hcount : line - first < shown.length := by omega
  refine ⟨shown.take (line - first), shown[line - first], shown.drop (line - first + 1),
    by simp, ?_, ?_⟩
  · rw [List.length_take]
    omega
  · rw [List.length_drop]
    omega

/-- The rows of an excerpt around a line that is there, whatever the column. -/
theorem exists_rows {source : String} {line : Nat} (hline : 1 ≤ line)
    (hlast : line ≤ (Text.lines source).length) (column : Nat) :
    ∃ above text below, (Text.lines source)[line - 1]? = some text ∧
      rows source line column = above ++ textRow line text :: caretRow line column :: below ∧
      List.Forall₂ (ShowsLine (Text.lines source)) (numbers (max 1 (line - 2)) (line - 1)) above ∧
      List.Forall₂ (ShowsLine (Text.lines source))
        (numbers (line + 1) (min (Text.lines source).length (line + 1))) below := by
  let first := max 1 (line - 2)
  let last := min (Text.lines source).length (line + 1)
  have hfirst : 1 ≤ first := Nat.le_max_left ..
  have hfirstLine : first ≤ line := by omega
  have hlineLast : line ≤ last := by omega
  have hlastLength : last ≤ (Text.lines source).length := Nat.min_le_left ..
  obtain ⟨before, text, after, hshown, hbefore, hafter⟩ :=
    exists_lines hfirst hfirstLine hlineLast hlastLength
  have hstand : StandFrom (Text.lines source) first (before ++ text :: after) :=
    hshown ▸ (List.take_prefix _ _).drop _
  obtain ⟨above, below, htext, hrows, habove, hbelow⟩ :=
    rowsFrom_around hfirst hstand hbefore column
  refine ⟨above, text, below, htext, ?_, ?_, ?_⟩
  · calc
      rows source line column =
          rowsFrom line column first (((Text.lines source).take last).drop (first - 1)) := rfl
      _ = above ++ textRow line text :: caretRow line column :: below := by rw [hshown, hrows]
  · have hcount : line - 1 + 1 - first = before.length := by omega
    rw [numbers, hcount]
    exact habove
  · have hcount : last + 1 - (line + 1) = after.length := by omega
    rw [numbers, hcount]
    exact hbelow

/-- No line is left to be shown around a place behind the last line. -/
theorem showsLine_rows_of_lt {source : String} {line : Nat}
    (hlast : (Text.lines source).length < line) (column : Nat) :
    ∃ ns, List.Forall₂ (ShowsLine (Text.lines source)) ns (rows source line column) := by
  have hstand : StandFrom (Text.lines source) (max 1 (line - 2))
      (((Text.lines source).take (min (Text.lines source).length (line + 1))).drop
        (max 1 (line - 2) - 1)) :=
    (List.take_prefix _ _).drop _
  refine ⟨_, showsLine_rowsFrom (Nat.le_max_left ..) hstand (.inr ?_) column⟩
  rw [List.length_drop, List.length_take]
  omega

theorem not_mem_of_mem_rows {source : String} {line : Nat} (hline : 1 ≤ line) (column : Nat) :
    ∀ row ∈ rows source line column, '\n' ∉ row.toList := by
  by_cases hlast : line ≤ (Text.lines source).length
  · obtain ⟨above, text, below, htext, hrows, habove, hbelow⟩ := exists_rows hline hlast column
    rw [hrows, List.forall_mem_append, List.forall_mem_cons, List.forall_mem_cons]
    exact ⟨not_mem_of_forall₂ habove, (showsLine_textRow hline htext).not_mem,
      not_mem_caretRow line column, not_mem_of_forall₂ hbelow⟩
  · obtain ⟨ns, hrows⟩ := showsLine_rows_of_lt (Nat.lt_of_not_le hlast) column
    exact not_mem_of_forall₂ hrows

/-- An excerpt shows the lines from two before the line to one after it, as far as they are there,
and below the line a caret at the column. -/
theorem excerpt_laid_out {source : String} {line column : Nat} (hline : 1 ≤ line)
    (hlast : line ≤ (Text.lines source).length) (hcolumn : 1 ≤ column) :
    ∃ above row caret below, LaidOut (Text.lines source) line column above row caret below ∧
      excerpt source line column = printed (above ++ row :: caret :: below) := by
  obtain ⟨above, text, below, htext, hrows, habove, hbelow⟩ := exists_rows hline hlast column
  refine ⟨above, textRow line text, caretRow line column, below, ?_, ?_⟩
  · constructor
    case rows_above => exact habove
    case own_row => exact showsLine_textRow hline htext
    case caret_row => exact ⟨text, _, htext, pointsInto_caretRow line text hcolumn⟩
    case rows_below => exact hbelow
    case unbroken => exact hrows ▸ not_mem_of_mem_rows hline column
  · calc
      excerpt source line column = printed (rows source line column) := rfl
      _ = printed (above ++ textRow line text :: caretRow line column :: below) := by rw [hrows]

/-- The last of ten thousand empty lines, whose number takes more than four columns. -/
theorem excerpt_laid_out_wide :
    let source := String.ofList (List.replicate 10000 '\n')
    10000 ≤ (Text.lines source).length ∧
    ∃ above row caret below, LaidOut (Text.lines source) 10000 1 above row caret below ∧
      excerpt source 10000 1 = printed (above ++ row :: caret :: below) := by
  have hlast (count : Nat) :
      count ≤ (Text.lines (String.ofList (List.replicate count '\n'))).length := by
    rw [Text.length_lines, String.toList_ofList]
    obtain ⟨_, hlength⟩ | ⟨_, hlength⟩ := Text.length_lineChars (List.replicate count '\n')
    · rw [hlength, List.count_replicate_self]
    · rw [hlength, List.count_replicate_self]
      exact Nat.le_succ count
  exact ⟨hlast 10000, excerpt_laid_out (by decide) (hlast 10000) (by decide)⟩

example : excerpt "a\nbb\nccc\ndddd" 3 2 =
    "    1 | a\n    2 | bb\n    3 | ccc\n         ^\n    4 | dddd\n" := by decide

end DialogKit.Source
