import DialogKit.Proofs.Json.Numbers

/-!
# Values in interchange text

The reader takes back every value from what the writer makes of it, as long as its numbers are
whole, the keys of an object differ, and lists and objects do not nest too deep. The text of a value
says by its first character what kind of value it is, and the text of a list or an object is read
part by part: a part, a comma, the next part, and at last the closing character.
-/

namespace DialogKit.Json

/-- Values that are given back by their text, with lists and objects nested at most `depth` deep. -/
inductive Exact : Nat → Json → Prop
  | null {depth : Nat} : Exact depth .null
  | bool {depth : Nat} (b : Bool) : Exact depth (.bool b)
  | number {depth : Nat} {n : Number} (whole : n.Whole) : Exact depth (.number n)
  | string {depth : Nat} (s : String) : Exact depth (.string s)
  | array {depth : Nat} {items : List Json} (exact : ∀ item ∈ items, Exact depth item) :
      Exact (depth + 1) (.array items)
  | object {depth : Nat} {entries : List (String × Json)}
      (distinct : (Entries.keys entries).Nodup) (exact : ∀ entry ∈ entries, Exact depth entry.2) :
      Exact (depth + 1) (.object entries)

/-! ## Parts -/

/-- The parts of a list or an object, from the first one on or behind others. -/
def partChars (first : Bool) (parts : List (List Char)) : List Char :=
  if first then joinParts parts else parts.flatMap (',' :: ·)

theorem partChars_nil (first : Bool) : partChars first [] = [] := by
  cases first <;> rfl

theorem joinParts_cons (part : List Char) (rest : List (List Char)) :
    joinParts (part :: rest) = part ++ partChars false rest := by
  induction rest generalizing part with
  | nil => simp [joinParts, partChars]
  | cons next rest ih =>
    have hjoin : joinParts (part :: next :: rest) = part ++ ',' :: joinParts (next :: rest) := rfl
    rw [hjoin, ih]
    simp [partChars]

/-- The comma in front of a part, unless it is the first one. -/
def separator (first : Bool) : List Char :=
  if first then [] else [',']

theorem partChars_cons (first : Bool) (part : List Char) (rest : List (List Char)) :
    partChars first (part :: rest) = separator first ++ (part ++ partChars false rest) := by
  cases first with
  | true => exact joinParts_cons part rest
  | false => simp [partChars, separator]

theorem length_le_partChars (first : Bool) {parts : List (List Char)}
    (h : ∀ part ∈ parts, part ≠ []) : parts.length ≤ (partChars first parts).length := by
  induction parts generalizing first with
  | nil => simp
  | cons part parts ih =>
    obtain ⟨hpart, hparts⟩ := List.forall_mem_cons.1 h
    have hrest := ih false hparts
    have hlength := List.length_pos_iff.2 hpart
    rw [partChars_cons, List.length_cons, List.length_append, List.length_append]
    omega

/-- The text of a list or an object is long enough for a round of the loop for each part. -/
theorem length_lt_of_parts {parts : List (List Char)} (h : ∀ part ∈ parts, part ≠ [])
    (opening close : Char) (rest : List Char) :
    parts.length < (opening :: (joinParts parts ++ close :: rest)).length + 1 := by
  have hparts : parts.length ≤ (joinParts parts).length := length_le_partChars true h
  rw [List.length_cons, List.length_append, List.length_cons]
  omega

section

variable {α : Type} {loop : Nat → Bool → Cursor → Except Fault (List α × Cursor)}

/-- In one round the loop reads a part and goes on with the rest. -/
def TakesPart (loop : Nat → Bool → Cursor → Except Fault (List α × Cursor)) (bound : Nat)
    (first : Bool) (c : Cursor) (part : α) (rest : List Char) : Prop :=
  ∃ after : Cursor, after.rest = rest ∧ loop (bound + 1) first c =
    (loop bound false after).map fun (tail, last) ↦ (part :: tail, last)

/-- A loop that takes the parts one by one and stops at the closing character reads them all. -/
theorem yields_parts {text : α → List Char} {close : Char} (hclose : close = ']' ∨ close = '}')
    (hend : ∀ bound first c rest, c.rest = close :: rest → Yields (loop (bound + 1) first) c [] rest)
    {parts : List α}
    (hpart : ∀ part ∈ parts, ∀ bound first c rest,
      c.rest = separator first ++ (text part ++ rest) → Closed rest →
        TakesPart loop bound first c part rest)
    {bound : Nat} (hbound : parts.length < bound) {first : Bool} {c : Cursor} {rest : List Char}
    (hrest : c.rest = partChars first (parts.map text) ++ close :: rest) :
    Yields (loop bound first) c parts rest := by
  induction parts generalizing bound first c with
  | nil =>
    obtain ⟨bound, rfl⟩ := Nat.exists_eq_succ_of_ne_zero (Nat.ne_of_gt hbound)
    rw [List.map_nil, partChars_nil, List.nil_append] at hrest
    exact hend bound first c rest hrest
  | cons part parts ih =>
    obtain ⟨bound, rfl⟩ := Nat.exists_eq_succ_of_ne_zero (Nat.ne_of_gt (Nat.zero_lt_of_lt hbound))
    obtain ⟨htake, hparts⟩ := List.forall_mem_cons.1 hpart
    have hclosed : Closed (partChars false (parts.map text) ++ close :: rest) := by
      cases parts with
      | nil => exact closed_cons (.inr hclose) rest
      | cons next parts => exact closed_cons (.inl rfl) _
    rw [List.map_cons, partChars_cons, List.append_assoc, List.append_assoc] at hrest
    obtain ⟨next, hnext, hread⟩ := htake bound first c _ hrest hclosed
    obtain ⟨after, hafter, hyields⟩ := ih hparts (Nat.lt_of_succ_lt_succ hbound) hnext
    refine ⟨after, hafter, ?_⟩
    rw [hread, hyields]
    rfl

end

/-! ## Blanks -/

/-- Where no blank stands, none is passed. -/
theorem skipSpace_eq_self {c : Cursor} (h : ∀ ch ∈ c.rest.head?, Cursor.isSpace ch = false) :
    c.skipSpace = c := by
  have htake : c.rest.takeWhile Cursor.isSpace = [] := by
    cases hrest : c.rest with
    | nil => rfl
    | cons ch rest => exact List.takeWhile_cons_of_neg (by simp [h ch (by rw [hrest]; rfl)])
  rw [Cursor.skipSpace, Cursor.passWhile, htake]
  rfl

theorem skipSpace_of_rest {c : Cursor} {ch : Char} {tail : List Char} (h : c.rest = ch :: tail)
    (hspace : Cursor.isSpace ch = false) : c.skipSpace = c :=
  skipSpace_eq_self fun ch' hch' ↦ by
    rw [h] at hch'
    obtain rfl := Option.some.inj hch'
    exact hspace

/-- A text that starts a value: with a character that is no blank and does not end a list. -/
def Opens (text : List Char) : Prop :=
  ∃ ch tail, text = ch :: tail ∧ Cursor.isSpace ch = false ∧ ch ≠ ']'

theorem Opens.ne_nil {text : List Char} (h : Opens text) : text ≠ [] := by
  obtain ⟨ch, tail, rfl, _⟩ := h
  exact List.cons_ne_nil ch tail

theorem isSpace_of_isDigit {ch : Char} (h : ch.isDigit = true) : Cursor.isSpace ch = false := by
  rw [← Bool.not_eq_true]
  intro hspace
  simp only [Cursor.isSpace, Bool.or_eq_true, beq_iff_eq] at hspace
  rcases hspace with ((rfl | rfl) | rfl) | rfl <;> exact absurd h (by decide)

theorem exists_toDigits_cons (n : Nat) :
    ∃ ch tail, Nat.toDigits 10 n = ch :: tail ∧ ch.isDigit = true := by
  obtain ⟨ch, tail, hdigits⟩ := List.exists_cons_of_ne_nil (Nat.toDigits_ne_nil (b := 10) (n := n))
  exact ⟨ch, tail, hdigits, isDigit_of_mem_toDigits (n := n) (by simp [hdigits])⟩

theorem opens_chars {depth : Nat} {value : Json} (h : Exact depth value) : Opens (chars value) := by
  cases h with
  | null => exact ⟨_, _, rfl, rfl, by decide⟩
  | bool b => cases b <;> exact ⟨_, _, rfl, rfl, by decide⟩
  | string s => exact ⟨_, _, rfl, rfl, by decide⟩
  | array _ => exact ⟨_, _, rfl, rfl, by decide⟩
  | object _ _ => exact ⟨_, _, rfl, rfl, by decide⟩
  | @number _ n whole =>
    rw [chars]
    cases n with
    | natural n =>
      obtain ⟨ch, tail, hdigits, hdigit⟩ := exists_toDigits_cons n.toNat
      refine ⟨ch, tail, by rw [text_natural, hdigits], isSpace_of_isDigit hdigit, ?_⟩
      rintro rfl
      exact absurd hdigit (by decide)
    | negative i => exact ⟨_, _, text_negative whole, rfl, by decide⟩
    | real x => exact whole.elim

/-! ## Lists and objects -/

theorem nextItem_end {c : Cursor} {rest : List Char} (hrest : c.rest = ']' :: rest) (first : Bool) :
    nextItem first c = .ok (none, c.next) := by
  simp only [nextItem, skipSpace_of_rest hrest rfl, hrest]

theorem nextItem_part {first : Bool} {c : Cursor} {text : List Char} (hopens : Opens text)
    (hrest : c.rest = separator first ++ text) :
    ∃ at_ before : Cursor, at_.rest = text ∧ nextItem first c = .ok (some at_, before) := by
  obtain ⟨ch, tail, rfl, hspace, hne⟩ := hopens
  cases first with
  | true =>
    have hhead : c.rest = ch :: tail := hrest
    refine ⟨c, c, hhead, ?_⟩
    simp [nextItem, skipSpace_of_rest hhead hspace, hhead]
  | false =>
    have hcomma : c.rest = ',' :: ch :: tail := hrest
    have hnext : c.next.rest = ch :: tail := by rw [Cursor.rest_next, hcomma, List.tail_cons]
    refine ⟨c.next, c.next, hnext, ?_⟩
    simp [nextItem, skipSpace_of_rest hcomma rfl, hcomma, skipSpace_of_rest hnext hspace]

theorem nextKey_end {c : Cursor} {rest : List Char} (hrest : c.rest = '}' :: rest) (first : Bool) :
    nextKey first c = .ok (none, c.next) := by
  simp only [nextKey, skipSpace_of_rest hrest rfl, hrest]

theorem nextKey_part {first : Bool} {c : Cursor} {text : List Char}
    (hrest : c.rest = separator first ++ '"' :: text) :
    ∃ at_ before : Cursor, at_.rest = text ∧ nextKey first c = .ok (some at_, before) := by
  cases first with
  | true =>
    have hhead : c.rest = '"' :: text := hrest
    refine ⟨c.next, c, by rw [Cursor.rest_next, hhead, List.tail_cons], ?_⟩
    simp [nextKey, skipSpace_of_rest hhead rfl, hhead]
  | false =>
    have hcomma : c.rest = ',' :: '"' :: text := hrest
    have hnext : c.next.rest = '"' :: text := by rw [Cursor.rest_next, hcomma, List.tail_cons]
    refine ⟨c.next.next, c.next, by rw [Cursor.rest_next, hnext, List.tail_cons], ?_⟩
    simp [nextKey, skipSpace_of_rest hcomma rfl, hcomma, skipSpace_of_rest hnext rfl]

theorem itemParts_eq (items : List Json) : itemParts items = items.map chars := by
  induction items with
  | nil => rfl
  | cons item items ih => rw [itemParts, ih, List.map_cons]

/-- The text of an entry of an object. -/
def entryChars (entry : String × Json) : List Char :=
  stringChars entry.1 ++ ':' :: chars entry.2

theorem entryParts_eq (entries : List (String × Json)) :
    entryParts entries = entries.map entryChars := by
  induction entries with
  | nil => rfl
  | cons entry entries ih =>
    obtain ⟨key, value⟩ := entry
    rw [entryParts, ih, List.map_cons]
    rfl

section

variable {item : Cursor → Except Fault (Json × Cursor)}

/-- At a cursor, the item of a list or an object is read from its text. -/
def ReadsBack (item : Cursor → Except Fault (Json × Cursor)) (value : Json) : Prop :=
  ∀ c rest, c.rest = chars value ++ rest → Closed rest → Yields item c value rest

theorem takesPart_readItems {value : Json} (hopens : Opens (chars value))
    (hread : ReadsBack item value) {bound : Nat} {first : Bool} {c : Cursor} {rest : List Char}
    (hrest : c.rest = separator first ++ (chars value ++ rest)) (hclosed : Closed rest) :
    TakesPart (readItems item) bound first c value rest := by
  have hopens' : Opens (chars value ++ rest) := by
    obtain ⟨ch, tail, htext, hch⟩ := hopens
    exact ⟨ch, tail ++ rest, by rw [htext, List.cons_append], hch⟩
  obtain ⟨at_, before, hat, hnext⟩ := nextItem_part hopens' hrest
  obtain ⟨after, hafter, hvalue⟩ := hread at_ rest hat hclosed
  refine ⟨after, hafter, ?_⟩
  rw [readItems, hnext]
  simp only [bind, Except.bind, hvalue]
  rfl

theorem takesPart_readEntries {entry : String × Json} (hread : ReadsBack item entry.2)
    {bound : Nat} {first : Bool} {c : Cursor} {rest : List Char}
    (hrest : c.rest = separator first ++ (entryChars entry ++ rest)) (hclosed : Closed rest) :
    TakesPart (readEntries item) bound first c entry rest := by
  have htext : c.rest = separator first ++
      '"' :: ((stringChars entry.1).tail ++ (':' :: (chars entry.2 ++ rest))) := by
    rw [hrest, entryChars, List.append_assoc]
    rfl
  obtain ⟨at_, before, hat, hnext⟩ := nextKey_part htext
  obtain ⟨colon, hcolon, hkey⟩ := readString_stringChars entry.1 hat
  have hpass : passColon colon = .ok colon.next := by
    simp only [passColon, skipSpace_of_rest hcolon rfl, hcolon]
  obtain ⟨after, hafter, hvalue⟩ := hread colon.next rest (by rw [Cursor.rest_next, hcolon,
    List.tail_cons]) hclosed
  refine ⟨after, hafter, ?_⟩
  rw [readEntries, hnext]
  simp only [bind, Except.bind, hkey, hpass, hvalue]
  rfl

theorem readItems_chars {items : List Json} (hopens : ∀ value ∈ items, Opens (chars value))
    (hread : ∀ value ∈ items, ReadsBack item value) {bound : Nat} (hbound : items.length < bound)
    {c : Cursor} {rest : List Char}
    (hrest : c.rest = joinParts (itemParts items) ++ ']' :: rest) :
    Yields (readItems item bound true) c items rest := by
  rw [itemParts_eq] at hrest
  refine yields_parts (.inl rfl) (fun bound first c rest hend ↦ ?_)
    (fun value hvalue bound first c rest ↦
      takesPart_readItems (hopens value hvalue) (hread value hvalue)) hbound hrest
  refine ⟨c.next, by rw [Cursor.rest_next, hend, List.tail_cons], ?_⟩
  rw [readItems, nextItem_end hend]
  rfl

theorem readEntries_chars {entries : List (String × Json)}
    (hread : ∀ entry ∈ entries, ReadsBack item entry.2) {bound : Nat}
    (hbound : entries.length < bound) {c : Cursor} {rest : List Char}
    (hrest : c.rest = joinParts (entryParts entries) ++ '}' :: rest) :
    Yields (readEntries item bound true) c entries rest := by
  rw [entryParts_eq] at hrest
  refine yields_parts (.inr rfl) (fun bound first c rest hend ↦ ?_)
    (fun entry hentry bound first c rest ↦ takesPart_readEntries (hread entry hentry)) hbound hrest
  refine ⟨c.next, by rw [Cursor.rest_next, hend, List.tail_cons], ?_⟩
  rw [readEntries, nextKey_end hend]
  rfl

end

/-! ## Values -/

theorem readWord_append (word : List Char) {c : Cursor} {rest : List Char}
    (hrest : c.rest = word ++ rest) :
    ∃ after : Cursor, after.rest = rest ∧ readWord word c = .ok after := by
  induction word generalizing c with
  | nil => exact ⟨c, hrest, rfl⟩
  | cons ch word ih =>
    have hnext : c.next.rest = word ++ rest := by
      rw [Cursor.rest_next, hrest, List.cons_append, List.tail_cons]
    obtain ⟨after, hafter, hread⟩ := ih hnext
    refine ⟨after, hafter, ?_⟩
    rw [readWord, hrest]
    simpa using hread

theorem readWord_next {ch : Char} {word : List Char} {c : Cursor} {rest : List Char}
    (hrest : c.rest = ch :: (word ++ rest)) :
    ∃ after : Cursor, after.rest = rest ∧ readWord word c.next = .ok after :=
  readWord_append word (by rw [Cursor.rest_next, hrest, List.tail_cons])

theorem readsBack_bool (depth : Nat) (b : Bool) : ReadsBack (readValue depth) (.bool b) := by
  intro c rest hrest _
  cases b with
  | true =>
    have hhead : c.rest = 't' :: (['r', 'u', 'e'] ++ rest) := hrest
    obtain ⟨after, hafter, hword⟩ := readWord_next hhead
    refine ⟨after, hafter, ?_⟩
    unfold readValue
    simp only [skipSpace_of_rest hhead rfl, hhead, hword]
    rfl
  | false =>
    have hhead : c.rest = 'f' :: (['a', 'l', 's', 'e'] ++ rest) := hrest
    obtain ⟨after, hafter, hword⟩ := readWord_next hhead
    refine ⟨after, hafter, ?_⟩
    unfold readValue
    simp only [skipSpace_of_rest hhead rfl, hhead, hword]
    rfl

/-- A digit starts a number without a sign. -/
theorem readValue_of_isDigit {depth : Nat} {ch : Char} (hdigit : ch.isDigit = true) {c : Cursor}
    {tail : List Char} (hrest : c.rest = ch :: tail) :
    readValue depth c = (readNumber c false).map fun (n, after) ↦ (.number n, after) := by
  unfold readValue
  simp only [skipSpace_of_rest hrest (isSpace_of_isDigit hdigit), hrest]
  split
  case h_1 heq => exact nomatch heq
  case h_9 heq =>
    obtain ⟨rfl, rfl⟩ := List.cons.inj heq
    rw [if_pos hdigit]
    cases readNumber c false <;> rfl
  all_goals
    next heq =>
      obtain ⟨rfl, _⟩ := List.cons.inj heq
      exact absurd hdigit (by decide)

theorem readsBack_number (depth : Nat) {n : Number} (whole : n.Whole) :
    ReadsBack (readValue depth) (.number n) := by
  intro c rest hrest hclosed
  rw [chars] at hrest
  cases n with
  | natural n =>
    rw [text_natural] at hrest
    obtain ⟨after, hafter, hread⟩ := readNumber_natural n hrest hclosed
    obtain ⟨ch, tail, hdigits, hdigit⟩ := exists_toDigits_cons n.toNat
    rw [hdigits, List.cons_append] at hrest
    refine ⟨after, hafter, ?_⟩
    dsimp only at hread
    rw [readValue_of_isDigit hdigit hrest, hread]
    rfl
  | negative i =>
    rw [text_negative whole, List.cons_append] at hrest
    obtain ⟨after, hafter, hread⟩ := readNumber_negative whole (c := c.next)
      (by rw [Cursor.rest_next, hrest, List.tail_cons]) hclosed
    refine ⟨after, hafter, ?_⟩
    unfold readValue
    simp only [skipSpace_of_rest hrest rfl, hrest, hread]
    rfl
  | real x => exact whole.elim

/-- Every value is read from its text, and what stands behind it is left. -/
theorem readsBack_of_exact {depth : Nat} {value : Json} (h : Exact depth value) :
    ReadsBack (readValue depth) value := by
  induction h with
  | null =>
    intro c rest hrest _
    have hhead : c.rest = 'n' :: (['u', 'l', 'l'] ++ rest) := hrest
    obtain ⟨after, hafter, hword⟩ := readWord_next hhead
    refine ⟨after, hafter, ?_⟩
    unfold readValue
    simp only [skipSpace_of_rest hhead rfl, hhead, hword]
    rfl
  | bool b => exact readsBack_bool _ b
  | number whole => exact readsBack_number _ whole
  | string s =>
    intro c rest hrest _
    have hhead : c.rest = '"' :: ((stringChars s).tail ++ rest) := hrest
    have hnext : c.next.rest = (stringChars s).tail ++ rest := by
      rw [Cursor.rest_next, hhead, List.tail_cons]
    obtain ⟨after, hafter, hread⟩ := readString_stringChars s hnext
    refine ⟨after, hafter, ?_⟩
    unfold readValue
    simp only [skipSpace_of_rest hhead rfl, hhead, hread]
    rfl
  | @array depth items exact ih =>
    intro c rest hrest _
    have hhead : c.rest = '[' :: (joinParts (itemParts items) ++ ']' :: rest) := by
      rw [hrest, chars]
      simp
    have hopens : ∀ value ∈ items, Opens (chars value) := fun value hvalue ↦
      opens_chars (exact value hvalue)
    have hparts : ∀ part ∈ itemParts items, part ≠ [] := by
      rw [itemParts_eq]
      exact List.forall_mem_map.2 fun value hvalue ↦ (hopens value hvalue).ne_nil
    have hbound := length_lt_of_parts hparts '[' ']' rest
    rw [itemParts_eq, List.length_map, ← itemParts_eq] at hbound
    have hnext : c.next.rest = joinParts (itemParts items) ++ ']' :: rest := by
      rw [Cursor.rest_next, hhead, List.tail_cons]
    obtain ⟨after, hafter, hread⟩ := readItems_chars hopens ih hbound hnext
    refine ⟨after, hafter, ?_⟩
    unfold readValue
    simp only [skipSpace_of_rest hhead rfl, hhead, hread]
    rfl
  | @object depth entries distinct exact ih =>
    intro c rest hrest _
    have hhead : c.rest = '{' :: (joinParts (entryParts entries) ++ '}' :: rest) := by
      rw [hrest, chars]
      simp
    have hparts : ∀ part ∈ entryParts entries, part ≠ [] := by
      rw [entryParts_eq]
      exact List.forall_mem_map.2 fun entry _ ↦ nofun
    have hbound := length_lt_of_parts hparts '{' '}' rest
    rw [entryParts_eq, List.length_map, ← entryParts_eq] at hbound
    have hnext : c.next.rest = joinParts (entryParts entries) ++ '}' :: rest := by
      rw [Cursor.rest_next, hhead, List.tail_cons]
    obtain ⟨after, hafter, hread⟩ := readEntries_chars ih hbound hnext
    refine ⟨after, hafter, ?_⟩
    unfold readValue
    simp only [skipSpace_of_rest hhead rfl, hhead, hread]
    simp only [bind, Except.bind, pure, Except.pure, Entries.ofList_eq_self distinct]

/-- A document gives its value back. -/
theorem parse_render {value : Json} (h : Exact depthLimit value) :
    parse (render value) = .ok value := by
  have hstart : (Cursor.start (render value)).rest = chars value ++ [] := by
    rw [List.append_nil]
    exact String.toList_ofList
  obtain ⟨after, hafter, hread⟩ := readsBack_of_exact h _ [] hstart closed_nil
  have hspace : after.skipSpace = after := skipSpace_eq_self (by simp [hafter])
  have hfinish : finish after = .ok () := by
    simp only [finish, hspace, hafter]
    rfl
  rw [parse, hread]
  simp only [bind, Except.bind, hfinish]
  rfl

end DialogKit.Json
