import DialogKit.Proofs.Json.Strings

/-!
# Places of faults

Reading only goes forward, and the line of a place is counted by the line feeds before it. So every
fault of a document is reported on the line of some place in the text: on the first line or on one
that a line feed of the text begins, be it the empty one behind the last line feed.

Each reader is described by what it does to the place alone. It either goes on at a place ahead, or
meets a fault at such a place; the readers that are put together from others inherit this.
-/

namespace DialogKit.Json

namespace Cursor

/-- The second place is ahead of the first one, further down by the line feeds between them. -/
def Reaches (c after : Cursor) : Prop :=
  ∃ passed, c.rest = passed ++ after.rest ∧ after.line = c.line + passed.count '\n'

theorem Reaches.refl (c : Cursor) : c.Reaches c :=
  ⟨[], rfl, rfl⟩

theorem Reaches.trans {a b c : Cursor} (hab : a.Reaches b) (hbc : b.Reaches c) : a.Reaches c := by
  obtain ⟨front, hfront, hline⟩ := hab
  obtain ⟨back, hback, hline'⟩ := hbc
  refine ⟨front ++ back, ?_, ?_⟩
  · rw [hfront, hback, List.append_assoc]
  · rw [hline', hline, List.count_append, Nat.add_assoc]

theorem reaches_next (c : Cursor) : c.Reaches c.next := by
  obtain ⟨rest, line, column⟩ := c
  cases rest with
  | nil => exact .refl _
  | cons head rest =>
    by_cases hhead : head = '\n'
    · subst hhead
      exact ⟨['\n'], rfl, rfl⟩
    · have hnext : next ⟨head :: rest, line, column⟩ = ⟨rest, line, column + head.utf8Size⟩ := by
        unfold next
        split <;> simp_all
      rw [hnext]
      exact ⟨[head], rfl, by simp [hhead]⟩

theorem reaches_skip (count : Nat) (c : Cursor) : c.Reaches (c.skip count) := by
  induction count generalizing c with
  | zero => exact .refl c
  | succ count ih => exact (reaches_next c).trans (ih c.next)

theorem reaches_skipSpace (c : Cursor) : c.Reaches c.skipSpace :=
  reaches_skip _ c

/-- The fault is on the line of a place ahead. -/
def Meets (c : Cursor) (fault : Fault) : Prop :=
  ∃ after : Cursor, c.Reaches after ∧ fault.line = after.line

theorem meets_fault (c : Cursor) (cause : Cause) : c.Meets (c.fault cause) :=
  ⟨c, .refl c, rfl⟩

theorem meets_faultAhead (c : Cursor) (cause : Cause) : c.Meets (c.faultAhead cause) := by
  unfold faultAhead
  split
  case h_1 => exact meets_fault c cause
  case h_2 hrest =>
    have hline : c.next.line = c.line + 1 := by
      unfold next
      rw [hrest]
      rfl
    exact ⟨c.next, reaches_next c, hline.symm⟩
  case h_3 => exact ⟨c, .refl c, rfl⟩

theorem Reaches.meets {c after : Cursor} {fault : Fault} (h : c.Reaches after)
    (hfault : after.Meets fault) : c.Meets fault := by
  obtain ⟨last, hlast, hline⟩ := hfault
  exact ⟨last, h.trans hlast, hline⟩

theorem exists_of_skipBytes {bytes line column line' column' : Nat} {rest : List Char}
    (h : skipBytes bytes rest line column = some (line', column')) :
    ∃ passed after, rest = passed ++ after ∧ line' = line + passed.count '\n' := by
  induction rest generalizing bytes line column with
  | nil =>
    cases bytes with
    | zero =>
      obtain ⟨rfl, rfl⟩ : line = line' ∧ column = column' := by simpa [skipBytes] using h
      exact ⟨[], [], rfl, rfl⟩
    | succ bytes => simp [skipBytes] at h
  | cons head rest ih =>
    cases bytes with
    | zero =>
      obtain ⟨rfl, rfl⟩ : line = line' ∧ column = column' := by simpa [skipBytes] using h
      exact ⟨[], head :: rest, rfl, rfl⟩
    | succ bytes =>
      by_cases hhead : head = '\n'
      · subst hhead
        obtain ⟨passed, after, hrest, hline⟩ := ih (by simpa [skipBytes] using h)
        exact ⟨'\n' :: passed, after, by rw [hrest]; rfl, by simp; omega⟩
      · obtain ⟨passed, after, hrest, hline⟩ := ih (by simpa [skipBytes, hhead] using h)
        exact ⟨head :: passed, after, by rw [hrest]; rfl, by simp [hhead, hline]⟩

end Cursor

/-! ## Readers -/

/-- What is read leads to a place ahead, where reading ends, or to a fault on the line of one. -/
def Tracks {α : Type} (ends : α → Cursor) (c : Cursor) : Except Fault α → Prop
  | .ok value => c.Reaches (ends value)
  | .error fault => c.Meets fault

section

variable {α β : Type} {ends : α → Cursor} {ends' : β → Cursor} {c after : Cursor}

theorem Cursor.Reaches.tracks {x : Except Fault α} (h : c.Reaches after)
    (hx : Tracks ends after x) : Tracks ends c x := by
  cases x with
  | ok value => exact h.trans hx
  | error fault => exact h.meets hx

theorem Tracks.bind {x : Except Fault α} {f : α → Except Fault β} (hx : Tracks ends c x)
    (hf : ∀ value, Tracks ends' (ends value) (f value)) : Tracks ends' c (x >>= f) := by
  cases x with
  | ok value => exact Cursor.Reaches.tracks hx (hf value)
  | error fault => exact hx

/-- A value at the place reached. -/
theorem tracks_pure {value : α} (h : ends value = c) : Tracks ends c (pure value) := by
  subst h
  exact .refl _

theorem tracks_fault (cause : Cause) : Tracks ends c (.error (c.fault cause)) :=
  c.meets_fault cause

theorem tracks_faultAhead (cause : Cause) : Tracks ends c (.error (c.faultAhead cause)) :=
  c.meets_faultAhead cause

end

/-! ## Strings -/

theorem tracks_readUnit (c : Cursor) : Tracks Prod.snd c (readUnit c) := by
  have hend : c.Meets (c.atEnd.fault .endInString) :=
    (c.reaches_skip _).meets (Cursor.meets_fault _ _)
  unfold readUnit
  dsimp only
  split
  case h_1 =>
    split_ifs
    · exact c.reaches_skip 4
    · exact hend
  case h_2 =>
    split
    case h_1 line column hskip =>
      obtain ⟨passed, rest, hrest, hline⟩ := Cursor.exists_of_skipBytes hskip
      exact ⟨⟨rest, line, column⟩, ⟨passed, hrest, hline⟩, rfl⟩
    case h_2 => exact hend

theorem tracks_passPair (expected : Char) (c : Cursor) : Tracks id c (passPair expected c) := by
  unfold passPair
  split
  · exact tracks_fault _
  · split_ifs
    · exact c.reaches_next
    · exact tracks_faultAhead _

theorem tracks_readUnits (c : Cursor) : Tracks Prod.snd c (readUnits c) := by
  unfold readUnits
  refine (tracks_readUnit c).bind fun ⟨high, c⟩ ↦ ?_
  dsimp only
  split_ifs
  · exact tracks_fault _
  · exact tracks_pure rfl
  · refine (tracks_passPair '\\' c).bind fun c ↦ ?_
    refine (tracks_passPair 'u' c).bind fun c ↦ ?_
    refine (tracks_readUnit c).bind fun ⟨low, c⟩ ↦ ?_
    dsimp only
    split_ifs
    · exact tracks_fault _
    · exact tracks_pure rfl

theorem tracks_readEscape (c : Cursor) : Tracks Prod.snd c (readEscape c) := by
  unfold readEscape
  split
  case h_1 => exact tracks_fault _
  case h_10 => exact c.reaches_next.tracks (tracks_readUnits c.next)
  case h_11 => exact tracks_faultAhead _
  all_goals exact c.reaches_next

theorem tracks_readChars (bound : Nat) (c : Cursor) : Tracks Prod.snd c (readChars bound c) := by
  induction bound generalizing c with
  | zero => exact tracks_fault _
  | succ bound ih =>
    unfold readChars
    split
    · exact tracks_fault _
    · exact c.reaches_next
    · refine c.reaches_next.tracks ((tracks_readEscape c.next).bind fun ⟨head, c⟩ ↦ ?_)
      exact (ih c).bind fun _ ↦ tracks_pure rfl
    · split_ifs
      · exact tracks_faultAhead _
      · exact c.reaches_next.tracks ((ih c.next).bind fun _ ↦ tracks_pure rfl)

theorem tracks_readString (c : Cursor) : Tracks Prod.snd c (readString c) :=
  (tracks_readChars _ c).bind fun _ ↦ tracks_pure rfl

/-! ## Numbers -/

theorem tracks_finishReal (c : Cursor) (negative : Bool) (s : Significand) :
    Tracks Prod.snd c (finishReal c negative s) := by
  unfold finishReal
  split
  · exact tracks_pure rfl
  · exact tracks_fault _

theorem tracks_readExponent (c : Cursor) (negative : Bool) (s : Significand) :
    Tracks Prod.snd c (readExponent c negative s) := by
  unfold readExponent
  split
  case h_1 below after hsign =>
    have hafter : c.Reaches after := by
      split at hsign <;> obtain ⟨_, rfl⟩ := Prod.mk.inj hsign
      · exact c.reaches_next
      · exact c.reaches_next
      · exact .refl c
    refine hafter.tracks ?_
    dsimp only
    split
    · exact tracks_fault _
    · split
      · exact tracks_faultAhead _
      · split
        · exact (after.reaches_skip _).tracks (tracks_finishReal _ negative _)
        · split
          · exact (after.reaches_skip _).tracks (tracks_fault _)
          · exact after.reaches_skip _

theorem tracks_readTail (c : Cursor) (negative : Bool) (s : Significand) :
    Tracks Prod.snd c (readTail c negative s) := by
  unfold readTail
  split
  · exact c.reaches_next.tracks (tracks_readExponent c.next negative s)
  · exact c.reaches_next.tracks (tracks_readExponent c.next negative s)
  · exact tracks_finishReal c negative s

theorem tracks_readPlaces (c : Cursor) (negative : Bool) (s : Significand) :
    Tracks Prod.snd c (readPlaces c negative s) := by
  unfold readPlaces Cursor.passWhile
  dsimp only
  split
  · exact tracks_fault _
  · exact tracks_faultAhead _
  · exact (c.reaches_skip _).tracks (tracks_readTail _ negative _)

theorem tracks_readNumber (c : Cursor) (negative : Bool) :
    Tracks Prod.snd c (readNumber c negative) := by
  unfold readNumber Cursor.passWhile
  dsimp only
  generalize hafter : c.skip (c.rest.takeWhile Char.isDigit).length = after
  have hreaches : c.Reaches after := hafter ▸ c.reaches_skip _
  split
  · exact tracks_fault _
  · exact tracks_faultAhead _
  · exact c.reaches_next.tracks (tracks_faultAhead _)
  · refine hreaches.tracks ?_
    split
    · exact after.reaches_next.tracks (tracks_readPlaces after.next negative _)
    · exact after.reaches_next.tracks (tracks_readExponent after.next negative _)
    · exact after.reaches_next.tracks (tracks_readExponent after.next negative _)
    · split_ifs
      · exact tracks_pure rfl
      · exact tracks_finishReal after negative _

/-! ## Values -/

theorem tracks_readWord (word : List Char) (c : Cursor) : Tracks id c (readWord word c) := by
  induction word generalizing c with
  | nil => exact tracks_pure rfl
  | cons expected word ih =>
    unfold readWord
    split
    · exact tracks_fault _
    · split_ifs
      · exact c.reaches_next.tracks (ih c.next)
      · exact tracks_faultAhead _

/-- Where reading goes on, be it with a next part or behind the last one. -/
def goesOn (step : Option Cursor × Cursor) : Cursor :=
  step.1.getD step.2

theorem tracks_nextItem (first : Bool) (c : Cursor) : Tracks goesOn c (nextItem first c) := by
  unfold nextItem
  refine c.reaches_skipSpace.tracks ?_
  generalize c.skipSpace = c
  have hcomma : c.Reaches c.next.skipSpace := c.reaches_next.trans c.next.reaches_skipSpace
  dsimp only
  split
  · exact tracks_fault _
  · exact c.reaches_next
  · split_ifs
    · exact tracks_pure rfl
    · refine hcomma.tracks ?_
      split
      · exact tracks_fault _
      · exact tracks_faultAhead _
      · exact tracks_pure rfl
    · exact tracks_faultAhead _

theorem tracks_nextKey (first : Bool) (c : Cursor) : Tracks goesOn c (nextKey first c) := by
  unfold nextKey
  refine c.reaches_skipSpace.tracks ?_
  generalize c.skipSpace = c
  have hcomma : c.Reaches c.next.skipSpace := c.reaches_next.trans c.next.reaches_skipSpace
  dsimp only
  split
  · exact tracks_fault _
  · exact c.reaches_next
  · split_ifs
    · exact c.reaches_next
    · exact tracks_faultAhead _
    · refine hcomma.tracks ?_
      split
      · exact tracks_fault _
      · exact c.next.skipSpace.reaches_next
      · exact tracks_faultAhead _
      · exact tracks_faultAhead _
    · exact tracks_faultAhead _

theorem tracks_passColon (c : Cursor) : Tracks id c (passColon c) := by
  unfold passColon
  refine c.reaches_skipSpace.tracks ?_
  generalize c.skipSpace = c
  dsimp only
  split
  · exact tracks_fault _
  · exact c.reaches_next
  · exact tracks_faultAhead _

section

variable {item : Cursor → Except Fault (Json × Cursor)}
  (hitem : ∀ c, Tracks Prod.snd c (item c))

include hitem

theorem tracks_readItems (bound : Nat) (first : Bool) (c : Cursor) :
    Tracks Prod.snd c (readItems item bound first c) := by
  induction bound generalizing first c with
  | zero => exact tracks_fault _
  | succ bound ih =>
    unfold readItems
    refine (tracks_nextItem first c).bind fun ⟨part, last⟩ ↦ ?_
    cases part with
    | none => exact tracks_pure rfl
    | some c =>
      refine (hitem c).bind fun ⟨head, c⟩ ↦ ?_
      exact (ih false c).bind fun _ ↦ tracks_pure rfl

theorem tracks_readEntries (bound : Nat) (first : Bool) (c : Cursor) :
    Tracks Prod.snd c (readEntries item bound first c) := by
  induction bound generalizing first c with
  | zero => exact tracks_fault _
  | succ bound ih =>
    unfold readEntries
    refine (tracks_nextKey first c).bind fun ⟨part, last⟩ ↦ ?_
    cases part with
    | none => exact tracks_pure rfl
    | some c =>
      refine (tracks_readString c).bind fun ⟨key, c⟩ ↦ ?_
      refine (tracks_passColon c).bind fun c ↦ ?_
      refine (hitem c).bind fun ⟨value, c⟩ ↦ ?_
      exact (ih false c).bind fun _ ↦ tracks_pure rfl

end

/-- A value that lists or objects may be read in, if the values in them are. -/
theorem tracks_readValue_of_inner {depth : Nat}
    (hinner : ∀ inner, depth = inner + 1 → ∀ c, Tracks Prod.snd c (readValue inner c))
    (c : Cursor) : Tracks Prod.snd c (readValue depth c) := by
  unfold readValue
  refine c.reaches_skipSpace.tracks ?_
  generalize c.skipSpace = c
  have hnext := c.reaches_next
  dsimp only
  split
  case h_1 => exact tracks_fault _
  case h_2 => exact hnext.tracks ((tracks_readWord _ c.next).bind fun _ ↦ tracks_pure rfl)
  case h_3 => exact hnext.tracks ((tracks_readWord _ c.next).bind fun _ ↦ tracks_pure rfl)
  case h_4 => exact hnext.tracks ((tracks_readWord _ c.next).bind fun _ ↦ tracks_pure rfl)
  case h_5 => exact hnext.tracks ((tracks_readNumber c.next true).bind fun _ ↦ tracks_pure rfl)
  case h_6 => exact hnext.tracks ((tracks_readString c.next).bind fun _ ↦ tracks_pure rfl)
  case h_7 =>
    split
    · exact tracks_faultAhead _
    · refine hnext.tracks ((tracks_readItems (hinner _ rfl) _ true c.next).bind fun _ ↦ ?_)
      exact tracks_pure rfl
  case h_8 =>
    split
    · exact tracks_faultAhead _
    · refine hnext.tracks ((tracks_readEntries (hinner _ rfl) _ true c.next).bind fun _ ↦ ?_)
      exact tracks_pure rfl
  case h_9 =>
    split_ifs
    · exact (tracks_readNumber c false).bind fun _ ↦ tracks_pure rfl
    · exact tracks_faultAhead _

theorem tracks_readValue (depth : Nat) (c : Cursor) : Tracks Prod.snd c (readValue depth c) := by
  induction depth generalizing c with
  | zero => exact tracks_readValue_of_inner (fun _ h ↦ absurd h (Nat.succ_ne_zero _).symm) c
  | succ depth ih => exact tracks_readValue_of_inner (fun _ h ↦ Nat.succ.inj h ▸ ih) c

theorem meets_of_finish {c : Cursor} {fault : Fault} (h : finish c = .error fault) :
    c.Meets fault := by
  unfold finish at h
  dsimp only at h
  split at h
  · cases h
  · obtain rfl := Except.error.inj h
    exact c.reaches_skipSpace.meets (Cursor.meets_faultAhead _ _)

theorem meets_of_parse {source : String} {fault : Fault} (h : parse source = .error fault) :
    (Cursor.start source).Meets fault := by
  have htracks := tracks_readValue depthLimit (Cursor.start source)
  unfold parse at h
  cases hread : readValue depthLimit (Cursor.start source) with
  | error first =>
    rw [hread] at h htracks
    obtain rfl : first = fault := Except.error.inj h
    exact htracks
  | ok found =>
    obtain ⟨value, c⟩ := found
    rw [hread] at h htracks
    cases hfinish : finish c with
    | ok => simp [bind, Except.bind, hfinish, pure, Except.pure] at h
    | error last =>
      obtain rfl : last = fault := by simpa [bind, Except.bind, hfinish] using h
      exact Cursor.Reaches.meets htracks (meets_of_finish hfinish)

/-- A document is faulted on one of the lines that its line feeds divide it into. -/
theorem line_of_parse {source : String} {fault : Fault} (h : parse source = .error fault) :
    ∃ passed rest, source.toList = passed ++ rest ∧ fault.line = 1 + passed.count '\n' := by
  obtain ⟨after, ⟨passed, hrest, hline⟩, hfault⟩ := meets_of_parse h
  exact ⟨passed, after.rest, hrest, hfault.trans hline⟩

end DialogKit.Json
