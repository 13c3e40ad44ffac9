import DialogKit.Command.Placeholder
import DialogKit.Entries
import DialogKit.Proofs.Text.Replace
import Mathlib.Data.List.Perm.Basic

/-!
# Tags are filled in at once

Tags are replaced one after the other, in a text that already holds what the earlier ones stand
for. If neither the pieces of a template nor the values have angle brackets or percent signs, this
is one substitution: no tag is found inside of a value, nor across the border of one, so that every
tag that has a value gives way to it and all else stays as it is, in whatever order the tags are
replaced.
-/

namespace DialogKit.Command

open Text

/-! ## Templates in pieces -/

/-- There are no signs that delimit tags or placeholders. -/
def Plain (s : String) : Prop :=
  ∀ c ∈ s.toList, c ≠ '<' ∧ c ≠ '>' ∧ c ≠ '%'

instance (s : String) : Decidable (Plain s) :=
  List.decidableBAll _ _

def bracketed (name : String) : String :=
  "<" ++ name ++ ">"

theorem toList_bracketed (name : String) :
    (bracketed name).toList = '<' :: (name.toList ++ ['>']) := by
  simp [bracketed]

inductive Piece where
  | text (s : String)
  | tag (name : String)

namespace Piece

def shown : Piece → String
  | text s => s
  | tag name => bracketed name

def Plain : Piece → Prop
  | text s => Command.Plain s
  | tag name => Command.Plain name

instance (piece : Piece) : Decidable piece.Plain :=
  match piece with
  | text s => inferInstanceAs (Decidable (Command.Plain s))
  | tag name => inferInstanceAs (Decidable (Command.Plain name))

/-- A tag that has a value gives way to it. -/
def fill (values : Entries String String) : Piece → Piece
  | text s => text s
  | tag name =>
      match values.get? name with
      | some value => text value
      | none => tag name

end Piece

/-- The template that the pieces make up. -/
def render : List Piece → String
  | [] => ""
  | piece :: pieces => piece.shown ++ render pieces

/-- What the names of tags stand for. -/
def values (v : Viewer) : Entries String String :=
  let x := intText (Viewer.block v.x)
  let y := intText (Viewer.block v.y)
  let z := intText (Viewer.block v.z)
  [("player", v.name), ("uuid", v.player.id.text), ("world", v.world), ("x", x), ("y", y),
    ("z", z), ("pos", x ++ " " ++ y ++ " " ++ z), ("gamemode", v.gamemode)]

/-- A replacement pass for each of the names. -/
def passes (values : Entries String String) : List (String × String) :=
  values.map fun entry ↦ (bracketed entry.1, entry.2)

theorem tags_eq_passes (v : Viewer) : tags v = passes (values v) := rfl

/-! ## Plain texts -/

theorem Plain.append {s t : String} (hs : Plain s) (ht : Plain t) : Plain (s ++ t) := by
  intro c hc
  rw [String.toList_append, List.mem_append] at hc
  exact hc.elim (hs c) (ht c)

theorem plain_uuid (id : Uuid) : Plain id.text := by
  have hdigit : ∀ n < 16, hexDigit n ≠ '<' ∧ hexDigit n ≠ '>' ∧ hexDigit n ≠ '%' := by decide
  have hdigits : ∀ c ∈ id.digits, c ≠ '<' ∧ c ≠ '>' ∧ c ≠ '%' := by
    intro c hc
    obtain ⟨place, -, rfl⟩ := List.mem_map.1 hc
    exact hdigit _ (Nat.mod_lt _ (by decide))
  intro c hc
  have hmem : c ∈ id.digits ∨ c = '-' := by
    simp only [Uuid.text, String.toList_ofList, List.mem_append, List.mem_cons] at hc
    have hgroup {start size : Nat} (h : c ∈ (id.digits.drop start).take size) : c ∈ id.digits :=
      List.mem_of_mem_drop (List.mem_of_mem_take h)
    tauto
  rcases hmem with hmem | rfl
  · exact hdigits c hmem
  · decide

theorem plain_intText (i : Int64) : Plain (intText i) := by
  have hdigits (n : Nat) : Plain n.repr := by
    intro c hc
    rw [Nat.toList_repr] at hc
    have hdigit : c.isDigit = true := Nat.isDigit_of_mem_toDigits (by decide) (by decide) hc
    refine ⟨?_, ?_, ?_⟩ <;> rintro rfl <;> exact absurd hdigit (by decide)
  rw [intText, Int.toString_eq_repr]
  cases i.toInt with
  | ofNat n => exact hdigits n
  | negSucc n => exact Plain.append (by decide) (hdigits (n + 1))

theorem plain_values {v : Viewer} (hname : Plain v.name) (hworld : Plain v.world)
    (hmode : Plain v.gamemode) : ∀ entry ∈ values v, Plain entry.1 ∧ Plain entry.2 := by
  have hx := plain_intText (Viewer.block v.x)
  have hy := plain_intText (Viewer.block v.y)
  have hz := plain_intText (Viewer.block v.z)
  have hblank : Plain " " := by decide
  have hpos := (((hx.append hblank).append hy).append hblank).append hz
  simp only [values, List.forall_mem_cons]
  refine ⟨⟨?_, hname⟩, ⟨?_, plain_uuid _⟩, ⟨?_, hworld⟩, ⟨?_, hx⟩, ⟨?_, hy⟩, ⟨?_, hz⟩, ⟨?_, hpos⟩,
    ⟨?_, hmode⟩, by simp⟩ <;> decide

theorem hasPlaceholder_render {pieces : List Piece} (h : ∀ piece ∈ pieces, piece.Plain) :
    hasPlaceholder (render pieces) = false := by
  have hshown (piece : Piece) (hpiece : piece.Plain) : '%' ∉ piece.shown.toList := by
    cases piece with
    | text s => exact fun hmem ↦ (hpiece _ hmem).2.2 rfl
    | tag name => simpa [Piece.shown, bracketed] using fun hmem ↦ (hpiece _ hmem).2.2 rfl
  have hrender : '%' ∉ (render pieces).toList := by
    induction pieces with
    | nil => simp [render]
    | cons piece pieces ih =>
      obtain ⟨hpiece, hpieces⟩ := List.forall_mem_cons.1 h
      rw [render, String.toList_append, List.mem_append, not_or]
      exact ⟨hshown piece hpiece, ih hpieces⟩
  rw [hasPlaceholder_eq]
  exact decide_eq_false hrender

/-! ## One pass -/

theorem eq_of_append_cons_eq {c : Char} {front front' back back' : List Char}
    (hfront : c ∉ front) (hfront' : c ∉ front')
    (h : front ++ c :: back = front' ++ c :: back') : front = front' := by
  have htake (cs rest : List Char) (hcs : c ∉ cs) :
      (cs ++ c :: rest).takeWhile (· ≠ c) = cs := by
    rw [List.takeWhile_append_of_pos]
    · simp
    · intro d hd
      simpa using ne_of_mem_of_not_mem hd hcs
  rw [← htake front back hfront, h, htake front' back' hfront']

/-- A tag of another name is no occurrence, and none starts inside of it. -/
theorem replaceFrom_tag_of_ne {name other : String} {value : List Char} (hname : Plain name)
    (hother : Plain other) (hne : name ≠ other) (back : List Char) :
    replaceFrom '<' (name.toList ++ ['>']) value 0 ((bracketed other).toList ++ back) =
      (bracketed other).toList ++ replaceFrom '<' (name.toList ++ ['>']) value 0 back := by
  have hinside : '<' ∉ other.toList ++ ['>'] := by
    simpa using fun hmem ↦ (hother _ hmem).1 rfl
  have hprefix :
      ¬ ('<' :: (name.toList ++ ['>'])) <+: ('<' :: (other.toList ++ ['>'] ++ back)) := by
    intro h
    obtain ⟨rest, hrest⟩ := (List.cons_prefix_cons.1 h).2
    apply hne
    apply String.toList_inj.1
    apply eq_of_append_cons_eq (fun hmem ↦ (hname _ hmem).2.1 rfl)
      (fun hmem ↦ (hother _ hmem).2.1 rfl)
    simpa using hrest
  rw [toList_bracketed, List.cons_append, replaceFrom_cons hprefix, replaceFrom_append hinside,
    List.cons_append]

theorem replaceFrom_shown {name value : String} (hname : Plain name) {piece : Piece}
    (hpiece : piece.Plain) (back : List Char) :
    replaceFrom '<' (name.toList ++ ['>']) value.toList 0 (piece.shown.toList ++ back) =
      (piece.fill [(name, value)]).shown.toList ++
        replaceFrom '<' (name.toList ++ ['>']) value.toList 0 back := by
  cases piece with
  | text s => exact replaceFrom_append (fun hmem ↦ (hpiece _ hmem).1 rfl) back
  | tag other =>
    by_cases hne : name = other
    · subst hne
      simp only [Piece.shown, Piece.fill, Entries.get?, if_true]
      rw [toList_bracketed]
      exact replaceFrom_part_append back
    · simp only [Piece.shown, Piece.fill, Entries.get?, hne, if_false]
      exact replaceFrom_tag_of_ne hname hpiece hne back

theorem replaceAll_render {name value : String} (hname : Plain name) {pieces : List Piece}
    (hpieces : ∀ piece ∈ pieces, piece.Plain) :
    replaceAll (bracketed name) value (render pieces) =
      render (pieces.map (Piece.fill [(name, value)])) := by
  have hfrom : replaceFrom '<' (name.toList ++ ['>']) value.toList 0 (render pieces).toList =
      (render (pieces.map (Piece.fill [(name, value)]))).toList := by
    induction pieces with
    | nil => rfl
    | cons piece pieces ih =>
      obtain ⟨hpiece, hpieces⟩ := List.forall_mem_cons.1 hpieces
      rw [render, String.toList_append, replaceFrom_shown hname hpiece, ih hpieces,
        List.map_cons, render, String.toList_append]
  rw [replaceAll, toList_bracketed]
  change String.ofList (replaceFrom '<' _ value.toList 0 _) = _
  rw [hfrom, String.ofList_toList]

/-! ## All passes -/

theorem plain_fill {values : Entries String String} (hvalues : ∀ entry ∈ values, Plain entry.2)
    {piece : Piece} (h : piece.Plain) : (piece.fill values).Plain := by
  cases piece with
  | text s => exact h
  | tag name =>
    simp only [Piece.fill]
    split
    case h_1 value hget => exact hvalues _ (Entries.mem_of_get? hget)
    case h_2 => exact h

theorem plain_map_fill {values : Entries String String}
    (hvalues : ∀ entry ∈ values, Plain entry.2) {pieces : List Piece}
    (hpieces : ∀ piece ∈ pieces, piece.Plain) :
    ∀ piece ∈ pieces.map (Piece.fill values), piece.Plain := by
  intro piece hmem
  obtain ⟨piece, hpiece, rfl⟩ := List.mem_map.1 hmem
  exact plain_fill hvalues (hpieces piece hpiece)

theorem fill_fill (entry : String × String) (values : Entries String String) (piece : Piece) :
    (piece.fill [entry]).fill values = piece.fill (entry :: values) := by
  cases piece with
  | text s => rfl
  | tag name =>
    by_cases h : entry.1 = name
    · simp [Piece.fill, Entries.get?, h]
    · simp [Piece.fill, Entries.get?, h]

/-- A tag that is filled in is a text to the passes after it. -/
theorem replaceEach_passes {values : Entries String String}
    (hvalues : ∀ entry ∈ values, Plain entry.1 ∧ Plain entry.2) {pieces : List Piece}
    (hpieces : ∀ piece ∈ pieces, piece.Plain) :
    replaceEach (passes values) (render pieces) = render (pieces.map (Piece.fill values)) := by
  induction values generalizing pieces with
  | nil =>
    have hfill : Piece.fill [] = id := by
      funext piece
      cases piece <;> rfl
    rw [hfill, List.map_id]
    rfl
  | cons entry values ih =>
    obtain ⟨hentry, hvalues⟩ := List.forall_mem_cons.1 hvalues
    have hfilled : ∀ piece ∈ pieces.map (Piece.fill [entry]), piece.Plain :=
      plain_map_fill (by simpa using hentry.2) hpieces
    calc
      replaceEach (passes (entry :: values)) (render pieces)
      _ = replaceEach (passes values) (replaceAll (bracketed entry.1) entry.2 (render pieces)) :=
        rfl
      _ = replaceEach (passes values) (render (pieces.map (Piece.fill [entry]))) := by
        rw [replaceAll_render hentry.1 hpieces]
      _ = render ((pieces.map (Piece.fill [entry])).map (Piece.fill values)) :=
        ih hvalues hfilled
      _ = render (pieces.map (Piece.fill (entry :: values))) := by
        simp only [List.map_map, Function.comp_def, fill_fill]

theorem replaceEach_of_perm {passes : List (String × String)} {values : Entries String String}
    (hperm : passes.Perm (Command.passes values)) (hkeys : values.keys.Nodup)
    (hvalues : ∀ entry ∈ values, Plain entry.1 ∧ Plain entry.2) {pieces : List Piece}
    (hpieces : ∀ piece ∈ pieces, piece.Plain) :
    replaceEach passes (render pieces) = render (pieces.map (Piece.fill values)) := by
  have hcomp : Relation.Comp (· = List.map (fun entry ↦ (bracketed entry.1, entry.2)) ·)
      List.Perm passes values := by
    rw [List.eq_map_comp_perm]
    exact hperm
  obtain ⟨order, rfl, horder⟩ := hcomp
  have hfill : Piece.fill order = Piece.fill values := by
    funext piece
    cases piece with
    | text s => rfl
    | tag name => simp only [Piece.fill, Entries.get?_eq_of_perm horder.symm hkeys]
  rw [← hfill]
  exact replaceEach_passes (fun entry hentry ↦ hvalues entry (horder.mem_iff.1 hentry)) hpieces

/-- A template of plain pieces is filled in by one substitution, whether the host expands further
placeholders or not. -/
theorem tags_fill_at_once {pieces : List Piece} (hpieces : ∀ piece ∈ pieces, piece.Plain)
    {v : Viewer} (hname : Plain v.name) (hworld : Plain v.world) (hmode : Plain v.gamemode)
    (p : Placeholders) :
    p.resolve (render pieces) (some v) = render (pieces.map (Piece.fill (values v))) ∧
      p.resolve (render pieces) none =
        render (pieces.map (Piece.fill [("player", consoleName)])) ∧
      ∀ passes : List (String × String), passes.Perm (tags v) →
        replaceEach passes (render pieces) = render (pieces.map (Piece.fill (values v))) := by
  have hvalues := plain_values hname hworld hmode
  have hkeys : (values v).keys.Nodup := by
    change ["player", "uuid", "world", "x", "y", "z", "pos", "gamemode"].Nodup
    decide
  have hfilled : ∀ piece ∈ pieces.map (Piece.fill (values v)), piece.Plain :=
    plain_map_fill (fun entry hentry ↦ (hvalues entry hentry).2) hpieces
  have hpasses (passes : List (String × String)) (hperm : passes.Perm (tags v)) :
      replaceEach passes (render pieces) = render (pieces.map (Piece.fill (values v))) := by
    rw [tags_eq_passes] at hperm
    exact replaceEach_of_perm hperm hkeys hvalues hpieces
  refine ⟨?_, ?_, hpasses⟩
  · have hexpand : p.expand v (render (pieces.map (Piece.fill (values v)))) =
        render (pieces.map (Piece.fill (values v))) := by
      unfold Placeholders.expand
      rw [hasPlaceholder_render hfilled]
      cases p.expansion <;> rfl
    simp only [Placeholders.resolve]
    rw [hpasses _ (.refl _), hexpand, hasPlaceholder_render hfilled]
    rfl
  · have hplayer : Plain "player" := by decide
    exact replaceAll_render hplayer hpieces

/-- A template with a tag that has no value. -/
def greeting : List Piece :=
  [.text "say ", .tag "player", .text " is ", .tag "mood", .text " in ", .tag "world"]

/-- A player whose name is that of a tag. -/
def guest : Viewer where
  player := ⟨Uuid.nil, some "world"⟩
  world := "nether"
  x := 0
  y := 64
  z := 0
  gamemode := "CREATIVE"

theorem tags_fill_at_once_greeting :
    (∀ piece ∈ greeting, piece.Plain) ∧ Plain guest.name ∧ Plain guest.world ∧
      Plain guest.gamemode ∧ (tags guest).reverse.Perm (tags guest) ∧
      Placeholders.resolve {} "say <player> is <mood> in <world>" (some guest) =
        "say world is <mood> in nether" ∧
      Placeholders.resolve {} "say <player> is <mood> in <world>" none =
        "say CONSOLE is <mood> in <world>" ∧
      replaceEach (tags guest).reverse "say <player> is <mood> in <world>" =
        "say world is <mood> in nether" := by
  have hpieces : ∀ piece ∈ greeting, piece.Plain := by decide
  have hname : Plain guest.name := by decide
  have hworld : Plain guest.world := by decide
  have hmode : Plain guest.gamemode := by decide
  have hperm : (tags guest).reverse.Perm (tags guest) := List.reverse_perm _
  obtain ⟨hviewer, hnone, hpasses⟩ := tags_fill_at_once hpieces hname hworld hmode {}
  have hfilled : render (greeting.map (Piece.fill (values guest))) =
      "say world is <mood> in nether" := by rfl
  refine ⟨hpieces, hname, hworld, hmode, hperm, ?_, ?_, ?_⟩
  · exact hviewer.trans hfilled
  · exact hnone.trans rfl
  · exact (hpasses _ hperm).trans hfilled

end DialogKit.Command
