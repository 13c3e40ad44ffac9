import DialogKit.Document.Source
import DialogKit.Proofs.Json.Values

/-!
# Documents are their text

A document that holds no floating point number and does not nest too deep is given back by its
interchange text, down to the order of its entries: reading and writing turn every whole number of
64 bits and every text into something that comes back as it was. So no two such documents share a
text. A floating point number may be off by its last bit when it is read back, and is left out here.
-/

namespace DialogKit

namespace Value

/-- Values without floating point numbers, with lists and maps nested at most `depth` deep, the
outermost one included. The keys of a map differ, as those of ordered entries always do. -/
inductive Exact : Nat → Value → Prop
  | null {depth : Nat} : Exact depth .null
  | bool {depth : Nat} (b : Bool) : Exact depth (.bool b)
  | int {depth : Nat} (i : Int64) : Exact depth (.int i)
  | str {depth : Nat} (s : String) : Exact depth (.str s)
  | list {depth : Nat} {items : List Value} (exact : ∀ item ∈ items, Exact depth item) :
      Exact (depth + 1) (.list items)
  | map {depth : Nat} {entries : List (String × Value)}
      (distinct : (Entries.keys entries).Nodup) (exact : ∀ entry ∈ entries, Exact depth entry.2) :
      Exact (depth + 1) (.map entries)

theorem toItems_eq (items : List Value) : toItems items = items.map toJson := by
  induction items with
  | nil => rfl
  | cons item items ih => rw [toItems, ih, List.map_cons]

theorem toEntries_eq (entries : List (String × Value)) :
    toEntries entries = entries.map fun entry ↦ (entry.1, entry.2.toJson) := by
  induction entries with
  | nil => rfl
  | cons entry entries ih => rw [toEntries, ih, List.map_cons]

theorem ofItems_eq (items : List Json) : ofItems items = items.map ofJson := by
  induction items with
  | nil => rfl
  | cons item items ih => rw [ofItems, ih, List.map_cons]

theorem ofEntries_eq (entries : List (String × Json)) :
    ofEntries entries = entries.map fun entry ↦ (entry.1, ofJson entry.2) := by
  induction entries with
  | nil => rfl
  | cons entry entries ih => rw [ofEntries, ih, List.map_cons]

/-- A whole number of 64 bits is written as one of the two kinds of whole numbers, and either is
taken for what it was. -/
theorem exact_ofInt (depth : Nat) (i : Int64) :
    (Json.ofInt i.toInt).Exact depth ∧ ofJson (Json.ofInt i.toInt) = .int i := by
  have hleast := i.le_toInt
  have hgreatest := i.toInt_lt
  by_cases hsign : 0 ≤ i.toInt
  · rw [Json.ofInt, if_pos hsign]
    refine ⟨.number trivial, ?_⟩
    have hnat : i.toInt.toNat.toUInt64.toNat = i.toInt.toNat := by
      rw [Nat.toUInt64_eq, UInt64.toNat_ofNat']
      omega
    have hlt : i.toInt.toNat < Nat.pow 2 63 := by
      have hpow : Nat.pow 2 63 = 9223372036854775808 := rfl
      omega
    have hback : Int64.ofNat i.toInt.toNat = i := by
      rw [← Int64.ofInt_eq_ofNat, Int.toNat_of_nonneg hsign, Int64.ofInt_toInt]
    simp only [Json.ofNat, ofJson, Json.Number.whole?, hnat, hlt, if_true, hback]
  · rw [Json.ofInt, if_neg hsign, Int64.ofInt_toInt]
    exact ⟨.number (Int.not_le.1 hsign), rfl⟩

theorem Exact.toJson {depth : Nat} {value : Value} (h : Exact depth value) :
    value.toJson.Exact depth := by
  induction h with
  | null => exact .null
  | bool b => exact .bool b
  | int i => exact (exact_ofInt _ i).1
  | str s => exact .string s
  | list _ ih =>
    rw [Value.toJson, toItems_eq]
    exact .array (List.forall_mem_map.2 ih)
  | @map depth entries distinct _ ih =>
    rw [Value.toJson, toEntries_eq]
    refine .object ?_ (List.forall_mem_map.2 ih)
    have hkeys : Entries.keys (entries.map fun entry ↦ (entry.1, entry.2.toJson)) =
        Entries.keys entries := List.map_map
    rwa [hkeys]

theorem Exact.ofJson_toJson {depth : Nat} {value : Value} (h : Exact depth value) :
    ofJson value.toJson = value := by
  induction h with
  | null | bool | str => rfl
  | int i => exact (exact_ofInt 0 i).2
  | list _ ih =>
    rw [Value.toJson, ofJson, toItems_eq, ofItems_eq, List.map_map]
    exact congrArg Value.list ((List.map_congr_left ih).trans (List.map_id _))
  | @map depth entries _ _ ih =>
    rw [Value.toJson, ofJson, toEntries_eq, ofEntries_eq, List.map_map]
    have hback : ∀ entry ∈ entries, (entry.1, ofJson entry.2.toJson) = id entry :=
      fun entry hentry ↦ Prod.ext rfl (ih entry hentry)
    exact congrArg Value.map ((List.map_congr_left hback).trans (List.map_id _))

end Value

namespace Document

theorem ofJsonText_toJsonText {d : Document} (h : d.toValue.Exact Json.depthLimit) :
    ofJsonText d.toJsonText = .ok d := by
  rw [ofJsonText, toJsonText, Json.parse_render h.toJson]
  simp only [h.ofJson_toJson]
  rfl

/-- A document is given back by its text, and shares it with no other one. -/
theorem reads_back {d : Document} (h : d.toValue.Exact 127) :
    ofJsonText d.toJsonText = .ok d ∧
    ∀ d' : Document, d'.toValue.Exact 127 → d'.toJsonText = d.toJsonText → d' = d := by
  refine ⟨ofJsonText_toJsonText h, fun d' h' htext ↦ ?_⟩
  have hsame : ofJsonText d.toJsonText = .ok d' := htext ▸ ofJsonText_toJsonText h'
  exact Except.ok.inj (hsame.symm.trans (ofJsonText_toJsonText h))

/-- The parts of a crowded document, in either order: a key with a quote in it and the empty key,
the least whole number, a character beyond 16 bits and a control character. -/
def crowded (turned : Bool) : Document :=
  let first := ("z\"", .list [.int Int64.minValue, .null, .bool true, .map []])
  let second := ("", .map [("b", .str "😀\x01"), ("a", .int 0)])
  ⟨if turned then [second, first] else [first, second]⟩

theorem exact_crowded (turned : Bool) : (crowded turned).toValue.Exact 127 := by
  have hfirst : Value.Exact 126 (.list [.int Int64.minValue, .null, .bool true, .map []]) :=
    .list (by simpa using ⟨.int _, .null, .bool _, .map List.nodup_nil (by simp)⟩)
  have hsecond : Value.Exact 126 (.map [("b", .str "😀\x01"), ("a", .int 0)]) :=
    .map (by decide) (by simpa using ⟨.str _, .int _⟩)
  cases turned with
  | true => exact .map (by decide) (by simpa [crowded] using ⟨hsecond, hfirst⟩)
  | false => exact .map (by decide) (by simpa [crowded] using ⟨hfirst, hsecond⟩)

/-- The order of the entries is part of the text. -/
theorem reads_back_crowded :
    (∀ turned, (crowded turned).toValue.Exact 127) ∧
    ofJsonText (crowded false).toJsonText = .ok (crowded false) ∧
    (crowded true).toJsonText ≠ (crowded false).toJsonText := by
  obtain ⟨hback, hsame⟩ := reads_back (exact_crowded false)
  refine ⟨exact_crowded, hback, fun htext ↦ ?_⟩
  have hentries := congrArg entries (hsame _ (exact_crowded true) htext)
  simp [crowded] at hentries

end Document

end DialogKit
