/-!
# Ordered entries

A list of entries in the order in which their keys first came. Writing to a known key replaces its
value where it stands; a new key goes to the end; removing a key keeps the order of the rest.
-/

namespace DialogKit

universe u v

/-- Keys with their values, in order; each operation keeps the keys distinct. -/
abbrev Entries (κ : Type u) (α : Type v) := List (κ × α)

namespace Entries

variable {κ : Type u} {α : Type v} [DecidableEq κ]

def get? (key : κ) : Entries κ α → Option α
  | [] => none
  | (k, value) :: rest => if k = key then some value else get? key rest

def insert (key : κ) (value : α) : Entries κ α → Entries κ α
  | [] => [(key, value)]
  | (k, old) :: rest => if k = key then (key, value) :: rest else (k, old) :: insert key value rest

def erase (key : κ) : Entries κ α → Entries κ α
  | [] => []
  | (k, value) :: rest => if k = key then rest else (k, value) :: erase key rest

/-- The entries written one after the other. -/
def ofList (pairs : List (κ × α)) : Entries κ α :=
  pairs.foldl (fun entries pair ↦ insert pair.1 pair.2 entries) []

def keys (entries : Entries κ α) : List κ :=
  entries.map Prod.fst

def hasKey (key : κ) (entries : Entries κ α) : Bool :=
  (get? key entries).isSome

omit [DecidableEq κ] in
@[simp] theorem keys_cons (key : κ) (value : α) (rest : Entries κ α) :
    keys ((key, value) :: rest) = key :: keys rest := rfl

@[simp] theorem get?_nil (key : κ) : get? key ([] : Entries κ α) = none := rfl

theorem get?_insert_self (key : κ) (value : α) (entries : Entries κ α) :
    get? key (insert key value entries) = some value := by
  induction entries with
  | nil => simp [insert, get?]
  | cons entry rest ih =>
    obtain ⟨k, old⟩ := entry
    by_cases h : k = key <;> simp [insert, get?, h, ih]

theorem get?_insert_of_ne {key other : κ} (h : key ≠ other) (value : α) (entries : Entries κ α) :
    get? other (insert key value entries) = get? other entries := by
  induction entries with
  | nil => simp [insert, get?, h]
  | cons entry rest ih =>
    obtain ⟨k, old⟩ := entry
    by_cases hk : k = key
    · subst hk
      simp [insert, get?, h]
    · simp only [insert, hk, if_false, get?, ih]

theorem mem_of_get? {key : κ} {value : α} {entries : Entries κ α}
    (h : get? key entries = some value) : (key, value) ∈ entries := by
  induction entries with
  | nil => simp at h
  | cons entry rest ih =>
    obtain ⟨k, v⟩ := entry
    by_cases hk : k = key
    · simp_all [get?]
    · simp only [get?, hk, if_false] at h
      exact List.mem_cons_of_mem _ (ih h)

theorem get?_of_mem {key : κ} {value : α} {entries : Entries κ α} (hkeys : (keys entries).Nodup)
    (h : (key, value) ∈ entries) : get? key entries = some value := by
  induction entries with
  | nil => simp at h
  | cons entry rest ih =>
    obtain ⟨k, v⟩ := entry
    rw [keys_cons, List.nodup_cons] at hkeys
    rcases List.mem_cons.1 h with heq | hmem
    · obtain ⟨rfl, rfl⟩ := Prod.mk.inj heq
      simp [get?]
    · have hne : k ≠ key := by
        rintro rfl
        exact hkeys.1 (List.mem_map_of_mem hmem)
      simp only [get?, hne, if_false, ih hkeys.2 hmem]

theorem mem_keys_of_get? {key : κ} {value : α} {entries : Entries κ α}
    (h : get? key entries = some value) : key ∈ keys entries :=
  List.mem_map_of_mem (mem_of_get? h)

theorem isSome_get? {key : κ} {entries : Entries κ α} :
    (get? key entries).isSome ↔ key ∈ keys entries := by
  induction entries with
  | nil => simp [keys]
  | cons entry rest ih =>
    obtain ⟨k, v⟩ := entry
    by_cases hk : k = key
    · simp [get?, hk]
    · simpa [get?, hk, Ne.symm hk] using ih

theorem get?_eq_of_perm {entries entries' : Entries κ α} (hperm : entries.Perm entries')
    (hkeys : (keys entries).Nodup) (key : κ) : get? key entries' = get? key entries := by
  have hkeys' : (keys entries').Nodup := (hperm.map Prod.fst).nodup_iff.1 hkeys
  cases hget : get? key entries with
  | some value => exact get?_of_mem hkeys' (hperm.mem_iff.1 (mem_of_get? hget))
  | none =>
    rw [← Option.not_isSome_iff_eq_none, isSome_get?] at hget ⊢
    exact fun hmem ↦ hget ((hperm.map Prod.fst).mem_iff.2 hmem)

theorem insert_of_get? {key : κ} {value : α} {entries : Entries κ α}
    (h : get? key entries = some value) : insert key value entries = entries := by
  induction entries with
  | nil => simp at h
  | cons entry rest ih =>
    obtain ⟨k, v⟩ := entry
    by_cases hk : k = key
    · simp_all [get?, insert]
    · simp only [get?, hk, if_false] at h
      simp [insert, hk, ih h]

theorem mem_keys_insert {key other : κ} {value : α} {entries : Entries κ α} :
    other ∈ keys (insert key value entries) ↔ other = key ∨ other ∈ keys entries := by
  rw [← isSome_get?, ← isSome_get?]
  by_cases h : other = key
  · simp [h, get?_insert_self]
  · simp [h, get?_insert_of_ne (Ne.symm h)]

theorem keys_insert_of_mem {key : κ} {value : α} {entries : Entries κ α}
    (h : key ∈ keys entries) : keys (insert key value entries) = keys entries := by
  induction entries with
  | nil => simp [keys] at h
  | cons entry rest ih =>
    obtain ⟨k, v⟩ := entry
    by_cases hk : k = key
    · simp [insert, hk]
    · have hrest : key ∈ keys rest := by simpa [Ne.symm hk] using h
      simp [insert, hk, ih hrest]

theorem insert_of_not_mem_keys {key : κ} {value : α} {entries : Entries κ α}
    (h : key ∉ keys entries) : insert key value entries = entries ++ [(key, value)] := by
  induction entries with
  | nil => rfl
  | cons entry rest ih =>
    obtain ⟨k, v⟩ := entry
    rw [keys_cons, List.mem_cons, not_or] at h
    simp [insert, Ne.symm h.1, ih h.2]

/-- Entries with distinct keys stay as they are when they are written one after the other. -/
theorem ofList_eq_self {pairs : List (κ × α)} (h : (keys pairs).Nodup) : ofList pairs = pairs := by
  have hinserts (front back : List (κ × α)) (h : (keys (front ++ back)).Nodup) :
      back.foldl (fun entries pair ↦ insert pair.1 pair.2 entries) front = front ++ back := by
    induction back generalizing front with
    | nil => simp
    | cons pair back ih =>
      have hfresh : pair.1 ∉ keys front := by
        have hnodup : (keys front ++ pair.1 :: keys back).Nodup := by simpa [keys] using h
        exact fun hmem ↦ (List.nodup_append.1 hnodup).2.2 _ hmem _ (List.mem_cons_self ..) rfl
      rw [List.foldl_cons, insert_of_not_mem_keys hfresh, ih _ (by simpa using h)]
      simp
  exact hinserts [] pairs h

theorem nodup_keys_insert {key : κ} {value : α} {entries : Entries κ α}
    (h : (keys entries).Nodup) : (keys (insert key value entries)).Nodup := by
  induction entries with
  | nil => simp [insert, keys]
  | cons entry rest ih =>
    obtain ⟨k, v⟩ := entry
    rw [keys_cons, List.nodup_cons] at h
    by_cases heq : k = key
    · simpa [insert, heq] using h
    · have hmem : k ∉ keys (insert key value rest) := by
        rw [mem_keys_insert]
        simp [heq, h.1]
      simp only [insert, heq, if_false]
      exact List.nodup_cons.2 ⟨hmem, ih h.2⟩

theorem keys_erase (key : κ) (entries : Entries κ α) :
    keys (erase key entries) = (keys entries).erase key := by
  induction entries with
  | nil => rfl
  | cons entry rest ih =>
    obtain ⟨k, v⟩ := entry
    by_cases hk : k = key
    · simp [erase, hk]
    · simp [erase, hk, ih]

theorem erase_of_get?_eq_none {key : κ} {entries : Entries κ α} (h : get? key entries = none) :
    erase key entries = entries := by
  induction entries with
  | nil => rfl
  | cons entry rest ih =>
    obtain ⟨k, v⟩ := entry
    by_cases hk : k = key
    · simp [get?, hk] at h
    · simp only [get?, hk, if_false] at h
      simp [erase, hk, ih h]

theorem get?_erase_self {key : κ} {entries : Entries κ α} (h : (keys entries).Nodup) :
    get? key (erase key entries) = none := by
  rw [← Option.not_isSome_iff_eq_none, isSome_get?, keys_erase, h.mem_erase_iff]
  simp

theorem get?_erase_of_ne {key other : κ} (h : key ≠ other) (entries : Entries κ α) :
    get? other (erase key entries) = get? other entries := by
  induction entries with
  | nil => rfl
  | cons entry rest ih =>
    obtain ⟨k, v⟩ := entry
    by_cases hk : k = key
    · subst hk
      simp [erase, get?, h]
    · simp only [erase, hk, if_false, get?, ih]

end Entries

end DialogKit
