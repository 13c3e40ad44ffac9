import DialogKit.Proofs.Catalog.Store
import DialogKit.Proofs.Text.Sigma

/-!
# Completing an id as it is typed

An id is completed from its leading parts, since its lowercase starts with theirs. What is typed may
stop behind a capital sigma in the middle of a word, though: there the sigma takes its final form,
which the lowercase of the id does not have in that place, and the id is not found until the word is
typed on. Ids without such a sigma are found all along.
-/

namespace DialogKit.Catalog

open Text (SigmaSplit HasInnerSigma)

section

variable {c : Catalog}

theorem mem_complete_iff {id typed : String} :
    id ∈ c.complete typed ↔
      id ∈ c.order ∧ (Text.lower typed).toList <+: (Text.lower id).toList := by
  rw [complete_eq, List.mem_filter, decide_eq_true_iff, c.ids_perm_order.mem_iff]

/-- Before anything is typed, every id is found. -/
theorem mem_complete_empty {id : String} (hid : id ∈ c.order) : id ∈ c.complete "" := by
  rw [complete_empty]
  exact c.ids_perm_order.mem_iff.2 hid

variable {id : String}

theorem mem_complete_iff_of_eq_append (hid : id ∈ c.order) {typed rest : String}
    (heq : id = typed ++ rest) : id ∈ c.complete typed ↔ ¬ SigmaSplit typed rest := by
  subst heq
  rw [mem_complete_iff, Text.lower_prefix_iff]
  exact and_iff_right hid

/-- An id is found under all its leading parts exactly if none of them splits a word like this. -/
theorem forall_mem_complete_iff (hid : id ∈ c.order) :
    (∀ typed rest, id = typed ++ rest → id ∈ c.complete typed) ↔ ¬ HasInnerSigma id := by
  rw [← Text.exists_sigmaSplit_iff]
  constructor
  · rintro hfound ⟨typed, rest, heq, hsplit⟩
    exact (mem_complete_iff_of_eq_append hid heq).1 (hfound typed rest heq) hsplit
  · intro hsplit typed rest heq
    exact (mem_complete_iff_of_eq_append hid heq).2 fun h ↦ hsplit ⟨typed, rest, heq, h⟩

/-- To stay found while it is typed, an id has to be found under all its leading parts, because it
is typed from the empty one on, where it is found. -/
theorem keeps_mem_complete_iff (hid : id ∈ c.order) :
    (∀ typed more rest, id = typed ++ more ++ rest → id ∈ c.complete typed →
      id ∈ c.complete (typed ++ more)) ↔
      ∀ typed rest, id = typed ++ rest → id ∈ c.complete typed := by
  constructor
  · intro hkept typed rest heq
    have hfound := hkept "" typed rest (by rwa [String.empty_append]) (mem_complete_empty hid)
    rwa [String.empty_append] at hfound
  · intro hfound typed more rest heq _
    exact hfound (typed ++ more) rest heq

/-- An id is found under each of its leading parts at which no word is split behind a capital sigma.
So it is found under all of them, and does not get lost while it is typed, exactly if it has no such
sigma inside of a word. -/
theorem completes_leading_parts (hid : id ∈ c.order) :
    (∀ typed rest, id = typed ++ rest → (id ∈ c.complete typed ↔ ¬ SigmaSplit typed rest)) ∧
    ((∀ typed rest, id = typed ++ rest → id ∈ c.complete typed) ↔ ¬ HasInnerSigma id) ∧
    ((∀ typed more rest, id = typed ++ more ++ rest → id ∈ c.complete typed →
      id ∈ c.complete (typed ++ more)) ↔ ¬ HasInnerSigma id) := by
  have hall := forall_mem_complete_iff hid
  exact ⟨fun _ _ heq ↦ mem_complete_iff_of_eq_append hid heq, hall,
    (keeps_mem_complete_iff hid).trans hall⟩

end

/-- One id has a sigma inside of a word and two at the end of one, the other id has none. -/
def islands : Catalog :=
  ⟨[("ΝΗΣΟΣ/ΚΩΣ", ⟨[]⟩), ("Welcome", ⟨[]⟩)]⟩

theorem completes_leading_parts_islands :
    "ΝΗΣΟΣ/ΚΩΣ" ∈ islands.order ∧ "ΝΗΣΟΣ/ΚΩΣ" = "ΝΗΣΟΣ" ++ "/ΚΩΣ" ∧
    "ΝΗΣΟΣ/ΚΩΣ" ∈ islands.complete "ΝΗΣΟΣ" ∧
    "Welcome" ∈ islands.order ∧
    ∀ typed rest, "Welcome" = typed ++ rest → "Welcome" ∈ islands.complete typed := by
  have hisland : "ΝΗΣΟΣ/ΚΩΣ" ∈ islands.order := by decide
  have hwelcome : "Welcome" ∈ islands.order := by decide
  have hslash : ¬ SigmaSplit "ΝΗΣΟΣ" "/ΚΩΣ" := by
    rintro ⟨_, _, _, _, _, hrest⟩
    exact absurd hrest (by decide)
  have hplain : ¬ HasInnerSigma "Welcome" := Text.not_hasInnerSigma (by decide)
  exact ⟨hisland, rfl, ((completes_leading_parts hisland).1 "ΝΗΣΟΣ" "/ΚΩΣ" rfl).2 hslash, hwelcome,
    (completes_leading_parts hwelcome).2.1.2 hplain⟩

/-- The id is found by two of its characters and by four, but not by three. -/
theorem lost_inside_word :
    "ΝΗΣΟΣ/ΚΩΣ" ∈ islands.order ∧ "ΝΗΣΟΣ/ΚΩΣ" = "ΝΗΣ" ++ "ΟΣ/ΚΩΣ" ∧
    "ΝΗΣΟΣ/ΚΩΣ" ∈ islands.complete "ΝΗ" ∧ "ΝΗΣΟΣ/ΚΩΣ" ∉ islands.complete "ΝΗΣ" ∧
    "ΝΗΣΟΣ/ΚΩΣ" ∈ islands.complete "ΝΗΣΟ" := by
  simp only [mem_complete_iff]
  decide

end DialogKit.Catalog
