import DialogKit.Proofs.Compile.Plan
import DialogKit.Proofs.Component.Input

/-!
# The inputs of a compiled dialog

The inputs of a dialog are those that its entries make, and of several with the same id only the
first. So no id comes twice, and an input is left out only behind one that was built with its id.
-/

namespace DialogKit

open CompileM

namespace Compile

/-- The input that an entry makes, if it is a map and the input is built. -/
def inputOf? (host : Host) (entry : Value) : Option Input :=
  (Document.ofValue? entry).bind fun part ↦ (Component.built part host).toOption

/-- The inputs whose id is neither taken nor comes before. -/
def firstOfEach : List String → List Input → List Input
  | _, [] => []
  | taken, input :: rest =>
      if taken.contains input.id then firstOfEach taken rest
      else input :: firstOfEach (input.id :: taken) rest

theorem inputOf?_eq_some {host : Host} {entry : Value} {input : Input} :
    inputOf? host entry = some input ↔
      ∃ part : Document, entry = .map part.entries ∧ Component.built part host = .ok input := by
  have hbuilt (part : Document) : (Component.built part host).toOption = some input ↔
      Component.built part host = .ok input := by
    cases Component.built part host <;> simp [Except.toOption]
  simp only [inputOf?, Option.bind_eq_some_iff, Document.ofValue?_eq_some, hbuilt]

theorem mem_built {host : Host} {entries : List Value} {input : Input} :
    input ∈ entries.filterMap (inputOf? host) ↔
      ∃ part : Document, .map part.entries ∈ entries ∧
        Component.built part host = .ok input := by
  simp only [List.mem_filterMap, inputOf?_eq_some]
  constructor
  · rintro ⟨_, hmem, part, rfl, hbuilt⟩
    exact ⟨part, hmem, hbuilt⟩
  · rintro ⟨part, hmem, hbuilt⟩
    exact ⟨_, hmem, part, rfl, hbuilt⟩

theorem result_inputsFrom (dialog : String) (host : Host) (index : Nat) (taken : List String)
    (entries : List Value) :
    (inputsFrom dialog host index taken (entries.map Document.itemOf)).result =
      firstOfEach taken (entries.filterMap (inputOf? host)) := by
  induction entries generalizing index taken with
  | nil => rfl
  | cons entry rest ih =>
    cases hpart : Document.itemOf entry with
    | scalar value =>
      have hentry : inputOf? host entry = none := by
        rw [inputOf?, ← Document.part?_itemOf, hpart]
        rfl
      rw [List.map_cons, hpart, List.filterMap_cons_none hentry, inputsFrom]
      exact ih (index + 1) taken
    | part part =>
      have hentry : inputOf? host entry = (Component.built part host).toOption := by
        rw [inputOf?, ← Document.part?_itemOf, hpart]
        rfl
      rw [List.map_cons, hpart, inputsFrom, Journal.result_bind, ← Component.built]
      cases hbuilt : Component.built part host with
      | error skip =>
        rw [hbuilt] at hentry
        rw [List.filterMap_cons_none hentry]
        exact ih (index + 1) taken
      | ok input =>
        rw [hbuilt] at hentry
        rw [List.filterMap_cons_some hentry, firstOfEach]
        dsimp only
        split
        · exact ih (index + 1) taken
        · exact congrArg (input :: ·) (ih (index + 1) _)

theorem result_inputs (dialog : String) (host : Host) (root : Document) :
    (inputs dialog host root).result =
      firstOfEach [] (((root.list? "inputs").getD []).filterMap (inputOf? host)) :=
  result_inputsFrom dialog host 0 [] _

theorem firstOfEach_sublist (taken : List String) (inputs : List Input) :
    (firstOfEach taken inputs).Sublist inputs := by
  induction inputs generalizing taken with
  | nil => exact .slnil
  | cons input rest ih =>
    unfold firstOfEach
    split
    · exact (ih taken).cons input
    · exact (ih _).cons_cons input

theorem not_taken_of_mem_firstOfEach {taken : List String} {inputs : List Input} {input : Input}
    (h : input ∈ firstOfEach taken inputs) : input.id ∉ taken := by
  induction inputs generalizing taken with
  | nil => simp [firstOfEach] at h
  | cons first rest ih =>
    unfold firstOfEach at h
    split at h
    case isTrue => exact ih h
    case isFalse hfree =>
      rcases List.mem_cons.1 h with rfl | hrest
      · simpa using hfree
      · exact fun htaken ↦ ih hrest (List.mem_cons_of_mem _ htaken)

theorem nodup_firstOfEach (taken : List String) (inputs : List Input) :
    ((firstOfEach taken inputs).map Input.id).Nodup := by
  induction inputs generalizing taken with
  | nil => simp [firstOfEach]
  | cons input rest ih =>
    unfold firstOfEach
    split
    · exact ih taken
    · refine List.nodup_cons.2 ⟨?_, ih _⟩
      intro hmem
      obtain ⟨other, hother, hid⟩ := List.mem_map.1 hmem
      exact not_taken_of_mem_firstOfEach hother (by simp [hid])

/-- An input is kept if its id is free and none before it has the id. -/
theorem mem_firstOfEach {taken : List String} {before after : List Input} {input : Input}
    (hfree : input.id ∉ taken) (hfirst : ∀ other ∈ before, other.id ≠ input.id) :
    input ∈ firstOfEach taken (before ++ input :: after) := by
  induction before generalizing taken with
  | nil => simp [firstOfEach, hfree]
  | cons other before ih =>
    obtain ⟨hne, hfirst⟩ := List.forall_mem_cons.1 hfirst
    rw [List.cons_append, firstOfEach]
    split
    · exact ih hfree hfirst
    · refine List.mem_cons_of_mem _ (ih ?_ hfirst)
      simp [hfree, Ne.symm hne]

/-- Whatever is kept comes behind none with its id. -/
theorem exists_of_mem_firstOfEach {taken : List String} {inputs : List Input} {input : Input}
    (h : input ∈ firstOfEach taken inputs) :
    ∃ before after, inputs = before ++ input :: after ∧ ∀ other ∈ before, other.id ≠ input.id := by
  induction inputs generalizing taken with
  | nil => simp [firstOfEach] at h
  | cons first rest ih =>
    by_cases hfirst : first = input
    · exact ⟨[], rest, congrArg (· :: rest) hfirst, by simp⟩
    have hne : first.id ≠ input.id ∧ ∃ taken', input ∈ firstOfEach taken' rest := by
      unfold firstOfEach at h
      split at h
      case isTrue htaken =>
        refine ⟨fun hid ↦ not_taken_of_mem_firstOfEach h ?_, taken, h⟩
        simpa [← hid] using htaken
      case isFalse =>
        have hrest := (List.mem_cons.1 h).resolve_left (Ne.symm hfirst)
        refine ⟨fun hid ↦ not_taken_of_mem_firstOfEach hrest ?_, _, hrest⟩
        simp [hid]
    obtain ⟨hid, taken', hrest⟩ := hne
    obtain ⟨before, after, rfl, hbefore⟩ := ih hrest
    exact ⟨first :: before, after, rfl, List.forall_mem_cons.2 ⟨hid, hbefore⟩⟩

end Compile

/-- The inputs of a dialog are read off its content, on whatever path it is compiled. -/
theorem Compiler.inputs_of_dialog {c : Compiler} {path : List String} {id : String}
    {document : Document} {d : Definition} (h : outcome (c.dialog path id) = .ok d)
    (hget : c.catalog.get? id = some document) :
    d.inputs = (Compile.inputs id c.host (Catalog.unwrap id document)).result := by
  obtain ⟨_, root, layout, hroot, _, rfl⟩ := (c.dialog_eq_ok).1 h
  obtain rfl : Catalog.unwrap id document = root := by simpa [Catalog.root?, hget] using hroot
  rfl

/-- Each input of a dialog is built from a section. -/
theorem Compiler.exists_built_of_mem {c : Compiler} {path : List String} {id : String}
    {d : Definition} {input : Input} (h : outcome (c.dialog path id) = .ok d)
    (hinput : input ∈ d.inputs) : ∃ part, Component.built part c.host = .ok input := by
  obtain ⟨_, root, layout, _, _, rfl⟩ := c.dialog_eq_ok.1 h
  have hfirst : input ∈ (Compile.inputs id c.host root).result := hinput
  rw [Compile.result_inputs] at hfirst
  have hbuilt := (Compile.firstOfEach_sublist _ _).subset hfirst
  obtain ⟨part, _, hpart⟩ := Compile.mem_built.1 hbuilt
  exact ⟨part, hpart⟩

end DialogKit
