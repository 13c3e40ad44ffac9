import DialogKit.Component.Input

/-!
# What building an input comes to

An input is built unless its id is missing or its settings are refused. Of the types of inputs, a
text and a box to check are never refused, and a range is refused exactly if its numbers make no
slider, where the numbers that are not written stand at their defaults.
-/

namespace DialogKit.Component

/-- The numbers of a range, with the defaults of those that are not written, make a slider. -/
structure RangeFits (part : Document) : Prop where
  below : part.float "min" 0.0 < part.float "max" 100.0
  min_finite : (part.float "min" 0.0).isFinite = true
  max_finite : (part.float "max" 100.0).isFinite = true
  step_finite : (part.float "step" 1.0).isFinite = true
  initial_finite : (part.float "initial" (part.float "min" 0.0)).isFinite = true

theorem nonFinite?_eq_none {fields : List (String × Float)} :
    nonFinite? fields = none ↔ ∀ field ∈ fields, field.2.isFinite = true := by
  simp [nonFinite?]

theorem rangeFits_iff {part : Document} :
    RangeFits part ↔ part.float "min" 0.0 < part.float "max" 100.0 ∧
      nonFinite? [("min", part.float "min" 0.0), ("max", part.float "max" 100.0),
        ("step", part.float "step" 1.0),
        ("initial", part.float "initial" (part.float "min" 0.0))] = none := by
  rw [nonFinite?_eq_none]
  constructor
  · intro h
    simp only [List.forall_mem_cons]
    exact ⟨h.below, h.min_finite, h.max_finite, h.step_finite, h.initial_finite, by simp⟩
  · rintro ⟨hbelow, hfinite⟩
    simp only [List.forall_mem_cons] at hfinite
    obtain ⟨hmin, hmax, hstep, hinitial, _⟩ := hfinite
    exact ⟨hbelow, hmin, hmax, hstep, hinitial⟩

theorem rangeInput_eq_ok_iff (part : Document) (id : String) :
    (∃ kind, rangeInput part id = .ok kind) ↔ RangeFits part := by
  rw [rangeFits_iff]
  unfold rangeInput
  -- The defaults are only numbers here; as literals they would be computed with.
  generalize part.float "min" 0.0 = min
  generalize part.float "max" 100.0 = max
  generalize part.float "step" 1.0 = step
  by_cases hbelow : min < max
  · cases hfields : nonFinite? [("min", min), ("max", max), ("step", step),
      ("initial", part.float "initial" min)] <;> simp [hbelow, hfields]
  · simp [hbelow]

theorem rangeInput_of_fits {part : Document} (h : RangeFits part) (id : String) :
    rangeInput part id = .ok (.numberRange (part.float "min" 0.0) (part.float "max" 100.0)
      (part.float "step" 1.0) (part.float "initial" (part.float "min" 0.0))
      (part.nat32 "width" 300) (shownText? part "label_format")) := by
  obtain ⟨hbelow, hfinite⟩ := rangeFits_iff.1 h
  unfold rangeInput
  generalize part.float "min" 0.0 = min at *
  generalize part.float "max" 100.0 = max at *
  generalize part.float "step" 1.0 = step at *
  simp [hbelow, hfinite]

/-- What building an input comes to, without the events that it reports on the way. -/
def built (part : Document) (host : Host) : Except Skip Input :=
  (input part host).run.result

/-- The type of an input in lowercase, if a scalar names one. -/
def typeName? (part : Document) : Option String :=
  (part.str? "type").map Text.lower

/-- An input without a type is a text. -/
theorem lower_type (part : Document) :
    Text.lower (part.str "type" "text") = (typeName? part).getD "text" := by
  have htext : Text.lower "text" = "text" := by decide
  unfold typeName? Document.str
  cases part.str? "type" <;> simp [htext]

theorem built_of_missing {part : Document} (h : shownText? part "id" = none) (host : Host) :
    built part host = .error (.missingField .input "id") := by
  unfold built input
  rw [h]
  rfl

theorem built_of_id {part : Document} {id : String} (h : shownText? part "id" = some id)
    (host : Host) :
    built part host = ((inputKind part id host).run.result).map fun kind ↦
      { id, label := label part id host, kind } := by
  unfold built input
  rw [h]
  simp only [ExceptT.run_bind, Journal.result_bind]
  cases (inputKind part id host).run.result <;> rfl

theorem id_of_built {part : Document} {host : Host} {input : Input}
    (h : built part host = .ok input) : shownText? part "id" = some input.id := by
  cases hid : shownText? part "id" with
  | none => simp [built_of_missing hid] at h
  | some id =>
    rw [built_of_id hid] at h
    cases hkind : (inputKind part id host).run.result with
    | error skip => simp [hkind, Except.map] at h
    | ok kind =>
      rw [hkind] at h
      obtain rfl := Except.ok.inj h
      rfl

/-- A type of which the checks know when an input is refused: a text, a box to check, or a range. -/
inductive Known (part : Document) : Prop where
  /-- Without a type the input is a text. -/
  | untyped (type : typeName? part = none)
  | text (type : typeName? part = some "text")
  | boolean (type : typeName? part = some "boolean")
  | range (type : typeName? part = some "number_range")

/-- An input of a known type with an id is built, unless it is a range that makes no slider. -/
theorem exists_built_iff {part : Document} {id : String} (hid : shownText? part "id" = some id)
    (hknown : Known part) (host : Host) :
    (∃ input, built part host = .ok input) ↔
      (typeName? part = some "number_range" → RangeFits part) := by
  rw [built_of_id hid]
  unfold inputKind
  rw [lower_type]
  rcases hknown with htype | htype | htype | htype
  · simp [htype, Except.map]
  · simp [htype, Except.map]
  · rw [htype]
    exact ⟨fun _ hrange ↦ by simp at hrange, fun _ ↦ ⟨_, rfl⟩⟩
  · rw [← rangeInput_eq_ok_iff part id, htype]
    simp only [Option.getD_some, true_implies]
    cases rangeInput part id <;> simp [Except.map]

end DialogKit.Component
