import DialogKit.Proofs.Document.Paths

/-!
# Paths compose

To read a document at a path with a dot in it is to read the section before the dot at the path
behind it, wherever the dot stands: a document may be read piece by piece. This holds of the empty
path too, which is the path of the empty key, and so of paths that start or end with a dot. Every
reading follows the value at the path, so it composes as the value does, and where there is no
section to read it gives what it gives for an absent value.
-/

namespace DialogKit

namespace Text

theorem split_append (p q : String) :
    split '.' (p ++ "." ++ q) = split '.' p ++ split '.' q := by
  have hchars : (p ++ "." ++ q).toList = p.toList ++ '.' :: q.toList := by simp
  rw [split, hchars, splitChars_append, List.map_append]
  rfl

end Text

namespace Value

/-- Values that have a text. -/
def IsScalar : Value → Prop
  | .bool _ | .int _ | .float _ | .str _ => True
  | .null | .list _ | .map _ => False

def IsBool : Value → Prop
  | .bool _ => True
  | _ => False

def IsNumber : Value → Prop
  | .int _ | .float _ => True
  | _ => False

/-- Numbers that have a whole part. -/
def IsFiniteNumber : Value → Prop
  | .int _ => True
  | .float x => x.isFinite = true
  | _ => False

theorem isSome_text? (value : Value) : value.text?.isSome ↔ value.IsScalar := by
  cases value <;> simp [text?, IsScalar]

theorem isSome_bool? (value : Value) : value.bool?.isSome ↔ value.IsBool := by
  cases value <;> simp [bool?, IsBool]

theorem isSome_float? (value : Value) : value.float?.isSome ↔ value.IsNumber := by
  cases value <;> simp [float?, IsNumber]

theorem isSome_int? (value : Value) : value.int?.isSome ↔ value.IsFiniteNumber := by
  cases value <;> simp [int?, IsFiniteNumber]

end Value

namespace Document

/-! ## Two steps -/

theorem descend_append (front back : List String) (value : Value) :
    descend (front ++ back) value = (descend front value).bind (descend back) := by
  induction front generalizing value with
  | nil => rfl
  | cons key front ih =>
    cases value with
    | map entries =>
      calc
        descend (key :: front ++ back) (.map entries) =
            (Entries.get? key entries).bind (descend (front ++ back)) := rfl
        _ = (Entries.get? key entries).bind fun value ↦
            (descend front value).bind (descend back) := by rw [funext ih]
        _ = (descend (key :: front) (.map entries)).bind (descend back) :=
          (Option.bind_assoc ..).symm
    | _ => rfl

/-- Only a map leads on. -/
theorem descend_split (path : String) (value : Value) :
    descend (Text.split '.' path) value = (ofValue? value).bind (·.value? path) := by
  cases hsplit : Text.split '.' path with
  | nil => exact absurd hsplit (Text.split_ne_nil '.' path)
  | cons key keys =>
    cases value with
    | map entries => simp [ofValue?, value?, hsplit, toValue]
    | _ => rfl

theorem value?_append (d : Document) (p q : String) :
    d.value? (p ++ "." ++ q) = (d.part? p).bind (·.value? q) := by
  calc
    d.value? (p ++ "." ++ q) = descend (Text.split '.' p ++ Text.split '.' q) d.toValue := by
      rw [value?, Text.split_append]
    _ = (d.value? p).bind (descend (Text.split '.' q)) := descend_append _ _ _
    _ = (d.value? p).bind fun value ↦ (ofValue? value).bind (·.value? q) := by
      rw [funext (descend_split q)]
    _ = (d.part? p).bind (·.value? q) := (Option.bind_assoc ..).symm

/-! ## Readings -/

variable {α : Type}

/-- A reading at two paths with a dot between them is that of the section at the first path, at the
second one. Without such a section it is the reading of an absent value. -/
def Composes (read : Document → String → α) (absent : α) : Prop :=
  ∀ d p q, read d (p ++ "." ++ q) =
    match d.part? p with
    | some part => read part q
    | none => absent

/-- What depends on the value at the path alone composes. -/
theorem composes_of_view (view : Option Value → α) :
    Composes (fun d path ↦ view (d.value? path)) (view none) := by
  intro d p q
  dsimp only
  rw [value?_append]
  cases d.part? p <;> rfl

/-- A typed reading, without and with a default: it gives the view of a value that fits. The default
is given if and only if no such value is there. -/
structure Getter (view : Value → Option α) (fits : Value → Prop)
    (get? : Document → String → Option α) (get : Document → String → α → α) : Prop where
  composes : Composes get? none
  composes_default : ∀ default, Composes (fun d path ↦ get d path default) default
  gives : ∀ d path value, d.value? path = some value → fits value →
    ∃ x, view value = some x ∧ get? d path = some x ∧ ∀ default, get d path default = x
  fallsBack : ∀ d path, (∀ value, d.value? path = some value → ¬ fits value) →
    get? d path = none ∧ ∀ default, get d path default = default

theorem getter_of_view {view : Value → Option α} {fits : Value → Prop}
    {get? : Document → String → Option α} {get : Document → String → α → α}
    (hfits : ∀ value, (view value).isSome ↔ fits value)
    (hget? : ∀ d path, get? d path = (d.value? path).bind view)
    (hget : ∀ d path default, get d path default = (get? d path).getD default) :
    Getter view fits get? get := by
  obtain rfl : get? = fun d path ↦ (d.value? path).bind view :=
    funext fun d ↦ funext (hget? d)
  obtain rfl : get = fun d path default ↦ ((d.value? path).bind view).getD default :=
    funext fun d ↦ funext fun path ↦ funext (hget d path)
  constructor
  · exact composes_of_view fun value? ↦ value?.bind view
  · intro default
    exact composes_of_view fun value? ↦ (value?.bind view).getD default
  · intro d path value hvalue hfit
    obtain ⟨x, hx⟩ := Option.isSome_iff_exists.1 ((hfits value).2 hfit)
    refine ⟨x, hx, ?_⟩
    simp [hvalue, hx]
  · intro d path hnone
    have hview : (d.value? path).bind view = none := by
      apply Option.bind_eq_none_iff.2
      intro value hvalue
      rw [← Option.not_isSome_iff_eq_none, hfits]
      exact hnone value hvalue
    simp [hview]

/-- A path behind another one is read in the section to which the other one leads. So every reading
composes, and typed readings give their default exactly where no value that fits is found. A key
without a dot is its own path, the empty key too. -/
theorem paths_compose :
    (∀ (d : Document) (p q : String) (value : Value), d.value? (p ++ "." ++ q) = some value ↔
      ∃ part, d.part? p = some part ∧ part.value? q = some value) ∧
    (Composes contains false ∧ Composes isList false ∧ Composes isPart false ∧
      Composes part? none ∧ Composes items [] ∧ Composes texts []) ∧
    (Getter Value.text? Value.IsScalar str? str ∧ Getter Value.bool? Value.IsBool bool? bool ∧
      Getter Value.int? Value.IsFiniteNumber int? int ∧
      Getter (fun value ↦ value.int?.map clamp32) Value.IsFiniteNumber int32? int32 ∧
      Getter (fun value ↦ value.int?.map clampNat32) Value.IsFiniteNumber nat32? nat32 ∧
      Getter Value.float? Value.IsNumber float? float ∧
      Getter (fun value ↦ value.float?.map Float.toFloat32) Value.IsNumber float32? float32 ∧
      Getter some (fun _ ↦ True) value? (fun d path default ↦ (d.value? path).getD default)) ∧
    (∀ (d : Document) (key : String), '.' ∉ key.toList → d.value? key = d.entry? key) ∧
    ∀ d : Document, d.value? "" = d.entry? "" := by
  have hdotless (d : Document) (key : String) (h : '.' ∉ key.toList) :
      d.value? key = d.entry? key :=
    value?_of_dotless (Text.split_of_not_mem h)
  refine ⟨?_, ⟨?_, ?_, ?_, ?_, ?_, ?_⟩, ⟨?_, ?_, ?_, ?_, ?_, ?_, ?_, ?_⟩, hdotless, ?_⟩
  · intro d p q value
    rw [value?_append, Option.bind_eq_some_iff]
  · exact composes_of_view Option.isSome
  · exact composes_of_view fun value? ↦ (value?.bind Value.list?).isSome
  · exact composes_of_view fun value? ↦ (value?.bind ofValue?).isSome
  · exact composes_of_view fun value? ↦ value?.bind ofValue?
  · exact composes_of_view fun value? ↦ ((value?.bind Value.list?).getD []).map itemOf
  · exact composes_of_view fun value? ↦ ((value?.bind Value.list?).getD []).filterMap Value.text?
  · exact getter_of_view Value.isSome_text? (fun _ _ ↦ rfl) fun _ _ _ ↦ rfl
  · exact getter_of_view Value.isSome_bool? (fun _ _ ↦ rfl) fun _ _ _ ↦ rfl
  · exact getter_of_view Value.isSome_int? (fun _ _ ↦ rfl) fun _ _ _ ↦ rfl
  · exact getter_of_view (fun value ↦ by rw [Option.isSome_map, Value.isSome_int?])
      (fun _ _ ↦ Option.map_bind) fun _ _ _ ↦ rfl
  · exact getter_of_view (fun value ↦ by rw [Option.isSome_map, Value.isSome_int?])
      (fun _ _ ↦ Option.map_bind) fun _ _ _ ↦ rfl
  · exact getter_of_view Value.isSome_float? (fun _ _ ↦ rfl) fun _ _ _ ↦ rfl
  · exact getter_of_view (fun value ↦ by rw [Option.isSome_map, Value.isSome_float?])
      (fun _ _ ↦ Option.map_bind) fun _ _ _ ↦ rfl
  · exact getter_of_view (by simp) (by simp) fun _ _ _ ↦ rfl
  · intro d
    exact hdotless d "" (by simp)

/-- A section under the empty key, and in it a key with a dot that no path reaches. -/
def nested : Document :=
  ⟨[("a", .map [("", .map [("b", .int 3), ("b.c", .null)]), ("s", .str "text")]), ("s", .list [])]⟩

/-- The number behind two dots is read as a number, in one step or in two, and not as a boolean;
behind it nothing is read. -/
theorem paths_compose_nested :
    ('.' ∉ "s".toList ∧ nested.value? "s" = nested.entry? "s") ∧
    (nested.value? "a..b" = some (.int 3) ∧
      ∃ part, nested.part? "a." = some part ∧ part.value? "b" = some (.int 3)) ∧
    (∀ default, nested.int "a..b" default = 3) ∧
    (∀ default, nested.bool "a..b" default = default) ∧
    nested.contains ("a..b" ++ "." ++ "c") = false := by
  obtain ⟨happend, ⟨hcontains, _⟩, ⟨_, hbool, hint, _⟩, hdotless, _⟩ := paths_compose
  have hsmall : '.' ∉ "s".toList := by decide
  have hvalue : nested.value? "a..b" = some (.int 3) := by rfl
  refine ⟨⟨hsmall, hdotless nested "s" hsmall⟩, ⟨hvalue, ?_⟩, ?_, ?_, ?_⟩
  · exact (happend nested "a." "b" (.int 3)).1 hvalue
  · obtain ⟨x, hview, _, hget⟩ := hint.gives nested "a..b" (.int 3) hvalue trivial
    obtain rfl := Option.some.inj hview
    exact hget
  · refine (hbool.fallsBack nested "a..b" fun value h ↦ ?_).2
    obtain rfl := Option.some.inj (hvalue.symm.trans h)
    exact id
  · rw [hcontains]
    rfl

end Document

end DialogKit
