import DialogKit.Proofs.Compile.Inputs
import DialogKit.Proofs.Validation.Errors

/-!
# Errors and dropped inputs

The validator and the compiler read the inputs of a dialog apart from each other. Their verdicts
agree where the validator looks: an error means that an entry makes no input of its own, and an
entry of a type that the validator knows is only dropped for an error, or else it is a range that
leaves a bound to its default.
-/

namespace DialogKit.Validation

open CompileM
open Component (shownText? typeName? RangeFits Known built)

/-- The inputs that are left of a dialog when it is compiled. -/
def keptInputs (host : Host) (id : String) (document : Document) : List Input :=
  (Compile.inputs id host (Catalog.unwrap id document)).result

theorem keptInputs_eq (host : Host) (id : String) (document : Document) :
    keptInputs host id document =
      Compile.firstOfEach [] ((inputEntries id document).filterMap (Compile.inputOf? host)) :=
  Compile.result_inputs id host _

/-- The input of an entry is left if no entry before it has the id. -/
theorem mem_keptInputs {host : Host} {id : String} {document : Document}
    {before after : List Value} {part : Document} {input : Input}
    (hentries : inputEntries id document = before ++ .map part.entries :: after)
    (hinput : built part host = .ok input)
    (hfirst : ∀ earlier : Document, .map earlier.entries ∈ before →
      shownText? earlier "id" ≠ some input.id) :
    input ∈ keptInputs host id document := by
  rw [keptInputs_eq, hentries, List.filterMap_append,
    List.filterMap_cons_some (Compile.inputOf?_eq_some.2 ⟨part, rfl, hinput⟩)]
  refine Compile.mem_firstOfEach List.not_mem_nil fun other hother hsame ↦ ?_
  obtain ⟨earlier, hmem, hearlier⟩ := Compile.mem_built.1 hother
  exact hfirst earlier hmem (hsame ▸ Component.id_of_built hearlier)

/-- As many inputs as entries are only left if each entry makes one, all with ids of their own. -/
theorem all_built_of_length_le {host : Host} {id : String} {document : Document}
    (h : (inputEntries id document).length ≤ (keptInputs host id document).length) :
    (∀ part : Document, .map part.entries ∈ inputEntries id document →
      ∃ input, built part host = .ok input) ∧
    (((inputEntries id document).filterMap (Compile.inputOf? host)).map Input.id).Nodup := by
  have hmade := List.length_filterMap_le (Compile.inputOf? host) (inputEntries id document)
  have hsub := Compile.firstOfEach_sublist []
    ((inputEntries id document).filterMap (Compile.inputOf? host))
  have hnodup := Compile.nodup_firstOfEach []
    ((inputEntries id document).filterMap (Compile.inputOf? host))
  rw [← keptInputs_eq] at hsub hnodup
  refine ⟨fun part hmem ↦ ?_, ?_⟩
  · have hlength := Nat.le_antisymm hmade (Nat.le_trans h hsub.length_le)
    have hpart := List.filterMap_length_eq_length.1 hlength _ hmem
    obtain ⟨input, hinput⟩ := Option.isSome_iff_exists.1 hpart
    obtain ⟨part', hpart', hbuilt⟩ := Compile.inputOf?_eq_some.1 hinput
    obtain rfl : part = part' := congrArg Document.mk (Value.map.inj hpart')
    exact ⟨input, hbuilt⟩
  · rwa [← hsub.eq_of_length_le (Nat.le_trans hmade h)]

theorem built_eq_error_of_range {part : Document} {id : String}
    (hid : shownText? part "id" = some id) (htype : typeName? part = some "number_range")
    (hnot : ¬ RangeFits part) (host : Host) : ∃ skip, built part host = .error skip := by
  have hiff := Component.exists_built_iff hid (.range htype) host
  cases hbuilt : built part host with
  | error skip => exact ⟨skip, rfl⟩
  | ok input => exact absurd (hiff.1 ⟨input, hbuilt⟩ htype) hnot

section

variable {s : Subject} {before : List Value} {part : Document} {issue : Issue}

theorem EntryError.built_eq_error (h : EntryError s before part issue)
    (hfresh : ∀ name, issue ≠ repeatedId s name) (host : Host) :
    ∃ skip, built part host = .error skip := by
  cases h with
  | missing habsent => exact ⟨_, Component.built_of_missing habsent host⟩
  | repeated hid _ _ => exact absurd rfl (hfresh _)
  | range hid htype hmem herror =>
    exact built_eq_error_of_range hid htype (error_rangeIssues hmem herror).2 host

theorem EntryError.earlier (h : EntryError s before part issue) {name : String}
    (hrepeated : issue = repeatedId s name) :
    shownText? part "id" = some name ∧
      ∃ earlier : Document, .map earlier.entries ∈ before ∧
        shownText? earlier "id" = some name := by
  cases h with
  | missing _ =>
    have hsuggestion := congrArg Issue.suggestion hrepeated
    simp [missingId, repeatedId, Subject.inputIssue] at hsuggestion
  | @repeated id earlier hid hmem hsame =>
    have hinput : some id = some name := congrArg Issue.input hrepeated
    rw [← hinput]
    exact ⟨hid, earlier, hmem, hsame⟩
  | range _ _ hmem _ => exact absurd hrepeated ((concerns_rangeIssues hmem).ne_repeatedId name)

theorem EntryError.names (h : EntryError s before part issue) :
    issue.dialog = s.dialog ∧ issue.input = some (entryName before.length part) := by
  cases h with
  | missing habsent => simp [entryName, habsent, missingId, Subject.inputIssue]
  | repeated hid _ _ => simp [entryName, hid, repeatedId, Subject.inputIssue]
  | range hid _ hmem _ =>
    obtain ⟨hdialog, hinput, _⟩ := concerns_rangeIssues hmem
    simp [entryName, hid, hdialog, hinput]

theorem EntryError.exists_of_range (s : Subject) (before : List Value)
    (htype : typeName? part = some "number_range") (hgives : GivesBounds part)
    (hnot : ¬ RangeFits part) : ∃ issue, EntryError s before part issue := by
  cases hid : shownText? part "id" with
  | none => exact ⟨_, .missing hid⟩
  | some name =>
    obtain ⟨issue, hissue, herror⟩ := exists_error_rangeIssues s name hgives hnot
    exact ⟨issue, .range hid htype hissue herror⟩

/-- An error costs an input: the entry makes none, or not one of its own. -/
theorem EntryError.keptInputs_lt {host : Host} {id : String} {document : Document}
    {after : List Value} (h : EntryError s before part issue)
    (hentries : inputEntries id document = before ++ .map part.entries :: after) :
    (keptInputs host id document).length < (inputEntries id document).length := by
  refine Nat.lt_of_not_le fun hle ↦ ?_
  obtain ⟨hbuilt, hnodup⟩ := all_built_of_length_le hle
  rw [hentries] at hbuilt hnodup
  obtain ⟨input, hinput⟩ := hbuilt part (by simp)
  by_cases hfresh : ∀ name, issue ≠ repeatedId s name
  · obtain ⟨skip, hskip⟩ := h.built_eq_error hfresh host
    simp [hskip] at hinput
  · obtain ⟨name, hname⟩ := Classical.not_forall.1 hfresh
    obtain ⟨hid, earlier, hmem, hsame⟩ := h.earlier (Classical.not_not.1 hname)
    obtain ⟨first, hfirst⟩ := hbuilt earlier (List.mem_append_left _ hmem)
    have hids : first.id = input.id := by
      have hname := hsame.trans hid.symm
      rw [Component.id_of_built hfirst, Component.id_of_built hinput] at hname
      exact Option.some.inj hname
    rw [List.filterMap_append, List.map_append, List.nodup_append] at hnodup
    refine hnodup.2.2 first.id (List.mem_map_of_mem ?_) input.id (List.mem_map_of_mem ?_) hids
    · exact Compile.mem_built.2 ⟨earlier, hmem, hfirst⟩
    · exact Compile.mem_built.2 ⟨part, .head _, hinput⟩

end

theorem hasErrors_iff {report : Report} :
    report.hasErrors = true ↔ ∃ issue ∈ report.issues, issue.severity = .error := by
  simp [Report.hasErrors]

/-- Every error of a dialog is the fault of an entry that is dropped when the dialog is compiled, or
that repeats the id of an entry before it. So errors cost inputs, and no id is left twice. -/
theorem drops_of_error (host : Host) (id : String) (document : Document) :
    let report := dialog host.format id document
    let entries := inputEntries id document
    (∀ issue ∈ report.issues, issue.severity = .error →
      ∃ (before : List Value) (part : Document) (after : List Value),
        entries = before ++ .map part.entries :: after ∧
        issue ∈ entryIssues ⟨id, host.format⟩ before.length (seenAfter before)
          (.map part.entries) ∧
        issue.dialog = id ∧ issue.input = some (entryName before.length part) ∧
        ((∀ name, issue ≠ repeatedId ⟨id, host.format⟩ name) →
          ∃ skip, built part host = .error skip) ∧
        ∀ name, issue = repeatedId ⟨id, host.format⟩ name →
          shownText? part "id" = some name ∧
          ∃ earlier : Document, .map earlier.entries ∈ before ∧
            shownText? earlier "id" = some name) ∧
    (report.hasErrors = true → (keptInputs host id document).length < entries.length) ∧
    ((keptInputs host id document).map Input.id).Nodup := by
  intro report entries
  refine ⟨?_, ?_, ?_⟩
  · intro issue hmem herror
    obtain ⟨before, part, after, hentries, h⟩ := error_iff.1 ⟨hmem, herror⟩
    have hissue := (error_entryIssues_iff.2 ⟨part, rfl, h⟩).1
    exact ⟨before, part, after, hentries, hissue, h.names.1, h.names.2,
      fun hfresh ↦ h.built_eq_error hfresh host, fun _ ↦ h.earlier⟩
  · intro herrors
    obtain ⟨issue, hmem, herror⟩ := hasErrors_iff.1 herrors
    obtain ⟨before, part, after, hentries, h⟩ := error_iff.1 ⟨hmem, herror⟩
    exact h.keptInputs_lt hentries
  · rw [keptInputs_eq]
    exact Compile.nodup_firstOfEach _ _

/-- A dialog with the given inputs. -/
def dialogOf (inputs : List Document) : Document :=
  ⟨[("title", .str "t"), ("inputs", .list (inputs.map Document.toValue))]⟩

/-- A dialog with an input that has no id, and with two that have the same. -/
def unnamedAndTwins : Document :=
  dialogOf [⟨[]⟩, ⟨[("id", .str "a")]⟩, ⟨[("id", .str "a")]⟩]

theorem drops_of_error_unnamedAndTwins :
    let report := dialog id "d" unnamedAndTwins
    let entries := inputEntries "d" unnamedAndTwins
    report.hasErrors = true ∧ (keptInputs {} "d" unnamedAndTwins).length < 3 ∧
    missingId ⟨"d", id⟩ 0 ∈ report.issues ∧ repeatedId ⟨"d", id⟩ "a" ∈ report.issues ∧
    (∃ part : Document, .map part.entries ∈ entries ∧ ∃ skip, built part {} = .error skip) ∧
    ∃ (before : List Value) (earlier part : Document) (after : List Value),
      entries = before ++ .map part.entries :: after ∧ .map earlier.entries ∈ before ∧
      shownText? earlier "id" = shownText? part "id" := by
  intro report entries
  obtain ⟨hissues, hkept, _⟩ := drops_of_error {} "d" unnamedAndTwins
  have herrors : report.hasErrors = true := by decide +kernel
  have hmissing : missingId ⟨"d", id⟩ 0 ∈ report.issues := by decide +kernel
  have hrepeated : repeatedId ⟨"d", id⟩ "a" ∈ report.issues := by decide +kernel
  obtain ⟨before, part, after, hentries, _, _, _, hskip, _⟩ := hissues _ hmissing rfl
  obtain ⟨before', part', after', hentries', _, _, _, _, htwin⟩ := hissues _ hrepeated rfl
  obtain ⟨hid, earlier, hmem, hsame⟩ := htwin "a" rfl
  refine ⟨herrors, hkept herrors, hmissing, hrepeated, ⟨part, by simp [hentries, entries], ?_⟩,
    before', earlier, part', after', hentries', hmem, hsame.trans hid.symm⟩
  exact hskip fun name ↦ by simp [missingId, repeatedId, Subject.inputIssue]

/-- Without errors, the entries of the types that the validator knows all make their inputs, apart
from ranges that make no slider with a bound left to its default. A range that gives both bounds and
makes no slider has an error that names it. -/
theorem keeps_of_no_errors (host : Host) (id : String) (document : Document) :
    let report := dialog host.format id document
    let entries := inputEntries id document
    (report.hasErrors = false → ∀ part : Document, .map part.entries ∈ entries → Known part →
      (typeName? part = some "number_range" → GivesBounds part ∨ RangeFits part) →
      ∃ input, built part host = .ok input ∧ shownText? part "id" = some input.id ∧
        input ∈ keptInputs host id document ∧
        ∀ (c : Compiler) (d : Definition), c.host = host → c.catalog.get? id = some document →
          outcome (c.compile id) = .ok d → input ∈ d.inputs) ∧
    ∀ (before : List Value) (part : Document) (after : List Value),
      entries = before ++ .map part.entries :: after →
      typeName? part = some "number_range" → GivesBounds part → ¬ RangeFits part →
      ∃ issue ∈ report.issues, issue.severity = .error ∧
        issue.input = some (entryName before.length part) := by
  intro report entries
  refine ⟨?_, ?_⟩
  · intro hclean part hmem hknown hrange
    obtain ⟨before, after, hentries⟩ := List.append_of_mem hmem
    have hnone (issue : Issue) : ¬ EntryError ⟨id, host.format⟩ before part issue := by
      intro h
      obtain ⟨hissue, herror⟩ := error_iff.2 ⟨before, part, after, hentries, h⟩
      exact Bool.false_ne_true (hclean.symm.trans (hasErrors_iff.2 ⟨issue, hissue, herror⟩))
    obtain ⟨name, hid⟩ : ∃ name, shownText? part "id" = some name :=
      Option.ne_none_iff_exists'.1 fun habsent ↦ hnone _ (.missing habsent)
    have hfits (htype : typeName? part = some "number_range") : RangeFits part := by
      rcases hrange htype with hgives | hfits
      · refine Classical.byContradiction fun hnot ↦ ?_
        obtain ⟨issue, h⟩ := EntryError.exists_of_range ⟨id, host.format⟩ before htype hgives hnot
        exact hnone issue h
      · exact hfits
    obtain ⟨input, hinput⟩ := (Component.exists_built_iff hid hknown host).2 hfits
    have hfirst (earlier : Document) (hmem : .map earlier.entries ∈ before) :
        shownText? earlier "id" ≠ some input.id := fun hsame ↦
      hnone _ (.repeated (Component.id_of_built hinput) hmem hsame)
    have hkept := mem_keptInputs hentries hinput hfirst
    refine ⟨input, hinput, Component.id_of_built hinput, hkept, ?_⟩
    intro c d hhost hget hcompile
    rw [Compiler.inputs_of_dialog ((c.compile_eq_ok).1 hcompile).2.2 hget, hhost]
    exact hkept
  · intro before part after hentries htype hgives hnot
    obtain ⟨issue, h⟩ := EntryError.exists_of_range ⟨id, host.format⟩ before htype hgives hnot
    obtain ⟨hissue, herror⟩ := error_iff.2 ⟨before, part, after, hentries, h⟩
    exact ⟨issue, hissue, herror, h.names.2⟩

/-- A range with the given bounds. -/
def rangeOf (id : String) (bounds : List (String × Float)) : Document :=
  ⟨("id", .str id) :: ("type", .str "number_range") ::
    bounds.map fun bound ↦ (bound.1, .float bound.2)⟩

def risingRange : Document := rangeOf "rising" [("min", 1.0), ("max", 2.0)]

def fallingRange : Document := rangeOf "falling" [("min", 2.0), ("max", 1.0)]

theorem keeps_of_no_errors_ranges :
    (dialog id "d" (dialogOf [risingRange])).hasErrors = false ∧
    (∃ input d, built risingRange {} = .ok input ∧ input ∈ d.inputs ∧
      outcome ((Compiler.builtin ⟨[("d", dialogOf [risingRange])]⟩ {}).compile "d") = .ok d) ∧
    ¬ RangeFits fallingRange ∧
    ∃ issue ∈ (dialog id "d" (dialogOf [fallingRange])).issues,
      issue.severity = .error ∧ issue.input = some "falling" := by
  have hclean : (dialog id "d" (dialogOf [risingRange])).hasErrors = false := by decide +kernel
  obtain ⟨hkeeps, _⟩ := keeps_of_no_errors {} "d" (dialogOf [risingRange])
  obtain ⟨input, hinput, _, _, hcompiled⟩ :=
    hkeeps hclean risingRange (.head _) (.range rfl) fun _ ↦ .inl ⟨rfl, rfl⟩
  have hdialog : outcome ((Compiler.builtin ⟨[("d", dialogOf [risingRange])]⟩ {}).dialog [] "d") =
      .ok _ :=
    (Compiler.dialog_eq_ok _).2 ⟨List.not_mem_nil, _, _, rfl, rfl, rfl⟩
  have hcompile := (Compiler.compile_eq_ok _).2 ⟨rfl, rfl, hdialog⟩
  have hnot : ¬ RangeFits fallingRange := fun hfits ↦ absurd hfits.below (by decide +kernel)
  obtain ⟨_, hreports⟩ := keeps_of_no_errors {} "d" (dialogOf [fallingRange])
  exact ⟨hclean, ⟨input, _, hinput, hcompiled _ _ rfl rfl hcompile, hcompile⟩, hnot,
    hreports [] fallingRange [] rfl rfl ⟨rfl, rfl⟩ hnot⟩

/-- A range from 200 on, which leaves its other bound to the default of 100. -/
def openRange : Document := rangeOf "open" [("min", 200.0)]

theorem openRange_dropped_without_error :
    (dialog id "d" (dialogOf [openRange])).hasErrors = false ∧
    .map openRange.entries ∈ inputEntries "d" (dialogOf [openRange]) ∧
    typeName? openRange = some "number_range" ∧
    (∃ skip, built openRange {} = .error skip) ∧ keptInputs {} "d" (dialogOf [openRange]) = [] := by
  have hid : shownText? openRange "id" = some "open" := rfl
  have hnot : ¬ RangeFits openRange := fun hfits ↦ absurd hfits.below (by decide +kernel)
  exact ⟨by decide +kernel, .head _, rfl, built_eq_error_of_range hid rfl hnot {}, rfl⟩

end DialogKit.Validation
