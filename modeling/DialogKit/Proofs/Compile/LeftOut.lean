import DialogKit.Proofs.Compile.Formatting
import DialogKit.Proofs.Compile.Notes

/-!
# Components that are left out

No input and no body element is lost silently. Every entry of the two lists of a dialog is either
kept or reported, once, with its place and the reason; and what is kept and what is reported come in
the order of the entries. An entry is left out if it is no map, if its component is refused, or if
it is an input whose id an input that is kept before has. So an id is never taken by an input that
was not built.

This is said of the two lists first, and then of the whole compilation of a dialog: among all that
it notes, whatever it comes to, the reports on the dialog are those on its two lists.
-/

namespace DialogKit

open CompileM

namespace Compile

/-! ## What becomes of the entries of a list -/

/-- How the components of a list are built, and which of them may not stand behind which. -/
structure Rule (α : Type) where
  element : Element
  build : Document → Except Skip α
  /-- Why a component is left out behind those that are kept before it. -/
  repeats : List α → α → Option Skip

/-- Inputs with the id of an input before them are left out. -/
def inputRule (host : Host) : Rule Input where
  element := .input
  build part := Component.built part host
  repeats kept input :=
    if input.id ∈ kept.map Input.id then some (.duplicateId input.id) else none

def bodyRule (host : Host) : Rule BodyElement where
  element := .body
  build part := Component.body part host
  repeats _ _ := none

section

variable {α : Type}

/-- What becomes of an entry behind the components that are kept before it: it is left out for a
reason, or its component is kept. -/
inductive Rule.Decides (rule : Rule α) (kept : List α) (entry : Value) : Except Skip α → Prop where
  | notAMap (shape : Document.ofValue? entry = none) :
      Decides rule kept entry (.error (.notAMap rule.element))
  | refused {part : Document} {skip : Skip} (shape : Document.ofValue? entry = some part)
      (built : rule.build part = .error skip) : Decides rule kept entry (.error skip)
  | repeated {part : Document} {made : α} {skip : Skip}
      (shape : Document.ofValue? entry = some part) (built : rule.build part = .ok made)
      (again : rule.repeats kept made = some skip) : Decides rule kept entry (.error skip)
  | kept {part : Document} {made : α} (shape : Document.ofValue? entry = some part)
      (built : rule.build part = .ok made) (fresh : rule.repeats kept made = none) :
      Decides rule kept entry (.ok made)

def keptOf (fates : List (Except Skip α)) : List α :=
  fates.filterMap Except.toOption

/-- The reports on the entries that are left out, where the first entry has the place `start`. -/
def reportsFrom (dialog : String) (element : Element) (start : Nat)
    (fates : List (Except Skip α)) : List Log.Event :=
  (fates.zipIdx start).filterMap fun (fate, place) ↦
    match fate with
    | .ok _ => none
    | .error skip => some (skipEvent dialog element place skip)

/-- Every entry has its fate. The components that are kept and the reports on the entries that are
left out are in the order of the entries, and together they are as many. -/
structure Accounted (rule : Rule α) (dialog : String) (entries : List Value) (kept : List α)
    (reports : List Log.Event) (fates : List (Except Skip α)) : Prop where
  length : fates.length = entries.length
  decided : ∀ place entry fate, entries[place]? = some entry → fates[place]? = some fate →
    rule.Decides (keptOf (fates.take place)) entry fate
  kept_eq : kept = keptOf fates
  reports_eq : reports = reportsFrom dialog rule.element 0 fates
  total : kept.length + reports.length = entries.length

/-! ## The fates, entry by entry -/

/-- What becomes of a component that was built. -/
def Rule.judge (rule : Rule α) (kept : List α) (made : α) : Except Skip α :=
  match rule.repeats kept made with
  | some skip => .error skip
  | none => .ok made

def Rule.fate (rule : Rule α) (kept : List α) (entry : Value) : Except Skip α :=
  match Document.ofValue? entry with
  | none => .error (.notAMap rule.element)
  | some part => (rule.build part).bind (rule.judge kept)

theorem Rule.fate_scalar (rule : Rule α) (kept : List α) {entry value : Value}
    (h : Document.itemOf entry = .scalar value) :
    rule.fate kept entry = .error (.notAMap rule.element) := by
  rw [fate, ← Document.part?_itemOf, h]
  rfl

theorem Rule.fate_part (rule : Rule α) (kept : List α) {entry : Value} {part : Document}
    (h : Document.itemOf entry = .part part) :
    rule.fate kept entry = (rule.build part).bind (rule.judge kept) := by
  rw [fate, ← Document.part?_itemOf, h]
  rfl

theorem Rule.decides_fate (rule : Rule α) (kept : List α) (entry : Value) :
    rule.Decides kept entry (rule.fate kept entry) := by
  unfold fate
  cases hshape : Document.ofValue? entry with
  | none => exact .notAMap hshape
  | some part =>
    dsimp only
    cases hbuilt : rule.build part with
    | error skip => exact .refused hshape hbuilt
    | ok made =>
      dsimp only [Except.bind]
      unfold judge
      cases hrepeats : rule.repeats kept made with
      | some skip => exact .repeated hshape hbuilt hrepeats
      | none => exact .kept hshape hbuilt hrepeats

/-- The fates of the entries behind the components that are kept before them. -/
def Rule.fatesFrom (rule : Rule α) : List α → List Value → List (Except Skip α)
  | _, [] => []
  | kept, entry :: rest =>
      rule.fate kept entry :: rule.fatesFrom (kept ++ keptOf [rule.fate kept entry]) rest

theorem keptOf_append (fates fates' : List (Except Skip α)) :
    keptOf (fates ++ fates') = keptOf fates ++ keptOf fates' :=
  List.filterMap_append ..

theorem keptOf_ok (made : α) (fates : List (Except Skip α)) :
    keptOf (.ok made :: fates) = made :: keptOf fates := rfl

theorem keptOf_error (skip : Skip) (fates : List (Except Skip α)) :
    keptOf (.error skip :: fates) = keptOf fates := rfl

theorem reportsFrom_ok (dialog : String) (element : Element) (start : Nat) (made : α)
    (fates : List (Except Skip α)) : reportsFrom dialog element start (.ok made :: fates) =
      reportsFrom dialog element (start + 1) fates := rfl

theorem reportsFrom_error (dialog : String) (element : Element) (start : Nat) (skip : Skip)
    (fates : List (Except Skip α)) : reportsFrom dialog element start (.error skip :: fates) =
      skipEvent dialog element start skip :: reportsFrom dialog element (start + 1) fates := rfl

theorem length_fatesFrom (rule : Rule α) (kept : List α) (entries : List Value) :
    (rule.fatesFrom kept entries).length = entries.length := by
  induction entries generalizing kept with
  | nil => rfl
  | cons entry rest ih => exact congrArg (· + 1) (ih _)

theorem decided_fatesFrom (rule : Rule α) (kept : List α) (entries : List Value) (place : Nat)
    {entry : Value} {fate : Except Skip α} (hentry : entries[place]? = some entry)
    (hfate : (rule.fatesFrom kept entries)[place]? = some fate) :
    rule.Decides (kept ++ keptOf ((rule.fatesFrom kept entries).take place)) entry fate := by
  induction entries generalizing kept place with
  | nil => simp at hentry
  | cons first rest ih =>
    cases place with
    | zero =>
      obtain rfl : first = entry := by simpa using hentry
      obtain rfl : rule.fate kept first = fate := by simpa [Rule.fatesFrom] using hfate
      simpa [keptOf] using rule.decides_fate kept first
    | succ place =>
      have hlater := ih _ place (by simpa using hentry) (by simpa [Rule.fatesFrom] using hfate)
      rwa [List.append_assoc, ← keptOf_append] at hlater

theorem length_keptOf_add (dialog : String) (element : Element) (start : Nat)
    (fates : List (Except Skip α)) :
    (keptOf fates).length + (reportsFrom dialog element start fates).length = fates.length := by
  induction fates generalizing start with
  | nil => rfl
  | cons fate rest ih =>
    have hrest := ih (start + 1)
    cases fate with
    | ok made =>
      rw [keptOf_ok, reportsFrom_ok, List.length_cons, List.length_cons]
      omega
    | error skip =>
      rw [keptOf_error, reportsFrom_error, List.length_cons, List.length_cons]
      omega

/-- The fates from the first entry on account for the list. -/
theorem accounted_fatesFrom (rule : Rule α) (dialog : String) (entries : List Value) :
    Accounted rule dialog entries (keptOf (rule.fatesFrom [] entries))
      (reportsFrom dialog rule.element 0 (rule.fatesFrom [] entries))
      (rule.fatesFrom [] entries) where
  length := length_fatesFrom rule [] entries
  decided place _ _ hentry hfate := decided_fatesFrom rule [] entries place hentry hfate
  kept_eq := rfl
  reports_eq := rfl
  total := (length_keptOf_add ..).trans (length_fatesFrom rule [] entries)

theorem exists_of_mem_reportsFrom {dialog : String} {element : Element} {start : Nat}
    {fates : List (Except Skip α)} {event : Log.Event}
    (h : event ∈ reportsFrom dialog element start fates) :
    ∃ place skip, event = skipEvent dialog element place skip := by
  obtain ⟨⟨fate, place⟩, _, hreport⟩ := List.mem_filterMap.1 h
  cases fate with
  | ok made => simp at hreport
  | error skip => exact ⟨place, skip, (Option.some.inj hreport).symm⟩

end

/-! ## The two lists of a dialog -/

section

variable (dialog : String) (host : Host)

theorem skipped_bind {β : Type} (element : Element) (index : Nat) (skip : Skip) (next : Logged β) :
    (skipped dialog element index skip >>= fun _ ↦ next) =
      ⟨next.result, skipEvent dialog element index skip :: next.notes⟩ := rfl

theorem fate_body (kept : List BodyElement) {entry : Value} {part : Document}
    (h : Document.itemOf entry = .part part) :
    (bodyRule host).fate kept entry = Component.body part host := by
  rw [Rule.fate_part _ _ h]
  change (Component.body part host).bind .ok = _
  cases Component.body part host <;> rfl

theorem fate_input (kept : List Input) {entry : Value} {part : Document}
    (h : Document.itemOf entry = .part part) :
    (inputRule host).fate kept entry = (Component.built part host).bind fun input ↦
      if input.id ∈ kept.map Input.id then .error (.duplicateId input.id) else .ok input := by
  rw [Rule.fate_part _ _ h]
  change (Component.built part host).bind _ = _
  congr 1
  funext input
  dsimp only [Rule.judge, inputRule]
  by_cases hagain : input.id ∈ kept.map Input.id
  · rw [if_pos hagain, if_pos hagain]
  · rw [if_neg hagain, if_neg hagain]

/-- Nothing else is noted while body elements are built. -/
theorem bodiesFrom_eq (index : Nat) (kept : List BodyElement) (entries : List Value) :
    bodiesFrom dialog host index (entries.map Document.itemOf) =
      ⟨keptOf ((bodyRule host).fatesFrom kept entries),
        reportsFrom dialog .body index ((bodyRule host).fatesFrom kept entries)⟩ := by
  induction entries generalizing index kept with
  | nil => rfl
  | cons entry rest ih =>
    rw [List.map_cons, Rule.fatesFrom]
    cases hitem : Document.itemOf entry with
    | scalar value =>
      rw [Rule.fate_scalar _ _ hitem, keptOf_error, reportsFrom_error, bodiesFrom, skipped_bind, ih]
      rfl
    | part part =>
      rw [fate_body host kept hitem, bodiesFrom]
      cases Component.body part host with
      | error skip =>
        dsimp only
        rw [keptOf_error, reportsFrom_error, skipped_bind, ih]
      | ok element =>
        dsimp only
        rw [keptOf_ok, reportsFrom_ok, ih _ (kept ++ keptOf [.ok element])]
        exact congrArg (Journal.mk _) (List.append_nil _)

/-- An input reports at most that a value of it is no string. -/
theorem message_of_notes_input (part : Document) :
    Log.Notes (·.message = "ignoring non-string value") (Component.input part host) := by
  have hstring (key id : String) : ∀ event ∈ (Component.stringOnly part key id).notes,
      event.message = "ignoring non-string value" := by
    unfold Component.stringOnly
    split
    · simp
    · exact fun event hevent ↦ List.mem_singleton.1 hevent ▸ rfl
    · simp
  have hkind (id : String) :
      Log.Notes (·.message = "ignoring non-string value") (Component.inputKind part id host) := by
    unfold Component.inputKind
    split
    case h_1 =>
      apply Log.notes_lift
      intro event hevent
      unfold Component.booleanInput at hevent
      simp only [Journal.notes_bind, Journal.notes_pure, List.append_nil, List.mem_append] at hevent
      exact hevent.elim (hstring _ _ event) (hstring _ _ event)
    case h_5 => exact Log.notes_throw _
    all_goals rintro event ⟨⟩
  unfold Component.input
  split
  · exact Log.notes_throw _
  · exact (hkind _).bind fun _ ↦ Log.notes_pure _

/-- Of what building an input notes, nothing reports a component that is left out. -/
theorem filter_notes_input (other : String) (part : Document) :
    (Component.input part host).run.notes.filter (skipsIn other) = [] := by
  rw [List.filter_eq_nil_iff]
  intro event hevent
  rw [skipsIn_of_message (message_of_notes_input host part event hevent ▸ by decide)]
  simp

/-- The ids in `taken` are those of the inputs kept before. -/
theorem inputsFrom_spec (other : String) (index : Nat) {taken : List String} {kept : List Input}
    (htaken : ∀ id, id ∈ taken ↔ id ∈ kept.map Input.id) (entries : List Value) :
    (inputsFrom dialog host index taken (entries.map Document.itemOf)).result =
        keptOf ((inputRule host).fatesFrom kept entries) ∧
      (inputsFrom dialog host index taken (entries.map Document.itemOf)).notes.filter
          (skipsIn other) =
        (reportsFrom dialog .input index ((inputRule host).fatesFrom kept entries)).filter
          (skipsIn other) := by
  induction entries generalizing index taken kept with
  | nil => exact ⟨rfl, rfl⟩
  | cons entry rest ih =>
    have hskip (skip : Skip) :
        ∀ id, id ∈ taken ↔ id ∈ (kept ++ keptOf [.error skip]).map Input.id := by
      simpa [keptOf, Except.toOption] using htaken
    rw [List.map_cons, Rule.fatesFrom]
    cases hitem : Document.itemOf entry with
    | scalar value =>
      obtain ⟨hresult, hnotes⟩ := ih (index + 1) (hskip (.notAMap .input))
      rw [Rule.fate_scalar _ _ hitem, keptOf_error, reportsFrom_error, inputsFrom, skipped_bind]
      exact ⟨hresult, by rw [List.filter_cons, List.filter_cons, hnotes]; rfl⟩
    | part part =>
      rw [fate_input host kept hitem, inputsFrom, Journal.result_bind, Journal.notes_bind,
        List.filter_append, filter_notes_input, List.nil_append, ← Component.built]
      cases Component.built part host with
      | error skip =>
        obtain ⟨hresult, hnotes⟩ := ih (index + 1) (hskip skip)
        dsimp only [Except.bind]
        rw [keptOf_error, reportsFrom_error, skipped_bind]
        exact ⟨hresult, by rw [List.filter_cons, List.filter_cons, hnotes]⟩
      | ok input =>
        dsimp only [Except.bind]
        by_cases hagain : input.id ∈ kept.map Input.id
        · obtain ⟨hresult, hnotes⟩ := ih (index + 1) (hskip (.duplicateId input.id))
          rw [if_pos (by simpa using (htaken _).2 hagain), if_pos hagain, keptOf_error,
            reportsFrom_error, skipped_bind]
          exact ⟨hresult, by rw [List.filter_cons, List.filter_cons, hnotes]⟩
        · have hlonger : ∀ id, id ∈ input.id :: taken ↔
              id ∈ (kept ++ keptOf [.ok input]).map Input.id := by
            intro id
            simp [keptOf, Except.toOption, htaken, or_comm]
          obtain ⟨hresult, hnotes⟩ := ih (index + 1) hlonger
          have hfree : ¬ input.id ∈ taken := mt (htaken _).1 hagain
          rw [if_neg (by simpa using hfree), if_neg hagain, keptOf_ok, reportsFrom_ok]
          refine ⟨congrArg (input :: ·) hresult, ?_⟩
          rw [Journal.notes_bind, Journal.notes_pure, List.append_nil, hnotes]

theorem filter_reportsFrom_self (element : Element) (start : Nat) {α : Type}
    (fates : List (Except Skip α)) :
    (reportsFrom dialog element start fates).filter (skipsIn dialog) =
      reportsFrom dialog element start fates := by
  rw [List.filter_eq_self]
  intro event hevent
  obtain ⟨place, skip, rfl⟩ := exists_of_mem_reportsFrom hevent
  rw [skipsIn_skipEvent, beq_self_eq_true]

theorem filter_reportsFrom_of_ne {other : String} (h : dialog ≠ other) (element : Element)
    (start : Nat) {α : Type} (fates : List (Except Skip α)) :
    (reportsFrom dialog element start fates).filter (skipsIn other) = [] := by
  rw [List.filter_eq_nil_iff]
  intro event hevent
  obtain ⟨place, skip, rfl⟩ := exists_of_mem_reportsFrom hevent
  simp [skipsIn_skipEvent, h]

variable (root : Document)

theorem inputs_spec (other : String) :
    let fates := (inputRule host).fatesFrom [] ((root.list? "inputs").getD [])
    (inputs dialog host root).result = keptOf fates ∧
      (inputs dialog host root).notes.filter (skipsIn other) =
        (reportsFrom dialog .input 0 fates).filter (skipsIn other) := by
  have hnone : ∀ id, id ∈ ([] : List String) ↔ id ∈ ([] : List Input).map Input.id := by simp
  exact inputsFrom_spec dialog host other 0 hnone ((root.list? "inputs").getD [])

theorem accounted_inputs : ∃ fates, Accounted (inputRule host) dialog
    ((root.list? "inputs").getD []) (inputs dialog host root).result
    ((inputs dialog host root).notes.filter (skipsIn dialog)) fates := by
  obtain ⟨hresult, hnotes⟩ := inputs_spec dialog host root dialog
  rw [filter_reportsFrom_self] at hnotes
  rw [hresult, hnotes]
  exact ⟨_, accounted_fatesFrom (inputRule host) dialog _⟩

theorem accounted_bodies : ∃ fates, Accounted (bodyRule host) dialog
    ((root.list? "bodies").getD []) (bodies dialog host root).result
    (bodies dialog host root).notes fates := by
  rw [bodies, Document.items, bodiesFrom_eq dialog host 0 []]
  exact ⟨_, accounted_fatesFrom (bodyRule host) dialog _⟩

theorem filter_notes_inputs_of_ne {other : String} (h : dialog ≠ other) :
    (inputs dialog host root).notes.filter (skipsIn other) = [] := by
  rw [(inputs_spec dialog host root other).2, filter_reportsFrom_of_ne dialog h]

theorem filter_notes_bodies : (bodies dialog host root).notes.filter (skipsIn dialog) =
    (bodies dialog host root).notes := by
  rw [bodies, Document.items, bodiesFrom_eq dialog host 0 [], filter_reportsFrom_self]

theorem filter_notes_bodies_of_ne {other : String} (h : dialog ≠ other) :
    (bodies dialog host root).notes.filter (skipsIn other) = [] := by
  rw [bodies, Document.items, bodiesFrom_eq dialog host 0 [], filter_reportsFrom_of_ne dialog h]

/-- An input is kept exactly if an entry makes it, behind no entry that makes one with its id. -/
theorem mem_inputs {input : Input} : input ∈ (inputs dialog host root).result ↔
    ∃ before part after, (root.list? "inputs").getD [] = before ++ .map part.entries :: after ∧
      Component.built part host = .ok input ∧
      ∀ other ∈ before.filterMap (inputOf? host), other.id ≠ input.id := by
  rw [result_inputs]
  constructor
  · intro hinput
    obtain ⟨made, _, hsplit, hfirst⟩ := exists_of_mem_firstOfEach hinput
    obtain ⟨front, back, hentries, rfl, hback⟩ := List.filterMap_eq_append_iff.1 hsplit
    obtain ⟨silent, entry, after, rfl, hsilent, hentry, _⟩ := List.filterMap_eq_cons_iff.1 hback
    obtain ⟨part, rfl, hbuilt⟩ := inputOf?_eq_some.1 hentry
    refine ⟨front ++ silent, part, after, by rw [hentries, List.append_assoc], hbuilt, ?_⟩
    rwa [List.filterMap_append, List.filterMap_eq_nil_iff.2 hsilent, List.append_nil]
  · rintro ⟨before, part, after, hentries, hbuilt, hfirst⟩
    have hentry : inputOf? host (.map part.entries) = some input :=
      inputOf?_eq_some.2 ⟨part, rfl, hbuilt⟩
    rw [hentries, List.filterMap_append, List.filterMap_cons_some hentry]
    exact mem_firstOfEach List.not_mem_nil hfirst

end

end Compile

/-! ## Whole compilations -/

namespace Compiler

open Compile (Silent skipsIn)

variable {c : Compiler}

/-- What is noted while a dialog is put together: between the first event and what the kind and the
targets of buttons note stand the notes on the two lists. -/
theorem exists_notes_build (c : Compiler) (compileTarget : String → CompileM Definition)
    (path : List String) (id : String) (root : Document) :
    ∃ first rest, (c.build compileTarget path id root).run.notes =
        first :: ((Compile.inputs id c.host root).notes ++
          ((Compile.bodies id c.host root).notes ++ rest)) ∧
      ∀ other, skipsIn other first = false ∧
        (c.kinds.SkipNothing → (∀ target, Silent other (compileTarget target)) →
          rest.filter (skipsIn other) = []) := by
  unfold build
  rw [Compile.report, Log.run_notes_lift_bind, Log.run_notes_lift_bind, Log.run_notes_lift_bind]
  refine ⟨_, _, rfl, fun other ↦ ⟨?_, fun hkinds htarget ↦ Compile.silent_iff.1 ?_⟩⟩
  · exact Compile.skipsIn_of_message (show "compiling dialog" ≠ Compile.skipMessage by decide) other
  · have hkind : ∀ name view root, ((c.kinds.resolve name).result.plan view root).SkipsNothing :=
      KindSet.forall_resolve hkinds Kind.skipsNothing_confirmation
    refine Log.notes_lift_bind (fun event hevent ↦ ?_) ?_
    · rw [Compile.skipsIn_of_message (message_of_notes_resolve hevent ▸ by decide)]
    · refine (silent_runPlan htarget (hkind _ _ root)).bind fun layout ↦ ?_
      exact (Compile.silent_report (by decide)).bind fun _ ↦ Log.notes_pure _

/-- Behind a dialog on the path nothing reports a component of it that is left out. -/
theorem silent_dialog (hkinds : c.kinds.SkipNothing) {other : String} {path : List String}
    (hother : other ∈ path) (id : String) : Silent other (c.dialog path id) := by
  induction path, id using dialog.induct c with
  | case1 path id hmem =>
    rw [dialog, dif_pos hmem]
    exact (Compile.silent_report (by decide)).bind fun _ ↦ Log.notes_throw _
  | case2 path id hmem hnone =>
    rw [dialog_of_root?_eq_none c hmem hnone]
    exact Log.notes_throw _
  | case3 path id hmem root hroot ih =>
    have hne : id ≠ other := fun heq ↦ hmem (heq ▸ hother)
    obtain ⟨first, rest, hnotes, hquiet⟩ := exists_notes_build c _ (path ++ [id]) id root
    obtain ⟨hfirst, hrest⟩ := hquiet other
    have hrest := hrest hkinds fun target ↦ ih target (List.mem_append_left _ hother)
    rw [Compile.silent_iff, dialog_of_root? c hmem hroot, hnotes,
      List.filter_cons_of_neg (by simp [hfirst]), List.filter_append, List.filter_append, hrest,
      Compile.filter_notes_inputs_of_ne id c.host root hne,
      Compile.filter_notes_bodies_of_ne id c.host root hne]
    rfl

/-- No component of a dialog is lost silently. Each entry of its two lists has its fate, and there
is one report for each that is left out; of the inputs that are built, those are kept that have no
input with the same id before them. The dialog, where it is compiled at all, has what is kept, and
whatever the compilation comes to, its reports on the dialog are those on the two lists. -/
theorem nothing_lost (c : Compiler) {path : List String} {id : String} {root : Document}
    (hid : id ∉ path) (hroot : c.catalog.root? id = some root) :
    let entries (key : String) : List Value := (root.list? key).getD []
    let inputs := Compile.inputs id c.host root
    let bodies := Compile.bodies id c.host root
    let compiled := (c.dialog path id).run
    (∃ fates, Compile.Accounted (Compile.inputRule c.host) id (entries "inputs") inputs.result
      (inputs.notes.filter (skipsIn id)) fates) ∧
    (∃ fates, Compile.Accounted (Compile.bodyRule c.host) id (entries "bodies") bodies.result
      bodies.notes fates) ∧
    (∀ input, input ∈ inputs.result ↔
      ∃ before part after, entries "inputs" = before ++ .map part.entries :: after ∧
        Component.built part c.host = .ok input ∧
        ∀ other ∈ before.filterMap (Compile.inputOf? c.host), other.id ≠ input.id) ∧
    (∀ d, compiled.result = .ok d → d.inputs = inputs.result ∧ d.body = bodies.result) ∧
    inputs.notes ++ bodies.notes <:+: compiled.notes ∧
    (c.kinds.SkipNothing →
      compiled.notes.filter (skipsIn id) = inputs.notes.filter (skipsIn id) ++ bodies.notes) := by
  intro entries inputs bodies compiled
  have hdialog : c.dialog path id = c.build (c.dialog (path ++ [id])) (path ++ [id]) id root :=
    dialog_of_root? c hid hroot
  obtain ⟨first, rest, hnotes, hquiet⟩ :=
    exists_notes_build c (c.dialog (path ++ [id])) (path ++ [id]) id root
  rw [← hdialog] at hnotes
  obtain ⟨hfirst, hrest⟩ := hquiet id
  refine ⟨Compile.accounted_inputs id c.host root, Compile.accounted_bodies id c.host root,
    fun _ ↦ Compile.mem_inputs id c.host root, fun d hd ↦ ?_, ⟨[first], rest, ?_⟩,
    fun hkinds ↦ ?_⟩
  · obtain ⟨_, found, layout, hfound, _, rfl⟩ := c.dialog_eq_ok.1 hd
    obtain rfl : root = found := Option.some.inj (hroot.symm.trans hfound)
    exact ⟨rfl, rfl⟩
  · rw [hnotes, List.append_assoc, List.append_assoc]
    rfl
  · have hsilent := hrest hkinds fun target ↦
      silent_dialog hkinds (List.mem_append_right path (List.mem_singleton_self id)) target
    rw [hnotes, List.filter_cons_of_neg (by simp [hfirst]), List.filter_append,
      List.filter_append, hsilent, List.append_nil, Compile.filter_notes_bodies]

/-- A form whose inputs are a scalar, one without an id, one of an unknown type, one that is built
under the id of that one, and one more with this id. -/
def form : Document :=
  ⟨[("inputs", .list [.null, .map [("type", .str "text")],
      .map [("id", .str "name"), ("type", .str "dial")], .map [("id", .str "name")],
      .map [("id", .str "name"), ("type", .str "boolean")]]),
    ("bodies", .list [.map [("type", .str "plain_message")], .int 5])]⟩

theorem nothing_lost_form :
    let c := builtin ⟨[("form", form)]⟩ {}
    "form" ∉ [] ∧ c.catalog.root? "form" = some form ∧ c.kinds.SkipNothing ∧
    (Compile.inputs "form" {} form).result = [⟨"name", "name", .text "" 300 0 true none⟩] ∧
    (c.dialog [] "form").run.notes.filter (skipsIn "form") =
      [Compile.skipEvent "form" .input 0 (.notAMap .input),
        Compile.skipEvent "form" .input 1 (.missingField .input "id"),
        Compile.skipEvent "form" .input 2 (.unsupportedType .input "dial"),
        Compile.skipEvent "form" .input 4 (.duplicateId "name"),
        Compile.skipEvent "form" .body 1 (.notAMap .body)] := by
  intro c
  have hroot : c.catalog.root? "form" = some form := rfl
  obtain ⟨_, _, _, _, _, hnotes⟩ := nothing_lost c List.not_mem_nil hroot
  exact ⟨List.not_mem_nil, hroot, KindSet.skipNothing_builtin, rfl,
    hnotes KindSet.skipNothing_builtin⟩

end Compiler

end DialogKit
