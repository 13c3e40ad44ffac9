import DialogKit.Proofs.Catalog.Layout
import DialogKit.Proofs.Engine.Opening
import DialogKit.Proofs.Validation.Errors
import Mathlib.Algebra.GroupWithZero.Nat
import Mathlib.Data.List.Forall2

/-!
# The report on a catalog

The report on a catalog is the sum of the reports on its dialogs. They follow each other in the
order of the sorted ids, and each of them can be told from the others again: every rule attributes
its issues to the dialog that is checked, and no id comes twice. So opening a dialog, which checks
it alone, refuses it for the errors that the report on the whole catalog has for it.
-/

namespace DialogKit.Validation

/-! ## Attribution -/

/-- Every issue of the list is attributed to the dialog. -/
def Names (id : String) (issues : List Issue) : Prop :=
  ∀ issue ∈ issues, issue.dialog = id

section

variable {s : Subject} {part root : Document} {id : String}

@[simp] theorem names_nil : Names id [] := nofun

@[simp] theorem names_cons {issue : Issue} {issues : List Issue} :
    Names id (issue :: issues) ↔ issue.dialog = id ∧ Names id issues := by
  simp [Names]

@[simp] theorem names_append {issues issues' : List Issue} :
    Names id (issues ++ issues') ↔ Names id issues ∧ Names id issues' := by
  simp [Names, or_imp, forall_and]

@[simp] theorem dialog_inputIssue (severity : Severity) (input message suggestion : String) :
    (s.inputIssue severity input message suggestion).dialog = s.dialog := rfl

@[simp] theorem dialog_dialogIssue (severity : Severity) (message suggestion : String) :
    (s.dialogIssue severity message suggestion).dialog = s.dialog := rfl

theorem names_markupIssues {initial : String} {maxLength : Int} :
    Names s.dialog (markupIssues s id initial maxLength) := by
  unfold markupIssues
  rw [names_append]
  constructor <;> split <;> simp

theorem names_textIssues : Names s.dialog (textIssues s part id) := by
  unfold textIssues
  split
  · simp
  · rw [names_append]
    constructor
    · split <;> simp [names_markupIssues]
    · split <;> simp

theorem names_rangeIssues : Names s.dialog (rangeIssues s part id) :=
  fun _ hmem ↦ (concerns_rangeIssues hmem).dialog

theorem names_booleanIssues : Names s.dialog (booleanIssues s part id) := by
  unfold booleanIssues
  split <;> simp

theorem names_settingIssues : Names s.dialog (settingIssues s part id) := by
  unfold settingIssues
  split <;> simp [names_textIssues, names_rangeIssues, names_booleanIssues]

theorem names_entryIssues {index : Nat} {seen : List String} {entry : Value} :
    Names s.dialog (entryIssues s index seen entry) := by
  unfold entryIssues
  split
  · simp
  · split
    · simp [missingId]
    · rw [names_append]
      exact ⟨by split <;> simp [repeatedId], names_settingIssues⟩

theorem names_inputIssuesFrom {index : Nat} {seen : List String} {entries : List Value} :
    Names s.dialog (inputIssuesFrom s index seen entries) := by
  induction entries generalizing index seen with
  | nil => exact names_nil
  | cons entry rest ih =>
    rw [inputIssuesFrom_cons, names_append]
    exact ⟨names_entryIssues, ih⟩

theorem names_nestingIssues {document : Document} :
    Names s.dialog (nestingIssues s document) := by
  unfold nestingIssues
  split <;> simp

theorem names_buttonIssues : Names s.dialog (buttonIssues s root) := by
  unfold buttonIssues
  split
  · split <;> simp
  · simp

theorem names_titleIssues : Names s.dialog (titleIssues s root) := by
  unfold titleIssues
  split <;> simp

end

/-- Whatever is wrong with a dialog is attributed to the id that it is checked under. -/
theorem names_dialog (format : Formatter) (id : String) (document : Document) :
    Names id (dialog format id document).issues := by
  change Names (Subject.mk id format).dialog _
  simp only [dialog, names_append]
  exact ⟨⟨⟨names_nestingIssues, names_inputIssuesFrom⟩, names_buttonIssues⟩, names_titleIssues⟩

/-! ## Sums -/

/-- The report is the one on the dialog that the catalog has under the id. -/
def IsReportOn (format : Formatter) (c : Catalog) (id : String) (found : Report) : Prop :=
  ∃ document, c.get? id = some document ∧ found = dialog format id document

section

variable {format : Formatter} {c : Catalog} {id : String} {found : Report}

theorem issuesOf_eq_nil (h : c.contains id = false) : issuesOf format c id = [] := by
  have hget : c.get? id = none := by simpa [Catalog.contains] using h
  rw [issuesOf, hget]
  rfl

theorem IsReportOn.issues (h : IsReportOn format c id found) :
    found.issues = issuesOf format c id := by
  obtain ⟨document, hget, rfl⟩ := h
  rw [issuesOf, hget]
  rfl

theorem isReportOn_issuesOf (h : c.contains id = true) :
    IsReportOn format c id ⟨issuesOf format c id⟩ := by
  obtain ⟨document, hget⟩ := Option.isSome_iff_exists.1 h
  refine ⟨document, hget, ?_⟩
  rw [issuesOf, hget]
  rfl

theorem names_issuesOf (format : Formatter) (c : Catalog) (id : String) :
    Names id (issuesOf format c id) := by
  unfold issuesOf
  cases c.get? id with
  | none => exact names_nil
  | some document => exact names_dialog format id document

theorem mem_ids : id ∈ c.ids ↔ c.contains id = true :=
  c.ids_perm_order.mem_iff.trans Entries.isSome_get?.symm

/-- Out of the issues of several dialogs, those of one dialog are found again. -/
theorem filter_flatMap_issuesOf {ids : List String} (hids : ids.Nodup) (id : String) :
    (ids.flatMap (issuesOf format c)).filter (fun issue ↦ issue.dialog == id) =
      if id ∈ ids then issuesOf format c id else [] := by
  have hone (other : String) : (issuesOf format c other).filter (fun issue ↦ issue.dialog == id) =
      if other = id then issuesOf format c other else [] := by
    have hnames := names_issuesOf format c other
    split
    case isTrue h => exact List.filter_eq_self.2 fun issue hmem ↦ by simp [hnames issue hmem, h]
    case isFalse h => exact List.filter_eq_nil_iff.2 fun issue hmem ↦ by simp [hnames issue hmem, h]
  induction ids with
  | nil => rfl
  | cons first rest ih =>
    obtain ⟨hfirst, hrest⟩ := List.nodup_cons.1 hids
    rw [List.flatMap_cons, List.filter_append, hone, ih hrest]
    by_cases heq : first = id
    · subst heq
      simp [hfirst]
    · simp [heq, Ne.symm heq]

theorem forDialog_catalog (hkeys : c.order.Nodup) (id : String) :
    (catalog format c).forDialog id = ⟨issuesOf format c id⟩ := by
  have hids : c.ids.Nodup := c.ids_perm_order.nodup_iff.2 hkeys
  refine congrArg Report.mk ?_
  rw [issues_catalog, filter_flatMap_issuesOf hids]
  split
  · rfl
  case isFalse hunknown =>
    rw [issuesOf_eq_nil]
    simpa [mem_ids] using hunknown

theorem IsReportOn.forDialog_eq (h : IsReportOn format c id found) (hkeys : c.order.Nodup) :
    (catalog format c).forDialog id = found := by
  rw [forDialog_catalog hkeys, ← h.issues]

/-- The dialogs have their reports, in the order of the sorted ids. -/
theorem forall₂_isReportOn (format : Formatter) (c : Catalog) :
    List.Forall₂ (IsReportOn format c) c.ids (c.ids.map fun id ↦ ⟨issuesOf format c id⟩) := by
  rw [List.forall₂_map_right_iff, List.forall₂_same]
  exact fun id hid ↦ isReportOn_issuesOf (mem_ids.1 hid)

theorem issues_catalog_eq_flatMap (format : Formatter) (c : Catalog) :
    (catalog format c).issues =
      (c.ids.map fun id ↦ Report.mk (issuesOf format c id)).flatMap Report.issues := by
  rw [issues_catalog, List.flatMap_map]

end

namespace Report

theorem count_of_issues_eq {total : Report} {reports : List Report}
    (h : total.issues = reports.flatMap Report.issues) (severity : Severity) :
    total.count severity = (reports.map fun found ↦ found.count severity).sum := by
  simp only [count, h, List.filter_flatMap, List.length_flatMap]

/-- Every issue is an error, a warning or a hint. -/
theorem counts_eq_length (found : Report) :
    found.count .error + found.count .warning + found.count .info = found.issues.length := by
  obtain ⟨issues⟩ := found
  induction issues with
  | nil => rfl
  | cons issue rest ih =>
    simp only [count] at ih ⊢
    cases hseverity : issue.severity <;> simp [hseverity] <;> omega

end Report

end DialogKit.Validation

namespace DialogKit.Engine

open CompileM (outcome)
open Validation (Report IsReportOn)

variable {A M H σ : Type}

/-! ## Opening -/

theorem validateDialog_eq_some {e : Engine A M H σ} {id : String} {found : Report} :
    e.validateDialog id = some found ↔ IsReportOn e.host.format e.catalog id found := by
  unfold validateDialog IsReportOn
  rw [Option.map_eq_some_iff]
  exact exists_congr fun document ↦ and_congr_right fun _ ↦ eq_comm

/-- What keeps a dialog from being opened is the part of the report on the catalog that is about
it, if there are errors in it. -/
theorem blocking?_eq_some {e : Engine A M H σ} (hkeys : e.catalog.order.Nodup) {id : String}
    {found : Report} : e.blocking? id = some found ↔ e.settings.validation = .blockOnError ∧
      (e.validate.forDialog id).hasErrors = true ∧ found = e.validate.forDialog id := by
  have hfound : (e.validate.forDialog id).hasErrors = true →
      IsReportOn e.host.format e.catalog id (e.validate.forDialog id) := by
    intro herrors
    have hforDialog : e.validate.forDialog id = _ := Validation.forDialog_catalog hkeys id
    rw [hforDialog] at herrors ⊢
    refine Validation.isReportOn_issuesOf ?_
    by_contra hunknown
    rw [Validation.issuesOf_eq_nil (by simpa using hunknown)] at herrors
    simp [Report.hasErrors] at herrors
  rw [blocking?, Option.filter_eq_some_iff, validateDialog_eq_some]
  simp only [Validation.Policy.blocks, Bool.and_eq_true, beq_iff_eq]
  constructor
  · rintro ⟨hreport, hpolicy, herrors⟩
    obtain rfl : e.validate.forDialog id = found := hreport.forDialog_eq hkeys
    exact ⟨hpolicy, herrors, rfl⟩
  · rintro ⟨hpolicy, herrors, rfl⟩
    exact ⟨hfound herrors, hpolicy, herrors⟩

/-- A dialog is refused for its errors in the report on the catalog, and for nothing else. -/
theorem result_opening_eq_blocked {e : Engine A M H σ} (hkeys : e.catalog.order.Nodup)
    {id other : String} {errors : Nat} :
    (e.opening id).result = .error (.blocked other errors) ↔
      e.settings.validation = .blockOnError ∧ (e.validate.forDialog id).hasErrors = true ∧
        other = id ∧ errors = (e.validate.forDialog id).count .error := by
  cases hblocking : e.blocking? id with
  | some found =>
    obtain ⟨hpolicy, herrors, rfl⟩ := (blocking?_eq_some hkeys).1 hblocking
    rw [result_opening_of_blocking hblocking]
    simp [hpolicy, herrors, eq_comm]
  | none =>
    have hnot (hpolicy : e.settings.validation = .blockOnError)
        (herrors : (e.validate.forDialog id).hasErrors = true) : False := by
      rw [(blocking?_eq_some hkeys).2 ⟨hpolicy, herrors, rfl⟩] at hblocking
      exact nomatch hblocking
    rw [result_opening_of_not_blocking hblocking]
    constructor
    · intro hblocked
      cases hcompile : outcome (e.compiler.compile id) <;> rw [hcompile] at hblocked <;>
        cases hblocked
    · rintro ⟨hpolicy, herrors, _⟩
      exact (hnot hpolicy herrors).elim

/-- The report on a catalog is the sum of the reports on its dialogs, which it can be taken apart
into again. Opening a dialog therefore goes by the report on the whole catalog: a strict policy
refuses it exactly if there are errors for it, and tells their number. -/
theorem validation_sums_up {c : Catalog} (hkeys : c.order.Nodup) (format : Formatter) :
    let total := Validation.catalog format c
    (∃ reports, List.Forall₂ (IsReportOn format c) c.ids reports ∧
      total.issues = reports.flatMap Report.issues ∧
      ∀ severity, total.count severity = (reports.map fun found ↦ found.count severity).sum) ∧
    total.count .error + total.count .warning + total.count .info = total.issues.length ∧
    (∀ id found, IsReportOn format c id found →
      (∀ issue ∈ found.issues, issue.dialog = id) ∧ total.forDialog id = found) ∧
    (∀ id, c.contains id = false → (total.forDialog id).isClean = true) ∧
    ∀ {A M H σ : Type} (e : Engine A M H σ), e.catalog = c → e.host.format = format →
      e.validate = total ∧
      ∀ id, ∃ answer e', openDialog id e = some (answer, e') ∧
        ((∃ other errors, answer = .error (.blocked other errors)) ↔
          e.settings.validation = .blockOnError ∧ (e.validate.forDialog id).hasErrors = true) ∧
        ∀ other errors, answer = .error (.blocked other errors) →
          other = id ∧ errors = (e.validate.forDialog id).count .error := by
  intro total
  refine ⟨?_, total.counts_eq_length, ?_, ?_, ?_⟩
  · have hissues := Validation.issues_catalog_eq_flatMap format c
    exact ⟨_, Validation.forall₂_isReportOn format c, hissues, Report.count_of_issues_eq hissues⟩
  · intro id found hfound
    refine ⟨?_, hfound.forDialog_eq hkeys⟩
    rw [hfound.issues]
    exact Validation.names_issuesOf format c id
  · intro id hunknown
    rw [Validation.forDialog_catalog hkeys, Validation.issuesOf_eq_nil hunknown]
    rfl
  · rintro A M H σ e rfl rfl
    refine ⟨rfl, fun id ↦ ⟨_, _, openDialog_eq e id, ?_, ?_⟩⟩
    · simp only [result_opening_eq_blocked hkeys]
      constructor
      · rintro ⟨other, errors, hpolicy, herrors, _⟩
        exact ⟨hpolicy, herrors⟩
      · rintro ⟨hpolicy, herrors⟩
        exact ⟨id, _, hpolicy, herrors, rfl, rfl⟩
    · intro other errors hanswer
      exact ((result_opening_eq_blocked hkeys).1 hanswer).2.2

/-- A dialog without a title, and a disabled one that shows itself and has two inputs without
ids. -/
def faultyCatalog : Catalog :=
  ⟨[("menu", ⟨[]⟩),
    ("Loop", ⟨(Compiler.noticeOf "Loop").entries ++
      [("enabled", .bool false), ("inputs", .list [.map [], .map []])]⟩)]⟩

theorem validation_sums_up_faulty :
    let e := strict faultyCatalog
    faultyCatalog.order.Nodup ∧ faultyCatalog.isEnabled "Loop" = false ∧
    (e.validate.forDialog "menu").count .warning = 1 ∧
    (e.validate.forDialog "Loop").count .error = 2 ∧
    ∃ e', openDialog "Loop" e = some (.error (.blocked "Loop" 2), e') := by
  intro e
  have hkeys : faultyCatalog.order.Nodup := by decide
  obtain ⟨_, _, hparts, _, hopen⟩ := validation_sums_up hkeys e.host.format
  obtain ⟨hvalidate, hgate⟩ := hopen e rfl rfl
  have hmenu := (hparts "menu" _ ⟨⟨[]⟩, rfl, rfl⟩).2
  have hloop := (hparts "Loop" _ ⟨_, rfl, rfl⟩).2
  rw [← hvalidate] at hmenu hloop
  have herrors : (e.validate.forDialog "Loop").count .error = 2 := by
    rw [hloop]
    rfl
  obtain ⟨answer, e', hanswer, hblocked, hcount⟩ := hgate "Loop"
  obtain ⟨other, errors, rfl⟩ := hblocked.2 ⟨rfl, by rw [hloop]; rfl⟩
  obtain ⟨rfl, rfl⟩ := hcount _ _ rfl
  exact ⟨hkeys, rfl, by rw [hmenu]; rfl, herrors, e', herrors ▸ hanswer⟩

end DialogKit.Engine
