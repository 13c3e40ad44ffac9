import DialogKit.Proofs.Compile.Formatting
import DialogKit.Proofs.Compile.Trail
import DialogKit.Proofs.Engine.Opening
import DialogKit.Proofs.Validation.Errors

/-!
# Formatting and opening

The formatter of an engine has no say in what a dialog opens as. The validator formats a text only
to warn of its length, so a strict policy refuses the same dialogs; and a dialog that is opened has
the same ids, values, actions and embedded dialogs with every formatter. What changes are the texts
on display, and each of them is the plain one or the plain one formatted.
-/

namespace DialogKit

open CompileM

namespace Validation

def Issue.isError (i : Issue) : Bool :=
  i.severity == .error

theorem Report.hasErrors_eq (r : Report) :
    r.hasErrors = !(r.issues.filter Issue.isError).isEmpty := by
  rw [Bool.eq_iff_iff]
  simp [Report.hasErrors, Issue.isError]

section

variable (f g : Formatter) (id : String)

/-- Only the warnings of a text tell of the formatter. -/
theorem errors_textIssues (s : Subject) (part : Document) (input : String) :
    (textIssues s part input).filter Issue.isError = [] := by
  rw [List.filter_eq_nil_iff]
  intro issue hissue
  simpa [Issue.isError] using severity_textIssues hissue

theorem errors_settingIssues (part : Document) (input : String) :
    (settingIssues ⟨id, f⟩ part input).filter Issue.isError =
      (settingIssues ⟨id, g⟩ part input).filter Issue.isError := by
  unfold settingIssues
  split
  case h_1 =>
    have hwarning (s : Subject) (message suggestion : String) :
        (s.inputIssue .warning input message suggestion).isError = false := rfl
    simp [hwarning, errors_textIssues]
  case h_2 => rw [errors_textIssues, errors_textIssues]
  case h_3 => rfl
  case h_4 => rfl
  case h_5 => rfl

theorem errors_entryIssues (index : Nat) (seen : List String) (entry : Value) :
    (entryIssues ⟨id, f⟩ index seen entry).filter Issue.isError =
      (entryIssues ⟨id, g⟩ index seen entry).filter Issue.isError := by
  unfold entryIssues
  cases Document.ofValue? entry with
  | none => rfl
  | some part =>
    dsimp only
    cases Component.shownText? part "id" with
    | none => rfl
    | some input =>
      dsimp only
      rw [List.filter_append, List.filter_append, errors_settingIssues f g]
      rfl

theorem errors_inputIssuesFrom (index : Nat) (seen : List String) (entries : List Value) :
    (inputIssuesFrom ⟨id, f⟩ index seen entries).filter Issue.isError =
      (inputIssuesFrom ⟨id, g⟩ index seen entries).filter Issue.isError := by
  induction entries generalizing index seen with
  | nil => rfl
  | cons entry rest ih =>
    let behind := (entryId? entry).toList ++ seen
    calc
      _ = (entryIssues ⟨id, f⟩ index seen entry).filter Issue.isError ++
          (inputIssuesFrom ⟨id, f⟩ (index + 1) behind rest).filter Issue.isError := by
        rw [inputIssuesFrom_cons, List.filter_append]
      _ = (entryIssues ⟨id, g⟩ index seen entry).filter Issue.isError ++
          (inputIssuesFrom ⟨id, g⟩ (index + 1) behind rest).filter Issue.isError := by
        rw [errors_entryIssues f g, ih]
      _ = _ := by rw [inputIssuesFrom_cons, List.filter_append]

/-- A dialog has the same errors with every formatter. -/
theorem errors_dialog (document : Document) :
    (dialog f id document).issues.filter Issue.isError =
      (dialog g id document).issues.filter Issue.isError := by
  unfold dialog
  simp only [List.filter_append]
  rw [errors_inputIssuesFrom f g]
  rfl

theorem hasErrors_dialog (document : Document) :
    (dialog f id document).hasErrors = (dialog g id document).hasErrors := by
  calc
    _ = !((dialog f id document).issues.filter Issue.isError).isEmpty := Report.hasErrors_eq _
    _ = !((dialog g id document).issues.filter Issue.isError).isEmpty := by
      rw [errors_dialog f g]
    _ = _ := (Report.hasErrors_eq _).symm

theorem count_dialog (document : Document) :
    (dialog f id document).count .error = (dialog g id document).count .error :=
  congrArg List.length (errors_dialog f g id document)

end

end Validation

namespace Engine

variable {A M H σ : Type}

/-- The engine with another formatter. -/
def formatting (e : Engine A M H σ) (f : Formatter) : Engine A M H σ :=
  { e with host := e.host.formatting f }

section

variable (e : Engine A M H σ) (f g : Formatter) (id : String)

theorem blocking?_formatting :
    (e.formatting f).blocking? id =
      ((e.catalog.get? id).map (Validation.dialog f id)).filter e.settings.validation.blocks :=
  rfl

/-- The same dialogs are refused with every formatter, for as many errors. -/
theorem count_blocking? :
    ((e.formatting f).blocking? id).map (·.count .error) =
      ((e.formatting g).blocking? id).map (·.count .error) := by
  rw [blocking?_formatting, blocking?_formatting]
  cases e.catalog.get? id with
  | none =>
    -- Not by `rfl`, which would compare the two validators and not see that neither is at work.
    rw [Option.map_none, Option.map_none]
  | some document =>
    have hblocks : e.settings.validation.blocks (Validation.dialog f id document) =
        e.settings.validation.blocks (Validation.dialog g id document) := by
      unfold Validation.Policy.blocks
      rw [Validation.hasErrors_dialog f g]
    rw [Option.map_some, Option.map_some, Option.filter_some, Option.filter_some, hblocks]
    split
    · rw [Option.map_some, Option.map_some, Validation.count_dialog f g]
    · rfl

/-- What a dialog opens as with plain texts and with a formatter. -/
theorem agree_opening (hkinds : e.kinds = KindSet.builtin.result) :
    Agree (Definition.Formatted f) ((e.formatting .plain).opening id).result
      ((e.formatting f).opening id).result := by
  have hsame := count_blocking? e .plain f id
  cases hplain : (e.formatting .plain).blocking? id with
  | some found =>
    rw [hplain] at hsame
    obtain ⟨found', hfound, hcount⟩ := Option.map_eq_some_iff.1 hsame.symm
    rw [result_opening_of_blocking hplain, result_opening_of_blocking hfound, hcount]
    exact .error _
  | none =>
    have hnone : (e.formatting f).blocking? id = none := by
      rw [hplain] at hsame
      exact Option.map_eq_none_iff.1 hsame.symm
    rw [result_opening_of_not_blocking hplain, result_opening_of_not_blocking hnone,
      compiler_of_builtin (e := e.formatting .plain) hkinds,
      compiler_of_builtin (e := e.formatting f) hkinds]
    exact (Compiler.formatted_compile e.catalog e.host f id).mapError _

end

/-- With any two formatters a dialog fails to open for the same reason, or it opens as definitions
that are the same without their display texts, and each display text is the plain one or the plain
one formatted. -/
theorem open_formatted {e : Engine A M H σ} (hkinds : e.kinds = KindSet.builtin.result)
    (id : String) (f g : Formatter) :
    let opened (f : Formatter) := (openDialog id (e.formatting f)).map Prod.fst
    (∃ fault, opened f = some (.error fault) ∧ opened g = some (.error fault)) ∨
    ∃ plain d d', opened .plain = some (.ok plain) ∧ opened f = some (.ok d) ∧
      opened g = some (.ok d') ∧ d.erased = d'.erased ∧
      plain.Formatted f d ∧ plain.Formatted g d' := by
  intro opened
  have hopened (f : Formatter) : opened f = some ((e.formatting f).opening id).result := rfl
  have hf := agree_opening e f id hkinds
  have hg := agree_opening e g id hkinds
  simp only [hopened]
  cases hplain : ((e.formatting .plain).opening id).result with
  | error fault =>
    rw [hplain] at hf hg
    exact .inl ⟨fault, congrArg some hf.eq_error, congrArg some hg.eq_error⟩
  | ok plain =>
    rw [hplain] at hf hg
    obtain ⟨d, hd, hplainf⟩ := hf.exists_ok
    obtain ⟨d', hd', hplaing⟩ := hg.exists_ok
    have herased : d.erased = d'.erased := by
      calc
        d.erased = plain.erased := Definition.erased_eq hplainf
        _ = d'.erased := (Definition.erased_eq hplaing).symm
    exact .inr ⟨plain, d, d', rfl, congrArg some hd, congrArg some hd', herased, hplainf, hplaing⟩

/-- Puts a mark before every text. -/
def marked : Formatter :=
  fun text ↦ "*" ++ text

theorem open_formatted_menu :
    let opened (f : Formatter) :=
      (openDialog "menu" ((strict pairCatalog).formatting f)).map Prod.fst
    (strict pairCatalog).kinds = KindSet.builtin.result ∧ ∃ plain d,
      opened .plain = some (.ok plain) ∧ opened marked = some (.ok d) ∧
      plain.title = "Default Title" ∧ d.title = "*Default Title" ∧ plain.erased = d.erased ∧
      plain.Formatted marked d := by
  intro opened
  have hopened (f : Formatter) : ∃ d, opened f = some (.ok d) ∧ d.title = f "Default Title" := by
    have hrun : ∃ d t, Trail.compile ((strict pairCatalog).formatting f).compiler 3 "menu" =
        some (.ok d, t) ∧ d.title = f "Default Title" := ⟨_, _, rfl, rfl⟩
    obtain ⟨d, t, hrun, htitle⟩ := hrun
    have hsize : pairCatalog.size < 3 := by decide
    have hcompile := Trail.outcome_of_compile hsize hrun
    exact ⟨d, congrArg some (opening_eq_ok.2 ⟨rfl, hcompile⟩), htitle⟩
  obtain ⟨plain, hplain, hplainTitle⟩ := hopened .plain
  obtain ⟨d, hd, hdTitle⟩ := hopened marked
  have hkinds : (strict pairCatalog).kinds = KindSet.builtin.result := rfl
  rcases open_formatted hkinds "menu" .plain marked with
    ⟨fault, hfault, _⟩ | ⟨plain', _, d', hplain', hsame, hd', herased, _, hformatted⟩
  · exact nomatch hplain.symm.trans hfault
  · obtain rfl := Except.ok.inj (Option.some.inj (hplain'.symm.trans hplain))
    obtain rfl := Except.ok.inj (Option.some.inj (hsame.symm.trans hplain'))
    obtain rfl := Except.ok.inj (Option.some.inj (hd'.symm.trans hd))
    exact ⟨hkinds, _, _, hplain, hd, hplainTitle, hdTitle, herased, hformatted⟩

end Engine

end DialogKit
