import DialogKit.Proofs.Compile.Trail
import Mathlib.Data.List.Chain

/-!
# The chain of a cycle

A compilation that fails with a cycle names dialogs that show one another, from one of them back to
itself. The chain is a part of the walk that the compilation was on: the walk leads from the dialog
to be opened along dialogs that show the next one, and it ends at the first dialog that comes twice.
What lies before that dialog is the way to the cycle, and it is not on the cycle.
-/

namespace DialogKit

open CompileM

namespace Catalog

/-- Dialogs of which each shows the next one. The last one is the first one again; otherwise none
comes twice. -/
structure IsLoop (catalog : Catalog) (chain : List String) : Prop where
  long : 2 ≤ chain.length
  closed : chain.head? = chain.getLast?
  distinct : chain.dropLast.Nodup
  known : ∀ id ∈ chain.dropLast, catalog.contains id
  shows : chain.IsChain catalog.Shows

/-- Distinct dialogs of which each shows the next one, and the last one shows one of them. -/
structure TurnsBack (catalog : Catalog) (walk : List String) (last : String) : Prop where
  path : catalog.IsPath walk
  shows : (walk ++ [last]).IsChain catalog.Shows
  back : last ∈ walk

/-- The chain of a walk that turns back begins at the dialog that comes twice. -/
theorem TurnsBack.exists_way {catalog : Catalog} {walk : List String} {last : String}
    (h : catalog.TurnsBack walk last) : ∃ way rest, walk = way ++ last :: rest ∧
      Compiler.chainOf walk last = last :: rest ++ [last] := by
  obtain ⟨way, rest, rfl, hway⟩ := List.eq_append_cons_of_mem h.back
  have hbefore : ∀ id ∈ way, (id != last) = true :=
    fun id hid ↦ bne_iff_ne.2 fun heq ↦ hway (heq ▸ hid)
  refine ⟨way, rest, rfl, ?_⟩
  rw [Compiler.chainOf, List.dropWhile_append_of_pos hbefore]
  simp

/-- From the dialog that comes twice on, the walk is a loop. What comes before is the way to it. -/
theorem TurnsBack.loop {catalog : Catalog} {way rest : List String} {last : String}
    (h : catalog.TurnsBack (way ++ last :: rest) last) :
    catalog.IsLoop (last :: rest ++ [last]) := by
  have hdrop : (last :: rest ++ [last]).dropLast = last :: rest := List.dropLast_concat
  constructor
  case long => simp
  case closed => rw [List.getLast?_concat, List.cons_append, List.head?_cons]
  case distinct =>
    rw [hdrop]
    exact h.path.nodup.sublist (List.sublist_append_right ..)
  case known =>
    rw [hdrop]
    exact fun id hid ↦ h.path.known id (List.mem_append_right _ hid)
  case shows =>
    have hshows := h.shows
    rw [List.append_assoc] at hshows
    exact hshows.right_of_append

end Catalog

namespace Compile

variable {catalog : Catalog} {compileTarget : String → CompileM Definition}

theorem shownAs_eq_error (target : String) {x : Except CompileFault Definition}
    {fault : CompileFault} (h : shownAs target x = .error fault) : x = .error fault := by
  cases x with
  | ok dialog => simp [shownAs] at h
  | error other =>
    cases other with
    | cycle chain => simpa [shownAs] using h
    | notFound id => simp [shownAs] at h
    | disabled id => simp [shownAs] at h

/-- A button fails as the dialog fails that it names. -/
theorem target_of_button_eq_error {host : Host} {part : Document} {slot : ButtonSlot}
    {fault : CompileFault}
    (h : outcome (button catalog host compileTarget (some part) slot) = .error fault) :
    ∃ target, Names part target ∧ catalog.contains target ∧
      outcome (compileTarget target) = .error fault := by
  rw [outcome_button_some, map_eq_error] at h
  rcases outcome_sectionAction_cases catalog part with
    ⟨target, hnames, hcontains, hshown⟩ | ⟨_, hplain⟩
  · exact ⟨target, hnames, hcontains, shownAs_eq_error target (hshown _ ▸ h)⟩
  · simp [hplain] at h

end Compile

namespace Compiler

theorem target_of_runPlan_eq_error (c : Compiler) {compileTarget : String → CompileM Definition}
    {plan : Plan} {parts : List Document} (hreads : plan.Reads parts) {fault : CompileFault}
    (h : outcome (c.runPlan compileTarget plan) = .error fault) :
    ∃ part ∈ parts, ∃ target, Compile.Names part target ∧ c.catalog.contains target ∧
      outcome (compileTarget target) = .error fault := by
  induction hreads with
  | finish layout => simp [runPlan] at h
  | note event _ ih =>
    unfold runPlan at h
    rw [outcome_bind_ok (outcome_lift _)] at h
    exact ih h
  | plain slot _ ih =>
    unfold runPlan at h
    rw [outcome_bind_ok (Compile.outcome_button_none ..)] at h
    exact ih _ h
  | part part slot _ ih =>
    unfold runPlan at h
    rw [outcome_bind] at h
    cases hbutton : outcome (Compile.button c.catalog c.host compileTarget (some part) slot) with
    | error other =>
      obtain rfl : other = fault := by simpa [hbutton, Except.bind] using h
      exact ⟨part, List.mem_cons_self .., Compile.target_of_button_eq_error hbutton⟩
    | ok button =>
      rw [hbutton] at h
      obtain ⟨part', hmem, hpart'⟩ := ih button h
      exact ⟨part', List.mem_cons_of_mem _ hmem, hpart'⟩

section

variable (catalog : Catalog) (host : Host)

/-- A walk that the compilation may be on goes on until it turns back. The induction is along the
path: the button that fails leads to the next dialog of the walk. -/
theorem exists_walk_of_cycle {path : List String} {id : String} (hpath : catalog.IsPath path)
    (hshows : (path ++ [id]).IsChain catalog.Shows) (hid : catalog.contains id)
    {chain : List String}
    (h : outcome ((builtin catalog host).dialog path id) = .error (.cycle chain)) :
    ∃ walk last, path ++ [id] <+: walk ++ [last] ∧ catalog.TurnsBack walk last ∧
      chain = chainOf walk last := by
  induction path, id using dialog.induct (builtin catalog host) with
  | case1 path id hmem =>
    rw [dialog_of_mem _ hmem] at h
    obtain rfl : chainOf path id = chain := by simpa using h
    exact ⟨path, id, List.prefix_rfl, ⟨hpath, hshows, hmem⟩, rfl⟩
  | case2 path id hmem hnone =>
    rw [dialog_of_root?_eq_none _ hmem hnone] at h
    simp at h
  | case3 path id hmem root hroot ih =>
    rw [dialog_of_root? _ hmem hroot, outcome_build, map_eq_error] at h
    obtain ⟨part, hpart, target, hnames, hcontains, htarget⟩ :=
      target_of_runPlan_eq_error _ (Kind.reads_plan catalog host _ root) h
    have hstep : catalog.Shows id target :=
      ⟨root, part, hroot, Kind.mem_buttonParts.1 hpart, hnames, hcontains⟩
    have hlonger : (path ++ [id] ++ [target]).IsChain catalog.Shows := by
      rw [List.append_assoc]
      exact List.isChain_append_cons_cons.2 ⟨hshows, hstep, .singleton _⟩
    obtain ⟨walk, last, hbegins, hturns, hchain⟩ :=
      ih target (hpath.append hmem hid) hlonger hcontains htarget
    exact ⟨walk, last, (List.prefix_append _ _).trans hbegins, hturns, hchain⟩

/-- A cycle is found while a dialog is compiled, not at the entry. -/
theorem compile_eq_cycle (c : Compiler) {id : String} {chain : List String}
    (h : outcome (c.compile id) = .error (.cycle chain)) :
    c.catalog.contains id ∧ outcome (c.dialog [] id) = .error (.cycle chain) := by
  cases hcontains : c.catalog.contains id with
  | false => simp [compile_of_not_contains c hcontains] at h
  | true =>
    cases henabled : c.catalog.isEnabled id with
    | false => simp [compile_of_disabled c hcontains henabled] at h
    | true => exact ⟨rfl, compile_of_enabled c hcontains henabled ▸ h⟩

/-- The chain with which a compilation fails is a loop of dialogs that show one another. Showing
leads to it from the dialog that was to be opened, on a way that meets no dialog twice and none of
the loop before its end. -/
theorem loop_of_compile {id : String} {chain : List String}
    (h : outcome ((builtin catalog host).compile id) = .error (.cycle chain)) :
    catalog.IsLoop chain ∧ ∃ way, (way ++ chain).head? = some id ∧
      (way ++ chain).IsChain catalog.Shows ∧ (way ++ chain.dropLast).Nodup := by
  obtain ⟨hcontains, hdialog⟩ := compile_eq_cycle _ h
  obtain ⟨walk, last, hbegins, hturns, rfl⟩ :=
    exists_walk_of_cycle catalog host .nil (.singleton id) hcontains hdialog
  obtain ⟨way, rest, rfl, hchain⟩ := hturns.exists_way
  have hdrop : (last :: rest ++ [last]).dropLast = last :: rest := List.dropLast_concat
  rw [hchain, hdrop]
  refine ⟨hturns.loop, way, ?_⟩
  rw [← List.append_assoc]
  refine ⟨?_, hturns.shows, hturns.path.nodup⟩
  obtain ⟨after, hafter⟩ := hbegins
  rw [← hafter]
  rfl

end

/-- A question leads to a leaf and to a grid, which leads to the leaf too and to a notice that leads
back to the grid. -/
def maze : Catalog :=
  ⟨[("question", ⟨[("type", .str "confirmation"),
      ("buttons", .map [("confirm", showing "leaf"), ("cancel", showing "grid")])]⟩),
    ("grid", ⟨[("type", .str "multi_action"),
      ("buttons", .list [showing "leaf", showing "back"])]⟩),
    ("back", noticeOf "grid"), ("leaf", ⟨[]⟩)]⟩

theorem loop_of_compile_maze :
    outcome ((builtin maze {}).compile "question") = .error (.cycle ["grid", "back", "grid"]) ∧
    maze.IsLoop ["grid", "back", "grid"] ∧ ∃ way, (way ++ ["grid", "back", "grid"]).head? =
      some "question" ∧ (way ++ ["grid", "back", "grid"]).IsChain maze.Shows ∧
      (way ++ ["grid", "back"]).Nodup := by
  have hrun : ∃ t, Trail.compile (builtin maze {}) 5 "question" =
      some (.error (.cycle ["grid", "back", "grid"]), t) := ⟨_, rfl⟩
  obtain ⟨_, hrun⟩ := hrun
  have hcycle := Trail.outcome_of_compile (by decide) hrun
  exact ⟨hcycle, loop_of_compile maze {} hcycle⟩

end Compiler

end DialogKit
