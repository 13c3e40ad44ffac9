import DialogKit.Proofs.Compile.Embedding
import DialogKit.Script.Kind
import Mathlib.Data.List.Nodup
import Mathlib.Data.List.Perm.Subperm

/-!
# The path of a compilation

A compilation may keep one path for the whole run: each dialog is put on it before its kind is at
work and taken off it afterwards, whatever came of it. This module compiles in that way, noting
every path on the way, with a limit on how deep dialogs may nest. With a limit beyond the size of
the catalog it always comes to an end, and to the same end as `Compiler.dialog`, to which the path
is handed at each call. Every call leaves the path as it found it, and at all times the path holds
distinct dialogs of the catalog. So no dialog is embedded in itself.

What is noted here are paths; the events that a compilation reports are left out.
-/

namespace DialogKit

open CompileM

/-- A path on which a compilation may be: distinct dialogs of the catalog. -/
structure Catalog.IsPath (catalog : Catalog) (path : List String) : Prop where
  nodup : path.Nodup
  known : ∀ id ∈ path, catalog.contains id

namespace Catalog.IsPath

variable {catalog : Catalog} {path : List String}

theorem nil : catalog.IsPath [] :=
  ⟨List.nodup_nil, by simp⟩

theorem append {id : String} (h : catalog.IsPath path) (hid : id ∉ path)
    (hknown : catalog.contains id) : catalog.IsPath (path ++ [id]) := by
  constructor
  · simpa using h.nodup.concat hid
  · intro other hother
    rcases List.mem_append.1 hother with hother | hother
    · exact h.known other hother
    · exact List.mem_singleton.1 hother ▸ hknown

theorem length_le (h : catalog.IsPath path) : path.length ≤ catalog.size := by
  have hsub : path ⊆ catalog.order := fun id hid ↦ Entries.isSome_get?.1 (h.known id hid)
  calc
    path.length ≤ catalog.order.length := (h.nodup.subperm hsub).length_le
    _ = catalog.size := List.length_map _

end Catalog.IsPath

/-- The path of the dialogs being compiled, and the paths that there have been since the start. -/
structure Trail where
  path : List String
  passed : List (List String)

/-- A compilation that keeps its path itself; there is no answer if dialogs nest too deep. -/
abbrev TrailM := ExceptT CompileFault (StateT Trail Option)

namespace Trail

def moveTo (path : List String) (t : Trail) : Trail :=
  ⟨path, t.passed ++ [path]⟩

/-- Puts a dialog on the path. -/
def enter (id : String) (t : Trail) : Trail :=
  t.moveTo (t.path ++ [id])

/-- Takes the last dialog off the path. -/
def leave (t : Trail) : Trail :=
  t.moveTo t.path.dropLast

/-! ## Compiling along a trail -/

section

variable {α β : Type}

/-- The answer of a compilation that starts on a trail, and where it ends. -/
def answer (x : TrailM α) (t : Trail) : Option (Except CompileFault α × Trail) :=
  x.run.run t

def currentPath : TrailM (List String) :=
  return (← getThe Trail).path

def change (f : Trail → Trail) : TrailM Unit :=
  modifyThe Trail f

/-- Goes on with what another compilation came to. -/
def ofOutcome (result : Except CompileFault α) : TrailM α :=
  ExceptT.mk (pure result)

/-- What the compilation comes to, a fault included. -/
def attempt (x : TrailM α) : TrailM (Except CompileFault α) :=
  ExceptT.lift x.run

def tooDeep : TrailM α :=
  ExceptT.lift failure

end

/-- The action of an action section; `compileTarget` compiles the dialog that it shows. -/
def action (c : Compiler) (compileTarget : String → TrailM Definition) (part : Document) :
    TrailM (Option Action) :=
  if Text.lower (part.str "type" "return") = "show_dialog" then
    match Component.shownText? part "id" with
    | none => return none
    | some target =>
        if c.catalog.contains target then do
          ofOutcome (Compile.shownAs target (← attempt (compileTarget target)))
        else return none
  else return Compile.ownAction part

/-- The action of a button section; without one the button returns to the screen before. -/
def sectionAction (c : Compiler) (compileTarget : String → TrailM Definition) (part : Document) :
    TrailM (Option Action) :=
  match Compile.actionPart? part with
  | some section_ => action c compileTarget section_
  | none => return some .goBack

def button (c : Compiler) (compileTarget : String → TrailM Definition) :
    Option Document → ButtonSlot → TrailM Button
  | none, slot => return slot.plainButton
  | some part, slot => do
      return Compile.dressed c.host part slot (← sectionAction c compileTarget part)

def runPlan (c : Compiler) (compileTarget : String → TrailM Definition) : Plan → TrailM Layout
  | .finish layout => return layout
  | .fail fault => throw fault
  | .note _ next => runPlan c compileTarget next
  | .button part slot next => do
      runPlan c compileTarget (next (← button c compileTarget part slot))

/-- Compiles a dialog, nested no deeper than the limit. -/
def dialog (c : Compiler) : Nat → String → TrailM Definition
  | 0, _ => tooDeep
  | limit + 1, id => do
      let path ← currentPath
      if id ∈ path then throw (.cycle (Compiler.chainOf path id))
      else
        match c.catalog.root? id with
        | none => throw (.notFound id)
        | some root => do
            change (enter id)
            let view := c.view (← currentPath)
            let layout ← attempt (runPlan c (dialog c limit) ((c.kindOf root).plan view root))
            change leave
            ofOutcome (layout.map (c.assembled id root))

/-- Compiles the dialog that is to be opened, on a path of its own. -/
def compile (c : Compiler) (limit : Nat) (id : String) :
    Option (Except CompileFault Definition × Trail) :=
  if !c.catalog.contains id then some (.error (.notFound id), ⟨[], []⟩)
  else if !c.catalog.isEnabled id then some (.error (.disabled id), ⟨[], []⟩)
  else answer (dialog c limit id) ⟨[], []⟩

/-! ## Calls that leave the path as they found it -/

section

variable {α β : Type}

theorem answer_bind (x : TrailM α) (f : α → TrailM β) (t : Trail) :
    answer (x >>= f) t = (answer x t).bind fun (result, after) ↦
      match result with
      | .ok a => answer (f a) after
      | .error fault => some (.error fault, after) := by
  unfold answer
  simp only [ExceptT.run_bind, StateT.run_bind]
  cases x.run.run t with
  | none => rfl
  | some ending =>
    obtain ⟨result, after⟩ := ending
    cases result <;> rfl

@[simp] theorem answer_ofOutcome (result : Except CompileFault α) (t : Trail) :
    answer (ofOutcome result) t = some (result, t) := rfl

@[simp] theorem answer_currentPath (t : Trail) : answer currentPath t = some (.ok t.path, t) := rfl

@[simp] theorem answer_change (f : Trail → Trail) (t : Trail) :
    answer (change f) t = some (.ok (), f t) := rfl

theorem answer_attempt (x : TrailM α) (t : Trail) :
    answer (attempt x) t = (answer x t).map fun (result, after) ↦ (.ok result, after) := by
  unfold answer attempt
  simp only [ExceptT.run_lift, StateT.run_map]
  rfl

/-- Started on the path, the compilation comes to the result and leaves the path as it found it; the
paths on the way go on from this one, and hold distinct dialogs of the catalog. -/
def Keeps (catalog : Catalog) (path : List String) (x : TrailM α)
    (result : Except CompileFault α) : Prop :=
  ∀ passed, ∃ more, answer x ⟨path, passed⟩ = some (result, ⟨path, passed ++ more⟩) ∧
    ∀ other ∈ more, path <+: other ∧ catalog.IsPath other

variable {catalog : Catalog} {path : List String}

theorem keeps_ofOutcome (result : Except CompileFault α) :
    Keeps catalog path (ofOutcome result) result := by
  intro passed
  exact ⟨[], by simp, by simp⟩

theorem keeps_pure (a : α) : Keeps catalog path (pure a : TrailM α) (.ok a) :=
  keeps_ofOutcome (.ok a)

theorem keeps_throw (fault : CompileFault) :
    Keeps catalog path (throw fault : TrailM α) (.error fault) :=
  keeps_ofOutcome (.error fault)

theorem Keeps.bind {x : TrailM α} {result : Except CompileFault α} {f : α → TrailM β}
    {next : α → Except CompileFault β} (hx : Keeps catalog path x result)
    (hf : ∀ a, Keeps catalog path (f a) (next a)) :
    Keeps catalog path (x >>= f) (result.bind next) := by
  intro passed
  obtain ⟨more, hrun, hmore⟩ := hx passed
  rw [answer_bind, hrun]
  cases result with
  | error fault => exact ⟨more, rfl, hmore⟩
  | ok a =>
    obtain ⟨more', hrun', hmore'⟩ := hf a (passed ++ more)
    refine ⟨more ++ more', ?_, List.forall_mem_append.2 ⟨hmore, hmore'⟩⟩
    rw [← List.append_assoc]
    exact hrun'

theorem Keeps.map {x : TrailM α} {result : Except CompileFault α}
    (hx : Keeps catalog path x result) (f : α → β) :
    Keeps catalog path (do return f (← x)) (result.map f) := by
  have hbind : Keeps catalog path (do return f (← x)) (result.bind fun a ↦ .ok (f a)) :=
    hx.bind fun a ↦ keeps_pure (f a)
  cases result <;> exact hbind

theorem Keeps.attempt {x : TrailM α} {result : Except CompileFault α}
    (hx : Keeps catalog path x result) : Keeps catalog path (attempt x) (.ok result) := by
  intro passed
  obtain ⟨more, hrun, hmore⟩ := hx passed
  refine ⟨more, ?_, hmore⟩
  rw [answer_attempt, hrun]
  rfl

end

section

variable {c : Compiler} {path : List String} {enter : String → TrailM Definition}
  {compileTarget : String → CompileM Definition}

theorem keeps_action
    (htarget : ∀ target, Keeps c.catalog path (enter target) (outcome (compileTarget target)))
    (part : Document) :
    Keeps c.catalog path (action c enter part)
      (outcome (Compile.action c.catalog compileTarget part)) := by
  unfold action
  by_cases hshow : Text.lower (part.str "type" "return") = "show_dialog"
  · rw [if_pos hshow, Compile.action_of_show hshow]
    cases hid : Component.shownText? part "id" with
    | none =>
      rw [Compile.outcome_showAction_of_not_contains (by simp [hid])]
      exact keeps_pure none
    | some target =>
      dsimp only
      by_cases hcontains : c.catalog.contains target
      · rw [if_pos hcontains, Compile.outcome_showAction_of_contains hid hcontains]
        exact (htarget target).attempt.bind fun result ↦ keeps_ofOutcome _
      · have hnone : ∀ other, Component.shownText? part "id" = some other →
            c.catalog.contains other = false := by
          intro other hother
          obtain rfl : target = other := Option.some.inj (hid.symm.trans hother)
          exact Bool.eq_false_iff.2 hcontains
        rw [if_neg hcontains, Compile.outcome_showAction_of_not_contains hnone]
        exact keeps_pure none
  · rw [if_neg hshow, Compile.outcome_action_of_ne hshow]
    exact keeps_pure _

theorem keeps_button
    (htarget : ∀ target, Keeps c.catalog path (enter target) (outcome (compileTarget target)))
    (part : Option Document) (slot : ButtonSlot) :
    Keeps c.catalog path (button c enter part slot)
      (outcome (Compile.button c.catalog c.host compileTarget part slot)) := by
  cases part with
  | none => exact keeps_pure slot.plainButton
  | some part =>
    have hfound : Keeps c.catalog path (sectionAction c enter part)
        (outcome (Compile.sectionAction c.catalog compileTarget part)) := by
      unfold sectionAction Compile.sectionAction
      cases Compile.actionPart? part with
      | some section_ => exact keeps_action htarget section_
      | none => exact keeps_pure _
    rw [Compile.outcome_button_some]
    exact hfound.map (Compile.dressed c.host part slot)

theorem keeps_runPlan
    (htarget : ∀ target, Keeps c.catalog path (enter target) (outcome (compileTarget target)))
    (plan : Plan) :
    Keeps c.catalog path (runPlan c enter plan) (outcome (c.runPlan compileTarget plan)) := by
  induction plan with
  | finish layout => exact keeps_pure layout
  | fail fault => exact keeps_throw fault
  | note event next ih => exact ih
  | button part slot next ih =>
    have hstep : outcome (c.runPlan compileTarget (.button part slot next)) =
        (outcome (Compile.button c.catalog c.host compileTarget part slot)).bind fun button ↦
          outcome (c.runPlan compileTarget (next button)) := outcome_bind _ _
    rw [hstep]
    exact (keeps_button htarget part slot).bind ih

/-- Each dialog that is put on the path leaves one dialog less that may still be put on it. So the
limit is never met if it exceeds the number of dialogs that are left. -/
theorem keeps_dialog (hpath : c.catalog.IsPath path) {limit : Nat}
    (hlimit : c.catalog.size < path.length + limit) (id : String) :
    Keeps c.catalog path (dialog c limit id) (outcome (c.dialog path id)) := by
  induction limit generalizing path id with
  | zero => exact absurd hpath.length_le (Nat.not_le.2 hlimit)
  | succ limit ih =>
    intro passed
    rw [dialog, answer_bind, answer_currentPath, Option.bind_some]
    dsimp only
    by_cases hmem : id ∈ path
    · rw [if_pos hmem, Compiler.dialog_of_mem c hmem]
      exact keeps_throw _ passed
    rw [if_neg hmem]
    cases hroot : c.catalog.root? id with
    | none =>
      rw [Compiler.dialog_of_root?_eq_none c hmem hroot]
      exact keeps_throw _ passed
    | some root =>
      have hknown : c.catalog.contains id := by
        rw [← Catalog.isSome_root?, hroot]
        rfl
      have hinner : c.catalog.IsPath (path ++ [id]) := hpath.append hmem hknown
      have hless : c.catalog.size < (path ++ [id]).length + limit := by
        rw [List.length_append, List.length_singleton]
        omega
      have hplan := keeps_runPlan (fun target ↦ ih hinner hless target)
        ((c.kindOf root).plan (c.view (path ++ [id])) root)
      obtain ⟨more, hrun, hmore⟩ := hplan.attempt (passed ++ [path ++ [id]])
      refine ⟨(path ++ [id]) :: more ++ [path], ?_, ?_⟩
      · rw [Compiler.dialog_of_root? c hmem hroot, Compiler.outcome_build]
        dsimp only
        rw [answer_bind, answer_change, Option.bind_some]
        dsimp only
        rw [answer_bind, answer_currentPath, Option.bind_some]
        dsimp only [enter, moveTo]
        rw [answer_bind, hrun, Option.bind_some]
        dsimp only
        rw [answer_bind, answer_change, Option.bind_some]
        dsimp only [leave, moveTo]
        rw [answer_ofOutcome]
        simp
      · intro other hother
        simp only [List.cons_append, List.mem_cons, List.mem_append, List.not_mem_nil,
          or_false] at hother
        rcases hother with rfl | hother | rfl
        · exact ⟨List.prefix_append _ _, hinner⟩
        · obtain ⟨hbegins, hother⟩ := hmore other hother
          exact ⟨(List.prefix_append _ _).trans hbegins, hother⟩
        · exact ⟨List.prefix_rfl, hpath⟩

theorem compile_keeps (c : Compiler) {limit : Nat} (hlimit : c.catalog.size < limit)
    (id : String) : ∃ passed,
      compile c limit id = some (outcome (c.compile id), ⟨[], passed⟩) ∧
      ∀ other ∈ passed, c.catalog.IsPath other := by
  unfold compile
  cases hcontains : c.catalog.contains id with
  | false =>
    rw [c.compile_of_not_contains hcontains]
    exact ⟨[], rfl, by simp⟩
  | true =>
    cases henabled : c.catalog.isEnabled id with
    | false =>
      rw [c.compile_of_disabled hcontains henabled]
      exact ⟨[], rfl, by simp⟩
    | true =>
      rw [c.compile_of_enabled hcontains henabled]
      have hroom : c.catalog.size < ([] : List String).length + limit := by simpa using hlimit
      obtain ⟨passed, hrun, hpassed⟩ := keeps_dialog Catalog.IsPath.nil hroom id []
      exact ⟨passed, hrun, fun other hother ↦ (hpassed other hother).2⟩

theorem outcome_of_compile {c : Compiler} {limit : Nat} (hlimit : c.catalog.size < limit)
    {id : String} {result : Except CompileFault Definition} {t : Trail}
    (h : compile c limit id = some (result, t)) : outcome (c.compile id) = result := by
  obtain ⟨passed, hrun, _⟩ := compile_keeps c hlimit id
  have hsame := Option.some.inj (hrun.symm.trans h)
  exact (Prod.mk.inj hsame).1

end

end Trail

/-! ## Chains of embedded dialogs -/

/-- The ids along a chain of definitions, each of them embedded in the one before. -/
inductive Definition.Chain : Definition → List String → Prop where
  | last (d : Definition) : Chain d [d.id]
  | next {d dialog : Definition} {button : Button} {target : String} {ids : List String} :
      button ∈ d.layout.buttons → button.action = some (.showDialog target dialog) →
        Chain dialog ids → Chain d (d.id :: ids)

/-- A chain never comes back to the path on which its first dialog was compiled. -/
theorem Compiler.nodup_of_chain (c : Compiler) (hkinds : c.kinds.ShowBuilt) {d : Definition}
    {ids : List String} (hchain : d.Chain ids) {path : List String} {id : String}
    (hpath : path.Nodup) (h : outcome (c.dialog path id) = .ok d) : (path ++ ids).Nodup := by
  induction hchain generalizing path id with
  | last d =>
    obtain ⟨hmem, root, layout, _, _, rfl⟩ := c.dialog_eq_ok.1 h
    simpa [Compiler.assembled] using hpath.concat hmem
  | @next d dialog button target ids hbutton haction _ ih =>
    have hcarries := carries_of_dialog c hkinds h button hbutton
    have hdialog := (hcarries target dialog haction).2
    obtain ⟨hmem, root, layout, _, _, rfl⟩ := c.dialog_eq_ok.1 h
    have hinner : (path ++ [id]).Nodup := by simpa using hpath.concat hmem
    have hrest := ih hinner hdialog
    rwa [List.append_assoc] at hrest

theorem ScriptedKind.showsBuilt_kind (k : ScriptedKind) : k.kind.ShowsBuilt := by
  intro P hplain view root
  unfold ScriptedKind.kind
  dsimp only
  cases k.mode with
  | fail => exact .fail _
  | path =>
    apply Plan.Only.finish
    intro button hbutton
    obtain rfl := List.mem_singleton.1 hbutton
    exact hplain none Compile.isPlain_none
  | notice =>
    apply Plan.Only.button
    intro exit hexit
    apply Plan.Only.finish
    intro button hbutton
    exact List.mem_singleton.1 hbutton ▸ hexit

theorem KindSet.result_add (set : KindSet) (kind : Kind) :
    (set.add kind).result = ⟨Entries.insert (Text.lower kind.name) kind set.kinds⟩ := by
  unfold KindSet.add
  dsimp only
  split <;> rfl

/-- What holds of the kinds of a set and of one that is added holds of the kinds afterwards. -/
theorem KindSet.forall_get?_add {set : KindSet} {P : Kind → Prop}
    (h : ∀ name kind, set.get? name = some kind → P kind) {kind : Kind} (hkind : P kind) :
    ∀ name other, (set.add kind).result.get? name = some other → P other := by
  intro name other hget
  have hinsert : Entries.get? (Text.lower name)
      (Entries.insert (Text.lower kind.name) kind set.kinds) = some other := by
    rwa [KindSet.get?, KindSet.result_add] at hget
  by_cases hname : Text.lower kind.name = Text.lower name
  · rw [hname, Entries.get?_insert_self] at hinsert
    exact Option.some.inj hinsert ▸ hkind
  · rw [Entries.get?_insert_of_ne hname] at hinsert
    exact h name other hinsert

theorem KindSet.forall_get?_addAll {set : KindSet} {P : Kind → Prop}
    (h : ∀ name kind, set.get? name = some kind → P kind) {kinds : List Kind}
    (hkinds : ∀ kind ∈ kinds, P kind) :
    ∀ name other, (set.addAll kinds).result.get? name = some other → P other := by
  induction kinds generalizing set with
  | nil => exact h
  | cons kind rest ih =>
    obtain ⟨hkind, hrest⟩ := List.forall_mem_cons.1 hkinds
    have hstep :
        (set.addAll (kind :: rest)).result = ((set.add kind).result.addAll rest).result := by
      unfold KindSet.addAll
      rw [List.foldlM_cons, Journal.result_bind]
    rw [hstep]
    exact ih (forall_get?_add h hkind) hrest

theorem KindSet.showBuilt_empty : KindSet.empty.ShowBuilt := by
  intro name kind hget
  cases hget

theorem KindSet.ShowBuilt.addAll {set : KindSet} (h : set.ShowBuilt) {kinds : List Kind}
    (hkinds : ∀ kind ∈ kinds, kind.ShowsBuilt) : (set.addAll kinds).result.ShowBuilt :=
  forall_get?_addAll h hkinds

namespace Compiler

/-- Compiling always comes to an end, with dialogs nested no deeper than the catalog is large, and
every call in it leaves the path as it found it. All the while the path holds distinct dialogs of
the catalog. If the kinds get their buttons from the compilation, then the dialogs of a compiled
definition do not repeat along any chain; the built-in kinds and the scripted ones do so. -/
theorem compile_balanced (c : Compiler) :
    (∀ id limit, c.catalog.size < limit → ∃ passed,
      Trail.compile c limit id = some (outcome (c.compile id), ⟨[], passed⟩) ∧
      ∀ path ∈ passed, path.Nodup ∧ (∀ other ∈ path, c.catalog.contains other) ∧
        path.length ≤ c.catalog.size) ∧
    (∀ path limit, c.catalog.IsPath path → c.catalog.size < path.length + limit →
      (∀ id, Trail.Keeps c.catalog path (Trail.dialog c limit id)
        (outcome (c.dialog path id))) ∧
      (∀ part slot, Trail.Keeps c.catalog path
        (Trail.button c (Trail.dialog c limit) part slot)
        (outcome (Compile.button c.catalog c.host (c.dialog path) part slot))) ∧
      ∀ part, Trail.Keeps c.catalog path (Trail.action c (Trail.dialog c limit) part)
        (outcome (Compile.action c.catalog (c.dialog path) part))) ∧
    (c.kinds.ShowBuilt →
      ∀ id d ids, outcome (c.compile id) = .ok d → d.Chain ids → ids.Nodup) ∧
    ∀ set ∈ [KindSet.empty, KindSet.builtin.result], ∀ scripted : List ScriptedKind,
      (set.addAll (scripted.map ScriptedKind.kind)).result.ShowBuilt := by
  refine ⟨?_, ?_, ?_, ?_⟩
  · intro id limit hlimit
    obtain ⟨passed, hrun, hpassed⟩ := Trail.compile_keeps c hlimit id
    refine ⟨passed, hrun, fun path hmem ↦ ?_⟩
    have hpath := hpassed path hmem
    exact ⟨hpath.nodup, hpath.known, hpath.length_le⟩
  · intro path limit hpath hlimit
    have hdialog := Trail.keeps_dialog hpath hlimit
    exact ⟨hdialog, Trail.keeps_button hdialog, Trail.keeps_action hdialog⟩
  · intro hkinds id d ids h hchain
    obtain ⟨_, _, hdialog⟩ := c.compile_eq_ok.1 h
    simpa using c.nodup_of_chain hkinds hchain List.nodup_nil hdialog
  · intro set hset scripted
    have hstart : set.ShowBuilt := by
      rcases List.mem_pair.1 hset with rfl | rfl
      · exact KindSet.showBuilt_empty
      · exact KindSet.showBuilt_builtin
    apply hstart.addAll
    intro kind hkind
    obtain ⟨k, _, rfl⟩ := List.mem_map.1 hkind
    exact k.showsBuilt_kind

/-- Three dialogs of a scripted kind and a built-in one: a menu that shows a leaf, and one that
shows itself. -/
def wizards : Compiler where
  catalog := ⟨[("menu", ⟨("type", .str "Wizard") :: (noticeOf "leaf").entries⟩),
    ("leaf", ⟨[]⟩), ("loop", noticeOf "loop")]⟩
  kinds := (KindSet.builtin.result.addAll
    [ScriptedKind.kind ⟨"Wizard", .notice, "exit_button", .action⟩]).result

theorem compile_balanced_wizards :
    wizards.kinds.ShowBuilt ∧ wizards.catalog.size < 4 ∧
    (∃ d, Trail.compile wizards 4 "menu" =
        some (.ok d, ⟨[], [["menu"], ["menu", "leaf"], ["menu"], []]⟩) ∧
      outcome (wizards.compile "menu") = .ok d ∧ d.Chain ["menu", "leaf"] ∧
      ["menu", "leaf"].Nodup) ∧
    wizards.catalog.IsPath ["menu"] ∧
    Trail.Keeps wizards.catalog ["menu"] (Trail.dialog wizards 3 "leaf")
      (outcome (wizards.dialog ["menu"] "leaf")) ∧
    Trail.compile wizards 4 "loop" =
      some (.error (.cycle ["loop", "loop"]), ⟨[], [["loop"], []]⟩) ∧
    outcome (wizards.compile "loop") = .error (.cycle ["loop", "loop"]) := by
  obtain ⟨_, hkeeps, hchains, hscripted⟩ := compile_balanced wizards
  have hkinds : wizards.kinds.ShowBuilt :=
    hscripted KindSet.builtin.result (by simp) [⟨"Wizard", .notice, "exit_button", .action⟩]
  have hmenu : ∃ d, Trail.compile wizards 4 "menu" =
      some (.ok d, ⟨[], [["menu"], ["menu", "leaf"], ["menu"], []]⟩) ∧
      d.Chain ["menu", "leaf"] := ⟨_, rfl, .next (.head _) rfl (.last _)⟩
  obtain ⟨d, hmenu, hchain⟩ := hmenu
  have hopen := Trail.outcome_of_compile (by decide) hmenu
  have hpath : wizards.catalog.IsPath ["menu"] := Catalog.IsPath.nil.append (by simp) rfl
  have hleaf := (hkeeps ["menu"] 3 hpath (by decide)).1 "leaf"
  have hloop : Trail.compile wizards 4 "loop" =
      some (.error (.cycle ["loop", "loop"]), ⟨[], [["loop"], []]⟩) := rfl
  exact ⟨hkinds, by decide, ⟨d, hmenu, hopen, hchain, hchains hkinds _ _ _ hopen hchain⟩,
    hpath, hleaf, hloop, Trail.outcome_of_compile (by decide) hloop⟩

end Compiler

end DialogKit
