import DialogKit.Proofs.Engine.Routing

/-!
# Commands reach the host as they are reported

An engine and its command runner hand their commands to one host. Over any calls of the two, the
host gets one command for each call that answers with a command, in the order of the calls and with
the text of the answer, and nothing else: neither from a call that is refused, nor from another
action, nor from the handlers that an action calls. The console is guarded by a look at the resolved
text, so that no percent sign gets there, whatever the resolver puts in.
-/

namespace DialogKit

theorem Effect.commands_append (effects effects' : List Effect) :
    commands (effects ++ effects') = commands effects ++ commands effects' :=
  List.filterMap_append

/-- Handlers hand nothing to the host. -/
theorem World.evolution_commands {H σ : Type} : World.Evolution fun w w' : World H σ ↦
    Effect.commands w'.effects = Effect.commands w.effects where
  refl _ := rfl
  trans h h' := h'.trans h
  operate _ _ _ := rfl
  update _ _ := rfl
  tell w effects h := by rw [Effect.commands_append, h, List.append_nil]

/-! ## The runner -/

namespace Command

def Sent.command : Sent → String
  | .player _ command | .console command | .suggestion _ command => command

/-- A command as it is handed over in a scope. -/
def handed (viewer : Option Viewer) (command : String) : CommandScope → Option Sent
  | .player => viewer.map fun v ↦ .player v command
  | .console => some (.console command)

/-- What the host gets with the answer of a run. -/
def sentBy (viewer : Option Viewer) (scope : CommandScope) : Except Fault String → Option Sent
  | .ok command => handed viewer command scope
  | .error _ => none

/-- The command, unless it is refused: for a player there has to be a viewer, and for the console
there must not be a percent sign. -/
def allowed (viewer : Option Viewer) (command : String) : CommandScope → Option String
  | .player => viewer.map fun _ ↦ command
  | .console => if '%' ∈ command.toList then none else some command

/-- The command that is due is reported, and it is the one that is sent. -/
structure Told (due : Option String) (sent : Option Sent) (answer : Option String) : Prop where
  answered : answer = due
  text : sent.map Sent.command = answer
  guarded : ∀ command, sent = some (.console command) → '%' ∉ command.toList

structure Reports (due : Option String) (sent : Option Sent) (answer : Option String)
    (effects : List Effect) : Prop extends Told due sent answer where
  commands : Effect.commands effects = sent.toList

theorem Runner.reports_run (resolve : Resolver) (template : String) (scope : CommandScope)
    (viewer : Option Viewer) :
    let answer := (Runner.run ⟨resolve, .host⟩ template scope viewer).run
    Reports (allowed viewer (resolve template viewer) scope) (sentBy viewer scope answer.result)
      answer.result.toOption answer.notes := by
  cases scope with
  | player =>
    cases viewer with
    | none => exact ⟨⟨rfl, rfl, nofun⟩, rfl⟩
    | some v => exact ⟨⟨rfl, rfl, nofun⟩, rfl⟩
  | console =>
    unfold Runner.run allowed
    by_cases h : '%' ∈ (resolve template viewer).toList
    · simp only [hasPlaceholder_eq, h, decide_true, if_true]
      exact ⟨⟨rfl, rfl, nofun⟩, rfl⟩
    · simp only [hasPlaceholder_eq, h, decide_false, if_false]
      refine ⟨⟨rfl, rfl, ?_⟩, rfl⟩
      rintro _ ⟨⟩
      exact h

theorem Runner.reports_suggest (resolve : Resolver) (template : String) (viewer : Viewer) :
    let suggestion := Runner.suggest ⟨resolve, .host⟩ template viewer
    Reports (some (resolve template (some viewer))) (some (.suggestion viewer suggestion.result))
      (some suggestion.result) suggestion.notes :=
  ⟨⟨rfl, rfl, nofun⟩, rfl⟩

end Command

namespace Engine

variable {A M H σ : Type}

/-! ## Calls -/

/-- What is called: the command runner of an engine, or the engine itself. -/
inductive Call where
  | run (template : String) (scope : CommandScope) (viewer : Option Viewer)
  | suggest (template : String) (viewer : Viewer)
  | perform (action : Action) (viewer : Option Viewer) (payload : Payload)

inductive Answer where
  | ran (result : Except Command.Fault String)
  | suggested (command : String)
  | performed (result : Except EngineFault Performed)

namespace Call

def viewer? : Call → Option Viewer
  | run _ _ viewer | perform _ viewer _ => viewer
  | suggest _ viewer => some viewer

def make (b : Behaviour A M H σ) (levels : Nat) : Call → EngineM A M H σ Answer
  | run template scope viewer => do
      return .ran (← Engine.perform ((← get).runner.run template scope viewer).run)
  | suggest template viewer => do
      return .suggested (← Engine.perform ((← get).runner.suggest template viewer))
  | perform action viewer payload => do
      return .performed (← performAction b levels action viewer payload)

end Call

/-- Calls that are made one after the other, with their answers. Each may deliver actions within
its own count of levels. -/
inductive Makes (b : Behaviour A M H σ) :
    Engine A M H σ → List (Call × Answer) → Engine A M H σ → Prop
  | nil {e} : Makes b e [] e
  | cons {levels call answer e e₁ made e'} (h : call.make b levels e = some (answer, e₁))
      (hrest : Makes b e₁ made e') : Makes b e ((call, answer) :: made) e'

/-- The command that an answer tells of. -/
def Answer.command? : Answer → Option String
  | ran result => result.toOption
  | suggested command => some command
  | performed (.ok (.command command)) => some command
  | performed (.ok (.suggested command)) => some command
  | performed _ => none

/-- The command that a call comes to, unless it is refused or about something else. -/
def Call.due? (resolve : Command.Resolver) : Call → Option String
  | run template scope viewer => Command.allowed viewer (resolve template viewer) scope
  | suggest template viewer => some (resolve template (some viewer))
  | perform (.runCommand template scope) viewer _ =>
      Command.allowed viewer (resolve template viewer) scope
  | perform (.suggestCommand template) (some viewer) _ => some (resolve template (some viewer))
  | perform _ _ _ => none

/-- What the host gets in a call with this answer: commands go out in their scope and for the viewer
of the call, suggestions to the viewer. -/
def Call.sent? : Call → Answer → Option Command.Sent
  | run _ scope viewer, .ran (.ok command) => Command.handed viewer command scope
  | suggest _ viewer, .suggested command => some (.suggestion viewer command)
  | perform (.runCommand _ scope) viewer _, .performed (.ok (.command command)) =>
      Command.handed viewer command scope
  | perform (.suggestCommand _) (some viewer) _, .performed (.ok (.suggested command)) =>
      some (.suggestion viewer command)
  | _, _ => none

theorem Call.sent?_run (template : String) (scope : CommandScope) (viewer : Option Viewer)
    (result : Except Command.Fault String) :
    (run template scope viewer).sent? (.ran result) = Command.sentBy viewer scope result := by
  cases result <;> rfl

/-- The answer of an engine to an action that runs a command. -/
def Answer.ofRun (result : Except Command.Fault String) : Answer :=
  .performed ((result.map Performed.command).mapError .command)

theorem Call.sent?_runCommand (template : String) (scope : CommandScope) (viewer : Option Viewer)
    (payload : Payload) (result : Except Command.Fault String) :
    (perform (.runCommand template scope) viewer payload).sent? (.ofRun result) =
      Command.sentBy viewer scope result := by
  cases result <;> rfl

theorem Answer.command?_ofRun (result : Except Command.Fault String) :
    (ofRun result).command? = result.toOption := by
  cases result <;> rfl

/-- The commands that the host has got so far. -/
def sent (e : Engine A M H σ) : List Command.Sent :=
  Effect.commands e.platform.world.effects

theorem sent_after (e : Engine A M H σ) (effects : List Effect) :
    (e.after effects).sent = e.sent ++ Effect.commands effects :=
  Effect.commands_append _ _

/-- What a call comes to for the host. -/
structure Call.Heard (call : Call) (answer : Answer) (e e' : Engine A M H σ) : Prop where
  runner : e'.runner = e.runner
  sent : e'.sent = e.sent ++ (call.sent? answer).toList
  told : Command.Told (call.due? e.runner.resolve) (call.sent? answer) answer.command?

theorem Call.heard_of_reports {call : Call} {answer : Answer} {effects : List Effect}
    {e : Engine A M H σ}
    (h : Command.Reports (call.due? e.runner.resolve) (call.sent? answer) answer.command? effects) :
    call.Heard answer e (e.after effects) where
  runner := rfl
  sent := by rw [sent_after, h.commands]
  told := h.toTold

theorem Call.heard_of_silent {call : Call} {answer : Answer} {e e' : Engine A M H σ}
    (hdue : call.due? e.runner.resolve = none) (hcall : call.sent? answer = none)
    (hanswer : answer.command? = none) (hrunner : e'.runner = e.runner)
    (hsent : e'.sent = e.sent) : call.Heard answer e e' where
  runner := hrunner
  sent := by rw [hcall, hsent, Option.toList_none, List.append_nil]
  told := by
    rw [hdue, hcall, hanswer]
    exact ⟨rfl, rfl, nofun⟩

/-! ## One call -/

theorem make_run (b : Behaviour A M H σ) (levels : Nat) (template : String) (scope : CommandScope)
    (viewer : Option Viewer) (e : Engine A M H σ) :
    let run := (e.runner.run template scope viewer).run
    (Call.run template scope viewer).make b levels e =
      some (.ran run.result, e.after run.notes) := rfl

theorem make_suggest (b : Behaviour A M H σ) (levels : Nat) (template : String) (viewer : Viewer)
    (e : Engine A M H σ) :
    let suggestion := e.runner.suggest template viewer
    (Call.suggest template viewer).make b levels e =
      some (.suggested suggestion.result, e.after suggestion.notes) := rfl

theorem make_runCommand (b : Behaviour A M H σ) (levels : Nat) (template : String)
    (scope : CommandScope) (viewer : Option Viewer) (payload : Payload) (e : Engine A M H σ) :
    let run := (e.runner.run template scope viewer).run
    (Call.perform (.runCommand template scope) viewer payload).make b levels e =
      some (.ofRun run.result, e.after run.notes) := by
  intro run
  have hperform : performAction b levels (.runCommand template scope) viewer payload e =
      (match run.result with
        | .ok command => pure (.ok (.command command))
        | .error fault => pure (.error (.command fault)) :
          EngineM A M H σ (Except EngineFault Performed)) (e.after run.notes) := rfl
  apply bind_eq_some.2
  rw [hperform]
  cases run.result with
  | ok command => exact ⟨_, _, rfl, rfl⟩
  | error fault => exact ⟨_, _, rfl, rfl⟩

theorem make_custom (b : Behaviour A M H σ) (levels : Nat) (key : Key) (viewer : Viewer)
    (payload : Payload) {answer : Answer} {e e' : Engine A M H σ}
    (h : (Call.perform (.custom key) (some viewer) payload).make b levels e = some (answer, e')) :
    ∃ outcome world, answer = .performed (.ok (.dispatched outcome)) ∧ e' = e.inWorldOf world ∧
      Effect.commands world.effects = e.sent := by
  obtain ⟨result, e₁, hperform, hanswer⟩ := bind_eq_some.1 h
  obtain ⟨rfl, rfl⟩ := pure_eq_some.1 hanswer
  rw [performAction_custom] at hperform
  obtain ⟨⟨outcome, e₂⟩, hdispatch, heq⟩ := Option.map_eq_some_iff.1 hperform
  obtain ⟨rfl, rfl⟩ := Prod.mk.inj heq
  obtain ⟨world, hworld, rfl⟩ := dispatch_eq_some.1 hdispatch
  exact ⟨outcome, world, rfl, rfl,
    World.evolution_commands.follows_dispatch _ _ _ _ _ _ hworld⟩

variable {b : Behaviour A M H σ} {levels : Nat} {resolve : Command.Resolver}
  {e e' : Engine A M H σ}

theorem heard_of_make (hrunner : e.runner = ⟨resolve, .host⟩) {call : Call} {answer : Answer}
    (h : call.make b levels e = some (answer, e')) : call.Heard answer e e' := by
  cases call with
  | run template scope viewer =>
    rw [make_run, hrunner] at h
    obtain ⟨rfl, rfl⟩ := Prod.mk.inj (Option.some.inj h)
    apply Call.heard_of_reports
    rw [Call.sent?_run, hrunner]
    exact Command.Runner.reports_run resolve template scope viewer
  | suggest template viewer =>
    rw [make_suggest, hrunner] at h
    obtain ⟨rfl, rfl⟩ := Prod.mk.inj (Option.some.inj h)
    apply Call.heard_of_reports
    rw [hrunner]
    exact Command.Runner.reports_suggest resolve template viewer
  | perform action viewer payload =>
    cases action with
    | close | goBack | copyToClipboard | showDialog | openUrl =>
      obtain ⟨rfl, rfl⟩ := Prod.mk.inj (Option.some.inj h)
      exact Call.heard_of_silent rfl rfl rfl rfl rfl
    | runCommand template scope =>
      rw [make_runCommand, hrunner] at h
      obtain ⟨rfl, rfl⟩ := Prod.mk.inj (Option.some.inj h)
      apply Call.heard_of_reports
      rw [Call.sent?_runCommand, Answer.command?_ofRun, hrunner]
      exact Command.Runner.reports_run resolve template scope viewer
    | suggestCommand template =>
      cases viewer with
      | none =>
        obtain ⟨rfl, rfl⟩ := Prod.mk.inj (Option.some.inj h)
        exact Call.heard_of_silent rfl rfl rfl rfl rfl
      | some viewer =>
        obtain ⟨rfl, rfl⟩ := Prod.mk.inj (Option.some.inj h)
        apply Call.heard_of_reports
        rw [hrunner]
        exact Command.Runner.reports_suggest resolve template viewer
    | custom key =>
      cases viewer with
      | none =>
        obtain ⟨rfl, rfl⟩ := Prod.mk.inj (Option.some.inj h)
        exact Call.heard_of_silent rfl rfl rfl rfl rfl
      | some viewer =>
        obtain ⟨outcome, world, rfl, rfl, hsent⟩ := make_custom _ _ _ _ _ h
        exact Call.heard_of_silent rfl rfl rfl rfl hsent

/-! ## Runs of calls -/

theorem heard_of_makes {made : List (Call × Answer)} (hmade : Makes b e made e')
    (hrunner : e.runner = ⟨resolve, .host⟩) :
    e'.sent = e.sent ++ made.filterMap (fun m ↦ m.1.sent? m.2) ∧
      ∀ m ∈ made, Command.Told (m.1.due? resolve) (m.1.sent? m.2) m.2.command? := by
  induction hmade with
  | nil => simp
  | @cons levels call answer e e₁ made e' hmake _ ih =>
    have hheard := heard_of_make hrunner hmake
    obtain ⟨hsent, htold⟩ := ih (hheard.runner.trans hrunner)
    constructor
    · calc
        e'.sent = e₁.sent ++ made.filterMap fun m ↦ m.1.sent? m.2 := hsent
        _ = e.sent ++ ((call.sent? answer).toList ++ made.filterMap fun m ↦ m.1.sent? m.2) := by
          rw [hheard.sent, List.append_assoc]
        _ = e.sent ++ ((call, answer) :: made).filterMap fun m ↦ m.1.sent? m.2 := by
          cases hsend : call.sent? answer <;> simp [hsend]
    · have hfirst := hheard.told
      rw [hrunner] at hfirst
      exact List.forall_mem_cons.2 ⟨hfirst, htold⟩

/-- Calls that have their answers on every engine with the runner can be made in a row. -/
theorem exists_makes {made : List (Call × Answer)}
    (hcalls : ∀ m ∈ made, ∀ e : Engine A M H σ, e.runner = ⟨resolve, .host⟩ →
      ∃ e', m.1.make b levels e = some (m.2, e'))
    (hrunner : e.runner = ⟨resolve, .host⟩) : ∃ e', Makes b e made e' := by
  induction made generalizing e with
  | nil => exact ⟨e, .nil⟩
  | cons m made ih =>
    obtain ⟨hcall, hcalls⟩ := List.forall_mem_cons.1 hcalls
    obtain ⟨e₁, hmake⟩ := hcall e hrunner
    obtain ⟨e', hmade⟩ := ih hcalls ((heard_of_make hrunner hmake).runner.trans hrunner)
    exact ⟨e', .cons hmake hmade⟩

theorem Call.viewer?_of_sent? {call : Call} {answer : Answer} {viewer : Viewer} {command : String}
    (h : call.sent? answer = some (.player viewer command) ∨
      call.sent? answer = some (.suggestion viewer command)) : call.viewer? = some viewer := by
  have hhanded {viewer? : Option Viewer} {text : String} {scope : CommandScope}
      (h : Command.handed viewer? text scope = some (.player viewer command) ∨
        Command.handed viewer? text scope = some (.suggestion viewer command)) :
      viewer? = some viewer := by
    cases scope <;> cases viewer? <;> simp_all [Command.handed]
  unfold Call.sent? at h
  split at h
  · exact hhanded h
  · simp_all [viewer?]
  · exact hhanded h
  · simp_all [viewer?]
  · simp at h

/-- Over any calls, with any resolver and any handlers, the host gets one command for each call
that answers with one, with the text of the answer, and nothing else. A call answers with a command
unless it is refused. No command for the console has a percent sign, and one on behalf of a viewer
comes of a call of that viewer. -/
theorem commands_as_reported (hrunner : e.runner = ⟨resolve, .host⟩) (hempty : e.sent = [])
    {made : List (Call × Answer)} (hmade : Makes b e made e') :
    e'.sent = made.filterMap (fun m ↦ m.1.sent? m.2) ∧
      (∀ m ∈ made, (m.1.sent? m.2).map Command.Sent.command = m.2.command? ∧
        m.2.command? = m.1.due? resolve) ∧
      (∀ command, .console command ∈ e'.sent → '%' ∉ command.toList) ∧
      ∀ viewer command, .player viewer command ∈ e'.sent ∨ .suggestion viewer command ∈ e'.sent →
        ∃ m ∈ made, m.1.viewer? = some viewer ∧ m.2.command? = some command := by
  obtain ⟨hsent, htold⟩ := heard_of_makes hmade hrunner
  rw [hempty, List.nil_append] at hsent
  refine ⟨hsent, fun m hm ↦ ⟨(htold m hm).text, (htold m hm).answered⟩, ?_, ?_⟩
  · intro command hmem
    rw [hsent] at hmem
    obtain ⟨m, hm, hsend⟩ := List.mem_filterMap.1 hmem
    exact (htold m hm).guarded command hsend
  · intro viewer command hmem
    rw [hsent, List.mem_filterMap, List.mem_filterMap] at hmem
    obtain ⟨m, hm, hsend⟩ | ⟨m, hm, hsend⟩ := hmem
    · refine ⟨m, hm, Call.viewer?_of_sent? (.inl hsend), ?_⟩
      rw [← (htold m hm).text, hsend]
      rfl
    · refine ⟨m, hm, Call.viewer?_of_sent? (.inr hsend), ?_⟩
      rw [← (htold m hm).text, hsend]
      rfl

/-- Puts the name of the viewer in front. -/
def naming : Command.Resolver := fun template viewer ↦
  match viewer with
  | none => template
  | some v => v.name ++ ": " ++ template

/-- A player whose name has a percent sign. -/
def bargain : Viewer :=
  ⟨⟨Uuid.nil, some "50%"⟩, "hub", 0, 64, 0, "survival"⟩

def namingCalls : List (Call × Answer) :=
  [(.run "hello" .player (some bargain), .ran (.ok "50%: hello")),
    (.run "stop" .console (some bargain), .ran (.error (.unresolved "50%: stop"))),
    (.perform (.runCommand "stop" .console) none .empty, .performed (.ok (.command "stop"))),
    (.perform (.suggestCommand "bye") none .empty,
      .performed (.error (.command (.noPlayer "suggest_command")))),
    (.suggest "bye" bargain, .suggested "50%: bye")]

/-- After an action whose handler breaks down, the same command is refused with the name of the
viewer in it and runs without a viewer. -/
theorem commands_as_reported_naming :
    ∃ e e' : Engine Unit Unit Bool Unit,
      e.runner = ⟨naming, .host⟩ ∧ e.sent = [] ∧
      Makes ⟨noAddons, World.replacing⟩ e
        ((.perform (.custom World.shopKey) (some bargain) .empty,
          .performed (.ok (.dispatched ⟨0, 1, 0⟩))) :: namingCalls) e' ∧
      e'.sent = [.player bargain "50%: hello", .console "stop", .suggestion bargain "50%: bye"] ∧
      ∀ command, .console command ∈ e'.sent → '%' ∉ command.toList := by
  let b : Behaviour Unit Unit Bool Unit := ⟨noAddons, World.replacing⟩
  let world : World Bool Unit := ⟨(Registry.empty.register World.shopKey true).2, (), []⟩
  let e : Engine Unit Unit Bool Unit :=
    (build { runner := ⟨naming, .host⟩ } ()).inWorldOf world
  have hrunner : e.runner = ⟨naming, .host⟩ := rfl
  have hempty : e.sent = [] := rfl
  obtain ⟨e₁, hcustom⟩ : ∃ e₁, (Call.perform (.custom World.shopKey) (some bargain) .empty).make b 1
      e = some (.performed (.ok (.dispatched ⟨0, 1, 0⟩)), e₁) := ⟨_, rfl⟩
  have hcalls : ∀ m ∈ namingCalls, ∀ e : Engine Unit Unit Bool Unit, e.runner = ⟨naming, .host⟩ →
      ∃ e', m.1.make b 1 e = some (m.2, e') := by
    simp only [namingCalls, List.forall_mem_cons]
    refine ⟨?_, ?_, ?_, ?_, ?_, by simp⟩ <;> intro e h
    · rw [make_run, h]
      exact ⟨_, rfl⟩
    · rw [make_run, h]
      exact ⟨_, rfl⟩
    · rw [make_runCommand, h]
      exact ⟨_, rfl⟩
    · exact ⟨e, rfl⟩
    · rw [make_suggest, h]
      exact ⟨_, rfl⟩
  obtain ⟨e', hmade⟩ := exists_makes hcalls (heard_of_make hrunner hcustom).runner
  obtain ⟨hsent, _, hguarded, _⟩ := commands_as_reported hrunner hempty (.cons hcustom hmade)
  exact ⟨e, e', hrunner, hempty, .cons hcustom hmade, hsent, hguarded⟩

end Engine

end DialogKit
