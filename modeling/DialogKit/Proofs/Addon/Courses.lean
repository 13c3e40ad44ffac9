import DialogKit.Proofs.Addon.History

/-!
# Courses of runs

How requests to manage addons and programs may go, as derivations. The rules put each stage where it
happens: a program for enabling or disabling is derived right after the stage that tells its call,
and nowhere else. What can be derived from a lawful history is just what the functions compute, with
the stages that the history of the run tells.
-/

namespace DialogKit.Platform

variable {A M H σ α : Type}

/-- How a computation may go: what has happened before and the platform, then what happens, the
result, and the platform after it. -/
abbrev Course (A M H σ α : Type) :=
  List (Stage A M) → Platform A M H σ → List (Stage A M) → α → Platform A M H σ → Prop

section

variable (kit : AddonKit A M H σ)

/-- An offer is refused, or the program for enabling is called and ends one way or the other. -/
inductive Enables
    (runs : AddonProgram A H σ (Except String M) → Course A M H σ (Except String M)) (addon : A) :
    Course A M H σ (Except AddonFault Bool)
  | refused {past p} (htaken : isTaken kit p (kit.id addon) = true) :
      Enables runs addon past p [.refused (Stage.offered past).length addon] (.ok false)
        (p.after [.log (skipEvent kit addon)])
  | called {past p n stages ended q} (hfree : isTaken kit p (kit.id addon) = false)
      (hnumber : n = (Stage.offered past).length)
      (hrun : runs (kit.onEnable addon ⟨kit.id addon, p.apiVersion⟩) (past ++ [.starting n addon])
        (p.reserve (kit.id addon)) stages ended q) :
      Enables runs addon past p (.starting n addon :: stages ++ [endStage n addon ended])
        (reply kit addon ended) (conclude kit q addon ended)

variable
  (runs : AddonProgram A H σ (Except String Unit) → Course A M H σ (Except String Unit))

/-- The programs for disabling are called one after the other, however they end. -/
inductive ShutsDown :
    List (Nat × EnabledAddon A M) → Course A M H σ (List (Except String Unit))
  | nil {past p} : ShutsDown [] past p [] [] p
  | cons {x rest past p stages ended q stages' others r}
      (hrun : runs (kit.onDisable x.2.addon x.2.memory) (past ++ [.stopping x.1]) p stages ended q)
      (hrest : ShutsDown rest (past ++ .stopping x.1 :: stages)
        (q.after [.log (stopEvent kit x.2.addon ended)]) stages' others r) :
      ShutsDown (x :: rest) past p (.stopping x.1 :: stages ++ stages') (ended :: others) r

/-- The addon with the id is taken and its program for disabling called, if there is one. -/
inductive Disables (id : String) : Course A M H σ (Except AddonFault Bool)
  | missed {past p} (hnone : ∀ entry ∈ p.enabled, kit.id entry.addon ≠ id) :
      Disables id past p [] (.ok false) (p.after [.log (missEvent id)])
  | called {past p x stages ended q}
      (hlisted : (Flow.listing.pending past).find? (fun x ↦ kit.id x.2.addon == id) = some x)
      (hrun : runs (kit.onDisable x.2.addon x.2.memory) (past ++ [.taken [x.1], .stopping x.1])
        (withdraw kit p id) stages ended q) :
      Disables id past p (.taken [x.1] :: .stopping x.1 :: stages ++ [.released [x.1]])
        (reply kit x.2.addon ended) (q.after [.log (stopEvent kit x.2.addon ended)])

/-- All addons are taken, and their programs for disabling called in the reverse of the order of the
list; those that end well are counted. -/
inductive DisablesAll : Course A M H σ Nat
  | called {past p ns stages endings q}
      (htaken : ns = (Flow.listing.pending past).reverse.map Prod.fst)
      (hshut : ShutsDown kit runs (Flow.listing.pending past).reverse (past ++ [.taken ns])
        { p with enabled := [] } stages endings q) :
      DisablesAll past p (.taken ns :: stages ++ [.released ns])
        (endings.countP fun ended ↦ ended.isOk) q

end

/-- A program goes on with what its requests are answered. -/
inductive RunsWith (answers : (request : AddonRequest A H σ) → Course A M H σ request.Answer) :
    AddonProgram A H σ α → Course A M H σ α
  | finish {a past p} : RunsWith answers (.finish a) past p [] a p
  | ask {request next past p stages answer q stages' a r}
      (hanswer : answers request past p stages answer q)
      (hnext : RunsWith answers (next answer) (past ++ stages) q stages' a r) :
      RunsWith answers (.ask request next) past p (stages ++ stages') a r

/-- How a request may be answered within so many levels. -/
def Answers (kit : AddonKit A M H σ) (handling : Handling H σ) :
    Nat → (request : AddonRequest A H σ) → Course A M H σ request.Answer
  | levels, .act request => fun _ p stages answer q ↦
      stages = [] ∧ inWorld (World.serve (World.dispatch handling levels) request) p =
        some (answer, q)
  | _, .addKind kind => fun _ p stages answer q ↦ stages = [] ∧ addKind kind p = some (answer, q)
  | 0, _ => fun _ _ _ _ _ ↦ False
  | levels + 1, .enable addon => Enables kit (RunsWith (Answers kit handling levels)) addon
  | levels + 1, .disable id => Disables kit (RunsWith (Answers kit handling levels)) id
  | levels + 1, .disableAll => DisablesAll kit (RunsWith (Answers kit handling levels))

/-- How a program may go whose requests are answered within so many levels. -/
abbrev Runs (kit : AddonKit A M H σ) (handling : Handling H σ) (levels : Nat) :
    AddonProgram A H σ α → Course A M H σ α :=
  RunsWith (Answers kit handling levels)

/-! ## Histories that tell a platform -/

variable {kit : AddonKit A M H σ} {handling : Handling H σ} {levels : Nat}
  {past : List (Stage A M)} {p q : Platform A M H σ}

namespace Tells

variable (h : Tells kit past p)

include h

/-- The id of an addon is reserved for its program for enabling. -/
theorem starting {addon : A} (hfree : isTaken kit p (kit.id addon) = false) :
    Tells kit (past ++ [.starting (Stage.offered past).length addon]) (p.reserve (kit.id addon)) :=
  have hallowed := h.mirrors.allowed_starting hfree
  ⟨h.lawful.snoc hallowed, h.mirrors.reserve h.lawful hallowed⟩

theorem stopping {n : Nat} (hwait : n ∈ Flow.leaving.pending past) :
    Tells kit (past ++ [.stopping n]) p :=
  have hstopping := h.mirrors.stopping h.lawful hwait
  ⟨hstopping.1, hstopping.2.mirrors⟩

/-- One addon leaves the list, and its program for disabling is called. -/
theorem taking {id : String} {x : Nat × EnabledAddon A M}
    (hlisted : (Flow.listing.pending past).find? (fun x ↦ kit.id x.2.addon == id) = some x) :
    Tells kit (past ++ [.taken [x.1], .stopping x.1]) (withdraw kit p id) := by
  obtain ⟨hallowed, hmirrors⟩ := h.mirrors.withdraw h.lawful hlisted
  have htells : Tells kit (past ++ [.taken [x.1]]) (withdraw kit p id) :=
    ⟨h.lawful.snoc hallowed, hmirrors⟩
  have hwait := wait_taken h.lawful hallowed
  rw [List.append_cons]
  exact htells.stopping (hwait.pending x.1 (List.mem_singleton_self _))

/-- All addons leave the list and wait to be shut down. -/
theorem takingAll {xs : List (Nat × EnabledAddon A M)} {ns : List Nat}
    (hlisted : (Flow.listing.pending past).reverse = xs)
    (hns : ns = (Flow.listing.pending past).reverse.map Prod.fst) :
    Tells kit (past ++ [.taken ns]) { p with enabled := [] } ∧
      Wait (past ++ [.taken ns]) (xs.map Prod.fst) := by
  subst hlisted hns
  obtain ⟨hallowed, hmirrors⟩ := h.mirrors.withdrawAll h.lawful
  exact ⟨⟨h.lawful.snoc hallowed, hmirrors⟩, wait_taken h.lawful hallowed⟩

end Tells

/-! ## What is derived is what is computed -/

/-- From a history that tells the platform, the course is derived exactly if the computation goes
this way. -/
def Describes (kit : AddonKit A M H σ) (course : Course A M H σ α) (x : PlatformM A M H σ α)
    (stages : Chronicle A M H σ) : Prop :=
  ∀ past p, Tells kit past p → ∀ stages' a q,
    course past p stages' a q ↔ x p = some (a, q) ∧ stages past p = stages'

theorem describes_enables
    {run : AddonProgram A H σ (Except String M) → PlatformM A M H σ (Except String M)}
    {stages : AddonProgram A H σ (Except String M) → Chronicle A M H σ}
    {runs : AddonProgram A H σ (Except String M) → Course A M H σ (Except String M)}
    (h : ∀ program, Describes kit (runs program) (run program) (stages program)) (addon : A) :
    Describes kit (Enables kit runs addon) (enableWith kit run addon)
      (enableStages kit run stages addon) := by
  intro past p htells stages' result q
  constructor
  · intro hcourse
    cases hcourse with
    | refused htaken =>
      exact ⟨enableWith_of_isTaken run htaken, enableStages_of_isTaken run stages htaken⟩
    | called hfree hnumber hruns =>
      subst hnumber
      obtain ⟨hrun, rfl⟩ := (h _ _ _ (htells.starting hfree) _ _ _).1 hruns
      exact ⟨(enableWith_eq_some hfree).2 ⟨_, _, hrun, rfl, rfl⟩,
        enableStages_of_eq_some stages hfree hrun⟩
  · rintro ⟨hx, rfl⟩
    cases htaken : isTaken kit p (kit.id addon) with
    | true =>
      rw [enableWith_of_isTaken run htaken] at hx
      cases hx
      rw [enableStages_of_isTaken run stages htaken]
      exact .refused htaken
    | false =>
      obtain ⟨ended, r, hrun, rfl, rfl⟩ := (enableWith_eq_some htaken).1 hx
      rw [enableStages_of_eq_some stages htaken hrun]
      exact .called htaken rfl ((h _ _ _ (htells.starting htaken) _ _ _).2 ⟨hrun, rfl⟩)

section

variable {run : AddonProgram A H σ (Except String Unit) → PlatformM A M H σ (Except String Unit)}
  {stages : AddonProgram A H σ (Except String Unit) → Chronicle A M H σ}
  {runs : AddonProgram A H σ (Except String Unit) → Course A M H σ (Except String Unit)}
  (h : ∀ program, Describes kit (runs program) (run program) (stages program))

include h

theorem describes_disables (id : String) :
    Describes kit (Disables kit runs id) (disableWith kit run id)
      (disableStages kit run stages id) := by
  intro past p htells stages' result q
  have hfind := htells.mirrors.find?_enabled id
  have hnone : p.enabled.find? (fun entry ↦ kit.id entry.addon == id) = none ↔
      ∀ entry ∈ p.enabled, kit.id entry.addon ≠ id := by simp
  constructor
  · intro hcourse
    cases hcourse with
    | missed hmissed =>
      have hnone := hnone.2 hmissed
      rw [hnone, eq_comm, Option.map_eq_none_iff] at hfind
      exact ⟨disableWith_of_none run hnone, disableStages_of_none stages run hfind⟩
    | called hlisted hruns =>
      obtain ⟨hrun, rfl⟩ := (h _ _ _ (htells.taking hlisted) _ _ _).1 hruns
      rw [hlisted] at hfind
      exact ⟨(disableWith_eq_some hfind).2 ⟨_, _, hrun, rfl, rfl⟩,
        disableStages_of_eq_some stages hlisted hrun⟩
  · rintro ⟨hx, rfl⟩
    cases hlisted : (Flow.listing.pending past).find? fun x ↦ kit.id x.2.addon == id with
    | none =>
      rw [hlisted] at hfind
      rw [disableWith_of_none run hfind] at hx
      cases hx
      rw [disableStages_of_none stages run hlisted]
      exact .missed (hnone.1 hfind)
    | some x =>
      rw [hlisted] at hfind
      obtain ⟨ended, r, hrun, rfl, rfl⟩ := (disableWith_eq_some hfind).1 hx
      rw [disableStages_of_eq_some stages hlisted hrun]
      exact .called hlisted ((h _ _ _ (htells.taking hlisted) _ _ _).2 ⟨hrun, rfl⟩)

variable (htracks : ∀ program, Tracks kit [] (run program) (stages program))

include htracks

/-- The programs of addons that wait for it are called one after the other. -/
theorem shutsDown_iff {xs : List (Nat × EnabledAddon A M)} (htells : Tells kit past p)
    (hwait : Wait past (xs.map Prod.fst)) {stages' : List (Stage A M)} {count : Nat} :
    (∃ endings, ShutsDown kit runs xs past p stages' endings q ∧
        endings.countP (fun ended ↦ ended.isOk) = count) ↔
      shutDownAll kit run (xs.map Prod.snd) p = some (count, q) ∧
        shutDownAllStages kit run stages xs past p = stages' := by
  induction xs generalizing past p stages' count with
  | nil =>
    constructor
    · rintro ⟨_, ⟨⟩, rfl⟩
      exact ⟨rfl, rfl⟩
    · rintro ⟨hx, rfl⟩
      obtain ⟨rfl, rfl⟩ := pure_eq_some.1 hx
      exact ⟨[], .nil, rfl⟩
  | cons x rest ih =>
    have hcalled := htells.stopping (hwait.pending x.1 List.mem_cons_self)
    -- when the program has ended, the others still wait
    have hnext {ended : Except String Unit} {r : Platform A M H σ}
        (hrun : run (kit.onDisable x.2.addon x.2.memory) p = some (ended, r)) :=
      (tracks_shutDown htracks x).tells htells hwait
        (shutDown_eq_some.2 ⟨ended, r, hrun, rfl, rfl⟩)
    constructor
    · rintro ⟨_, hshut, rfl⟩
      cases hshut with
      | cons hruns hrest =>
        obtain ⟨hrun, rfl⟩ := (h _ _ _ hcalled _ _ _).1 hruns
        obtain ⟨htells', hwait'⟩ := hnext hrun
        obtain ⟨hx, rfl⟩ := (ih htells' hwait').1 ⟨_, hrest, rfl⟩
        exact ⟨shutDownAll_cons_eq_some.2 ⟨_, _, _, hrun, hx, by rw [List.countP_cons]⟩,
          shutDownAllStages_cons_of_eq_some stages rest hrun⟩
    · rintro ⟨hx, rfl⟩
      obtain ⟨ended, r, others, hrun, hrest, rfl⟩ := shutDownAll_cons_eq_some.1 hx
      obtain ⟨htells', hwait'⟩ := hnext hrun
      obtain ⟨endings, hshut, rfl⟩ := (ih htells' hwait').2 ⟨hrest, rfl⟩
      rw [shutDownAllStages_cons_of_eq_some stages rest hrun]
      exact ⟨ended :: endings, .cons ((h _ _ _ hcalled _ _ _).2 ⟨hrun, rfl⟩) hshut,
        by rw [List.countP_cons]⟩

theorem describes_disablesAll :
    Describes kit (DisablesAll kit runs) (disableAllWith kit run)
      (disableAllStages kit run stages) := by
  intro past p htells stages' count q
  obtain ⟨htells', hwait⟩ := htells.takingAll rfl rfl
  rw [htells.mirrors.disableAllWith_apply run]
  constructor
  · intro hcourse
    cases hcourse with
    | called htaken hshut =>
      subst htaken
      obtain ⟨hx, rfl⟩ := (shutsDown_iff h htracks htells' hwait).1 ⟨_, hshut, rfl⟩
      exact ⟨hx, disableAllStages_of_eq_some stages hx⟩
  · rintro ⟨hx, rfl⟩
    obtain ⟨endings, hshut, rfl⟩ := (shutsDown_iff h htracks htells' hwait).2 ⟨hx, rfl⟩
    rw [disableAllStages_of_eq_some stages hx]
    exact .called rfl hshut

end

theorem describes_runsWith
    {service : (request : AddonRequest A H σ) → PlatformM A M H σ request.Answer}
    {stages : AddonRequest A H σ → Chronicle A M H σ}
    {answers : (request : AddonRequest A H σ) → Course A M H σ request.Answer}
    (h : ∀ request, Describes kit (answers request) (service request) (stages request))
    (htracks : ∀ request, Tracks kit [] (service request) (stages request))
    (program : AddonProgram A H σ α) :
    Describes kit (RunsWith answers program) (program.run service)
      (programStages service stages program) := by
  induction program with
  | finish result =>
    intro past p htells stages' a q
    constructor
    · rintro ⟨⟩
      exact ⟨rfl, rfl⟩
    · rintro ⟨hx, rfl⟩
      obtain ⟨rfl, rfl⟩ := pure_eq_some.1 hx
      exact .finish
  | ask request next ih =>
    intro past p htells stages' a q
    constructor
    · intro hcourse
      cases hcourse with
      | ask hanswer hnext =>
        obtain ⟨hserve, rfl⟩ := (h request past p htells _ _ _).1 hanswer
        have htells' := (htracks request).tells_after htells hserve
        obtain ⟨hrest, rfl⟩ := (ih _ _ _ htells' _ _ _).1 hnext
        exact ⟨bind_eq_some.2 ⟨_, _, hserve, hrest⟩, thenStages_of_eq_some hserve⟩
    · rintro ⟨hx, rfl⟩
      obtain ⟨answer, r, hserve, hrest⟩ := bind_eq_some.1 hx
      have htells' := (htracks request).tells_after htells hserve
      rw [programStages, thenStages_of_eq_some hserve]
      exact .ask ((h request past p htells _ _ _).2 ⟨hserve, rfl⟩)
        ((ih answer _ _ htells' _ _ _).2 ⟨hrest, rfl⟩)

/-- Nothing happens to addons in the computation. -/
theorem describes_idle (x : PlatformM A M H σ α) :
    Describes kit (fun _ p stages answer q ↦ stages = [] ∧ x p = some (answer, q)) x
      fun _ _ ↦ [] := by
  intro past p _ stages' a q
  rw [and_comm, eq_comm]

/-- However deep addons are enabled and disabled within each other, requests are answered just as
the rules say. -/
theorem describes_answers (kit : AddonKit A M H σ) (handling : Handling H σ) (levels : Nat)
    (request : AddonRequest A H σ) :
    Describes kit (Answers kit handling levels request) (service kit handling levels request)
      (requestStages kit handling levels request) := by
  -- the requests of the programs that a request calls are answered one level below
  induction levels generalizing request with
  | zero =>
    cases request with
    | act request => exact describes_idle _
    | addKind kind => exact describes_idle _
    | enable | disable | disableAll => exact fun _ _ _ _ _ _ ↦ ⟨nofun, nofun⟩
  | succ levels ih =>
    have hruns {α : Type} (program : AddonProgram A H σ α) :=
      describes_runsWith ih (tracks_service kit handling levels) program
    cases request with
    | act request => exact describes_idle _
    | addKind kind => exact describes_idle _
    | enable addon => exact describes_enables (fun program ↦ hruns program) addon
    | disable id => exact describes_disables (fun program ↦ hruns program) id
    | disableAll =>
      exact describes_disablesAll (fun program ↦ hruns program)
        fun program ↦ tracks_stagesOf kit handling levels program

theorem describes_runs (kit : AddonKit A M H σ) (handling : Handling H σ) (levels : Nat)
    (program : AddonProgram A H σ α) :
    Describes kit (Runs kit handling levels program) (program.run (service kit handling levels))
      (stagesOf kit handling levels program) :=
  describes_runsWith (describes_answers kit handling levels) (tracks_service kit handling levels)
    program

section

variable {front rest : List (Nat × EnabledAddon A M)} {x : Nat × EnabledAddon A M} {ns : List Nat}
  {count : Nat} (h : Tells kit past p)
  (hns : ns = (Flow.listing.pending past).reverse.map Prod.fst)
  (hlisted : (Flow.listing.pending past).reverse = front ++ x :: rest)

include h hns hlisted

/-- When all addons are shut down, the programs of those in front are called first. -/
theorem Tells.front_iff {stages : List (Stage A M)} :
    (∃ endings, ShutsDown kit (Runs kit handling levels) front (past ++ [.taken ns])
        { p with enabled := [] } stages endings q ∧
        endings.countP (fun ended ↦ ended.isOk) = count) ↔
      shutDownAll kit (Program.run (service kit handling levels)) (front.map Prod.snd)
          { p with enabled := [] } = some (count, q) ∧
        shutDownAllStages kit (Program.run (service kit handling levels))
          (stagesOf kit handling levels) front (past ++ [.taken ns]) { p with enabled := [] } =
            stages := by
  obtain ⟨htells, hwait⟩ := h.takingAll hlisted hns
  rw [List.map_append] at hwait
  exact shutsDown_iff (describes_runs kit handling levels) (tracks_stagesOf kit handling levels)
    htells hwait.left

/-- Then the next one is called. -/
theorem Tells.stoppingNext
    (hfront : shutDownAll kit (Program.run (service kit handling levels)) (front.map Prod.snd)
      { p with enabled := [] } = some (count, q)) :
    Tells kit (past ++ [.taken ns] ++
      shutDownAllStages kit (Program.run (service kit handling levels))
        (stagesOf kit handling levels) front (past ++ [.taken ns]) { p with enabled := [] } ++
      [.stopping x.1]) q := by
  obtain ⟨htells, hwait⟩ := h.takingAll hlisted hns
  rw [List.map_append] at hwait
  obtain ⟨htells', hwait'⟩ :=
    (tracks_shutDownAll (tracks_stagesOf kit handling levels) front).tells htells hwait hfront
  exact htells'.stopping (hwait'.pending x.1 List.mem_cons_self)

end

/-! ## Places in a history -/

/-- The platforms that a program comes to, with what has happened on the way. -/
inductive Comes (kit : AddonKit A M H σ) (handling : Handling H σ) :
    {α : Type} → Nat → AddonProgram A H σ α → List (Stage A M) → Platform A M H σ →
      List (Stage A M) → Platform A M H σ → Prop
  | here {α : Type} {levels} {program : AddonProgram A H σ α} {past p} :
      Comes kit handling levels program past p [] p
  | onward {α : Type} {levels request}
      {next : AddonRequest.Answer request → AddonProgram A H σ α}
      {past p stages answer q stages' q'}
      (hanswer : Answers kit handling levels request past p stages answer q)
      (hnext : Comes kit handling levels (next answer) (past ++ stages) q stages' q') :
      Comes kit handling levels (.ask request next) past p (stages ++ stages') q'
  | enabling {α : Type} {levels addon} {next : Except AddonFault Bool → AddonProgram A H σ α}
      {past p n stages q} (hfree : isTaken kit p (kit.id addon) = false)
      (hnumber : n = (Stage.offered past).length)
      (hprogram : Comes kit handling levels (kit.onEnable addon ⟨kit.id addon, p.apiVersion⟩)
        (past ++ [.starting n addon]) (p.reserve (kit.id addon)) stages q) :
      Comes kit handling (levels + 1) (.ask (.enable addon) next) past p
        (.starting n addon :: stages) q
  | disabling {α : Type} {levels id} {next : Except AddonFault Bool → AddonProgram A H σ α}
      {past p x stages q}
      (hlisted : (Flow.listing.pending past).find? (fun x ↦ kit.id x.2.addon == id) = some x)
      (hprogram : Comes kit handling levels (kit.onDisable x.2.addon x.2.memory)
        (past ++ [.taken [x.1], .stopping x.1]) (withdraw kit p id) stages q) :
      Comes kit handling (levels + 1) (.ask (.disable id) next) past p
        (.taken [x.1] :: .stopping x.1 :: stages) q
  | disablingAll {α : Type} {levels} {next : Nat → AddonProgram A H σ α}
      {past p ns front x rest stages endings q stages' q'}
      (htaken : ns = (Flow.listing.pending past).reverse.map Prod.fst)
      (hlisted : (Flow.listing.pending past).reverse = front ++ x :: rest)
      (hfront : ShutsDown kit (Runs kit handling levels) front (past ++ [.taken ns])
        { p with enabled := [] } stages endings q)
      (hprogram : Comes kit handling levels (kit.onDisable x.2.addon x.2.memory)
        (past ++ [.taken ns] ++ stages ++ [.stopping x.1]) q stages' q') :
      Comes kit handling (levels + 1) (.ask .disableAll next) past p
        (.taken ns :: stages ++ .stopping x.1 :: stages') q'

/-! ### Beginnings of histories -/

section

variable {before : List (Stage A M)}

theorem prefix_thenStages {x : PlatformM A M H σ α} {stages : Chronicle A M H σ}
    (rest : α → Chronicle A M H σ) (h : before <+: stages past p) :
    before <+: thenStages x stages rest past p :=
  h.trans (List.prefix_append ..)

theorem prefix_enableStages {addon : A}
    (run : AddonProgram A H σ (Except String M) → PlatformM A M H σ (Except String M))
    {stages : AddonProgram A H σ (Except String M) → Chronicle A M H σ}
    (hfree : isTaken kit p (kit.id addon) = false)
    (h : before <+: stages (kit.onEnable addon ⟨kit.id addon, p.apiVersion⟩)
      (past ++ [.starting (Stage.offered past).length addon]) (p.reserve (kit.id addon))) :
    .starting (Stage.offered past).length addon :: before <+:
      enableStages kit run stages addon past p := by
  unfold enableStages
  dsimp only
  rw [if_neg (by simp [hfree]), List.prefix_cons_inj]
  exact prefix_thenStages _ h

variable {run : AddonProgram A H σ (Except String Unit) → PlatformM A M H σ (Except String Unit)}
  {stages : AddonProgram A H σ (Except String Unit) → Chronicle A M H σ}

theorem prefix_disableStages {id : String} {x : Nat × EnabledAddon A M}
    (run : AddonProgram A H σ (Except String Unit) → PlatformM A M H σ (Except String Unit))
    (hlisted : (Flow.listing.pending past).find? (fun x ↦ kit.id x.2.addon == id) = some x)
    (h : before <+: stages (kit.onDisable x.2.addon x.2.memory)
      (past ++ [.taken [x.1], .stopping x.1]) (withdraw kit p id)) :
    .taken [x.1] :: .stopping x.1 :: before <+: disableStages kit run stages id past p := by
  unfold disableStages
  rw [hlisted]
  dsimp only
  rw [List.prefix_cons_inj]
  refine prefix_thenStages _ ?_
  rw [shutDownStages, List.prefix_cons_inj, ← List.append_cons]
  exact h

theorem prefix_disableAllStages {front rest : List (Nat × EnabledAddon A M)}
    {x : Nat × EnabledAddon A M} {ns : List Nat} {count : Nat}
    (htaken : ns = (Flow.listing.pending past).reverse.map Prod.fst)
    (hlisted : (Flow.listing.pending past).reverse = front ++ x :: rest)
    (hfront : shutDownAll kit run (front.map Prod.snd) { p with enabled := [] } =
      some (count, q)) :
    let stopped := shutDownAllStages kit run stages front (past ++ [.taken ns])
      { p with enabled := [] }
    before <+: stages (kit.onDisable x.2.addon x.2.memory)
        (past ++ [.taken ns] ++ stopped ++ [.stopping x.1]) q →
      .taken ns :: stopped ++ .stopping x.1 :: before <+:
        disableAllStages kit run stages past p := by
  intro stopped h
  unfold disableAllStages
  dsimp only
  rw [← htaken, hlisted, List.cons_append, List.prefix_cons_inj]
  refine prefix_thenStages _ ?_
  rw [shutDownAllStages_append_of_eq_some stages (x :: rest) hfront, List.prefix_append_right_inj]
  refine prefix_thenStages _ ?_
  rw [shutDownStages, List.prefix_cons_inj]
  exact h

end

section

variable {program : AddonProgram A H σ α}

/-- A run comes to where it ends. -/
theorem RunsWith.comes {stages : List (Stage A M)} {a : α}
    (h : Runs kit handling levels program past p stages a q) :
    Comes kit handling levels program past p stages q := by
  induction h with
  | finish => exact .here
  | ask hanswer _ ih => exact .onward hanswer ih

/-- A visited platform lies at some place of a derivation. -/
theorem Visits.exists_comes (h : Visits kit handling levels program p q)
    (htells : Tells kit past p) :
    ∃ before, Comes kit handling levels program past p before q := by
  induction h generalizing past with
  | here => exact ⟨[], .here⟩
  | @onward α levels request next p answer q q' hserve _ ih =>
    have hanswer := (describes_answers kit handling levels request _ _ htells _ _ _).2
      ⟨hserve, rfl⟩
    have htells' := (tracks_service kit handling levels request).tells_after htells hserve
    obtain ⟨before, hcomes⟩ := ih htells'
    exact ⟨_, .onward hanswer hcomes⟩
  | enabling hfree _ ih =>
    obtain ⟨before, hcomes⟩ := ih (htells.starting hfree)
    exact ⟨_, .enabling hfree rfl hcomes⟩
  | disabling hfind _ ih =>
    rw [htells.mirrors.find?_enabled] at hfind
    obtain ⟨x, hlisted, rfl⟩ := Option.map_eq_some_iff.1 hfind
    obtain ⟨before, hcomes⟩ := ih (htells.taking hlisted)
    exact ⟨_, .disabling hlisted hcomes⟩
  | @disablingAll α levels next p entry q q' front rest count hentries hfront _ ih =>
    rw [htells.mirrors.enabled, ← List.map_reverse] at hentries
    obtain ⟨front, others, hlisted, rfl, hothers⟩ := List.map_eq_append_iff.1 hentries
    obtain ⟨x, rest, rfl, rfl, rfl⟩ := List.map_eq_cons_iff.1 hothers
    obtain ⟨endings, hshut, _⟩ := (htells.front_iff rfl hlisted).2 ⟨hfront, rfl⟩
    obtain ⟨before, hcomes⟩ := ih (htells.stoppingNext rfl hlisted hfront)
    exact ⟨_, .disablingAll rfl hlisted hshut hcomes⟩

theorem Comes.visits {before : List (Stage A M)}
    (h : Comes kit handling levels program past p before q) (htells : Tells kit past p) :
    Visits kit handling levels program p q := by
  induction h with
  | here => exact .here
  | onward hanswer _ ih =>
    obtain ⟨hserve, rfl⟩ := (describes_answers _ _ _ _ _ _ htells _ _ _).1 hanswer
    exact .onward hserve (ih ((tracks_service _ _ _ _).tells_after htells hserve))
  | enabling hfree hnumber _ ih =>
    subst hnumber
    exact .enabling hfree (ih (htells.starting hfree))
  | disabling hlisted _ ih =>
    refine .disabling ?_ (ih (htells.taking hlisted))
    rw [htells.mirrors.find?_enabled, hlisted]
    rfl
  | @disablingAll α levels next past p ns front x rest stages endings q stages' q' htaken hlisted
      hshut _ ih =>
    obtain ⟨hfront, rfl⟩ := (htells.front_iff htaken hlisted).1 ⟨endings, hshut, rfl⟩
    have hentries : p.enabled.reverse =
        front.map Prod.snd ++ x.2 :: rest.map Prod.snd := by
      rw [htells.mirrors.enabled, ← List.map_reverse, hlisted, List.map_append, List.map_cons]
    exact .disablingAll _ _ _ hentries hfront (ih (htells.stoppingNext htaken hlisted hfront))

/-- What has happened when a program comes to a platform is the beginning of its history, and tells
the lists of the platform. -/
theorem Comes.tells {before : List (Stage A M)}
    (h : Comes kit handling levels program past p before q) (htells : Tells kit past p) :
    before <+: stagesOf kit handling levels program past p ∧ Tells kit (past ++ before) q := by
  induction h with
  | here => exact ⟨List.nil_prefix, by rwa [List.append_nil]⟩
  | onward hanswer _ ih =>
    obtain ⟨hserve, rfl⟩ := (describes_answers _ _ _ _ _ _ htells _ _ _).1 hanswer
    obtain ⟨hbegins, htells'⟩ := ih ((tracks_service _ _ _ _).tells_after htells hserve)
    refine ⟨?_, by rwa [← List.append_assoc]⟩
    unfold stagesOf programStages
    rw [thenStages_of_eq_some hserve, List.prefix_append_right_inj]
    exact hbegins
  | enabling hfree hnumber _ ih =>
    subst hnumber
    obtain ⟨hbegins, htells'⟩ := ih (htells.starting hfree)
    exact ⟨prefix_thenStages _ (prefix_enableStages _ hfree hbegins), by rwa [List.append_cons]⟩
  | disabling hlisted _ ih =>
    obtain ⟨hbegins, htells'⟩ := ih (htells.taking hlisted)
    exact ⟨prefix_thenStages _ (prefix_disableStages _ hlisted hbegins), by simpa using htells'⟩
  | @disablingAll α levels next past p ns front x rest stages endings q stages' q' htaken hlisted
      hshut _ ih =>
    obtain ⟨hfront, rfl⟩ := (htells.front_iff htaken hlisted).1 ⟨endings, hshut, rfl⟩
    obtain ⟨hbegins, htells'⟩ := ih (htells.stoppingNext htaken hlisted hfront)
    exact ⟨prefix_thenStages _ (prefix_disableAllStages htaken hlisted hfront hbegins),
      by simpa using htells'⟩

end

end DialogKit.Platform
