import DialogKit.Proofs.Addon.Runs

/-!
# What addons do to the registry

Programs of addons reach the registry through requests alone, their own and those of the addons
that they enable and disable. So whatever relation each operation of the registry keeps to holds
between the registries before and after any way to manage addons.
-/

namespace DialogKit

namespace Platform

variable {A M H σ α : Type}

/-- A computation takes the registry only to where the relation leads. -/
def Keeps (R : Registry H → Registry H → Prop) (x : PlatformM A M H σ α) : Prop :=
  ∀ p a q, x p = some (a, q) → R p.world.registry q.world.registry

theorem keeps_inWorld {R : Registry H → Registry H → Prop} {x : WorldM H σ α}
    (h : World.Keeps R x) : Keeps R (inWorld x : PlatformM A M H σ α) := by
  intro p a q hq
  obtain ⟨world, hworld, rfl⟩ := inWorld_eq_some.1 hq
  exact h _ _ _ hworld

end Platform

namespace Registry.Evolution

open Platform

variable {A M H σ α β : Type} {R : Registry H → Registry H → Prop} (hR : Evolution R)

include hR

theorem platform_pure (a : α) : Keeps R (pure a : PlatformM A M H σ α) := by
  intro p b q h
  obtain ⟨_, rfl⟩ := pure_eq_some.1 h
  exact hR.refl _

theorem platform_bind {x : PlatformM A M H σ α} {f : α → PlatformM A M H σ β} (hx : Keeps R x)
    (hf : ∀ a, Keeps R (f a)) : Keeps R (x >>= f) := by
  intro p b q h
  obtain ⟨a, r, hr, hq⟩ := bind_eq_some.1 h
  exact hR.trans (hx _ _ _ hr) (hf a _ _ _ hq)

theorem platform_get : Keeps R (get : PlatformM A M H σ (Platform A M H σ)) := by
  rintro p _ _ ⟨⟩
  exact hR.refl _

/-- What changes beside the world does not matter. -/
theorem platform_modify {f : Platform A M H σ → Platform A M H σ}
    (h : ∀ p, (f p).world = p.world) : Keeps R (modify f : PlatformM A M H σ PUnit) := by
  rintro p _ _ ⟨⟩
  rw [h]
  exact hR.refl _

theorem platform_report (level : Log.Level) (message : String) (fields : List Log.Field) :
    Keeps R (report level message fields : PlatformM A M H σ Unit) :=
  keeps_inWorld (hR.keeps_perform _)

theorem platform_addKind (kind : Kind) : Keeps R (addKind kind : PlatformM A M H σ Unit) :=
  hR.platform_bind hR.platform_get fun _ ↦
    hR.platform_bind (keeps_inWorld (hR.keeps_perform _)) fun _ ↦ hR.platform_modify fun _ ↦ rfl

theorem platform_run {service : (request : AddonRequest A H σ) → PlatformM A M H σ request.Answer}
    (h : ∀ request, Keeps R (service request)) (program : AddonProgram A H σ α) :
    Keeps R (program.run service) := by
  induction program with
  | finish result => exact hR.platform_pure result
  | ask request next ih => exact hR.platform_bind (h request) ih

section

variable (kit : AddonKit A M H σ)

theorem platform_enableWith
    {run : AddonProgram A H σ (Except String M) → PlatformM A M H σ (Except String M)}
    (h : ∀ program, Keeps R (run program)) (addon : A) : Keeps R (enableWith kit run addon) := by
  refine hR.platform_bind hR.platform_get fun p ↦ ?_
  split
  · exact hR.platform_bind (hR.platform_report _ _ _) fun _ ↦ hR.platform_pure _
  · refine hR.platform_bind (hR.platform_modify fun _ ↦ rfl) fun _ ↦ ?_
    refine hR.platform_bind (h _) fun result ↦ ?_
    refine hR.platform_bind (hR.platform_modify fun _ ↦ rfl) fun _ ↦ ?_
    cases result with
    | error reason => exact hR.platform_bind (hR.platform_report _ _ _) fun _ ↦ hR.platform_pure _
    | ok memory =>
      refine hR.platform_bind (hR.platform_report _ _ _) fun _ ↦ ?_
      exact hR.platform_bind (hR.platform_modify fun _ ↦ rfl) fun _ ↦ hR.platform_pure _

variable {run : AddonProgram A H σ (Except String Unit) → PlatformM A M H σ (Except String Unit)}
  (h : ∀ program, Keeps R (run program))

include h

theorem platform_shutDown (entry : EnabledAddon A M) : Keeps R (shutDown kit run entry) := by
  refine hR.platform_bind (h _) fun result ↦ ?_
  cases result <;> exact hR.platform_bind (hR.platform_report _ _ _) fun _ ↦ hR.platform_pure _

theorem platform_shutDownAll (entries : List (EnabledAddon A M)) :
    Keeps R (shutDownAll kit run entries) := by
  induction entries with
  | nil => exact hR.platform_pure 0
  | cons entry rest ih =>
    refine hR.platform_bind (hR.platform_shutDown kit h entry) fun result ↦ ?_
    refine hR.platform_bind ih fun count ↦ ?_
    cases result <;> exact hR.platform_pure _

theorem platform_disableWith (id : String) : Keeps R (disableWith kit run id) := by
  refine hR.platform_bind hR.platform_get fun p ↦ ?_
  split
  · exact hR.platform_bind (hR.platform_report _ _ _) fun _ ↦ hR.platform_pure _
  · refine hR.platform_bind (hR.platform_modify fun _ ↦ rfl) fun _ ↦ ?_
    exact hR.platform_bind (hR.platform_shutDown kit h _) fun _ ↦ hR.platform_pure _

theorem platform_disableAllWith : Keeps R (disableAllWith kit run) :=
  hR.platform_bind hR.platform_get fun _ ↦
    hR.platform_bind (hR.platform_modify fun _ ↦ rfl) fun _ ↦ hR.platform_shutDownAll kit h _

end

/-- An evolution leads on, however deep addons are enabled and disabled within each other. -/
theorem platform_service (kit : AddonKit A M H σ) (handling : Handling H σ) (levels : Nat)
    (request : AddonRequest A H σ) : Keeps R (service kit handling levels request) := by
  have hact (levels : Nat) (request : Request H σ) :
      Keeps R (service kit handling levels (.act request)) :=
    keeps_inWorld (hR.keeps_serve handling levels request)
  -- the requests of the programs that a request calls are answered one level below
  induction levels generalizing request with
  | zero =>
    cases request with
    | act request => exact hact 0 request
    | addKind kind => exact hR.platform_addKind kind
    | enable | disable | disableAll => exact fun _ _ _ h ↦ nomatch h
  | succ levels ih =>
    cases request with
    | act request => exact hact (levels + 1) request
    | addKind kind => exact hR.platform_addKind kind
    | enable addon => exact hR.platform_enableWith kit (hR.platform_run ih) addon
    | disable id => exact hR.platform_disableWith kit (hR.platform_run ih) id
    | disableAll => exact hR.platform_disableAllWith kit (hR.platform_run ih)

end Registry.Evolution

end DialogKit
