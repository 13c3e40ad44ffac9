import DialogKit.Kind.Set
import DialogKit.Registry.Dispatch

/-!
# Addons

An addon extends a running system: while it is enabled or disabled it runs a program that may use
the registry, add kinds of dialogs, and enable or disable further addons. Enabling an addon yields
what it keeps in mind until it is disabled.
-/

namespace DialogKit

/-- What an addon learns when it is enabled. -/
structure AddonContext where
  addon : String
  apiVersion : String
  deriving DecidableEq, Repr

/-- How the context of an addon shows in diagnostics. -/
def AddonContext.debug (cx : AddonContext) : String :=
  "AddonContext \x7b addon_id: " ++ Text.quoted cx.addon ++ ", api_version: " ++
    Text.quoted cx.apiVersion ++ ", .. \x7d"

/-- An addon that could not be enabled or disabled. -/
structure AddonFault where
  addon : String
  reason : String
  deriving DecidableEq, Repr

def AddonFault.message (fault : AddonFault) : String :=
  "addon '" ++ fault.addon ++ "': " ++ fault.reason

/-- What an addon may ask for; `A` is the type of addons. -/
inductive AddonRequest (A H σ : Type) where
  /-- A request to the registry. -/
  | act (request : Request H σ)
  | addKind (kind : Kind)
  | enable (addon : A)
  | disable (id : String)
  | disableAll

/-- The answers to a request of an addon. -/
abbrev AddonRequest.Answer {A H σ : Type} : AddonRequest A H σ → Type
  | .act request => request.Answer
  | .addKind _ => Unit
  | .enable _ | .disable _ => Except AddonFault Bool
  | .disableAll => Nat

/-- A program of an addon. -/
abbrev AddonProgram (A H σ α : Type) := Program (AddonRequest A H σ) AddonRequest.Answer α

/-- What addons are called and what they do; `M` is what an addon keeps in mind. A program that
fails ends with the reason. -/
structure AddonKit (A M H σ : Type) where
  id : A → String
  version : A → String
  onEnable : A → AddonContext → AddonProgram A H σ (Except String M)
  onDisable : A → M → AddonProgram A H σ (Except String Unit)

/-- An addon in the list of enabled ones. -/
structure EnabledAddon (A M : Type) where
  addon : A
  memory : M

/-- What addons work on. -/
structure Platform (A M H σ : Type) where
  world : World H σ
  kinds : KindSet
  apiVersion : String
  /-- The enabled addons, in the order in which enabling them was completed. -/
  enabled : List (EnabledAddon A M) := []
  /-- The ids of the addons that are being enabled. -/
  starting : List String := []

end DialogKit
