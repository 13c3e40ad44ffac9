/-!
# Interactive programs

A program asks for services and goes on with the answers; what the services do is up to whoever
runs it. Programs are trees, so each one ends whatever the answers are.
-/

namespace DialogKit

/-- A program whose requests are of type `ρ`, each with its type of answers. -/
inductive Program (ρ : Type) (answer : ρ → Type) (α : Type) : Type where
  | finish (result : α)
  | ask (request : ρ) (next : answer request → Program ρ answer α)

namespace Program

variable {ρ : Type} {answer : ρ → Type} {α β : Type}

/-- Goes on with another program where the first one ends. -/
def andThen : Program ρ answer α → (α → Program ρ answer β) → Program ρ answer β
  | finish result, next => next result
  | ask request rest, next => ask request fun given ↦ (rest given).andThen next

instance : Monad (Program ρ answer) where
  pure := finish
  bind := andThen

/-- The program that asks one thing and ends with the answer. -/
def request (r : ρ) : Program ρ answer (answer r) :=
  ask r finish

/-- Runs a program with the given service. -/
def run {m : Type → Type} [Monad m] (serve : (r : ρ) → m (answer r)) : Program ρ answer α → m α
  | finish result => pure result
  | ask request next => do (next (← serve request)).run serve

@[simp] theorem run_finish {m : Type → Type} [Monad m] (serve : (r : ρ) → m (answer r))
    (result : α) : (finish result : Program ρ answer α).run serve = pure result := rfl

@[simp] theorem run_ask {m : Type → Type} [Monad m] (serve : (r : ρ) → m (answer r)) (r : ρ)
    (next : answer r → Program ρ answer α) :
    (ask r next).run serve = (do (next (← serve r)).run serve) := rfl

theorem run_andThen {m : Type → Type} [Monad m] [LawfulMonad m] (serve : (r : ρ) → m (answer r))
    (program : Program ρ answer α) (next : α → Program ρ answer β) :
    (program.andThen next).run serve = (do (next (← program.run serve)).run serve) := by
  induction program with
  | finish result => simp [andThen]
  | ask r rest ih => simp [andThen, ih]

end Program

end DialogKit
