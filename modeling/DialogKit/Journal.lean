/-!
# Journals

A computation that writes notes as it goes: its result together with what it wrote, in order.
-/

namespace DialogKit

universe u v

structure Journal (ω : Type u) (α : Type v) where
  result : α
  notes : List ω

namespace Journal

variable {ω : Type u} {α β : Type v}

instance : Monad (Journal ω) where
  pure a := ⟨a, []⟩
  bind x f := ⟨(f x.result).result, x.notes ++ (f x.result).notes⟩

@[simp] theorem result_pure (a : α) : (pure a : Journal ω α).result = a := rfl

@[simp] theorem notes_pure (a : α) : (pure a : Journal ω α).notes = [] := rfl

@[simp] theorem result_bind (x : Journal ω α) (f : α → Journal ω β) :
    (x >>= f).result = (f x.result).result := rfl

@[simp] theorem notes_bind (x : Journal ω α) (f : α → Journal ω β) :
    (x >>= f).notes = x.notes ++ (f x.result).notes := rfl

@[ext] theorem ext {x y : Journal ω α} (hr : x.result = y.result) (hn : x.notes = y.notes) :
    x = y := by
  cases x; cases y; simp_all

instance : LawfulMonad (Journal ω) :=
  LawfulMonad.mk' _
    (fun x ↦ by apply ext <;> simp [Functor.map])
    (fun a f ↦ by apply ext <;> simp)
    (fun x f g ↦ by apply ext <;> simp)

/-- Writes one note. -/
def note (w : ω) : Journal ω PUnit :=
  ⟨⟨⟩, [w]⟩

/-- Rewrites each note. -/
def mapNotes {ω' : Type u} (f : ω → ω') (x : Journal ω α) : Journal ω' α :=
  ⟨x.result, x.notes.map f⟩

end Journal

end DialogKit
