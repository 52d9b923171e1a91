import CsrMap.Word

/-!
How a computation ends: with a value, with a broken rule of the domain, or with word arithmetic
that left its range. The last two are kept apart, because only a broken rule is an answer to the
user.
-/

namespace CsrMap

inductive Failure (ε : Type) where
  | overflow
  | refused (cause : ε)
  deriving DecidableEq, Repr

abbrev Outcome (ε α : Type) : Type := Except (Failure ε) α

variable {ε α : Type}

def refuse (cause : ε) : Outcome ε α := .error (.refused cause)

/-- A step without arithmetic, used among steps with arithmetic. -/
def Outcome.ofExcept : Except ε α → Outcome ε α
  | .ok a => .ok a
  | .error cause => refuse cause

instance : MonadLift Option (Except (Failure ε)) where
  monadLift
    | some a => .ok a
    | none => .error .overflow

instance : MonadLift (Except ε) (Except (Failure ε)) where
  monadLift := Outcome.ofExcept

/-- A row of two steps succeeds where both do. -/
theorem bind_eq_ok_iff {β : Type} {x : Except ε α} {f : α → Except ε β} {b : β} :
    (x >>= f) = .ok b ↔ ∃ a, x = .ok a ∧ f a = .ok b := by
  cases x with
  | error e => simp [bind, Except.bind]
  | ok a => simp [bind, Except.bind]

@[simp] theorem Outcome.ofExcept_ok (a : α) :
    (Outcome.ofExcept (.ok a) : Outcome ε α) = .ok a := rfl

@[simp] theorem Outcome.ofExcept_error (cause : ε) :
    (Outcome.ofExcept (.error cause) : Outcome ε α) = refuse cause := rfl

@[simp] theorem Outcome.ok_bind {β : Type} (a : α) (f : α → Outcome ε β) :
    (.ok a >>= f : Outcome ε β) = f a := rfl

@[simp] theorem Outcome.error_bind {β : Type} (failure : Failure ε) (f : α → Outcome ε β) :
    (.error failure >>= f : Outcome ε β) = .error failure := rfl

@[simp] theorem refuse_bind {β : Type} (cause : ε) (f : α → Outcome ε β) :
    (refuse cause >>= f : Outcome ε β) = refuse cause := rfl

@[simp] theorem refuse_ne_ok (cause : ε) (a : α) : (refuse cause : Outcome ε α) ≠ .ok a := nofun

@[simp] theorem refuse_ne_overflow (cause : ε) :
    (refuse cause : Outcome ε α) ≠ .error .overflow := nofun

@[simp] theorem monadLift_some (a : α) : (monadLift (some a) : Outcome ε α) = .ok a := rfl

@[simp] theorem monadLift_none :
    (monadLift (none : Option α) : Outcome ε α) = .error .overflow := rfl

end CsrMap
