/-! What a computation may fail with: every error that it raises has a property, whatever it gives if it does not fail. -/

namespace ArrayTransfer

/-- Every error of the result has the property. -/
def Raises {ε α : Type} (p : ε → Prop) (r : Except ε α) : Prop := ∀ e, r = .error e → p e

namespace Raises

variable {ε ε' α β : Type} {p : ε → Prop} {q : ε' → Prop} {r : Except ε α} {e : ε}

theorem ok (a : α) : Raises p (.ok a) := fun _ => nofun

theorem error (h : p e) : Raises p (.error e : Except ε α) := fun _ eq => Except.error.inj eq ▸ h

theorem map (h : Raises p r) (f : α → β) : Raises p (r.map f) := by
  cases r with
  | error e => exact .error (h e rfl)
  | ok a => exact .ok _

theorem mapError {f : ε → ε'} (h : ∀ e, r = .error e → q (f e)) : Raises q (r.mapError f) := by
  cases r with
  | error e => exact .error (h e rfl)
  | ok a => exact .ok _

theorem bind {next : α → Except ε β} (h : Raises p r) (h' : ∀ a, r = .ok a → Raises p (next a)) :
    Raises p (r >>= next) := by
  cases r with
  | error e => exact .error (h e rfl)
  | ok a => exact h' a rfl

theorem imp {q : ε → Prop} (h : Raises p r) (h' : ∀ e, p e → q e) : Raises q r := fun e failed => h' e (h e failed)

end Raises

end ArrayTransfer
