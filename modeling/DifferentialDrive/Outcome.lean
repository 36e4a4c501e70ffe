/-!
# Outcomes

An operation on a state leaves a state behind whether or not it is refused: what had been done
before the fault stays done.
-/

namespace DifferentialDrive

/-- The state an operation leaves, and its result or the fault that ended it. -/
structure Outcome (σ ε β : Type) where
  state : σ
  result : Except ε β

namespace Outcome

variable {σ ε β γ : Type}

/-- Goes on from an operation that was not refused. -/
def andThen (o : Outcome σ ε β) (f : σ → β → Outcome σ ε γ) : Outcome σ ε γ :=
  match o.result with
  | .ok b => f o.state b
  | .error e => ⟨o.state, .error e⟩

@[simp] theorem andThen_ok (s : σ) (b : β) (f : σ → β → Outcome σ ε γ) :
    andThen ⟨s, .ok b⟩ f = f s b := rfl

@[simp] theorem andThen_error (s : σ) (e : ε) (f : σ → β → Outcome σ ε γ) :
    andThen ⟨s, .error e⟩ f = ⟨s, .error e⟩ := rfl

end Outcome

end DifferentialDrive
