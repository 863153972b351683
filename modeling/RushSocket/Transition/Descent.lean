import RushSocket.Transition.System

namespace RushSocket.Transition

/-! Steps that use up a weight, so that a run has only so many of them. -/

namespace System

variable {State : Type u} {Action : Type v} (system : System State Action)
  {Inv : State → Prop} {weight : State → Nat} {uses : Action → Bool}

/-- From where the invariant holds a run takes no more steps that use the weight
than there is weight, and what is left bounds those still to come. -/
theorem descent
    (kept : ∀ {state action next}, Inv state →
      system.step state action = some next →
      Inv next ∧ weight next + (if uses action then 1 else 0) ≤ weight state)
    {state final : State} {actions : List Action} (holds : Inv state)
    (reached : system.runFrom state actions = some final) :
    Inv final ∧ actions.countP uses + weight final ≤ weight state := by
  induction actions generalizing state with
  | nil =>
      cases reached
      exact ⟨holds, by simp⟩
  | cons action rest induction =>
      obtain ⟨next, stepped, later⟩ := (runFrom_cons_eq_some system).mp reached
      obtain ⟨onward, used⟩ := kept holds stepped
      obtain ⟨atEnd, left⟩ := induction onward later
      refine ⟨atEnd, ?_⟩
      rw [List.countP_cons]
      omega

end System

end RushSocket.Transition
