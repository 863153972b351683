import Mathlib.Data.Set.Insert
import RushSocket.Transition.Calls

namespace RushSocket.Transition

open Data

/-! What a run has passed through, for invariants that relate a state to those
before it. -/

namespace System

variable {State : Type u} {Action : Type v} (system : System State Action)

def Visited (actions : List Action) : Set State :=
  {state | ∃ before after, actions = before ++ after ∧ system.run before = some state}

theorem visited_nil : system.Visited [] = {system.start} := by
  ext state
  constructor
  · intro ⟨before, after, whole, reached⟩
    obtain ⟨rfl, rfl⟩ := List.nil_eq_append_iff.mp whole
    cases reached
    rfl
  · intro same
    cases same
    exact ⟨[], [], rfl, rfl⟩

theorem run_snoc (actions : List Action) (action : Action) :
    system.run (actions ++ [action]) =
      (system.run actions).bind fun state => system.step state action := by
  rw [run, runFrom_append]
  apply Option.bind_congr
  intro state _
  simp only [runFrom, Option.bind_fun_some]

theorem visited_snoc {actions : List Action} {action : Action} {final : State}
    (reached : system.run (actions ++ [action]) = some final) :
    system.Visited (actions ++ [action]) = insert final (system.Visited actions) := by
  ext state
  constructor
  · intro ⟨before, after, whole, passed⟩
    induction after using List.reverseRecOn with
    | nil =>
        rw [List.append_nil] at whole
        rw [whole, passed] at reached
        cases reached
        exact Set.mem_insert _ _
    | append_singleton after last =>
        rw [← List.append_assoc] at whole
        exact Set.mem_insert_of_mem _
          ⟨before, after, List.append_inj_left' whole rfl, passed⟩
  · intro either
    cases either with
    | inl same =>
        cases same
        exact ⟨_, [], (List.append_nil _).symm, reached⟩
    | inr earlier =>
        obtain ⟨before, after, rfl, passed⟩ := earlier
        exact ⟨before, after ++ [action], List.append_assoc .., passed⟩

/-- What holds of the start alone, and is kept when a step adds its state to those
passed, holds of the end of a run and all that it has passed through. -/
theorem invariant_visited {Inv : State → Set State → Prop}
    (atStart : Inv system.start {system.start})
    (kept : ∀ {state past action next}, Inv state past → state ∈ past →
      system.step state action = some next → Inv next (insert next past))
    {actions : List Action} {final : State}
    (reached : system.run actions = some final) :
    Inv final (system.Visited actions) := by
  induction actions using List.reverseRecOn generalizing final with
  | nil =>
      cases reached
      rw [visited_nil]
      exact atStart
  | append_singleton actions action induction =>
      have through := reached
      rw [run_snoc] at through
      obtain ⟨state, before, stepped⟩ := Option.bind_eq_some_iff.mp through
      rw [system.visited_snoc reached]
      apply kept (induction before) _ stepped
      exact ⟨actions, [], (List.append_nil actions).symm, before⟩

end System

namespace Calls

variable {Shared : Type u} {Caller Operation Point Choice Result : Type v}
  [DecidableEq Caller] {code : Code Shared Caller Operation Point Choice Result}
  {permits : List (Finished Caller Operation Result) → Caller → Operation → Bool}

/-- The rule for concurrent calls. -/
theorem invariant_visited {start : Shared}
    {Inv : Calls Shared Caller Operation Point Result →
      Set (Calls Shared Caller Operation Point Result) → Prop}
    (atStart : Inv { shared := start, calls := ∅, log := [] }
      {{ shared := start, calls := ∅, log := [] }})
    (begins : ∀ {state : Calls Shared Caller Operation Point Result} {past caller operation},
      Inv state past → state ∈ past → state.calls.lookup caller = none →
        permits state.log caller operation = true →
        let next := { state with
          calls := state.calls.insert caller (operation, code.enter operation) }
        Inv next (insert next past))
    (advances : ∀ {state : Calls Shared Caller Operation Point Result}
      {past caller operation point choice shared progress},
      Inv state past → state ∈ past →
        state.calls.lookup caller = some (operation, point) →
        code.advance state.shared caller operation point choice =
          some (shared, progress) →
        let next := state.settle caller operation shared progress
        Inv next (insert next past))
    {actions : List (CallAction Caller Operation Choice)}
    {final : Calls Shared Caller Operation Point Result}
    (reached : (system code permits start).run actions = some final) :
    Inv final ((system code permits start).Visited actions) := by
  apply (system code permits start).invariant_visited atStart _ reached
  intro state past action next holds present stepped
  change step code permits state action = some next at stepped
  cases action with
  | begin caller operation =>
      obtain ⟨absent, permitted, rfl⟩ := step_begin stepped
      exact begins holds present absent permitted
  | advance caller choice =>
      obtain ⟨operation, point, shared, progress, found, advanced, rfl⟩ :=
        step_advance stepped
      exact advances holds present found advanced

end Calls

end RushSocket.Transition
