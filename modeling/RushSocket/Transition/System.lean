import Mathlib.Logic.Basic
import Mathlib.Data.List.Basic

namespace RushSocket.Transition

/-! Executable transition systems.  An action names everything a step leaves
open (which thread moves, which element a loop takes next, what the network
does), so that a step is a partial function and a run is a list of actions. -/

structure System (State : Type u) (Action : Type v) where
  start : State
  step : State → Action → Option State

namespace System

variable {State : Type u} {Action : Type v} (system : System State Action)

def runFrom : State → List Action → Option State
  | state, [] => some state
  | state, action :: rest =>
      (system.step state action).bind fun next => runFrom next rest

def run (actions : List Action) : Option State :=
  system.runFrom system.start actions

/-- Every step of the run is taken in a state where `allowed` holds of it. -/
def Meets (allowed : State → Action → Prop) : State → List Action → Prop
  | _, [] => True
  | state, action :: rest =>
      allowed state action ∧
        ∀ next, system.step state action = some next →
          Meets allowed next rest

/-- A run from the start whose steps all meet `allowed`. -/
def Guarded (allowed : State → Action → Prop) (actions : List Action) : Prop :=
  system.Meets allowed system.start actions

instance decidableMeets (allowed : State → Action → Prop)
    [∀ state action, Decidable (allowed state action)] :
    ∀ state actions, Decidable (system.Meets allowed state actions)
  | _, [] => .isTrue trivial
  | state, action :: rest =>
      match stepped : system.step state action with
      | none =>
          decidable_of_iff (allowed state action) (by
            simp [Meets, stepped])
      | some next =>
          have := decidableMeets allowed next rest
          decidable_of_iff (allowed state action ∧ system.Meets allowed next rest)
            (by simp [Meets, stepped])

instance decidableGuarded (allowed : State → Action → Prop)
    [∀ state action, Decidable (allowed state action)] (actions : List Action) :
    Decidable (system.Guarded allowed actions) :=
  system.decidableMeets allowed system.start actions

theorem runFrom_cons_eq_some {state final : State} {action : Action}
    {rest : List Action} :
    system.runFrom state (action :: rest) = some final ↔
      ∃ next, system.step state action = some next ∧
        system.runFrom next rest = some final := by
  simp [runFrom, Option.bind_eq_some_iff]

theorem runFrom_append (state : State) (first second : List Action) :
    system.runFrom state (first ++ second) =
      (system.runFrom state first).bind fun middle =>
        system.runFrom middle second := by
  induction first generalizing state with
  | nil => rfl
  | cons action rest induction =>
      simp only [List.cons_append, runFrom]
      cases system.step state action with
      | none => rfl
      | some next => exact induction next

theorem meets_true (state : State) (actions : List Action) :
    system.Meets (fun _ _ => True) state actions := by
  induction actions generalizing state with
  | nil => trivial
  | cons action rest induction => exact ⟨trivial, fun next _ => induction next⟩

theorem Meets.and {first second : State → Action → Prop} {state : State}
    {actions : List Action} (meets : system.Meets first state actions)
    (also : system.Meets second state actions) :
    system.Meets (fun state action => first state action ∧ second state action)
      state actions := by
  induction actions generalizing state with
  | nil => trivial
  | cons action rest induction =>
      exact ⟨⟨meets.1, also.1⟩,
        fun next stepped => induction (meets.2 next stepped) (also.2 next stepped)⟩

theorem Guarded.and {first second : State → Action → Prop} {actions : List Action}
    (guarded : system.Guarded first actions)
    (also : system.Guarded second actions) :
    system.Guarded (fun state action => first state action ∧ second state action)
      actions :=
  Meets.and system guarded also

/-- Two conditions that agree wherever an invariant holds are met by the same
runs. -/
theorem guarded_congr {first second : State → Action → Prop} {Inv : State → Prop}
    (atStart : Inv system.start)
    (kept : ∀ {state action next}, Inv state →
      system.step state action = some next → Inv next)
    (same : ∀ {state action}, Inv state → (first state action ↔ second state action))
    (actions : List Action) :
    system.Guarded first actions ↔ system.Guarded second actions := by
  have general : ∀ (actions : List Action) (state : State), Inv state →
      (system.Meets first state actions ↔ system.Meets second state actions) := by
    intro actions
    induction actions with
    | nil => exact fun _ _ => Iff.rfl
    | cons action rest induction =>
        intro state holds
        refine and_congr (same holds) (forall₂_congr fun next stepped => ?_)
        exact induction next (kept holds stepped)
  exact general actions system.start atStart

/-- An invariant from which every admissible action is allowed guards all runs
of such actions. -/
theorem guarded_of_invariant {allowed : State → Action → Prop}
    (admissible : Action → Prop) (Inv : State → Prop) (atStart : Inv system.start)
    (kept : ∀ {state action}, Inv state → admissible action →
      allowed state action ∧
        ∀ next, system.step state action = some next → Inv next)
    {actions : List Action} (each : ∀ action ∈ actions, admissible action) :
    system.Guarded allowed actions := by
  have general : ∀ (actions : List Action) (state : State), Inv state →
      (∀ action ∈ actions, admissible action) →
      system.Meets allowed state actions := by
    intro actions
    induction actions with
    | nil => exact fun _ _ _ => trivial
    | cons action rest induction =>
        intro state holds each
        obtain ⟨allows, onward⟩ := kept holds (each action List.mem_cons_self)
        refine ⟨allows, fun next stepped => ?_⟩
        exact induction next (onward next stepped) fun other member =>
          each other (List.mem_cons_of_mem action member)
  exact general actions system.start atStart each

/-- What holds of the start with no actions taken, and is kept by every allowed
step, holds of the end of a run with its actions, the latest first. -/
theorem invariant_history {allowed : State → Action → Prop}
    {Inv : State → List Action → Prop} (atStart : Inv system.start [])
    (kept : ∀ {state history action next}, Inv state history →
      allowed state action → system.step state action = some next →
      Inv next (action :: history))
    {actions : List Action} {final : State}
    (reached : system.run actions = some final)
    (guarded : system.Guarded allowed actions) : Inv final actions.reverse := by
  have general : ∀ (actions history : List Action) (state : State),
      Inv state history → system.runFrom state actions = some final →
      system.Meets allowed state actions →
      Inv final (actions.reverse ++ history) := by
    intro actions
    induction actions with
    | nil =>
        intro history state holds reached _
        cases reached
        exact holds
    | cons action rest induction =>
        intro history state holds reached meets
        obtain ⟨next, stepped, reached⟩ :=
          (system.runFrom_cons_eq_some).mp reached
        rw [List.reverse_cons, List.append_assoc]
        exact induction (action :: history) next (kept holds meets.1 stepped) reached
          (meets.2 next stepped)
  have whole := general actions [] system.start atStart reached guarded
  rwa [List.append_nil] at whole

/-- The case of what speaks of the state alone. -/
theorem invariant {allowed : State → Action → Prop} {Inv : State → Prop}
    (atStart : Inv system.start)
    (kept : ∀ {state action next}, Inv state → allowed state action →
      system.step state action = some next → Inv next)
    {actions : List Action} {final : State}
    (reached : system.run actions = some final)
    (guarded : system.Guarded allowed actions) : Inv final :=
  @invariant_history _ _ system allowed (fun state _ => Inv state) atStart kept _ _
    reached guarded

/-- The unguarded case: every step keeps the invariant. -/
theorem invariant_of_every_step {Inv : State → Prop}
    (atStart : Inv system.start)
    (kept : ∀ {state action next}, Inv state →
      system.step state action = some next → Inv next)
    {actions : List Action} {final : State}
    (reached : system.run actions = some final) : Inv final :=
  system.invariant atStart (fun holds _ stepped => kept holds stepped) reached
    (system.meets_true _ actions)

theorem allowed_of_guarded {allowed : State → Action → Prop} {actions : List Action}
    {final : State} (reached : system.run actions = some final)
    (guarded : system.Guarded allowed actions) {action : Action}
    (member : action ∈ actions) : ∃ state, allowed state action := by
  have general : ∀ (actions : List Action) (state : State),
      system.runFrom state actions = some final → system.Meets allowed state actions →
      action ∈ actions → ∃ state, allowed state action := by
    intro actions
    induction actions with
    | nil => exact fun _ _ _ member => nomatch member
    | cons head rest induction =>
        intro state reached meets member
        obtain ⟨next, stepped, reached⟩ :=
          (system.runFrom_cons_eq_some).mp reached
        rcases List.mem_cons.mp member with rfl | later
        · exact ⟨state, meets.1⟩
        · exact induction next reached (meets.2 next stepped) later
  exact general actions system.start reached guarded member

/-- Unwinding: when kept actions can be taken on both sides of a relation and
the others do not leave it, a run without the others is a run, and it ends on
the other side. -/
theorem run_filter {allowed : State → Action → Prop} {keep : Action → Bool}
    {Alike : State → State → Prop} (atStart : Alike system.start system.start)
    (kept : ∀ {state twin action next}, Alike state twin → allowed state action →
      keep action = true → system.step state action = some next →
      ∃ twinNext, system.step twin action = some twinNext ∧ Alike next twinNext)
    (dropped : ∀ {state twin action next}, Alike state twin → allowed state action →
      keep action = false → system.step state action = some next → Alike next twin)
    {actions : List Action} {final : State}
    (reached : system.run actions = some final)
    (guarded : system.Guarded allowed actions) :
    ∃ twinFinal, system.run (actions.filter keep) = some twinFinal ∧
      Alike final twinFinal := by
  have general : ∀ (actions : List Action) (state twin : State),
      Alike state twin → system.runFrom state actions = some final →
      system.Meets allowed state actions →
      ∃ twinFinal, system.runFrom twin (actions.filter keep) = some twinFinal ∧
        Alike final twinFinal := by
    intro actions
    induction actions with
    | nil =>
        intro state twin alike reached _
        cases reached
        exact ⟨twin, rfl, alike⟩
    | cons action rest induction =>
        intro state twin alike reached meets
        obtain ⟨next, stepped, reached⟩ :=
          (system.runFrom_cons_eq_some).mp reached
        have onward := meets.2 next stepped
        cases keeps : keep action with
        | true =>
            obtain ⟨twinNext, twinStepped, alikeNext⟩ :=
              kept alike meets.1 keeps stepped
            obtain ⟨twinFinal, twinReached, same⟩ :=
              induction next twinNext alikeNext reached onward
            refine ⟨twinFinal, ?_, same⟩
            rw [List.filter_cons_of_pos keeps, system.runFrom_cons_eq_some]
            exact ⟨twinNext, twinStepped, twinReached⟩
        | false =>
            rw [List.filter_cons_of_neg (by simp [keeps])]
            exact induction next twin (dropped alike meets.1 keeps stepped) reached
              onward
  exact general actions system.start system.start atStart reached guarded

end System

end RushSocket.Transition
