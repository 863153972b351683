import RushSocket.Data.Table
import RushSocket.Transition.System

namespace RushSocket.Transition

open Data

/-! Concurrent callers of a shared object.  A call runs its operation from
point to point, one atomic step at a time; a caller has at most one call in
progress, and the steps of different callers interleave in any order. -/

inductive Progress (Point : Type u) (Result : Type v) where
  | running (point : Point)
  | finished (result : Result)

/-- The call that is in progress after the step, if any. -/
def Progress.call {Operation : Type w} {Point : Type u} {Result : Type v}
    (operation : Operation) : Progress Point Result → Option (Operation × Point)
  | .running point => some (operation, point)
  | .finished _ => none

/-- The code of the calls.  A choice settles what the code leaves open at a
step, such as the element a loop visits next. -/
structure Code (Shared : Type u) (Caller Operation Point Choice Result : Type v) where
  enter : Operation → Point
  advance : Shared → Caller → Operation → Point → Choice →
    Option (Shared × Progress Point Result)

structure Finished (Caller Operation Result : Type v) where
  caller : Caller
  operation : Operation
  result : Result
  deriving DecidableEq

/-- The log lists the finished calls, the latest first. -/
structure Calls (Shared : Type u) (Caller Operation Point Result : Type v) where
  shared : Shared
  calls : Table Caller (Operation × Point)
  log : List (Finished Caller Operation Result)

inductive CallAction (Caller Operation Choice : Type v) where
  | begin (caller : Caller) (operation : Operation)
  | advance (caller : Caller) (choice : Choice)

namespace Calls

variable {Shared : Type u} {Caller Operation Point Choice Result : Type v}

/-- No call is in progress. -/
def Quiet (state : Calls Shared Caller Operation Point Result) : Prop :=
  state.calls = ∅

variable [DecidableEq Caller]

theorem Quiet.lookup {state : Calls Shared Caller Operation Point Result}
    (quiet : state.Quiet) (caller : Caller) :
    state.calls.lookup caller = none := by
  rw [quiet]
  exact Finmap.lookup_empty caller

def settle (state : Calls Shared Caller Operation Point Result)
    (caller : Caller) (operation : Operation) (shared : Shared) :
    Progress Point Result → Calls Shared Caller Operation Point Result
  | .running point =>
      { state with
        shared
        calls := state.calls.insert caller (operation, point) }
  | .finished result =>
      { shared
        calls := state.calls.erase caller
        log := ⟨caller, operation, result⟩ :: state.log }

theorem lookup_settle (state : Calls Shared Caller Operation Point Result)
    (caller other : Caller) (operation : Operation) (shared : Shared)
    (progress : Progress Point Result) :
    (state.settle caller operation shared progress).calls.lookup other =
      if other = caller then progress.call operation
      else state.calls.lookup other := by
  cases progress with
  | running point => exact Table.lookup_put state.calls caller other _
  | finished result => exact Table.lookup_drop state.calls caller other

theorem count_settle (state : Calls Shared Caller Operation Point Result)
    (caller : Caller) (operation : Operation) (shared : Shared)
    (progress : Progress Point Result) (holds : Operation × Point → Bool) :
    (state.settle caller operation shared progress).calls.count holds =
      Table.count (state.calls.erase caller) holds +
        if (progress.call operation).any holds then 1 else 0 := by
  cases progress with
  | running point => exact Table.count_put state.calls caller _ holds
  | finished result => rfl

@[simp] theorem settle_shared (state : Calls Shared Caller Operation Point Result)
    (caller : Caller) (operation : Operation) (shared : Shared)
    (progress : Progress Point Result) :
    (state.settle caller operation shared progress).shared = shared := by
  cases progress <;> rfl

/-- A caller begins a call only when it has none in progress and the callers'
own discipline permits it. -/
def step (code : Code Shared Caller Operation Point Choice Result)
    (permits : List (Finished Caller Operation Result) → Caller → Operation → Bool)
    (state : Calls Shared Caller Operation Point Result) :
    CallAction Caller Operation Choice →
      Option (Calls Shared Caller Operation Point Result)
  | .begin caller operation =>
      match state.calls.lookup caller with
      | some _ => none
      | none =>
          if permits state.log caller operation then
            some { state with
              calls := state.calls.insert caller (operation, code.enter operation) }
          else none
  | .advance caller choice =>
      match state.calls.lookup caller with
      | none => none
      | some (operation, point) =>
          (code.advance state.shared caller operation point choice).map
            fun (shared, progress) => state.settle caller operation shared progress

def system (code : Code Shared Caller Operation Point Choice Result)
    (permits : List (Finished Caller Operation Result) → Caller → Operation → Bool)
    (start : Shared) :
    System (Calls Shared Caller Operation Point Result)
      (CallAction Caller Operation Choice) where
  start := { shared := start, calls := ∅, log := [] }
  step := step code permits

theorem exists_own_or_other {state : Calls Shared Caller Operation Point Result}
    {caller : Caller} {call : Option (Operation × Point)}
    (found : state.calls.lookup caller = call)
    (kind : Option (Operation × Point) → Prop)
    (existing : ∃ other, kind (state.calls.lookup other)) :
    kind call ∨ ∃ other, other ≠ caller ∧ kind (state.calls.lookup other) := by
  obtain ⟨other, holds⟩ := existing
  by_cases same : other = caller
  · rw [same, found] at holds
    exact .inl holds
  · exact .inr ⟨other, same, holds⟩

theorem exists_begun {state : Calls Shared Caller Operation Point Result}
    {caller : Caller} {call : Operation × Point}
    (absent : state.calls.lookup caller = none)
    (kind : Option (Operation × Point) → Prop) (idle : ¬ kind none)
    (existing : ∃ other, kind (state.calls.lookup other)) :
    ∃ other, kind (Finmap.lookup other (state.calls.insert caller call)) := by
  rcases exists_own_or_other absent kind existing with own | ⟨other, different, holds⟩
  · exact absurd own idle
  · refine ⟨other, ?_⟩
    rw [Table.lookup_put, if_neg different]
    exact holds

variable {code : Code Shared Caller Operation Point Choice Result}
  {permits : List (Finished Caller Operation Result) → Caller → Operation → Bool}
  {state next : Calls Shared Caller Operation Point Result}

theorem step_begin {caller : Caller} {operation : Operation}
    (stepped : step code permits state (.begin caller operation) = some next) :
    state.calls.lookup caller = none ∧
      permits state.log caller operation = true ∧
      next = { state with
        calls := state.calls.insert caller (operation, code.enter operation) } := by
  simp only [step] at stepped
  cases found : state.calls.lookup caller with
  | some call => simp [found] at stepped
  | none =>
      simp only [found] at stepped
      split at stepped
      · rename_i permitted
        exact ⟨rfl, permitted, (Option.some.inj stepped).symm⟩
      · cases stepped

theorem step_advance {caller : Caller} {choice : Choice}
    (stepped : step code permits state (.advance caller choice) = some next) :
    ∃ operation point shared progress,
      state.calls.lookup caller = some (operation, point) ∧
        code.advance state.shared caller operation point choice =
          some (shared, progress) ∧
        next = state.settle caller operation shared progress := by
  simp only [step] at stepped
  cases found : state.calls.lookup caller with
  | none => simp [found] at stepped
  | some call =>
      obtain ⟨operation, point⟩ := call
      simp only [found, Option.map_eq_some_iff] at stepped
      obtain ⟨⟨shared, progress⟩, advanced, rfl⟩ := stepped
      exact ⟨operation, point, shared, progress, rfl, advanced, rfl⟩

/-- The rule for invariants of concurrent calls: they hold at the start, and
beginning a call and each allowed step of a call in progress keeps them. -/
theorem invariant {start : Shared}
    {allowed : Calls Shared Caller Operation Point Result →
      CallAction Caller Operation Choice → Prop}
    {Inv : Calls Shared Caller Operation Point Result → Prop}
    (atStart : Inv { shared := start, calls := ∅, log := [] })
    (begins : ∀ {state : Calls Shared Caller Operation Point Result}
      {caller operation}, Inv state → state.calls.lookup caller = none →
        permits state.log caller operation = true →
        Inv { state with
          calls := state.calls.insert caller (operation, code.enter operation) })
    (advances : ∀ {state : Calls Shared Caller Operation Point Result}
      {caller operation point choice shared progress}, Inv state →
        state.calls.lookup caller = some (operation, point) →
        allowed state (.advance caller choice) →
        code.advance state.shared caller operation point choice =
          some (shared, progress) →
        Inv (state.settle caller operation shared progress))
    {actions : List (CallAction Caller Operation Choice)}
    {final : Calls Shared Caller Operation Point Result}
    (reached : (system code permits start).run actions = some final)
    (guarded : (system code permits start).Guarded allowed actions) :
    Inv final := by
  refine (system code permits start).invariant atStart ?_ reached guarded
  intro state action next holds permitted stepped
  change step code permits state action = some next at stepped
  cases action with
  | begin caller operation =>
      obtain ⟨absent, permittedCall, rfl⟩ := step_begin stepped
      exact begins holds absent permittedCall
  | advance caller choice =>
      obtain ⟨operation, point, shared, progress, found, advanced, rfl⟩ :=
        step_advance stepped
      exact advances holds found permitted advanced

end Calls

end RushSocket.Transition
