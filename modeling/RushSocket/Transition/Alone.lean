import RushSocket.Transition.Calls

namespace RushSocket.Transition

open Data

/-! Calls that run to their end with no step of another caller in between. -/

variable {Shared : Type u} {Caller Operation Point Choice Result : Type v}

/-- The call can go from the point to its end with no step of another call, and
then `holds` is true of what is shared. -/
inductive Code.Attains (code : Code Shared Caller Operation Point Choice Result)
    (caller : Caller) (operation : Operation) (holds : Shared → Prop) :
    Shared → Point → Prop where
  | finish {shared next : Shared} {point : Point} {choice : Choice} {result : Result}
      (advanced : code.advance shared caller operation point choice =
        some (next, .finished result))
      (reached : holds next) : Attains code caller operation holds shared point
  | step {shared middle : Shared} {point after : Point} {choice : Choice}
      (advanced : code.advance shared caller operation point choice =
        some (middle, .running after))
      (rest : Attains code caller operation holds middle after) :
      Attains code caller operation holds shared point

namespace Calls

variable [DecidableEq Caller]
  {code : Code Shared Caller Operation Point Choice Result}
  {permits : List (Finished Caller Operation Result) → Caller → Operation → Bool}
  {start shared : Shared} {caller : Caller} {operation : Operation} {point : Point}
  {holds : Shared → Prop} {state : Calls Shared Caller Operation Point Result}

theorem exists_runFrom_of_attains
    (attains : code.Attains caller operation holds shared point)
    (current : state.shared = shared)
    (found : state.calls.lookup caller = some (operation, point)) :
    ∃ actions next result, holds next ∧
      (system code permits start).runFrom state actions =
        some { shared := next
               calls := state.calls.erase caller
               log := ⟨caller, operation, result⟩ :: state.log } := by
  induction attains generalizing state with
  | @finish shared next point choice result advanced reached =>
      have stepped : (system code permits start).step state (.advance caller choice) =
          some (state.settle caller operation next (.finished result)) := by
        simp only [system, step, found, current, advanced, Option.map_some]
      refine ⟨[.advance caller choice], next, result, reached, ?_⟩
      rw [System.runFrom, stepped]
      rfl
  | @step shared middle point after choice advanced rest induction =>
      have stepped : (system code permits start).step state (.advance caller choice) =
          some (state.settle caller operation middle (.running after)) := by
        simp only [system, step, found, current, advanced, Option.map_some]
      have running : Finmap.lookup caller
          (state.settle caller operation middle (.running after)).calls =
            some (operation, after) := Finmap.lookup_insert state.calls
      obtain ⟨actions, next, result, reached, ran⟩ := induction rfl running
      refine ⟨.advance caller choice :: actions, next, result, reached, ?_⟩
      rw [System.runFrom, stepped, Option.bind_some, ran]
      simp only [settle, Table.drop_put]

/-- What a call that can begin attains by itself, a run of the system attains. -/
theorem exists_runFrom_alone {begun : Calls Shared Caller Operation Point Result}
    (attains : code.Attains caller operation holds state.shared (code.enter operation))
    (begins : (system code permits start).step state (.begin caller operation) =
      some begun) :
    ∃ actions next result, holds next ∧
      (system code permits start).runFrom state actions =
        some { state with
          shared := next
          log := ⟨caller, operation, result⟩ :: state.log } := by
  obtain ⟨idle, -, rfl⟩ := step_begin begins
  obtain ⟨actions, next, result, reached, ran⟩ :=
    @exists_runFrom_of_attains _ _ _ _ _ _ _ code permits start _ _ _ _ _
      { state with
        calls := state.calls.insert caller (operation, code.enter operation) }
      attains rfl (Finmap.lookup_insert state.calls)
  refine ⟨.begin caller operation :: actions, next, result, reached, ?_⟩
  rw [System.runFrom, begins, Option.bind_some, ran]
  simp only [Table.drop_put, Table.drop_absent idle]

end Calls

end RushSocket.Transition
