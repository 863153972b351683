import RushSocket.Data.Table
import RushSocket.Transition.System

namespace RushSocket.Transition

open Data

/-! Systems of one kind side by side, each under a key of its own. -/

section

variable {Key : Type u} {State : Type v} {Action : Type w} [DecidableEq Key]
  (step : State → Action → Option State)

/-- A step is one of the system under the key. -/
def family (start : Table Key State) : System (Table Key State) (Key × Action) where
  start := start
  step table action :=
    (table.lookup action.1).bind fun state =>
      (step state action.2).map fun next => table.insert action.1 next

def actionsOf (key : Key) (actions : List (Key × Action)) : List Action :=
  (actions.filter fun action => action.1 = key).map Prod.snd

variable {step}

theorem actionsOf_cons (key : Key) (action : Key × Action) (rest : List (Key × Action)) :
    actionsOf key (action :: rest) =
      if action.1 = key then action.2 :: actionsOf key rest else actionsOf key rest := by
  unfold actionsOf
  rw [List.filter_cons]
  cases same : decide (action.1 = key) with
  | true =>
      rw [if_pos rfl, if_pos (of_decide_eq_true same)]
      rfl
  | false => rw [if_neg (by decide), if_neg (of_decide_eq_false same)]

theorem runFrom_start (first second state : State) (actions : List Action) :
    (System.mk first step).runFrom state actions =
      (System.mk second step).runFrom state actions := by
  induction actions generalizing state with
  | nil => rfl
  | cons action rest induction =>
      apply congrArg (Option.bind (step state action))
      funext next
      exact induction next

theorem lookup_runFrom {start table final : Table Key State} {actions : List (Key × Action)}
    (reached : (family step start).runFrom table actions = some final) (key : Key) :
    final.lookup key = (table.lookup key).bind fun state =>
      (System.mk state step).run (actionsOf key actions) := by
  induction actions generalizing table with
  | nil =>
      cases reached
      cases final.lookup key with
      | none => rfl
      | some state => rfl
  | cons action rest induction =>
      obtain ⟨after, stepped, later⟩ := (System.runFrom_cons_eq_some _).mp reached
      obtain ⟨state, present, moved⟩ := Option.bind_eq_some_iff.mp stepped
      obtain ⟨next, took, rfl⟩ := Option.map_eq_some_iff.mp moved
      rw [induction later, Table.lookup_put, actionsOf_cons]
      cases same : decide (key = action.1) with
      | true =>
          have here := of_decide_eq_true same
          rw [if_pos here, if_pos here.symm, here, present]
          change _ = (step state action.2).bind _
          rw [took]
          exact runFrom_start next state next _
      | false =>
          have elsewhere := of_decide_eq_false same
          rw [if_neg elsewhere, if_neg (Ne.symm elsewhere)]

theorem isSome_lookup_runFrom {start table final : Table Key State}
    {actions : List (Key × Action)}
    (reached : (family step start).runFrom table actions = some final) {key : Key}
    (present : (table.lookup key).isSome = true) : (final.lookup key).isSome = true := by
  induction actions generalizing table with
  | nil =>
      cases reached
      exact present
  | cons action rest induction =>
      obtain ⟨after, stepped, later⟩ := (System.runFrom_cons_eq_some _).mp reached
      obtain ⟨state, _, moved⟩ := Option.bind_eq_some_iff.mp stepped
      obtain ⟨next, _, rfl⟩ := Option.map_eq_some_iff.mp moved
      apply induction later
      rw [Table.lookup_put]
      split
      · rfl
      · exact present

/-- Each takes its own steps and no others, whatever the order of all. -/
theorem lookup_family {start final : Table Key State} {actions : List (Key × Action)}
    (reached : (family step start).run actions = some final) (key : Key) :
    final.lookup key = (start.lookup key).bind fun state =>
      (System.mk state step).run (actionsOf key actions) :=
  lookup_runFrom reached key

end

end RushSocket.Transition
