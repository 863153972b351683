import RushSocket.Data.TableSum
import RushSocket.Transition.Calls

namespace RushSocket.Transition.Calls

open Data

/-! A quantity of the shared object that the calls put together.  A call in
progress has a share by the point that it is at, a finished call by its result;
when every step changes the quantity by what it changes the share of its call,
the quantity is the sum of the shares in any interleaving. -/

variable {Shared : Type u} {Caller Operation Point Choice Result : Type v}
  {M : Type w} [AddCommGroup M]

def shareOf (share : Operation → Point → M)
    (left : Finished Caller Operation Result → M) (caller : Caller)
    (operation : Operation) : Progress Point Result → M
  | .running point => share operation point
  | .finished result => left ⟨caller, operation, result⟩

variable [DecidableEq Caller]

/-- What the calls have put in so far. -/
def contributed (share : Operation → Point → M)
    (left : Finished Caller Operation Result → M)
    (state : Calls Shared Caller Operation Point Result) : M :=
  (state.calls.sum fun call => share call.1 call.2) + (state.log.map left).sum

/-- The quantity is what the calls have put in. -/
def Accounted (value : Shared → M) (share : Operation → Point → M)
    (left : Finished Caller Operation Result → M)
    (state : Calls Shared Caller Operation Point Result) : Prop :=
  value state.shared = state.contributed share left

variable {value : Shared → M} {share : Operation → Point → M}
  {left : Finished Caller Operation Result → M}
  {state : Calls Shared Caller Operation Point Result} {caller : Caller}
  {operation : Operation} {point : Point} {shared : Shared}
  {progress : Progress Point Result}

theorem accounted_start (nothing : value shared = 0) :
    Accounted value share left
      ({ shared, calls := ∅, log := [] } : Calls Shared Caller Operation Point Result) := by
  change value shared = 0 + 0
  rw [nothing, add_zero]

theorem Accounted.begin (accounted : Accounted value share left state)
    (absent : state.calls.lookup caller = none) (nothing : share operation point = 0) :
    Accounted value share left
      { state with calls := state.calls.insert caller (operation, point) } := by
  rw [Accounted, contributed, Table.sum_put_absent absent]
  change value state.shared = share operation point + _ + _
  rw [nothing, zero_add]
  exact accounted

theorem Accounted.settle (accounted : Accounted value share left state)
    (found : state.calls.lookup caller = some (operation, point))
    (moves : value shared + share operation point =
      value state.shared + shareOf share left caller operation progress) :
    Accounted value share left (state.settle caller operation shared progress) := by
  have total : state.contributed share left =
      share operation point +
        Table.sum (state.calls.erase caller) (fun call => share call.1 call.2) +
          (state.log.map left).sum := by
    rw [contributed, Table.sum_drop state.calls caller, found]
    rfl
  have after : (state.settle caller operation shared progress).contributed share left =
      shareOf share left caller operation progress +
        (Table.sum (state.calls.erase caller) (fun call => share call.1 call.2) +
          (state.log.map left).sum) := by
    cases progress with
    | running next =>
        rw [contributed]
        change Table.sum (state.calls.insert caller (operation, next)) _ + _ = _
        rw [Table.sum_put, add_assoc]
        rfl
    | finished result =>
        rw [contributed]
        change Table.sum (state.calls.erase caller) _ +
          (left ⟨caller, operation, result⟩ + (state.log.map left).sum) = _
        rw [add_left_comm]
        rfl
  rw [Accounted, settle_shared, after]
  rw [Accounted, total, add_assoc] at accounted
  rw [accounted] at moves
  apply add_right_cancel (b := share operation point)
  rw [moves]
  ac_rfl

end RushSocket.Transition.Calls
