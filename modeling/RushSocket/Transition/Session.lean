import RushSocket.Transition.System

namespace RushSocket.Transition

/-! Objects whose calls are made one after another.  A session keeps the calls
with what they returned, the latest first, and the callers' discipline decides
on that whether a call is made. -/

structure Session (State : Type u) (Call Result : Type v) where
  state : State
  history : List (Call × Result)

namespace Session

variable {State : Type u} {Twin : Type w} {Call Result : Type v} {Seen : Type x}

def step (answer : State → Call → State × Result)
    (permits : List (Call × Result) → Call → Bool)
    (session : Session State Call Result) (call : Call) :
    Option (Session State Call Result) :=
  if permits session.history call then
    some {
      state := (answer session.state call).1
      history := (call, (answer session.state call).2) :: session.history }
  else none

def system (answer : State → Call → State × Result)
    (permits : List (Call × Result) → Call → Bool) (start : State) :
    System (Session State Call Result) Call where
  start := { state := start, history := [] }
  step := step answer permits

variable {answer : State → Call → State × Result}
  {permits : List (Call × Result) → Call → Bool} {start : State}

theorem step_eq_some {session next : Session State Call Result} {call : Call} :
    step answer permits session call = some next ↔
      permits session.history call = true ∧ next = {
        state := (answer session.state call).1
        history := (call, (answer session.state call).2) :: session.history } := by
  unfold step
  split
  · rename_i permitted
    simp [permitted, eq_comm]
  · rename_i refused
    simp [refused]

theorem run_of_always (answer : State → Call → State × Result) (start : State)
    (calls : List Call) :
    ∃ final, (system answer (fun _ _ => true) start).run calls = some final := by
  have general : ∀ (calls : List Call) (session : Session State Call Result),
      ∃ final, (system answer (fun _ _ => true) start).runFrom session calls =
        some final := by
    intro calls
    induction calls with
    | nil => exact fun session => ⟨session, rfl⟩
    | cons call rest induction => exact fun session => induction _
  exact general calls _

/-- The rule for invariants of sessions. -/
theorem invariant {allowed : Session State Call Result → Call → Prop}
    {Inv : State → List (Call × Result) → Prop} (atStart : Inv start [])
    (kept : ∀ {state history call}, Inv state history →
      permits history call = true → allowed ⟨state, history⟩ call →
      Inv (answer state call).1 ((call, (answer state call).2) :: history))
    {calls : List Call} {final : Session State Call Result}
    (reached : (system answer permits start).run calls = some final)
    (guarded : (system answer permits start).Guarded allowed calls) :
    Inv final.state final.history := by
  refine @System.invariant _ _ (system answer permits start) allowed
    (fun session => Inv session.state session.history) atStart ?_ _ _ reached guarded
  intro session call next holds admissible stepped
  obtain ⟨permitted, rfl⟩ := step_eq_some.mp stepped
  exact kept holds permitted admissible

/-- What a session shows when it has ended: the calls with their results, and
what is read of the state. -/
def shown (see : State → Seen) (session : Session State Call Result) :
    List (Call × Result) × Seen :=
  (session.history, see session.state)

/-- Two objects under one discipline whose related states give every call the
same result and stay related show the same. -/
theorem shown_run {twinAnswer : Twin → Call → Twin × Result} {twinStart : Twin}
    {see : State → Seen} {seeTwin : Twin → Seen} {allowed : Call → Prop}
    {Alike : State → Twin → List (Call × Result) → Prop}
    (atStart : Alike start twinStart [])
    (kept : ∀ {state twin history call}, Alike state twin history →
      permits history call = true → allowed call →
      (twinAnswer twin call).2 = (answer state call).2 ∧
        Alike (answer state call).1 (twinAnswer twin call).1
          ((call, (answer state call).2) :: history))
    (seen : ∀ {state twin history}, Alike state twin history →
      seeTwin twin = see state)
    {calls : List Call} (admissible : ∀ call ∈ calls, allowed call) :
    ((system twinAnswer permits twinStart).run calls).map (shown seeTwin) =
      ((system answer permits start).run calls).map (shown see) := by
  have general : ∀ (calls : List Call) (state : State) (twin : Twin)
      (history : List (Call × Result)), Alike state twin history →
      (∀ call ∈ calls, allowed call) →
      ((system twinAnswer permits twinStart).runFrom ⟨twin, history⟩ calls).map
          (shown seeTwin) =
        ((system answer permits start).runFrom ⟨state, history⟩ calls).map
          (shown see) := by
    intro calls
    induction calls with
    | nil =>
        intro state twin history alike _
        exact congrArg (fun read => some (history, read)) (seen alike)
    | cons call rest induction =>
        intro state twin history alike admissible
        simp only [System.runFrom, system, step]
        cases permitted : permits history call with
        | false => rfl
        | true =>
            obtain ⟨same, onward⟩ :=
              kept alike permitted (admissible call List.mem_cons_self)
            simp only [if_true, Option.bind_some, same]
            exact induction _ _ _ onward fun other member =>
              admissible other (List.mem_cons_of_mem call member)
  exact general calls start twinStart [] atStart admissible

end Session

end RushSocket.Transition
