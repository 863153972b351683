import RushSocket.Data.Table
import RushSocket.Transition.System

namespace RushSocket.Adapter.Redis.Readiness

open Data Transition

/-! The readiness flag of a node.  The listener subscribes, fails and subscribes
again for ever; each subscription spawns a discovery task, and a task of any
earlier subscription may still be running.  Every access to one of the two
atomics is a step of its own. -/

inductive TaskPoint where
  | check
  | store
  | finished
  deriving DecidableEq

structure Task where
  captured : UInt64
  point : TaskPoint
  deriving DecidableEq

inductive ListenerPoint where
  | reset
  | advance
  | subscribe
  | capture
  | receive (subscription : Nat)
  | advanceFailed
  deriving DecidableEq

/-- The subscriptions are numbered in their order, and each task has the number
of the subscription it was spawned for. -/
structure State where
  subscribed : Bool
  generation : UInt64
  listener : ListenerPoint
  tasks : Table Nat Task
  subscriptions : Nat

def start : State where
  subscribed := false
  generation := 0
  listener := .reset
  tasks := ∅
  subscriptions := 0

def isSubscribed (state : State) : Bool :=
  state.subscribed

inductive Outcome where
  | succeed
  | fail
  deriving DecidableEq

inductive Action where
  | listen (outcome : Outcome)
  | task (subscription : Nat)
  deriving DecidableEq

/-- `subscribe_loop` has returned its error.  The return touches nothing shared and is
one step with the `store(false)` that follows it, at which the subscription ends. -/
def failed (state : State) : State :=
  { state with subscribed := false, listener := .advanceFailed }

def listen (state : State) : ListenerPoint → Outcome → Option State
  | .reset, .succeed =>
      some { state with subscribed := false, listener := .advance }
  | .advance, .succeed =>
      some { state with generation := state.generation + 1, listener := .subscribe }
  | .subscribe, .succeed => some { state with listener := .capture }
  | .subscribe, .fail => some (failed state)
  | .capture, .succeed =>
      some { state with
        tasks := state.tasks.insert state.subscriptions ⟨state.generation, .check⟩
        listener := .receive state.subscriptions
        subscriptions := state.subscriptions + 1 }
  | .receive _, .succeed => some state
  | .receive _, .fail => some (failed state)
  | .advanceFailed, .succeed =>
      some { state with generation := state.generation + 1, listener := .reset }
  | _, _ => none

def moveTask (state : State) (subscription : Nat) (task : Task)
    (point : TaskPoint) : State :=
  { state with tasks := state.tasks.insert subscription { task with point } }

def discover (state : State) (subscription : Nat) (task : Task) : Option State :=
  match task.point with
  | .check =>
      some (moveTask state subscription task
        (if state.generation = task.captured then .store else .finished))
  | .store =>
      some { moveTask state subscription task .finished with subscribed := true }
  | .finished => none

def step (state : State) : Action → Option State
  | .listen outcome => listen state state.listener outcome
  | .task subscription =>
      (state.tasks.lookup subscription).bind (discover state subscription)

def system : System State Action where
  start := start
  step := step

/-- The subscription has not ended and its task has finished. -/
def Discovered (state : State) (subscription : Nat) : Prop :=
  state.listener = .receive subscription ∧
    ∃ task, state.tasks.lookup subscription = some task ∧
      task.captured = state.generation ∧ task.point = .finished

def ListenerPoint.subscription : ListenerPoint → Option Nat
  | .receive subscription => some subscription
  | _ => none

/-- A task sets the flag only while a subscription lasts, whose own task it is
or whose own task has finished already. -/
def Timely (state : State) : Action → Prop
  | .listen _ => True
  | .task subscription =>
      (state.tasks.lookup subscription).any (·.point = .store) = true →
        state.listener.subscription.any (fun current => subscription = current ||
          (state.tasks.lookup current).any (·.point = .finished)) = true

instance (state : State) : (action : Action) → Decidable (Timely state action)
  | .listen _ => .isTrue trivial
  | .task subscription => inferInstanceAs
      (Decidable ((state.tasks.lookup subscription).any (·.point = .store) = true → _))

structure Inv (state : State) : Prop where
  captured : ∀ subscription, state.listener = .receive subscription →
    ∃ task, state.tasks.lookup subscription = some task ∧
      task.captured = state.generation
  discovered : state.subscribed = true →
    ∃ subscription, Discovered state subscription

variable {state : State} {subscription : Nat} {task : Task}

/-- Away from the messages of a subscription the flag is down. -/
theorem Inv.down (inv : Inv state)
    (elsewhere : ∀ subscription, state.listener ≠ .receive subscription) :
    state.subscribed = false := by
  cases flag : state.subscribed with
  | false => rfl
  | true =>
      obtain ⟨subscription, receiving, _⟩ := inv.discovered flag
      exact absurd receiving (elsewhere subscription)

theorem Inv.away (down : state.subscribed = false)
    (elsewhere : ∀ subscription, state.listener ≠ .receive subscription) :
    Inv state where
  captured := by
    intro subscription receiving
    exact absurd receiving (elsewhere subscription)
  discovered := by
    intro flag
    rw [down] at flag
    cases flag

theorem Inv.capture (inv : Inv state) (capturing : state.listener = .capture) :
    Inv { state with
      tasks := state.tasks.insert state.subscriptions ⟨state.generation, .check⟩
      listener := .receive state.subscriptions
      subscriptions := state.subscriptions + 1 } where
  captured := by
    intro subscription receiving
    cases receiving
    exact ⟨_, Finmap.lookup_insert _, rfl⟩
  discovered := by
    intro flag
    have down := inv.down (by simp [capturing])
    rw [down] at flag
    cases flag

theorem Inv.listen {outcome : Outcome} {next : State} (inv : Inv state)
    (listened : listen state state.listener outcome = some next) : Inv next := by
  have down := inv.down
  unfold Readiness.listen at listened
  split at listened
  · cases listened
    exact Inv.away rfl (by simp)
  · rename_i here
    cases listened
    exact Inv.away (down (by simp [here])) (by simp)
  · rename_i here
    cases listened
    exact Inv.away (down (by simp [here])) (by simp)
  · cases listened
    exact Inv.away rfl (by simp [failed])
  · rename_i here
    cases listened
    exact inv.capture here
  · cases listened
    exact inv
  · cases listened
    exact Inv.away rfl (by simp [failed])
  · rename_i here
    cases listened
    exact Inv.away (down (by simp [here])) (by simp)
  · cases listened

theorem Discovered.moved {point : TaskPoint} {current : Nat}
    (discovered : Discovered state current)
    (found : state.tasks.lookup subscription = some task)
    (running : task.point ≠ .finished) :
    Discovered (moveTask state subscription task point) current := by
  obtain ⟨receiving, other, stored, captured, finished⟩ := discovered
  refine ⟨receiving, other, ?_, captured, finished⟩
  have different : current ≠ subscription := by
    intro same
    subst same
    rw [found] at stored
    cases stored
    exact running finished
  rw [moveTask, Table.lookup_put, if_neg different]
  exact stored

theorem Inv.moved {point : TaskPoint} (inv : Inv state)
    (found : state.tasks.lookup subscription = some task)
    (running : task.point ≠ .finished) :
    Inv (moveTask state subscription task point) where
  captured := by
    intro current receiving
    obtain ⟨other, stored, captured⟩ := inv.captured current receiving
    by_cases same : current = subscription
    · subst same
      rw [found] at stored
      cases stored
      exact ⟨_, Finmap.lookup_insert _, captured⟩
    · refine ⟨other, ?_, captured⟩
      rw [moveTask, Table.lookup_put, if_neg same]
      exact stored
  discovered := by
    intro flag
    obtain ⟨current, discovered⟩ := inv.discovered flag
    exact ⟨current, discovered.moved found running⟩

theorem receive_of_subscription {point : ListenerPoint}
    (here : point.subscription = some subscription) :
    point = .receive subscription := by
  cases point with
  | receive current => cases here; rfl
  | reset | advance | subscribe | capture | advanceFailed => cases here

theorem Inv.store (inv : Inv state)
    (found : state.tasks.lookup subscription = some task)
    (storing : task.point = .store) (timely : Timely state (.task subscription)) :
    Inv { moveTask state subscription task .finished with subscribed := true } := by
  have running : task.point ≠ .finished := by simp [storing]
  refine ⟨(inv.moved found running).captured, fun _ => ?_⟩
  obtain ⟨current, here, which⟩ :=
    (Option.any_eq_true _ _).mp (timely (by simp [found, storing]))
  have receiving := receive_of_subscription here
  obtain ⟨other, stored, captured⟩ := inv.captured current receiving
  refine ⟨current, ?_⟩
  rcases (Bool.or_eq_true _ _).mp which with same | finished
  · have same : subscription = current := by simpa using same
    subst same
    rw [found] at stored
    cases stored
    exact ⟨receiving, _, Finmap.lookup_insert _, captured, rfl⟩
  · rw [stored] at finished
    have discovered : Discovered state current :=
      ⟨receiving, other, stored, captured, by simpa using finished⟩
    exact discovered.moved found running

theorem Inv.step {action : Action} {next : State} (inv : Inv state)
    (timely : Timely state action) (stepped : step state action = some next) :
    Inv next := by
  cases action with
  | listen outcome => exact inv.listen stepped
  | task subscription =>
      obtain ⟨task, found, moved⟩ := Option.bind_eq_some_iff.mp stepped
      unfold discover at moved
      split at moved
      · rename_i checking
        cases moved
        exact inv.moved found (by simp [checking])
      · rename_i storing
        cases moved
        exact inv.store found storing timely
      · cases moved

/-- In every run in which a task sets the flag in time, a node that is ready
has discovered its peers through a subscription that has not ended. -/
theorem stale_tasks_harmless (actions : List Action) (final : State)
    (reached : system.run actions = some final)
    (guarded : system.Guarded Timely actions)
    (ready : isSubscribed final = true) :
    ∃ subscription, Discovered final subscription := by
  have inv : Inv final := by
    refine system.invariant ?_ ?_ reached guarded
    · exact Inv.away rfl (by simp [system, start])
    · intro state action next inv timely stepped
      exact inv.step timely stepped
  exact inv.discovered ready

def undisturbed : List Action :=
  [.listen .succeed, .listen .succeed, .listen .succeed, .listen .succeed,
    .task 0, .task 0]

theorem stale_tasks_harmless_undisturbed :
    ∃ final, system.run undisturbed = some final ∧
      ∃ subscription, Discovered final subscription :=
  ⟨_, rfl, stale_tasks_harmless undisturbed _ rfl (by decide) rfl⟩

/-- The subscription fails after the task has compared the generations and
before it sets the flag. -/
def overtaken : List Action :=
  [.listen .succeed, .listen .succeed, .listen .succeed, .listen .succeed,
    .task 0, .listen .fail, .listen .succeed, .task 0]

theorem stale_task_sets_ready :
    ∃ final, system.run overtaken = some final ∧ isSubscribed final = true ∧
      ¬ ∃ subscription, Discovered final subscription := by
  refine ⟨_, rfl, rfl, ?_⟩
  rintro ⟨subscription, receiving, _⟩
  cases receiving

end RushSocket.Adapter.Redis.Readiness
