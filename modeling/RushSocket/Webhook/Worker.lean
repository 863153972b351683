import RushSocket.Transition.System
import RushSocket.Webhook

namespace RushSocket

open Data Transition

/-! The task that sends the webhooks of one app. -/

namespace WebhookWorker

/-- Where the task is: it collects events until the interval is over or the
channel is closed, it posts a batch, for the last time or not, or it has
returned. -/
inductive Point
  | collecting
  | posting (payload : WebhookPayload) (attempt : Nat) (last : Bool)
  | returned

end WebhookWorker

/-- The task and its channel.  The last three fields only record the events sent,
the events received, and the batches passed to `flush`. -/
structure WebhookWorker where
  rx : List WebhookEvent
  closed : Bool
  batch : List WebhookEvent
  point : WebhookWorker.Point
  posted : List WebhookPayload
  sent : List WebhookEvent
  received : List WebhookEvent
  flushed : List (List WebhookEvent)

namespace WebhookWorker

def spawn : WebhookWorker where
  rx := []
  closed := false
  batch := []
  point := .collecting
  posted := []
  sent := []
  received := []
  flushed := []

/-- The batch is emptied before it is posted. -/
def flush (worker : WebhookWorker) (timeMs : UInt64) (last : Bool) : WebhookWorker :=
  { worker with
    batch := []
    point := .posting { timeMs, events := worker.batch } 0 last
    flushed := worker.flushed ++ [worker.batch] }

/-- The receiver is looked at first: the interval counts only when there is
nothing to receive. -/
def recv (worker : WebhookWorker) (timeMs : UInt64) : Option WebhookWorker :=
  match worker.rx with
  | event :: rest =>
      some { worker with
        rx := rest
        batch := worker.batch ++ [event]
        received := worker.received ++ [event] }
  | [] =>
      if worker.closed then
        if worker.batch.isEmpty then some { worker with point := .returned }
        else some (worker.flush timeMs true)
      else none

def sleepOver (worker : WebhookWorker) (timeMs : UInt64) : WebhookWorker :=
  if worker.batch.isEmpty then worker else worker.flush timeMs false

def attempted (worker : WebhookWorker) (payload : WebhookPayload) (attempt : Nat)
    (last isSuccess : Bool) : WebhookWorker :=
  { worker with
    posted := worker.posted ++ [payload]
    point :=
      if isSuccess || attempt + 1 = 3 then
        if last then .returned else .collecting
      else .posting payload (attempt + 1) last }

inductive Action
  | send (event : WebhookEvent)
  | close
  | recv (timeMs : UInt64)
  | sleepOver (timeMs : UInt64)
  | attempted (isSuccess : Bool)

def step (worker : WebhookWorker) : Action → Option WebhookWorker
  | .send event =>
      if worker.closed then none
      else
        some { worker with
          rx := worker.rx ++ [event]
          sent := worker.sent ++ [event] }
  | .close => some { worker with closed := true }
  | .recv timeMs =>
      match worker.point with
      | .collecting => worker.recv timeMs
      | .posting _ _ _ | .returned => none
  | .sleepOver timeMs =>
      match worker.point, worker.recv timeMs with
      | .collecting, none => some (worker.sleepOver timeMs)
      | _, _ => none
  | .attempted isSuccess =>
      match worker.point with
      | .posting payload attempt last =>
          some (worker.attempted payload attempt last isSuccess)
      | .collecting | .returned => none

def system : System WebhookWorker Action where
  start := .spawn
  step := step

/-- Every event sent is in a batch that was flushed, in the batch, or in the
channel, in this order. -/
structure Kept (worker : WebhookWorker) : Prop where
  received : worker.received = worker.flushed.flatten ++ worker.batch
  sent : worker.sent = worker.received ++ worker.rx
  nonempty : ∀ batch ∈ worker.flushed, batch ≠ []
  drained : worker.point ≠ .collecting → worker.batch = []
  finished : worker.point = .returned ∨
      (∃ payload attempt, worker.point = .posting payload attempt true) →
    worker.closed = true ∧ worker.rx = []

variable {worker next : WebhookWorker}

theorem kept_spawn : spawn.Kept where
  received := rfl
  sent := rfl
  nonempty := nofun
  drained _ := rfl
  finished ended := by
    rcases ended with returned | ⟨payload, attempt, posting⟩
    · exact nomatch returned
    · exact nomatch posting

theorem Kept.flush (kept : worker.Kept) (timeMs : UInt64) {last : Bool}
    (nonempty : worker.batch ≠ [])
    (finished : last = true → worker.closed = true ∧ worker.rx = []) :
    (worker.flush timeMs last).Kept where
  received := by
    change worker.received = (worker.flushed ++ [worker.batch]).flatten ++ []
    rw [kept.received, List.flatten_append, List.flatten_singleton, List.append_nil]
  sent := kept.sent
  nonempty batch member := by
    rcases List.mem_append.mp member with earlier | now
    · exact kept.nonempty batch earlier
    · rwa [List.mem_singleton.mp now]
  drained _ := rfl
  finished ended := by
    rcases ended with returned | ⟨payload, attempt, posting⟩
    · exact nomatch returned
    · cases posting
      exact finished rfl

theorem Kept.recv (kept : worker.Kept) (here : worker.point = .collecting)
    {timeMs : UInt64} (stepped : worker.recv timeMs = some next) : next.Kept := by
  cases waiting : worker.rx with
  | cons event rest =>
      simp only [WebhookWorker.recv, waiting, Option.some.injEq] at stepped
      subst stepped
      exact
        { received := by
            change worker.received ++ [event] =
              worker.flushed.flatten ++ (worker.batch ++ [event])
            rw [kept.received, List.append_assoc]
          sent := by
            change worker.sent = worker.received ++ [event] ++ rest
            rw [kept.sent, waiting, List.append_assoc]
            rfl
          nonempty := kept.nonempty
          drained := fun elsewhere => absurd here elsewhere
          finished := fun ended => by
            rcases ended with returned | ⟨payload, attempt, posting⟩
            · exact nomatch here.symm.trans returned
            · exact nomatch here.symm.trans posting }
  | nil =>
      simp only [WebhookWorker.recv, waiting] at stepped
      split at stepped
      · rename_i closed
        split at stepped
        · rename_i empty
          cases stepped
          exact
            { received := kept.received
              sent := waiting ▸ kept.sent
              nonempty := kept.nonempty
              drained := fun _ => List.isEmpty_iff.mp empty
              finished := fun _ => ⟨closed, rfl⟩ }
        · rename_i held
          cases stepped
          exact kept.flush timeMs (fun empty => held (List.isEmpty_iff.mpr empty))
            fun _ => ⟨closed, waiting⟩
      · cases stepped

theorem Kept.sleepOver (kept : worker.Kept) (timeMs : UInt64) :
    (worker.sleepOver timeMs).Kept := by
  unfold WebhookWorker.sleepOver
  split
  · exact kept
  · rename_i held
    exact kept.flush timeMs (fun empty => held (List.isEmpty_iff.mpr empty)) nofun

theorem Kept.attempted (kept : worker.Kept) {payload : WebhookPayload} {attempt : Nat}
    {last : Bool} (here : worker.point = .posting payload attempt last)
    (isSuccess : Bool) :
    (worker.attempted payload attempt last isSuccess).Kept where
  received := kept.received
  sent := kept.sent
  nonempty := kept.nonempty
  drained _ := kept.drained (by rw [here]; nofun)
  finished ended := by
    refine kept.finished (.inr ⟨payload, attempt, ?_⟩)
    rw [here]
    cases last with
    | true => rfl
    | false =>
        -- After a batch that is not the last the task collects or tries again.
        have still : (worker.attempted payload attempt false isSuccess).point = .collecting ∨
            (worker.attempted payload attempt false isSuccess).point =
              .posting payload (attempt + 1) false := by
          unfold WebhookWorker.attempted
          dsimp only
          split
          · exact .inl rfl
          · exact .inr rfl
        rcases still with collecting | again
        · rcases ended with returned | ⟨_, _, posting⟩
          · exact nomatch collecting.symm.trans returned
          · exact nomatch collecting.symm.trans posting
        · rcases ended with returned | ⟨_, _, posting⟩
          · exact nomatch again.symm.trans returned
          · cases again.symm.trans posting

theorem Kept.step {action : Action} (kept : worker.Kept)
    (stepped : WebhookWorker.step worker action = some next) : next.Kept := by
  cases action with
  | send event =>
      simp only [WebhookWorker.step] at stepped
      split at stepped
      · cases stepped
      · rename_i opened
        cases stepped
        exact
          { received := kept.received
            sent := by
              change worker.sent ++ [event] = worker.received ++ (worker.rx ++ [event])
              rw [kept.sent, List.append_assoc]
            nonempty := kept.nonempty
            drained := kept.drained
            finished := fun ended => absurd (kept.finished ended).1 opened }
  | close =>
      cases stepped
      exact
        { received := kept.received
          sent := kept.sent
          nonempty := kept.nonempty
          drained := kept.drained
          finished := fun ended => ⟨rfl, (kept.finished ended).2⟩ }
  | recv timeMs =>
      cases here : worker.point <;>
        simp only [WebhookWorker.step, here, reduceCtorEq] at stepped
      exact kept.recv here stepped
  | sleepOver timeMs =>
      simp only [WebhookWorker.step] at stepped
      split at stepped
      · cases stepped
        exact kept.sleepOver timeMs
      · cases stepped
  | attempted isSuccess =>
      cases here : worker.point <;>
        simp only [WebhookWorker.step, here, reduceCtorEq] at stepped
      cases stepped
      exact kept.attempted here isSuccess

theorem Kept.sent_eq (kept : worker.Kept) :
    worker.sent = worker.flushed.flatten ++ (worker.batch ++ worker.rx) := by
  rw [kept.sent, kept.received, List.append_assoc]

theorem Kept.flushed_of_returned (kept : worker.Kept) (returned : worker.point = .returned) :
    worker.flushed.flatten = worker.sent := by
  have elsewhere : worker.point ≠ .collecting := by
    rw [returned]
    intro same
    cases same
  rw [kept.sent_eq, kept.drained elsewhere, (kept.finished (.inl returned)).2,
    List.append_nil, List.append_nil]

/-- Batching neither loses, repeats nor reorders an event. -/
theorem flushed_prefix_sent {actions : List Action} {final : WebhookWorker}
    (reached : system.run actions = some final) :
    final.flushed.flatten <+: final.sent ∧ (∀ batch ∈ final.flushed, batch ≠ []) ∧
      final.received = final.flushed.flatten ++ final.batch ∧
      final.received <+: final.sent ∧
      (final.point = .returned → final.flushed.flatten = final.sent) := by
  have kept : final.Kept :=
    system.invariant_of_every_step kept_spawn (fun kept stepped => kept.step stepped)
      reached
  refine ⟨?_, kept.nonempty, kept.received, ?_, kept.flushed_of_returned⟩
  · rw [kept.sent_eq]
    exact List.prefix_append _ _
  · rw [kept.sent]
    exact List.prefix_append _ _

/-- A batch that cannot be delivered, an event sent meanwhile, and the close. -/
theorem flushed_prefix_sent_applies :
    let first := WebhookEvent.channelOccupied "a"
    let second := WebhookEvent.channelVacated "a"
    let actions : List Action :=
      [.sleepOver 1, .send first, .recv 2, .sleepOver 3, .attempted false,
        .send second, .attempted false, .attempted false, .close, .recv 4, .recv 5,
        .attempted true]
    ∃ final,
      system.run actions = some final ∧ final.point = .returned ∧
        final.flushed = [[first], [second]] ∧ final.flushed.flatten = final.sent := by
  intro first second actions
  obtain ⟨final, reached⟩ : ∃ final, system.run actions = some final := ⟨_, rfl⟩
  have shown : (system.run actions).map (fun worker => (worker.point, worker.flushed)) =
      some (.returned, [[first], [second]]) := rfl
  rw [reached, Option.map_some, Option.some_inj, Prod.mk.injEq] at shown
  exact ⟨final, reached, shown.1, shown.2,
    (flushed_prefix_sent reached).2.2.2.2 shown.1⟩

end WebhookWorker

end RushSocket
