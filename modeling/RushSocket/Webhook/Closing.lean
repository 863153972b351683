import RushSocket.Transition.Descent
import RushSocket.Webhook.Manager

namespace RushSocket

open Data Transition

/-! A task whose channel is closed comes to its end. -/

namespace WebhookManager

/-- What the task does by itself, rather than what is done to its channel. -/
def isOwn : WebhookWorker.Action → Bool
  | .recv _ | .sleepOver _ | .attempted _ => true
  | .send _ | .close => false

/-- How many steps of its own a task has before it at most, once it is closed: one
for each event in the channel and one to notice that there are no more, and three
for each of the batch that is being posted and the last. -/
def remaining (worker : WebhookWorker) : Nat :=
  match worker.point with
  | .collecting => worker.rx.length + 4
  | .posting _ attempt last => 3 - attempt + if last then 0 else worker.rx.length + 4
  | .returned => 0

section

variable {worker next : WebhookWorker} {action : WebhookWorker.Action}

theorem remaining_le : remaining worker ≤ worker.rx.length + 7 := by
  cases here : worker.point with
  | collecting =>
      rw [remaining, here]
      exact Nat.add_le_add_left (by decide) _
  | posting payload attempt last =>
      have atMost : (if last then 0 else worker.rx.length + 4) ≤ worker.rx.length + 4 := by
        cases last with
        | true => exact Nat.zero_le _
        | false => exact Nat.le_refl _
      have whole : 3 + (worker.rx.length + 4) = worker.rx.length + 7 := by omega
      rw [remaining, here, ← whole]
      exact Nat.add_le_add (Nat.sub_le 3 attempt) atMost
  | returned =>
      rw [remaining, here]
      exact Nat.zero_le _

theorem remaining_recv (closed : worker.closed = true) (here : worker.point = .collecting)
    {timeMs : UInt64} (stepped : worker.recv timeMs = some next) :
    next.closed = true ∧ remaining next < remaining worker := by
  have before : remaining worker = worker.rx.length + 4 := by rw [remaining, here]
  unfold WebhookWorker.recv at stepped
  split at stepped
  · rename_i event rest waiting
    cases stepped
    refine ⟨closed, ?_⟩
    rw [before, waiting, List.length_cons]
    simp only [remaining, here]
    omega
  · rw [if_pos closed] at stepped
    split at stepped
    · cases stepped
      refine ⟨closed, ?_⟩
      rw [before]
      exact Nat.succ_pos _
    · cases stepped
      refine ⟨closed, ?_⟩
      rw [before]
      simp only [remaining, WebhookWorker.flush, if_true]
      omega

theorem remaining_attempted {payload : WebhookPayload} {attempt : Nat} {last : Bool}
    (here : worker.point = .posting payload attempt last) (fewer : attempt < 3)
    (isSuccess : Bool) :
    remaining (worker.attempted payload attempt last isSuccess) < remaining worker := by
  have before : remaining worker =
      3 - attempt + if last then 0 else worker.rx.length + 4 := by
    rw [remaining, here]
  cases ends : isSuccess || decide (attempt + 1 = 3) with
  | true =>
      have ended : (worker.attempted payload attempt last isSuccess).point =
          if last then .returned else .collecting := if_pos ends
      have after : remaining (worker.attempted payload attempt last isSuccess) =
          if last then 0 else worker.rx.length + 4 := by
        rw [remaining, ended]
        cases last <;> rfl
      omega
  | false =>
      have unended : ¬ (isSuccess || decide (attempt + 1 = 3)) = true := by
        rw [ends]
        decide
      have retried : (worker.attempted payload attempt last isSuccess).point =
          .posting payload (attempt + 1) last := if_neg unended
      have after : remaining (worker.attempted payload attempt last isSuccess) =
          3 - (attempt + 1) + if last then 0 else worker.rx.length + 4 := by
        rw [remaining, retried]
        rfl
      omega

/-- A closed task takes no more events, and each step of its own brings it nearer
to the end. -/
theorem remaining_step (closed : worker.closed = true)
    (fewer : ∀ payload attempt last,
      worker.point = .posting payload attempt last → attempt < 3)
    (stepped : worker.step action = some next) :
    next.closed = true ∧ next.sent = worker.sent ∧
      remaining next + (if isOwn action then 1 else 0) ≤ remaining worker := by
  have sent := (proceeds_of_step stepped).2
  cases action with
  | send event => simp [WebhookWorker.step, closed] at stepped
  | close =>
      cases stepped
      exact ⟨rfl, rfl, Nat.le_refl _⟩
  | recv timeMs =>
      cases here : worker.point with
      | collecting =>
          simp only [WebhookWorker.step, here] at stepped
          obtain ⟨still, nearer⟩ := remaining_recv closed here stepped
          exact ⟨still, sent.trans (List.append_nil _), nearer⟩
      | posting | returned => simp [WebhookWorker.step, here] at stepped
  | sleepOver timeMs =>
      -- There is always something to receive from a closed channel.
      have busy : (worker.recv timeMs).isSome = true := by
        unfold WebhookWorker.recv
        split
        · rfl
        · rw [if_pos closed]
          split <;> rfl
      simp only [WebhookWorker.step] at stepped
      split at stepped
      · rename_i idle
        rw [idle] at busy
        cases busy
      · cases stepped
  | attempted isSuccess =>
      cases here : worker.point with
      | posting payload attempt last =>
          have nearer := remaining_attempted here (fewer payload attempt last here) isSuccess
          simp only [WebhookWorker.step, here] at stepped
          cases stepped
          exact ⟨closed, rfl, nearer⟩
      | collecting | returned => simp [WebhookWorker.step, here] at stepped

theorem exists_own_step (closed : worker.closed = true) (unended : worker.point ≠ .returned) :
    ∃ action next, isOwn action = true ∧ worker.step action = some next := by
  cases here : worker.point with
  | returned => exact absurd here unended
  | posting payload attempt last =>
      refine ⟨.attempted true, worker.attempted payload attempt last true, rfl, ?_⟩
      simp only [WebhookWorker.step, here]
  | collecting =>
      cases received : worker.recv 0 with
      | some next =>
          refine ⟨.recv 0, next, rfl, ?_⟩
          simp only [WebhookWorker.step, here, received]
      | none =>
          unfold WebhookWorker.recv at received
          split at received
          · cases received
          · rw [if_pos closed] at received
            split at received
            · cases received
            · cases received

structure Closed (sign : String → String → String) (first : Task) (sent : List WebhookEvent)
    (task : Task) : Prop where
  runs : Runs sign first task
  closed : task.worker.closed = true
  sent : task.worker.sent = sent

theorem Closed.step {sign : String → String → String} {first task after : Task}
    {sent : List WebhookEvent} (closed : Closed sign first sent task)
    (stepped : task.step sign action = some after) :
    Closed sign first sent after ∧
      remaining after.worker + (if isOwn action then 1 else 0) ≤ remaining task.worker := by
  obtain ⟨settled, told⟩ := closed.runs.told
  obtain ⟨worker, moved, rfl⟩ := Option.map_eq_some_iff.mp stepped
  obtain ⟨still, kept, nearer⟩ := remaining_step closed.closed told.fewer moved
  exact ⟨⟨closed.runs.step stepped, still, kept.trans closed.sent⟩, nearer⟩

end

/-- A task whose channel is closed has only so many steps before it, whatever becomes of its
requests and whatever the other tasks do in the meantime.  It can take one until it has
returned, and then it has posted all that was sent. -/
theorem closed_returns {sign : String → String → String} {apps : List App}
    {actions more : List (String × WebhookWorker.Action)} {middle final : Table String Task}
    (reached : (system sign apps).run actions = some middle)
    {appId : String} {task : Task} (found : middle.lookup appId = some task)
    (closed : task.worker.closed = true)
    (continued : (system sign apps).runFrom middle more = some final) :
    ∃ last, final.lookup appId = some last ∧
      (actionsOf appId more).countP isOwn ≤ task.worker.rx.length + 7 ∧
      (last.worker.point = .returned → ∃ settled : List Delivery,
        (∀ delivery ∈ settled, delivery.Settled) ∧
        last.answered = settled.flatMap (Delivery.answers sign last.endpoint) ∧
        settled.flatMap Delivery.events = sentEvents appId actions) ∧
      (last.worker.point ≠ .returned → ∃ action table, isOwn action = true ∧
        (system sign apps).step final (appId, action) = some table) := by
  have later := lookup_runFrom continued appId
  rw [found, Option.bind_some] at later
  have present : (middle.lookup appId).isSome = true := by rw [found]; rfl
  obtain ⟨last, here⟩ :=
    Option.isSome_iff_exists.mp (isSome_lookup_runFrom continued present)
  rw [lookup_family reached, Option.bind_eq_some_iff] at found
  obtain ⟨first, listed, ran⟩ := found
  obtain ⟨app, _, url, _, _, rfl⟩ := exists_spawn listed
  have sent : task.worker.sent = sentEvents appId actions := sent_of_run ran
  have start : Closed sign (spawn app url) task.worker.sent task :=
    ⟨runs_of_run ran, closed, rfl⟩
  have used : Closed sign (spawn app url) task.worker.sent last ∧
      (actionsOf appId more).countP isOwn + remaining last.worker ≤
        remaining task.worker := by
    apply (System.mk task (Task.step sign)).descent _ start (later.symm.trans here)
    intro state action next closed stepped
    exact closed.step stepped
  obtain ⟨atEnd, used⟩ := used
  refine ⟨last, here, ?_, ?_, ?_⟩
  · have bound : remaining task.worker ≤ task.worker.rx.length + 7 := remaining_le
    omega
  · intro returned
    rw [← sent, ← atEnd.sent]
    exact atEnd.runs.settled_of_returned returned
  · intro unended
    obtain ⟨action, worker, own, stepped⟩ := exists_own_step atEnd.closed unended
    obtain ⟨next, moved⟩ : ∃ next, last.step sign action = some next := by
      rw [Task.step, stepped]
      exact ⟨_, rfl⟩
    refine ⟨action, final.insert appId next, own, ?_⟩
    change (final.lookup appId).bind _ = _
    rw [here, Option.bind_some, moved]
    rfl

/-! A task is closed before it has received its events, and a request fails. -/

def closedRun : List (String × WebhookWorker.Action) :=
  [.send (.channelOccupied "room"), .recv 1, .sleepOver 2, .send (.channelVacated "room"),
    .close].map fun action => ("app", action)

def drained : List (String × WebhookWorker.Action) :=
  [.attempted false, .attempted true, .recv 3, .recv 4, .attempted true].map fun action =>
    ("app", action)

def isClosed (senders : Table String Task) : Bool :=
  (senders.lookup "app").any fun task => task.worker.closed

theorem closed_returns_drained :
    let sign := fun _ => Auth.signTable []
    let sent : List WebhookEvent := [.channelOccupied "room", .channelVacated "room"]
    ∃ middle task final last, (system sign [hooked]).run closedRun = some middle ∧
      middle.lookup "app" = some task ∧ task.worker.closed = true ∧
      (system sign [hooked]).runFrom middle drained = some final ∧
      final.lookup "app" = some last ∧ (actionsOf "app" drained).countP isOwn = 5 ∧
      5 ≤ task.worker.rx.length + 7 ∧ last.worker.point = .returned ∧
      ∃ settled : List Delivery, (∀ delivery ∈ settled, delivery.Settled) ∧
        last.answered = settled.flatMap (Delivery.answers sign last.endpoint) ∧
        settled.flatMap Delivery.events = sent := by
  intro sign sent
  have stopped : ((system sign [hooked]).run closedRun).any isClosed = true := by
    decide +kernel
  have ended : (((system sign [hooked]).run closedRun).bind fun middle =>
      (system sign [hooked]).runFrom middle drained).any hasReturned = true := by
    decide +kernel
  obtain ⟨middle, reached, shut⟩ := Option.any_eq_true _ _ |>.mp stopped
  obtain ⟨task, found, closed⟩ := Option.any_eq_true _ _ |>.mp shut
  rw [reached, Option.bind_some] at ended
  obtain ⟨final, continued, returned⟩ := Option.any_eq_true _ _ |>.mp ended
  obtain ⟨last, here, bound, whole, _⟩ := closed_returns reached found closed continued
  have point := point_of_hasReturned returned here
  have steps : (actionsOf "app" drained).countP isOwn = 5 := by decide
  rw [steps] at bound
  exact ⟨middle, task, final, last, reached, found, closed, continued, here, steps, bound,
    point, whole point⟩

end WebhookManager

end RushSocket
