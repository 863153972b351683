import Mathlib.Data.List.Flatten
import RushSocket.App
import RushSocket.Auth
import RushSocket.Transition.Family
import RushSocket.Webhook.Receiver
import RushSocket.Webhook.Worker

namespace RushSocket

open Data Transition

/-! The webhooks of all apps, from the handlers to the receivers. -/

/-- A request to a receiver: where it goes, its headers and its body. -/
structure Post where
  url : String
  key : String
  signature : String
  body : String

namespace WebhookManager

structure Endpoint where
  url : String
  key : String
  secret : String

/-- A task, and what has become of each request that it has made. -/
structure Task where
  endpoint : Endpoint
  worker : WebhookWorker
  answered : List (Post × Bool)

section

variable (sign : String → String → String)

def Endpoint.post (endpoint : Endpoint) (payload : WebhookPayload) : Post where
  url := endpoint.url
  key := endpoint.key
  signature := sign endpoint.secret payload.body
  body := payload.body

def spawn (app : App) (url : String) : Task where
  endpoint := ⟨url, app.key, app.secret⟩
  worker := .spawn
  answered := []

def answer (task : Task) : WebhookWorker.Action → List (Post × Bool)
  | .attempted isSuccess =>
      match task.worker.point with
      | .posting payload _ _ => [(task.endpoint.post sign payload, isSuccess)]
      | .collecting | .returned => []
  | .send _ | .close | .recv _ | .sleepOver _ => []

def Task.step (task : Task) (action : WebhookWorker.Action) : Option Task :=
  (task.worker.step action).map fun worker =>
    { task with worker, answered := task.answered ++ answer sign task action }

/-- Of two apps with one id the later one has the sender. -/
def new (apps : List App) : Table String Task :=
  apps.foldl (fun senders app =>
    match app.webhookUrl with
    | some url => senders.insert app.id (spawn app url)
    | none => senders) ∅

def system (apps : List App) :
    System (Table String Task) (String × WebhookWorker.Action) :=
  family (Task.step sign) (new apps)

end

def sentBy : WebhookWorker.Action → Option WebhookEvent
  | .send event => some event
  | .close | .recv _ | .sleepOver _ | .attempted _ => none

/-- The events that the handlers send for an app. -/
def sentEvents (appId : String) (actions : List (String × WebhookWorker.Action)) :
    List WebhookEvent :=
  (actionsOf appId actions).filterMap sentBy

/-- A batch that has been flushed, and the results of the attempts to post it. -/
structure Delivery where
  payload : WebhookPayload
  results : List Bool

namespace Delivery

def events (delivery : Delivery) : List WebhookEvent := delivery.payload.events

def accepted (delivery : Delivery) : Bool := delivery.results.contains true

/-- The last of at most three attempts has succeeded, or all three have failed. -/
def Settled (delivery : Delivery) : Prop :=
  (∃ failures, failures < 3 ∧
      delivery.results = List.replicate failures false ++ [true]) ∨
    delivery.results = List.replicate 3 false

def answers (sign : String → String → String) (endpoint : Endpoint) (delivery : Delivery) :
    List (Post × Bool) :=
  delivery.results.map fun isSuccess => (endpoint.post sign delivery.payload, isSuccess)

end Delivery

def pending : WebhookWorker.Point → List Delivery
  | .posting payload attempt _ => [⟨payload, List.replicate attempt false⟩]
  | .collecting | .returned => []

/-! What a step does to the batches. -/

section

variable {worker next : WebhookWorker} {action : WebhookWorker.Action}

def isAttempt : WebhookWorker.Action → Bool
  | .attempted _ => true
  | .send _ | .close | .recv _ | .sleepOver _ => false

/-- A step keeps the posts, begins to post a batch, or ends an attempt. -/
inductive Proceeds (worker : WebhookWorker) :
    WebhookWorker.Action → WebhookWorker → Prop
  | keep {action : WebhookWorker.Action} {next : WebhookWorker}
      (quiet : isAttempt action = false) (flushed : next.flushed = worker.flushed)
      (same : next.point = worker.point ∨
        worker.point = .collecting ∧ next.point = .returned) :
      Proceeds worker action next
  | flush {action : WebhookWorker.Action} {next : WebhookWorker}
      (quiet : isAttempt action = false) (here : worker.point = .collecting)
      (payload : WebhookPayload) (last : Bool) (posting : next.point = .posting payload 0 last)
      (flushed : next.flushed = worker.flushed ++ [payload.events]) :
      Proceeds worker action next
  | attempted (payload : WebhookPayload) (attempt : Nat) (last isSuccess : Bool)
      (here : worker.point = .posting payload attempt last) :
      Proceeds worker (.attempted isSuccess)
        (worker.attempted payload attempt last isSuccess)

theorem proceeds_of_recv {timeMs : UInt64} (here : worker.point = .collecting)
    (stepped : worker.recv timeMs = some next) :
    Proceeds worker (.recv timeMs) next ∧ next.sent = worker.sent := by
  unfold WebhookWorker.recv at stepped
  split at stepped
  · cases stepped
    exact ⟨.keep rfl rfl (.inl rfl), rfl⟩
  · split at stepped
    · split at stepped
      · cases stepped
        exact ⟨.keep rfl rfl (.inr ⟨here, rfl⟩), rfl⟩
      · cases stepped
        exact ⟨.flush rfl here ⟨timeMs, worker.batch⟩ true rfl rfl, rfl⟩
    · cases stepped

theorem proceeds_of_step (stepped : worker.step action = some next) :
    Proceeds worker action next ∧ next.sent = worker.sent ++ (sentBy action).toList := by
  cases action with
  | send event =>
      simp only [WebhookWorker.step] at stepped
      split at stepped
      · cases stepped
      · cases stepped
        exact ⟨.keep rfl rfl (.inl rfl), rfl⟩
  | close =>
      cases stepped
      exact ⟨.keep rfl rfl (.inl rfl), (List.append_nil _).symm⟩
  | recv timeMs =>
      cases here : worker.point with
      | collecting =>
          simp only [WebhookWorker.step, here] at stepped
          obtain ⟨proceeds, sent⟩ := proceeds_of_recv here stepped
          exact ⟨proceeds, sent.trans (List.append_nil _).symm⟩
      | posting | returned => simp [WebhookWorker.step, here] at stepped
  | sleepOver timeMs =>
      simp only [WebhookWorker.step] at stepped
      split at stepped
      · rename_i here _
        cases stepped
        unfold WebhookWorker.sleepOver
        split
        · exact ⟨.keep rfl rfl (.inl rfl), (List.append_nil _).symm⟩
        · exact ⟨.flush rfl here ⟨timeMs, worker.batch⟩ false rfl rfl,
            (List.append_nil _).symm⟩
      · cases stepped
  | attempted isSuccess =>
      cases here : worker.point with
      | posting payload attempt last =>
          simp only [WebhookWorker.step, here] at stepped
          cases stepped
          exact ⟨.attempted payload attempt last isSuccess here, (List.append_nil _).symm⟩
      | collecting | returned => simp [WebhookWorker.step, here] at stepped

end

/-! Every flushed batch is settled or is the one being posted. -/

section

variable {sign : String → String → String} {task next : Task}
  {action : WebhookWorker.Action} {settled : List Delivery}

structure Told (sign : String → String → String) (task : Task) (settled : List Delivery) :
    Prop where
  each : ∀ delivery ∈ settled, delivery.Settled
  fewer : ∀ payload attempt last,
    task.worker.point = .posting payload attempt last → attempt < 3
  flushed : (settled ++ pending task.worker.point).map Delivery.events = task.worker.flushed
  answered : (settled ++ pending task.worker.point).flatMap
    (Delivery.answers sign task.endpoint) = task.answered

theorem answer_of_quiet (quiet : isAttempt action = false) : answer sign task action = [] := by
  cases action with
  | attempted isSuccess => cases quiet
  | send | close | recv | sleepOver => rfl

theorem told_spawn (app : App) (url : String) : Told sign (spawn app url) [] where
  each _ member := by cases member
  fewer _ _ _ posting := by cases posting
  flushed := rfl
  answered := rfl

theorem answers_snoc {endpoint : Endpoint} {payload : WebhookPayload} {results : List Bool}
    {isSuccess : Bool} :
    Delivery.answers sign endpoint ⟨payload, results ++ [isSuccess]⟩ =
      Delivery.answers sign endpoint ⟨payload, results⟩ ++
        [(endpoint.post sign payload, isSuccess)] :=
  List.map_append

theorem Told.flushed_posting (told : Told sign task settled) {payload : WebhookPayload}
    {attempt : Nat} {last : Bool} (here : task.worker.point = .posting payload attempt last) :
    settled.map Delivery.events ++ [payload.events] = task.worker.flushed := by
  have flushed := told.flushed
  rw [here, pending, List.map_append] at flushed
  exact flushed

theorem Told.answered_posting (told : Told sign task settled) {payload : WebhookPayload}
    {attempt : Nat} {last : Bool} (here : task.worker.point = .posting payload attempt last) :
    settled.flatMap (Delivery.answers sign task.endpoint) ++
      Delivery.answers sign task.endpoint ⟨payload, List.replicate attempt false⟩ =
        task.answered := by
  have answered := told.answered
  rw [here, pending, List.flatMap_append, List.flatMap_singleton] at answered
  exact answered

/-- When the last attempt ends the batch is settled. -/
theorem Told.settle (told : Told sign task settled) {payload : WebhookPayload}
    {attempt : Nat} {last isSuccess : Bool}
    (here : task.worker.point = .posting payload attempt last)
    (ends : (isSuccess || attempt + 1 = 3) = true) :
    let worker := task.worker.attempted payload attempt last isSuccess
    let answered := task.answered ++ [(task.endpoint.post sign payload, isSuccess)]
    Told sign { task with worker, answered }
      (settled ++ [⟨payload, List.replicate attempt false ++ [isSuccess]⟩]) := by
  intro worker answered
  have before := told.fewer payload attempt last here
  have idle : pending worker.point = [] := by
    simp only [worker, WebhookWorker.attempted, ends, if_true]
    cases last <;> rfl
  constructor
  · intro delivery member
    cases List.mem_append.mp member with
    | inl earlier => exact told.each delivery earlier
    | inr now =>
        rw [List.mem_singleton.mp now]
        cases isSuccess with
        | true => exact .inl ⟨attempt, before, rfl⟩
        | false =>
            have third : attempt = 2 := by
              have same : attempt + 1 = 3 := by simpa using ends
              omega
            exact .inr (by rw [third]; rfl)
  · intro other count more posting
    have empty := congrArg pending posting
    rw [idle] at empty
    cases empty
  · rw [idle, List.append_nil, List.map_append]
    exact told.flushed_posting here
  · change _ = task.answered ++ [(task.endpoint.post sign payload, isSuccess)]
    rw [idle, List.append_nil, List.flatMap_append, ← told.answered_posting here,
      List.append_assoc, List.flatMap_singleton, answers_snoc]

theorem Told.attempted (told : Told sign task settled) {payload : WebhookPayload}
    {attempt : Nat} {last isSuccess : Bool}
    (here : task.worker.point = .posting payload attempt last) :
    let worker := task.worker.attempted payload attempt last isSuccess
    let answered := task.answered ++ [(task.endpoint.post sign payload, isSuccess)]
    ∃ more, Told sign { task with worker, answered } more := by
  intro worker answered
  cases ends : isSuccess || decide (attempt + 1 = 3) with
  | true => exact ⟨_, told.settle here ends⟩
  | false =>
      obtain ⟨failed, again⟩ := Bool.or_eq_false_iff.mp ends
      have before := told.fewer payload attempt last here
      have unended : ¬ (isSuccess || decide (attempt + 1 = 3)) = true := by
        rw [ends]
        decide
      have retried : worker.point = .posting payload (attempt + 1) last := if_neg unended
      refine ⟨settled, told.each, ?_, ?_, ?_⟩
      · intro other count more posting
        have same := retried.symm.trans posting
        cases same
        have notThird := of_decide_eq_false again
        omega
      · rw [retried, pending, List.map_append]
        exact told.flushed_posting here
      · change _ = task.answered ++ [(task.endpoint.post sign payload, isSuccess)]
        rw [retried, pending, List.flatMap_append, ← told.answered_posting here,
          List.append_assoc, List.flatMap_singleton, List.replicate_succ', answers_snoc,
          failed]

theorem Told.step (told : Told sign task settled) (stepped : task.step sign action = some next) :
    ∃ more, Told sign next more := by
  obtain ⟨worker, moved, rfl⟩ := Option.map_eq_some_iff.mp stepped
  cases (proceeds_of_step moved).1 with
  | keep quiet flushed same =>
      have still : pending worker.point = pending task.worker.point := by
        cases same with
        | inl same => rw [same]
        | inr ended => rw [ended.1, ended.2]; rfl
      refine ⟨settled, told.each, ?_, ?_, ?_⟩
      · intro payload attempt last posting
        cases same with
        | inl same => exact told.fewer payload attempt last (same.symm.trans posting)
        | inr ended => cases ended.2.symm.trans posting
      · rw [still, told.flushed, flushed]
      · rw [still, told.answered, answer_of_quiet quiet, List.append_nil]
  | flush quiet here payload last posting flushed =>
      have before := told.flushed
      have answers := told.answered
      rw [here, pending, List.append_nil] at before answers
      refine ⟨settled, told.each, ?_, ?_, ?_⟩
      · intro other attempt more postingToo
        cases posting.symm.trans postingToo
        decide
      · rw [posting, pending, List.map_append, before, flushed]
        rfl
      · rw [posting, pending, List.flatMap_append, answers, answer_of_quiet quiet]
        rfl
  | attempted payload attempt last isSuccess here =>
      have told := @Told.attempted sign task settled told payload attempt last isSuccess here
      have answered : answer sign task (.attempted isSuccess) =
          [(task.endpoint.post sign payload, isSuccess)] := by
        rw [answer, here]
      rw [answered]
      exact told

end

/-! A run of one task. -/

section

variable {sign : String → String → String} {first task : Task}
  {actions : List WebhookWorker.Action}

theorem sent_of_run {start : Task}
    (reached : (System.mk first (Task.step sign)).runFrom start actions = some task) :
    task.worker.sent = start.worker.sent ++ actions.filterMap sentBy := by
  induction actions generalizing start with
  | nil =>
      cases reached
      exact (List.append_nil _).symm
  | cons action rest induction =>
      obtain ⟨next, stepped, later⟩ := (System.runFrom_cons_eq_some _).mp reached
      obtain ⟨worker, moved, rfl⟩ := Option.map_eq_some_iff.mp stepped
      rw [induction later, (proceeds_of_step moved).2, List.append_assoc]
      cases action <;> rfl

structure Runs (sign : String → String → String) (first task : Task) : Prop where
  endpoint : task.endpoint = first.endpoint
  kept : task.worker.Kept
  told : ∃ settled, Told sign task settled

theorem Runs.step {next : Task} {action : WebhookWorker.Action} (runs : Runs sign first task)
    (stepped : task.step sign action = some next) : Runs sign first next := by
  obtain ⟨settled, told⟩ := runs.told
  obtain ⟨worker, moved, rfl⟩ := Option.map_eq_some_iff.mp stepped
  exact ⟨runs.endpoint, runs.kept.step moved, told.step stepped⟩

/-- When it has returned, each event sent has been posted in a batch that is settled. -/
theorem Runs.settled_of_returned (runs : Runs sign first task)
    (returned : task.worker.point = .returned) :
    ∃ settled : List Delivery, (∀ delivery ∈ settled, delivery.Settled) ∧
      task.answered = settled.flatMap (Delivery.answers sign task.endpoint) ∧
      settled.flatMap Delivery.events = task.worker.sent := by
  obtain ⟨settled, told⟩ := runs.told
  have answered := told.answered
  have flushed := told.flushed
  rw [returned, pending, List.append_nil] at answered flushed
  refine ⟨settled, told.each, answered.symm, ?_⟩
  rw [List.flatMap_def, flushed]
  exact runs.kept.flushed_of_returned returned

theorem runs_of_run {app : App} {url : String}
    (reached : (System.mk (spawn app url) (Task.step sign)).run actions = some task) :
    Runs sign (spawn app url) task := by
  let system := System.mk (spawn app url) (Task.step sign)
  have start : Runs sign (spawn app url) system.start :=
    ⟨rfl, WebhookWorker.kept_spawn, [], told_spawn app url⟩
  apply system.invariant_of_every_step start _ reached
  intro task action next runs stepped
  exact runs.step stepped

end

/-! What the receiver has accepted. -/

section

variable {sign : String → String → String} {endpoint : Endpoint} {delivery : Delivery}
  {readFloat : DecimalText → Option DecimalText}

/-- What is read of the requests that were accepted. -/
def accepts (readFloat : DecimalText → Option DecimalText) (answered : List (Post × Bool)) :
    List (Option WebhookPayload) :=
  (answered.filter Prod.snd).map fun answer =>
    WebhookPayload.ofText readFloat answer.1.body

theorem accepts_append (first second : List (Post × Bool)) :
    accepts readFloat (first ++ second) = accepts readFloat first ++ accepts readFloat second := by
  rw [accepts, List.filter_append, List.map_append]
  rfl

theorem accepts_failures (failures : Nat) :
    accepts readFloat (Delivery.answers sign endpoint
      ⟨delivery.payload, List.replicate failures false⟩) = [] := by
  simp [accepts, Delivery.answers]

theorem accepts_settled (settled : delivery.Settled)
    (fits : ∀ event ∈ delivery.events, event.Fits) :
    accepts readFloat (delivery.answers sign endpoint) =
      if delivery.accepted then [some delivery.payload] else [] := by
  have read : WebhookPayload.ofText readFloat delivery.payload.body = some delivery.payload :=
    WebhookPayload.ofText_body fits
  obtain ⟨payload, results⟩ := delivery
  cases settled with
  | inl success =>
      obtain ⟨failures, _, same⟩ := success
      simp only at same
      subst same
      have done :
          Delivery.accepted ⟨payload, List.replicate failures false ++ [true]⟩ = true := by
        simp [Delivery.accepted]
      rw [if_pos done]
      simp [accepts, Delivery.answers, Endpoint.post, read]
  | inr failure =>
      simp only at failure
      subst failure
      rfl

theorem accepts_all {settled : List Delivery} (each : ∀ delivery ∈ settled, delivery.Settled)
    (fits : ∀ event ∈ settled.flatMap Delivery.events, event.Fits) :
    accepts readFloat (settled.flatMap (Delivery.answers sign endpoint)) =
      (settled.filter Delivery.accepted).map fun delivery => some delivery.payload := by
  induction settled with
  | nil => rfl
  | cons delivery rest induction =>
      have later := induction
        (fun other member => each other (List.mem_cons_of_mem delivery member))
        (fun event member => fits event (by
          rw [List.flatMap_cons]
          exact List.mem_append_right _ member))
      have now := @accepts_settled sign endpoint delivery readFloat
        (each delivery List.mem_cons_self)
        (fun event member => fits event (by
          rw [List.flatMap_cons]
          exact List.mem_append_left _ member))
      rw [List.flatMap_cons, accepts_append, later, now, List.filter_cons]
      cases delivery.accepted with
      | true => rfl
      | false => rfl

theorem accepts_pending (point : WebhookWorker.Point) :
    accepts readFloat ((pending point).flatMap (Delivery.answers sign endpoint)) = [] := by
  cases point with
  | posting payload attempt last =>
      rw [pending, List.flatMap_singleton]
      exact @accepts_failures sign endpoint ⟨payload, []⟩ readFloat attempt
  | collecting | returned => rfl

end

theorem exists_spawn {apps : List App} {appId : String} {task : Task}
    (found : (new apps).lookup appId = some task) :
    ∃ app ∈ apps, ∃ url,
      app.id = appId ∧ app.webhookUrl = some url ∧ task = spawn app url := by
  induction apps using List.reverseRecOn with
  | nil => cases found
  | append_singleton rest app induction =>
      rw [new, List.foldl_append, List.foldl_cons, List.foldl_nil] at found
      have earlier (before : (new rest).lookup appId = some task) :
          ∃ one ∈ rest ++ [app], ∃ url, one.id = appId ∧ one.webhookUrl = some url ∧
            task = spawn one url := by
        obtain ⟨other, member, url, named⟩ := induction before
        exact ⟨other, List.mem_append_left _ member, url, named⟩
      cases hooked : app.webhookUrl with
      | none =>
          rw [hooked] at found
          exact earlier found
      | some url =>
          simp only [hooked] at found
          rw [Table.lookup_put] at found
          split at found
          · rename_i same
            cases found
            exact ⟨app, List.mem_append_right _ List.mem_cons_self, url, same.symm, hooked, rfl⟩
          · exact earlier found

/-- The webhooks of an app go to its own address, signed with its own secret and no matter
what the other apps do.  Each batch is posted until it is accepted, three times at most,
before the next one, and the receiver reads from what it accepts each of these batches once,
in the order in which their events were sent. -/
theorem webhooks_delivered {sign : String → String → String} {apps : List App}
    {actions : List (String × WebhookWorker.Action)} {final : Table String Task}
    (reached : (system sign apps).run actions = some final)
    {appId : String} {task : Task} (found : final.lookup appId = some task) :
    ∃ app ∈ apps, ∃ settled : List Delivery,
      let sent := sentEvents appId actions
      let deliveries := settled ++ pending task.worker.point
      let accepted := settled.filter Delivery.accepted
      app.id = appId ∧ app.webhookUrl = some task.endpoint.url ∧
      task.endpoint.key = app.key ∧ task.endpoint.secret = app.secret ∧
      task.answered = deliveries.flatMap (Delivery.answers sign task.endpoint) ∧
      (∀ delivery ∈ settled, delivery.Settled) ∧
      deliveries.flatMap Delivery.events <+: sent ∧
      (task.worker.point = .returned → settled.flatMap Delivery.events = sent) ∧
      (accepted.flatMap Delivery.events).Sublist sent ∧
      ((∀ event ∈ sent, event.Fits) → ∀ readFloat,
        accepts readFloat task.answered = accepted.map fun delivery => some delivery.payload) := by
  rw [lookup_family reached, Option.bind_eq_some_iff] at found
  obtain ⟨first, listed, ran⟩ := found
  obtain ⟨app, member, url, named, hooked, rfl⟩ := exists_spawn listed
  have runs := runs_of_run ran
  obtain ⟨settled, told⟩ := runs.told
  have endpoint : task.endpoint = ⟨url, app.key, app.secret⟩ := runs.endpoint
  have sent : task.worker.sent = sentEvents appId actions := sent_of_run ran
  have flushed : (settled ++ pending task.worker.point).flatMap Delivery.events =
      task.worker.flushed.flatten := by
    rw [← told.flushed, List.flatMap_def]
  have leading : (settled ++ pending task.worker.point).flatMap Delivery.events <+:
      sentEvents appId actions := by
    rw [flushed, ← sent, runs.kept.sent_eq]
    exact List.prefix_append _ _
  have first : settled.flatMap Delivery.events <+: sentEvents appId actions := by
    rw [List.flatMap_append] at leading
    exact (List.prefix_append _ _).trans leading
  refine ⟨app, member, settled, named, ?_, ?_, ?_, told.answered.symm, told.each, leading,
    ?_, ?_, ?_⟩
  · rw [endpoint, hooked]
  · rw [endpoint]
  · rw [endpoint]
  · intro returned
    rw [returned, pending, List.append_nil] at flushed
    exact flushed.trans ((runs.kept.flushed_of_returned returned).trans sent)
  · apply List.Sublist.trans _ first.sublist
    exact List.filter_sublist.flatMap _
  · intro fits readFloat
    rw [← told.answered, List.flatMap_append, accepts_append, accepts_pending, List.append_nil]
    apply accepts_all told.each
    intro event inside
    exact fits event (first.subset inside)

/-! A batch is accepted at the second attempt. -/

def hooked : App := { App.sample with webhookUrl := some "http://localhost/hooks" }

def retried : List (String × WebhookWorker.Action) :=
  [.send (.channelOccupied "room"), .recv 1, .sleepOver 2, .attempted false, .attempted true,
    .close, .recv 3].map fun action => ("app", action)

def hasReturned (senders : Table String Task) : Bool :=
  (senders.lookup "app").any fun task =>
    match task.worker.point with
    | .returned => true
    | .collecting | .posting _ _ _ => false

theorem point_of_hasReturned {senders : Table String Task} {task : Task}
    (ended : hasReturned senders = true) (found : senders.lookup "app" = some task) :
    task.worker.point = .returned := by
  rw [hasReturned, found] at ended
  cases here : task.worker.point with
  | returned => rfl
  | collecting | posting => simp [here] at ended

theorem webhooks_delivered_retried :
    let sign := fun _ => Auth.signTable []
    let sent : List WebhookEvent := [.channelOccupied "room"]
    ∃ final task, (system sign [hooked]).run retried = some final ∧
      final.lookup "app" = some task ∧ task.endpoint.url = "http://localhost/hooks" ∧
      ∃ settled : List Delivery, (∀ delivery ∈ settled, delivery.Settled) ∧
        settled.flatMap Delivery.events = sent ∧
        accepts some task.answered = (settled.filter Delivery.accepted).map fun delivery =>
          some delivery.payload := by
  intro sign sent
  have done : ((system sign [hooked]).run retried).any hasReturned = true := by
    decide +kernel
  obtain ⟨final, reached, ended⟩ := Option.any_eq_true _ _ |>.mp done
  obtain ⟨task, found, _⟩ := Option.any_eq_true _ _ |>.mp ended
  have point := point_of_hasReturned ended found
  obtain ⟨app, member, settled, _, url, _, _, _, each, _, whole, _, read⟩ :=
    webhooks_delivered reached found
  have only : app = hooked := List.mem_singleton.mp member
  refine ⟨final, task, reached, found, ?_, settled, each, whole point, read ?_ some⟩
  · rw [only] at url
    exact (Option.some_inj.mp url).symm
  · intro event listed count known
    rw [List.mem_singleton.mp listed] at known
    cases known

end WebhookManager

end RushSocket
