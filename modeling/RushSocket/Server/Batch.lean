import RushSocket.Server.System

namespace RushSocket.Server.Batch

open Adapter Data Http Protocol

/-! A batch of events against the same events one by one, by the calls that the
two handlers make to the cache and to the adapter. -/

inductive Call where
  | cacheSet (key : String) (value : ServerMessage) (ttlSecs : Nat)
  | sendToChannel (appId channel : String) (frame : ServerMessage)
      (exceptingId : Option String)
  deriving DecidableEq

def perform (moment : Moment) (state : AppState) : Call → AppState
  | .cacheSet key value ttlSecs =>
      state.setCache (state.cache.set moment.now key value ttlSecs)
  | .sendToChannel appId channel frame exceptingId =>
      state.sendToChannel moment appId channel frame exceptingId

/-- The calls for one event and one channel. -/
def publishCalls (app : App) (cacheTtl : Nat) (appId name data : String)
    (socketId : Option String) (channel : String) : List Call :=
  let frame := ServerMessage.channelEvent name channel (ServerMessage.text data) none
  (if (ChannelKind.fromName channel).isCache && app.enableCacheChannels then
    [.cacheSet (cacheKey appId channel) frame cacheTtl]
  else []) ++ [.sendToChannel appId channel frame socketId]

/-- A request, and the state and the moment that its handler finds. -/
structure Request where
  state : AppState
  moment : Moment
  params : Params
  body : List UInt8

section

variable (crates : Crates) (appId : String) (request : Request)

def Request.authorised (route : Route) : AppState × Except HttpError App :=
  authorise crates request.moment request.state appId route request.params request.body

def Request.trigger : AppState × HttpResponse :=
  Http.trigger crates request.moment request.state appId request.params request.body

def Request.triggerBatch : AppState × HttpResponse :=
  Http.triggerBatch crates request.moment request.state appId request.params request.body

def triggerCalls : List Call :=
  match (request.authorised crates appId .events).2 with
  | .error _ => []
  | .ok app =>
      match crates.readTrigger request.body with
      | .error _ => []
      | .ok trigger =>
          match checkTrigger app trigger with
          | .error _ => []
          | .ok channels =>
              channels.flatMap (publishCalls app request.state.cacheTtl appId
                trigger.name trigger.data trigger.socketId)

def batchCalls : List Call :=
  match (request.authorised crates appId .batchEvents).2 with
  | .error _ => []
  | .ok app =>
      match crates.readBatch request.body with
      | .error _ => []
      | .ok batch =>
          match checkBatch app batch with
          | .error _ => []
          | .ok () =>
              batch.flatMap fun event =>
                publishCalls app request.state.cacheTtl appId event.name event.data
                  event.socketId event.channel

end

section

variable {crates : Crates} {appId : String} {app : App} {request : Request}

/-! The handlers make these calls, and change the state by them alone. -/

theorem cacheTtl_sendAll (recipients : List ConnHandle) (state : AppState)
    (frame : ServerMessage) :
    (state.sendAll recipients frame).cacheTtl = state.cacheTtl := by
  induction recipients generalizing state with
  | nil => rfl
  | cons conn rest induction =>
      exact (induction (state.send conn.socketId frame)).trans rfl

theorem cacheTtl_perform (moment : Moment) (state : AppState) (call : Call) :
    (perform moment state call).cacheTtl = state.cacheTtl := by
  cases call with
  | cacheSet key value ttlSecs => rfl
  | sendToChannel appId channel frame exceptingId => exact cacheTtl_sendAll _ state frame

theorem publish_eq (moment : Moment) (app : App) (appId name data : String)
    (socketId : Option String) (state : AppState) (channel : String) :
    publish moment app appId name data socketId state channel =
      (publishCalls app state.cacheTtl appId name data socketId channel).foldl
        (perform moment) state := by
  unfold publish publishCalls
  split <;> rfl

/-- Handlers that publish item by item make the calls for all items. -/
theorem foldl_publish {Item : Type} (moment : Moment) (app : App) (appId : String)
    (name data channel : Item → String) (socketId : Item → Option String)
    (items : List Item) (state : AppState) :
    items.foldl (fun state item => publish moment app appId (name item) (data item)
        (socketId item) state (channel item)) state =
      (items.flatMap fun item => publishCalls app state.cacheTtl appId (name item)
        (data item) (socketId item) (channel item)).foldl (perform moment) state := by
  have kept : ∀ (calls : List Call) (state : AppState),
      (calls.foldl (perform moment) state).cacheTtl = state.cacheTtl := by
    intro calls
    induction calls with
    | nil => exact fun _ => rfl
    | cons call rest induction =>
        exact fun state => (induction _).trans (cacheTtl_perform moment state call)
  induction items generalizing state with
  | nil => rfl
  | cons item rest induction =>
      rw [List.foldl_cons, induction, List.flatMap_cons, List.foldl_append, publish_eq,
        kept]

theorem cacheTtl_authorised (route : Route) :
    (request.authorised crates appId route).1.cacheTtl = request.state.cacheTtl := by
  unfold Request.authorised authorise
  cases request.state.appManager.findById appId with
  | none => rfl
  | some app =>
      dsimp only
      split <;> rfl

theorem trigger_performs :
    (request.trigger crates appId).1 =
      (triggerCalls crates appId request).foldl (perform request.moment)
        (request.authorised crates appId .events).1 := by
  have ttl := @cacheTtl_authorised crates appId request .events
  unfold Request.trigger Http.trigger triggerCalls
  rw [← ttl]
  unfold Request.authorised
  cases authorise crates request.moment request.state appId .events request.params
      request.body with
  | mk admitted outcome =>
      cases outcome with
      | error refused => rfl
      | ok app =>
          cases crates.readTrigger request.body with
          | error reason => rfl
          | ok trigger =>
              cases checked : checkTrigger app trigger with
              | error refused => simp [checked]
              | ok channels =>
                  simp only [checked]
                  exact foldl_publish request.moment app appId (fun _ => trigger.name)
                    (fun _ => trigger.data) id (fun _ => trigger.socketId) channels admitted

theorem triggerBatch_performs :
    (request.triggerBatch crates appId).1 =
      (batchCalls crates appId request).foldl (perform request.moment)
        (request.authorised crates appId .batchEvents).1 := by
  have ttl := @cacheTtl_authorised crates appId request .batchEvents
  unfold Request.triggerBatch Http.triggerBatch batchCalls
  rw [← ttl]
  unfold Request.authorised
  cases authorise crates request.moment request.state appId .batchEvents request.params
      request.body with
  | mk admitted outcome =>
      cases outcome with
      | error refused => rfl
      | ok app =>
          cases crates.readBatch request.body with
          | error reason => rfl
          | ok batch =>
              cases checked : checkBatch app batch with
              | error refused => simp [checked]
              | ok passed =>
                  simp only [checked]
                  exact foldl_publish request.moment app appId BatchEvent.name
                    BatchEvent.data BatchEvent.channel BatchEvent.socketId batch admitted

/-! Admitted requests. -/

def alone (event : BatchEvent) : TriggerRequest where
  name := event.name
  data := event.data
  channels := none
  channel := some event.channel
  socketId := event.socketId
  info := event.info

structure Signed (crates : Crates) (appId : String) (app : App) (cacheTtl : Nat)
    (route : Route) (request : Request) : Prop where
  found : request.state.appManager.findById appId = some app
  ttl : request.state.cacheTtl = cacheTtl
  signed : checkSigned crates.sign crates.bodyMd5 appId app.secret route request.params
    request.body = .ok ()

structure CarriesBatch (crates : Crates) (appId : String) (app : App) (cacheTtl : Nat)
    (batch : List BatchEvent) (request : Request) : Prop
    extends Signed crates appId app cacheTtl .batchEvents request where
  read : crates.readBatch request.body = .ok batch

structure CarriesEvent (crates : Crates) (appId : String) (app : App) (cacheTtl : Nat)
    (event : BatchEvent) (request : Request) : Prop
    extends Signed crates appId app cacheTtl .events request where
  read : crates.readTrigger request.body = .ok (alone event)

variable {cacheTtl : Nat} {route : Route} {batch : List BatchEvent} {event : BatchEvent}
  {singles : List Request} {single whole : Request}

theorem Signed.authorised (signed : Signed crates appId app cacheTtl route request)
    (unlimited : app.maxBackendEventsPerSec ≤ 0) :
    ∃ admitted, authorise crates request.moment request.state appId route request.params
      request.body = (admitted, .ok app) := by
  have allowed : (request.state.rateLimiter.checkBackendEvent appId
      app.maxBackendEventsPerSec request.moment.withinRate).2 = true := by
    simp [LocalRateLimiter.checkBackendEvent, LocalRateLimiter.allowed, unlimited]
  unfold authorise
  rw [signed.found]
  dsimp only
  rw [signed.signed]
  dsimp only
  rw [if_pos allowed]
  exact ⟨_, rfl⟩

/-! What is checked of an event. -/

def NameFits (app : App) (event : BatchEvent) : Prop :=
  event.name.utf8ByteSize ≤ app.maxEventNameLength

def DataFits (app : App) (event : BatchEvent) : Prop :=
  event.data.utf8ByteSize ≤ kilobytes app.maxEventPayloadInKb

theorem checkTrigger_alone (atOnce : 1 ≤ app.maxEventChannelsAtOnce) :
    (NameFits app event ∧ DataFits app event ∧
        checkTrigger app (alone event) = .ok [event.channel]) ∨
      (¬ (NameFits app event ∧ DataFits app event) ∧
        ∃ refused, refused.status ≠ 200 ∧
          checkTrigger app (alone event) = .error refused) := by
  have few : ¬ [event.channel].length > app.maxEventChannelsAtOnce := Nat.not_lt.mpr atOnce
  have checks : checkTrigger app (alone event) =
      if event.name.utf8ByteSize > app.maxEventNameLength then
        .error ⟨400, "Event name too long"⟩
      else if event.data.utf8ByteSize > kilobytes app.maxEventPayloadInKb then
        .error (payloadTooLarge app)
      else .ok [event.channel] := if_neg few
  rw [checks]
  by_cases name : NameFits app event
  · rw [if_neg (Nat.not_lt.mpr name)]
    by_cases data : DataFits app event
    · exact .inl ⟨name, data, if_neg (Nat.not_lt.mpr data)⟩
    · exact .inr ⟨fun both => data both.2, _, by simp [payloadTooLarge],
        if_pos (Nat.not_le.mp data)⟩
  · exact .inr ⟨fun both => name both.1, _, by decide, if_pos (Nat.not_le.mp name)⟩

theorem checkBatch_fitting (fits : batch.length ≤ app.maxEventBatchSize) :
    ((∀ event ∈ batch, DataFits app event) ∧ checkBatch app batch = .ok ()) ∨
      ((∃ event ∈ batch, ¬ DataFits app event) ∧
        ∃ refused, refused.status ≠ 200 ∧ checkBatch app batch = .error refused) := by
  simp only [checkBatch, if_neg (Nat.not_lt.mpr fits), List.any_eq_true,
    decide_eq_true_eq]
  by_cases small : ∀ event ∈ batch, DataFits app event
  · refine .inl ⟨small, if_neg ?_⟩
    rintro ⟨event, member, large⟩
    exact absurd large (Nat.not_lt.mpr (small event member))
  · push Not at small
    obtain ⟨event, member, large⟩ := small
    exact .inr ⟨⟨event, member, large⟩, _, by simp [payloadTooLarge],
      if_pos ⟨event, member, Nat.not_le.mp large⟩⟩

theorem triggerResponse_status (state : AppState) (appId : String)
    (info : Option String) (channels : List String) :
    (triggerResponse state appId info channels).status = 200 := by
  unfold triggerResponse
  split <;> rfl

theorem batchResponse_status (state : AppState) (appId : String)
    (info : Option String) (batch : List BatchEvent) :
    (batchResponse state appId info batch).status = 200 := by
  unfold batchResponse
  split <;> rfl

theorem CarriesEvent.outcome
    (carries : CarriesEvent crates appId app cacheTtl event single)
    (unlimited : app.maxBackendEventsPerSec ≤ 0)
    (atOnce : 1 ≤ app.maxEventChannelsAtOnce) :
    ((single.trigger crates appId).2.status = 200 ↔
        NameFits app event ∧ DataFits app event) ∧
      (NameFits app event ∧ DataFits app event → triggerCalls crates appId single =
        publishCalls app cacheTtl appId event.name event.data event.socketId
          event.channel) := by
  obtain ⟨admitted, authorised⟩ := carries.authorised unlimited
  unfold Request.trigger Http.trigger triggerCalls Request.authorised
  rw [authorised]
  dsimp only
  rw [carries.read]
  dsimp only
  rcases @checkTrigger_alone app event atOnce with
    ⟨name, data, checked⟩ | ⟨unfit, refused, status, checked⟩
  · rw [checked]
    refine ⟨iff_of_true (triggerResponse_status _ _ _ _) ⟨name, data⟩, fun _ => ?_⟩
    rw [carries.ttl]
    exact List.append_nil _
  · rw [checked]
    exact ⟨iff_of_false status unfit, fun both => absurd both unfit⟩

/-- A batch is published when the data of every event fit. -/
theorem CarriesBatch.outcome
    (carries : CarriesBatch crates appId app cacheTtl batch whole)
    (unlimited : app.maxBackendEventsPerSec ≤ 0)
    (fits : batch.length ≤ app.maxEventBatchSize) :
    ((whole.triggerBatch crates appId).2.status = 200 ↔
        ∀ event ∈ batch, DataFits app event) ∧
      ((∀ event ∈ batch, DataFits app event) → batchCalls crates appId whole =
        batch.flatMap fun event => publishCalls app cacheTtl appId event.name event.data
          event.socketId event.channel) ∧
      ((whole.triggerBatch crates appId).2.status ≠ 200 →
        batchCalls crates appId whole = []) := by
  obtain ⟨admitted, authorised⟩ := carries.authorised unlimited
  unfold Request.triggerBatch Http.triggerBatch batchCalls Request.authorised
  rw [authorised]
  dsimp only
  rw [carries.read]
  dsimp only
  rcases checkBatch_fitting fits with
    ⟨small, checked⟩ | ⟨⟨event, member, large⟩, refused, status, checked⟩
  · rw [checked]
    have status := batchResponse_status (publishBatch whole.moment app appId admitted
      batch) appId (whole.params.get? "info") batch
    refine ⟨iff_of_true status small, fun _ => ?_, fun refused => absurd status refused⟩
    rw [carries.ttl]
  · rw [checked]
    exact ⟨iff_of_false status fun small => large (small event member),
      fun small => absurd (small event member) large, fun _ => rfl⟩

/-! The comparison. -/

/-- The batch answers and calls as the single events do, or calls nothing; and what
the handlers do to the state, after their checks, is what the calls do to it. -/
structure AsSingles (crates : Crates) (appId : String) (whole : Request)
    (singles : List Request) : Prop where
  batchPerforms : (whole.triggerBatch crates appId).1 =
    (batchCalls crates appId whole).foldl (perform whole.moment)
      (whole.authorised crates appId .batchEvents).1
  triggerPerforms : ∀ single ∈ singles, (single.trigger crates appId).1 =
    (triggerCalls crates appId single).foldl (perform single.moment)
      (single.authorised crates appId .events).1
  answers : (whole.triggerBatch crates appId).2.status = 200 ↔
    ∀ single ∈ singles, (single.trigger crates appId).2.status = 200
  calls : (whole.triggerBatch crates appId).2.status = 200 →
    batchCalls crates appId whole = singles.flatMap (triggerCalls crates appId)
  none_ : (whole.triggerBatch crates appId).2.status ≠ 200 →
    batchCalls crates appId whole = []

theorem singles_outcome
    (each : List.Forall₂ (CarriesEvent crates appId app cacheTtl) batch singles)
    (unlimited : app.maxBackendEventsPerSec ≤ 0)
    (atOnce : 1 ≤ app.maxEventChannelsAtOnce) :
    ((∀ single ∈ singles, (single.trigger crates appId).2.status = 200) ↔
        ∀ event ∈ batch, NameFits app event ∧ DataFits app event) ∧
      ((∀ event ∈ batch, NameFits app event ∧ DataFits app event) →
        singles.flatMap (triggerCalls crates appId) = batch.flatMap fun event =>
          publishCalls app cacheTtl appId event.name event.data event.socketId
            event.channel) := by
  induction each with
  | nil => exact ⟨by simp, fun _ => rfl⟩
  | cons carries _ induction =>
      obtain ⟨status, calls⟩ := carries.outcome unlimited atOnce
      rw [List.forall_mem_cons, List.forall_mem_cons, status, induction.1]
      refine ⟨Iff.rfl, fun fitting => ?_⟩
      rw [List.flatMap_cons, List.flatMap_cons, calls fitting.1, induction.2 fitting.2]

/-- A batch is the same as its events one by one exactly when every name fits or
some data do not. -/
theorem batch_as_singles (crates : Crates) (appId : String) (app : App) (cacheTtl : Nat)
    (batch : List BatchEvent) (whole : Request) (singles : List Request)
    (unlimited : app.maxBackendEventsPerSec ≤ 0)
    (fits : batch.length ≤ app.maxEventBatchSize)
    (atOnce : 1 ≤ app.maxEventChannelsAtOnce)
    (carries : CarriesBatch crates appId app cacheTtl batch whole)
    (each : List.Forall₂ (CarriesEvent crates appId app cacheTtl) batch singles) :
    AsSingles crates appId whole singles ↔
      (∀ event ∈ batch, NameFits app event) ∨ ∃ event ∈ batch, ¬ DataFits app event := by
  obtain ⟨status, calls, none_⟩ := carries.outcome unlimited fits
  obtain ⟨answers, performed⟩ := singles_outcome each unlimited atOnce
  constructor
  · intro same
    by_cases small : ∀ event ∈ batch, DataFits app event
    · have fitting := answers.mp (same.answers.mp (status.mpr small))
      exact .inl fun event member => (fitting event member).1
    · push Not at small
      exact .inr small
  · intro condition
    have fitting : (∀ event ∈ batch, DataFits app event) →
        ∀ event ∈ batch, NameFits app event ∧ DataFits app event := by
      intro small event member
      rcases condition with names | ⟨other, present, large⟩
      · exact ⟨names event member, small event member⟩
      · exact absurd (small other present) large
    exact {
      batchPerforms := triggerBatch_performs
      triggerPerforms := fun _ _ => trigger_performs
      answers := by
        rw [status, answers]
        exact ⟨fitting, fun both event member => (both event member).2⟩
      calls := by
        intro accepted
        have small := status.mp accepted
        rw [calls small, performed (fitting small)]
      none_ := none_ }

end

namespace Sample

def app : App := { App.sample with maxEventNameLength := 4 }

def query : String := "auth_key=app-key&auth_timestamp=1700000000&auth_version=1.0"

def batchSignature : String :=
  "32e23cc7a9d4280bab2360f87a194e161dcfa231b302f965607d4cd6581f0c15"

def eventSignature : String :=
  "2226f14b4e7c9d73f1ed100523a76af96dcb2eefe1145eadd378a299917b3377"

def batchParams : Params where
  entries := [("auth_key", "app-key"), ("auth_signature", batchSignature),
    ("auth_timestamp", "1700000000"), ("auth_version", "1.0")]
  sorted := by decide

def eventParams : Params where
  entries := [("auth_key", "app-key"), ("auth_signature", eventSignature),
    ("auth_timestamp", "1700000000"), ("auth_version", "1.0")]
  sorted := by decide

def event (name channel : String) : BatchEvent where
  name := name
  data := "d"
  channel := channel
  socketId := none
  info := none

def fields (event : BatchEvent) : Json :=
  .object [("name", .string event.name), ("data", .string event.data),
    ("channel", .string event.channel)]

def body (json : Json) : List UInt8 :=
  json.print.toList.map fun char => UInt8.ofNat char.toNat

def batchBody (batch : List BatchEvent) : List UInt8 :=
  body (.object [("batch", .array (batch.map fields))])

def eventBody (event : BatchEvent) : List UInt8 := body (fields event)

def fitting : List BatchEvent := [event "new" "room", event "new" "cache-room"]

def tooLong : List BatchEvent := [event "renew" "room"]

def crates : Crates where
  sign _ := Auth.signTable
    [("POST\n/apps/app/batch_events\n" ++ query, batchSignature),
      ("POST\n/apps/app/events\n" ++ query, eventSignature)]
  bodyMd5 _ := ""
  readValue _ := none
  readMessage _ := none
  readTrigger sent :=
    match (fitting ++ tooLong).find? fun event => eventBody event = sent with
    | some event => .ok (alone event)
    | none => .error ""
  readBatch sent :=
    match [fitting, tooLong].find? fun batch => batchBody batch = sent with
    | some batch => .ok batch
    | none => .error ""

def whole (batch : List BatchEvent) : Request where
  state := .new [app] 60
  moment := Server.Sample.moment
  params := batchParams
  body := batchBody batch

def single (event : BatchEvent) : Request where
  state := .new [app] 60
  moment := Server.Sample.moment
  params := eventParams
  body := eventBody event

theorem carries_fitting : CarriesBatch crates "app" app 60 fitting (whole fitting) where
  found := by decide
  ttl := rfl
  signed := by decide
  read := by decide

theorem carries_tooLong : CarriesBatch crates "app" app 60 tooLong (whole tooLong) where
  found := by decide
  ttl := rfl
  signed := by decide
  read := by decide

theorem carries_event {event : BatchEvent} (sent : event ∈ fitting ++ tooLong) :
    CarriesEvent crates "app" app 60 event (single event) where
  found := by
    revert event
    decide
  ttl := rfl
  signed := by
    revert event
    decide
  read := by
    revert event
    decide

end Sample

theorem batch_as_singles_fitting :
    ((Sample.whole Sample.fitting).triggerBatch Sample.crates "app").2.status = 200 ∧
      AsSingles Sample.crates "app" (Sample.whole Sample.fitting)
        (Sample.fitting.map Sample.single) := by
  have each : List.Forall₂ (CarriesEvent Sample.crates "app" Sample.app 60)
      Sample.fitting (Sample.fitting.map Sample.single) :=
    .cons (Sample.carries_event (by decide)) (.cons (Sample.carries_event (by decide)) .nil)
  have names : ∀ event ∈ Sample.fitting, NameFits Sample.app event := by
    unfold NameFits
    decide
  exact ⟨by decide, (batch_as_singles Sample.crates "app" Sample.app 60 Sample.fitting _ _
    (by decide) (by decide) (by decide) Sample.carries_fitting each).mpr (.inl names)⟩

/-- The batch is answered with 200 and sends the event that is refused alone. -/
theorem long_name_in_batch :
    CarriesBatch Sample.crates "app" Sample.app 60 Sample.tooLong
        (Sample.whole Sample.tooLong) ∧
      List.Forall₂ (CarriesEvent Sample.crates "app" Sample.app 60) Sample.tooLong
        (Sample.tooLong.map Sample.single) ∧
      Sample.tooLong.length ≤ Sample.app.maxEventBatchSize ∧
      1 ≤ Sample.app.maxEventChannelsAtOnce ∧ Sample.app.maxBackendEventsPerSec ≤ 0 ∧
      ¬ AsSingles Sample.crates "app" (Sample.whole Sample.tooLong)
        (Sample.tooLong.map Sample.single) := by
  refine ⟨Sample.carries_tooLong, .cons (Sample.carries_event (by decide)) .nil,
    by decide, by decide, by decide, fun same => ?_⟩
  exact absurd (same.answers.mp (by decide)) (by decide)

end RushSocket.Server.Batch
