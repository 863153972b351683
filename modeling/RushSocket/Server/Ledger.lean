import RushSocket.Server.System

namespace RushSocket

open Adapter Data Protocol Websocket

/-- The events that tell of a change of channels or members. -/
def WebhookEvent.describes (event : WebhookEvent) : Bool :=
  event.name = "channel_occupied" || event.name = "channel_vacated" ||
    event.name = "member_added" || event.name = "member_removed"

namespace Server

/-! What the handlers do beside the connections and the adapter.  A step of the
node is seen through its ledger: the apps, the cache, and for each app the
webhooks in its queue that describe a change. -/

structure Ledger where
  appManager : StaticAppManager
  cacheTtl : Nat
  cache : MemoryCache
  stream : String → Option (List WebhookEvent)

def Ledger.tell (ledger : Ledger) (appId : String) (events : List WebhookEvent) :
    Ledger :=
  { ledger with
    stream := fun other =>
      if other = appId then
        (ledger.stream other).map (· ++ events.filter WebhookEvent.describes)
      else ledger.stream other }

@[simp] theorem Ledger.tell_of_plain (ledger : Ledger) (appId : String)
    {events : List WebhookEvent}
    (plain : events.filter WebhookEvent.describes = []) :
    ledger.tell appId events = ledger := by
  have same : (fun other =>
      if other = appId then
        (ledger.stream other).map (· ++ events.filter WebhookEvent.describes)
      else ledger.stream other) = ledger.stream := by
    funext other
    rw [plain]
    split
    · simp
    · rfl
  rw [tell, same]

theorem Ledger.tell_tell (ledger : Ledger) (appId : String)
    (first second : List WebhookEvent) :
    (ledger.tell appId first).tell appId second =
      ledger.tell appId (first ++ second) := by
  simp only [tell, Ledger.mk.injEq, true_and]
  funext other
  split
  · simp [List.filter_append, List.append_assoc, Function.comp_def]
  · rfl

end Server

namespace AppState

open Server

def ledger (state : AppState) : Ledger where
  appManager := state.appManager
  cacheTtl := state.cacheTtl
  cache := state.cache
  stream appId := (state.webhooks.lookup appId).map (List.filter WebhookEvent.describes)

theorem lookup_webhookQueues (apps : List App) (appId : String) :
    (webhookQueues apps).lookup appId =
      if apps.any fun app => app.id = appId && app.webhookUrl.isSome then some []
      else none := by
  have general : ∀ queues : Table String (List WebhookEvent),
      (apps.foldl (fun queues app => if app.webhookUrl.isSome then
        queues.insert app.id [] else queues) queues).lookup appId =
      if apps.any fun app => app.id = appId && app.webhookUrl.isSome then some []
      else queues.lookup appId := by
    induction apps with
    | nil => exact fun _ => rfl
    | cons app rest induction =>
        intro queues
        rw [List.foldl_cons, induction, List.any_cons]
        cases hooked : app.webhookUrl.isSome with
        | false => simp
        | true =>
            rw [if_pos rfl, Table.lookup_put]
            by_cases same : appId = app.id
            · simp [same]
            · simp [same, Ne.symm same]
  exact general ∅

@[simp] theorem ledger_changeConn (state : AppState) (socketId : String)
    (change : WsConnection → WsConnection) :
    (state.changeConn socketId change).ledger = state.ledger := rfl

@[simp] theorem ledger_send (state : AppState) (socketId : String)
    (frame : ServerMessage) : (state.send socketId frame).ledger = state.ledger := rfl

@[simp] theorem ledger_sendAll (state : AppState) (recipients : List ConnHandle)
    (frame : ServerMessage) :
    (state.sendAll recipients frame).ledger = state.ledger := by
  induction recipients generalizing state with
  | nil => rfl
  | cons conn rest induction => exact induction (state.send conn.socketId frame)

@[simp] theorem ledger_sendToChannel (moment : Moment) (state : AppState)
    (appId channel : String) (frame : ServerMessage) (exceptingId : Option String) :
    (state.sendToChannel moment appId channel frame exceptingId).ledger =
      state.ledger :=
  ledger_sendAll state _ frame

theorem ledger_notify (state : AppState) (appId : String) (event : WebhookEvent) :
    (state.notify appId event).ledger = state.ledger.tell appId [event] := by
  simp only [ledger, notify, Ledger.tell, Ledger.mk.injEq, true_and]
  funext other
  rw [Table.lookup_modify]
  split
  · rename_i same
    rw [same]
    cases state.webhooks.lookup appId with
    | none => rfl
    | some queue => simp [List.filter_append]
  · rfl

theorem ledger_notify_plain (state : AppState) (appId : String)
    {event : WebhookEvent} (plain : event.describes = false) :
    (state.notify appId event).ledger = state.ledger := by
  rw [ledger_notify, Ledger.tell_of_plain]
  simp [plain]

theorem ledger_notify_if (state : AppState) (flag : Bool) (appId : String)
    (event : WebhookEvent) :
    (if flag then state.notify appId event else state).ledger =
      state.ledger.tell appId (if flag then [event] else []) := by
  cases flag with
  | true => exact ledger_notify state appId event
  | false => exact (Ledger.tell_of_plain _ _ rfl).symm

@[simp] theorem ledger_sendSubscriptionCount (state : AppState)
    (appId channel : String) (enabled : Bool) :
    (state.sendSubscriptionCount appId channel enabled).ledger = state.ledger := by
  unfold sendSubscriptionCount
  split
  · rfl
  · split
    · rfl
    · exact ledger_notify_plain state appId rfl

@[simp] theorem ledger_terminateUserConnections (moment : Moment) (state : AppState)
    (appId userId : String) :
    (state.terminateUserConnections moment appId userId).ledger = state.ledger := by
  unfold terminateUserConnections
  generalize state.adapter.getSocketsForUser moment.order appId userId = handles
  induction handles generalizing state with
  | nil => rfl
  | cons handle rest induction =>
      rw [List.foldl_cons, induction]
      rfl

end AppState

namespace Server

section

variable (moment : Moment) (state : AppState) (conn : WsConnection)
  (channel : String)

@[simp] theorem ledger_replayIfCache :
    (Subscribe.replayIfCache moment state conn channel).ledger = state.ledger := by
  unfold Subscribe.replayIfCache Subscribe.replayCache
  split
  · split
    · rfl
    · split
      · rfl
      · exact AppState.ledger_notify_plain _ _ rfl
  · rfl

def occupiedEvents (occupied : Bool) (channel : String) : List WebhookEvent :=
  if occupied then [.channelOccupied channel] else []

def vacatedEvents (vacated : Bool) (channel : String) : List WebhookEvent :=
  if vacated then [.channelVacated channel] else []

def addedEvents (isNew : Bool) (channel userId : String) : List WebhookEvent :=
  if isNew then [.memberAdded channel userId] else []

def removedEvents (userGone : Bool) (channel userId : String) : List WebhookEvent :=
  if userGone then [.memberRemoved channel userId] else []

theorem ledger_joinChannel (authenticated : Bool) :
    (Subscribe.joinChannel moment state conn channel authenticated).ledger =
      state.ledger.tell conn.app.id (occupiedEvents
        (state.adapter.addToChannel conn.app.id conn.socketId channel).2 channel) := by
  simp only [Subscribe.joinChannel, ledger_replayIfCache,
    AppState.ledger_sendSubscriptionCount, AppState.ledger_notify_if]
  rfl

theorem ledger_announce (userId : String) (userInfo : Value) :
    (Subscribe.announce moment state conn channel userId userInfo).ledger =
      state.ledger.tell conn.app.id [.memberAdded channel userId] := by
  rw [Subscribe.announce, AppState.ledger_notify, AppState.ledger_sendToChannel]

theorem ledger_joinPresence_refused {userId : String} {userInfo : Value}
    (refused : (state.adapter.tryAddPresenceMember conn.app.id channel conn.socketId
      userId userInfo conn.app.maxPresenceMembersPerChannel).2 = .error ()) :
    (Subscribe.joinPresence moment state conn channel userId userInfo).ledger =
      state.ledger := by
  simp only [Subscribe.joinPresence, refused]
  rfl

theorem ledger_joinPresence_accepted {userId : String} {userInfo : Value}
    {isNew : Bool} {members : Table String Value}
    (accepted : (state.adapter.tryAddPresenceMember conn.app.id channel conn.socketId
      userId userInfo conn.app.maxPresenceMembersPerChannel).2 =
        .ok (isNew, members)) :
    (Subscribe.joinPresence moment state conn channel userId userInfo).ledger =
      state.ledger.tell conn.app.id (occupiedEvents
        ((state.adapter.tryAddPresenceMember conn.app.id channel conn.socketId userId
          userInfo conn.app.maxPresenceMembersPerChannel).1.addToChannel conn.app.id
            conn.socketId channel).2 channel ++ addedEvents isNew channel userId) := by
  simp only [Subscribe.joinPresence, accepted, ledger_replayIfCache]
  rw [← Ledger.tell_tell]
  cases isNew with
  | true =>
      simp only [if_true, ledger_announce, AppState.ledger_send,
        AppState.ledger_notify_if]
      rfl
  | false =>
      simp only [Bool.false_eq_true, if_false, AppState.ledger_send,
        AppState.ledger_notify_if]
      exact (Ledger.tell_of_plain _ _ rfl).symm

theorem ledger_leavePresence (userId : String) :
    (leavePresence moment state conn channel userId).ledger =
      state.ledger.tell conn.app.id (removedEvents
        (state.adapter.removePresenceMember conn.app.id channel conn.socketId
          userId).2 channel userId) := by
  simp only [leavePresence, removedEvents]
  split
  · rw [AppState.ledger_notify, AppState.ledger_sendToChannel]
    rfl
  · exact (Ledger.tell_of_plain _ _ rfl).symm

theorem ledger_leaveChannel :
    (leaveChannel state conn channel).ledger =
      state.ledger.tell conn.app.id (vacatedEvents
        (state.adapter.removeFromChannel conn.app.id conn.socketId channel).2
          channel) := by
  simp only [leaveChannel, AppState.ledger_sendSubscriptionCount,
    AppState.ledger_notify_if]
  rfl

def withdrawnEvents (adapter : LocalAdapter) (conn : WsConnection) (channel : String) :
    List WebhookEvent :=
  if (ChannelKind.fromName channel).isPresence then
    match conn.getPresence channel with
    | some (userId, _) => removedEvents (adapter.removePresenceMember conn.app.id
        channel conn.socketId userId).2 channel userId
    | none => []
  else []

theorem ledger_withdraw :
    (Unsubscribe.withdraw moment state conn channel).ledger =
      state.ledger.tell conn.app.id (withdrawnEvents state.adapter conn channel) := by
  unfold Unsubscribe.withdraw withdrawnEvents
  split
  · cases conn.getPresence channel with
    | none => exact (Ledger.tell_of_plain _ _ rfl).symm
    | some member => exact ledger_leavePresence moment _ conn channel member.1
  · exact (Ledger.tell_of_plain _ _ rfl).symm

theorem ledger_leave :
    (Unsubscribe.leave moment state conn channel).ledger =
      state.ledger.tell conn.app.id (withdrawnEvents state.adapter conn channel ++
        vacatedEvents ((Unsubscribe.withdraw moment state conn
          channel).adapter.removeFromChannel conn.app.id conn.socketId channel).2
            channel) := by
  rw [Unsubscribe.leave, ledger_leaveChannel, AppState.ledger_changeConn,
    ledger_withdraw, Ledger.tell_tell]
  rfl

theorem ledger_forward (msg : ClientMessage) :
    (ClientEvent.forward moment state conn channel msg).ledger = state.ledger := by
  rw [ClientEvent.forward, AppState.ledger_sendToChannel]
  exact AppState.ledger_notify_plain _ _ rfl

end

/-- What a message does to the ledger is to enqueue webhooks for the app. -/
theorem Response.ledger {crates : Crates} {moment : Moment} {state after : AppState}
    {conn : WsConnection} {text : String}
    (response : Response crates moment conn text state after) :
    ∃ events, after.ledger = state.ledger.tell conn.app.id events := by
  have unchanged : ∀ {other : AppState}, other.ledger = state.ledger →
      ∃ events, other.ledger = state.ledger.tell conn.app.id events :=
    fun same => ⟨[], by rw [same, Ledger.tell_of_plain _ _ rfl]⟩
  cases response with
  | ignored => exact unchanged rfl
  | replied => exact unchanged rfl
  | joined => exact ⟨_, ledger_joinChannel ..⟩
  | @joinedPresence channel userId userInfo =>
      cases outcome : (state.adapter.tryAddPresenceMember conn.app.id channel
          conn.socketId userId userInfo conn.app.maxPresenceMembersPerChannel).2 with
      | error refused => exact unchanged (ledger_joinPresence_refused _ _ _ _ outcome)
      | ok returned => exact ⟨_, ledger_joinPresence_accepted _ _ _ _ outcome⟩
  | unsubscribed => exact ⟨_, ledger_leave ..⟩
  | signedIn => exact unchanged rfl
  | refused => exact unchanged rfl
  | forwarded => exact unchanged (ledger_forward ..)

theorem ledger_closeChannel (moment : Moment) (state : AppState) (conn : WsConnection)
    (channel : String) :
    ∃ events, (closeChannel moment conn state channel).ledger =
      state.ledger.tell conn.app.id events := by
  unfold closeChannel
  rw [ledger_leaveChannel]
  split
  · cases conn.getPresence channel with
    | none => exact ⟨_, rfl⟩
    | some member =>
        dsimp only
        rw [ledger_leavePresence, Ledger.tell_tell]
        exact ⟨_, rfl⟩
  · exact ⟨_, rfl⟩

theorem ledger_onClose (moment : Moment) (state : AppState) (conn : WsConnection) :
    ∃ events, (onClose moment state conn).ledger =
      state.ledger.tell conn.app.id events := by
  have left : ∃ events, ((moment.order.list conn.subscribedChannels).foldl
      (closeChannel moment conn) state).ledger =
      state.ledger.tell conn.app.id events := by
    generalize moment.order.list conn.subscribedChannels = channels
    induction channels generalizing state with
    | nil => exact ⟨[], (Ledger.tell_of_plain _ _ rfl).symm⟩
    | cons channel rest induction =>
        obtain ⟨early, first⟩ := ledger_closeChannel moment state conn channel
        obtain ⟨late, second⟩ := induction (closeChannel moment conn state channel)
        refine ⟨early ++ late, ?_⟩
        rw [List.foldl_cons, second, first, Ledger.tell_tell]
  unfold onClose
  cases conn.user with
  | none => exact left
  | some user => exact left

/-! The cache.  Only requests write to it. -/

/-- An event that a request stores for a channel of its app. -/
structure Stored where
  appId : String
  channel : String
  entry : CacheEntry

def Stored.key (stored : Stored) : String := cacheKey stored.appId stored.channel

def Ledger.store (ledger : Ledger) (events : List Stored) : Ledger :=
  { ledger with
    cache := ⟨events.foldl (fun store stored => store.insert stored.key stored.entry)
      ledger.cache.store⟩ }

section

variable (crates : Crates) (moment : Moment) (appManager : StaticAppManager)
  (cacheTtl : Nat)

def storedEvent (app : App) (appId name data channel : String) : List Stored :=
  if (ChannelKind.fromName channel).isCache && app.enableCacheChannels then
    [{ appId, channel
       entry :=
        { value := .channelEvent name channel (ServerMessage.text data) none
          expiresAt := moment.now + cacheTtl } }]
  else []

def authorised (appId : String) (route : Http.Route) (params : Http.Params)
    (body : List UInt8) : Option App :=
  (appManager.findById appId).filter fun app =>
    (Http.checkSigned crates.sign crates.bodyMd5 appId app.secret route params
      body).isOk &&
    LocalRateLimiter.allowed app.maxBackendEventsPerSec moment.withinRate

def storedByTrigger (appId : String) (params : Http.Params) (body : List UInt8) :
    List Stored :=
  match authorised crates moment appManager appId .events params body with
  | none => []
  | some app =>
      match crates.readTrigger body with
      | .error _ => []
      | .ok request =>
          match Http.checkTrigger app request with
          | .error _ => []
          | .ok channels => channels.flatMap
              (storedEvent moment cacheTtl app appId request.name request.data)

def storedByBatch (appId : String) (params : Http.Params) (body : List UInt8) :
    List Stored :=
  match authorised crates moment appManager appId .batchEvents params body with
  | none => []
  | some app =>
      match crates.readBatch body with
      | .error _ => []
      | .ok batch =>
          match Http.checkBatch app batch with
          | .error _ => []
          | .ok () => batch.flatMap fun event =>
              storedEvent moment cacheTtl app appId event.name event.data event.channel

end

/-- The events that an action stores, the last one last. -/
def storedBy (crates : Crates) (appManager : StaticAppManager) (cacheTtl : Nat) :
    Action → List Stored
  | .trigger appId params body moment =>
      storedByTrigger crates moment appManager cacheTtl appId params body
  | .triggerBatch appId params body moment =>
      storedByBatch crates moment appManager cacheTtl appId params body
  | _ => []

theorem Ledger.store_append (ledger : Ledger) (first second : List Stored) :
    ledger.store (first ++ second) = (ledger.store first).store second := by
  rw [store, List.foldl_append]
  rfl

/-- What is found after storing has been stored or was there before. -/
theorem Ledger.lookup_store {ledger : Ledger} {events : List Stored} {key : String}
    {entry : CacheEntry}
    (found : (ledger.store events).cache.store.lookup key = some entry) :
    (∃ stored ∈ events, stored.key = key ∧ stored.entry = entry) ∨
      ledger.cache.store.lookup key = some entry := by
  induction events using List.reverseRecOn with
  | nil => exact .inr found
  | append_singleton events last induction =>
      rw [store_append] at found
      change Finmap.lookup key ((ledger.store events).cache.store.insert last.key
        last.entry) = some entry at found
      rw [Table.lookup_put] at found
      split at found
      · rename_i same
        exact .inl ⟨last, by simp, same.symm, Option.some.inj found⟩
      · rcases induction found with ⟨stored, member, same⟩ | before
        · exact .inl ⟨stored, List.mem_append_left _ member, same⟩
        · exact .inr before

theorem channel_of_storedBy {crates : Crates} {appManager : StaticAppManager}
    {cacheTtl : Nat} {action : Action} {stored : Stored}
    (member : stored ∈ storedBy crates appManager cacheTtl action) :
    stored.entry.value.channel = some stored.channel := by
  have single : ∀ {moment app appId name data channel},
      stored ∈ storedEvent moment cacheTtl app appId name data channel →
        stored.entry.value.channel = some stored.channel := by
    intro moment app appId name data channel member
    unfold storedEvent at member
    split at member
    · rw [List.mem_singleton.mp member]
      rfl
    · cases member
  cases action with
  | trigger appId params body moment =>
      simp only [storedBy, storedByTrigger] at member
      repeat' split at member
      all_goals first
        | cases member
        | exact (List.mem_flatMap.mp member).elim fun _ there => single there.2
  | triggerBatch appId params body moment =>
      simp only [storedBy, storedByBatch] at member
      repeat' split at member
      all_goals first
        | cases member
        | exact (List.mem_flatMap.mp member).elim fun _ there => single there.2
  | accept | message | close | take | terminate => cases member

section

variable {crates : Crates} {moment : Moment} {appId : String} {state : AppState}

theorem ledger_publish (app : App) (name data : String) (socketId : Option String)
    (channel : String) :
    (Http.publish moment app appId name data socketId state channel).ledger =
      state.ledger.store
        (storedEvent moment state.cacheTtl app appId name data channel) := by
  simp only [Http.publish, AppState.ledger_sendToChannel, storedEvent]
  split <;> rfl

theorem ledger_foldl {α : Type u} {act : AppState → α → AppState}
    {stores : α → List Stored}
    (step : ∀ before item, before.cacheTtl = state.cacheTtl →
      (act before item).ledger = before.ledger.store (stores item))
    (items : List α) (before : AppState) (same : before.cacheTtl = state.cacheTtl) :
    (items.foldl act before).ledger = before.ledger.store (items.flatMap stores) := by
  induction items generalizing before with
  | nil => rfl
  | cons item rest induction =>
      have stepped := step before item same
      have kept : (act before item).cacheTtl = state.cacheTtl :=
        (congrArg Ledger.cacheTtl stepped).trans same
      rw [List.foldl_cons, induction _ kept, stepped, List.flatMap_cons,
        Ledger.store_append]

theorem ledger_publishAll (app : App) (request : TriggerRequest)
    (channels : List String) :
    (Http.publishAll moment app appId request state channels).ledger =
      state.ledger.store (channels.flatMap (storedEvent moment state.cacheTtl app appId
        request.name request.data)) := by
  refine ledger_foldl (fun before channel same => ?_) channels state rfl
  rw [ledger_publish, same]

theorem ledger_publishBatch (app : App) (batch : List BatchEvent) :
    (Http.publishBatch moment app appId state batch).ledger =
      state.ledger.store (batch.flatMap fun event =>
        storedEvent moment state.cacheTtl app appId event.name event.data
          event.channel) := by
  refine ledger_foldl (fun before event same => ?_) batch state rfl
  rw [ledger_publish, same]

theorem authorise_eq (crates : Crates) (moment : Moment) (state : AppState)
    (appId : String) (route : Http.Route) (params : Http.Params)
    (body : List UInt8) :
    ∃ limiter verdict, Http.authorise crates moment state appId route params body =
        (state.setRateLimiter limiter, verdict) ∧
      verdict.toOption =
        authorised crates moment state.appManager appId route params body := by
  unfold Http.authorise authorised
  cases state.appManager.findById appId with
  | none => exact ⟨state.rateLimiter, _, rfl, rfl⟩
  | some app =>
      dsimp only
      cases signed : Http.checkSigned crates.sign crates.bodyMd5 appId app.secret route
          params body with
      | error refused =>
          refine ⟨state.rateLimiter, _, rfl, ?_⟩
          simp [Option.filter_some, signed, Except.isOk, Except.toBool,
            Except.toOption]
      | ok checked =>
          refine ⟨_, _, rfl, ?_⟩
          cases within : LocalRateLimiter.allowed app.maxBackendEventsPerSec
              moment.withinRate with
          | true =>
              simp [Option.filter_some, signed, within, Except.isOk, Except.toBool,
                Except.toOption, LocalRateLimiter.checkBackendEvent]
          | false =>
              simp [Option.filter_some, signed, within, Except.isOk, Except.toBool,
                Except.toOption, LocalRateLimiter.checkBackendEvent]

theorem ledger_trigger (params : Http.Params) (body : List UInt8) :
    (Http.trigger crates moment state appId params body).1.ledger =
      state.ledger.store (storedByTrigger crates moment state.appManager
        state.cacheTtl appId params body) := by
  obtain ⟨limiter, verdict, shape, same⟩ :=
    authorise_eq crates moment state appId .events params body
  unfold Http.trigger storedByTrigger
  rw [shape, ← same]
  cases verdict with
  | error refused => rfl
  | ok app =>
      dsimp only [Except.toOption]
      cases crates.readTrigger body with
      | error reason => rfl
      | ok request =>
          dsimp only
          cases Http.checkTrigger app request with
          | error refused => rfl
          | ok channels => exact ledger_publishAll app request channels

theorem ledger_triggerBatch (params : Http.Params) (body : List UInt8) :
    (Http.triggerBatch crates moment state appId params body).1.ledger =
      state.ledger.store (storedByBatch crates moment state.appManager
        state.cacheTtl appId params body) := by
  obtain ⟨limiter, verdict, shape, same⟩ :=
    authorise_eq crates moment state appId .batchEvents params body
  unfold Http.triggerBatch storedByBatch
  rw [shape, ← same]
  cases verdict with
  | error refused => rfl
  | ok app =>
      dsimp only [Except.toOption]
      cases crates.readBatch body with
      | error reason => rfl
      | ok batch =>
          dsimp only
          cases Http.checkBatch app batch with
          | error refused => rfl
          | ok checked => exact ledger_publishBatch app batch

theorem ledger_terminate (userId : String) (params : Http.Params) :
    (Http.terminate crates moment state appId userId params).1.ledger =
      state.ledger := by
  unfold Http.terminate
  split
  · rfl
  · split
    · rfl
    · dsimp only
      split
      · rfl
      · exact AppState.ledger_terminateUserConnections moment state appId userId

theorem ledger_handshake (key socketId : String) :
    (state.accept key socketId).ledger = state.ledger := by
  unfold AppState.accept
  split
  · rfl
  · split
    · rfl
    · dsimp only
      split <;> rfl

/-- Every step keeps the apps and writes to the cache what it stores. -/
theorem ledger_step {next : AppState} {action : Action}
    (stepped : step crates state action = some next) :
    ∃ appId events, next.ledger = (state.ledger.tell appId events).store
      (storedBy crates state.appManager state.cacheTtl action) := by
  simp only [step, Option.map_eq_some_iff] at stepped
  obtain ⟨after, performed, rfl⟩ := stepped
  have unchanged : ∀ {other : AppState}, other.ledger = state.ledger →
      ∃ appId events, other.ledger = (state.ledger.tell appId events).store [] :=
    fun same => ⟨"", [], by rw [same, Ledger.tell_of_plain _ _ rfl]; rfl⟩
  cases action with
  | accept key socketId =>
      simp only [perform] at performed
      split at performed
      · cases performed
      · cases performed
        exact unchanged (ledger_handshake key socketId)
  | message socketId text moment =>
      simp only [perform, Option.map_eq_some_iff] at performed
      obtain ⟨conn, _, rfl⟩ := performed
      obtain ⟨events, told⟩ := (response_onMessage crates moment state conn text).ledger
      exact ⟨_, events, told⟩
  | close socketId moment =>
      simp only [perform, Option.map_eq_some_iff] at performed
      obtain ⟨conn, _, rfl⟩ := performed
      obtain ⟨events, told⟩ := ledger_onClose moment state conn
      exact ⟨_, events, told⟩
  | take socketId =>
      cases performed
      exact unchanged rfl
  | trigger appId params body moment =>
      cases performed
      refine ⟨"", [], ?_⟩
      rw [Ledger.tell_of_plain _ _ rfl]
      exact ledger_trigger params body
  | triggerBatch appId params body moment =>
      cases performed
      refine ⟨"", [], ?_⟩
      rw [Ledger.tell_of_plain _ _ rfl]
      exact ledger_triggerBatch params body
  | terminate appId userId params moment =>
      cases performed
      exact unchanged (ledger_terminate userId params)

end

end Server

end RushSocket
