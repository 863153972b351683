import RushSocket.Server.Agreement
import RushSocket.Server.Ledger

namespace RushSocket.Server

open Adapter Data Protocol Websocket

/-! Which frames the handlers enqueue.  The connections and the cache only grow,
by frames that a given predicate admits. -/

def framesTo (state : AppState) (socketId : String) : List ServerMessage :=
  ((state.connections.lookup socketId).map fun conn => conn.tx.enqueued).getD []

/-- Entries are kept under the key of the channel that their frame names. -/
def CacheFits (appId : String) (cache : MemoryCache) : Prop :=
  ∀ key entry, cache.store.lookup key = some entry →
    ∃ channel, key = cacheKey appId channel ∧ entry.value.channel = some channel

structure Grows (may : String → ServerMessage → Prop) (appId : String)
    (before after : AppState) : Prop where
  apps : after.appManager = before.appManager
  cached : CacheFits appId before.cache → CacheFits appId after.cache
  frames : ∀ socketId, ∃ new, framesTo after socketId = framesTo before socketId ++ new ∧
    ∀ frame ∈ new, may socketId frame

section

variable {may : String → ServerMessage → Prop} {appId : String}
  {before between after : AppState}

theorem Grows.of_same (apps : after.appManager = before.appManager)
    (cache : after.cache = before.cache)
    (connections : after.connections = before.connections) :
    Grows may appId before after where
  apps := apps
  cached := by
    rw [cache]
    exact id
  frames socketId := ⟨[], by simp [framesTo, connections], fun _ member => nomatch member⟩

theorem Grows.refl (state : AppState) : Grows may appId state state :=
  .of_same rfl rfl rfl

theorem Grows.trans (first : Grows may appId before between)
    (second : Grows may appId between after) : Grows may appId before after where
  apps := second.apps.trans first.apps
  cached fits := second.cached (first.cached fits)
  frames socketId := by
    obtain ⟨early, sentEarly, mayEarly⟩ := first.frames socketId
    obtain ⟨late, sentLate, mayLate⟩ := second.frames socketId
    refine ⟨early ++ late, by rw [sentLate, sentEarly, List.append_assoc], ?_⟩
    intro frame member
    rcases List.mem_append.mp member with there | there
    · exact mayEarly frame there
    · exact mayLate frame there

theorem Grows.ite {condition : Prop} [Decidable condition] {otherwise : AppState}
    (yes : Grows may appId before after) (no : Grows may appId before otherwise) :
    Grows may appId before (if condition then after else otherwise) := by
  split
  · exact yes
  · exact no

theorem Grows.foldl {α : Type u} {act : AppState → α → AppState}
    (kept : AppState → Prop)
    (step : ∀ state item, kept state → kept (act state item) ∧
      Grows may appId state (act state item))
    (items : List α) (state : AppState) (holds : kept state) :
    Grows may appId state (items.foldl act state) := by
  induction items generalizing state with
  | nil => exact .refl state
  | cons item rest induction =>
      obtain ⟨next, grows⟩ := step state item holds
      exact grows.trans (induction (act state item) next)

/-- A change of a connection that appends what it enqueues. -/
theorem grows_changeConn (state : AppState) (socketId : String)
    {change : WsConnection → WsConnection}
    (appends : ∀ conn, ∃ new, (change conn).tx.enqueued = conn.tx.enqueued ++ new ∧
      ∀ frame ∈ new, may socketId frame) :
    Grows may appId state (state.changeConn socketId change) where
  apps := rfl
  cached := id
  frames other := by
    unfold framesTo AppState.changeConn
    rw [Table.lookup_modify]
    split
    · rename_i same
      rw [same]
      cases state.connections.lookup socketId with
      | none => exact ⟨[], rfl, fun _ member => nomatch member⟩
      | some conn => exact appends conn
    · exact ⟨[], by simp, fun _ member => nomatch member⟩

theorem grows_quiet (state : AppState) (socketId : String)
    {change : WsConnection → WsConnection}
    (same : ∀ conn, (change conn).tx.enqueued = conn.tx.enqueued) :
    Grows may appId state (state.changeConn socketId change) :=
  grows_changeConn state socketId fun conn =>
    ⟨[], by rw [same, List.append_nil], fun _ member => nomatch member⟩

theorem enqueued_trySend (tx : Outbound) (frame : ServerMessage) :
    ∃ new, (tx.trySend frame).1.enqueued = tx.enqueued ++ new ∧
      ∀ sent ∈ new, sent = frame := by
  unfold Outbound.trySend
  split
  · exact ⟨[frame], rfl, fun sent member => List.mem_singleton.mp member⟩
  · exact ⟨[], by simp, fun _ member => nomatch member⟩

theorem grows_send (state : AppState) {socketId : String} {frame : ServerMessage}
    (allowed : may socketId frame) :
    Grows may appId state (state.send socketId frame) := by
  refine grows_changeConn state socketId fun conn => ?_
  obtain ⟨new, appended, only⟩ := enqueued_trySend conn.tx frame
  have enqueued : (conn.sendRaw frame).tx.enqueued =
      (conn.tx.trySend frame).1.enqueued := by
    unfold WsConnection.sendRaw
    split
    · rename_i tx sent
      rw [sent]
    · rename_i tx full
      unfold Outbound.trySend at full ⊢
      split
      · rename_i room
        rw [if_pos room] at full
        cases full
      · rfl
  refine ⟨new, enqueued.trans appended, fun sent member => ?_⟩
  rw [only sent member]
  exact allowed

theorem grows_sendAll (state : AppState) {recipients : List ConnHandle}
    {frame : ServerMessage}
    (allowed : ∀ handle ∈ recipients, may handle.socketId frame) :
    Grows may appId state (state.sendAll recipients frame) := by
  induction recipients generalizing state with
  | nil => exact .refl state
  | cons handle rest induction =>
      refine (grows_send state (allowed handle List.mem_cons_self)).trans ?_
      exact induction (state.send handle.socketId frame)
        fun other member => allowed other (List.mem_cons_of_mem handle member)

theorem grows_notify (state : AppState) (app : String) (event : WebhookEvent) :
    Grows may appId state (state.notify app event) :=
  .of_same rfl rfl rfl

theorem grows_setAdapter (state : AppState) (adapter : LocalAdapter) :
    Grows may appId state (state.setAdapter adapter) :=
  .of_same rfl rfl rfl

theorem grows_setRateLimiter (state : AppState) (rateLimiter : LocalRateLimiter) :
    Grows may appId state (state.setRateLimiter rateLimiter) :=
  .of_same rfl rfl rfl

theorem grows_sendSubscriptionCount (state : AppState) (app channel : String)
    (enabled : Bool) :
    Grows may appId state (state.sendSubscriptionCount app channel enabled) := by
  unfold AppState.sendSubscriptionCount
  split
  · exact .refl state
  · split
    · exact .refl state
    · exact grows_notify state app _

end

/-! Broadcasts. -/

/-- The subscribers of a channel, one socket excepted, may get its frames. -/
structure Entitled (may : String → ServerMessage → Prop) (appId : String)
    (except : Option String) (adapter : LocalAdapter) : Prop where
  handled : ∀ {socketId handle},
    (adapter.ns appId).sockets.lookup socketId = some handle →
      handle.socketId = socketId
  allowed : ∀ {socketId channel frame}, adapter.Subscribed appId socketId channel →
    some socketId ≠ except → frame.channel = some channel → may socketId frame

section

variable {may : String → ServerMessage → Prop} {appId : String}
  {except : Option String} {adapter after : LocalAdapter}
  {socketId channel userId : String}

theorem Entitled.transfer (entitled : Entitled may appId except adapter)
    (keeps : LocalAdapter.Keeps LocalAdapter.registry adapter after)
    (subscribed : ∀ {socketId channel}, some socketId ≠ except →
      after.Subscribed appId socketId channel →
      adapter.Subscribed appId socketId channel) :
    Entitled may appId except after where
  handled := by
    intro socketId handle found
    have same : (after.ns appId).sockets = (adapter.ns appId).sockets :=
      congrArg Prod.fst (keeps appId)
    rw [same] at found
    exact entitled.handled found
  allowed := fun there other => entitled.allowed (subscribed other there) other

theorem Entitled.findSocketId (entitled : Entitled may appId except adapter) :
    (adapter.ns appId).findSocketId socketId = socketId := by
  unfold Namespace.findSocketId
  split
  · rename_i handle found
    exact entitled.handled found
  · rfl

theorem Entitled.addToChannel
    (entitled : Entitled may appId (some socketId) adapter) (channel : String) :
    Entitled may appId (some socketId)
      (adapter.addToChannel appId socketId channel).1 := by
  refine entitled.transfer (LocalAdapter.keeps_addToChannel fun _ _ _ => rfl) ?_
  intro other place different there
  rcases (LocalAdapter.subscribed_addToChannel entitled.findSocketId).mp there with
    before | ⟨_, same, _⟩
  · exact before
  · exact absurd (congrArg some same) different

theorem Entitled.tryAddPresenceMember (entitled : Entitled may appId except adapter)
    (app : String) (userInfo : Value) (maxMembers : Nat) :
    Entitled may appId except
      (adapter.tryAddPresenceMember app channel socketId userId userInfo
        maxMembers).1 :=
  entitled.transfer (LocalAdapter.keeps_tryAddPresenceMember fun _ _ => rfl)
    fun _ => (LocalAdapter.keeps_tryAddPresenceMember fun _ _ => rfl).subscribed.mp

theorem Entitled.removePresenceMember (entitled : Entitled may appId except adapter)
    (app : String) :
    Entitled may appId except
      (adapter.removePresenceMember app channel socketId userId).1 :=
  entitled.transfer (LocalAdapter.keeps_removePresenceMember fun _ _ => rfl)
    fun _ => (LocalAdapter.keeps_removePresenceMember fun _ _ => rfl).subscribed.mp

theorem Entitled.removeFromChannel (entitled : Entitled may appId except adapter)
    (app : String) :
    Entitled may appId except (adapter.removeFromChannel app socketId channel).1 :=
  entitled.transfer (LocalAdapter.keeps_removeFromChannel fun _ _ _ => rfl)
    fun _ there => (LocalAdapter.subscribed_removeFromChannel.mp there).1

/-- A broadcast reaches registered subscribers only. -/
theorem Entitled.recipient (entitled : Entitled may appId except adapter)
    {order : HashOrder} {exceptingId : Option String} {handle : ConnHandle}
    {frame : ServerMessage}
    (member : handle ∈ adapter.recipients order appId channel exceptingId)
    (covers : ∀ socketId, some socketId ≠ exceptingId → some socketId ≠ except)
    (named : frame.channel = some channel) : may handle.socketId frame := by
  rw [LocalAdapter.recipients_eq] at member
  unfold Namespace.recipients at member
  split at member
  · rename_i socketIds found
    obtain ⟨socketId, there, reached⟩ := List.mem_filterMap.mp member
    split at reached
    · cases reached
    · rename_i different
      rw [entitled.handled reached]
      refine entitled.allowed ?_ (covers socketId different) named
      rw [LocalAdapter.Subscribed, Table.members_of_lookup found]
      exact order.mem_list.mp there
  · cases member

theorem grows_sendToChannel {state : AppState} {moment : Moment}
    {exceptingId : Option String} {frame : ServerMessage}
    (entitled : Entitled may appId except state.adapter)
    (covers : ∀ socketId, some socketId ≠ exceptingId → some socketId ≠ except)
    (named : frame.channel = some channel) :
    Grows may appId state
      (state.sendToChannel moment appId channel frame exceptingId) :=
  grows_sendAll state fun _ member => entitled.recipient member covers named

end

/-! The handlers of a connection. -/

section

variable {may : String → ServerMessage → Prop} {moment : Moment} {conn : WsConnection}
  {channel userId : String} {userInfo : Value}

theorem cacheKey_injective {appId other : String}
    (same : cacheKey appId other = cacheKey appId channel) : other = channel := by
  simp only [cacheKey, String.append_assoc] at same
  have lists := congrArg String.toList same
  simp only [String.toList_append, List.append_cancel_left_eq] at lists
  exact String.toList_inj.mp lists

def Replays (may : String → ServerMessage → Prop) (conn : WsConnection)
    (channel : String) (cache : MemoryCache) : Prop :=
  ∀ now cached, cache.get now (cacheKey conn.app.id channel) = some cached →
    may conn.socketId cached

theorem CacheFits.replays {cache : MemoryCache} (fits : CacheFits conn.app.id cache)
    (own : ∀ frame, frame.channel = some channel → may conn.socketId frame) :
    Replays may conn channel cache := by
  intro now cached found
  obtain ⟨entry, stored, rfl⟩ := MemoryCache.entry_of_get found
  obtain ⟨other, key, named⟩ := fits _ entry stored
  apply own
  rw [named, cacheKey_injective key.symm]

theorem grows_replayIfCache {appId : String} (state : AppState)
    (replays : Replays may conn channel state.cache)
    (own : ∀ frame, frame.channel = some channel → may conn.socketId frame) :
    Grows may appId state (Subscribe.replayIfCache moment state conn channel) := by
  unfold Subscribe.replayIfCache Subscribe.replayCache
  split
  · split
    · exact .refl state
    · split
      · rename_i cached found
        exact grows_send state (replays _ cached found)
      · exact (grows_send state (own _ rfl)).trans (grows_notify _ _ _)
  · exact .refl state

theorem grows_joinChannel (state : AppState) (authenticated : Bool)
    (replays : Replays may conn channel state.cache)
    (own : ∀ frame, frame.channel = some channel → may conn.socketId frame) :
    Grows may conn.app.id state
      (Subscribe.joinChannel moment state conn channel authenticated) := by
  have succeeded : ∀ adapter, Grows may conn.app.id state
      (((state.setAdapter adapter).changeConn conn.socketId fun stored =>
        if authenticated then (stored.addChannel channel).authenticate
        else stored.addChannel channel).send conn.socketId
          (.subscriptionSucceeded channel)) := by
    intro adapter
    refine Grows.trans ?_ (grows_send _ (own _ rfl))
    refine (grows_setAdapter state adapter).trans (grows_quiet _ _ fun stored => ?_)
    split <;> rfl
  simp only [Subscribe.joinChannel]
  refine Grows.trans ?_ (grows_replayIfCache _ ?_ own)
  · refine Grows.trans ?_ (grows_sendSubscriptionCount _ _ _ _)
    exact .ite ((succeeded _).trans (grows_notify _ _ _)) (succeeded _)
  · refine cast (congrArg (Replays may conn channel) ?_) replays
    have same := congrArg Ledger.cache
      (ledger_joinChannel moment state conn channel authenticated)
    simp only [Subscribe.joinChannel, ledger_replayIfCache] at same
    exact same.symm

theorem grows_announce (state : AppState)
    (entitled : Entitled may conn.app.id (some conn.socketId) state.adapter) :
    Grows may conn.app.id state
      (Subscribe.announce moment state conn channel userId userInfo) :=
  (grows_sendToChannel entitled (fun _ different => different) rfl).trans
    (grows_notify _ _ _)

theorem grows_joinPresence_accepted (state : AppState) {isNew : Bool}
    {members : Table String Value}
    (entitled : Entitled may conn.app.id (some conn.socketId) state.adapter)
    (replays : Replays may conn channel state.cache)
    (own : ∀ frame, frame.channel = some channel → may conn.socketId frame)
    (accepted : (state.adapter.tryAddPresenceMember conn.app.id channel conn.socketId
      userId userInfo conn.app.maxPresenceMembersPerChannel).2 =
        .ok (isNew, members)) :
    Grows may conn.app.id state
      (Subscribe.joinPresence moment state conn channel userId userInfo) := by
  simp only [Subscribe.joinPresence, accepted]
  refine Grows.trans ?_ (grows_replayIfCache _ ?_ own)
  -- The announcement goes out after the socket has got its place.
  · refine Grows.ite (Grows.trans ?succeeded (grows_announce _ ?_)) ?succeeded
    case succeeded =>
      refine Grows.trans ?_ (grows_send _ (own _ rfl))
      refine Grows.ite (Grows.trans ?joined (grows_notify _ _ _)) ?joined
      exact (grows_setAdapter state _).trans (grows_quiet _ _ fun stored => rfl)
    · split
      · exact (entitled.tryAddPresenceMember conn.app.id userInfo _).addToChannel
          channel
      · exact (entitled.tryAddPresenceMember conn.app.id userInfo _).addToChannel
          channel
  · refine cast (congrArg (Replays may conn channel) ?_) replays
    have same := congrArg Ledger.cache
      (ledger_joinPresence_accepted moment state conn channel accepted)
    simp only [Subscribe.joinPresence, accepted, ledger_replayIfCache] at same
    exact same.symm

theorem grows_joinPresence (state : AppState)
    (entitled : Entitled may conn.app.id (some conn.socketId) state.adapter)
    (replays : Replays may conn channel state.cache)
    (plain : ∀ frame, frame.channel = none → may conn.socketId frame)
    (own : ∀ frame, frame.channel = some channel → may conn.socketId frame) :
    Grows may conn.app.id state
      (Subscribe.joinPresence moment state conn channel userId userInfo) := by
  cases outcome : (state.adapter.tryAddPresenceMember conn.app.id channel
      conn.socketId userId userInfo conn.app.maxPresenceMembersPerChannel).2 with
  | error refused =>
      simp only [Subscribe.joinPresence, outcome]
      exact (grows_setAdapter state _).trans (grows_send _ (plain _ rfl))
  | ok returned => exact grows_joinPresence_accepted state entitled replays own outcome

theorem grows_leavePresence (state : AppState)
    (entitled : Entitled may conn.app.id (some conn.socketId) state.adapter) :
    Grows may conn.app.id state
      (leavePresence moment state conn channel userId) := by
  simp only [leavePresence]
  refine Grows.ite ?_ (grows_setAdapter state _)
  refine Grows.trans ?_ (grows_notify _ _ _)
  exact Grows.trans (grows_setAdapter state _) (grows_sendToChannel
    (entitled.removePresenceMember conn.app.id) (fun _ different => different) rfl)

theorem grows_leaveChannel (state : AppState) :
    Grows may conn.app.id state (leaveChannel state conn channel) := by
  simp only [leaveChannel]
  refine Grows.trans ?_ (grows_sendSubscriptionCount _ _ _ _)
  refine Grows.ite (Grows.trans ?_ (grows_notify _ _ _)) (grows_setAdapter state _)
  exact grows_setAdapter state _

theorem grows_leave (state : AppState)
    (entitled : Entitled may conn.app.id (some conn.socketId) state.adapter) :
    Grows may conn.app.id state (Unsubscribe.leave moment state conn channel) := by
  unfold Unsubscribe.leave Unsubscribe.withdraw
  refine Grows.trans ?_ (grows_leaveChannel _)
  refine Grows.trans ?_ (grows_quiet _ _ fun stored => rfl)
  split
  · split
    · refine Grows.trans ?_ (grows_leavePresence _ entitled)
      exact grows_quiet state _ fun stored => rfl
    · exact .refl state
  · exact .refl state

theorem Entitled.closeChannel {state : AppState} (moment : Moment)
    (entitled : Entitled may conn.app.id (some conn.socketId) state.adapter)
    (channel : String) :
    Entitled may conn.app.id (some conn.socketId)
      (closeChannel moment conn state channel).adapter := by
  have same : (Websocket.closeChannel moment conn state channel).adapter =
      (state.core.closeChannel conn channel).adapter :=
    congrArg Core.adapter (core_closeChannel moment conn state channel)
  rw [same]
  refine entitled.transfer ?_ fun _ there =>
    ((subscribed_closeChannel state.core channel).mp there).1
  exact (keeps_withdraw fun _ _ => rfl).trans
    (LocalAdapter.keeps_removeFromChannel fun _ _ _ => rfl)

theorem grows_closeChannel (state : AppState)
    (entitled : Entitled may conn.app.id (some conn.socketId) state.adapter) :
    Grows may conn.app.id state (closeChannel moment conn state channel) := by
  simp only [closeChannel]
  refine Grows.trans ?_ (grows_leaveChannel _)
  split
  · split
    · exact grows_leavePresence state entitled
    · exact .refl state
  · exact .refl state

theorem grows_onClose (state : AppState)
    (entitled : Entitled may conn.app.id (some conn.socketId) state.adapter) :
    Grows may conn.app.id state (onClose moment state conn) := by
  simp only [onClose]
  refine Grows.trans ?_ (grows_setRateLimiter _ _)
  refine Grows.trans ?_ (grows_setAdapter _ _)
  have left := Grows.foldl
    (fun state => Entitled may conn.app.id (some conn.socketId) state.adapter)
    (fun state channel entitled => ⟨entitled.closeChannel moment channel,
      grows_closeChannel state entitled⟩)
    (moment.order.list conn.subscribedChannels) state entitled
  split
  · exact left.trans (grows_setAdapter _ _)
  · exact left

theorem Response.grows {crates : Crates} {text : String} {state after : AppState}
    (response : Response crates moment conn text state after)
    (entitled : Entitled may conn.app.id (some conn.socketId) state.adapter)
    (fits : CacheFits conn.app.id state.cache)
    (plain : ∀ frame, frame.channel = none → may conn.socketId frame)
    (own : ∀ {channel userId frame},
      ((ChannelKind.fromName channel).requiresAuth = true →
        SubscribesTo crates conn.app conn.socketId text channel userId) →
      frame.channel = some channel → may conn.socketId frame) :
    Grows may conn.app.id state after := by
  cases response with
  | ignored => exact .refl state
  | replied named => exact grows_send state (plain _ named)
  | joined _ _ _ _ authorised =>
      exact grows_joinChannel state _ (fits.replays fun _ named => own authorised named)
        fun _ named => own authorised named
  | joinedPresence _ _ _ _ authorised =>
      refine grows_joinPresence state entitled ?_ plain ?_
      · exact fits.replays fun _ named => own (fun _ => authorised) named
      · exact fun _ named => own (fun _ => authorised) named
  | unsubscribed => exact grows_leave state entitled
  | signedIn =>
      simp only [Signin.accept]
      refine Grows.trans ?_ (grows_send _ (plain _ rfl))
      refine Grows.trans ?_ (grows_setAdapter _ _)
      exact grows_quiet state _ fun stored => rfl
  | refused named =>
      exact Grows.trans (grows_setRateLimiter state _) (grows_send _ (plain _ named))
  | forwarded =>
      simp only [ClientEvent.forward]
      have counted : Grows may conn.app.id state
          (ClientEvent.counted moment state conn) := grows_setRateLimiter state _
      exact Grows.trans (counted.trans (grows_notify _ _ _))
        (grows_sendToChannel entitled (fun _ different => different) rfl)

end

/-! The requests and the rest. -/

section

variable {may : String → ServerMessage → Prop} {moment : Moment} {appId : String}

theorem grows_setCache (state : AppState) {channel : String} {frame : ServerMessage}
    (named : frame.channel = some channel) (ttlSecs : Nat) :
    Grows may appId state (state.setCache (state.cache.set moment.now
      (cacheKey appId channel) frame ttlSecs)) where
  apps := rfl
  cached fits := by
    intro key entry stored
    change Finmap.lookup key (state.cache.store.insert _ _) = some entry at stored
    rw [Table.lookup_put] at stored
    split at stored
    · rename_i same
      cases stored
      exact ⟨channel, same, named⟩
    · exact fits key entry stored
  frames socketId := ⟨[], by simp [framesTo, AppState.setCache], fun _ member =>
    nomatch member⟩

theorem grows_publish (app : App) (name data : String) (socketId : Option String)
    (state : AppState) (channel : String)
    (entitled : Entitled may appId none state.adapter) :
    Grows may appId state
      (Http.publish moment app appId name data socketId state channel) := by
  simp only [Http.publish]
  refine Grows.trans ?_ (grows_sendToChannel ?_
    (fun _ _ => Option.some_ne_none _) rfl)
  · refine Grows.ite ?_ (.refl state)
    exact grows_setCache state rfl _
  · split
    · exact entitled
    · exact entitled

theorem adapter_publish (app : App) (name data : String) (socketId : Option String)
    (state : AppState) (channel : String) :
    (Http.publish moment app appId name data socketId state channel).adapter =
      state.adapter :=
  congrArg Core.adapter (core_publish moment app appId name data socketId state channel)

theorem grows_publishAll (app : App) (request : TriggerRequest) (state : AppState)
    (channels : List String) (entitled : Entitled may appId none state.adapter) :
    Grows may appId state
      (Http.publishAll moment app appId request state channels) := by
  refine Grows.foldl (fun state => Entitled may appId none state.adapter) ?_ channels
    state entitled
  intro state channel entitled
  rw [adapter_publish]
  exact ⟨entitled, grows_publish app _ _ _ state channel entitled⟩

theorem grows_publishBatch (app : App) (state : AppState) (batch : List BatchEvent)
    (entitled : Entitled may appId none state.adapter) :
    Grows may appId state (Http.publishBatch moment app appId state batch) := by
  refine Grows.foldl (fun state => Entitled may appId none state.adapter) ?_ batch
    state entitled
  intro state event entitled
  rw [adapter_publish]
  exact ⟨entitled, grows_publish app _ _ _ state event.channel entitled⟩

theorem authorise_cases (crates : Crates) (moment : Moment) (state : AppState)
    (appId : String) (route : Http.Route) (params : Http.Params) (body : List UInt8) :
    ∃ limiter outcome, Http.authorise crates moment state appId route params body =
      (state.setRateLimiter limiter, outcome) := by
  unfold Http.authorise
  split
  · exact ⟨state.rateLimiter, _, rfl⟩
  · split
    · exact ⟨state.rateLimiter, _, rfl⟩
    · exact ⟨_, _, rfl⟩

theorem trigger_unknown (crates : Crates) {state : AppState} (params : Http.Params)
    (body : List UInt8) (unknown : state.appManager.findById appId = none) :
    (Http.trigger crates moment state appId params body).1 = state := by
  rw [Http.trigger, Http.authorise, unknown]

theorem triggerBatch_unknown (crates : Crates) {state : AppState}
    (params : Http.Params) (body : List UInt8)
    (unknown : state.appManager.findById appId = none) :
    (Http.triggerBatch crates moment state appId params body).1 = state := by
  rw [Http.triggerBatch, Http.authorise, unknown]

theorem grows_trigger (crates : Crates) (state : AppState) (params : Http.Params)
    (body : List UInt8) (entitled : Entitled may appId none state.adapter) :
    Grows may appId state
      (Http.trigger crates moment state appId params body).1 := by
  unfold Http.trigger
  obtain ⟨limiter, outcome, shape⟩ := authorise_cases crates moment state
    appId .events params body
  have admitted : Grows may appId state (state.setRateLimiter limiter) :=
    grows_setRateLimiter state limiter
  rw [shape]
  cases outcome with
  | error refused => exact admitted
  | ok app =>
      dsimp only
      split
      · exact admitted
      · split
        · exact admitted
        · exact admitted.trans (grows_publishAll app _ _ _ entitled)

theorem grows_triggerBatch (crates : Crates) (state : AppState) (params : Http.Params)
    (body : List UInt8) (entitled : Entitled may appId none state.adapter) :
    Grows may appId state
      (Http.triggerBatch crates moment state appId params body).1 := by
  unfold Http.triggerBatch
  obtain ⟨limiter, outcome, shape⟩ := authorise_cases crates moment state
    appId .batchEvents params body
  have admitted : Grows may appId state (state.setRateLimiter limiter) :=
    grows_setRateLimiter state limiter
  rw [shape]
  cases outcome with
  | error refused => exact admitted
  | ok app =>
      dsimp only
      split
      · exact admitted
      · split
        · exact admitted
        · exact admitted.trans (grows_publishBatch app _ _ entitled)

theorem grows_terminate (crates : Crates) (state : AppState) (app userId : String)
    (params : Http.Params)
    (plain : ∀ socketId frame, frame.channel = none → may socketId frame) :
    Grows may appId state
      (Http.terminate crates moment state app userId params).1 := by
  have terminated : Grows may appId state
      (state.terminateUserConnections moment app userId) := by
    refine Grows.foldl (fun _ => True) (fun state handle _ => ⟨trivial, ?_⟩) _ state
      trivial
    refine grows_changeConn state handle.socketId fun stored => ?_
    obtain ⟨new, appended, only⟩ := enqueued_trySend stored.tx
      (.error "Connection terminated by server" (some 4009))
    exact ⟨new, appended, fun frame member =>
      plain _ _ (by rw [only frame member]; rfl)⟩
  unfold Http.terminate
  split
  · exact .refl state
  · split
    · exact .refl state
    · dsimp only
      split
      · exact .refl state
      · exact terminated

theorem grows_take (state : AppState) (socketId : String) :
    Grows may appId state (state.take socketId) := by
  refine grows_quiet state socketId fun conn => ?_
  cases taken : conn.tx.recv with
  | none => rfl
  | some received =>
      simp only [Outbound.recv, Option.map_eq_some_iff] at taken
      obtain ⟨frame, _, rfl⟩ := taken
      rfl

theorem grows_accept (state : AppState) {key socketId : String}
    (absent : state.connections.lookup socketId = none) :
    Grows may appId state (state.accept key socketId) := by
  unfold AppState.accept
  split
  · exact .refl state
  · split
    · exact .refl state
    · dsimp only
      split
      · refine ⟨rfl, id, fun other => ⟨[], ?_, fun _ member => nomatch member⟩⟩
        unfold framesTo
        rw [Table.lookup_put]
        split
        · rename_i same
          rw [same, absent]
          rfl
        · rw [List.append_nil]
          rfl
      · exact grows_setAdapter state _

end

end RushSocket.Server
