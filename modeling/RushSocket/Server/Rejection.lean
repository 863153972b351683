import RushSocket.Server.Frames

namespace RushSocket.Server

open Adapter Data Protocol Transition Websocket

/-! A message that is answered with an error has changed nothing. -/

/-- Every query of the adapter is answered in the same way. -/
structure SameAnswers (before after : LocalAdapter) : Prop where
  connectionCount : ∀ appId,
    after.getConnectionCount appId = before.getConnectionCount appId
  channels : ∀ order appId, after.getChannels order appId = before.getChannels order appId
  channelInfo : ∀ appId channel,
    after.getChannelInfo appId channel = before.getChannelInfo appId channel
  channelSocketCount : ∀ appId channel,
    after.getChannelSocketCount appId channel =
      before.getChannelSocketCount appId channel
  presenceMembers : ∀ appId channel,
    after.getPresenceMembers appId channel = before.getPresenceMembers appId channel
  presenceUserCount : ∀ appId channel,
    after.getPresenceUserCount appId channel =
      before.getPresenceUserCount appId channel
  socketsForUser : ∀ order appId userId,
    after.getSocketsForUser order appId userId =
      before.getSocketsForUser order appId userId
  socket : ∀ appId socketId,
    after.getSocket appId socketId = before.getSocket appId socketId
  channelSockets : ∀ order appId channel,
    after.getChannelSockets order appId channel =
      before.getChannelSockets order appId channel

/-- All but the sender's queue, its mark to be closed and its limiter stays. -/
structure Untouched (socketId : String) (before after : AppState) : Prop where
  answers : SameAnswers before.adapter after.adapter
  sender : ∀ conn, before.connections.lookup socketId = some conn →
    ∃ left, after.connections.lookup socketId = some left ∧
      left.subscribedChannels = conn.subscribedChannels ∧
      left.presence = conn.presence ∧ left.user = conn.user ∧
      left.userAuthenticated = conn.userAuthenticated
  others : ∀ other, other ≠ socketId →
    after.connections.lookup other = before.connections.lookup other
  cache : after.cache = before.cache
  webhooks : after.webhooks = before.webhooks
  limiters : after.rateLimiter.backendLimiters = before.rateLimiter.backendLimiters ∧
    ∀ other, other ≠ socketId →
      (other ∈ after.rateLimiter.clientLimiters ↔
        other ∈ before.rateLimiter.clientLimiters)

def IsError (frame : ServerMessage) : Prop :=
  ∃ message code, frame = .error message code

/-- The last frame that the step enqueues to the socket is an error. -/
def EndsInError (socketId : String) (before after : AppState) : Prop :=
  ∃ sent frame, framesTo after socketId = framesTo before socketId ++ sent ++ [frame] ∧
    IsError frame

theorem not_isError_of_channel {frame : ServerMessage} {channel : String}
    (named : frame.channel = some channel) : ¬ IsError frame := by
  rintro ⟨message, code, rfl⟩
  cases named

theorem not_isError_signinSuccess (userData : String) :
    ¬ IsError (.signinSuccess userData) := by
  rintro ⟨message, code, same⟩
  have events := congrArg ServerMessage.event same
  simp [ServerMessage.signinSuccess, ServerMessage.error] at events

theorem Grows.not_endsInError (appId : String) {socketId : String}
    {before after : AppState}
    (grows : Grows (fun _ frame => ¬ IsError frame) appId before after) :
    ¬ EndsInError socketId before after := by
  rintro ⟨sent, frame, ends, error⟩
  obtain ⟨new, appended, plain⟩ := grows.frames socketId
  rw [appended, List.append_assoc, List.append_cancel_left_eq] at ends
  exact plain frame (by simp [ends]) error

/-! The adapter after a refused join. -/

theorem SameAnswers.refl (adapter : LocalAdapter) : SameAnswers adapter adapter where
  connectionCount _ := rfl
  channels _ _ := rfl
  channelInfo _ _ := rfl
  channelSocketCount _ _ := rfl
  presenceMembers _ _ := rfl
  presenceUserCount _ _ := rfl
  socketsForUser _ _ _ := rfl
  socket _ _ := rfl
  channelSockets _ _ _ := rfl

/-- The namespaces are the same but for the way in which the absence of members
is stored. -/
theorem SameAnswers.of_namespaces {before after : LocalAdapter}
    (same : ∀ appId, after.namespaces.lookup appId = before.namespaces.lookup appId ∨
      ∃ stored presence, before.namespaces.lookup appId = some stored ∧
        after.namespaces.lookup appId = some { stored with presence } ∧
        ∀ channel, Namespace.presenceOf { stored with presence } channel =
          stored.presenceOf channel) : SameAnswers before after where
  connectionCount appId := by
    rcases same appId with same | ⟨stored, presence, was, is_, _⟩
    · simp only [LocalAdapter.getConnectionCount, same]
    · simp only [LocalAdapter.getConnectionCount, was, is_]
      rfl
  channels order appId := by
    rcases same appId with same | ⟨stored, presence, was, is_, _⟩
    · simp only [LocalAdapter.getChannels, same]
    · simp only [LocalAdapter.getChannels, was, is_]
      rfl
  channelInfo appId channel := by
    rcases same appId with same | ⟨stored, presence, was, is_, members⟩
    · simp only [LocalAdapter.getChannelInfo, same]
    · simp only [LocalAdapter.getChannelInfo, was, is_, Namespace.getPresenceUserCount,
        members]
      rfl
  channelSocketCount appId channel := by
    rcases same appId with same | ⟨stored, presence, was, is_, _⟩
    · simp only [LocalAdapter.getChannelSocketCount, same]
    · simp only [LocalAdapter.getChannelSocketCount, was, is_]
      rfl
  presenceMembers appId channel := by
    rcases same appId with same | ⟨stored, presence, was, is_, members⟩
    · simp only [LocalAdapter.getPresenceMembers, same]
    · simp only [LocalAdapter.getPresenceMembers, was, is_,
        Namespace.getPresenceMembers, members]
  presenceUserCount appId channel := by
    rcases same appId with same | ⟨stored, presence, was, is_, members⟩
    · simp only [LocalAdapter.getPresenceUserCount, same]
    · simp only [LocalAdapter.getPresenceUserCount, was, is_,
        Namespace.getPresenceUserCount, members]
  socketsForUser order appId userId := by
    rcases same appId with same | ⟨stored, presence, was, is_, _⟩
    · simp only [LocalAdapter.getSocketsForUser, same]
    · simp only [LocalAdapter.getSocketsForUser, was, is_]
      rfl
  socket appId socketId := by
    rcases same appId with same | ⟨stored, presence, was, is_, _⟩
    · simp only [LocalAdapter.getSocket, same]
    · simp only [LocalAdapter.getSocket, was, is_]
  channelSockets order appId channel := by
    rcases same appId with same | ⟨stored, presence, was, is_, _⟩
    · simp only [LocalAdapter.getChannelSockets, same]
    · simp only [LocalAdapter.getChannelSockets, was, is_]

theorem SameAnswers.refused {adapter : LocalAdapter}
    {appId channel socketId userId : String} {userInfo : Value} {maxMembers : Nat}
    {stored : Namespace} (known : adapter.namespaces.lookup appId = some stored)
    (refused : (adapter.tryAddPresenceMember appId channel socketId userId userInfo
      maxMembers).2 = .error ()) :
    SameAnswers adapter (adapter.tryAddPresenceMember appId channel socketId userId
      userInfo maxMembers).1 := by
  apply SameAnswers.of_namespaces
  intro app
  have read : adapter.ns appId = stored := by simp [LocalAdapter.ns, known]
  simp only [LocalAdapter.tryAddPresenceMember, LocalAdapter.createWith, read]
    at refused ⊢
  rw [Table.lookup_put]
  split
  · rename_i same
    subst same
    obtain ⟨presence, outcome⟩ := stored.tryAddPresenceMember_cases channel socketId
      userId userInfo maxMembers
    dsimp only at outcome
    rcases outcome with ⟨equal, _⟩ | ⟨members, equal, _⟩
    · refine .inr ⟨stored, presence, known, by rw [equal], ?_⟩
      have shape := congrArg Prod.fst equal
      intro other
      simp only [Namespace.tryAddPresenceMember] at equal shape
      split at shape
      · rw [← shape, Namespace.presenceOf_put]
        split
        · rename_i same
          rw [same]
        · rfl
      · rename_i room
        rw [if_neg room] at equal
        cases congrArg Prod.snd equal
    · rw [equal] at refused
      cases refused
  · exact .inl rfl

/-! The errors. -/

section

variable {state : AppState} {socketId : String}

theorem Untouched.refl (socketId : String) (state : AppState) :
    Untouched socketId state state where
  answers := .refl _
  sender conn found := ⟨conn, found, rfl, rfl, rfl, rfl⟩
  others _ _ := rfl
  cache := rfl
  webhooks := rfl
  limiters := ⟨rfl, fun _ _ => Iff.rfl⟩

theorem Untouched.send {adapter : LocalAdapter} {rateLimiter : LocalRateLimiter}
    (frame : ServerMessage) (answers : SameAnswers state.adapter adapter)
    (backend : rateLimiter.backendLimiters = state.rateLimiter.backendLimiters)
    (limiters : ∀ other, other ≠ socketId →
      (other ∈ rateLimiter.clientLimiters ↔
        other ∈ state.rateLimiter.clientLimiters)) :
    Untouched socketId state
      (((state.setAdapter adapter).setRateLimiter rateLimiter).send socketId
        frame) where
  answers := answers
  sender conn found := by
    refine ⟨conn.sendRaw frame, ?_, ?_⟩
    · change Finmap.lookup socketId (state.connections.modify socketId _) = _
      rw [Table.lookup_modify, if_pos rfl, found]
      rfl
    · unfold WsConnection.sendRaw
      split <;> exact ⟨rfl, rfl, rfl, rfl⟩
  others other different := by
    change Finmap.lookup other (state.connections.modify socketId _) = _
    rw [Table.lookup_modify, if_neg different]
  cache := rfl
  webhooks := rfl
  limiters := ⟨backend, limiters⟩

theorem Untouched.reply (state : AppState) (socketId : String)
    (frame : ServerMessage) : Untouched socketId state (state.send socketId frame) :=
  .send frame (.refl state.adapter) rfl fun _ _ => Iff.rfl

end

def CacheNames (cache : MemoryCache) : Prop :=
  ∀ key entry, cache.store.lookup key = some entry →
    ∃ channel, entry.value.channel = some channel

theorem cacheNames_of_reached {crates : Crates} {apps : List App} {cacheTtl : Nat}
    {actions : List Action} {state : AppState}
    (reached : (system crates apps cacheTtl).run actions = some state) :
    CacheNames state.cache := by
  refine @System.invariant_of_every_step _ _ (system crates apps cacheTtl)
    (fun state => CacheNames state.cache) ?_ ?_ _ _ reached
  · intro key entry found
    cases found
  · intro state action next names stepped key entry found
    obtain ⟨appId, events, same⟩ := ledger_step stepped
    have cache := congrArg Ledger.cache same
    change next.cache = _ at cache
    rw [cache] at found
    rcases Ledger.lookup_store found with ⟨stored, member, _, rfl⟩ | before
    · exact ⟨stored.channel, channel_of_storedBy member⟩
    · exact names key entry before

section

variable {crates : Crates} {moment : Moment} {conn : WsConnection} {text : String}
  {state after : AppState}

theorem Response.untouched (response : Response crates moment conn text state after)
    (agree : Agree state.core) (names : CacheNames state.cache)
    (found : state.core.view conn.socketId = some conn.view)
    (rejected : EndsInError conn.socketId state after) :
    Untouched conn.socketId state after := by
  have entitled : Entitled (fun _ frame => ¬ IsError frame) conn.app.id
      (some conn.socketId) state.adapter :=
    ⟨agree.registered.handled, fun _ _ named => not_isError_of_channel named⟩
  have replays : ∀ channel, Replays (fun _ frame => ¬ IsError frame) conn channel
      state.cache := by
    intro channel now cached got
    obtain ⟨entry, stored, rfl⟩ := MemoryCache.entry_of_get got
    exact not_isError_of_channel (names _ entry stored).choose_spec
  have limited : Untouched conn.socketId state
      (ClientEvent.counted moment state conn) := by
    refine { Untouched.refl conn.socketId state with limiters := ⟨rfl, ?_⟩ }
    intro other different
    simp only [ClientEvent.counted, AppState.setRateLimiter,
      LocalRateLimiter.checkClientEvent, LocalRateLimiter.getOrCreate]
    split
    · exact Iff.rfl
    · rw [Finset.mem_insert]
      exact or_iff_right different
  cases response with
  | ignored => exact .refl _ _
  | replied => exact .reply state conn.socketId _
  | joined =>
      refine absurd rejected (Grows.not_endsInError conn.app.id ?_)
      exact grows_joinChannel state _ (replays _) fun _ => not_isError_of_channel
  | @joinedPresence channel userId userInfo =>
      cases outcome : (state.adapter.tryAddPresenceMember conn.app.id channel
          conn.socketId userId userInfo conn.app.maxPresenceMembersPerChannel).2 with
      | error refused =>
          have registered := agree.registered.registered.mpr (Core.lives_conn found)
          cases known : state.adapter.namespaces.lookup conn.app.id with
          | none =>
              have empty : state.core.adapter.ns conn.app.id = .new := by
                change state.adapter.ns conn.app.id = .new
                simp [LocalAdapter.ns, known]
              rw [empty] at registered
              exact absurd registered Finmap.notMem_empty
          | some stored =>
              simp only [Subscribe.joinPresence, outcome]
              exact Untouched.send _ (.refused known outcome) rfl fun _ _ => Iff.rfl
      | ok returned =>
          refine absurd rejected (Grows.not_endsInError conn.app.id ?_)
          exact grows_joinPresence_accepted state entitled (replays _)
            (fun _ => not_isError_of_channel) outcome
  | unsubscribed =>
      refine absurd rejected (Grows.not_endsInError conn.app.id ?_)
      exact grows_leave state entitled
  | signedIn =>
      refine absurd rejected (Grows.not_endsInError conn.app.id ?_)
      refine Grows.trans ?_ (grows_send _ (not_isError_signinSuccess _))
      refine Grows.trans ?_ (grows_setAdapter _ _)
      exact grows_quiet state _ fun stored => rfl
  | refused =>
      exact Untouched.send _ (.refl state.adapter) limited.limiters.1
        limited.limiters.2
  | forwarded =>
      refine absurd rejected (Grows.not_endsInError conn.app.id ?_)
      have counted : Grows (fun _ frame => ¬ IsError frame) conn.app.id state
          (ClientEvent.counted moment state conn) := grows_setRateLimiter state _
      exact Grows.trans (counted.trans (grows_notify _ _ _))
        (grows_sendToChannel entitled (fun _ different => different) rfl)

end

/-- In every reachable state, a message that ends with an error to its sender
leaves everything else as it was. -/
theorem rejection_changes_nothing (crates : Crates) (apps : List App)
    (cacheTtl : Nat) (actions : List Action) (state : AppState)
    (reached : (system crates apps cacheTtl).run actions = some state)
    (socketId text : String) (moment : Moment) (conn : WsConnection)
    (found : state.connections.lookup socketId = some conn)
    (rejected : EndsInError socketId state (onMessage crates moment state conn text)) :
    Untouched socketId state (onMessage crates moment state conn text) := by
  have agree := agree_of_reached reached
  obtain ⟨rfl, viewed⟩ := agree.found found
  exact (response_onMessage crates moment state conn text).untouched agree
    (cacheNames_of_reached reached) viewed rejected

theorem rejection_changes_nothing_unreadable :
    ∃ state conn, (system Sample.crates [App.sample] 60).run Sample.joining =
        some state ∧
      state.connections.lookup "1.1" = some conn ∧
      Untouched "1.1" state
        (onMessage Sample.crates Sample.moment state conn "no message") := by
  have ends : (((system Sample.crates [App.sample] 60).run Sample.joining).bind
      fun state => (state.connections.lookup "1.1").filter fun conn =>
        framesTo (onMessage Sample.crates Sample.moment state conn "no message") "1.1" =
          framesTo state "1.1" ++ [] ++
            [.error "Invalid JSON" (some 4009)]).isSome = true := by
    decide +kernel
  obtain ⟨conn, found⟩ := Option.isSome_iff_exists.mp ends
  obtain ⟨state, reached, found⟩ := Option.bind_eq_some_iff.mp found
  obtain ⟨stored, answered⟩ := Option.filter_eq_some_iff.mp found
  exact ⟨state, conn, reached, stored, rejection_changes_nothing Sample.crates
    [App.sample] 60 Sample.joining state reached "1.1" "no message" Sample.moment conn
    stored ⟨[], _, of_decide_eq_true answered, _, _, rfl⟩⟩

end RushSocket.Server
