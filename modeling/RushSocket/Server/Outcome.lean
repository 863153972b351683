import RushSocket.Server.Core
import RushSocket.Server.Response

namespace RushSocket.Server

open Adapter Data Protocol Websocket

/-! What each handler does to the core. -/

section

variable (moment : Moment) (state : AppState) (conn : WsConnection)
  (channel : String)

@[simp] theorem core_replayIfCache :
    (Subscribe.replayIfCache moment state conn channel).core = state.core := by
  unfold Subscribe.replayIfCache Subscribe.replayCache
  split
  · split
    · rfl
    · split <;> simp
  · rfl

@[simp] theorem core_announce (userId : String) (userInfo : Value) :
    (Subscribe.announce moment state conn channel userId userInfo).core =
      state.core := by
  simp [Subscribe.announce]

theorem core_joinChannel (authenticated : Bool) :
    (Subscribe.joinChannel moment state conn channel authenticated).core =
      state.core.join conn.app.id conn.socketId channel := by
  have joined : ∀ adapter, ((state.setAdapter adapter).changeConn conn.socketId
      fun stored => if authenticated then (stored.addChannel channel).authenticate
        else stored.addChannel channel).core =
      (state.core.setAdapter adapter).change conn.socketId fun view =>
        { view with channels := insert channel view.channels } := by
    intro adapter
    rw [AppState.core_changeConn, AppState.core_setAdapter]
    intro stored
    split <;> rfl
  simp only [Subscribe.joinChannel, core_replayIfCache,
    AppState.core_sendSubscriptionCount]
  split
  · simp only [AppState.core_notify, AppState.core_send, joined]
    rfl
  · simp only [AppState.core_send, joined]
    rfl

theorem core_joinPresence (userId : String) (userInfo : Value) :
    (Subscribe.joinPresence moment state conn channel userId userInfo).core =
      state.core.joinPresence conn.app conn.socketId channel userId userInfo := by
  have joined : ∀ adapter, ((state.setAdapter adapter).changeConn conn.socketId
      fun stored => ((stored.addChannel channel).setPresence channel userId
        userInfo).authenticate).core =
      ((state.core.setAdapter adapter).change conn.socketId fun view =>
        { view with channels := insert channel view.channels }).notePresence
          conn.socketId channel userId userInfo := by
    intro adapter
    rw [AppState.core_changeConn, AppState.core_setAdapter, Core.notePresence,
      Core.change_change]
    exact fun stored => rfl
  simp only [Subscribe.joinPresence]
  cases outcome : (state.adapter.tryAddPresenceMember conn.app.id channel
      conn.socketId userId userInfo conn.app.maxPresenceMembersPerChannel).2 with
  | error refused =>
      simp only [AppState.core_send, AppState.core_setAdapter]
      refine (Core.joinPresence_of_error ?_).symm
      exact congrArg Except.isOk outcome
  | ok returned =>
      obtain ⟨isNewMember, members⟩ := returned
      have accepted : (state.core.adapter.tryAddPresenceMember conn.app.id channel
          conn.socketId userId userInfo
          conn.app.maxPresenceMembersPerChannel).2.isOk = true :=
        congrArg Except.isOk outcome
      rw [Core.joinPresence_of_ok accepted]
      simp only [core_replayIfCache]
      have announced : ∀ before : AppState, (if isNewMember then
          Subscribe.announce moment before conn channel userId userInfo
          else before).core = before.core := by
        intro before
        split
        · exact core_announce moment before conn channel userId userInfo
        · rfl
      rw [announced, AppState.core_send]
      split
      · rw [AppState.core_notify, joined]
        rfl
      · rw [joined]
        rfl

theorem core_leavePresence (userId : String) :
    (leavePresence moment state conn channel userId).core =
      state.core.dropPresence conn.app.id conn.socketId channel userId := by
  simp only [leavePresence]
  split
  · simp only [AppState.core_notify, AppState.core_sendToChannel,
      AppState.core_setAdapter]
    rfl
  · simp only [AppState.core_setAdapter]
    rfl

theorem core_leaveChannel :
    (leaveChannel state conn channel).core =
      state.core.leave conn.app.id conn.socketId channel := by
  simp only [leaveChannel, AppState.core_sendSubscriptionCount]
  split
  · simp only [AppState.core_notify, AppState.core_setAdapter]
    rfl
  · simp only [AppState.core_setAdapter]
    rfl

end

/-- What leaving a channel does first, to the presence data. -/
def Core.withdraw (core : Core) (conn : WsConnection) (channel : String) : Core :=
  if (ChannelKind.fromName channel).isPresence then
    match conn.getPresence channel with
    | some (userId, _) =>
        core.dropPresence conn.app.id conn.socketId channel userId
    | none => core
  else core

def Core.forget (core : Core) (conn : WsConnection) (channel : String) : Core :=
  if (ChannelKind.fromName channel).isPresence ∧ (conn.getPresence channel).isSome then
    core.forgetPresence conn.socketId channel
  else core

def Core.unsubscribe (core : Core) (conn : WsConnection) (channel : String) : Core :=
  (((core.forget conn channel).withdraw conn channel).forgetChannel conn.socketId
    channel).leave conn.app.id conn.socketId channel

section

variable (moment : Moment) (state : AppState) (conn : WsConnection)
  (msg : ClientMessage)

theorem core_withdraw (channel : String) :
    (Unsubscribe.withdraw moment state conn channel).core =
      (state.core.forget conn channel).withdraw conn channel := by
  have forgotten : (state.changeConn conn.socketId fun stored =>
      stored.removePresence channel).core =
      state.core.forgetPresence conn.socketId channel :=
    AppState.core_changeConn state conn.socketId _ fun stored => rfl
  unfold Unsubscribe.withdraw Core.withdraw Core.forget
  cases (ChannelKind.fromName channel).isPresence with
  | false => simp
  | true =>
      cases conn.getPresence channel with
      | none => simp
      | some member => simp [core_leavePresence, forgotten]

theorem core_leave (channel : String) :
    (Unsubscribe.leave moment state conn channel).core =
      state.core.unsubscribe conn channel := by
  rw [Unsubscribe.leave, core_leaveChannel, AppState.core_changeConn _ _
    (fun view => { view with channels := view.channels.erase channel })
    (fun stored => rfl), core_withdraw]
  rfl

theorem core_accept (userId userDataText : String) (userData : Value) :
    (Signin.accept state conn userId userDataText userData).core =
      state.core.signIn conn.app.id conn.socketId userId := by
  simp only [Signin.accept, AppState.core_send, AppState.core_setAdapter]
  rw [AppState.core_changeConn state conn.socketId
    (fun view => { view with userId := some userId }) (fun stored => rfl)]
  rfl

theorem core_forward (channel : String) :
    (ClientEvent.forward moment state conn channel msg).core = state.core := by
  simp [ClientEvent.forward]

end

/-- What a message of a connection does to the core. -/
inductive Outcome (crates : Crates) (conn : WsConnection) (text : String)
    (core : Core) : Core → Prop where
  | kept (silent : Silent crates conn text) : Outcome crates conn text core core
  | limited {limiters : Finset String} (silent : Silent crates conn text)
      (extends_ : ∀ socketId ∈ limiters,
        socketId = conn.socketId ∨ socketId ∈ core.clientLimiters) :
      Outcome crates conn text core (core.setLimiters limiters)
  | joined {channel : String}
      (silent : Silent crates conn text) (left : ¬ Leaves crates text channel)
      (fresh : channel ∉ conn.subscribedChannels)
      (plain : (ChannelKind.fromName channel).isPresence = false)
      (authorised : (ChannelKind.fromName channel).requiresAuth = true →
        SubscribesTo crates conn.app conn.socketId text channel none) :
      Outcome crates conn text core (core.join conn.app.id conn.socketId channel)
  | joinedPresence {channel userId : String} {userInfo : Value}
      (silent : Silent crates conn text) (left : ¬ Leaves crates text channel)
      (fresh : channel ∉ conn.subscribedChannels)
      (presence : (ChannelKind.fromName channel).isPresence = true)
      (authorised :
        SubscribesTo crates conn.app conn.socketId text channel (some userId)) :
      Outcome crates conn text core
        (core.joinPresence conn.app conn.socketId channel userId userInfo)
  | unsubscribed {channel : String}
      (unsigned : ∀ userId, ¬ SignsInAs crates conn.app conn.socketId text userId)
      (leaves : ∀ other, Leaves crates text other ↔ other = channel)
      (member : channel ∈ conn.subscribedChannels) :
      Outcome crates conn text core (core.unsubscribe conn channel)
  | signedIn {userId : String}
      (signsIn : SignsInAs crates conn.app conn.socketId text userId)
      (left : ∀ channel, ¬ Leaves crates text channel) :
      Outcome crates conn text core (core.signIn conn.app.id conn.socketId userId)

theorem Response.outcome {crates : Crates} {moment : Moment} {conn : WsConnection}
    {text : String} {state after : AppState}
    (response : Response crates moment conn text state after) :
    Outcome crates conn text state.core after.core := by
  have limited : ∀ socketId ∈ (ClientEvent.counted moment state
      conn).core.clientLimiters,
      socketId = conn.socketId ∨ socketId ∈ state.core.clientLimiters := by
    intro socketId member
    simp only [ClientEvent.counted, AppState.core_setRateLimiter, Core.setLimiters,
      LocalRateLimiter.checkClientEvent, LocalRateLimiter.getOrCreate] at member
    split at member
    · exact .inr member
    · exact Finset.mem_insert.mp member
  cases response with
  | ignored silent => exact .kept silent
  | replied plain silent =>
      rw [AppState.core_send]
      exact .kept silent
  | joined silent left fresh plain authorised =>
      rw [core_joinChannel]
      exact .joined silent left fresh plain authorised
  | joinedPresence silent left fresh presence authorised =>
      rw [core_joinPresence]
      exact .joinedPresence silent left fresh presence authorised
  | unsubscribed unsigned leaves member =>
      rw [core_leave]
      exact .unsubscribed unsigned leaves member
  | signedIn signsIn left =>
      rw [core_accept]
      exact .signedIn signsIn left
  | refused plain silent =>
      rw [AppState.core_send]
      exact .limited silent limited
  | forwarded silent member =>
      rw [core_forward]
      exact .limited silent limited

/-! The end of a connection. -/

def Core.closeChannel (conn : WsConnection) (core : Core) (channel : String) : Core :=
  (core.withdraw conn channel).leave conn.app.id conn.socketId channel

def Core.closeChannels (conn : WsConnection) (core : Core) (channels : List String) :
    Core :=
  channels.foldl (Core.closeChannel conn) core

def Core.forgetUser (core : Core) (conn : WsConnection) : Core :=
  match conn.user with
  | some user =>
      core.setAdapter (core.adapter.removeUser conn.app.id user.id conn.socketId)
  | none => core

def Core.close (core : Core) (order : HashOrder) (conn : WsConnection) : Core :=
  let forgotten := (core.closeChannels conn
    (order.list conn.subscribedChannels)).forgetUser conn
  (forgotten.setAdapter
    (forgotten.adapter.removeSocket order conn.app.id conn.socketId).1).setLimiters
      (forgotten.clientLimiters.erase conn.socketId)

theorem core_closeChannel (moment : Moment) (conn : WsConnection) (state : AppState)
    (channel : String) :
    (closeChannel moment conn state channel).core =
      state.core.closeChannel conn channel := by
  unfold closeChannel Core.closeChannel Core.withdraw
  rw [core_leaveChannel]
  cases (ChannelKind.fromName channel).isPresence with
  | false => rfl
  | true =>
      cases conn.getPresence channel with
      | none => rfl
      | some member =>
          have left := core_leavePresence moment state conn channel member.1
          exact congrArg
            (fun core => Core.leave core conn.app.id conn.socketId channel) left

theorem core_closeChannels (moment : Moment) (conn : WsConnection) (state : AppState)
    (channels : List String) :
    (channels.foldl (closeChannel moment conn) state).core =
      state.core.closeChannels conn channels := by
  induction channels generalizing state with
  | nil => rfl
  | cons channel rest induction =>
      rw [List.foldl_cons, induction, core_closeChannel]
      rfl

theorem core_onClose (moment : Moment) (state : AppState) (conn : WsConnection) :
    (onClose moment state conn).core = state.core.close moment.order conn := by
  simp only [onClose, Core.close, Core.forgetUser,
    ← core_closeChannels moment conn state]
  cases conn.user with
  | none => rfl
  | some user => rfl

/-! The requests over HTTP touch no core. -/

theorem core_publish (moment : Moment) (app : App) (appId name data : String)
    (socketId : Option String) (state : AppState) (channel : String) :
    (Http.publish moment app appId name data socketId state channel).core =
      state.core := by
  simp only [Http.publish, AppState.core_sendToChannel]
  split
  · exact AppState.core_setCache state _
  · rfl

theorem core_publishAll (moment : Moment) (app : App) (appId : String)
    (request : TriggerRequest) (state : AppState) (channels : List String) :
    (Http.publishAll moment app appId request state channels).core = state.core := by
  unfold Http.publishAll
  induction channels generalizing state with
  | nil => rfl
  | cons channel rest induction => rw [List.foldl_cons, induction, core_publish]

theorem core_publishBatch (moment : Moment) (app : App) (appId : String)
    (state : AppState) (batch : List BatchEvent) :
    (Http.publishBatch moment app appId state batch).core = state.core := by
  unfold Http.publishBatch
  induction batch generalizing state with
  | nil => rfl
  | cons event rest induction => rw [List.foldl_cons, induction, core_publish]

theorem core_authorise (crates : Crates) (moment : Moment) (state : AppState)
    (appId : String) (route : Http.Route) (params : Http.Params)
    (body : List UInt8) :
    (Http.authorise crates moment state appId route params body).1.core = state.core := by
  unfold Http.authorise
  split
  · rfl
  · split
    · rfl
    · rfl

theorem core_trigger (crates : Crates) (moment : Moment) (state : AppState)
    (appId : String) (params : Http.Params) (body : List UInt8) :
    (Http.trigger crates moment state appId params body).1.core = state.core := by
  have admitted := core_authorise crates moment state appId .events params body
  unfold Http.trigger
  split
  · rename_i shape
    rw [← admitted, shape]
  · rename_i shape
    rw [shape] at admitted
    split
    · exact admitted
    · split
      · exact admitted
      · exact (core_publishAll moment _ appId _ _ _).trans admitted

theorem core_triggerBatch (crates : Crates) (moment : Moment) (state : AppState)
    (appId : String) (params : Http.Params) (body : List UInt8) :
    (Http.triggerBatch crates moment state appId params body).1.core =
      state.core := by
  have admitted := core_authorise crates moment state appId .batchEvents params body
  unfold Http.triggerBatch
  split
  · rename_i shape
    rw [← admitted, shape]
  · rename_i shape
    rw [shape] at admitted
    split
    · exact admitted
    · split
      · exact admitted
      · exact (core_publishBatch moment _ appId _ _).trans admitted

theorem core_terminate (crates : Crates) (moment : Moment) (state : AppState)
    (appId userId : String) (params : Http.Params) :
    (Http.terminate crates moment state appId userId params).1.core = state.core := by
  unfold Http.terminate
  split
  · rfl
  · split
    · rfl
    · simp only
      split
      · rfl
      · exact AppState.core_terminateUserConnections moment state appId userId

end RushSocket.Server
