import RushSocket.Server.System

namespace RushSocket.Server

open Adapter Data Protocol Transition Websocket

/-! What an action does to the core depends on the core alone: neither on what
the outbound channels hold nor on the cache. -/

section

variable {crates : Crates} {moment : Moment} {state twin : AppState}
  {conn other : WsConnection} {text : String} {msg : ClientMessage}

theorem core_subscribe_congr (same : state.core = twin.core)
    (view : conn.view = other.view) :
    (Subscribe.handle crates moment state conn msg).core =
      (Subscribe.handle crates moment twin other msg).core := by
  simp only [WsConnection.view, View.mk.injEq] at view
  obtain ⟨socketId, app, channels, presence, _⟩ := view
  unfold Subscribe.handle Subscribe.subscribePrivate Subscribe.subscribePresence
    Subscribe.refuse WsConnection.isSubscribed
  rw [socketId, app, channels]
  repeat' split
  all_goals simp [core_joinChannel, core_joinPresence, same, socketId, app]

theorem forget_congr {core : Core} {channel : String} (view : conn.view = other.view) :
    core.forget conn channel = core.forget other channel := by
  simp only [WsConnection.view, View.mk.injEq] at view
  obtain ⟨socketId, _, _, presence, _⟩ := view
  have found : conn.getPresence channel = other.getPresence channel := by
    rw [WsConnection.getPresence, presence, WsConnection.getPresence]
  rw [Core.forget, Core.forget, found, socketId]

theorem withdraw_congr {core : Core} {channel : String}
    (view : conn.view = other.view) :
    core.withdraw conn channel = core.withdraw other channel := by
  simp only [WsConnection.view, View.mk.injEq] at view
  obtain ⟨socketId, app, _, presence, _⟩ := view
  have found : conn.getPresence channel = other.getPresence channel := by
    rw [WsConnection.getPresence, presence, WsConnection.getPresence]
  rw [Core.withdraw, Core.withdraw, found, socketId, app]

theorem unsubscribe_congr {core : Core} {channel : String}
    (view : conn.view = other.view) :
    core.unsubscribe conn channel = core.unsubscribe other channel := by
  have fields := view
  simp only [WsConnection.view, View.mk.injEq] at fields
  rw [Core.unsubscribe, Core.unsubscribe, forget_congr view, withdraw_congr view,
    fields.1, fields.2.1]

theorem forgetUser_eq (core : Core) (conn : WsConnection) :
    core.forgetUser conn =
      match conn.user.map UserInfo.id with
      | some userId =>
          core.setAdapter (core.adapter.removeUser conn.app.id userId conn.socketId)
      | none => core := by
  unfold Core.forgetUser
  cases conn.user with
  | none => rfl
  | some user => rfl

theorem close_congr {core : Core} {order : HashOrder} (view : conn.view = other.view) :
    core.close order conn = core.close order other := by
  have fields := view
  simp only [WsConnection.view, View.mk.injEq] at fields
  obtain ⟨socketId, app, channels, presence, user⟩ := fields
  have each : Core.closeChannel conn = Core.closeChannel other := by
    funext core channel
    rw [Core.closeChannel, Core.closeChannel, withdraw_congr view, socketId, app]
  have forgets : ∀ core : Core, core.forgetUser conn = core.forgetUser other := by
    intro core
    rw [forgetUser_eq, forgetUser_eq, user, socketId, app]
  rw [Core.close, Core.close, Core.closeChannels, Core.closeChannels, each, forgets,
    channels, socketId, app]

theorem core_unsubscribe_congr (same : state.core = twin.core)
    (view : conn.view = other.view) :
    (Unsubscribe.handle crates moment state conn msg).core =
      (Unsubscribe.handle crates moment twin other msg).core := by
  have fields := view
  simp only [WsConnection.view, View.mk.injEq] at fields
  unfold Unsubscribe.handle WsConnection.isSubscribed
  rw [fields.2.2.1]
  repeat' split
  all_goals simp [core_leave, unsubscribe_congr view, same]

theorem core_signin_congr (same : state.core = twin.core)
    (view : conn.view = other.view) :
    (Signin.handle crates state conn msg).core =
      (Signin.handle crates twin other msg).core := by
  simp only [WsConnection.view, View.mk.injEq] at view
  obtain ⟨socketId, app, _⟩ := view
  unfold Signin.handle Signin.refuse
  rw [socketId, app]
  repeat' split
  all_goals simp [core_accept, same, socketId, app]

theorem core_counted_congr (same : state.core = twin.core)
    (view : conn.view = other.view) :
    (ClientEvent.counted moment state conn).core =
      (ClientEvent.counted moment twin other).core := by
  simp only [WsConnection.view, View.mk.injEq] at view
  have limiters : state.rateLimiter.clientLimiters = twin.rateLimiter.clientLimiters :=
    congrArg Core.clientLimiters same
  simp [ClientEvent.counted, LocalRateLimiter.checkClientEvent, limiters, same, view.1,
    view.2.1]

theorem core_checkAndForward (state : AppState) (conn : WsConnection)
    (channel : String) :
    (ClientEvent.checkAndForward moment state conn channel msg).core = state.core := by
  unfold ClientEvent.checkAndForward ClientEvent.refuse
  repeat' split
  all_goals simp [core_forward]

theorem core_clientEvent_congr (same : state.core = twin.core)
    (view : conn.view = other.view) :
    (ClientEvent.handle moment state conn msg).core =
      (ClientEvent.handle moment twin other msg).core := by
  have counted := @core_counted_congr moment state twin conn other same view
  simp only [WsConnection.view, View.mk.injEq] at view
  obtain ⟨socketId, app, channels, presence, _⟩ := view
  unfold ClientEvent.handle ClientEvent.refuse ClientEvent.isMembersOnly
    WsConnection.isSubscribed WsConnection.getPresence
  rw [socketId, app, channels, presence]
  split
  · simp [same]
  · split
    · simp [same]
    · split
      · simp [same]
      · split
        · simp [same]
        · -- past the limiter both have seen the event
          rw [apply_ite AppState.core, apply_ite AppState.core, core_checkAndForward,
            core_checkAndForward, AppState.core_send, AppState.core_send, counted]
          rfl

theorem core_onMessage_congr (same : state.core = twin.core)
    (view : conn.view = other.view) :
    (onMessage crates moment state conn text).core =
      (onMessage crates moment twin other text).core := by
  unfold onMessage
  split
  · simp [same]
  · split
    · simp [same]
    · split
      · exact core_subscribe_congr same view
      · split
        · exact core_unsubscribe_congr same view
        · split
          · exact core_signin_congr same view
          · split
            · exact core_clientEvent_congr same view
            · simp [same]

theorem core_handshake_congr {key socketId : String} (same : state.core = twin.core)
    (apps : state.appManager = twin.appManager) :
    (state.accept key socketId).core = (twin.accept key socketId).core := by
  have adapter : state.adapter = twin.adapter := congrArg Core.adapter same
  unfold AppState.accept
  rw [apps, adapter]
  split
  · exact same
  · rename_i app found
    split
    · exact same
    · have entered := core_insert_conn state app socketId
      have enteredToo := core_insert_conn twin app socketId
      rw [adapter, same, ← enteredToo] at entered
      dsimp only
      split
      · exact entered
      · rw [AppState.core_setAdapter, AppState.core_setAdapter, same]

theorem exists_twin_conn {socketId : String} (same : state.core = twin.core)
    (found : state.connections.lookup socketId = some conn) :
    ∃ other, twin.connections.lookup socketId = some other ∧ conn.view = other.view := by
  have view : state.core.view socketId = twin.core.view socketId := by rw [same]
  simp only [AppState.core, found, Option.map_some] at view
  obtain ⟨other, stored, viewed⟩ := Option.map_eq_some_iff.mp view.symm
  exact ⟨other, stored, viewed.symm⟩

theorem step_congr {action : Action} {next : AppState} (same : state.core = twin.core)
    (apps : state.appManager = twin.appManager)
    (stepped : step crates state action = some next) :
    ∃ twinNext, step crates twin action = some twinNext ∧ next.core = twinNext.core := by
  simp only [step, Option.map_eq_some_iff] at stepped
  obtain ⟨after, performed, rfl⟩ := stepped
  have done : ∀ {twinAfter : AppState}, perform crates twin action = some twinAfter →
      (settle after action).core = (settle twinAfter action).core →
      ∃ twinNext, step crates twin action = some twinNext ∧
        (settle after action).core = twinNext.core := by
    intro twinAfter performedToo sameAfter
    exact ⟨settle twinAfter action, by rw [step, performedToo]; rfl, sameAfter⟩
  cases action with
  | accept key socketId =>
      simp only [perform] at performed
      split at performed
      · cases performed
      · rename_i absent
        cases performed
        have absentToo : socketId ∉ twin.connections := by
          intro member
          obtain ⟨conn, found⟩ := Finmap.mem_iff.mp member
          obtain ⟨other, stored, _⟩ := exists_twin_conn same.symm found
          exact absent (Finmap.mem_iff.mpr ⟨other, stored⟩)
        exact done (if_neg absentToo) (core_handshake_congr same apps)
  | message socketId text moment =>
      simp only [perform, Option.map_eq_some_iff] at performed
      obtain ⟨conn, found, rfl⟩ := performed
      obtain ⟨other, stored, view⟩ := exists_twin_conn same found
      refine done (congrArg (Option.map _) stored) ?_
      exact core_onMessage_congr same view
  | close socketId moment =>
      simp only [perform, Option.map_eq_some_iff] at performed
      obtain ⟨conn, found, rfl⟩ := performed
      obtain ⟨other, stored, view⟩ := exists_twin_conn same found
      refine done (congrArg (Option.map _) stored) ?_
      rw [settle, settle, core_drop, core_drop, core_onClose, core_onClose, same,
        close_congr view]
  | take socketId =>
      cases performed
      refine done rfl ?_
      simp only [settle, core_take, same]
  | trigger appId params body moment =>
      cases performed
      refine done rfl ?_
      simp only [settle, core_trigger, same]
  | triggerBatch appId params body moment =>
      cases performed
      refine done rfl ?_
      simp only [settle, core_triggerBatch, same]
  | terminate appId userId params moment =>
      cases performed
      refine done rfl ?_
      simp only [settle, core_terminate, same]

end

end RushSocket.Server
