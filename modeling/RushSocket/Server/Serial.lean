import RushSocket.Server.System
import RushSocket.Websocket.Delivery

namespace RushSocket

open Adapter Data Protocol Websocket

/-! What the state of the server has of one app, where the handlers of that app
are modelled step by step. -/

namespace Websocket.WsConnection

variable {Frame : Type}

/-- The connection with the messages that its frames stand for. -/
def withMessages (message : Frame → ServerMessage) (conn : WsConnection Frame) :
    WsConnection where
  socketId := conn.socketId
  app := conn.app
  tx := ⟨conn.tx.enqueued.map message, conn.tx.taken⟩
  subscribedChannels := conn.subscribedChannels
  presence := conn.presence
  user := conn.user
  userAuthenticated := conn.userAuthenticated
  forceClose := conn.forceClose

variable (message : Frame → ServerMessage) (conn : WsConnection Frame)

@[simp] theorem withMessages_socketId :
    (conn.withMessages message).socketId = conn.socketId := rfl

@[simp] theorem withMessages_app :
    (conn.withMessages message).app = conn.app := rfl

@[simp] theorem withMessages_getPresence (channel : String) :
    (conn.withMessages message).getPresence channel = conn.getPresence channel := rfl

theorem withMessages_sendRaw (frame : Frame) :
    (conn.sendRaw frame).withMessages message =
      (conn.withMessages message).sendRaw (message frame) := by
  unfold sendRaw Outbound.trySend
  by_cases room : conn.tx.enqueued.length - conn.tx.taken < Outbound.capacity
  · simp [withMessages, room]
  · simp [withMessages, room]

theorem same_sendRaw (frame : Frame) :
    (conn.sendRaw frame).socketId = conn.socketId ∧
      (conn.sendRaw frame).app = conn.app := by
  unfold sendRaw
  split <;> exact ⟨rfl, rfl⟩

end Websocket.WsConnection

def AppState.acceptAll (state : AppState) (key : String) (socketIds : List String) :
    AppState :=
  socketIds.foldl (fun state socketId => state.accept key socketId) state

namespace Server

/-- What the state has of the app and of the cache: this namespace, these
connections with the messages that their frames stand for, and this cache. -/
structure Shows {Frame : Type} (message : Frame → ServerMessage) (app : App)
    (ns : Namespace) (connections : Connections String Frame) (cache : MemoryCache)
    (state : AppState) : Prop where
  stored : state.adapter.ns app.id = ns
  each : ∀ socketId conn, connections.lookup socketId = some conn →
    conn.socketId = socketId ∧ conn.app = app ∧
      state.connections.lookup socketId = some (conn.withMessages message)
  cached : state.cache = cache

namespace Shows

variable {Frame : Type} {message : Frame → ServerMessage} {app : App}
  {ns changedNs : Namespace} {connections : Connections String Frame}
  {cache : MemoryCache} {state : AppState}

theorem changeConn (shows : Shows message app ns connections cache state)
    (socketId : String) {change : WsConnection Frame → WsConnection Frame}
    {changed : WsConnection → WsConnection}
    (alike : ∀ conn, connections.lookup socketId = some conn →
      (change conn).socketId = conn.socketId ∧ (change conn).app = conn.app ∧
        (change conn).withMessages message = changed (conn.withMessages message)) :
    Shows message app ns (connections.modify socketId change) cache
      (state.changeConn socketId changed) := by
  refine ⟨shows.stored, ?_, shows.cached⟩
  intro other conn found
  rw [Table.lookup_modify] at found
  rw [AppState.changeConn, Table.lookup_modify]
  split at found
  · rename_i equal
    obtain ⟨before, known, rfl⟩ := Option.map_eq_some_iff.mp found
    obtain ⟨own, ofApp, stored⟩ := shows.each socketId before known
    obtain ⟨sameId, sameApp, messages⟩ := alike before known
    rw [if_pos equal, stored, Option.map_some, messages, sameId, sameApp]
    exact ⟨own.trans equal.symm, ofApp, rfl⟩
  · rename_i different
    rw [if_neg different]
    exact shows.each other conn found

theorem send (shows : Shows message app ns connections cache state)
    (socketId : String) (frame : Frame) :
    Shows message app ns (connections.send socketId frame) cache
      (state.send socketId (message frame)) := by
  refine shows.changeConn socketId ?_
  intro conn _
  obtain ⟨sameId, sameApp⟩ := conn.same_sendRaw frame
  exact ⟨sameId, sameApp, conn.withMessages_sendRaw message frame⟩

theorem sendAll (shows : Shows message app ns connections cache state)
    (recipients : List ConnHandle) (frame : Frame) :
    Shows message app ns
      (connections.sendEach (recipients.map ConnHandle.socketId) frame) cache
      (state.sendAll recipients (message frame)) := by
  induction recipients generalizing connections state with
  | nil => exact shows
  | cons first rest induction => exact induction (shows.send first.socketId frame)

theorem sendToChannel (shows : Shows message app ns connections cache state)
    (moment : Moment) (channel : String) (frame : Frame)
    (exceptingId : Option String) :
    Shows message app ns
      (connections.sendEach ((ns.recipients (moment.recipientOrder channel) channel
        exceptingId).map ConnHandle.socketId) frame) cache
      (state.sendToChannel moment app.id channel (message frame) exceptingId) := by
  rw [AppState.sendToChannel, LocalAdapter.recipients_eq, shows.stored]
  exact shows.sendAll _ frame

theorem notify (shows : Shows message app ns connections cache state)
    (appId : String) (event : WebhookEvent) :
    Shows message app ns connections cache (state.notify appId event) :=
  ⟨shows.stored, shows.each, shows.cached⟩

theorem notify_if (shows : Shows message app ns connections cache state)
    (reports : Bool) (appId : String) (event : WebhookEvent) :
    Shows message app ns connections cache
      (if reports then state.notify appId event else state) := by
  cases reports with
  | true => exact shows.notify appId event
  | false => exact shows

theorem sendSubscriptionCount (shows : Shows message app ns connections cache state)
    (appId channel : String) (enabled : Bool) :
    Shows message app ns connections cache
      (state.sendSubscriptionCount appId channel enabled) := by
  unfold AppState.sendSubscriptionCount
  split
  · exact shows
  · split
    · exact shows
    · exact shows.notify appId _

theorem setAdapter (shows : Shows message app ns connections cache state)
    {adapter : LocalAdapter} (changed : adapter.ns app.id = changedNs) :
    Shows message app changedNs connections cache (state.setAdapter adapter) :=
  ⟨changed, shows.each, shows.cached⟩

theorem addToChannel (shows : Shows message app ns connections cache state)
    (socketId channel : String) :
    Shows message app (ns.addToChannel socketId channel).1 connections cache
      (state.setAdapter (state.adapter.addToChannel app.id socketId channel).1) := by
  refine shows.setAdapter ?_
  rw [LocalAdapter.ns_addToChannel, if_pos rfl, shows.stored]

theorem leaveChannel (shows : Shows message app ns connections cache state)
    {conn : WsConnection} (ofApp : conn.app = app) (channel : String) :
    Shows message app (ns.removeFromChannel conn.socketId channel).1 connections cache
      (Websocket.leaveChannel state conn channel) := by
  have removed : (state.adapter.removeFromChannel app.id conn.socketId channel).1.ns
      app.id = (ns.removeFromChannel conn.socketId channel).1 := by
    rw [(LocalAdapter.ns_removeFromChannel _ _ _ _ _).1, if_pos rfl, shows.stored]
  rw [Websocket.leaveChannel, ofApp]
  exact Shows.sendSubscriptionCount (Shows.notify_if (shows.setAdapter removed) _ _ _)
    _ _ _

theorem removeSocket (shows : Shows message app ns connections cache state)
    (order : HashOrder) (socketId : String) :
    Shows message app (ns.removeSocket order socketId).1 connections cache
      ((state.setAdapter (state.adapter.removeSocket order app.id
        socketId).1).setRateLimiter (state.rateLimiter.removeSocket socketId)) := by
  have removed : (state.adapter.removeSocket order app.id socketId).1.ns app.id =
      (ns.removeSocket order socketId).1 := by
    rw [LocalAdapter.ns_removeSocket, if_pos rfl, shows.stored]
  exact ⟨removed, shows.each, shows.cached⟩

theorem appManager_accept (state : AppState) (key socketId : String) :
    (state.accept key socketId).appManager = state.appManager := by
  unfold AppState.accept
  split
  · rfl
  · split
    · rfl
    · simp only
      split <;> rfl

theorem accept (shows : Shows message app ns connections cache state)
    {key socketId : String} (found : state.appManager.findByKey key = some app)
    (enabled : app.enabled = true)
    (room : (ns.tryAddSocket ⟨socketId⟩ app.maxConnections).2 = true) :
    Shows message app (ns.addSocket ⟨socketId⟩)
      (connections.insert socketId (.new socketId app)) cache
      (state.accept key socketId) := by
  have added : ns.tryAddSocket ⟨socketId⟩ app.maxConnections =
      (ns.addSocket ⟨socketId⟩, true) := by
    rcases ns.tryAddSocket_cases ⟨socketId⟩ app.maxConnections with taken | full
    · exact taken
    · rw [full] at room
      cases room
  have reserved : (state.adapter.tryAddSocket app.id ⟨socketId⟩
      app.maxConnections).2 = true := by
    rw [LocalAdapter.tryAddSocket, LocalAdapter.createWith, shows.stored, added]
  have read : (state.adapter.tryAddSocket app.id ⟨socketId⟩
      app.maxConnections).1.ns app.id = ns.addSocket ⟨socketId⟩ := by
    rw [LocalAdapter.ns_tryAddSocket, if_pos rfl, shows.stored, added]
  simp only [AppState.accept, found, enabled, reserved, Bool.not_true,
    Bool.false_eq_true, if_false, if_true]
  refine ⟨read, ?_, shows.cached⟩
  intro other conn known
  rw [Table.lookup_put] at known ⊢
  split at known
  · rename_i same
    cases known
    rw [if_pos same]
    exact ⟨same.symm, rfl, rfl⟩
  · rename_i different
    rw [if_neg different]
    exact shows.each other conn known

theorem take (shows : Shows message app ns connections cache state)
    {socketId : String} {conn : WsConnection Frame}
    (found : connections.lookup socketId = some conn) {frame : Frame}
    {tx : Outbound Frame} (received : conn.tx.recv = some (frame, tx)) :
    Shows message app ns (connections.modify socketId fun stored => { stored with tx })
      cache (state.take socketId) := by
  obtain ⟨next, at_, taken⟩ := Option.map_eq_some_iff.mp received
  cases taken
  have shown : (conn.withMessages message).tx.recv = some (message frame,
      ⟨conn.tx.enqueued.map message, conn.tx.taken + 1⟩) := by
    simp [Outbound.recv, WsConnection.withMessages, at_]
  refine shows.changeConn socketId ?_
  intro stored known
  rw [found] at known
  cases known
  refine ⟨rfl, rfl, ?_⟩
  rw [shown]
  rfl

theorem new (message : Frame → ServerMessage) (app : App) (apps : List App)
    (cacheTtl : Nat) : Shows message app .new ∅ .new (.new apps cacheTtl) := by
  refine ⟨rfl, ?_, rfl⟩
  intro socketId conn found
  cases found

/-- The connections of an app that has room for all of them. -/
theorem accepted {apps : List App} {socketIds : List String} (cacheTtl : Nat)
    (listed : StaticAppManager.findByKey ⟨apps⟩ app.key = some app)
    (enabled : app.enabled = true)
    (room : app.maxConnections < 0 ∨ socketIds.length ≤ app.maxConnections.toNat) :
    Shows message app
        (socketIds.foldl (fun ns socketId => ns.addSocket ⟨socketId⟩) .new)
        (socketIds.foldl (fun connections socketId =>
          connections.insert socketId (.new socketId app)) ∅) .new
        ((AppState.new apps cacheTtl).acceptAll app.key socketIds) ∧
      (socketIds.foldl (fun ns socketId => ns.addSocket ⟨socketId⟩)
        Namespace.new).connectionCount = socketIds.length ∧
      ((AppState.new apps cacheTtl).acceptAll app.key socketIds).appManager =
        ⟨apps⟩ := by
  induction socketIds using List.reverseRecOn with
  | nil => exact ⟨.new message app apps cacheTtl, rfl, rfl⟩
  | append_singleton earlier socketId induction =>
      rw [List.length_append, List.length_singleton] at room
      obtain ⟨shows, count, manager⟩ := induction (by omega)
      simp only [AppState.acceptAll, List.foldl_append, List.foldl_cons,
        List.foldl_nil, List.length_append, List.length_singleton]
      refine ⟨shows.accept ?_ enabled ?_, ?_, ?_⟩
      · exact (congrArg (fun manager => manager.findByKey app.key) manager).trans listed
      · unfold Namespace.tryAddSocket
        split
        · rfl
        · rw [if_neg (by omega)]
      · rw [Namespace.addSocket, count]
      · exact (appManager_accept _ _ _).trans manager

end Shows

end Server

end RushSocket
