import RushSocket.Http.Events
import RushSocket.Websocket.Lifecycle

namespace RushSocket.Server

open Adapter Data Protocol Websocket

/-! What the handlers do to memberships and identities.  A step of the node is
seen through its core: the adapter, the part of each connection that says where
it is subscribed and who it is, and the sockets that have a rate limiter. -/

structure View where
  socketId : String
  app : App
  channels : Finset String
  presence : Table String (String × Value)
  userId : Option String

structure Core where
  adapter : LocalAdapter
  view : String → Option View
  clientLimiters : Finset String

namespace Core

def setAdapter (core : Core) (adapter : LocalAdapter) : Core := { core with adapter }

def setLimiters (core : Core) (clientLimiters : Finset String) : Core :=
  { core with clientLimiters }

def change (core : Core) (socketId : String) (alter : View → View) : Core :=
  { core with
    view := fun other =>
      if other = socketId then (core.view other).map alter else core.view other }

theorem change_id (core : Core) (socketId : String) : core.change socketId id = core := by
  have same : (fun other =>
      if other = socketId then (core.view other).map id else core.view other) =
      core.view := by
    funext other
    split
    · exact Option.map_id_apply
    · rfl
  rw [change, same]

theorem change_change (core : Core) (socketId : String) (first second : View → View) :
    (core.change socketId first).change socketId second =
      core.change socketId (second ∘ first) := by
  simp only [change, mk.injEq, true_and, and_true]
  funext other
  by_cases same : other = socketId
  · simp only [if_pos same, Option.map_map]
  · simp only [if_neg same]

def join (core : Core) (appId socketId channel : String) : Core :=
  (core.setAdapter (core.adapter.addToChannel appId socketId channel).1).change
    socketId fun view => { view with channels := insert channel view.channels }

def tryPresence (core : Core) (appId socketId channel userId : String)
    (userInfo : Value) (maxMembers : Nat) : Core :=
  core.setAdapter (core.adapter.tryAddPresenceMember appId channel socketId userId
    userInfo maxMembers).1

def notePresence (core : Core) (socketId channel userId : String) (userInfo : Value) :
    Core :=
  core.change socketId fun view =>
    { view with presence := view.presence.insert channel (userId, userInfo) }

/-- A socket joins as a user; a join that the limit refuses leaves only what
`tryPresence` leaves. -/
def joinPresence (core : Core) (app : App) (socketId channel userId : String)
    (userInfo : Value) : Core :=
  let tried := core.tryPresence app.id socketId channel userId userInfo
    app.maxPresenceMembersPerChannel
  if (core.adapter.tryAddPresenceMember app.id channel socketId userId userInfo
      app.maxPresenceMembersPerChannel).2.isOk then
    (tried.join app.id socketId channel).notePresence socketId channel userId userInfo
  else tried

section

variable {core : Core} {app : App} {socketId channel userId : String}
  {userInfo : Value}

theorem joinPresence_of_ok
    (accepted : (core.adapter.tryAddPresenceMember app.id channel socketId userId
      userInfo app.maxPresenceMembersPerChannel).2.isOk = true) :
    core.joinPresence app socketId channel userId userInfo =
      ((core.tryPresence app.id socketId channel userId userInfo
        app.maxPresenceMembersPerChannel).join app.id socketId channel).notePresence
          socketId channel userId userInfo :=
  if_pos accepted

theorem joinPresence_of_error
    (refused : (core.adapter.tryAddPresenceMember app.id channel socketId userId
      userInfo app.maxPresenceMembersPerChannel).2.isOk = false) :
    core.joinPresence app socketId channel userId userInfo =
      core.tryPresence app.id socketId channel userId userInfo
        app.maxPresenceMembersPerChannel :=
  if_neg (by rw [refused]; exact Bool.false_ne_true)

end

def dropPresence (core : Core) (appId socketId channel userId : String) : Core :=
  core.setAdapter
    (core.adapter.removePresenceMember appId channel socketId userId).1

def forgetPresence (core : Core) (socketId channel : String) : Core :=
  core.change socketId fun view =>
    { view with presence := view.presence.erase channel }

/-- A socket gives up its place in the channel of the adapter. -/
def leave (core : Core) (appId socketId channel : String) : Core :=
  core.setAdapter (core.adapter.removeFromChannel appId socketId channel).1

def forgetChannel (core : Core) (socketId channel : String) : Core :=
  core.change socketId fun view =>
    { view with channels := view.channels.erase channel }

def signIn (core : Core) (appId socketId userId : String) : Core :=
  (core.change socketId fun view => { view with userId := some userId }).setAdapter
    (core.adapter.addUser appId userId socketId)

end Core

end RushSocket.Server

namespace RushSocket.Websocket.WsConnection

def view (conn : WsConnection) : Server.View where
  socketId := conn.socketId
  app := conn.app
  channels := conn.subscribedChannels
  presence := conn.presence
  userId := conn.user.map UserInfo.id

@[simp] theorem view_sendRaw (conn : WsConnection) (frame : Protocol.ServerMessage) :
    (conn.sendRaw frame).view = conn.view := by
  unfold sendRaw
  split <;> rfl

@[simp] theorem view_terminate (conn : WsConnection)
    (frame : Protocol.ServerMessage) : (conn.terminate frame).view = conn.view := rfl

end RushSocket.Websocket.WsConnection

namespace RushSocket.AppState

open Adapter Data Protocol Server Websocket

def core (state : AppState) : Core where
  adapter := state.adapter
  view socketId := (state.connections.lookup socketId).map WsConnection.view
  clientLimiters := state.rateLimiter.clientLimiters

@[simp] theorem core_setAdapter (state : AppState) (adapter : LocalAdapter) :
    (state.setAdapter adapter).core = state.core.setAdapter adapter := rfl

@[simp] theorem core_setRateLimiter (state : AppState)
    (rateLimiter : LocalRateLimiter) :
    (state.setRateLimiter rateLimiter).core =
      state.core.setLimiters rateLimiter.clientLimiters := rfl

@[simp] theorem core_setCache (state : AppState) (cache : MemoryCache) :
    (state.setCache cache).core = state.core := rfl

@[simp] theorem core_notify (state : AppState) (appId : String)
    (event : WebhookEvent) : (state.notify appId event).core = state.core := rfl

theorem core_changeConn (state : AppState) (socketId : String)
    {change : WsConnection → WsConnection} (alter : View → View)
    (seen : ∀ conn, (change conn).view = alter conn.view) :
    (state.changeConn socketId change).core = state.core.change socketId alter := by
  have views : (fun other =>
      ((state.connections.modify socketId change).lookup other).map
        WsConnection.view) =
      fun other => if other = socketId then (state.core.view other).map alter
        else state.core.view other := by
    funext other
    rw [Table.lookup_modify]
    by_cases same : other = socketId
    · subst same
      simp only [if_pos, core]
      cases state.connections.lookup other with
      | none => rfl
      | some conn => exact congrArg some (seen conn)
    · rw [if_neg same, if_neg same]
      rfl
  rw [core, changeConn, views]
  rfl

@[simp] theorem core_send (state : AppState) (socketId : String)
    (frame : ServerMessage) : (state.send socketId frame).core = state.core := by
  rw [send, core_changeConn state socketId id
    (fun conn => conn.view_sendRaw frame), Core.change_id]

@[simp] theorem core_sendAll (state : AppState) (recipients : List ConnHandle)
    (frame : ServerMessage) : (state.sendAll recipients frame).core = state.core := by
  induction recipients generalizing state with
  | nil => rfl
  | cons conn rest induction =>
      exact (induction (state.send conn.socketId frame)).trans
        (core_send state conn.socketId frame)

@[simp] theorem core_sendToChannel (moment : Moment) (state : AppState)
    (appId channel : String) (frame : ServerMessage) (exceptingId : Option String) :
    (state.sendToChannel moment appId channel frame exceptingId).core = state.core :=
  core_sendAll state _ frame

@[simp] theorem core_sendSubscriptionCount (state : AppState)
    (appId channel : String) (enabled : Bool) :
    (state.sendSubscriptionCount appId channel enabled).core = state.core := by
  unfold sendSubscriptionCount
  split
  · rfl
  · split <;> rfl

@[simp] theorem core_terminateUserConnections (moment : Moment) (state : AppState)
    (appId userId : String) :
    (state.terminateUserConnections moment appId userId).core = state.core := by
  unfold terminateUserConnections
  generalize state.adapter.getSocketsForUser moment.order appId userId = handles
  induction handles generalizing state with
  | nil => rfl
  | cons handle rest induction =>
      rw [List.foldl_cons, induction, core_changeConn state handle.socketId id
        (fun conn => conn.view_terminate _), Core.change_id]

end RushSocket.AppState
