import RushSocket.Websocket.Events

namespace RushSocket.Websocket

open Adapter Data Protocol

/-! The messages and the end of a connection. -/

def onMessage (crates : Crates) (moment : Moment) (state : AppState)
    (conn : WsConnection) (text : String) : AppState :=
  match crates.readMessage text with
  | none => state.send conn.socketId (.error "Invalid JSON" (some 4009))
  | some msg =>
      if msg.event = "pusher:ping" then state.send conn.socketId .pong
      else if msg.event = "pusher:subscribe" then
        Subscribe.handle crates moment state conn msg
      else if msg.event = "pusher:unsubscribe" then
        Unsubscribe.handle crates moment state conn msg
      else if msg.event = "pusher:signin" then Signin.handle crates state conn msg
      else if Text.startsWith msg.event "client-" then
        ClientEvent.handle moment state conn msg
      else
        state.send conn.socketId
          (.error ("Unknown event: " ++ msg.event) (some 4009))

/-- One channel of a connection that closes. -/
def closeChannel (moment : Moment) (conn : WsConnection) (state : AppState)
    (channel : String) : AppState :=
  let withdrawn :=
    if (ChannelKind.fromName channel).isPresence then
      match conn.getPresence channel with
      | some (userId, _) => leavePresence moment state conn channel userId
      | none => state
    else state
  leaveChannel withdrawn conn channel

def onClose (moment : Moment) (state : AppState) (conn : WsConnection) : AppState :=
  let left := (moment.order.list conn.subscribedChannels).foldl
    (closeChannel moment conn) state
  let forgotten :=
    match conn.user with
    | some user =>
        left.setAdapter (left.adapter.removeUser conn.app.id user.id conn.socketId)
    | none => left
  let removed := forgotten.setAdapter
    (forgotten.adapter.removeSocket moment.order conn.app.id conn.socketId).1
  removed.setRateLimiter (removed.rateLimiter.removeSocket conn.socketId)

end RushSocket.Websocket
