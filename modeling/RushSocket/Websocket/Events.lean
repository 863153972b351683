import RushSocket.Websocket.Subscribe

namespace RushSocket.Websocket

open Adapter Data Protocol

/-! Leaving a channel, for an unsubscribe and for a connection that closes. -/

/-- Take the socket out of the presence data and tell the others when its user
is gone. -/
def leavePresence (moment : Moment) (state : AppState) (conn : WsConnection)
    (channel userId : String) : AppState :=
  let (adapter, userGone) := state.adapter.removePresenceMember conn.app.id channel
    conn.socketId userId
  let removed := state.setAdapter adapter
  if userGone then
    (removed.sendToChannel moment conn.app.id channel (.memberRemoved channel userId)
      (some conn.socketId)).notify conn.app.id (.memberRemoved channel userId)
  else removed

def leaveChannel (state : AppState) (conn : WsConnection) (channel : String) :
    AppState :=
  let (adapter, vacated) :=
    state.adapter.removeFromChannel conn.app.id conn.socketId channel
  let removed := state.setAdapter adapter
  let reported :=
    if LocalAdapter.isChannelGloballyVacated vacated then
      removed.notify conn.app.id (.channelVacated channel)
    else removed
  reported.sendSubscriptionCount conn.app.id channel
    conn.app.enableSubscriptionCountWebhook

namespace Unsubscribe

def withdraw (moment : Moment) (state : AppState) (conn : WsConnection)
    (channel : String) : AppState :=
  if (ChannelKind.fromName channel).isPresence then
    match conn.getPresence channel with
    | some (userId, _) =>
        leavePresence moment
          (state.changeConn conn.socketId fun stored => stored.removePresence channel)
          conn channel userId
    | none => state
  else state

def leave (moment : Moment) (state : AppState) (conn : WsConnection)
    (channel : String) : AppState :=
  leaveChannel ((withdraw moment state conn channel).changeConn conn.socketId
    fun stored => stored.removeChannel channel) conn channel

def handle (crates : Crates) (moment : Moment) (state : AppState)
    (conn : WsConnection) (msg : ClientMessage) : AppState :=
  match extractData crates msg with
  | none => state
  | some data =>
  match stringField data "channel" with
  | none => state
  | some channel =>
      if !conn.isSubscribed channel then state
      else leave moment state conn channel

end Unsubscribe

namespace Signin

def refuse (state : AppState) (conn : WsConnection) (message : String) : AppState :=
  state.send conn.socketId (.error message (some 4009))

def accept (state : AppState) (conn : WsConnection) (userId userDataText : String)
    (userData : Value) : AppState :=
  let marked := state.changeConn conn.socketId fun stored =>
    (stored.setUser { id := userId, userData }).authenticate
  let tracked :=
    marked.setAdapter (marked.adapter.addUser conn.app.id userId conn.socketId)
  tracked.send conn.socketId (.signinSuccess userDataText)

def handle (crates : Crates) (state : AppState) (conn : WsConnection)
    (msg : ClientMessage) : AppState :=
  if !conn.app.enableUserAuthentication then
    refuse state conn "User authentication is not enabled"
  else
  match extractData crates msg with
  | none => refuse state conn "Invalid signin data"
  | some data =>
  match stringField data "auth" with
  | none => refuse state conn "No auth provided"
  | some auth =>
  match stringField data "user_data" with
  | none => refuse state conn "No user_data provided"
  | some userDataText =>
      if !Auth.verifySigninAuth crates.sign conn.app.key conn.app.secret
          conn.socketId userDataText auth then
        refuse state conn "Signin authentication failed"
      else
        match crates.readValue userDataText with
        | none => refuse state conn "Invalid user_data JSON"
        | some userData =>
        match idField userData "id" with
        | none => refuse state conn "user_data must contain id"
        | some userId => accept state conn userId userDataText userData

end Signin

namespace ClientEvent

/-- The size of a value as JSON text, escapes not counted. -/
def estimateJsonSize : Json → Nat
  | .null => 4
  | .bool true => 4
  | .bool false => 5
  | .number number => number.print.length
  | .string value => value.utf8ByteSize + 2
  | .array items => 2 + estimateItems items + (items.length - 1)
  | .object fields => 2 + estimateFields fields + (fields.length - 1)
where
  estimateItems : List Json → Nat
    | [] => 0
    | item :: rest => estimateJsonSize item + estimateItems rest
  estimateFields : List (String × Json) → Nat
    | [] => 0
    | (key, value) :: rest =>
        key.utf8ByteSize + 2 + 1 + estimateJsonSize value + estimateFields rest

def refuse (state : AppState) (conn : WsConnection) (message : String)
    (code : UInt16) : AppState :=
  state.send conn.socketId (.error message (some code))

def counted (moment : Moment) (state : AppState) (conn : WsConnection) : AppState :=
  state.setRateLimiter (state.rateLimiter.checkClientEvent conn.socketId
    conn.app.maxClientEventsPerSec moment.withinRate).1

def isMembersOnly (conn : WsConnection) : Bool :=
  conn.app.clientEventMode = "members"

/-- Forward the event to the others; the user id is that of the sender. -/
def forward (moment : Moment) (state : AppState) (conn : WsConnection)
    (channel : String) (msg : ClientMessage) : AppState :=
  let userId := (conn.getPresence channel).map Prod.fst
  (state.notify conn.app.id
    (.clientEvent channel msg.event msg.data conn.socketId userId)).sendToChannel
    moment conn.app.id channel (.channelEvent msg.event channel msg.data userId)
    (some conn.socketId)

/-- The checks after the one of the rate. -/
def checkAndForward (moment : Moment) (state : AppState) (conn : WsConnection)
    (channel : String) (msg : ClientMessage) : AppState :=
  if !Text.startsWith msg.event "client-" then
    refuse state conn "Client event must start with 'client-'" 4009
  else if msg.event.utf8ByteSize > conn.app.maxEventNameLength then
    refuse state conn "Event name too long" 4009
  else if estimateJsonSize msg.data.json > kilobytes conn.app.maxEventPayloadInKb then
    refuse state conn "Event payload too large" 4009
  else forward moment state conn channel msg

def handle (moment : Moment) (state : AppState) (conn : WsConnection)
    (msg : ClientMessage) : AppState :=
  if conn.app.clientEventMode = "none" then
    refuse state conn "Client events are not enabled for this app" 4301
  else
  match msg.channel with
  | none => refuse state conn "No channel provided" 4009
  | some channel =>
      if !conn.isSubscribed channel then
        refuse state conn "Not subscribed to channel" 4009
      else if isMembersOnly conn && (!(ChannelKind.fromName channel).isPresence ||
          (conn.getPresence channel).isNone) then
        refuse state conn "Client events require presence channel membership" 4301
      else
        let checked := counted moment state conn
        if !(state.rateLimiter.checkClientEvent conn.socketId
            conn.app.maxClientEventsPerSec moment.withinRate).2 then
          refuse checked conn "Rate limit exceeded" 4301
        else checkAndForward moment checked conn channel msg

end ClientEvent

end RushSocket.Websocket
