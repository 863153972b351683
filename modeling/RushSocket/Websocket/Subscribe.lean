import RushSocket.Auth
import RushSocket.State

namespace RushSocket.Websocket

open Adapter Data Protocol

/-- The data of a message: an object, or the text of one. -/
def extractData (crates : Crates) (msg : ClientMessage) : Option Value :=
  if msg.data.isObject then some msg.data
  else (msg.data.asStr.bind crates.readValue).filter Value.isObject

def stringField (data : Value) (name : String) : Option String :=
  (data.get? name).bind Value.asStr

/-- An id is a string or an integer. -/
def idField (data : Value) (name : String) : Option String :=
  (data.get? name).bind fun id => id.asStr.or (id.asI64.map toString)

namespace Subscribe

/-- The last cached event of a cache channel, or the news that there is none. -/
def replayCache (moment : Moment) (state : AppState) (conn : WsConnection)
    (channel : String) : AppState :=
  if !conn.app.enableCacheChannels then state
  else
    match state.cache.get moment.now (cacheKey conn.app.id channel) with
    | some cached => state.send conn.socketId cached
    | none =>
        (state.send conn.socketId (.cacheMiss channel)).notify conn.app.id
          (.cacheMiss channel)

def replayIfCache (moment : Moment) (state : AppState) (conn : WsConnection)
    (channel : String) : AppState :=
  if (ChannelKind.fromName channel).isCache then
    replayCache moment state conn channel
  else state

/-- The common end of the public and the private branch; only the private one
marks the connection as authenticated. -/
def joinChannel (moment : Moment) (state : AppState) (conn : WsConnection)
    (channel : String) (authenticated : Bool) : AppState :=
  let (adapter, occupied) :=
    state.adapter.addToChannel conn.app.id conn.socketId channel
  let joined := (state.setAdapter adapter).changeConn conn.socketId fun stored =>
    if authenticated then (stored.addChannel channel).authenticate
    else stored.addChannel channel
  let succeeded := joined.send conn.socketId (.subscriptionSucceeded channel)
  let reported :=
    if LocalAdapter.isChannelGloballyOccupied occupied then
      succeeded.notify conn.app.id (.channelOccupied channel)
    else succeeded
  let counted := reported.sendSubscriptionCount conn.app.id channel
    conn.app.enableSubscriptionCountWebhook
  replayIfCache moment counted conn channel

def announce (moment : Moment) (state : AppState) (conn : WsConnection)
    (channel userId : String) (userInfo : Value) : AppState :=
  (state.sendToChannel moment conn.app.id channel
      (.memberAdded channel userId userInfo) (some conn.socketId)).notify
    conn.app.id (.memberAdded channel userId)

/-- The presence branch from the limit check on. -/
def joinPresence (moment : Moment) (state : AppState) (conn : WsConnection)
    (channel userId : String) (userInfo : Value) : AppState :=
  let (added, outcome) := state.adapter.tryAddPresenceMember conn.app.id channel
    conn.socketId userId userInfo conn.app.maxPresenceMembersPerChannel
  match outcome with
  | .error () =>
      (state.setAdapter added).send conn.socketId
        (.error "Over presence member limit" (some 4009))
  | .ok (isNewMember, members) =>
      let (adapter, occupied) :=
        added.addToChannel conn.app.id conn.socketId channel
      let joined := (state.setAdapter adapter).changeConn conn.socketId fun stored =>
        ((stored.addChannel channel).setPresence channel userId userInfo).authenticate
      let reported :=
        if occupied then joined.notify conn.app.id (.channelOccupied channel)
        else joined
      let succeeded := reported.send conn.socketId
        (.presenceSubscriptionSucceeded channel (moment.order.list members.keys)
          (Value.ofJson (.object (memberFields moment.order members))).json
          members.size)
      let announced :=
        if isNewMember then announce moment succeeded conn channel userId userInfo
        else succeeded
      replayIfCache moment announced conn channel

def refuse (state : AppState) (conn : WsConnection) (message : String) : AppState :=
  state.send conn.socketId (.error message (some 4009))

def subscribePrivate (crates : Crates) (moment : Moment) (state : AppState)
    (conn : WsConnection) (channel : String) (data : Value) : AppState :=
  match stringField data "auth" with
  | none => refuse state conn "Authorization required"
  | some auth =>
      if !Auth.verifyChannelAuth crates.sign conn.app.key conn.app.secret
          conn.socketId channel none auth then
        refuse state conn "Authorization failed"
      else joinChannel moment state conn channel true

def subscribePresence (crates : Crates) (moment : Moment) (state : AppState)
    (conn : WsConnection) (channel : String) (data : Value) : AppState :=
  match stringField data "auth" with
  | none => refuse state conn "Authorization required"
  | some auth =>
  match stringField data "channel_data" with
  | none => refuse state conn "Presence channel requires channel_data"
  | some channelDataText =>
      if !Auth.verifyChannelAuth crates.sign conn.app.key conn.app.secret
          conn.socketId channel (some channelDataText) auth then
        refuse state conn "Authorization failed"
      else
        match crates.readValue channelDataText with
        | none => refuse state conn "Invalid channel_data JSON"
        | some channelData =>
        match idField channelData "user_id" with
        | none => refuse state conn "channel_data must contain user_id"
        | some userId =>
            if channelData.json.print.utf8ByteSize >
                kilobytes conn.app.maxPresenceMemberSizeInKb then
              refuse state conn "Member data too large"
            else
              joinPresence moment state conn channel userId
                ((channelData.get? "user_info").getD (.ofJson (.object [])))

def handle (crates : Crates) (moment : Moment) (state : AppState)
    (conn : WsConnection) (msg : ClientMessage) : AppState :=
  match extractData crates msg with
  | none => refuse state conn "Invalid data"
  | some data =>
  match stringField data "channel" with
  | none => refuse state conn "No channel provided"
  | some channel =>
      if !isValidChannelName channel ||
          channel.utf8ByteSize > conn.app.maxChannelNameLength then
        refuse state conn "Invalid channel name"
      else if conn.isSubscribed channel then state
      else
        match ChannelKind.fromName channel with
        | .public | .cachePublic => joinChannel moment state conn channel false
        | .private | .encryptedPrivate | .cachePrivate | .cacheEncryptedPrivate =>
            subscribePrivate crates moment state conn channel data
        | .presence | .cachePresence =>
            subscribePresence crates moment state conn channel data

end Subscribe

end RushSocket.Websocket
