import RushSocket.Cluster.RedisAdapter

namespace RushSocket.Cluster

open Adapter Adapter.Redis Data Protocol Transition Websocket

/-! The handlers of a node with the Redis adapter. -/

section

variable (crates : Crates) (keyPrefix : String) (moment : Moment)
  (reported : String → Nat) (cluster : Cluster) (node : String)
  (conn : WsConnection)

def replayIfCache (channel : String) : Cluster :=
  cluster.change node fun state => Subscribe.replayIfCache moment state conn channel

def joinChannel (channel : String) (authenticated : Bool) : Cluster :=
  let (adapter, occupied) :=
    (cluster.adapterOf node).addToChannel conn.app.id conn.socketId channel
  let joined := (cluster.setAdapter node adapter).changeConn node conn.socketId
    fun stored =>
      if authenticated then (stored.addChannel channel).authenticate
      else stored.addChannel channel
  let succeeded := joined.send node conn.socketId (.subscriptionSucceeded channel)
  let (claimed, globally) :=
    succeeded.isChannelGloballyOccupied keyPrefix node conn.app.id channel occupied
  let told :=
    if globally then claimed.notify node conn.app.id (.channelOccupied channel)
    else claimed
  let counted := told.sendSubscriptionCount node conn.app.id channel reported
    conn.app.enableSubscriptionCountWebhook
  counted.replayIfCache moment node conn channel

def announce (channel userId : String) (userInfo : Value) : Cluster :=
  (cluster.sendToChannel moment conn.app.id channel
      (.memberAdded channel userId userInfo) (some conn.socketId)).notify node
    conn.app.id (.memberAdded channel userId)

/-- The presence branch from the limit check on.  Whether the channel has become
occupied is what the node itself finds. -/
def joinPresence (channel userId : String) (userInfo : Value) : Cluster :=
  let (tried, outcome) := cluster.tryAddPresenceMember crates keyPrefix node
    conn.app.id channel conn.socketId userId userInfo
    conn.app.maxPresenceMembersPerChannel
  match outcome with
  | .error () =>
      tried.send node conn.socketId
        (.error "Over presence member limit" (some 4009))
  | .ok (isNewMember, members) =>
      let (adapter, occupied) :=
        (tried.adapterOf node).addToChannel conn.app.id conn.socketId channel
      let joined := (tried.setAdapter node adapter).changeConn node conn.socketId
        fun stored =>
          ((stored.addChannel channel).setPresence channel userId
            userInfo).authenticate
      let told :=
        if occupied then joined.notify node conn.app.id (.channelOccupied channel)
        else joined
      let succeeded := told.send node conn.socketId
        (.presenceSubscriptionSucceeded channel (moment.order.list members.keys)
          (Value.ofJson (.object (memberFields moment.order members))).json
          members.size)
      let announced :=
        if isNewMember then succeeded.announce moment node conn channel userId userInfo
        else succeeded
      announced.replayIfCache moment node conn channel

def refuse (message : String) : Cluster :=
  cluster.change node fun state => Subscribe.refuse state conn message

def subscribePrivate (channel : String) (data : Value) : Cluster :=
  match stringField data "auth" with
  | none => cluster.refuse node conn "Authorization required"
  | some auth =>
      if !Auth.verifyChannelAuth crates.sign conn.app.key conn.app.secret
          conn.socketId channel none auth then
        cluster.refuse node conn "Authorization failed"
      else cluster.joinChannel keyPrefix moment reported node conn channel true

def subscribePresence (channel : String) (data : Value) : Cluster :=
  match stringField data "auth" with
  | none => cluster.refuse node conn "Authorization required"
  | some auth =>
  match stringField data "channel_data" with
  | none => cluster.refuse node conn "Presence channel requires channel_data"
  | some channelDataText =>
      if !Auth.verifyChannelAuth crates.sign conn.app.key conn.app.secret
          conn.socketId channel (some channelDataText) auth then
        cluster.refuse node conn "Authorization failed"
      else
        match crates.readValue channelDataText with
        | none => cluster.refuse node conn "Invalid channel_data JSON"
        | some channelData =>
        match idField channelData "user_id" with
        | none => cluster.refuse node conn "channel_data must contain user_id"
        | some userId =>
            if channelData.json.print.utf8ByteSize >
                kilobytes conn.app.maxPresenceMemberSizeInKb then
              cluster.refuse node conn "Member data too large"
            else
              cluster.joinPresence crates keyPrefix moment node conn channel userId
                ((channelData.get? "user_info").getD (.ofJson (.object [])))

def subscribe (msg : ClientMessage) : Cluster :=
  match extractData crates msg with
  | none => cluster.refuse node conn "Invalid data"
  | some data =>
  match stringField data "channel" with
  | none => cluster.refuse node conn "No channel provided"
  | some channel =>
      if !isValidChannelName channel ||
          channel.utf8ByteSize > conn.app.maxChannelNameLength then
        cluster.refuse node conn "Invalid channel name"
      else if conn.isSubscribed channel then cluster
      else
        match ChannelKind.fromName channel with
        | .public | .cachePublic =>
            cluster.joinChannel keyPrefix moment reported node conn channel false
        | .private | .encryptedPrivate | .cachePrivate | .cacheEncryptedPrivate =>
            cluster.subscribePrivate crates keyPrefix moment reported node conn
              channel data
        | .presence | .cachePresence =>
            cluster.subscribePresence crates keyPrefix moment node conn channel data

def leavePresence (channel userId : String) : Cluster :=
  let (removed, userGone) := cluster.removePresenceMember keyPrefix node conn.app.id
    channel conn.socketId userId
  if userGone then
    (removed.sendToChannel moment conn.app.id channel (.memberRemoved channel userId)
      (some conn.socketId)).notify node conn.app.id (.memberRemoved channel userId)
  else removed

def leaveChannel (channel : String) : Cluster :=
  let (adapter, vacated) :=
    (cluster.adapterOf node).removeFromChannel conn.app.id conn.socketId channel
  let (checked, globally) :=
    (cluster.setAdapter node adapter).isChannelGloballyVacated keyPrefix node
      conn.app.id channel vacated
  let told :=
    if globally then checked.notify node conn.app.id (.channelVacated channel)
    else checked
  told.sendSubscriptionCount node conn.app.id channel reported
    conn.app.enableSubscriptionCountWebhook

def withdraw (channel : String) : Cluster :=
  if (ChannelKind.fromName channel).isPresence then
    match conn.getPresence channel with
    | some (userId, _) =>
        (cluster.changeConn node conn.socketId fun stored =>
          stored.removePresence channel).leavePresence keyPrefix moment node conn
            channel userId
    | none => cluster
  else cluster

def unsubscribe (msg : ClientMessage) : Cluster :=
  match extractData crates msg with
  | none => cluster
  | some data =>
  match stringField data "channel" with
  | none => cluster
  | some channel =>
      if !conn.isSubscribed channel then cluster
      else
        ((cluster.withdraw keyPrefix moment node conn channel).changeConn node
          conn.socketId fun stored => stored.removeChannel channel).leaveChannel
            keyPrefix reported node conn channel

/-- One channel of a connection that closes. -/
def closeChannel (channel : String) : Cluster :=
  let withdrawn :=
    if (ChannelKind.fromName channel).isPresence then
      match conn.getPresence channel with
      | some (userId, _) =>
          cluster.leavePresence keyPrefix moment node conn channel userId
      | none => cluster
    else cluster
  withdrawn.leaveChannel keyPrefix reported node conn channel

def closeChannels (channels : List String) : Cluster :=
  channels.foldl (fun left channel =>
    left.closeChannel keyPrefix moment reported node conn channel) cluster

def forgetConn (state : AppState) : AppState :=
  let forgotten :=
    match conn.user with
    | some user =>
        state.setAdapter (state.adapter.removeUser conn.app.id user.id conn.socketId)
    | none => state
  let removed := forgotten.setAdapter
    (forgotten.adapter.removeSocket moment.order conn.app.id conn.socketId).1
  removed.setRateLimiter (removed.rateLimiter.removeSocket conn.socketId)

def close : Cluster :=
  (cluster.closeChannels keyPrefix moment reported node conn
    (moment.order.list conn.subscribedChannels)).change node (forgetConn moment conn)

end

/-! The nodes handle one thing after another.  A handler finds its moment and
what the heartbeats of the other nodes report. -/

inductive Action where
  | accept (node key socketId : String)
  | subscribe (node socketId : String) (msg : ClientMessage) (moment : Moment)
      (reported : String → Nat)
  | unsubscribe (node socketId : String) (msg : ClientMessage) (moment : Moment)
      (reported : String → Nat)
  | close (node socketId : String) (moment : Moment) (reported : String → Nat)

/-- A node gives a socket id to one connection at a time, and a connection that
has been closed is gone. -/
def step (crates : Crates) (keyPrefix : String) (cluster : Cluster) :
    Action → Option Cluster
  | .accept node key socketId =>
      if node ∈ cluster.nodes ∧ cluster.connOf node socketId = none then
        some (cluster.change node fun state => state.accept key socketId)
      else none
  | .subscribe node socketId msg moment reported =>
      (cluster.connOf node socketId).map fun conn =>
        cluster.subscribe crates keyPrefix moment reported node conn msg
  | .unsubscribe node socketId msg moment reported =>
      (cluster.connOf node socketId).map fun conn =>
        cluster.unsubscribe crates keyPrefix moment reported node conn msg
  | .close node socketId moment reported =>
      (cluster.connOf node socketId).map fun conn =>
        (cluster.close keyPrefix moment reported node conn).change node
          fun state => state.drop socketId

def system (crates : Crates) (keyPrefix : String) (configs : Table String (List App))
    (cacheTtl : Nat) : System Cluster Action where
  start := start configs cacheTtl
  step := step crates keyPrefix

end RushSocket.Cluster
