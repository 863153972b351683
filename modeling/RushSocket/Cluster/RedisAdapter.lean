import RushSocket.Adapter.Redis.Commands
import RushSocket.Server.System
import Mathlib.Algebra.BigOperators.Group.Finset.Basic

namespace RushSocket

open Adapter Adapter.Redis Data Protocol Websocket

/-- Nodes that share a Redis server.  The adapter of a node is the local part
of its Redis adapter. -/
structure Cluster where
  nodes : Table String AppState
  presence : Hashes String
  presenceSockets : Hashes Int
  occupied : Table String String

namespace Cluster

def start (configs : Table String (List App)) (cacheTtl : Nat) : Cluster where
  nodes := configs.mapValues fun apps => .new apps cacheTtl
  presence := ∅
  presenceSockets := ∅
  occupied := ∅

section

variable (cluster : Cluster) (node : String)

def change (alter : AppState → AppState) : Cluster :=
  { cluster with nodes := cluster.nodes.modify node alter }

def setAdapter (adapter : LocalAdapter) : Cluster :=
  cluster.change node fun state => state.setAdapter adapter

def changeConn (socketId : String) (alter : WsConnection → WsConnection) : Cluster :=
  cluster.change node fun state => state.changeConn socketId alter

def send (socketId : String) (frame : ServerMessage) : Cluster :=
  cluster.change node fun state => state.send socketId frame

def notify (appId : String) (event : WebhookEvent) : Cluster :=
  cluster.change node fun state => state.notify appId event

def setPresence (presence : Hashes String) : Cluster := { cluster with presence }

def setPresenceSockets (presenceSockets : Hashes Int) : Cluster :=
  { cluster with presenceSockets }

def setOccupied (occupied : Table String String) : Cluster := { cluster with occupied }

def adapterOf : LocalAdapter :=
  ((cluster.nodes.lookup node).map AppState.adapter).getD .new

def connOf (socketId : String) : Option WsConnection :=
  (cluster.nodes.lookup node).bind fun state => state.connections.lookup socketId

def sendToChannel (moment : Moment) (appId channel : String) (frame : ServerMessage)
    (exceptingId : Option String) : Cluster :=
  { cluster with
    nodes := cluster.nodes.mapValues fun state =>
      state.sendToChannel moment appId channel frame exceptingId }

/-- The sum of the answers of all peers. -/
def remoteSocketCount (appId channel : String) : Nat :=
  ∑ peer ∈ cluster.nodes.keys.erase node,
    (cluster.adapterOf peer).getChannelSocketCount appId channel

end

/-! The operations that need more than the local adapter. -/

def readInfo (crates : Crates) (text : String) : Value :=
  (crates.readValue text).getD (.ofJson .null)

section

variable (crates : Crates) (keyPrefix : String) (cluster : Cluster)
  (node appId channel : String)

def overLimit (userId : String) (maxMembers : Nat) : Bool :=
  !cluster.presence.hexists (presenceKey keyPrefix appId channel) userId &&
    cluster.presence.hlen (presenceKey keyPrefix appId channel) ≥ maxMembers

def countMember (userId : String) (userInfo : Value) : Cluster × Bool :=
  let (sockets, count) := cluster.presenceSockets.hincrby
    (presenceSocketsKey keyPrefix appId channel) userId 1
  let counted := cluster.setPresenceSockets sockets
  if count = 1 then
    (counted.setPresence (cluster.presence.hset (presenceKey keyPrefix appId channel)
      userId userInfo.json.print), true)
  else (counted, false)

def getPresenceMembers : Table String Value :=
  (cluster.presence.fields (presenceKey keyPrefix appId channel)).mapValues
    (readInfo crates)

def tryAddPresenceMember (socketId userId : String) (userInfo : Value)
    (maxMembers : Nat) : Cluster × Except Unit (Bool × Table String Value) :=
  if cluster.overLimit keyPrefix appId channel userId maxMembers then
    (cluster, .error ())
  else
    let added := cluster.setAdapter node ((cluster.adapterOf node).addPresenceMember
      appId channel socketId userId userInfo).1
    let (stored, isNew) := added.countMember keyPrefix appId channel userId userInfo
    (stored, .ok (isNew, stored.getPresenceMembers crates keyPrefix appId channel))

/-- A user without sockets leaves both hashes, and the last user takes the keys
along. -/
def forgetMember (userId : String) : Cluster :=
  let key := presenceKey keyPrefix appId channel
  let socketsKey := presenceSocketsKey keyPrefix appId channel
  let forgotten := (cluster.setPresence (cluster.presence.hdel key userId)).setPresenceSockets
    (cluster.presenceSockets.hdel socketsKey userId)
  if forgotten.presence.hlen key = 0 then
    (forgotten.setPresence (forgotten.presence.del key)).setPresenceSockets
      (forgotten.presenceSockets.del socketsKey)
  else forgotten

def removePresenceMember (socketId userId : String) : Cluster × Bool :=
  let removed := cluster.setAdapter node ((cluster.adapterOf node).removePresenceMember
    appId channel socketId userId).1
  let (sockets, count) := removed.presenceSockets.hincrby
    (presenceSocketsKey keyPrefix appId channel) userId (-1)
  let counted := removed.setPresenceSockets sockets
  if count ≤ 0 then (counted.forgetMember keyPrefix appId channel userId, true)
  else (counted, false)

/-- The first node that claims the key of the channel occupies it. -/
def isChannelGloballyOccupied (locallyOccupied : Bool) : Cluster × Bool :=
  if !locallyOccupied then (cluster, false)
  else
    match cluster.occupied.lookup (occupancyKey keyPrefix appId channel) with
    | some _ => (cluster, false)
    | none => (cluster.setOccupied
        (cluster.occupied.insert (occupancyKey keyPrefix appId channel) node), true)

def isChannelGloballyVacated (locallyVacated : Bool) : Cluster × Bool :=
  if !locallyVacated then (cluster, false)
  else if (cluster.adapterOf node).getChannelSocketCount appId channel > 0 then
    (cluster, false)
  else if cluster.remoteSocketCount node appId channel > 0 then (cluster, false)
  else (cluster.setOccupied
    (cluster.occupied.erase (occupancyKey keyPrefix appId channel)), true)

/-- Not sent for presence channels.  The sockets of the other nodes are as many
as their latest heartbeats report. -/
def sendSubscriptionCount (reported : String → Nat) (enabled : Bool) : Cluster :=
  if !enabled then cluster
  else if (ChannelKind.fromName channel).isPresence then cluster
  else cluster.notify node appId (.ofSubscriptionCount channel
    ((cluster.adapterOf node).getChannelSocketCount appId channel + reported channel))

end

end Cluster

end RushSocket
