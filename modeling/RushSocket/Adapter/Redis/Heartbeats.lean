import RushSocket.Adapter.Redis.Stats
import RushSocket.Transition.Calls

namespace RushSocket.Adapter.Redis.Heartbeats

open Data Stats Transition

/-! Nodes that write their counts to Redis again and again and read those of the
others.  A round of the heartbeat asks the local adapter piece by piece, and every
call takes its steps between those of all others. -/

/-- Instants count nanoseconds.  A string is there until it expires. -/
structure Shared where
  now : Nat
  nodes : Table String Node
  strings : Table String (String × Nat)

/-- What a read asks the local adapter and the stats of the others for. -/
inductive Query
  | getConnectionCount (appId : String)
  | getChannelSocketCount (appId channel : String)
  | getChannels (appId : String)
  deriving DecidableEq

inductive Answer
  | count (count : Nat)
  | channels (channels : List String)
  deriving DecidableEq

/-- Time passes, and the local adapter of a node changes, while the others work. -/
inductive Operation
  | pass (elapsed : Nat)
  | change (nodeId : String) (node : Node)
  | hear (nodeId senderNode : String)
  | heartbeat (nodeId : String)
  | read (nodeId : String) (query : Query)

/-- A round that is at an app, when it started and the stats of the apps before. -/
structure Round where
  started : Nat
  apps : List (String × Value)
  appId : String
  rest : List String

inductive Point
  | acting
  | appIds
  | connections (round : Round)
  | channels (round : Round) (connections : Value)
  | sockets (round : Round) (connections : Value) (counts : List (String × Value))
      (channel : String) (left : List String)
  | writing (started : Nat) (stats : Value)
  | asking
  | knowing (asked : Nat) (own : Answer)
  | fetching (asked : Nat) (own : Answer) (nodeIds : List String)

/-- The order in which a step lists a hash map or set, and whether its Redis command
fails. -/
structure Choice where
  order : HashOrder
  failing : Bool

/-- What a call returns, and when it did what. -/
inductive Returned
  | done
  | heard (moment : Nat)
  | beaten (started written : Nat) (stats : Value) (failing : Bool)
  | answered (asked moment : Nat) (replied : Bool) (answer : Answer)

abbrev State := Calls Shared Nat Operation Point Returned

abbrev Log := List (Finished Nat Operation Returned)

def statsLifetime : Nat := 15 * 1000000000

def enter : Operation → Point
  | .pass _ | .change _ _ | .hear _ _ => .acting
  | .heartbeat _ => .appIds
  | .read _ _ => .asking

/-! One round. -/

def appStats (connections : Value) (counts : List (String × Value)) : Value :=
  .object [("connections", connections), ("channels", .object counts)]

def visit (started : Nat) (apps : List (String × Value)) : List String → Point
  | [] => .writing started (.object apps)
  | appId :: rest => .connections { started, apps, appId, rest }

def tally (round : Round) (connections : Value) (counts : List (String × Value)) :
    List String → Point
  | [] => visit round.started
      (round.apps ++ [(round.appId, appStats connections counts)]) round.rest
  | channel :: left => .sockets round connections counts channel left

/-- `collect_local_stats` from one question to the local adapter to the next. -/
def collect (node : Node) (order : HashOrder) (now : Nat) : Point → Option Point
  | .appIds => some (visit now [] (node.locals.getAppIds order))
  | .connections round =>
      let count := .number (.natural _ (node.connectionsFit round.appId))
      some (.channels round count)
  | .channels round connections =>
      some (tally round connections [] (node.locals.getChannels order round.appId))
  | .sockets round connections counts channel left =>
      let count := .number (.natural _ (node.socketsFit round.appId channel))
      some (tally round connections (counts ++ [(channel, count)]) left)
  | _ => none

/-! One read. -/

/-- What the stats of a node say of an app and of a channel. -/
def reportedConnections (appId : String) (stats : Value) : Option Nat :=
  (stats.get? appId).bind fun app => (app.index "connections").asU64

def reportedSockets (appId channel : String) (stats : Value) : Option Nat :=
  (stats.get? appId).bind fun app =>
    ((app.index "channels").get? channel).bind Value.asU64

def reportedChannels (appId : String) (stats : Value) : List String :=
  ((stats.get? appId).map fun app => (app.index "channels").keys).getD []

namespace Query

def ask (order : HashOrder) (locals : LocalAdapter) : Query → Answer
  | .getConnectionCount appId => .count (locals.getConnectionCount appId)
  | .getChannelSocketCount appId channel =>
      .count (locals.getChannelSocketCount appId channel)
  | .getChannels appId => .channels (locals.getChannels order appId)

def addUp (order : HashOrder) (remoteStats : List Value) : Query → Answer → Answer
  | .getConnectionCount appId, .count localCount =>
      .count (localCount + (remoteStats.filterMap (reportedConnections appId)).sum)
  | .getChannelSocketCount appId channel, .count localCount =>
      .count (localCount + (remoteStats.filterMap (reportedSockets appId channel)).sum)
  | .getChannels appId, .channels localChannels =>
      .channels (order.list
        (localChannels ++ remoteStats.flatMap (reportedChannels appId)).toFinset)
  | _, own => own

end Query

namespace Shared

def start (nodes : Table String Node) : Shared where
  now := 0
  nodes := nodes.mapValues fun node =>
    { node with pubsub := { pending := ∅, knownNodes := ∅ } }
  strings := ∅

def setPubsub (shared : Shared) (nodeId : String) (pubsub : RedisPubSub) : Shared :=
  { shared with nodes := shared.nodes.modify nodeId fun node => { node with pubsub } }

def set (shared : Shared) (key text : String) : Shared :=
  { shared with
    strings := shared.strings.insert key (text, shared.now + statsLifetime) }

def get (shared : Shared) (key : String) : Option String :=
  (shared.strings.lookup key).bind fun (text, expires) =>
    if shared.now < expires then some text else none

/-- MGET.  A command that fails has no reply. -/
def mget (shared : Shared) (failing : Bool) (keys : List String) :
    Option (List (Option String)) :=
  if failing then none else some (keys.map shared.get)

end Shared

section

variable (readFloat : DecimalText → Option DecimalText) (keyPrefix : String)

def beat (shared : Shared) (nodeId : String) (choice : Choice) :
    Point → Option (Shared × Progress Point Returned)
  | .writing started stats =>
      some (
        if choice.failing then shared
        else shared.set (nodeStatsKey keyPrefix nodeId) stats.json.print,
        .finished (.beaten started shared.now stats choice.failing))
  | point =>
      ((shared.nodes.lookup nodeId).bind fun node =>
        collect node choice.order shared.now point).map fun next =>
          (shared, .running next)

def read (shared : Shared) (nodeId : String) (query : Query) (choice : Choice) :
    Point → Option (Shared × Progress Point Returned)
  | .asking =>
      (shared.nodes.lookup nodeId).map fun node =>
        (shared, .running (.knowing shared.now (query.ask choice.order node.locals)))
  | .knowing asked own =>
      (shared.nodes.lookup nodeId).map fun node =>
        let (pubsub, nodeIds) := node.pubsub.getKnownNodeIds choice.order shared.now
        (shared.setPubsub nodeId pubsub,
          if nodeIds = [] then
            .finished (.answered asked shared.now true (query.addUp choice.order [] own))
          else .running (.fetching asked own nodeIds))
  | .fetching asked own nodeIds =>
      let values := shared.mget choice.failing (nodeIds.map (nodeStatsKey keyPrefix))
      let remoteStats := (values.getD []).filterMap fun value =>
        value.bind (Value.ofText readFloat)
      some (shared, .finished (.answered asked shared.now values.isSome
        (query.addUp choice.order remoteStats own)))
  | _ => none

/-- A node skips its own messages. -/
def advance (shared : Shared) (_ : Nat) : Operation → Point → Choice →
    Option (Shared × Progress Point Returned)
  | .pass elapsed, .acting, _ =>
      some ({ shared with now := shared.now + elapsed }, .finished .done)
  | .change nodeId node, .acting, _ =>
      some ({ shared with
        nodes := shared.nodes.modify nodeId fun stored =>
          { node with pubsub := stored.pubsub } }, .finished .done)
  | .hear nodeId senderNode, .acting, _ =>
      if senderNode = nodeId then some (shared, .finished .done)
      else
        (shared.nodes.lookup nodeId).map fun node =>
          (shared.setPubsub nodeId (node.pubsub.recordPeer senderNode shared.now),
            .finished (.heard shared.now))
  | .heartbeat nodeId, point, choice => beat keyPrefix shared nodeId choice point
  | .read nodeId query, point, choice => read readFloat keyPrefix shared nodeId query choice point
  | _, _, _ => none

def code : Code Shared Nat Operation Point Choice Returned where
  enter := enter
  advance := advance readFloat keyPrefix

def system (nodes : Table String Node) : System State (CallAction Nat Operation Choice) :=
  Calls.system (code readFloat keyPrefix) (fun _ _ _ => true) (.start nodes)

end

end RushSocket.Adapter.Redis.Heartbeats
