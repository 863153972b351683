import RushSocket.Adapter.Local
import RushSocket.Adapter.Redis.Metrics
import RushSocket.Adapter.Redis.Requests
import RushSocket.Data.Mailboxes

namespace RushSocket.Adapter.Redis.Exchange

open Data Transition

/-! Requests between the nodes, from the draw of an id to the last answer.  The tasks of
all nodes and the listener of each take their steps in any order, and the network may lose
what it carries. -/

structure Site where
  locals : LocalAdapter
  pubsub : RedisPubSub

/-- A task makes requests; the messages of a node are handled by its one listener. -/
inductive Caller
  | task (index : Nat)
  | listener (nodeId : String)
  deriving DecidableEq

/-- Time passes, the local adapter of a node changes and its connection is lost while the
others work. -/
inductive Operation
  | pass (elapsed : Nat)
  | change (nodeId : String) (locals : LocalAdapter)
  | disconnect (nodeId : String)
  | publish (nodeId : String) (message : BroadcastMessage)
  | request (nodeId : String) (requestType : RequestType)
  | discoverPeers (nodeId : String)
  | receive (nodeId : String)

/-- What a request id was drawn for, and when. -/
structure Issue where
  operation : Operation
  began : Nat

/-- Instants count nanoseconds.  An inbox has the texts that reach a node. -/
structure Shared where
  now : Nat
  sites : Table String Site
  inboxes : Mailboxes String String
  issued : Table String Issue

inductive Point
  | acting
  | drawing
  | counting (requestId : String)
  | inserting (requestId : String) (expectedCount : Nat)
  | publishing (requestId : String)
  | waiting (requestId : String)
  | removing (requestId : String) (ending : Requests.Ending)
  | taking
  | recording (envelope : PubSubEnvelope)
  | handling (envelope : PubSubEnvelope)
  | responding (request : Request) (computed : Nat) (payload : ResponsePayload)

/-- The id that is drawn, the order of the hash maps, what the counters of the metrics
come to as they are read one by one, who a text reaches, and whether the publish
succeeds. -/
structure Choice where
  requestId : String
  order : HashOrder
  metrics : Option Metrics
  reaches : Finset String
  succeeds : Bool

inductive Returned
  | done
  | accepted (response : Response)
  | responses (requestId : String) (ended : Nat)
      (result : Except Unit (List ResponsePayload))
  | peers (requestId : String) (ended : Nat) (count : Nat)

abbrev State := Calls Shared Caller Operation Point Returned

abbrev Log := List (Finished Caller Operation Returned)

def permits (_ : Log) : Caller → Operation → Bool
  | .listener listening, .receive nodeId => listening = nodeId
  | .task _, .receive _ | .listener _, _ => false
  | .task _, _ => true

def enter : Operation → Point
  | .pass _ | .change _ _ | .disconnect _ | .publish _ _ => .acting
  | .request _ _ | .discoverPeers _ => .drawing
  | .receive _ => .taking

/-- Each question is asked of the local adapter at once.  A count is a machine word. -/
def handleRequest (order : HashOrder) (metrics : Option Metrics) (locals : LocalAdapter) :
    RequestType → ResponsePayload
  | .getConnectionCount appId => .count (.ofNat (locals.getConnectionCount appId))
  | .getChannels appId => .channels (locals.getChannels order appId)
  | .getChannelSocketCount appId channel =>
      .count (.ofNat (locals.getChannelSocketCount appId channel))
  | .getChannelInfo appId channel =>
      let info := locals.getChannelInfo appId channel
      .channelInfo info.occupied (.ofNat info.subscriptionCount)
        (info.userCount.map .ofNat)
  | .getPresenceMembers appId channel =>
      .presenceMembers (locals.getPresenceMembers appId channel)
  | .getPresenceUserCount appId channel =>
      .count (.ofNat (locals.getPresenceUserCount appId channel))
  | .getChannelSockets appId channel =>
      .socketIds (locals.getChannelSockets order appId channel)
  | .getMetrics => .metrics (localMetrics order metrics)
  | .discoverPeers => .ack

namespace Shared

def start (nodes : Table String LocalAdapter) : Shared where
  now := 0
  sites := nodes.mapValues fun locals =>
    { locals, pubsub := { pending := ∅, knownNodes := ∅ } }
  inboxes _ := []
  issued := ∅

def setPubsub (shared : Shared) (nodeId : String) (pubsub : RedisPubSub) : Shared :=
  { shared with sites := shared.sites.modify nodeId fun site => { site with pubsub } }

def setInbox (shared : Shared) (nodeId : String) (texts : List String) : Shared :=
  { shared with inboxes := Function.update shared.inboxes nodeId texts }

def publish (shared : Shared) (order : HashOrder) (reaches : Finset String)
    (envelope : PubSubEnvelope) : Shared :=
  { shared with inboxes := shared.inboxes.deliver reaches (envelope.toText order) }

def issue (shared : Shared) (requestId : String) (operation : Operation) : Shared :=
  { shared with
    issued := shared.issued.insert requestId { operation, began := shared.now } }

end Shared

/-- A request id is drawn that no node has drawn before. -/
def draw (shared : Shared) (operation : Operation) (nodeId requestId : String)
    (next : Point) : Option (Shared × Progress Point Returned) :=
  if nodeId ∈ shared.sites ∧ requestId ∉ shared.issued then
    some (shared.issue requestId operation, .running next)
  else none

/-- A request whose publish has failed leaves its entry, a discovery removes it. -/
def finish (shared : Shared) (site : Site) (nodeId requestId : String) :
    Operation → Requests.Ending → Option (Shared × Progress Point Returned)
  | .request _ _, .unpublished =>
      some (shared, .finished (.responses requestId shared.now (.error ())))
  | .request _ _, .received received =>
      some (shared.setPubsub nodeId (site.pubsub.removePending requestId),
        .finished (.responses requestId shared.now (.ok (received.getD []))))
  | .discoverPeers _, .unpublished =>
      some (shared.setPubsub nodeId (site.pubsub.removePending requestId),
        .finished (.peers requestId shared.now 0))
  | .discoverPeers _, .received _ =>
      -- the entry is still held, and nothing more is put there
      let state := site.pubsub.pending.lookup requestId
      some (shared.setPubsub nodeId (site.pubsub.removePending requestId),
        .finished (.peers requestId shared.now
          ((state.map fun state => state.responses.length).getD 0)))
  | _, _ => none

/-- The steps of `request`, and of `discover_peers` where it does the same. -/
def ask (shared : Shared) (site : Site) (operation : Operation) (nodeId : String)
    (requestType : RequestType) (choice : Choice) :
    Point → Option (Shared × Progress Point Returned)
  | .counting requestId =>
      let (counted, expectedCount) := site.pubsub.getPeerCount shared.now
      some (shared.setPubsub nodeId counted,
        if expectedCount = 0 then .finished (.responses requestId shared.now (.ok []))
        else .running (.inserting requestId expectedCount))
  | .inserting requestId expectedCount =>
      let opened := site.pubsub.insertPending requestId (.new expectedCount)
      some (shared.setPubsub nodeId opened, .running (.publishing requestId))
  | .publishing requestId =>
      let request := { requestId, senderNode := nodeId, requestType }
      some (shared.publish choice.order choice.reaches ⟨nodeId, .request request⟩,
        .running (
          if choice.succeeds then .waiting requestId
          else .removing requestId .unpublished))
  | .waiting requestId =>
      -- what the channel has when the timer or the channel itself wakes the call
      let received := (site.pubsub.pending.lookup requestId).bind PendingState.sent
      some (shared, .running (.removing requestId (.received received)))
  | .removing requestId ending => finish shared site nodeId requestId operation ending
  | _ => none

section

variable (readFloat : DecimalText → Option DecimalText)

/-- The listener takes a text, records its sender as a peer and handles it.  A node
skips what it cannot read and its own messages, and what a broadcast does is the local
adapter's. -/
def receive (shared : Shared) (site : Site) (nodeId : String) (choice : Choice) :
    Point → Option (Shared × Progress Point Returned)
  | .taking =>
      match shared.inboxes nodeId with
      | [] => none
      | text :: rest =>
          some (shared.setInbox nodeId rest,
            match PubSubEnvelope.ofText readFloat text with
            | none => .finished .done
            | some envelope =>
                if envelope.senderNode = nodeId then .finished .done
                else .running (.recording envelope))
  | .recording envelope =>
      let recorded := site.pubsub.recordPeer envelope.senderNode shared.now
      some (shared.setPubsub nodeId recorded, .running (.handling envelope))
  | .handling envelope =>
      match envelope.payload with
      | .broadcast _ => some (shared, .finished .done)
      | .request request =>
          let payload :=
            handleRequest choice.order choice.metrics site.locals request.requestType
          some (shared, .running (.responding request shared.now payload))
      | .response response =>
          some (shared.setPubsub nodeId (site.pubsub.handleResponse response),
            .finished (
              if response.requestId ∈ site.pubsub.pending then .accepted response
              else .done))
  | .responding request _ payload =>
      let response := { requestId := request.requestId, responderNode := nodeId, payload }
      some (shared.publish choice.order (choice.reaches ∩ {request.senderNode})
        ⟨nodeId, .response response⟩, .finished .done)
  | _ => none

def advance (shared : Shared) (_ : Caller) : Operation → Point → Choice →
    Option (Shared × Progress Point Returned)
  | .pass elapsed, .acting, _ =>
      some ({ shared with now := shared.now + elapsed }, .finished .done)
  | .change nodeId locals, .acting, _ =>
      some ({ shared with
        sites := shared.sites.modify nodeId fun site => { site with locals } },
        .finished .done)
  | .disconnect nodeId, .acting, _ => some (shared.setInbox nodeId [], .finished .done)
  | .publish nodeId message, .acting, choice =>
      (shared.sites.lookup nodeId).map fun _ =>
        (shared.publish choice.order choice.reaches ⟨nodeId, .broadcast message⟩,
          .finished .done)
  | .request nodeId requestType, .drawing, choice =>
      draw shared (.request nodeId requestType) nodeId choice.requestId
        (.counting choice.requestId)
  | .discoverPeers nodeId, .drawing, choice =>
      draw shared (.discoverPeers nodeId) nodeId choice.requestId
        (.inserting choice.requestId Requests.usizeMax)
  | .request nodeId requestType, point, choice =>
      (shared.sites.lookup nodeId).bind fun site =>
        ask shared site (.request nodeId requestType) nodeId requestType choice point
  | .discoverPeers nodeId, point, choice =>
      (shared.sites.lookup nodeId).bind fun site =>
        ask shared site (.discoverPeers nodeId) nodeId .discoverPeers choice point
  | .receive nodeId, point, choice =>
      (shared.sites.lookup nodeId).bind fun site =>
        receive readFloat shared site nodeId choice point
  | _, _, _ => none

def code : Code Shared Caller Operation Point Choice Returned where
  enter := enter
  advance := advance readFloat

def system (nodes : Table String LocalAdapter) :
    System State (CallAction Caller Operation Choice) :=
  Calls.system (code readFloat) permits (.start nodes)

end

end RushSocket.Adapter.Redis.Exchange
