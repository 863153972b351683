import RushSocket.Adapter.Redis.WireRoundTrip
import RushSocket.Server.System
import RushSocket.Transition.Calls
import RushSocket.Websocket.Delivery

namespace RushSocket.Server.Broadcast

open Adapter Adapter.Redis Data Protocol Transition Websocket

/-! Channel messages across nodes.  A call publishes the message and then writes
to the sockets of its own node; each node takes the published texts, its own
included, out of its subscription one at a time. -/

/-- A connection belongs to an app; its frames are the texts of their bytes.
Every handle of the node leads to a connection. -/
structure Node where
  locals : LocalAdapter
  connections : Connections (String × String) String
  handled : ∀ appId socketId handle,
    (locals.ns appId).sockets.lookup socketId = some handle →
      handle.socketId = socketId ∧ (appId, socketId) ∈ connections.keys

namespace Node

def new : Node where
  locals := .new
  connections := ∅
  handled := by simp [LocalAdapter.ns, LocalAdapter.new, Namespace.new]

def accept (node : Node) (app : App) (socketId : String) : Node where
  locals := (node.locals.tryAddSocket app.id ⟨socketId⟩ app.maxConnections).1
  connections := node.connections.insert (app.id, socketId) (.new socketId app)
  handled := by
    intro appId other handle found
    rw [LocalAdapter.ns_tryAddSocket] at found
    rw [Table.keys_put, Finset.mem_insert]
    have before := node.handled appId other handle
    split at found
    · rename_i same
      subst same
      rcases (node.locals.ns app.id).tryAddSocket_cases ⟨socketId⟩ app.maxConnections
        with added | refused
      · rw [added, Namespace.addSocket, Table.lookup_put] at found
        split at found
        · rename_i own
          cases found
          exact ⟨own.symm, .inl (by rw [own])⟩
        · exact (before found).imp_right .inr
      · rw [refused] at found
        exact (before found).imp_right .inr
    · exact (before found).imp_right .inr

def addToChannel (node : Node) (appId socketId channel : String) : Node where
  locals := (node.locals.addToChannel appId socketId channel).1
  connections := node.connections
  handled := by
    intro other candidate handle found
    rw [LocalAdapter.ns_addToChannel] at found
    split at found
    · rename_i same
      rw [same]
      exact node.handled appId candidate handle found
    · exact node.handled other candidate handle found

/-- Write to the connections there are. -/
def write (node : Node) (connections : Connections (String × String) String)
    (same : connections.keys = node.connections.keys) : Node where
  locals := node.locals
  connections := connections
  handled := by
    rw [same]
    exact node.handled

def sendToChannel (order : HashOrder) (node : Node) (appId channel message : String)
    (exceptingId : Option String) : Node :=
  node.write
    (node.connections.sendEach
      ((node.locals.recipients order appId channel exceptingId).map fun handle =>
        (appId, handle.socketId)) message)
    (Connections.keys_sendEach ..)

def changeConn (node : Node) (key : String × String)
    (change : WsConnection String → WsConnection String) : Node :=
  node.write (node.connections.modify key change) (Table.keys_modify ..)

def terminateUserConnections (order : HashOrder) (node : Node)
    (appId userId : String) : Node :=
  (node.locals.getSocketsForUser order appId userId).foldl
    (fun node handle => node.changeConn (appId, handle.socketId) fun conn =>
      conn.terminate
        (ServerMessage.error "Connection terminated by server" (some 4009)).toJson)
    node

def handleBroadcast (order : HashOrder) (nodeId : String) (node : Node)
    (senderNode : String) (payload : BroadcastMessage) : Node :=
  if senderNode = nodeId then node
  else
    match payload with
    | .channelMessage appId channel message exceptingId =>
        node.sendToChannel order appId channel message exceptingId
    | .terminateUser appId userId => node.terminateUserConnections order appId userId
    | .heartbeat => node

/-- What the subscription does with a text; the requests and the answers of
other nodes write to no connection. -/
def receive (readFloat : DecimalText → Option DecimalText) (order : HashOrder)
    (nodeId : String) (node : Node) (text : String) : Node :=
  match PubSubEnvelope.ofText readFloat text with
  | none => node
  | some envelope =>
      if envelope.senderNode = nodeId then node
      else
        match envelope.payload with
        | .broadcast .heartbeat => node
        | .broadcast message =>
            node.handleBroadcast order nodeId envelope.senderNode message
        | .request _ | .response _ => node

end Node

structure Sent where
  senderNode : String
  appId : String
  channel : String
  message : String
  exceptingId : Option String
  deriving DecidableEq

def Sent.envelope (sent : Sent) : PubSubEnvelope where
  senderNode := sent.senderNode
  payload := .broadcast
    (.channelMessage sent.appId sent.channel sent.message sent.exceptingId)

/-- A socket of an app on a node. -/
structure Socket where
  nodeId : String
  appId : String
  socketId : String
  deriving DecidableEq

/-- The nodes, and the texts each has yet to take. -/
structure Cluster where
  nodes : Table String Node
  inboxes : Table String (List String)

namespace Cluster

def start (nodes : Table String Node) : Cluster where
  nodes := nodes
  inboxes := nodes.mapValues fun _ => []

def inbox (cluster : Cluster) (nodeId : String) : List String :=
  (cluster.inboxes.lookup nodeId).getD []

/-- A published text goes to every node, the publisher included. -/
def publish (cluster : Cluster) (text : String) : Cluster :=
  { cluster with inboxes := cluster.inboxes.mapValues fun texts => texts ++ [text] }

def changeNode (cluster : Cluster) (nodeId : String) (change : Node → Node) :
    Cluster :=
  { cluster with nodes := cluster.nodes.modify nodeId change }

def enqueued (cluster : Cluster) (socket : Socket) : List String :=
  ((cluster.nodes.lookup socket.nodeId).map fun node =>
    node.connections.enqueued (socket.appId, socket.socketId)).getD []

end Cluster

inductive Caller where
  | request (number : Nat)
  | listener (nodeId : String)
  | connection (socket : Socket)
  deriving DecidableEq

inductive Operation where
  | sendToChannel (sent : Sent)
  | receive
  | recv
  deriving DecidableEq

inductive Point where
  | publish
  | sendLocal
  | receive
  | recv
  deriving DecidableEq

structure Choice where
  order : HashOrder
  index : Nat

def enter : Operation → Point
  | .sendToChannel _ => .publish
  | .receive => .receive
  | .recv => .recv

def advance (readFloat : DecimalText → Option DecimalText) (cluster : Cluster) :
    Caller → Operation → Point → Choice → Option (Cluster × Progress Point Unit)
  | .request _, .sendToChannel sent, .publish, choice =>
      some (cluster.publish (sent.envelope.toText choice.order), .running .sendLocal)
  | .request _, .sendToChannel sent, .sendLocal, choice =>
      some (cluster.changeNode sent.senderNode fun node =>
          node.sendToChannel choice.order sent.appId sent.channel sent.message
            sent.exceptingId,
        .finished ())
  | .listener nodeId, .receive, .receive, choice =>
      ((cluster.inbox nodeId)[choice.index]?).map fun text =>
        let taken : Cluster :=
          { cluster with
            inboxes := cluster.inboxes.insert nodeId
              ((cluster.inbox nodeId).eraseIdx choice.index) }
        (taken.changeNode nodeId fun node =>
            node.receive readFloat choice.order nodeId text,
          .finished ())
  | .connection socket, .recv, .recv, _ =>
      (cluster.nodes.lookup socket.nodeId).bind fun node =>
        (node.connections.lookup (socket.appId, socket.socketId)).bind fun conn =>
          conn.tx.recv.map fun (_, tx) =>
            (cluster.changeNode socket.nodeId fun stored =>
                stored.changeConn (socket.appId, socket.socketId) fun conn =>
                  { conn with tx },
              .finished ())
  | _, _, _, _ => none

def code (readFloat : DecimalText → Option DecimalText) :
    Code Cluster Caller Operation Point Choice Unit where
  enter := enter
  advance := advance readFloat

abbrev State := Calls Cluster Caller Operation Point Unit
abbrev Action := CallAction Caller Operation Choice

/-- Calls on any of the nodes, each node taking its texts, and connections
taking their frames. -/
def system (readFloat : DecimalText → Option DecimalText)
    (nodes : Table String Node) : System State Action :=
  Calls.system (code readFloat)
    (fun _ _ operation =>
      match operation with
      | .sendToChannel sent => sent.senderNode ∈ nodes.keys
      | .receive | .recv => true)
    (.start nodes)

/-! Whom a call is for. -/

def Node.inChannel (node : Node) (appId channel socketId : String) : Bool :=
  socketId ∈ (node.locals.ns appId).channels.members channel &&
    ((node.locals.ns appId).sockets.lookup socketId).isSome

/-- The sockets that the local adapter would write to if the nodes were one. -/
def addresses (nodes : Table String Node) (socket : Socket) (sent : Sent) : Bool :=
  sent.appId = socket.appId && sent.exceptingId ≠ some socket.socketId &&
    (nodes.lookup socket.nodeId).any fun node =>
      node.inChannel socket.appId sent.channel socket.socketId

def Operation.sent? : Operation → Option Sent
  | .sendToChannel sent => some sent
  | .receive | .recv => none

/-- One copy of the message of each call that has ended and is for the socket. -/
def due (nodes : Table String Node) (socket : Socket)
    (log : List (Finished Caller Operation Unit)) : List String :=
  ((log.filterMap fun done => done.operation.sent?).filter
    (addresses nodes socket)).map Sent.message

/-- No call is in progress and every published text has been taken. -/
def Handled (state : State) : Prop :=
  state.Quiet ∧ ∀ nodeId ∈ state.shared.inboxes.keys, state.shared.inbox nodeId = []

/-- No channel of a connection is full. -/
def Roomy (state : State) (_ : Action) : Prop :=
  ∀ nodeId ∈ state.shared.nodes.keys, ∀ node ∈ state.shared.nodes.lookup nodeId,
    ∀ key ∈ node.connections.keys, node.connections.HasRoom key

instance (state : State) (action : Action) : Decidable (Roomy state action) := by
  unfold Roomy
  infer_instance

/-! What is written to a socket. -/

variable {readFloat : DecimalText → Option DecimalText} {nodes : Table String Node}
  {state : State} {cluster : Cluster} {caller : Caller} {operation : Operation}
  {point : Point} {progress : Progress Point Unit} {choice : Choice} {node : Node}
  {sent : Sent} {socket : Socket} {order : HashOrder} {nodeId : String}

theorem enqueued_sendToChannel
    (room : ∀ key ∈ node.connections.keys, node.connections.HasRoom key)
    (order : HashOrder) (appId channel message : String)
    (exceptingId : Option String) (other socketId : String) :
    (node.sendToChannel order appId channel message exceptingId).connections.enqueued
        (other, socketId) =
      node.connections.enqueued (other, socketId) ++
        if appId = other ∧ exceptingId ≠ some socketId ∧
          node.inChannel other channel socketId = true then [message] else [] := by
  have named : ∀ candidate ∈ (node.locals.ns appId).channels.members channel,
      ∀ handle, (node.locals.ns appId).sockets.lookup candidate = some handle →
        handle.socketId = candidate :=
    fun candidate _ handle found => (node.handled appId candidate handle found).1
  have recipients := Namespace.recipients_of_named named order exceptingId
  have written : (node.locals.recipients order appId channel exceptingId).map
      (fun handle => (appId, handle.socketId)) =
        ((order.list ((node.locals.ns appId).channels.members channel)).filter
          fun candidate => some candidate ≠ exceptingId ∧
            ((node.locals.ns appId).sockets.lookup candidate).isSome).map
          (Prod.mk appId) := by
    rw [LocalAdapter.recipients_eq, ← recipients, List.map_map]
    rfl
  have distinct : ((node.locals.recipients order appId channel exceptingId).map
      fun handle => (appId, handle.socketId)).Nodup := by
    rw [written]
    exact ((order.nodup _).filter _).map (Prod.mk_right_injective appId)
  have known : ∀ key ∈ (node.locals.recipients order appId channel exceptingId).map
      (fun handle => (appId, handle.socketId)), key ∈ node.connections.keys := by
    rw [written]
    intro key member
    obtain ⟨candidate, listed, rfl⟩ := List.mem_map.mp member
    have stored := (of_decide_eq_true (List.mem_filter.mp listed).2).2
    obtain ⟨handle, found⟩ := Option.isSome_iff_exists.mp stored
    exact (node.handled appId candidate handle found).2
  have inside : (other, socketId) ∈ (node.locals.recipients order appId channel
      exceptingId).map (fun handle => (appId, handle.socketId)) ↔
        appId = other ∧ exceptingId ≠ some socketId ∧
          node.inChannel other channel socketId = true := by
    rw [written]
    simp only [List.mem_map, List.mem_filter, order.mem_list, Prod.mk.injEq,
      decide_eq_true_eq, Node.inChannel, Bool.and_eq_true]
    constructor
    · rintro ⟨candidate, ⟨member, different, stored⟩, rfl, rfl⟩
      exact ⟨rfl, Ne.symm different, member, stored⟩
    · rintro ⟨rfl, different, member, stored⟩
      exact ⟨socketId, ⟨member, Ne.symm different, stored⟩, rfl, rfl⟩
  refine (Connections.enqueued_sendEach distinct
    (fun key member => room key (known key member)) (other, socketId)).trans ?_
  by_cases member : (other, socketId) ∈ (node.locals.recipients order appId channel
      exceptingId).map (fun handle => (appId, handle.socketId))
  · rw [if_pos (inside.mp member)]
    congr 1
    exact if_pos member
  · rw [if_neg (mt inside.mpr member)]
    congr 1
    exact if_neg member

/-! What is on its way to a socket. -/

def meant (nodes : Table String Node) (socket : Socket) (message : String)
    (sent : Sent) : Bool :=
  addresses nodes socket sent && sent.message = message

def brings (nodes : Table String Node) (socket : Socket) (message : String)
    (sent : Sent) : Bool :=
  sent.senderNode ≠ socket.nodeId && meant nodes socket message sent

def readSent (readFloat : DecimalText → Option DecimalText) (text : String) :
    Option Sent :=
  match PubSubEnvelope.ofText readFloat text with
  | some ⟨senderNode, .broadcast (.channelMessage appId channel message exceptingId)⟩ =>
      some { senderNode, appId, channel, message, exceptingId }
  | _ => none

theorem ofText_toText_sent (sent : Sent) (order : HashOrder) :
    PubSubEnvelope.ofText readFloat (sent.envelope.toText order) =
      some sent.envelope :=
  (PubSubEnvelope.ofText_toText_iff readFloat order rfl).mpr
    (travels_broadcast readFloat _)

theorem readSent_toText (sent : Sent) (order : HashOrder) :
    readSent readFloat (sent.envelope.toText order) = some sent := by
  rw [readSent, ofText_toText_sent]
  rfl

theorem receive_toText (node : Node) (nodeId : String) (order : HashOrder)
    (sent : Sent) (other : HashOrder) :
    node.receive readFloat order nodeId (sent.envelope.toText other) =
      if sent.senderNode = nodeId then node
      else node.sendToChannel order sent.appId sent.channel sent.message
        sent.exceptingId := by
  rw [Node.receive, ofText_toText_sent]
  by_cases same : sent.senderNode = nodeId
  · simp [Sent.envelope, same]
  · simp [Sent.envelope, same, Node.handleBroadcast]

def arriving (readFloat : DecimalText → Option DecimalText)
    (nodes : Table String Node) (socket : Socket) (message : String)
    (texts : List String) : Nat :=
  texts.countP fun text =>
    (readSent readFloat text).any (brings nodes socket message)

def underway (nodes : Table String Node) (socket : Socket) (message : String)
    (call : Operation × Point) : Bool :=
  call.2 = .sendLocal && call.1.sent?.any (brings nodes socket message)

structure Inv (readFloat : DecimalText → Option DecimalText)
    (nodes : Table String Node) (state : State) : Prop where
  locals : ∀ nodeId, (state.shared.nodes.lookup nodeId).map Node.locals =
    (nodes.lookup nodeId).map Node.locals
  subscribed : ∀ nodeId, nodeId ∈ nodes.keys → nodeId ∈ state.shared.inboxes.keys
  published : ∀ nodeId, ∀ text ∈ state.shared.inbox nodeId,
    ∃ sent : Sent, ∃ order, text = sent.envelope.toText order
  delivered : ∀ socket, ∃ received,
    state.shared.enqueued socket = (Cluster.start nodes).enqueued socket ++ received ∧
      ∀ message, received.count message +
          arriving readFloat nodes socket message
            (state.shared.inbox socket.nodeId) =
        (due nodes socket state.log).count message +
          state.calls.count (underway nodes socket message)

theorem addresses_congr {before : Table String Node}
    (same : ∀ nodeId, (before.lookup nodeId).map Node.locals =
      (nodes.lookup nodeId).map Node.locals) :
    addresses before socket sent = addresses nodes socket sent := by
  have known := same socket.nodeId
  unfold addresses Node.inChannel
  cases found : before.lookup socket.nodeId with
  | none =>
      cases stored : nodes.lookup socket.nodeId with
      | none => rfl
      | some node => simp [found, stored] at known
  | some node =>
      cases stored : nodes.lookup socket.nodeId with
      | none => simp [found, stored] at known
      | some original =>
          simp only [found, stored, Option.map_some, Option.some.injEq] at known
          simp [known]

theorem count_due_cons (done : Finished Caller Operation Unit)
    (log : List (Finished Caller Operation Unit)) (message : String) :
    (due nodes socket (done :: log)).count message =
      (due nodes socket log).count message +
        if done.operation.sent?.any (meant nodes socket message) then 1 else 0 := by
  unfold due
  cases found : done.operation.sent? with
  | none => simp [found]
  | some sent =>
      simp only [List.filterMap_cons, found]
      cases for_ : addresses nodes socket sent with
      | false => simp [for_, meant]
      | true =>
          rw [List.filter_cons_of_pos for_, List.map_cons, List.count_cons]
          simp [for_, meant]

theorem count_settle_underway
    (found : state.calls.lookup caller = some (operation, point))
    (message : String) :
    (state.settle caller operation cluster progress).calls.count
          (underway nodes socket message) +
        (if underway nodes socket message (operation, point) then 1 else 0) =
      state.calls.count (underway nodes socket message) +
        if (progress.call operation).any (underway nodes socket message) then 1
        else 0 := by
  rw [Calls.count_settle, Table.count_drop state.calls caller, found]
  simp only [Option.any_some]
  omega

theorem inbox_publish (cluster : Cluster) (text : String) (nodeId : String) :
    (cluster.publish text).inbox nodeId =
      if nodeId ∈ cluster.inboxes.keys then cluster.inbox nodeId ++ [text]
      else cluster.inbox nodeId := by
  rw [Cluster.inbox, Cluster.publish, Table.lookup_mapValues]
  by_cases member : nodeId ∈ cluster.inboxes.keys
  · obtain ⟨texts, stored⟩ := Table.mem_keys_iff.mp member
    simp [member, Cluster.inbox, stored]
  · cases stored : cluster.inboxes.lookup nodeId with
    | none => simp [member, Cluster.inbox, stored]
    | some texts => exact absurd (Table.mem_keys_iff.mpr ⟨texts, stored⟩) member

/-- A node that is not there has no socket. -/
theorem addresses_of_not_mem (absent : socket.nodeId ∉ nodes.keys) :
    addresses nodes socket sent = false := by
  cases stored : nodes.lookup socket.nodeId with
  | none => simp [addresses, stored]
  | some node => exact absurd (Table.mem_keys_iff.mpr ⟨node, stored⟩) absent

theorem Inv.publish {number : Nat} (inv : Inv readFloat nodes state)
    (found : state.calls.lookup (.request number) =
      some (.sendToChannel sent, .publish)) :
    Inv readFloat nodes (state.settle (.request number) (.sendToChannel sent)
      (state.shared.publish (sent.envelope.toText order)) (.running .sendLocal)) where
  locals := inv.locals
  subscribed := by
    intro nodeId member
    rw [Calls.settle_shared, Cluster.publish, Table.keys_mapValues]
    exact inv.subscribed nodeId member
  published := by
    intro nodeId text member
    rw [Calls.settle_shared, inbox_publish] at member
    split at member
    · rcases List.mem_append.mp member with earlier | last
      · exact inv.published nodeId text earlier
      · exact ⟨sent, order, List.mem_singleton.mp last⟩
    · exact inv.published nodeId text member
  delivered := by
    intro socket
    obtain ⟨received, enqueued, balanced⟩ := inv.delivered socket
    refine ⟨received, enqueued, fun message => ?_⟩
    have brought : arriving readFloat nodes socket message
        ((state.shared.publish (sent.envelope.toText order)).inbox socket.nodeId) =
          arriving readFloat nodes socket message
            (state.shared.inbox socket.nodeId) +
          if brings nodes socket message sent then 1 else 0 := by
      rw [inbox_publish]
      split
      · simp [arriving, readSent_toText]
      · rename_i absent
        have nowhere := fun member => absent (inv.subscribed socket.nodeId member)
        simp [brings, meant, addresses_of_not_mem nowhere]
    have counted := @count_settle_underway nodes state
      (state.shared.publish (sent.envelope.toText order)) (.request number)
      (.sendToChannel sent) .publish (.running .sendLocal) socket found message
    have before : underway nodes socket message (.sendToChannel sent, .publish) =
        false := rfl
    have after : underway nodes socket message (.sendToChannel sent, .sendLocal) =
        brings nodes socket message sent := by
      simp [underway, Operation.sent?]
    rw [before, Progress.call, Option.any_some, after] at counted
    rw [Calls.settle_shared, brought]
    have balance := balanced message
    change _ = (due nodes socket state.log).count message + _
    simp only [Bool.false_eq_true, if_false] at counted
    omega

theorem lookup_changeNode (cluster : Cluster) (nodeId other : String)
    (change : Node → Node) :
    (cluster.changeNode nodeId change).nodes.lookup other =
      if other = nodeId then (cluster.nodes.lookup other).map change
      else cluster.nodes.lookup other := by
  rw [Cluster.changeNode, Table.lookup_modify]
  split
  · rename_i same
    rw [same]
  · rfl

theorem locals_changeNode {change : Node → Node}
    (kept : ∀ node, (change node).locals = node.locals) (cluster : Cluster)
    (nodeId other : String) :
    ((cluster.changeNode nodeId change).nodes.lookup other).map Node.locals =
      (cluster.nodes.lookup other).map Node.locals := by
  rw [lookup_changeNode]
  split
  · cases cluster.nodes.lookup other with
    | none => rfl
    | some node => simp [kept]
  · rfl

theorem inbox_start (nodes : Table String Node) (nodeId : String) :
    (Cluster.start nodes).inbox nodeId = [] := by
  rw [Cluster.inbox, Cluster.start, Table.lookup_mapValues]
  cases nodes.lookup nodeId <;> rfl

theorem changeNode_id (cluster : Cluster) (nodeId : String) :
    cluster.changeNode nodeId (fun node => node) = cluster := by
  rw [Cluster.changeNode]
  exact congrArg (fun nodes => { cluster with nodes })
    (Table.modify_id cluster.nodes nodeId)

@[simp] theorem inbox_changeNode (cluster : Cluster) (nodeId other : String)
    (change : Node → Node) :
    (cluster.changeNode nodeId change).inbox other = cluster.inbox other := rfl

theorem enqueued_changeNode
    (room : ∀ node, cluster.nodes.lookup nodeId = some node →
      ∀ key ∈ node.connections.keys, node.connections.HasRoom key)
    (order : HashOrder) (sent : Sent) (socket : Socket) :
    (cluster.changeNode nodeId fun node =>
        node.sendToChannel order sent.appId sent.channel sent.message
          sent.exceptingId).enqueued socket =
      cluster.enqueued socket ++
        if socket.nodeId = nodeId ∧ addresses cluster.nodes socket sent = true then
          [sent.message]
        else [] := by
  unfold Cluster.enqueued
  rw [lookup_changeNode]
  by_cases same : socket.nodeId = nodeId
  · cases stored : cluster.nodes.lookup socket.nodeId with
    | none => simp [addresses, stored]
    | some node =>
        simp only [same, if_true, Option.map_some, Option.getD_some]
        rw [enqueued_sendToChannel (room node (same ▸ stored))]
        congr 1
        apply if_congr _ rfl rfl
        simp [addresses, stored, and_assoc]
  · simp [same]

theorem Roomy.room {action : Action} (roomy : Roomy state action) (node : Node)
    (found : state.shared.nodes.lookup nodeId = some node) :
    ∀ key ∈ node.connections.keys, node.connections.HasRoom key :=
  roomy nodeId (Table.mem_keys_iff.mpr ⟨node, found⟩) node found

theorem Inv.sendLocal {number : Nat} {action : Action}
    (inv : Inv readFloat nodes state)
    (found : state.calls.lookup (.request number) =
      some (.sendToChannel sent, .sendLocal))
    (roomy : Roomy state action) :
    Inv readFloat nodes (state.settle (.request number) (.sendToChannel sent)
      (state.shared.changeNode sent.senderNode fun node =>
        node.sendToChannel order sent.appId sent.channel sent.message
          sent.exceptingId) (.finished ())) where
  locals := by
    intro nodeId
    rw [Calls.settle_shared, locals_changeNode]
    · exact inv.locals nodeId
    · exact fun _ => rfl
  subscribed := inv.subscribed
  published := inv.published
  delivered := by
    intro socket
    obtain ⟨received, enqueued, balanced⟩ := inv.delivered socket
    refine ⟨_, by
      rw [Calls.settle_shared, enqueued_changeNode roomy.room, enqueued,
        List.append_assoc], fun message => ?_⟩
    rw [addresses_congr inv.locals]
    have counted := @count_settle_underway nodes state
      (state.shared.changeNode sent.senderNode fun node =>
        node.sendToChannel order sent.appId sent.channel sent.message
          sent.exceptingId) (.request number)
      (.sendToChannel sent) .sendLocal (.finished ()) socket found message
    have before : underway nodes socket message (.sendToChannel sent, .sendLocal) =
        brings nodes socket message sent := by
      simp [underway, Operation.sent?]
    have logged : (due nodes socket (⟨.request number, .sendToChannel sent, ()⟩ ::
        state.log)).count message = (due nodes socket state.log).count message +
          if meant nodes socket message sent then 1 else 0 :=
      count_due_cons _ state.log message
    -- the sender's own node is written to here, the others by the published copy
    have split : (if brings nodes socket message sent then 1 else 0) +
        (if socket.nodeId = sent.senderNode ∧ addresses nodes socket sent = true then
          [sent.message] else []).count message =
        if meant nodes socket message sent then 1 else 0 := by
      by_cases own : socket.nodeId = sent.senderNode
      · cases for_ : addresses nodes socket sent with
        | false => simp [own, brings, meant, for_]
        | true => simp [own, brings, meant, for_, List.count_singleton]
      · simp [own, brings, Ne.symm own]
    have balance := balanced message
    rw [before] at counted
    simp only [Progress.call, Option.any_none, Bool.false_eq_true, if_false] at counted
    change _ = (due nodes socket (⟨.request number, .sendToChannel sent, ()⟩ ::
      state.log)).count message + _
    rw [logged, List.count_append]
    change _ + _ + arriving readFloat nodes socket message
      (state.shared.inbox socket.nodeId) = _
    omega

/-- A step that is no part of a call moves messages from the subscriptions to
the sockets they are for. -/
theorem Inv.moves (inv : Inv readFloat nodes state)
    (found : state.calls.lookup caller = some (operation, point))
    (silent : operation.sent? = none)
    (locals : ∀ nodeId, (cluster.nodes.lookup nodeId).map Node.locals =
      (state.shared.nodes.lookup nodeId).map Node.locals)
    (subscribed : ∀ nodeId, nodeId ∈ state.shared.inboxes.keys →
      nodeId ∈ cluster.inboxes.keys)
    (published : ∀ nodeId, ∀ text ∈ cluster.inbox nodeId,
      text ∈ state.shared.inbox nodeId)
    (moved : ∀ socket, ∃ added,
      cluster.enqueued socket = state.shared.enqueued socket ++ added ∧
        ∀ message, added.count message +
            arriving readFloat nodes socket message (cluster.inbox socket.nodeId) =
          arriving readFloat nodes socket message
            (state.shared.inbox socket.nodeId)) :
    Inv readFloat nodes (state.settle caller operation cluster (.finished ())) where
  locals nodeId := (locals nodeId).trans (inv.locals nodeId)
  subscribed nodeId member := subscribed nodeId (inv.subscribed nodeId member)
  published nodeId text member :=
    inv.published nodeId text (published nodeId text member)
  delivered := by
    intro socket
    obtain ⟨received, enqueued, balanced⟩ := inv.delivered socket
    obtain ⟨added, moved, kept⟩ := moved socket
    refine ⟨received ++ added, by
      rw [Calls.settle_shared, moved, enqueued, List.append_assoc], fun message => ?_⟩
    have counted := @count_settle_underway nodes state cluster caller operation point
      (.finished ()) socket found message
    have before : underway nodes socket message (operation, point) = false := by
      simp [underway, silent]
    have logged : (due nodes socket (⟨caller, operation, ()⟩ :: state.log)).count
        message = (due nodes socket state.log).count message := by
      rw [count_due_cons, silent]
      rfl
    have balance := balanced message
    have same := kept message
    simp only [before, Progress.call, Option.any_none, Bool.false_eq_true, if_false]
      at counted
    rw [Calls.settle_shared, List.count_append]
    change _ = (due nodes socket (⟨caller, operation, ()⟩ :: state.log)).count
      message + _
    rw [logged]
    omega

theorem arriving_eraseIdx {texts : List String} {index : Nat} {text : String}
    (taken : texts[index]? = some text) (message : String) :
    (if (readSent readFloat text).any (brings nodes socket message) then 1 else 0) +
        arriving readFloat nodes socket message (texts.eraseIdx index) =
      arriving readFloat nodes socket message texts := by
  obtain ⟨within, rfl⟩ := List.getElem?_eq_some_iff.mp taken
  have perm := List.getElem_cons_eraseIdx_perm within
  unfold arriving
  rw [← perm.countP_eq, List.countP_cons, Nat.add_comm]

theorem Inv.receive {index : Nat} {text : String} {action : Action}
    (inv : Inv readFloat nodes state)
    (found : state.calls.lookup (.listener nodeId) = some (.receive, .receive))
    (roomy : Roomy state action)
    (taken : (state.shared.inbox nodeId)[index]? = some text) :
    Inv readFloat nodes (state.settle (.listener nodeId) .receive
      (Cluster.changeNode
        { state.shared with
          inboxes := state.shared.inboxes.insert nodeId
            ((state.shared.inbox nodeId).eraseIdx index) }
        nodeId fun node => node.receive readFloat order nodeId text)
      (.finished ())) := by
  obtain ⟨sent, other, rfl⟩ := inv.published nodeId text
    (List.mem_of_getElem? taken)
  have inbox : ∀ candidate, Cluster.inbox
      { state.shared with
        inboxes := state.shared.inboxes.insert nodeId
          ((state.shared.inbox nodeId).eraseIdx index) } candidate =
        if candidate = nodeId then (state.shared.inbox nodeId).eraseIdx index
        else state.shared.inbox candidate := by
    intro candidate
    rw [Cluster.inbox, Table.lookup_put]
    split <;> rfl
  simp only [receive_toText]
  refine inv.moves found rfl ?_ ?_ ?_ ?_
  · intro candidate
    rw [locals_changeNode]
    intro node
    split <;> rfl
  · intro candidate member
    simp [Cluster.changeNode, Table.keys_put, member]
  · intro candidate text member
    rw [inbox_changeNode, inbox] at member
    split at member
    · rename_i same
      rw [same]
      exact List.mem_of_mem_eraseIdx member
    · exact member
  · intro socket
    have brought := fun message => @arriving_eraseIdx readFloat nodes socket
      (state.shared.inbox nodeId) index _ taken message
    simp only [readSent_toText, Option.any_some] at brought
    simp only [inbox_changeNode, inbox]
    by_cases own : sent.senderNode = nodeId
    · simp only [own, if_true]
      refine ⟨[], ?_, fun message => ?_⟩
      · rw [List.append_nil, changeNode_id]
        rfl
      · by_cases here : socket.nodeId = nodeId
        · have none_ : brings nodes socket message sent = false := by
            simp [brings, own, here]
          have count := brought message
          simp only [none_, Bool.false_eq_true, if_false, Nat.zero_add] at count
          simp [here, count]
        · simp [here]
    · simp only [own, if_false]
      refine ⟨_, enqueued_changeNode roomy.room order sent socket, fun message => ?_⟩
      rw [addresses_congr inv.locals]
      by_cases here : socket.nodeId = nodeId
      · have count := brought message
        have added : (if socket.nodeId = nodeId ∧ addresses nodes socket sent = true
            then [sent.message] else []).count message =
              if brings nodes socket message sent then 1 else 0 := by
          cases for_ : addresses nodes socket sent with
          | false => simp [brings, meant, for_]
          | true => simp [brings, meant, for_, here, own, List.count_singleton]
        rw [if_pos here, added, here, count]
      · simp [here]

theorem Inv.recv {conn : WsConnection String} {tx : Outbound String}
    (inv : Inv readFloat nodes state)
    (found : state.calls.lookup (.connection socket) = some (.recv, .recv))
    (stored : state.shared.nodes.lookup socket.nodeId = some node)
    (looked : node.connections.lookup (socket.appId, socket.socketId) = some conn)
    (same : tx.enqueued = conn.tx.enqueued) :
    Inv readFloat nodes (state.settle (.connection socket) .recv
      (state.shared.changeNode socket.nodeId fun stored =>
        stored.changeConn (socket.appId, socket.socketId) fun conn =>
          { conn with tx }) (.finished ())) := by
  refine inv.moves found rfl ?_ (fun _ member => member) (fun _ _ member => member) ?_
  · intro candidate
    rw [locals_changeNode]
    exact fun _ => rfl
  · intro other
    refine ⟨[], ?_, fun message => by simp⟩
    rw [List.append_nil]
    unfold Cluster.enqueued
    rw [lookup_changeNode]
    split
    · rename_i here
      rw [here, stored]
      simp only [Option.map_some, Option.getD_some]
      unfold Node.changeConn Node.write Connections.enqueued
      dsimp only
      rw [Table.lookup_modify]
      split
      · rename_i own
        rw [own, looked]
        simp [same]
      · rfl
    · rfl

theorem Inv.advance {action : Action} (inv : Inv readFloat nodes state)
    (found : state.calls.lookup caller = some (operation, point))
    (roomy : Roomy state action)
    (advanced : Broadcast.advance readFloat state.shared caller operation point
      choice = some (cluster, progress)) :
    Inv readFloat nodes (state.settle caller operation cluster progress) := by
  unfold Broadcast.advance at advanced
  split at advanced
  · cases advanced
    exact inv.publish found
  · cases advanced
    exact inv.sendLocal found roomy
  · obtain ⟨text, taken, equal⟩ := Option.map_eq_some_iff.mp advanced
    cases equal
    exact inv.receive found roomy taken
  · obtain ⟨node, stored, looking⟩ := Option.bind_eq_some_iff.mp advanced
    obtain ⟨conn, looked, taken⟩ := Option.bind_eq_some_iff.mp looking
    obtain ⟨⟨frame, tx⟩, received, equal⟩ := Option.map_eq_some_iff.mp taken
    cases equal
    refine inv.recv found stored looked ?_
    obtain ⟨_, _, equal⟩ := Option.map_eq_some_iff.mp received
    cases equal
    rfl
  · cases advanced

theorem Inv.begin (inv : Inv readFloat nodes state)
    (absent : state.calls.lookup caller = none) :
    Inv readFloat nodes { state with
      calls := state.calls.insert caller (operation, enter operation) } where
  locals := inv.locals
  subscribed := inv.subscribed
  published := inv.published
  delivered := by
    intro socket
    obtain ⟨received, enqueued, balanced⟩ := inv.delivered socket
    refine ⟨received, enqueued, fun message => ?_⟩
    have before : underway nodes socket message (operation, enter operation) =
        false := by
      cases operation <;> rfl
    have erased := Table.count_drop state.calls caller (underway nodes socket message)
    rw [absent] at erased
    rw [Table.count_put, before]
    simp only [Option.any_none, Bool.false_eq_true, if_false, Nat.add_zero] at erased ⊢
    rw [← erased]
    exact balanced message

theorem Inv.start (readFloat : DecimalText → Option DecimalText)
    (nodes : Table String Node) :
    Inv readFloat nodes { shared := .start nodes, calls := ∅, log := [] } where
  locals _ := rfl
  subscribed := by
    intro nodeId member
    rw [Cluster.start, Table.keys_mapValues]
    exact member
  published := by
    intro nodeId text member
    rw [inbox_start] at member
    cases member
  delivered := by
    intro socket
    refine ⟨[], (List.append_nil _).symm, fun message => ?_⟩
    rw [inbox_start]
    rfl

theorem Inv.of_run {actions : List Action} {final : State}
    (reached : (system readFloat nodes).run actions = some final)
    (roomy : (system readFloat nodes).Guarded Roomy actions) :
    Inv readFloat nodes final := by
  refine Calls.invariant (Inv.start readFloat nodes) ?_ ?_ reached roomy
  · intro state caller operation inv absent _
    exact inv.begin absent
  · intro state caller operation point choice cluster progress inv found roomy advanced
    exact inv.advance found roomy advanced

theorem Handled.inbox (handled : Handled state) (nodeId : String) :
    state.shared.inbox nodeId = [] := by
  cases stored : state.shared.inboxes.lookup nodeId with
  | none => rw [Cluster.inbox, stored, Option.getD_none]
  | some texts => exact handled.2 nodeId (Table.mem_keys_iff.mpr ⟨texts, stored⟩)

/-- Once every message has been handled, each socket of each node has been
enqueued one copy of each message that was for it, and nothing else. -/
theorem broadcast_exactly_once (readFloat : DecimalText → Option DecimalText)
    (nodes : Table String Node) (actions : List Action) (final : State)
    (reached : (system readFloat nodes).run actions = some final)
    (roomy : (system readFloat nodes).Guarded Roomy actions)
    (handled : Handled final) (socket : Socket) :
    ∃ received,
      final.shared.enqueued socket = (Cluster.start nodes).enqueued socket ++ received ∧
        received.Perm (due nodes socket final.log) := by
  obtain ⟨received, enqueued, balanced⟩ :=
    (Inv.of_run reached roomy).delivered socket
  refine ⟨received, enqueued, List.perm_iff_count.mpr fun message => ?_⟩
  have balance := balanced message
  rw [handled.inbox socket.nodeId, show final.calls = ∅ from handled.1,
    Table.count_empty] at balance
  exact balance

def sampleNodes : Table String Node :=
  let first := (Node.new.accept App.sample "1.1").addToChannel "app" "1.1" "room"
  let second := ((Node.new.accept App.sample "2.2").accept App.sample "3.3").addToChannel
    "app" "2.2" "room"
  (Finmap.insert "a" first ∅ : Table String Node).insert "b" second

def sampleCall (senderNode message : String) (exceptingId : Option String) :
    Operation :=
  .sendToChannel ⟨senderNode, "app", "room", message, exceptingId⟩

def step (caller : Caller) : Action := .advance caller ⟨.ascending, 0⟩

/-- Two calls that overlap; the second node takes the text of the later one
while the earlier has yet to write locally. -/
def overlapping : List Action :=
  [.begin (.request 0) (sampleCall "a" "one" none), step (.request 0),
    .begin (.request 1) (sampleCall "b" "two" (some "1.1")), step (.request 1),
    step (.request 1),
    .begin (.listener "b") .receive, step (.listener "b"),
    .begin (.listener "a") .receive, step (.listener "a"), step (.request 0),
    .begin (.listener "a") .receive, step (.listener "a"),
    .begin (.listener "b") .receive, step (.listener "b")]

theorem broadcast_exactly_once_overlapping :
    ∃ final, (system some sampleNodes).run overlapping = some final ∧
      ∃ received, final.shared.enqueued ⟨"b", "app", "2.2"⟩ =
          (Cluster.start sampleNodes).enqueued ⟨"b", "app", "2.2"⟩ ++ received ∧
        received.Perm ["one", "two"] := by
  have ends : (((system some sampleNodes).run overlapping).filter fun state =>
      state.calls = ∅ ∧
        (∀ nodeId ∈ state.shared.inboxes.keys, state.shared.inbox nodeId = []) ∧
        due sampleNodes ⟨"b", "app", "2.2"⟩ state.log = ["one", "two"]).isSome =
      true := by
    decide +kernel
  obtain ⟨final, found⟩ := Option.isSome_iff_exists.mp ends
  obtain ⟨reached, ended⟩ := Option.filter_eq_some_iff.mp found
  obtain ⟨quiet, taken, owed⟩ := of_decide_eq_true ended
  refine ⟨final, reached, ?_⟩
  have exactly := broadcast_exactly_once some sampleNodes overlapping final reached
    (by decide +kernel) ⟨quiet, taken⟩ ⟨"b", "app", "2.2"⟩
  rwa [owed] at exactly

end RushSocket.Server.Broadcast
