import RushSocket.Adapter.Namespace
import RushSocket.Protocol.Channels
import RushSocket.Transition.Calls
import RushSocket.Websocket.Connection

namespace RushSocket.Server.Roster

open Adapter Data Protocol Transition Websocket

/-! The presence branches of the handlers of many connections, for one presence
channel.  Each call of the adapter and each send is one step; what a handler
does to its own connection belongs to the step next to it. -/

/-- What the handlers enqueue, before it is made a message. -/
inductive Frame where
  | error (message : String) (code : Option UInt16)
  | subscriptionSucceeded (ids : List String) (hash : Json) (count : Nat)
  | memberAdded (userId : String) (userInfo : Value)
  | memberRemoved (userId : String)
  | cacheMiss
  deriving DecidableEq

namespace Frame

/-- What the client makes of a frame. -/
def apply (roster : Finset String) : Frame → Finset String
  | .subscriptionSucceeded ids _ _ => ids.toFinset
  | .memberAdded userId _ => insert userId roster
  | .memberRemoved userId => roster.erase userId
  | .error _ _ | .cacheMiss => roster

end Frame

/-- The roster a client has after its frames.  A subscription that succeeds
forgets what was there before it. -/
def rosterOf (frames : List Frame) : Finset String :=
  frames.foldl Frame.apply ∅

theorem rosterOf_append (frames : List Frame) (frame : Frame) :
    rosterOf (frames ++ [frame]) = frame.apply (rosterOf frames) := by
  simp [rosterOf]

/-- What the handlers share: the namespace of the app and the connections. -/
structure Node where
  ns : Namespace
  connections : Table String (WsConnection Frame)
  deriving DecidableEq

namespace Node

def accept (app : App) (node : Node) (socketId : String) : Node where
  ns := node.ns.addSocket ⟨socketId⟩
  connections := node.connections.insert socketId (.new socketId app)

def changeConn (node : Node) (socketId : String)
    (change : WsConnection Frame → WsConnection Frame) : Node :=
  { node with connections := node.connections.modify socketId change }

def send (node : Node) (socketId : String) (frame : Frame) : Node :=
  node.changeConn socketId fun conn => conn.sendRaw frame

def sendAll (node : Node) (recipients : List ConnHandle) (frame : Frame) : Node :=
  recipients.foldl (fun node conn => node.send conn.socketId frame) node

def sendToChannel (order : HashOrder) (node : Node) (channel : String)
    (frame : Frame) (exceptingId : Option String) : Node :=
  node.sendAll (node.ns.recipients order channel exceptingId) frame

end Node

inductive Operation where
  | subscribe (userId : String) (userInfo : Value)
  | unsubscribe
  | close
  | recv
  deriving DecidableEq

inductive Point where
  | enter
  | refuse
  | join (isNewMember : Bool) (members : Table String Value)
  | succeed (isNewMember : Bool) (members : Table String Value)
  | announce
  | replay
  | tell (userId : String)
  | leave
  | remove
  deriving DecidableEq

def enter (_ : Operation) : Point := .enter

/-- After the roster of the subscriber is complete: only a cache channel has
something more to send. -/
def afterwards (channel : String) : Progress Point Unit :=
  if (ChannelKind.fromName channel).isCache then .running .replay else .finished ()

def withdraw (channel : String) (node : Node) (socketId userId : String) :
    Node × Progress Point Unit :=
  let (ns, userGone) := node.ns.removePresenceMember channel socketId userId
  ({ node with ns }, .running (if userGone then .tell userId else .leave))

def advance (channel : String) (node : Node) (socketId : String) :
    Operation → Point → HashOrder → Option (Node × Progress Point Unit)
  | .subscribe userId userInfo, .enter, _ =>
      (node.connections.lookup socketId).map fun conn =>
        if conn.isSubscribed channel then (node, .finished ())
        else
          match node.ns.tryAddPresenceMember channel socketId userId userInfo
              conn.app.maxPresenceMembersPerChannel with
          | (ns, .error ()) => ({ node with ns }, .running .refuse)
          | (ns, .ok (isNewMember, members)) =>
              ({ node with ns }, .running (.join isNewMember members))
  | .subscribe _ _, .refuse, _ =>
      some (node.send socketId (.error "Over presence member limit" (some 4009)),
        .finished ())
  | .subscribe userId userInfo, .join isNewMember members, _ =>
      let joined : Node :=
        { node with ns := (node.ns.addToChannel socketId channel).1 }
      some (joined.changeConn socketId fun conn =>
          ((conn.addChannel channel).setPresence channel userId userInfo).authenticate,
        .running (.succeed isNewMember members))
  | .subscribe _ _, .succeed isNewMember members, order =>
      some (node.send socketId (.subscriptionSucceeded (order.list members.keys)
          (Value.ofJson (.object (memberFields order members))).json members.size),
        if isNewMember then .running .announce else afterwards channel)
  | .subscribe userId userInfo, .announce, order =>
      some (node.sendToChannel order channel (.memberAdded userId userInfo)
        (some socketId), afterwards channel)
  | .subscribe _ _, .replay, _ =>
      -- nothing is triggered by these handlers, so the cache is empty
      (node.connections.lookup socketId).map fun conn =>
        if conn.app.enableCacheChannels then
          (node.send socketId .cacheMiss, .finished ())
        else (node, .finished ())
  | .unsubscribe, .enter, _ =>
      (node.connections.lookup socketId).map fun conn =>
        if !conn.isSubscribed channel then (node, .finished ())
        else
          match conn.getPresence channel with
          | some (userId, _) =>
              withdraw channel
                (node.changeConn socketId fun stored => stored.removePresence channel)
                socketId userId
          | none => (node, .running .leave)
  | .close, .enter, _ =>
      (node.connections.lookup socketId).map fun conn =>
        if !conn.isSubscribed channel then (node, .running .remove)
        else
          match conn.getPresence channel with
          | some (userId, _) => withdraw channel node socketId userId
          | none => (node, .running .leave)
  | .unsubscribe, .tell userId, order | .close, .tell userId, order =>
      some (node.sendToChannel order channel (.memberRemoved userId)
        (some socketId), .running .leave)
  | .unsubscribe, .leave, _ =>
      let left : Node :=
        { node with ns := (node.ns.removeFromChannel socketId channel).1 }
      some (left.changeConn socketId fun conn => conn.removeChannel channel,
        .finished ())
  | .close, .leave, _ =>
      some ({ node with ns := (node.ns.removeFromChannel socketId channel).1 },
        .running .remove)
  | .close, .remove, order =>
      some ({ node with ns := (node.ns.removeSocket order socketId).1 },
        .finished ())
  | .recv, .enter, _ =>
      (node.connections.lookup socketId).bind fun conn =>
        conn.tx.recv.map fun (_, tx) =>
          (node.changeConn socketId fun stored => { stored with tx }, .finished ())
  | _, _, _ => none

def code (channel : String) :
    Code Node String Operation Point HashOrder Unit where
  enter := enter
  advance := advance channel

abbrev State := Calls Node String Operation Point Unit
abbrev Action := CallAction String Operation HashOrder
abbrev Call := Option (Operation × Point)

/-- The socket is one of those accepted and has not been closed. -/
def isOpen (socketIds : List String)
    (log : List (Finished String Operation Unit)) (socketId : String) : Bool :=
  socketId ∈ socketIds &&
    !log.any fun done => done.caller = socketId && done.operation = .close

/-- The node when these connections have been accepted and nothing else. -/
def accepted (app : App) (socketIds : List String) : Node :=
  socketIds.foldl (Node.accept app) ⟨.new, ∅⟩

/-- The task of a connection runs one handler at a time, and takes a frame out
of its channel in between; the last handler is the one that closes it. -/
def system (app : App) (channel : String) (socketIds : List String) :
    System State Action :=
  Calls.system (code channel)
    (fun log socketId _ =>
      (ChannelKind.fromName channel).isPresence && isOpen socketIds log socketId)
    (accepted app socketIds)

end RushSocket.Server.Roster
