import RushSocket.Server.System
import RushSocket.Transition.Calls
import RushSocket.Websocket.Delivery

namespace RushSocket.Server.Latest

open Adapter Data Protocol Transition Websocket

/-! Triggers of one cache channel and subscribes to it.  Each call of the cache
or of the adapter and each send is one step; what a handler does to its own
connection belongs to the step next to it. -/

/-- What the handlers enqueue, before it is made a message. -/
inductive Frame where
  | subscriptionSucceeded
  | channelEvent (event : ServerMessage)
  | cacheMiss
  deriving DecidableEq

namespace Frame

def event? : Frame → Option ServerMessage
  | .channelEvent event => some event
  | .subscriptionSucceeded | .cacheMiss => none

end Frame

def lastEvent (frames : List Frame) : Option ServerMessage :=
  (frames.filterMap Frame.event?).getLast?

theorem lastEvent_append_event (frames : List Frame) (event : ServerMessage) :
    lastEvent (frames ++ [.channelEvent event]) = some event := by
  simp [lastEvent, Frame.event?]

theorem lastEvent_append {frame : Frame} (silent : frame.event? = none)
    (frames : List Frame) : lastEvent (frames ++ [frame]) = lastEvent frames := by
  simp [lastEvent, silent]

/-- What the handlers share: the namespace of the app, the connections and the
cache. -/
structure Node where
  ns : Namespace
  connections : Connections String Frame
  cache : MemoryCache
  deriving DecidableEq

namespace Node

def accept (app : App) (node : Node) (socketId : String) : Node :=
  { node with
    ns := node.ns.addSocket ⟨socketId⟩
    connections := node.connections.insert socketId (.new socketId app) }

def changeConn (node : Node) (socketId : String)
    (change : WsConnection Frame → WsConnection Frame) : Node :=
  { node with connections := node.connections.modify socketId change }

def send (node : Node) (socketId : String) (frame : Frame) : Node :=
  { node with connections := node.connections.send socketId frame }

def sendToChannel (order : HashOrder) (node : Node) (channel : String)
    (frame : Frame) (exceptingId : Option String) : Node :=
  { node with
    connections := node.connections.sendEach
      ((node.ns.recipients order channel exceptingId).map ConnHandle.socketId) frame }

def subscribers (channel : String) (node : Node) : Finset String :=
  node.ns.channels.members channel

def stored (app : App) (channel : String) (node : Node) : Option ServerMessage :=
  (node.cache.store.lookup (cacheKey app.id channel)).map CacheEntry.value

end Node

inductive Caller where
  | request (number : Nat)
  | socket (socketId : String)
  deriving DecidableEq

def Caller.socket? : Caller → Option String
  | .request _ => none
  | .socket socketId => some socketId

inductive Operation where
  | trigger (name data : String)
  | subscribe
  | recv
  deriving DecidableEq

inductive Point where
  | enter
  | send
  | succeed
  | fetch
  | replay (cached : Option ServerMessage)
  deriving DecidableEq

def enter (_ : Operation) : Point := .enter

def eventOf (channel name data : String) : ServerMessage :=
  .channelEvent name channel (ServerMessage.text data) none

def advance (app : App) (cacheTtl : Nat) (channel : String) (node : Node) :
    Caller → Operation → Point → Moment → Option (Node × Progress Point Unit)
  | .request _, .trigger name data, .enter, moment =>
      let cached : Node :=
        if (ChannelKind.fromName channel).isCache && app.enableCacheChannels then
          { node with
            cache := node.cache.set moment.now (cacheKey app.id channel)
              (eventOf channel name data) cacheTtl }
        else node
      some (cached, .running .send)
  | .request _, .trigger name data, .send, moment =>
      some (node.sendToChannel (moment.recipientOrder channel) channel
        (.channelEvent (eventOf channel name data)) none, .finished ())
  | .socket socketId, .subscribe, .enter, _ =>
      (node.connections.lookup socketId).map fun conn =>
        if conn.isSubscribed channel then (node, .finished ())
        else
          let joined : Node :=
            { node with ns := (node.ns.addToChannel socketId channel).1 }
          (joined.changeConn socketId fun stored =>
              if (ChannelKind.fromName channel).requiresAuth then
                (stored.addChannel channel).authenticate
              else stored.addChannel channel,
            .running .succeed)
  | .socket socketId, .subscribe, .succeed, _ =>
      -- the webhooks and the count that follow change nothing of the node
      some (node.send socketId .subscriptionSucceeded,
        if (ChannelKind.fromName channel).isCache then .running .fetch
        else .finished ())
  | .socket socketId, .subscribe, .fetch, moment =>
      (node.connections.lookup socketId).map fun conn =>
        if conn.app.enableCacheChannels then
          (node, .running (.replay
            (node.cache.get moment.now (cacheKey conn.app.id channel))))
        else (node, .finished ())
  | .socket socketId, .subscribe, .replay cached, _ =>
      some (node.send socketId
        (match cached with
          | some event => .channelEvent event
          | none => .cacheMiss), .finished ())
  | .socket socketId, .recv, .enter, _ =>
      (node.connections.lookup socketId).bind fun conn =>
        conn.tx.recv.map fun (_, tx) =>
          (node.changeConn socketId fun stored => { stored with tx }, .finished ())
  | _, _, _, _ => none

def code (app : App) (cacheTtl : Nat) (channel : String) :
    Code Node Caller Operation Point Moment Unit where
  enter := enter
  advance := advance app cacheTtl channel

abbrev State := Calls Node Caller Operation Point Unit
abbrev Action := CallAction Caller Operation Moment
abbrev Call := Option (Operation × Point)

def accepted (app : App) (socketIds : List String) : Node :=
  socketIds.foldl (Node.accept app) ⟨.new, ∅, .new⟩

/-- Any number of requests trigger the channel; the accepted connections
subscribe by the public or the private branch, and take frames out. -/
def system (app : App) (cacheTtl : Nat) (channel : String)
    (socketIds : List String) : System State Action :=
  Calls.system (code app cacheTtl channel)
    (fun _ caller operation =>
      match caller, operation with
      | .request _, .trigger _ _ => true
      | .socket socketId, .subscribe =>
          socketId ∈ socketIds && !(ChannelKind.fromName channel).isPresence
      | .socket socketId, .recv => socketId ∈ socketIds
      | _, _ => false)
    (accepted app socketIds)

/-! What a run may do. -/

def Unexpired (app : App) (channel : String) (state : State) : Action → Prop
  | .begin _ _ => True
  | .advance _ moment =>
      ∀ entry ∈ state.shared.cache.store.lookup (cacheKey app.id channel),
        moment.now < entry.expiresAt

/-- The event that the next step of a trigger broadcasts. -/
def owes (channel : String) : Call → Option ServerMessage
  | some (.trigger name data, .send) => some (eventOf channel name data)
  | _ => none

/-- The event that the next step of a subscribe replays. -/
def replays : Call → Option ServerMessage
  | some (.subscribe, .replay cached) => cached
  | _ => none

/-- The caller has joined and may yet replay an event. -/
def awaits : Call → Bool
  | some (.subscribe, .succeed) | some (.subscribe, .fetch)
  | some (.subscribe, .replay (some _)) => true
  | _ => false

def Owed (channel : String) (calls : Table Caller (Operation × Point))
    (excepted : Caller) (event : ServerMessage) : Prop :=
  ∃ other, other ≠ excepted ∧ owes channel (calls.lookup other) = some event

/-- An event is sent to a connection that takes it only while it is the one in
the cache, or another trigger has yet to broadcast the one in the cache, or the
connection may yet replay it. -/
def Current (app : App) (channel : String) (state : State) : Action → Prop
  | .begin _ _ => True
  | .advance caller _ =>
      (∀ event ∈ replays (state.calls.lookup caller),
        ∀ latest ∈ state.shared.stored app channel, event = latest ∨
          ∀ socketId ∈ caller.socket?,
            state.shared.connections.takes socketId = true →
              Owed channel state.calls caller latest) ∧
      ∀ event ∈ owes channel (state.calls.lookup caller),
        ∀ latest ∈ state.shared.stored app channel, event = latest ∨
          ∀ socketId ∈ state.shared.subscribers channel,
            state.shared.connections.takes socketId = true →
              awaits (state.calls.lookup (.socket socketId)) = false →
                Owed channel state.calls caller latest

/-! The invariant of the runs. -/

variable {app : App} {cacheTtl : Nat} {channel socketId own : String}
  {socketIds : List String} {node : Node} {state : State} {caller : Caller}
  {operation : Operation} {point : Point} {progress : Progress Point Unit}
  {moment : Moment} {frame : Frame} {frames : List Frame}

def Serves (app : App) (ns : Namespace) (socketId : String)
    (conn : WsConnection Frame) : Prop :=
  conn.app = app ∧ ns.sockets.lookup socketId = some ⟨socketId⟩

/-- Each connection and each subscriber is known to the namespace. -/
structure Node.Served (app : App) (channel : String) (node : Node) : Prop where
  each : node.connections.Each (Serves app node.ns)
  registered : ∀ socketId ∈ node.subscribers channel,
    node.ns.sockets.lookup socketId = some ⟨socketId⟩

/-- The last event of the frames is the one in the cache, or a broadcast still
to be made brings that one. -/
def Follows (channel : String) (calls : Table Caller (Operation × Point))
    (stored : Option ServerMessage) (frames : List Frame) : Prop :=
  ∀ latest ∈ stored, lastEvent frames = some latest ∨
    ∃ caller, owes channel (calls.lookup caller) = some latest

def isTrigger : Operation → Bool
  | .trigger _ _ => true
  | .subscribe | .recv => false

structure Inv (app : App) (channel : String) (state : State) : Prop where
  served : state.shared.Served app channel
  follows : ∀ socketId ∈ state.shared.subscribers channel,
    awaits (state.calls.lookup (.socket socketId)) = false → ∀ frames,
      state.shared.connections.Heard socketId frames →
        Follows channel state.calls (state.shared.stored app channel) frames
  cached : state.shared.stored app channel = none →
    (∀ caller, owes channel (state.calls.lookup caller) = none) ∧
      ∀ done ∈ state.log, isTrigger done.operation = false

theorem app_sendRaw (conn : WsConnection Frame) (frame : Frame) :
    (conn.sendRaw frame).app = conn.app := by
  unfold WsConnection.sendRaw
  split <;> rfl

theorem Node.Served.changeConn {change : WsConnection Frame → WsConnection Frame}
    (served : node.Served app channel)
    (kept : ∀ conn, (change conn).app = conn.app) (changed : String) :
    (node.changeConn changed change).Served app channel where
  each := served.each.modify fun conn => And.imp_left (kept conn).trans
  registered := served.registered

theorem Node.Served.send (served : node.Served app channel) (sent : String)
    (frame : Frame) : (node.send sent frame).Served app channel :=
  served.changeConn (fun conn => app_sendRaw conn frame) sent

theorem Node.Served.sendToChannel (served : node.Served app channel)
    (order : HashOrder) (frame : Frame) (exceptingId : Option String) :
    (node.sendToChannel order channel frame exceptingId).Served app channel where
  each := served.each.sendEach
    (fun _ conn => And.imp_left (app_sendRaw conn frame).trans) _
  registered := served.registered

theorem Node.Served.join {conn : WsConnection Frame}
    (served : node.Served app channel)
    (stored : node.connections.lookup own = some conn) :
    Node.Served app channel
        { node with ns := (node.ns.addToChannel own channel).1 } ∧
      Node.subscribers channel
        { node with ns := (node.ns.addToChannel own channel).1 } =
          insert own (node.subscribers channel) := by
  have handle := (served.each own conn stored).2
  have named : node.ns.findSocketId own = own := by
    simp [Namespace.findSocketId, handle]
  have joined : Node.subscribers channel
      { node with ns := (node.ns.addToChannel own channel).1 } =
        insert own (node.subscribers channel) := by
    simp [Node.subscribers, Namespace.members_addToChannel, named]
  refine ⟨⟨served.each, ?_⟩, joined⟩
  intro socketId member
  rw [joined, Finset.mem_insert] at member
  rcases member with rfl | member
  · exact handle
  · exact served.registered socketId member

theorem Node.Served.heard_sendToChannel (served : node.Served app channel)
    {order : HashOrder} (member : socketId ∈ node.subscribers channel)
    (heard : (node.sendToChannel order channel frame none).connections.Heard
      socketId frames) :
    node.connections.takes socketId = true ∧
      ∃ earlier, frames = earlier ++ [frame] := by
  have recipients := Namespace.recipients_of_registered served.registered order none
  have everyone : (node.ns.recipients order channel none).map ConnHandle.socketId =
      order.list (node.subscribers channel) := by
    rw [recipients]
    simp [Node.subscribers]
  rw [Node.sendToChannel, everyone] at heard
  rcases Connections.heard_sendEach (order.nodup _) heard with
    ⟨absent, _⟩ | ⟨_, takes, earlier, equal, _⟩
  · exact absurd (order.mem_list.mpr member) absent
  · exact ⟨takes, earlier, equal⟩

/-- A step of the handler of a connection changes what that connection knows
and nothing else. -/
theorem Inv.step (inv : Inv app channel state)
    (found : state.calls.lookup (.socket own) = some (operation, point))
    (idle : isTrigger operation = false)
    (served : node.Served app channel)
    (cache : node.cache = state.shared.cache)
    (others : ∀ other, other ≠ own →
      (other ∈ node.subscribers channel →
        other ∈ state.shared.subscribers channel) ∧
      ∀ frames, node.connections.Heard other frames →
        state.shared.connections.Heard other frames)
    (follows : own ∈ node.subscribers channel →
      awaits (progress.call operation) = false → ∀ frames,
        node.connections.Heard own frames →
          Follows channel state.calls (state.shared.stored app channel) frames) :
    Inv app channel (state.settle (.socket own) operation node progress) := by
  have quiet : ∀ next : Point, owes channel (some (operation, next)) = none := by
    intro next
    cases operation with
    | trigger name data => cases idle
    | subscribe | recv => rfl
  have after : owes channel (progress.call operation) = none := by
    cases progress with
    | running next => exact quiet next
    | finished returned => rfl
  have debts : ∀ caller, owes channel
      ((state.settle (.socket own) operation node progress).calls.lookup caller) =
        owes channel (state.calls.lookup caller) := by
    intro caller
    rw [Calls.lookup_settle]
    split
    · rename_i same
      rw [same, found, quiet point, after]
    · rfl
  have stored : node.stored app channel = state.shared.stored app channel := by
    rw [Node.stored, cache]
    rfl
  have onward : ∀ frames,
      Follows channel state.calls (state.shared.stored app channel) frames →
        Follows channel (state.settle (.socket own) operation node progress).calls
          (node.stored app channel) frames := by
    intro frames told latest held
    rw [stored] at held
    simp only [debts]
    exact told latest held
  exact {
    served := by
      rw [Calls.settle_shared]
      exact served
    follows := by
      intro socketId member before frames heard
      rw [Calls.settle_shared] at member heard ⊢
      rw [Calls.lookup_settle] at before
      by_cases same : socketId = own
      · subst same
        rw [if_pos rfl] at before
        exact onward frames (follows member before frames heard)
      · rw [if_neg (by simpa using same)] at before
        have left := others socketId same
        exact onward frames
          (inv.follows socketId (left.1 member) before frames (left.2 frames heard))
    cached := by
      intro empty
      rw [Calls.settle_shared, stored] at empty
      simp only [debts]
      refine ⟨(inv.cached empty).1, ?_⟩
      intro done member
      cases progress with
      | running next => exact (inv.cached empty).2 done member
      | finished returned =>
          rcases List.mem_cons.mp member with rfl | earlier
          · exact idle
          · exact (inv.cached empty).2 done earlier }

/-- The step of a trigger that fills the cache.  From here on the trigger owes
what is in the cache to everyone. -/
theorem Inv.set {number : Nat} {name data : String} {cache : MemoryCache}
    (inv : Inv app channel state)
    (stored : ({ state.shared with cache } : Node).stored app channel =
      some (eventOf channel name data)) :
    Inv app channel (state.settle (.request number) (.trigger name data)
      { state.shared with cache } (.running .send)) where
  served := ⟨inv.served.each, inv.served.registered⟩
  follows := by
    intro socketId _ _ frames _ latest held
    rw [Calls.settle_shared, stored] at held
    cases held
    refine .inr ⟨.request number, ?_⟩
    rw [Calls.lookup_settle, if_pos rfl]
    rfl
  cached := by
    intro empty
    rw [Calls.settle_shared, stored] at empty
    cases empty

theorem Inv.broadcast {number : Nat} {name data : String} {order : HashOrder}
    (inv : Inv app channel state)
    (found : state.calls.lookup (.request number) =
      some (.trigger name data, .send))
    (current : ∀ latest ∈ state.shared.stored app channel,
      eventOf channel name data = latest ∨
        ∀ socketId ∈ state.shared.subscribers channel,
          state.shared.connections.takes socketId = true →
            awaits (state.calls.lookup (.socket socketId)) = false →
              Owed channel state.calls (.request number) latest) :
    Inv app channel (state.settle (.request number) (.trigger name data)
      (state.shared.sendToChannel order channel
        (.channelEvent (eventOf channel name data)) none) (.finished ())) where
  served := inv.served.sendToChannel order _ none
  follows := by
    intro socketId member before frames heard latest held
    rw [Calls.settle_shared] at member heard held
    rw [Calls.lookup_settle, if_neg (by simp)] at before
    obtain ⟨takes, earlier, rfl⟩ := inv.served.heard_sendToChannel member heard
    rw [lastEvent_append_event]
    rcases current latest held with rfl | owed
    · exact .inl rfl
    · obtain ⟨other, different, owing⟩ := owed socketId member takes before
      refine .inr ⟨other, ?_⟩
      rw [Calls.lookup_settle, if_neg different]
      exact owing
  cached := by
    intro empty
    have none := (inv.cached empty).1 (.request number)
    rw [found] at none
    cases none

theorem Inv.subscribe (inv : Inv app channel state)
    (kind : (ChannelKind.fromName channel).isCache = true)
    (enabled : app.enableCacheChannels = true)
    (found : state.calls.lookup (.socket own) = some (.subscribe, point))
    (unexpired : Unexpired app channel state (.advance (.socket own) moment))
    (current : Current app channel state (.advance (.socket own) moment))
    (advanced : advance app cacheTtl channel state.shared (.socket own) .subscribe
      point moment = some (node, progress)) :
    Inv app channel (state.settle (.socket own) .subscribe node progress) := by
  have before := inv.follows own
  rw [found] at before
  cases point with
  | enter =>
      obtain ⟨conn, stored, equal⟩ := Option.map_eq_some_iff.mp advanced
      split at equal
      · cases equal
        exact inv.step found rfl inv.served rfl (fun _ _ => ⟨id, fun _ => id⟩)
          fun member _ => before member rfl
      · cases equal
        obtain ⟨served, joined⟩ := inv.served.join stored
        refine inv.step found rfl (served.changeConn (fun conn => ?_) own) rfl ?_
          fun _ after => nomatch after
        · split <;> rfl
        · intro other different
          refine ⟨fun member => ?_, fun frames heard => ?_⟩
          · have member := Finset.mem_insert.mp (joined ▸ member)
            exact member.resolve_left different
          · refine (Connections.heard_modify fun conn _ => ?_).mp heard
            split <;> exact ⟨rfl, rfl⟩
  | send => cases advanced
  | succeed =>
      simp only [advance, kind, if_true] at advanced
      cases advanced
      exact inv.step found rfl (inv.served.send own _) rfl
        (fun other different =>
          ⟨id, fun _ => Connections.heard_send_other different⟩)
        fun _ after => nomatch after
  | fetch =>
      obtain ⟨conn, stored, equal⟩ := Option.map_eq_some_iff.mp advanced
      have ofApp := (inv.served.each own conn stored).1
      rw [ofApp, if_pos enabled] at equal
      cases equal
      refine inv.step found rfl inv.served rfl (fun _ _ => ⟨id, fun _ => id⟩) ?_
      intro member after frames heard latest held
      -- what is in the cache has been fetched, and has yet to be replayed
      have fetched : state.shared.cache.get moment.now (cacheKey app.id channel) =
          some latest :=
        (MemoryCache.get_of_unexpired unexpired).trans held
      rw [fetched] at after
      cases after
  | replay cached =>
      cases advanced
      refine inv.step found rfl (inv.served.send own _) rfl
        (fun other different =>
          ⟨id, fun _ => Connections.heard_send_other different⟩) ?_
      intro member _ frames heard latest held
      rcases Connections.heard_send heard with
        ⟨different, _⟩ | ⟨_, takes, earlier, rfl, sooner⟩
      · exact absurd rfl different
      · cases cached with
        | none =>
            rw [lastEvent_append rfl]
            exact before member rfl earlier sooner latest held
        | some event =>
            rw [lastEvent_append_event]
            have current := current.1
            rw [found] at current
            rcases current event rfl latest held with rfl | owed
            · exact .inl rfl
            · obtain ⟨other, _, owing⟩ := owed own rfl takes
              exact .inr ⟨other, owing⟩

theorem Inv.recv (inv : Inv app channel state)
    (found : state.calls.lookup (.socket own) = some (.recv, point))
    (advanced : advance app cacheTtl channel state.shared (.socket own) .recv
      point moment = some (node, progress)) :
    Inv app channel (state.settle (.socket own) .recv node progress) := by
  have before := inv.follows own
  rw [found] at before
  cases point with
  | enter =>
      obtain ⟨conn, stored, taken⟩ := Option.bind_eq_some_iff.mp advanced
      obtain ⟨⟨frame, tx⟩, received, equal⟩ := Option.map_eq_some_iff.mp taken
      cases equal
      have silent : ∀ other, state.shared.connections.lookup own = some other →
          tx.enqueued = other.tx.enqueued ∧ other.forceClose = other.forceClose := by
        intro other same
        cases stored.symm.trans same
        obtain ⟨_, _, equal⟩ := Option.map_eq_some_iff.mp received
        cases equal
        exact ⟨rfl, rfl⟩
      refine inv.step found rfl (inv.served.changeConn (fun conn => ?_) own) rfl
        (fun other _ => ⟨id, fun frames => (Connections.heard_modify silent).mp⟩) ?_
      · rfl
      · intro member _ frames heard
        exact before member rfl frames ((Connections.heard_modify silent).mp heard)
  | send => cases advanced
  | succeed => cases advanced
  | fetch => cases advanced
  | replay cached => cases advanced

theorem Inv.trigger {number : Nat} {name data : String}
    (inv : Inv app channel state)
    (kind : (ChannelKind.fromName channel).isCache = true)
    (enabled : app.enableCacheChannels = true)
    (found : state.calls.lookup (.request number) =
      some (.trigger name data, point))
    (current : Current app channel state (.advance (.request number) moment))
    (advanced : advance app cacheTtl channel state.shared (.request number)
      (.trigger name data) point moment = some (node, progress)) :
    Inv app channel
      (state.settle (.request number) (.trigger name data) node progress) := by
  cases point with
  | enter =>
      simp only [advance, kind, enabled, Bool.and_self, if_true] at advanced
      cases advanced
      apply inv.set
      simp [Node.stored, MemoryCache.set]
  | send =>
      cases advanced
      have current := current.2
      rw [found] at current
      exact inv.broadcast found (current _ rfl)
  | succeed => cases advanced
  | fetch => cases advanced
  | replay cached => cases advanced

theorem Inv.advance (inv : Inv app channel state)
    (kind : (ChannelKind.fromName channel).isCache = true)
    (enabled : app.enableCacheChannels = true)
    (found : state.calls.lookup caller = some (operation, point))
    (unexpired : Unexpired app channel state (.advance caller moment))
    (current : Current app channel state (.advance caller moment))
    (advanced : Latest.advance app cacheTtl channel state.shared caller operation
      point moment = some (node, progress)) :
    Inv app channel (state.settle caller operation node progress) := by
  cases caller with
  | request number =>
      cases operation with
      | trigger name data => exact inv.trigger kind enabled found current advanced
      | subscribe | recv => cases point <;> cases advanced
  | socket own =>
      cases operation with
      | trigger name data => cases point <;> cases advanced
      | subscribe =>
          exact inv.subscribe kind enabled found unexpired current advanced
      | recv => exact inv.recv found advanced

theorem Inv.begin (inv : Inv app channel state)
    (absent : state.calls.lookup caller = none) :
    Inv app channel { state with
      calls := state.calls.insert caller (operation, .enter) } := by
  have debts : ∀ other, owes channel
      (Finmap.lookup other (state.calls.insert caller (operation, .enter))) =
        owes channel (state.calls.lookup other) := by
    intro other
    rw [Table.lookup_put]
    split
    · rename_i same
      rw [same, absent]
      cases operation <;> rfl
    · rfl
  exact {
    served := inv.served
    follows := by
      intro socketId member before frames heard latest held
      simp only [debts]
      refine inv.follows socketId member ?_ frames heard latest held
      rw [Table.lookup_put] at before
      split at before
      · rename_i same
        rw [same, absent]
        rfl
      · exact before
    cached := by
      intro empty
      simp only [debts]
      exact inv.cached empty }

theorem accepted_append (app : App) (socketIds : List String) (socketId : String) :
    accepted app (socketIds ++ [socketId]) =
      (accepted app socketIds).accept app socketId := by
  simp [accepted]

theorem served_accepted (app : App) (channel : String) (socketIds : List String) :
    (accepted app socketIds).Served app channel ∧
      (accepted app socketIds).subscribers channel = ∅ := by
  induction socketIds using List.reverseRecOn with
  | nil =>
      refine ⟨⟨?_, fun socketId member => absurd member (Finset.notMem_empty socketId)⟩,
        rfl⟩
      intro socketId conn stored
      rw [accepted, List.foldl_nil, Finmap.lookup_empty] at stored
      cases stored
  | append_singleton socketIds last induction =>
      obtain ⟨served, empty⟩ := induction
      rw [accepted_append]
      refine ⟨⟨?_, fun socketId member => ?_⟩, empty⟩
      · have before : (accepted app socketIds).connections.Each
            (Serves app ((accepted app socketIds).accept app last).ns) := by
          intro socketId conn stored
          obtain ⟨ofApp, handle⟩ := served.each socketId conn stored
          refine ⟨ofApp, ?_⟩
          rw [Node.accept, Namespace.addSocket, Table.lookup_put]
          split
          · rename_i same
            rw [same]
          · exact handle
        refine before.insert ⟨rfl, ?_⟩
        rw [Node.accept, Namespace.addSocket, Table.lookup_put, if_pos rfl]
      · change socketId ∈ (accepted app socketIds).subscribers channel at member
        rw [empty] at member
        cases member

theorem Inv.start (app : App) (channel : String) (socketIds : List String) :
    Inv app channel { shared := accepted app socketIds, calls := ∅, log := [] } := by
  obtain ⟨served, empty⟩ := served_accepted app channel socketIds
  exact {
    served
    follows := by simp [empty]
    cached := by simp [owes] }

theorem Inv.of_run {actions : List Action} {final : State}
    (kind : (ChannelKind.fromName channel).isCache = true)
    (enabled : app.enableCacheChannels = true)
    (reached : (system app cacheTtl channel socketIds).run actions = some final)
    (unexpired : (system app cacheTtl channel socketIds).Guarded
      (Unexpired app channel) actions)
    (current : (system app cacheTtl channel socketIds).Guarded
      (Current app channel) actions) :
    Inv app channel final := by
  refine Calls.invariant (Inv.start app channel socketIds) ?_ ?_ reached
    (System.Guarded.and _ unexpired current)
  · intro state caller operation inv absent _
    exact inv.begin absent
  · intro state caller operation point moment node progress inv found allowed advanced
    exact inv.advance kind enabled found allowed.1 allowed.2 advanced

def Triggered (state : State) : Prop :=
  ∃ done ∈ state.log, isTrigger done.operation = true

/-- The last event enqueued to each subscriber that is not flagged is the one in
the cache. -/
def UpToDate (app : App) (channel : String) (state : State) : Prop :=
  ∃ latest, state.shared.stored app channel = some latest ∧
    ∀ socketId ∈ state.shared.subscribers channel, ∀ conn,
      state.shared.connections.lookup socketId = some conn →
        conn.forceClose = false → lastEvent conn.tx.enqueued = some latest

/-- In every interleaving in which what is sent is what is in the cache, or is
overtaken by a send still to be made, the subscribers end on the event in the
cache. -/
theorem subscribers_up_to_date (app : App) (cacheTtl : Nat) (channel : String)
    (socketIds : List String) (actions : List Action) (final : State)
    (kind : (ChannelKind.fromName channel).isCache = true)
    (enabled : app.enableCacheChannels = true)
    (reached : (system app cacheTtl channel socketIds).run actions = some final)
    (unexpired : (system app cacheTtl channel socketIds).Guarded
      (Unexpired app channel) actions)
    (current : (system app cacheTtl channel socketIds).Guarded
      (Current app channel) actions)
    (quiet : final.Quiet) (triggered : Triggered final) :
    UpToDate app channel final := by
  have inv := Inv.of_run kind enabled reached unexpired current
  cases stored : final.shared.stored app channel with
  | none =>
      obtain ⟨done, member, trigger⟩ := triggered
      rw [(inv.cached stored).2 done member] at trigger
      cases trigger
  | some latest =>
      refine ⟨latest, stored, fun socketId member conn found unflagged => ?_⟩
      have follows := inv.follows socketId member (by rw [quiet.lookup]; rfl)
        conn.tx.enqueued ⟨conn, found, unflagged, rfl⟩ latest stored
      rcases follows with told | ⟨caller, owing⟩
      · exact told
      · rw [quiet.lookup] at owing
        cases owing

/-! The conditions can be computed: only a call in progress owes an event. -/

instance (app : App) (channel : String) (state : State) :
    (action : Action) → Decidable (Unexpired app channel state action)
  | .begin _ _ => .isTrue trivial
  | .advance _ _ => by
      unfold Unexpired
      infer_instance

instance (channel : String) (calls : Table Caller (Operation × Point))
    (excepted : Caller) (event : ServerMessage) :
    Decidable (Owed channel calls excepted event) :=
  decidable_of_iff (∃ other ∈ calls.keys, other ≠ excepted ∧
      owes channel (calls.lookup other) = some event) <| by
    refine exists_congr fun other => and_iff_right_of_imp ?_
    rintro ⟨_, owing⟩
    cases found : calls.lookup other with
    | none => simp [found, owes] at owing
    | some call => exact Table.mem_keys_iff.mpr ⟨call, found⟩

instance (app : App) (channel : String) (state : State) :
    (action : Action) → Decidable (Current app channel state action)
  | .begin _ _ => .isTrue trivial
  | .advance _ _ => by
      unfold Current
      infer_instance

def steps (caller : Caller) (count : Nat) : List Action :=
  List.replicate count (.advance caller Sample.moment)

def subscribeWhole (socketId : String) : List Action :=
  .begin (.socket socketId) .subscribe :: steps (.socket socketId) 4

def ordered : List Action :=
  subscribeWhole "1.1" ++
    [.begin (.request 0) (.trigger "news" "a")] ++ steps (.request 0) 2 ++
    subscribeWhole "2.2" ++
    [.begin (.request 1) (.trigger "news" "b"),
      .begin (.request 2) (.trigger "news" "c")] ++
    steps (.request 1) 1 ++ steps (.request 2) 1 ++ steps (.request 1) 1 ++
    steps (.request 2) 1

theorem subscribers_up_to_date_ordered :
    ∃ final, (system App.sample 60 "cache-room" ["1.1", "2.2"]).run ordered =
      some final ∧ UpToDate App.sample "cache-room" final := by
  have ends : (((system App.sample 60 "cache-room" ["1.1", "2.2"]).run
      ordered).filter fun state => state.calls = ∅ ∧
        ∃ done ∈ state.log, isTrigger done.operation = true).isSome = true := by
    decide +kernel
  obtain ⟨final, found⟩ := Option.isSome_iff_exists.mp ends
  obtain ⟨reached, ended⟩ := Option.filter_eq_some_iff.mp found
  obtain ⟨quiet, triggered⟩ := of_decide_eq_true ended
  exact ⟨final, reached, subscribers_up_to_date App.sample 60 "cache-room"
    ["1.1", "2.2"] ordered final (by decide) rfl reached (by decide +kernel)
    (by decide +kernel) quiet triggered⟩

/-- A trigger falls between the fetch of a subscriber and its replay. -/
def overtaken : List Action :=
  [.begin (.request 0) (.trigger "news" "a")] ++ steps (.request 0) 2 ++
    [.begin (.socket "1.1") .subscribe] ++ steps (.socket "1.1") 3 ++
    [.begin (.request 1) (.trigger "news" "b")] ++ steps (.request 1) 2 ++
    steps (.socket "1.1") 1

theorem replay_overtaken :
    ∃ final, (system App.sample 60 "cache-room" ["1.1"]).run overtaken = some final ∧
      (system App.sample 60 "cache-room" ["1.1"]).Guarded
        (Unexpired App.sample "cache-room") overtaken ∧
      final.Quiet ∧ Triggered final ∧ ¬ UpToDate App.sample "cache-room" final := by
  have ends : (((system App.sample 60 "cache-room" ["1.1"]).run overtaken).bind
      fun state => (state.shared.connections.lookup "1.1").filter fun conn =>
        state.calls = ∅ ∧ (∃ done ∈ state.log, isTrigger done.operation = true) ∧
          "1.1" ∈ state.shared.subscribers "cache-room" ∧ conn.forceClose = false ∧
          state.shared.stored App.sample "cache-room" ≠
            lastEvent conn.tx.enqueued).isSome = true := by
    decide +kernel
  obtain ⟨conn, found⟩ := Option.isSome_iff_exists.mp ends
  obtain ⟨state, reached, found⟩ := Option.bind_eq_some_iff.mp found
  obtain ⟨stored, holds⟩ := Option.filter_eq_some_iff.mp found
  obtain ⟨quiet, triggered, member, unflagged, differs⟩ := of_decide_eq_true holds
  refine ⟨state, reached, by decide +kernel, quiet, triggered, ?_⟩
  rintro ⟨latest, held, upToDate⟩
  exact differs (held.trans (upToDate "1.1" member conn stored unflagged).symm)

end RushSocket.Server.Latest
