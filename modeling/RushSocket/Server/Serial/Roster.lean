import RushSocket.Server.Convergence
import RushSocket.Server.Serial
import RushSocket.Transition.Alone

namespace RushSocket.Server.Roster

open Adapter Data Protocol Transition Websocket

/-! A call that no other call interrupts does to the node what the handler does
to the state. -/

variable {app : App} {channel socketId userId : String} {userInfo : Value}
  {node middle : Node} {cache : MemoryCache} {state after : AppState}
  {conn : WsConnection Frame} {operation : Operation} {point : Point}
  {order : HashOrder}

/-- The message that a frame stands for. -/
def Frame.message (channel : String) : Frame → ServerMessage
  | .error message code => .error message code
  | .subscriptionSucceeded ids hash count =>
      .presenceSubscriptionSucceeded channel ids hash count
  | .memberAdded userId userInfo => .memberAdded channel userId userInfo
  | .memberRemoved userId => .memberRemoved channel userId
  | .cacheMiss => .cacheMiss channel

def Node.Shown (app : App) (channel : String) (cache : MemoryCache) (node : Node)
    (state : AppState) : Prop :=
  Shows (Frame.message channel) app node.ns node.connections cache state

abbrev Attains (app : App) (channel : String) (cache : MemoryCache)
    (socketId : String) (operation : Operation) (node : Node) (point : Point)
    (after : AppState) : Prop :=
  (code channel).Attains socketId operation
    (fun next => next.Shown app channel cache after) node point

theorem shown_send (shown : node.Shown app channel cache state)
    (socketId : String) (frame : Frame) :
    (node.send socketId frame).Shown app channel cache
      (state.send socketId (frame.message channel)) :=
  Shows.send shown socketId frame

theorem shown_sendToChannel (shown : node.Shown app channel cache state)
    (moment : Moment) (frame : Frame) (exceptingId : Option String) :
    (node.sendToChannel (moment.recipientOrder channel) channel frame
        exceptingId).Shown app channel cache
      (state.sendToChannel moment app.id channel (frame.message channel)
        exceptingId) := by
  unfold Node.Shown Node.sendToChannel
  rw [ns_sendAll, connections_sendAll]
  exact Shows.sendToChannel shown moment channel frame exceptingId

/-! A subscription. -/

/-- What is left when the roster of the subscriber is complete. -/
theorem attains_afterwards (moment : Moment)
    (shown : middle.Shown app channel cache state)
    (known : socketId ∈ middle.connections.keys)
    (own : conn.socketId = socketId) (ofApp : conn.app = app)
    (uncached : cache.store.lookup (cacheKey app.id channel) = none)
    (advanced : (code channel).advance node socketId (.subscribe userId userInfo)
      point order = some (middle, afterwards channel)) :
    Attains app channel cache socketId (.subscribe userId userInfo) node point
      (Subscribe.replayIfCache moment state
        (conn.withMessages (Frame.message channel)) channel) := by
  unfold Subscribe.replayIfCache
  unfold afterwards at advanced
  split at advanced
  · rename_i isCache
    rw [if_pos isCache]
    obtain ⟨stored, found⟩ := Table.mem_keys_iff.mp known
    have sameApp : stored.app = app := (shown.each socketId stored found).2.1
    have missed : state.cache.get moment.now (cacheKey app.id channel) = none := by
      rw [shown.cached, MemoryCache.get, uncached, Option.bind_none]
    have replayed : (code channel).advance middle socketId
        (.subscribe userId userInfo) .replay order =
          some (if app.enableCacheChannels then middle.send socketId .cacheMiss
            else middle, .finished ()) := by
      simp only [code, advance, found, Option.map_some, sameApp]
      split <;> rfl
    refine .step advanced (.finish replayed ?_)
    simp only [Subscribe.replayCache, WsConnection.withMessages_socketId,
      WsConnection.withMessages_app, own, ofApp, missed]
    cases enabled : app.enableCacheChannels with
    | true => exact Shows.notify (shown_send shown socketId .cacheMiss) app.id _
    | false => exact shown
  · rename_i isCache
    rw [if_neg isCache]
    exact .finish advanced shown

theorem attains_announce (moment : Moment) (shown : node.Shown app channel cache state)
    (known : socketId ∈ node.connections.keys)
    (own : conn.socketId = socketId) (ofApp : conn.app = app)
    (uncached : cache.store.lookup (cacheKey app.id channel) = none) :
    Attains app channel cache socketId (.subscribe userId userInfo) node .announce
      (Subscribe.replayIfCache moment
        (Subscribe.announce moment state (conn.withMessages (Frame.message channel))
          channel userId userInfo)
        (conn.withMessages (Frame.message channel)) channel) := by
  let told := node.sendToChannel (moment.recipientOrder channel) channel
    (.memberAdded userId userInfo) (some socketId)
  have advanced : (code channel).advance node socketId (.subscribe userId userInfo)
      .announce (moment.recipientOrder channel) =
        some (told, afterwards channel) := rfl
  have stays : socketId ∈ told.connections.keys := by
    simp only [told, Node.sendToChannel, connections_sendAll,
      Connections.keys_sendEach]
    exact known
  refine attains_afterwards moment ?_ stays own ofApp uncached advanced
  simp only [Subscribe.announce, WsConnection.withMessages_socketId,
    WsConnection.withMessages_app, own, ofApp]
  exact Shows.notify (shown_sendToChannel shown moment
    (.memberAdded userId userInfo) (some socketId)) app.id _

theorem attains_succeed {members : Table String Value} {isNewMember : Bool}
    (moment : Moment)
    (shown : (node.send socketId (.subscriptionSucceeded
      (moment.order.list members.keys)
      (Value.ofJson (.object (memberFields moment.order members))).json
      members.size)).Shown app channel cache state)
    (known : socketId ∈ node.connections.keys)
    (own : conn.socketId = socketId) (ofApp : conn.app = app)
    (uncached : cache.store.lookup (cacheKey app.id channel) = none) :
    Attains app channel cache socketId (.subscribe userId userInfo) node
      (.succeed isNewMember members)
      (Subscribe.replayIfCache moment
        (if isNewMember then
          Subscribe.announce moment state
            (conn.withMessages (Frame.message channel)) channel userId userInfo
        else state)
        (conn.withMessages (Frame.message channel)) channel) := by
  let told := node.send socketId (.subscriptionSucceeded
    (moment.order.list members.keys)
    (Value.ofJson (.object (memberFields moment.order members))).json members.size)
  have advanced : (code channel).advance node socketId (.subscribe userId userInfo)
      (.succeed isNewMember members) moment.order =
        some (told, if isNewMember then .running .announce
          else afterwards channel) := rfl
  have stays : socketId ∈ told.connections.keys := by
    simp only [told, Node.send, Node.changeConn, Table.keys_modify]
    exact known
  cases isNewMember with
  | true => exact .step advanced (attains_announce moment shown stays own ofApp uncached)
  | false => exact attains_afterwards moment shown stays own ofApp uncached advanced

theorem shown_join (shown : node.Shown app channel cache state)
    (socketId userId : String) (userInfo : Value) :
    (Node.changeConn { node with ns := (node.ns.addToChannel socketId channel).1 }
        socketId fun stored =>
          ((stored.addChannel channel).setPresence channel userId
            userInfo).authenticate).Shown app channel cache
      ((state.setAdapter
          (state.adapter.addToChannel app.id socketId channel).1).changeConn
        socketId fun stored =>
          ((stored.addChannel channel).setPresence channel userId
            userInfo).authenticate) := by
  refine Shows.changeConn (Shows.addToChannel shown socketId channel) socketId ?_
  intro stored _
  exact ⟨rfl, rfl, rfl⟩

/-- By itself a subscription does what the handler does from the limit check on. -/
theorem attains_subscribe (moment : Moment)
    (shown : node.Shown app channel cache state)
    (found : node.connections.lookup socketId = some conn)
    (fresh : conn.isSubscribed channel = false)
    (uncached : cache.store.lookup (cacheKey app.id channel) = none) :
    Attains app channel cache socketId (.subscribe userId userInfo) node .enter
      (Subscribe.joinPresence moment state
        (conn.withMessages (Frame.message channel)) channel userId userInfo) := by
  obtain ⟨own, ofApp, -⟩ := shown.each socketId conn found
  have added := LocalAdapter.ns_tryAddPresenceMember state.adapter app.id channel
    socketId userId userInfo app.maxPresenceMembersPerChannel app.id
  have answered : (state.adapter.tryAddPresenceMember app.id channel socketId userId
      userInfo app.maxPresenceMembersPerChannel).2 =
        ((state.adapter.ns app.id).tryAddPresenceMember channel socketId userId
          userInfo app.maxPresenceMembersPerChannel).2 := rfl
  rw [if_pos rfl, shown.stored] at added
  rw [shown.stored] at answered
  cases outcome : node.ns.tryAddPresenceMember channel socketId userId userInfo
      app.maxPresenceMembersPerChannel with
  | mk ns answer =>
  cases written : state.adapter.tryAddPresenceMember app.id channel socketId userId
      userInfo app.maxPresenceMembersPerChannel with
  | mk adapter accepted =>
  simp only [written, outcome] at added answered
  subst answered
  have entry : Node.Shown app channel cache { node with ns }
      (state.setAdapter adapter) := Shows.setAdapter shown added
  simp only [Subscribe.joinPresence, WsConnection.withMessages_socketId,
    WsConnection.withMessages_app, own, ofApp, written]
  cases accepted with
  | error refused =>
      have entered : (code channel).advance node socketId (.subscribe userId userInfo)
          .enter moment.order = some ({ node with ns }, .running .refuse) := by
        simp only [code, advance, found, Option.map_some, fresh, ofApp, outcome]
        rfl
      have refuses : (code channel).advance { node with ns } socketId
          (.subscribe userId userInfo) .refuse moment.order =
            some (Node.send { node with ns } socketId
              (.error "Over presence member limit" (some 4009)), .finished ()) := rfl
      exact .step entered (.finish refuses (shown_send entry socketId _))
  | ok joined =>
      obtain ⟨isNewMember, members⟩ := joined
      have entered : (code channel).advance node socketId (.subscribe userId userInfo)
          .enter moment.order =
            some ({ node with ns }, .running (.join isNewMember members)) := by
        simp only [code, advance, found, Option.map_some, fresh, ofApp, outcome]
        rfl
      have joins : (code channel).advance { node with ns } socketId
          (.subscribe userId userInfo) (.join isNewMember members) moment.order =
            some (Node.changeConn
                { node with ns := (ns.addToChannel socketId channel).1 } socketId
                fun conn => ((conn.addChannel channel).setPresence channel userId
                  userInfo).authenticate,
              .running (.succeed isNewMember members)) := rfl
      refine .step entered (.step joins ?_)
      have inside := shown_join entry socketId userId userInfo
      refine attains_succeed moment
        (shown_send (Shows.notify_if inside _ _ _) socketId _) ?_ own ofApp uncached
      simp only [Node.changeConn, Table.keys_modify]
      exact Table.mem_keys_iff.mpr ⟨conn, found⟩

/-! Leaving. -/

theorem shown_leaveChannel (shown : node.Shown app channel cache state)
    (own : conn.socketId = socketId) (ofApp : conn.app = app) :
    Node.Shown app channel cache
      { node with ns := (node.ns.removeFromChannel socketId channel).1 }
      (leaveChannel state (conn.withMessages (Frame.message channel)) channel) := by
  have left := Shows.leaveChannel shown
    ((conn.withMessages_app (Frame.message channel)).trans ofApp) channel
  rw [WsConnection.withMessages_socketId, own] at left
  exact left

/-- The steps of an unsubscribe and of a close that are about the presence data. -/
theorem attains_withdraw (moment : Moment)
    (shown : middle.Shown app channel cache state)
    (own : conn.socketId = socketId) (ofApp : conn.app = app)
    (tells : ∀ node, (code channel).advance node socketId operation (.tell userId)
      (moment.recipientOrder channel) =
        some (node.sendToChannel (moment.recipientOrder channel) channel
          (.memberRemoved userId) (some socketId), .running .leave))
    (rest : ∀ left : Node, left.Shown app channel cache
        (leavePresence moment state (conn.withMessages (Frame.message channel))
          channel userId) →
      Attains app channel cache socketId operation left .leave after)
    (advanced : (code channel).advance node socketId operation point order =
      some (withdraw channel middle socketId userId)) :
    Attains app channel cache socketId operation node point after := by
  obtain ⟨removed, answered⟩ := LocalAdapter.ns_removePresenceMember state.adapter
    app.id channel socketId userId app.id
  rw [if_pos rfl, shown.stored] at removed
  rw [shown.stored] at answered
  cases outcome : middle.ns.removePresenceMember channel socketId userId with
  | mk ns gone =>
  cases written : state.adapter.removePresenceMember app.id channel socketId
      userId with
  | mk adapter userGone =>
  simp only [written, outcome] at removed answered
  subst answered
  have outside : Node.Shown app channel cache { middle with ns }
      (state.setAdapter adapter) := Shows.setAdapter shown removed
  simp only [leavePresence, WsConnection.withMessages_socketId,
    WsConnection.withMessages_app, own, ofApp, written] at rest
  rw [withdraw, outcome] at advanced
  cases userGone with
  | true =>
      refine .step advanced (.step (tells { middle with ns }) ?_)
      exact rest _ (Shows.notify (shown_sendToChannel outside moment
        (.memberRemoved userId) (some socketId)) _ _)
  | false => exact .step advanced (rest _ outside)

theorem attains_leave (shown : node.Shown app channel cache state)
    (own : conn.socketId = socketId) (ofApp : conn.app = app) (order : HashOrder) :
    Attains app channel cache socketId .unsubscribe node .leave
      (leaveChannel
        (state.changeConn socketId fun stored => stored.removeChannel channel)
        (conn.withMessages (Frame.message channel)) channel) := by
  have advanced : (code channel).advance node socketId .unsubscribe .leave order =
      some (Node.changeConn
        { node with ns := (node.ns.removeFromChannel socketId channel).1 } socketId
          fun stored => stored.removeChannel channel, .finished ()) := rfl
  have without : Node.Shown app channel cache
      (node.changeConn socketId fun stored => stored.removeChannel channel)
      (state.changeConn socketId fun stored => stored.removeChannel channel) := by
    refine Shows.changeConn shown socketId ?_
    intro stored _
    exact ⟨rfl, rfl, rfl⟩
  exact .finish advanced (shown_leaveChannel without own ofApp)

/-- By itself an unsubscribe does what the handler does for a subscriber. -/
theorem attains_unsubscribe (moment : Moment)
    (shown : node.Shown app channel cache state)
    (presence : (ChannelKind.fromName channel).isPresence = true)
    (found : node.connections.lookup socketId = some conn)
    (subscribed : conn.isSubscribed channel = true) :
    Attains app channel cache socketId .unsubscribe node .enter
      (Unsubscribe.leave moment state (conn.withMessages (Frame.message channel))
        channel) := by
  obtain ⟨own, ofApp, -⟩ := shown.each socketId conn found
  unfold Unsubscribe.leave Unsubscribe.withdraw
  rw [if_pos presence, WsConnection.withMessages_getPresence,
    WsConnection.withMessages_socketId, own]
  cases held : conn.getPresence channel with
  | none =>
      have entered : (code channel).advance node socketId .unsubscribe .enter
          moment.order = some (node, .running .leave) := by
        simp only [code, advance, found, Option.map_some, subscribed, held]
        rfl
      exact .step entered (attains_leave shown own ofApp moment.order)
  | some member =>
      obtain ⟨userId, userInfo⟩ := member
      have entered : (code channel).advance node socketId .unsubscribe .enter
          moment.order = some (withdraw channel
            (node.changeConn socketId fun stored => stored.removePresence channel)
            socketId userId) := by
        simp only [code, advance, found, Option.map_some, subscribed, held]
        rfl
      have forgotten : Node.Shown app channel cache
          (node.changeConn socketId fun stored => stored.removePresence channel)
          (state.changeConn socketId fun stored =>
            stored.removePresence channel) := by
        refine Shows.changeConn shown socketId ?_
        intro stored _
        exact ⟨rfl, rfl, rfl⟩
      refine attains_withdraw moment forgotten own ofApp (fun _ => rfl) ?_ entered
      intro left outside
      exact attains_leave outside own ofApp moment.order

theorem attains_remove (moment : Moment)
    (shown : node.Shown app channel cache state) :
    Attains app channel cache socketId .close node .remove
      ((state.setAdapter (state.adapter.removeSocket moment.order app.id
        socketId).1).setRateLimiter (state.rateLimiter.removeSocket socketId)) := by
  have advanced : (code channel).advance node socketId .close .remove moment.order =
      some ({ node with ns := (node.ns.removeSocket moment.order socketId).1 },
        .finished ()) := rfl
  exact .finish advanced (Shows.removeSocket shown moment.order socketId)

theorem attains_close_leave (moment : Moment)
    (shown : node.Shown app channel cache state)
    (own : conn.socketId = socketId) (ofApp : conn.app = app)
    (left : leaveChannel state (conn.withMessages (Frame.message channel)) channel =
      after) :
    Attains app channel cache socketId .close node .leave
      ((after.setAdapter (after.adapter.removeSocket moment.order app.id
        socketId).1).setRateLimiter (after.rateLimiter.removeSocket socketId)) := by
  have advanced : (code channel).advance node socketId .close .leave moment.order =
      some ({ node with ns := (node.ns.removeFromChannel socketId channel).1 },
        .running .remove) := rfl
  subst left
  exact .step advanced (attains_remove moment (shown_leaveChannel shown own ofApp))

/-- By itself a close does what the handler does for a connection that has no
other channel and no user. -/
theorem attains_close (moment : Moment) (shown : node.Shown app channel cache state)
    (presence : (ChannelKind.fromName channel).isPresence = true)
    (found : node.connections.lookup socketId = some conn)
    (user : conn.user = none) (only : conn.subscribedChannels ⊆ {channel}) :
    Attains app channel cache socketId .close node .enter
      (onClose moment state (conn.withMessages (Frame.message channel))) := by
  obtain ⟨own, ofApp, -⟩ := shown.each socketId conn found
  have anonymous : (conn.withMessages (Frame.message channel)).user = none := user
  have channels : (conn.withMessages (Frame.message channel)).subscribedChannels =
    conn.subscribedChannels := rfl
  simp only [onClose, anonymous, channels, WsConnection.withMessages_socketId,
    WsConnection.withMessages_app, own, ofApp]
  rcases Finset.subset_singleton_iff.mp only with nowhere | there
  · have entered : (code channel).advance node socketId .close .enter moment.order =
        some (node, .running .remove) := by
      simp [code, advance, found, WsConnection.isSubscribed, nowhere]
    rw [nowhere, HashOrder.list_empty]
    exact .step entered (attains_remove moment shown)
  · rw [there, HashOrder.list_singleton, List.foldl_cons, List.foldl_nil, closeChannel,
      if_pos presence, WsConnection.withMessages_getPresence]
    cases held : conn.getPresence channel with
    | none =>
        have entered : (code channel).advance node socketId .close .enter
            moment.order = some (node, .running .leave) := by
          simp [code, advance, found, WsConnection.isSubscribed, there, held]
        exact .step entered (attains_close_leave moment shown own ofApp rfl)
    | some member =>
        obtain ⟨userId, userInfo⟩ := member
        have entered : (code channel).advance node socketId .close .enter
            moment.order = some (withdraw channel node socketId userId) := by
          simp [code, advance, found, WsConnection.isSubscribed, there, held]
        refine attains_withdraw moment shown own ofApp (fun _ => rfl) ?_ entered
        intro left outside
        exact attains_close_leave moment outside own ofApp rfl

/-! The connection itself. -/

theorem accepted_eq (app : App) (socketIds : List String) :
    (accepted app socketIds).ns =
        socketIds.foldl (fun ns socketId => ns.addSocket ⟨socketId⟩) .new ∧
      (accepted app socketIds).connections =
        socketIds.foldl (fun connections socketId =>
          connections.insert socketId (.new socketId app)) ∅ := by
  induction socketIds using List.reverseRecOn with
  | nil => exact ⟨rfl, rfl⟩
  | append_singleton earlier socketId induction =>
      obtain ⟨ns, connections⟩ := induction
      rw [accepted_append, Node.accept, List.foldl_append, List.foldl_append, ns,
        connections]
      exact ⟨rfl, rfl⟩

theorem shown_accepted {apps : List App} {socketIds : List String} (cacheTtl : Nat)
    (listed : StaticAppManager.findByKey ⟨apps⟩ app.key = some app)
    (enabled : app.enabled = true)
    (room : app.maxConnections < 0 ∨ socketIds.length ≤ app.maxConnections.toNat) :
    (accepted app socketIds).Shown app channel .new
      ((AppState.new apps cacheTtl).acceptAll app.key socketIds) := by
  obtain ⟨ns, connections⟩ := accepted_eq app socketIds
  rw [Node.Shown, ns, connections]
  exact (Shows.accepted cacheTtl listed enabled room).1

theorem attains_recv (shown : node.Shown app channel cache state)
    (found : node.connections.lookup socketId = some conn)
    (waiting : conn.tx.recv.isSome = true) (order : HashOrder) :
    Attains app channel cache socketId .recv node .enter (state.take socketId) := by
  obtain ⟨⟨frame, tx⟩, received⟩ := Option.isSome_iff_exists.mp waiting
  have advanced : (code channel).advance node socketId .recv .enter order =
      some (node.changeConn socketId fun stored => { stored with tx },
        .finished ()) := by
    simp only [code, advance, found, Option.bind_some, received, Option.map_some]
  exact .finish advanced (Shows.take shown found received)

/-- What a call that can begin attains by itself, a run of the system attains. -/
theorem exists_runFrom_alone {state begun : State} {socketIds : List String}
    (attains : Attains app channel cache socketId operation state.shared .enter after)
    (begins : (system app channel socketIds).step state (.begin socketId operation) =
      some begun) :
    ∃ actions next, next.Shown app channel cache after ∧
      (system app channel socketIds).runFrom state actions =
        some { state with
          shared := next
          log := ⟨socketId, operation, ()⟩ :: state.log } := by
  have runs : ∃ actions next result, next.Shown app channel cache after ∧
      (system app channel socketIds).runFrom state actions =
        some { state with
          shared := next
          log := ⟨socketId, operation, result⟩ :: state.log } :=
    Calls.exists_runFrom_alone attains begins
  obtain ⟨actions, next, _, shown, ran⟩ := runs
  exact ⟨actions, next, shown, ran⟩

end RushSocket.Server.Roster
