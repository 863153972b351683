import RushSocket.Http.Events
import RushSocket.Server.Latest
import RushSocket.Server.Serial
import RushSocket.Transition.Alone

namespace RushSocket.Server.Latest

open Adapter Data Protocol Transition Websocket

/-! A call that no other call interrupts does to the node what the handler does
to the state. -/

variable {app : App} {cacheTtl number : Nat} {channel socketId name data : String}
  {node middle : Node} {state after : AppState} {conn : WsConnection Frame}
  {caller : Caller} {operation : Operation} {point : Point}

/-- The message that a frame stands for. -/
def Frame.message (channel : String) : Frame → ServerMessage
  | .subscriptionSucceeded => .subscriptionSucceeded channel
  | .channelEvent event => event
  | .cacheMiss => .cacheMiss channel

def Node.Shown (app : App) (channel : String) (node : Node) (state : AppState) : Prop :=
  Shows (Frame.message channel) app node.ns node.connections node.cache state

abbrev Attains (app : App) (cacheTtl : Nat) (channel : String) (caller : Caller)
    (operation : Operation) (node : Node) (point : Point) (after : AppState) : Prop :=
  (code app cacheTtl channel).Attains caller operation
    (fun next => next.Shown app channel after) node point

/-- By itself a trigger does what the handler does for one channel. -/
theorem attains_trigger (moment : Moment) (shown : node.Shown app channel state)
    (lifetime : state.cacheTtl = cacheTtl) :
    Attains app cacheTtl channel (.request number) (.trigger name data) node .enter
      (Http.publish moment app app.id name data none state channel) := by
  let cached : Node :=
    if (ChannelKind.fromName channel).isCache && app.enableCacheChannels then
      { node with
        cache := node.cache.set moment.now (cacheKey app.id channel)
          (eventOf channel name data) cacheTtl }
    else node
  have entered : (code app cacheTtl channel).advance node (.request number)
      (.trigger name data) .enter moment = some (cached, .running .send) := rfl
  have sends : (code app cacheTtl channel).advance cached (.request number)
      (.trigger name data) .send moment =
        some (cached.sendToChannel (moment.recipientOrder channel) channel
          (.channelEvent (eventOf channel name data)) none, .finished ()) := rfl
  have filled : cached.Shown app channel
      (if (ChannelKind.fromName channel).isCache && app.enableCacheChannels then
        state.setCache (state.cache.set moment.now (cacheKey app.id channel)
          (eventOf channel name data) state.cacheTtl)
      else state) := by
    unfold cached
    split
    · rw [shown.cached, lifetime]
      exact ⟨shown.stored, shown.each, rfl⟩
    · exact shown
  exact .step entered (.finish sends (Shows.sendToChannel filled moment channel
    (.channelEvent (eventOf channel name data)) none))

/-- The steps that are left to the subscriber of a cache channel. -/
theorem attains_fetch (moment : Moment) (shown : node.Shown app channel state)
    (known : socketId ∈ node.connections.keys)
    (own : conn.socketId = socketId) (ofApp : conn.app = app) :
    Attains app cacheTtl channel (.socket socketId) .subscribe node .fetch
      (Subscribe.replayCache moment state
        (conn.withMessages (Frame.message channel)) channel) := by
  obtain ⟨stored, found⟩ := Table.mem_keys_iff.mp known
  have sameApp : stored.app = app := (shown.each socketId stored found).2.1
  unfold Subscribe.replayCache
  simp only [WsConnection.withMessages_socketId, WsConnection.withMessages_app, own,
    ofApp, shown.cached]
  cases enabled : app.enableCacheChannels with
  | false =>
      have fetched : (code app cacheTtl channel).advance node (.socket socketId)
          .subscribe .fetch moment = some (node, .finished ()) := by
        simp only [code, advance, found, Option.map_some, sameApp, enabled]
        rfl
      exact .finish fetched shown
  | true =>
      have fetched : (code app cacheTtl channel).advance node (.socket socketId)
          .subscribe .fetch moment = some (node, .running (.replay
            (node.cache.get moment.now (cacheKey app.id channel)))) := by
        simp only [code, advance, found, Option.map_some, sameApp, enabled]
        rfl
      refine .step fetched ?_
      cases node.cache.get moment.now (cacheKey app.id channel) with
      | some event =>
          have replayed : (code app cacheTtl channel).advance node (.socket socketId)
              .subscribe (.replay (some event)) moment =
                some (node.send socketId (.channelEvent event), .finished ()) := rfl
          exact .finish replayed (Shows.send shown socketId (.channelEvent event))
      | none =>
          have missed : (code app cacheTtl channel).advance node (.socket socketId)
              .subscribe (.replay none) moment =
                some (node.send socketId .cacheMiss, .finished ()) := rfl
          exact .finish missed
            (Shows.notify (Shows.send shown socketId .cacheMiss) _ _)

/-- By itself a subscription does what the public or the private branch of the
handler does. -/
theorem attains_subscribe (moment : Moment) (shown : node.Shown app channel state)
    (found : node.connections.lookup socketId = some conn)
    (fresh : conn.isSubscribed channel = false) :
    Attains app cacheTtl channel (.socket socketId) .subscribe node .enter
      (Subscribe.joinChannel moment state
        (conn.withMessages (Frame.message channel)) channel
        (ChannelKind.fromName channel).requiresAuth) := by
  obtain ⟨own, ofApp, -⟩ := shown.each socketId conn found
  let joined : Node := Node.changeConn
    { node with ns := (node.ns.addToChannel socketId channel).1 } socketId fun stored =>
      if (ChannelKind.fromName channel).requiresAuth then
        (stored.addChannel channel).authenticate
      else stored.addChannel channel
  let told := joined.send socketId .subscriptionSucceeded
  have entered : (code app cacheTtl channel).advance node (.socket socketId) .subscribe
      .enter moment = some (joined, .running .succeed) := by
    simp only [code, advance, found, Option.map_some, fresh]
    rfl
  have succeeds : (code app cacheTtl channel).advance joined (.socket socketId)
      .subscribe .succeed moment = some (told,
        if (ChannelKind.fromName channel).isCache then .running .fetch
        else .finished ()) := rfl
  refine .step entered ?_
  have inside : joined.Shown app channel
      ((state.setAdapter (state.adapter.addToChannel app.id socketId
        channel).1).changeConn socketId fun stored =>
          if (ChannelKind.fromName channel).requiresAuth then
            (stored.addChannel channel).authenticate
          else stored.addChannel channel) := by
    refine Shows.changeConn (Shows.addToChannel shown socketId channel) socketId ?_
    intro stored _
    split <;> exact ⟨rfl, rfl, rfl⟩
  unfold Subscribe.joinChannel Subscribe.replayIfCache
  simp only [WsConnection.withMessages_socketId, WsConnection.withMessages_app, own,
    ofApp]
  have greeted := Shows.sendSubscriptionCount
    (Shows.notify_if (Shows.send inside socketId .subscriptionSucceeded)
      (LocalAdapter.isChannelGloballyOccupied
        (state.adapter.addToChannel app.id socketId channel).2)
      app.id (.channelOccupied channel))
    app.id channel app.enableSubscriptionCountWebhook
  cases isCache : (ChannelKind.fromName channel).isCache with
  | false =>
      rw [isCache] at succeeds
      exact .finish succeeds greeted
  | true =>
      rw [isCache] at succeeds
      have stays : socketId ∈ told.connections.keys := by
        simp only [told, joined, Node.send, Node.changeConn, Connections.send,
          Table.keys_modify]
        exact Table.mem_keys_iff.mpr ⟨conn, found⟩
      exact .step succeeds (attains_fetch moment greeted stays own ofApp)

theorem accepted_eq (app : App) (socketIds : List String) :
    (accepted app socketIds).ns =
        socketIds.foldl (fun ns socketId => ns.addSocket ⟨socketId⟩) .new ∧
      (accepted app socketIds).connections =
        socketIds.foldl (fun connections socketId =>
          connections.insert socketId (.new socketId app)) ∅ ∧
      (accepted app socketIds).cache = .new := by
  induction socketIds using List.reverseRecOn with
  | nil => exact ⟨rfl, rfl, rfl⟩
  | append_singleton earlier socketId induction =>
      obtain ⟨ns, connections, cache⟩ := induction
      rw [accepted_append, Node.accept, List.foldl_append, List.foldl_append, ns,
        connections, cache]
      exact ⟨rfl, rfl, rfl⟩

theorem shown_accepted {apps : List App} {socketIds : List String} (cacheTtl : Nat)
    (listed : StaticAppManager.findByKey ⟨apps⟩ app.key = some app)
    (enabled : app.enabled = true)
    (room : app.maxConnections < 0 ∨ socketIds.length ≤ app.maxConnections.toNat) :
    (accepted app socketIds).Shown app channel
      ((AppState.new apps cacheTtl).acceptAll app.key socketIds) := by
  obtain ⟨ns, connections, cache⟩ := accepted_eq app socketIds
  rw [Node.Shown, ns, connections, cache]
  exact (Shows.accepted cacheTtl listed enabled room).1

theorem attains_recv (shown : node.Shown app channel state)
    (found : node.connections.lookup socketId = some conn)
    (waiting : conn.tx.recv.isSome = true) (moment : Moment) :
    Attains app cacheTtl channel (.socket socketId) .recv node .enter
      (state.take socketId) := by
  obtain ⟨⟨frame, tx⟩, received⟩ := Option.isSome_iff_exists.mp waiting
  have advanced : (code app cacheTtl channel).advance node (.socket socketId) .recv
      .enter moment = some (node.changeConn socketId fun stored => { stored with tx },
        .finished ()) := by
    simp only [code, advance, found, Option.bind_some, received, Option.map_some]
  exact .finish advanced (Shows.take shown found received)

/-- What a call that can begin attains by itself, a run of the system attains. -/
theorem exists_runFrom_alone {state begun : State} {socketIds : List String}
    (attains : Attains app cacheTtl channel caller operation state.shared .enter after)
    (begins : (system app cacheTtl channel socketIds).step state
      (.begin caller operation) = some begun) :
    ∃ actions next, next.Shown app channel after ∧
      (system app cacheTtl channel socketIds).runFrom state actions =
        some { state with
          shared := next
          log := ⟨caller, operation, ()⟩ :: state.log } := by
  have runs : ∃ actions next result, next.Shown app channel after ∧
      (system app cacheTtl channel socketIds).runFrom state actions =
        some { state with
          shared := next
          log := ⟨caller, operation, result⟩ :: state.log } :=
    Calls.exists_runFrom_alone attains begins
  obtain ⟨actions, next, _, shown, ran⟩ := runs
  exact ⟨actions, next, shown, ran⟩

end RushSocket.Server.Latest
