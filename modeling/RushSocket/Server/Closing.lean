import RushSocket.Server.Departures

namespace RushSocket.Server

open Adapter Data Protocol Transition Websocket

/-! A connection that closes leaves its channels as one that unsubscribes from
each of them first, in whatever order. -/

/-- The connection unsubscribes from each channel. -/
def unsubscribeEach (crates : Crates) (moments : String → Moment)
    (messages : String → ClientMessage) (socketId : String) (state : AppState)
    (channels : List String) : AppState :=
  channels.foldl (fun state channel =>
    (state.connections.lookup socketId).elim state fun conn =>
      Unsubscribe.handle crates (moments channel) state conn (messages channel)) state

def closeAs (moment : Moment) (socketId : String) (state : AppState) : AppState :=
  (state.connections.lookup socketId).elim state (onClose moment state)

def framesOn (state : AppState) (receiver : String) (channel : Option String) :
    List ServerMessage :=
  (framesTo state receiver).filter fun frame => frame.channel = channel

def queueOf (state : AppState) (appId : String) : List WebhookEvent :=
  (state.webhooks.lookup appId).getD []

/-- The namespaces are the same, and so are the frames on each channel to the
receivers other than the socket that hear all of them, and the webhooks of each app
up to their order. -/
structure Interchangeable (socketId : String) (hears : String → Prop)
    (first second : AppState) : Prop where
  namespaces : ∀ appId, second.adapter.ns appId = first.adapter.ns appId
  frames : ∀ receiver, receiver ≠ socketId → hears receiver → ∀ channel,
    framesOn second receiver channel = framesOn first receiver channel
  webhooks : ∀ appId,
    (queueOf second appId : Multiset WebhookEvent) = queueOf first appId

/-- The channels in which the receiver is told that the user is gone. -/
def partings (state : AppState) (conn : WsConnection) (receiver : String) :
    Finset String :=
  conn.subscribedChannels.filter fun channel =>
    (parting (state.adapter.ns conn.app.id) conn.socketId channel
      (departing conn channel) receiver).isSome

/-- What the receiver is to be told fits into its queue. -/
def RoomFor (state : AppState) (conn : WsConnection) (receiver : String) : Prop :=
  ∀ other, state.connections.lookup receiver = some other →
    other.tx.enqueued.length - other.tx.taken +
      (partings state conn receiver).card ≤ Outbound.capacity

section

variable {moment : Moment} {state : AppState} {conn : WsConnection}

theorem outside_closeChannels (handled : Handled state.adapter conn.app.id)
    (channels : List String) :
    outside (channels.foldl (closeChannel moment conn) state) conn.socketId =
      (outside state conn.socketId).departAll conn.app conn.socketId (departing conn)
        channels := by
  induction channels generalizing state with
  | nil => rfl
  | cons channel rest induction =>
      have left := @outside_closeChannel moment state conn channel handled
      have adapter : (closeChannel moment conn state channel).adapter =
          state.adapter.depart conn.app.id conn.socketId channel
            (departing conn channel) := congrArg Outside.adapter left
      have later := @induction (closeChannel moment conn state channel)
        (adapter ▸ handled.depart)
      rw [left] at later
      exact later

def forgetUser (conn : WsConnection) (adapter : LocalAdapter) : LocalAdapter :=
  (conn.user.map UserInfo.id).elim adapter fun userId =>
    adapter.removeUser conn.app.id userId conn.socketId

/-- The connection has left the channels in this order and is gone. -/
def Departed (state : AppState) (conn : WsConnection) (channels : List String)
    (after : AppState) : Prop :=
  ∃ order, outside after conn.socketId =
    { (outside state conn.socketId).departAll conn.app conn.socketId (departing conn)
        channels with
      adapter := ((forgetUser conn ((outside state conn.socketId).departAll conn.app
        conn.socketId (departing conn) channels).adapter).removeSocket order conn.app.id
          conn.socketId).1 }

theorem outside_onClose :
    outside (onClose moment state conn) conn.socketId =
      { outside ((moment.order.list conn.subscribedChannels).foldl
          (closeChannel moment conn) state) conn.socketId with
        adapter := ((forgetUser conn ((moment.order.list conn.subscribedChannels).foldl
          (closeChannel moment conn) state).adapter).removeSocket moment.order
            conn.app.id conn.socketId).1 } := by
  unfold onClose forgetUser
  cases conn.user with
  | none => rfl
  | some user => rfl

theorem departed_onClose (handled : Handled state.adapter conn.app.id) :
    Departed state conn (moment.order.list conn.subscribedChannels)
      (onClose moment state conn) := by
  have left := @outside_closeChannels moment state conn handled
    (moment.order.list conn.subscribedChannels)
  have adapter := congrArg Outside.adapter left
  rw [outside_adapter] at adapter
  exact ⟨moment.order, by rw [outside_onClose, left, adapter]⟩

structure Remains (conn own : WsConnection) (channels : List String) : Prop where
  socketId : own.socketId = conn.socketId
  app : own.app = conn.app
  userId : own.user.map UserInfo.id = conn.user.map UserInfo.id
  joined : ∀ channel, channel ∈ own.subscribedChannels ↔ channel ∈ channels
  presence : ∀ channel ∈ channels, own.getPresence channel = conn.getPresence channel

theorem Remains.departing {own : WsConnection} {channel : String}
    {channels : List String} (remains : Remains conn own channels)
    (member : channel ∈ channels) : departing own channel = departing conn channel := by
  rw [Server.departing, Server.departing, remains.presence channel member]

theorem view_unsubscribe {core : Core} {own : WsConnection} {channel : String}
    (found : core.view own.socketId = some own.view) :
    ∃ presence, (core.unsubscribe own channel).view own.socketId =
        some { own.view with
          presence, channels := own.subscribedChannels.erase channel } ∧
      ∀ other, other ≠ channel →
        presence.lookup other = own.presence.lookup other := by
  have shape : (core.unsubscribe own channel).view own.socketId =
      ((core.forget own channel).view own.socketId).map fun view =>
        { view with channels := view.channels.erase channel } := by
    rw [← @view_withdraw (core.forget own channel) own channel]
    exact if_pos rfl
  rw [shape, Core.forget]
  split
  · refine ⟨own.presence.erase channel, ?_, fun other different => ?_⟩
    · rw [Core.forgetPresence, Core.change]
      simp only [if_pos, found]
      rfl
    · rw [Table.lookup_drop, if_neg different]
  · exact ⟨own.presence, by rw [found]; rfl, fun _ _ => rfl⟩

theorem Remains.leave {own : WsConnection} {channel : String} {rest : List String}
    (remains : Remains conn own (channel :: rest)) (fresh : channel ∉ rest)
    (stored : state.connections.lookup conn.socketId = some own) :
    ∃ next, (Unsubscribe.leave moment state own channel).connections.lookup
        conn.socketId = some next ∧ Remains conn next rest := by
  have found : state.core.view own.socketId = some own.view := by
    rw [remains.socketId]
    exact congrArg (Option.map WsConnection.view) stored
  obtain ⟨presence, viewed, same⟩ := @view_unsubscribe state.core own channel found
  rw [← @core_leave moment state own channel] at viewed
  obtain ⟨next, there, shape⟩ := Option.map_eq_some_iff.mp viewed
  rw [remains.socketId] at there
  refine ⟨next, there, ⟨?_, ?_, ?_, fun other => ?_, fun other member => ?_⟩⟩
  · exact (congrArg View.socketId shape).trans remains.socketId
  · exact (congrArg View.app shape).trans remains.app
  · exact (congrArg View.userId shape).trans remains.userId
  · have channels : next.subscribedChannels = own.subscribedChannels.erase channel :=
      congrArg View.channels shape
    rw [channels, Finset.mem_erase, remains.joined, List.mem_cons]
    constructor
    · rintro ⟨different, first | member⟩
      · exact absurd first different
      · exact member
    · exact fun member => ⟨fun first => fresh (first ▸ member), .inr member⟩
  · have kept : next.presence = presence := congrArg View.presence shape
    have different : other ≠ channel := fun first => fresh (first ▸ member)
    rw [WsConnection.getPresence, kept, same other different]
    exact remains.presence other (List.mem_cons_of_mem channel member)

theorem handle_of_names {crates : Crates} {msg : ClientMessage} {channel : String}
    (names : Names crates msg channel) (member : channel ∈ conn.subscribedChannels) :
    Unsubscribe.handle crates moment state conn msg =
      Unsubscribe.leave moment state conn channel := by
  obtain ⟨data, extracted, named⟩ := names
  simp [Unsubscribe.handle, extracted, named, WsConnection.isSubscribed, member]

theorem outside_unsubscribeEach {crates : Crates} {moments : String → Moment}
    {messages : String → ClientMessage} {channels : List String} {own : WsConnection}
    (distinct : channels.Nodup)
    (named : ∀ channel ∈ channels, Names crates (messages channel) channel)
    (handled : Handled state.adapter conn.app.id)
    (stored : state.connections.lookup conn.socketId = some own)
    (remains : Remains conn own channels) :
    ∃ last, (unsubscribeEach crates moments messages conn.socketId state
        channels).connections.lookup conn.socketId = some last ∧
      Remains conn last [] ∧
      outside (unsubscribeEach crates moments messages conn.socketId state channels)
          conn.socketId =
        (outside state conn.socketId).departAll conn.app conn.socketId (departing conn)
          channels := by
  induction channels generalizing state own with
  | nil => exact ⟨own, stored, remains, rfl⟩
  | cons channel rest induction =>
      obtain ⟨fresh, distinct⟩ := List.nodup_cons.mp distinct
      have first : (state.connections.lookup conn.socketId).elim state (fun conn =>
          Unsubscribe.handle crates (moments channel) state conn (messages channel)) =
          Unsubscribe.leave (moments channel) state own channel := by
        rw [stored, Option.elim_some]
        exact handle_of_names (named channel List.mem_cons_self)
          ((remains.joined channel).mpr List.mem_cons_self)
      have left := @outside_leave (moments channel) state own channel
        (remains.app ▸ handled)
      rw [remains.socketId, remains.app, remains.departing List.mem_cons_self] at left
      have adapter : (Unsubscribe.leave (moments channel) state own channel).adapter =
          state.adapter.depart conn.app.id conn.socketId channel
            (departing conn channel) := congrArg Outside.adapter left
      obtain ⟨next, there, fewer⟩ :=
        @Remains.leave (moments channel) state conn own channel rest remains fresh stored
      have later := induction distinct
        (fun other member => named other (List.mem_cons_of_mem channel member))
        (adapter ▸ handled.depart) there fewer
      rw [left, ← first] at later
      exact later

theorem departed_unsubscribeEach {crates : Crates} {moments : String → Moment}
    {messages : String → ClientMessage} {channels : List String}
    (distinct : channels.Nodup)
    (every : ∀ channel, channel ∈ conn.subscribedChannels ↔ channel ∈ channels)
    (named : ∀ channel ∈ channels, Names crates (messages channel) channel)
    (handled : Handled state.adapter conn.app.id)
    (stored : state.connections.lookup conn.socketId = some conn) :
    Departed state conn channels (closeAs moment conn.socketId
      (unsubscribeEach crates moments messages conn.socketId state channels)) := by
  obtain ⟨last, there, remains, left⟩ := @outside_unsubscribeEach state conn crates
    moments messages channels conn distinct named handled stored
    ⟨rfl, rfl, rfl, every, fun _ _ => rfl⟩
  have nowhere : last.subscribedChannels = ∅ := by
    apply Finset.eq_empty_of_forall_notMem
    intro channel member
    exact absurd ((remains.joined channel).mp member) List.not_mem_nil
  generalize unsubscribeEach crates moments messages conn.socketId state channels =
    between at there left
  have adapter := congrArg Outside.adapter left
  rw [outside_adapter] at adapter
  have closed := @outside_onClose moment between last
  rw [nowhere, HashOrder.list_empty, List.foldl_nil, forgetUser, remains.userId,
    remains.app, remains.socketId, left, adapter] at closed
  refine ⟨moment.order, ?_⟩
  rw [closeAs, there, Option.elim_some, closed]
  rfl

/-! What does not depend on the order in which the channels are left. -/

theorem foldl_depart_perm {left right : List String} (permuted : left.Perm right)
    (adapter : LocalAdapter) (appId socketId : String)
    (users : String → Option String) :
    left.foldl (fun adapter channel =>
        adapter.depart appId socketId channel (users channel)) adapter =
      right.foldl (fun adapter channel =>
        adapter.depart appId socketId channel (users channel)) adapter := by
  apply permuted.foldl_eq'
  intro channel _ other _ between
  by_cases same : channel = other
  · rw [same]
  · exact LocalAdapter.depart_comm same

theorem filter_partings {channels : List String} (distinct : channels.Nodup)
    {sent : String → Option ServerMessage}
    (about : ∀ channel frame, sent channel = some frame → frame.channel = some channel)
    (channel : String) :
    (channels.filterMap sent).filter (fun frame => frame.channel = some channel) =
      if channel ∈ channels then (sent channel).toList else [] := by
  induction channels with
  | nil => rfl
  | cons first rest induction =>
      obtain ⟨fresh, distinct⟩ := List.nodup_cons.mp distinct
      have later := induction distinct
      rw [List.filterMap_cons]
      by_cases same : channel = first
      · subst same
        rw [if_neg fresh] at later
        rw [if_pos List.mem_cons_self]
        cases told : sent channel with
        | none => exact later
        | some frame =>
            rw [List.filter_cons_of_pos (by simp [about channel frame told]), later]
            rfl
      · have elsewhere : (channel ∈ first :: rest) ↔ channel ∈ rest := by
          rw [List.mem_cons, or_iff_right same]
        rw [if_congr elsewhere rfl rfl, ← later]
        cases told : sent first with
        | none => rfl
        | some frame =>
            rw [List.filter_cons_of_neg]
            simp [about first frame told, Ne.symm same]

/-- The last place in a queue goes to the frame that is sent first. -/
theorem enqueued_of_last {first second : ServerMessage}
    (last : conn.tx.enqueued.length + 1 = conn.tx.taken + Outbound.capacity) :
    ([first, second].foldl WsConnection.sendRaw conn).tx.enqueued =
      conn.tx.enqueued ++ [first] := by
  have positive : 0 < Outbound.capacity := by decide
  have sent := @Connections.tx_sendRaw_of_room ServerMessage first conn (by omega)
  have full : ¬ (conn.sendRaw first).tx.enqueued.length - (conn.sendRaw first).tx.taken <
      Outbound.capacity := by
    rw [sent]
    dsimp only
    rw [List.length_append, List.length_singleton]
    omega
  rw [List.foldl_cons, List.foldl_cons, List.foldl_nil, WsConnection.sendRaw,
    Outbound.trySend, if_neg full]
  exact congrArg Outbound.enqueued sent

theorem parting_channel {ns : Namespace} {socketId channel receiver : String}
    {user : Option String} {frame : ServerMessage}
    (told : parting ns socketId channel user receiver = some frame) :
    frame.channel = some channel := by
  unfold parting at told
  split at told
  · obtain ⟨userId, _, rfl⟩ := Option.map_eq_some_iff.mp told
    rfl
  · cases told

def farewells (state : AppState) (conn : WsConnection) (channels : List String)
    (receiver : String) : List ServerMessage :=
  channels.filterMap fun channel => parting (state.adapter.ns conn.app.id)
    conn.socketId channel (departing conn channel) receiver

theorem filter_farewells {channels : List String} (distinct : channels.Nodup)
    (receiver : String) (channel : Option String) :
    (farewells state conn channels receiver).filter
        (fun frame => frame.channel = channel) =
      match channel with
      | some channel =>
          if channel ∈ channels then
            (parting (state.adapter.ns conn.app.id) conn.socketId channel
              (departing conn channel) receiver).toList
          else []
      | none => [] := by
  cases channel with
  | some channel => exact filter_partings distinct (fun _ _ => parting_channel) channel
  | none =>
      apply List.filter_eq_nil_iff.mpr
      intro frame member
      obtain ⟨channel, _, told⟩ := List.mem_filterMap.mp member
      rw [parting_channel told]
      simp

theorem length_farewells {channels : List String} (distinct : channels.Nodup)
    (every : ∀ channel, channel ∈ conn.subscribedChannels ↔ channel ∈ channels)
    (receiver : String) :
    (farewells state conn channels receiver).length =
      (partings state conn receiver).card := by
  have same : channels.toFinset = conn.subscribedChannels := by
    ext channel
    rw [List.mem_toFinset, every]
  rw [farewells, List.length_filterMap_eq_countP, List.countP_eq_length_filter,
    ← List.toFinset_card_of_nodup (distinct.filter _), List.toFinset_filter, same]
  rfl

variable {channels : List String} {after : AppState}

theorem framesTo_departed (distinct : channels.Nodup)
    (departed : Departed state conn channels after) {receiver : String}
    (different : receiver ≠ conn.socketId) :
    framesTo after receiver = ((state.connections.lookup receiver).map fun other =>
      ((farewells state conn channels receiver).foldl WsConnection.sendRaw
        other).tx.enqueued).getD [] := by
  obtain ⟨order, left⟩ := departed
  rw [Outside.departAll_eq distinct] at left
  have others := congrFun (congrArg Outside.others left) receiver
  simp only [outside, if_neg different] at others
  rw [framesTo, others, Option.map_map]
  rfl

theorem framesTo_of_last {receiver : String} {other : WsConnection}
    {first second : ServerMessage} (handled : Handled state.adapter conn.app.id)
    (different : receiver ≠ conn.socketId)
    (stored : state.connections.lookup receiver = some other)
    (last : other.tx.enqueued.length + 1 = other.tx.taken + Outbound.capacity)
    (told : farewells state conn (moment.order.list conn.subscribedChannels) receiver =
      [first, second]) :
    framesTo (onClose moment state conn) receiver = other.tx.enqueued ++ [first] := by
  rw [framesTo_departed (moment.order.nodup _) (departed_onClose handled) different,
    stored, Option.map_some, Option.getD_some, told, enqueued_of_last last]

theorem queueOf_departed (distinct : channels.Nodup)
    (departed : Departed state conn channels after) (appId : String) :
    queueOf after appId = (((state.webhooks.modify conn.app.id fun queue =>
      queue ++ channels.flatMap fun channel => departureEvents conn.app
        (state.adapter.ns conn.app.id) conn.socketId channel
          (departing conn channel)).lookup appId).getD []) := by
  obtain ⟨order, left⟩ := departed
  rw [Outside.departAll_eq distinct] at left
  have webhooks := congrArg Outside.webhooks left
  exact congrArg (fun queues => (queues.lookup appId).getD []) webhooks

theorem adapter_forgetUser (core : Core) :
    (core.forgetUser conn).adapter = forgetUser conn core.adapter := by
  unfold Core.forgetUser forgetUser
  cases conn.user with
  | none => rfl
  | some user => rfl

theorem idle_departAll (moment : Moment) (agree : Agree state.core)
    (found : state.core.view conn.socketId = some conn.view) (distinct : channels.Nodup)
    (every : ∀ channel, channel ∈ conn.subscribedChannels ↔ channel ∈ channels)
    (channel : String) :
    ¬ (forgetUser conn (channels.foldl (fun adapter channel => adapter.depart
        conn.app.id conn.socketId channel (departing conn channel))
          state.adapter)).Indexed conn.app.id conn.socketId channel := by
  have permuted : channels.Perm (moment.order.list conn.subscribedChannels) := by
    apply (List.perm_ext_iff_of_nodup distinct (moment.order.nodup _)).mpr
    intro place
    rw [← every, moment.order.mem_list]
  have left := congrArg Outside.adapter (@outside_closeChannels moment state conn
    (agree.handled conn.app.id) (moment.order.list conn.subscribedChannels))
  rw [Outside.departAll_eq (moment.order.nodup _)] at left
  have loop := (congrArg Core.adapter (core_closeChannels moment conn state
    (moment.order.list conn.subscribedChannels))).symm.trans left
  have idle := agree.idle found moment.order channel
  rw [adapter_forgetUser, loop] at idle
  rw [foldl_depart_perm permuted]
  exact idle

/-- Two orders of leaving the same channels. -/
theorem Departed.interchangeable (moment : Moment) {first second : AppState}
    {left right : List String} (agree : Agree state.core)
    (found : state.core.view conn.socketId = some conn.view)
    (distinctLeft : left.Nodup)
    (everyLeft : ∀ channel, channel ∈ conn.subscribedChannels ↔ channel ∈ left)
    (distinctRight : right.Nodup)
    (everyRight : ∀ channel, channel ∈ conn.subscribedChannels ↔ channel ∈ right)
    (departed : Departed state conn left first)
    (also : Departed state conn right second) :
    Interchangeable conn.socketId
      (fun receiver => left = right ∨ RoomFor state conn receiver)
      first second := by
  have permuted : right.Perm left := by
    apply (List.perm_ext_iff_of_nodup distinctRight distinctLeft).mpr
    intro channel
    rw [← everyRight, everyLeft]
  refine ⟨fun appId => ?_, fun receiver different hears channel => ?_, fun appId => ?_⟩
  · obtain ⟨early, before⟩ := departed
    obtain ⟨late, after⟩ := also
    rw [Outside.departAll_eq distinctLeft] at before
    rw [Outside.departAll_eq distinctRight] at after
    have idle := idle_departAll moment agree found distinctLeft everyLeft
    have adapterBefore := congrArg Outside.adapter before
    have adapterAfter := congrArg Outside.adapter after
    simp only [outside_adapter, foldl_depart_perm permuted] at adapterBefore adapterAfter
    rw [adapterBefore, adapterAfter, LocalAdapter.ns_removeSocket_idle idle,
      LocalAdapter.ns_removeSocket_idle idle]
  · rw [framesOn, framesOn, framesTo_departed distinctLeft departed different,
      framesTo_departed distinctRight also different]
    rcases hears with rfl | room
    · rfl
    · cases stored : state.connections.lookup receiver with
      | none => rfl
      | some other =>
          have fits : ∀ {channels : List String}, channels.Nodup →
              (∀ channel, channel ∈ conn.subscribedChannels ↔ channel ∈ channels) →
              other.tx.enqueued.length - other.tx.taken +
                (farewells state conn channels receiver).length ≤ Outbound.capacity := by
            intro channels distinct every
            rw [length_farewells distinct every]
            exact room other stored
          simp only [Option.map_some, Option.getD_some]
          rw [Connections.tx_foldl_sendRaw _ (fits distinctLeft everyLeft),
            Connections.tx_foldl_sendRaw _ (fits distinctRight everyRight),
            List.filter_append, List.filter_append, filter_farewells distinctLeft,
            filter_farewells distinctRight]
          cases channel with
          | none => rfl
          | some channel =>
              dsimp only
              rw [if_congr permuted.mem_iff rfl rfl]
  · rw [queueOf_departed distinctLeft departed, queueOf_departed distinctRight also,
      Table.lookup_modify, Table.lookup_modify]
    split
    · cases state.webhooks.lookup conn.app.id with
      | none => rfl
      | some queue =>
          apply Multiset.coe_eq_coe.mpr
          exact (permuted.flatMap_right _).append_left queue
    · rfl

end

/-- Closing a connection does to the rest of the node what unsubscribing from all
its channels and closing then does; the order of the channels matters only to a
receiver whose queue fills up. -/
theorem close_as_unsubscribes (crates : Crates) (apps : List App) (cacheTtl : Nat)
    {actions : List Action} {state : AppState}
    (reached : (system crates apps cacheTtl).run actions = some state)
    (socketId : String) (conn : WsConnection)
    (stored : state.connections.lookup socketId = some conn) (channels : List String)
    (distinct : channels.Nodup)
    (every : ∀ channel, channel ∈ conn.subscribedChannels ↔ channel ∈ channels)
    (messages : String → ClientMessage)
    (named : ∀ channel ∈ channels, Names crates (messages channel) channel)
    (moments : String → Moment) (moment last : Moment) :
    Interchangeable socketId
        (fun receiver => moment.order.list conn.subscribedChannels = channels ∨
          RoomFor state conn receiver)
        (onClose moment state conn)
        (closeAs last socketId
          (unsubscribeEach crates moments messages socketId state channels)) ∧
      ∀ other : Moment, Interchangeable socketId (RoomFor state conn)
        (onClose moment state conn) (onClose other state conn) := by
  have agree := agree_of_reached reached
  obtain ⟨rfl, found⟩ := agree.found stored
  have handled := agree.handled conn.app.id
  have visits : ∀ moment : Moment, ∀ channel, channel ∈ conn.subscribedChannels ↔
      channel ∈ moment.order.list conn.subscribedChannels :=
    fun moment _ => moment.order.mem_list.symm
  have closed := fun moment => @departed_onClose moment state conn handled
  constructor
  · exact (closed moment).interchangeable moment agree found (moment.order.nodup _)
      (visits moment) distinct every
      (departed_unsubscribeEach distinct every named handled stored)
  · intro other
    have alike := (closed moment).interchangeable moment agree found (moment.order.nodup _)
      (visits moment) (other.order.nodup _) (visits other) (closed other)
    exact ⟨alike.namespaces,
      fun receiver different room => alike.frames receiver different (.inr room),
      alike.webhooks⟩

/-! Two connections in the same two rooms, which one of them leaves. -/

namespace Sample

def leaveRoom (channel : String) : ClientMessage :=
  message "pusher:unsubscribe" [("channel", channel)]

theorem names_leaveRoom (channel : String) :
    Names roomCrates (leaveRoom channel) channel :=
  ⟨(leaveRoom channel).data, rfl, rfl⟩

def descending : HashOrder where
  list stored := (HashOrder.ascending.list stored).reverse
  nodup stored := List.nodup_reverse.mpr (HashOrder.ascending.nodup stored)
  mem_list := List.mem_reverse.trans HashOrder.ascending.mem_list

end Sample

theorem meeting_reached :
    ∃ state conn other,
      (system Sample.roomCrates [App.sample] 60).run Sample.meeting = some state ∧
        state.connections.lookup "1.1" = some conn ∧
        state.connections.lookup "2.2" = some other ∧
        (conn.socketId = "1.1" ∧ other.socketId = "2.2") ∧
        conn.subscribedChannels = {"presence-room", "presence-lounge"} ∧
        (other.tx.enqueued.length = 2 ∧ other.tx.taken = 0) ∧
        (partings state conn "2.2").card = 2 ∧
        farewells state conn (HashOrder.ascending.list conn.subscribedChannels) "2.2" =
          [.memberRemoved "presence-lounge" "ann",
            .memberRemoved "presence-room" "ann"] ∧
        farewells state conn (Sample.descending.list conn.subscribedChannels) "2.2" =
          [.memberRemoved "presence-room" "ann",
            .memberRemoved "presence-lounge" "ann"] := by
  have ends : (((system Sample.roomCrates [App.sample] 60).run Sample.meeting).bind
      fun state => (state.connections.lookup "1.1").bind fun conn =>
        (state.connections.lookup "2.2").filter fun other =>
          (conn.socketId = "1.1" ∧ other.socketId = "2.2") ∧
          conn.subscribedChannels = {"presence-room", "presence-lounge"} ∧
          (other.tx.enqueued.length = 2 ∧ other.tx.taken = 0) ∧
          (partings state conn "2.2").card = 2 ∧
          farewells state conn (HashOrder.ascending.list conn.subscribedChannels) "2.2" =
            [.memberRemoved "presence-lounge" "ann",
              .memberRemoved "presence-room" "ann"] ∧
          farewells state conn (Sample.descending.list conn.subscribedChannels) "2.2" =
            [.memberRemoved "presence-room" "ann",
              .memberRemoved "presence-lounge" "ann"]).isSome = true := by
    decide +kernel
  obtain ⟨other, found⟩ := Option.isSome_iff_exists.mp ends
  obtain ⟨state, reached, found⟩ := Option.bind_eq_some_iff.mp found
  obtain ⟨conn, stored, found⟩ := Option.bind_eq_some_iff.mp found
  obtain ⟨storedOther, holds⟩ := Option.filter_eq_some_iff.mp found
  exact ⟨state, conn, other, reached, stored, storedOther, of_decide_eq_true holds⟩

/-- Two connections meet in two rooms, and one of them closes. -/
theorem close_as_unsubscribes_met :
    ∃ state conn, (system Sample.roomCrates [App.sample] 60).run Sample.meeting =
        some state ∧
      state.connections.lookup "1.1" = some conn ∧
      framesOn (closeAs Sample.moment "1.1" (unsubscribeEach Sample.roomCrates
          (fun _ => Sample.moment) Sample.leaveRoom "1.1" state
          ["presence-room", "presence-lounge"])) "2.2" (some "presence-room") =
        framesOn (onClose Sample.moment state conn) "2.2" (some "presence-room") := by
  obtain ⟨state, conn, other, reached, stored, storedOther, _, joined, ⟨sent, taken⟩,
    parts, _⟩ := meeting_reached
  have room : RoomFor state conn "2.2" := by
    intro found there
    rw [storedOther] at there
    cases there
    rw [sent, taken, parts]
    decide
  have alike := (close_as_unsubscribes Sample.roomCrates [App.sample] 60 reached "1.1"
    conn stored ["presence-room", "presence-lounge"] (by decide)
    (fun channel => by rw [joined]; simp) Sample.leaveRoom
    (fun channel _ => Sample.names_leaveRoom channel) (fun _ => Sample.moment)
    Sample.moment Sample.moment).1
  exact ⟨state, conn, reached, stored,
    alike.frames "2.2" (by decide) (.inr room) (some "presence-room")⟩

theorem runFrom_pings (count : Nat) {state : AppState} {conn : WsConnection}
    (stored : state.connections.lookup conn.socketId = some conn) :
    (system Sample.roomCrates [App.sample] 60).runFrom state (List.replicate count
        (.message conn.socketId (Sample.text Sample.ping) Sample.moment)) =
      some (state.changeConn conn.socketId fun conn =>
        (List.replicate count ServerMessage.pong).foldl WsConnection.sendRaw conn) := by
  induction count generalizing state conn with
  | zero =>
      rw [AppState.changeConn, List.replicate_zero, List.replicate_zero]
      simp only [List.foldl_nil, Table.modify_self]
      rfl
  | succ count induction =>
      have read : Sample.roomCrates.readMessage (Sample.text Sample.ping) =
          some Sample.ping := by decide +kernel
      have ponged : step Sample.roomCrates state
          (.message conn.socketId (Sample.text Sample.ping) Sample.moment) =
          some (state.send conn.socketId .pong) := by
        rw [step, perform, stored, Option.map_some, onMessage, read]
        rfl
      have same : (conn.sendRaw .pong).socketId = conn.socketId :=
        congrArg View.socketId (conn.view_sendRaw .pong)
      have later := @induction (state.send conn.socketId .pong) (conn.sendRaw .pong) (by
        rw [same, AppState.send, AppState.changeConn, Table.lookup_modify, if_pos rfl,
          stored]
        rfl)
      rw [same] at later
      rw [List.replicate_succ, System.runFrom_cons_eq_some]
      refine ⟨_, ponged, later.trans ?_⟩
      simp only [AppState.send, AppState.changeConn, Table.modify_modify]
      rfl

theorem tx_flooded {conn : WsConnection} {count : Nat}
    (sent : conn.tx.enqueued.length = 2) (taken : conn.tx.taken = 0)
    (left : count + 3 = Outbound.capacity) (frame : ServerMessage) :
    (((List.replicate count frame).foldl WsConnection.sendRaw
      conn).tx.enqueued.length) + 1 = ((List.replicate count frame).foldl
        WsConnection.sendRaw conn).tx.taken + Outbound.capacity := by
  rw [Connections.tx_foldl_sendRaw]
  · dsimp only
    rw [List.length_append, List.length_replicate, sent, taken]
    omega
  · rw [sent, taken, List.length_replicate]
    omega

theorem nearly_full_queue :
    ∃ actions state conn,
      (system Sample.roomCrates [App.sample] 60).run actions = some state ∧
        state.connections.lookup "1.1" = some conn ∧
        framesOn (onClose Sample.moment state conn) "2.2" (some "presence-room") ≠
          framesOn (onClose { Sample.moment with order := Sample.descending } state conn)
            "2.2" (some "presence-room") := by
  obtain ⟨met, conn, other, ran, storedConn, storedOther, ⟨named, namedOther⟩, _,
    ⟨sent, taken⟩, _, upwards, downwards⟩ := meeting_reached
  obtain ⟨count, left⟩ : ∃ count, count + 3 = Outbound.capacity := ⟨509, rfl⟩
  have pinged := @runFrom_pings count met other (namedOther ▸ storedOther)
  rw [namedOther] at pinged
  generalize shape : (met.changeConn "2.2" fun conn =>
    (List.replicate count ServerMessage.pong).foldl WsConnection.sendRaw conn) = state
    at pinged
  have reached : (system Sample.roomCrates [App.sample] 60).run (Sample.meeting ++
      List.replicate count (.message "2.2" (Sample.text Sample.ping) Sample.moment)) =
      some state := by
    rw [System.run, System.runFrom_append]
    exact (congrArg (Option.bind · _) ran).trans pinged
  have handled := (agree_of_reached reached).handled conn.app.id
  have stored : state.connections.lookup "2.2" = some ((List.replicate count
      ServerMessage.pong).foldl WsConnection.sendRaw other) := by
    rw [← shape, AppState.changeConn, Table.lookup_modify, if_pos rfl, storedOther]
    rfl
  have same : ∀ channels, farewells state conn channels "2.2" =
      farewells met conn channels "2.2" := by
    intro channels
    rw [← shape]
    rfl
  have up := @framesTo_of_last Sample.moment state conn "2.2" _ _ _ handled
    (by rw [named]; decide) stored (tx_flooded sent taken left _)
    ((same _).trans upwards)
  have down := @framesTo_of_last { Sample.moment with order := Sample.descending } state
    conn "2.2" _ _ _ handled (by rw [named]; decide) stored
    (tx_flooded sent taken left _) ((same _).trans downwards)
  refine ⟨_, state, conn, reached, ?_, ?_⟩
  · rw [← shape, AppState.changeConn, Table.lookup_modify, if_neg (by decide), storedConn]
  · rw [framesOn, framesOn, up, down]
    intro equal
    have lengths := congrArg List.length equal
    simp [ServerMessage.memberRemoved] at lengths

end RushSocket.Server
