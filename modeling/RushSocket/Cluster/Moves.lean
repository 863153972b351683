import RushSocket.Cluster.Handlers
import RushSocket.Server.Agreement
import RushSocket.Server.Ledger

namespace RushSocket.Cluster

open Adapter Adapter.Redis Data Protocol Server Transition Websocket

/-! What the handlers do to a cluster.  Each node is seen through its core and
its ledger; a handler moves those of its own node and no others. -/

def summaries (cluster : Cluster) (node : String) : Option (Core × Ledger) :=
  (cluster.nodes.lookup node).map fun state => (state.core, state.ledger)

def Stands (cluster : Cluster) (node : String) (core : Core) : Prop :=
  ∃ ledger, cluster.summaries node = some (core, ledger)

structure Moves (node appId : String) (events : List WebhookEvent)
    (before after : Cluster) (core next : Core) : Prop where
  mine : ∃ ledger, before.summaries node = some (core, ledger) ∧
    after.summaries node = some (next, ledger.tell appId events)
  others : ∀ other, other ≠ node → after.summaries other = before.summaries other

section

variable {node appId channel socketId userId : String} {userInfo : Value}
  {first second events : List WebhookEvent} {before between after cluster : Cluster}
  {core middle next : Core} {alter : AppState → AppState} {moment : Moment}

theorem Moves.stands (moves : Moves node appId events before after core next) :
    after.Stands node next := by
  obtain ⟨ledger, _, now⟩ := moves.mine
  exact ⟨_, now⟩

theorem Moves.trans (early : Moves node appId first before between core middle)
    (late : Moves node appId second between after middle next) :
    Moves node appId (first ++ second) before after core next := by
  obtain ⟨ledger, was, then_⟩ := early.mine
  obtain ⟨ledger', again, now⟩ := late.mine
  rw [then_] at again
  cases again
  constructor
  · exact ⟨ledger, was, by rw [now, Ledger.tell_tell]⟩
  · intro other different
    rw [late.others other different, early.others other different]

theorem Moves.of_same (stands : before.Stands node core)
    (same : after.summaries = before.summaries) :
    Moves node appId [] before after core core := by
  obtain ⟨ledger, was⟩ := stands
  refine ⟨⟨ledger, was, ?_⟩, fun other _ => congrFun same other⟩
  rw [same, was, Ledger.tell_of_plain _ _ rfl]

theorem Moves.quiet (moves : Moves node appId events before between core next)
    (same : after.summaries = between.summaries) :
    Moves node appId events before after core next := by
  have late := moves.trans (Moves.of_same moves.stands same)
  rwa [List.append_nil] at late

theorem Moves.late (moves : Moves node appId events between after core next)
    (same : between.summaries = before.summaries) :
    Moves node appId events before after core next := by
  constructor
  · rw [← same]
    exact moves.mine
  · intro other different
    rw [← same]
    exact moves.others other different

theorem summaries_change (other : String) :
    (cluster.change node alter).summaries other =
      if other = node then
        (cluster.nodes.lookup node).map fun state =>
          ((alter state).core, (alter state).ledger)
      else cluster.summaries other := by
  rw [summaries, change, Table.lookup_modify]
  split
  · rw [Option.map_map]
    rfl
  · rfl

theorem summaries_change_same
    (same : ∀ state, (alter state).core = state.core ∧
      (alter state).ledger = state.ledger) :
    (cluster.change node alter).summaries = cluster.summaries := by
  funext other
  rw [summaries_change]
  split
  · rename_i here
    rw [here]
    simp only [same]
    rfl
  · rfl

theorem moves_alter {state : AppState}
    (found : cluster.nodes.lookup node = some state)
    (told : (alter state).ledger = state.ledger.tell appId events) :
    Moves node appId events cluster (cluster.change node alter) state.core
      (alter state).core := by
  refine ⟨⟨state.ledger, ?_, ?_⟩, fun other different => ?_⟩
  · rw [summaries, found]
    rfl
  · rw [summaries_change, if_pos rfl, found, Option.map_some, told]
  · rw [summaries_change, if_neg different]

theorem Stands.found (stands : cluster.Stands node core) :
    ∃ state, cluster.nodes.lookup node = some state ∧ state.core = core := by
  obtain ⟨ledger, was⟩ := stands
  obtain ⟨state, found, shape⟩ := Option.map_eq_some_iff.mp was
  exact ⟨state, found, (Prod.mk.inj shape).1⟩

theorem moves_change (stands : cluster.Stands node core)
    (moved : ∀ state, state.core = core → (alter state).core = next ∧
      (alter state).ledger = state.ledger.tell appId events) :
    Moves node appId events cluster (cluster.change node alter) core next := by
  obtain ⟨state, found, rfl⟩ := stands.found
  obtain ⟨rfl, told⟩ := moved state rfl
  exact moves_alter found told

theorem adapterOf_of_stands (stands : cluster.Stands node core) :
    cluster.adapterOf node = core.adapter := by
  obtain ⟨state, found, rfl⟩ := stands.found
  rw [adapterOf, found]
  rfl

theorem mem_nodes_iff :
    node ∈ cluster.nodes.keys ↔ (cluster.summaries node).isSome = true := by
  rw [summaries, Option.isSome_map, Table.mem_keys_iff, Option.isSome_iff_exists]

theorem adapterOf_eq :
    cluster.adapterOf node =
      ((cluster.summaries node).map fun summary => summary.1.adapter).getD .new := by
  rw [adapterOf, summaries, Option.map_map]
  rfl

theorem Moves.remoteSocketCount
    (moves : Moves node appId events before after core next) (app place : String) :
    after.remoteSocketCount node app place =
      before.remoteSocketCount node app place := by
  have peers : after.nodes.keys.erase node = before.nodes.keys.erase node := by
    ext peer
    rw [Finset.mem_erase, Finset.mem_erase, mem_nodes_iff, mem_nodes_iff]
    exact and_congr_right fun different => by rw [moves.others peer different]
  rw [Cluster.remoteSocketCount, peers]
  refine Finset.sum_congr rfl fun peer member => ?_
  rw [adapterOf_eq, moves.others peer (Finset.ne_of_mem_erase member), ← adapterOf_eq]

/-! The small updates. -/

theorem moves_setAdapter (stands : cluster.Stands node core) (adapter : LocalAdapter) :
    Moves node appId [] cluster (cluster.setAdapter node adapter) core
      (core.setAdapter adapter) := by
  refine moves_change stands fun state same => ⟨?_, ?_⟩
  · rw [AppState.core_setAdapter, same]
  · exact (Ledger.tell_of_plain _ _ rfl).symm

theorem moves_changeConn (stands : cluster.Stands node core)
    {alter : WsConnection → WsConnection} (change : View → View)
    (seen : ∀ conn, (alter conn).view = change conn.view) :
    Moves node appId [] cluster (cluster.changeConn node socketId alter) core
      (core.change socketId change) := by
  refine moves_change stands fun state same => ⟨?_, ?_⟩
  · rw [AppState.core_changeConn state socketId change seen, same]
  · exact (Ledger.tell_of_plain _ _ rfl).symm

theorem moves_notify (stands : cluster.Stands node core) (event : WebhookEvent) :
    Moves node appId [event] cluster (cluster.notify node appId event) core core :=
  moves_change stands fun state same => ⟨same, AppState.ledger_notify state appId event⟩

theorem moves_notify_if (stands : cluster.Stands node core) (flag : Bool)
    (event : WebhookEvent) :
    Moves node appId (if flag then [event] else []) cluster
      (if flag then cluster.notify node appId event else cluster) core core := by
  cases flag with
  | true => exact moves_notify stands event
  | false => exact .of_same stands rfl

@[simp] theorem summaries_send (frame : ServerMessage) :
    (cluster.send node socketId frame).summaries = cluster.summaries :=
  summaries_change_same fun state => ⟨state.core_send socketId frame, rfl⟩

@[simp] theorem summaries_refuse (conn : WsConnection) (message : String) :
    (cluster.refuse node conn message).summaries = cluster.summaries :=
  summaries_change_same fun state => ⟨state.core_send conn.socketId _, rfl⟩

@[simp] theorem summaries_replayIfCache (conn : WsConnection) :
    (cluster.replayIfCache moment node conn channel).summaries = cluster.summaries :=
  summaries_change_same fun _ => ⟨core_replayIfCache .., ledger_replayIfCache ..⟩

@[simp] theorem summaries_sendToChannel (frame : ServerMessage)
    (exceptingId : Option String) :
    (cluster.sendToChannel moment appId channel frame exceptingId).summaries =
      cluster.summaries := by
  funext other
  rw [summaries, sendToChannel, Table.lookup_mapValues, Option.map_map]
  refine congrArg (Option.map · (cluster.nodes.lookup other)) (funext fun state => ?_)
  exact Prod.ext (AppState.core_sendToChannel moment state appId channel frame
    exceptingId) (AppState.ledger_sendToChannel moment state appId channel frame
      exceptingId)

@[simp] theorem summaries_sendSubscriptionCount (reported : String → Nat)
    (enabled : Bool) :
    (cluster.sendSubscriptionCount node appId channel reported enabled).summaries =
      cluster.summaries := by
  unfold sendSubscriptionCount
  split
  · rfl
  · split
    · rfl
    · exact summaries_change_same fun state =>
        ⟨rfl, AppState.ledger_notify_plain state appId rfl⟩

@[simp] theorem summaries_isChannelGloballyOccupied (keyPrefix : String)
    (occupied : Bool) :
    (cluster.isChannelGloballyOccupied keyPrefix node appId channel
      occupied).1.summaries = cluster.summaries := by
  unfold isChannelGloballyOccupied
  split
  · rfl
  · split <;> rfl

@[simp] theorem summaries_isChannelGloballyVacated (keyPrefix : String)
    (vacated : Bool) :
    (cluster.isChannelGloballyVacated keyPrefix node appId channel
      vacated).1.summaries = cluster.summaries := by
  unfold isChannelGloballyVacated
  repeat' split
  all_goals rfl

theorem summaries_countMember (keyPrefix : String) :
    (cluster.countMember keyPrefix appId channel userId userInfo).1.summaries =
      cluster.summaries := by
  simp only [countMember]
  split <;> rfl

theorem summaries_forgetMember (keyPrefix : String) :
    (cluster.forgetMember keyPrefix appId channel userId).summaries =
      cluster.summaries := by
  simp only [forgetMember]
  split <;> rfl

end

/-! The handlers. -/

section

variable {crates : Crates} {keyPrefix : String} {moment : Moment}
  {reported : String → Nat} {cluster : Cluster} {node : String}
  {conn : WsConnection} {core : Core} {channel userId : String} {userInfo : Value}

theorem moves_joinChannel (stands : cluster.Stands node core) (authenticated : Bool) :
    ∃ claimed, Moves node conn.app.id (occupiedEvents claimed channel) cluster
      (cluster.joinChannel keyPrefix moment reported node conn channel authenticated)
      core (core.join conn.app.id conn.socketId channel) := by
  have placed := @moves_setAdapter node conn.app.id cluster core stands
    (core.adapter.addToChannel conn.app.id conn.socketId channel).1
  have joined := placed.trans (@moves_changeConn node conn.app.id conn.socketId _ _
    placed.stands (fun stored => if authenticated then
      (stored.addChannel channel).authenticate else stored.addChannel channel)
    (fun view => { view with channels := insert channel view.channels })
    (fun stored => by split <;> rfl))
  simp only [joinChannel, adapterOf_of_stands stands]
  generalize (core.adapter.addToChannel conn.app.id conn.socketId channel).2 = occupied
  refine ⟨_, .quiet (.quiet (joined.trans (.late (moves_notify_if ?_ _ _) ?_))
    (summaries_sendSubscriptionCount ..)) (summaries_replayIfCache conn)⟩
  · exact (joined.quiet (summaries_send _)).quiet
      (summaries_isChannelGloballyOccupied keyPrefix occupied) |>.stands
  · exact (summaries_isChannelGloballyOccupied keyPrefix occupied).trans
      (summaries_send _)

theorem setAdapter_addPresenceMember (core : Core) (appId socketId channel userId : String)
    (userInfo : Value) :
    ∃ maxMembers,
      (core.adapter.tryAddPresenceMember appId channel socketId userId userInfo
        maxMembers).2.isOk = true ∧
      core.setAdapter (core.adapter.addPresenceMember appId channel socketId userId
        userInfo).1 =
        core.tryPresence appId socketId channel userId userInfo maxMembers := by
  refine ⟨((core.adapter.ns appId).presenceOf channel).size + 1, ?_, ?_⟩
  · simp [LocalAdapter.tryAddPresenceMember, LocalAdapter.createWith,
      Namespace.tryAddPresenceMember, Except.isOk, Except.toBool]
  · simp [LocalAdapter.tryAddPresenceMember, LocalAdapter.createWith,
      Namespace.tryAddPresenceMember, Core.tryPresence,
      LocalAdapter.addPresenceMember, Namespace.addPresenceMember]

theorem summaries_joinPresence_refused
    (refused : cluster.overLimit keyPrefix conn.app.id channel userId
      conn.app.maxPresenceMembersPerChannel = true) :
    (cluster.joinPresence crates keyPrefix moment node conn channel userId
      userInfo).summaries = cluster.summaries := by
  simp only [joinPresence, tryAddPresenceMember, refused, if_true]
  exact summaries_send _

theorem moves_tryAddPresenceMember (stands : cluster.Stands node core)
    {appId socketId : String} {maxMembers : Nat}
    (admitted : cluster.overLimit keyPrefix appId channel userId maxMembers = false) :
    ∃ isNew members, (cluster.tryAddPresenceMember crates keyPrefix node appId channel
        socketId userId userInfo maxMembers).2 = .ok (isNew, members) ∧
      Moves node appId [] cluster (cluster.tryAddPresenceMember crates keyPrefix node
        appId channel socketId userId userInfo maxMembers).1 core
        (core.setAdapter (core.adapter.addPresenceMember appId channel socketId userId
          userInfo).1) := by
  have placed := @moves_setAdapter node appId cluster core stands
    (core.adapter.addPresenceMember appId channel socketId userId userInfo).1
  simp only [tryAddPresenceMember, admitted, Bool.false_eq_true, if_false,
    adapterOf_of_stands stands]
  exact ⟨_, _, rfl, placed.quiet (summaries_countMember keyPrefix)⟩

theorem moves_announce (stands : cluster.Stands node core) (isNew : Bool) :
    Moves node conn.app.id (addedEvents isNew channel userId) cluster
      (if isNew then cluster.announce moment node conn channel userId userInfo
        else cluster) core core := by
  cases isNew with
  | false => exact .of_same stands rfl
  | true =>
      have sent := @Moves.of_same node conn.app.id _ _ _ stands
        (@summaries_sendToChannel conn.app.id channel cluster moment
          (.memberAdded channel userId userInfo) (some conn.socketId))
      exact sent.trans (moves_notify sent.stands (.memberAdded channel userId))

theorem moves_joinPresence (stands : cluster.Stands node core)
    (admitted : cluster.overLimit keyPrefix conn.app.id channel userId
      conn.app.maxPresenceMembersPerChannel = false) :
    ∃ maxMembers isNew,
      (core.adapter.tryAddPresenceMember conn.app.id channel conn.socketId userId
        userInfo maxMembers).2.isOk = true ∧
      Moves node conn.app.id
        (occupiedEvents ((core.tryPresence conn.app.id conn.socketId channel userId
            userInfo maxMembers).adapter.addToChannel conn.app.id conn.socketId
              channel).2 channel ++ addedEvents isNew channel userId)
        cluster (cluster.joinPresence crates keyPrefix moment node conn channel userId
          userInfo) core
        (((core.tryPresence conn.app.id conn.socketId channel userId userInfo
          maxMembers).join conn.app.id conn.socketId channel).notePresence
            conn.socketId channel userId userInfo) := by
  obtain ⟨isNew, members, outcome, tried⟩ := @moves_tryAddPresenceMember crates keyPrefix
    cluster node core channel userId userInfo stands conn.app.id conn.socketId _ admitted
  obtain ⟨maxMembers, accepted, same⟩ := setAdapter_addPresenceMember core conn.app.id
    conn.socketId channel userId userInfo
  rw [same] at tried
  refine ⟨maxMembers, isNew, accepted, ?_⟩
  have placed := tried.trans (moves_setAdapter tried.stands
    ((core.tryPresence conn.app.id conn.socketId channel userId userInfo
      maxMembers).adapter.addToChannel conn.app.id conn.socketId channel).1)
  have joined := placed.trans (@moves_changeConn node conn.app.id conn.socketId _ _
    placed.stands (fun stored =>
      ((stored.addChannel channel).setPresence channel userId userInfo).authenticate)
    ((fun view => { view with
        presence := view.presence.insert channel (userId, userInfo) }) ∘
      fun view => { view with channels := insert channel view.channels })
    (fun stored => rfl))
  rw [← Core.change_change] at joined
  have told := fun occupied => joined.trans
    (moves_notify_if joined.stands occupied (.channelOccupied channel))
  simp only [joinPresence, outcome, adapterOf_of_stands tried.stands]
  refine .quiet ((told _).trans (.late (moves_announce ?_ isNew) ?_))
    (summaries_replayIfCache conn)
  · exact ((told _).quiet (summaries_send _)).stands
  · exact summaries_send _

/-! Leaving. -/

theorem moves_removePresenceMember (stands : cluster.Stands node core)
    {appId socketId : String} :
    Moves node appId [] cluster (cluster.removePresenceMember keyPrefix node appId
        channel socketId userId).1 core
      (core.dropPresence appId socketId channel userId) := by
  have placed := @moves_setAdapter node appId cluster core stands
    (core.adapter.removePresenceMember appId channel socketId userId).1
  simp only [removePresenceMember, adapterOf_of_stands stands]
  split
  · exact placed.quiet (summaries_forgetMember keyPrefix)
  · exact placed.quiet rfl

theorem moves_leavePresence (stands : cluster.Stands node core) :
    ∃ userGone, Moves node conn.app.id (removedEvents userGone channel userId) cluster
      (cluster.leavePresence keyPrefix moment node conn channel userId) core
      (core.dropPresence conn.app.id conn.socketId channel userId) := by
  have removed := @moves_removePresenceMember keyPrefix cluster node core channel userId
    stands conn.app.id conn.socketId
  simp only [leavePresence]
  split
  · have sent := removed.quiet (@summaries_sendToChannel conn.app.id channel _ moment
      (.memberRemoved channel userId) (some conn.socketId))
    exact ⟨true, sent.trans (moves_notify sent.stands _)⟩
  · exact ⟨false, removed⟩

theorem moves_withdraw (stands : cluster.Stands node core) :
    ∃ userGone userId, Moves node conn.app.id (removedEvents userGone channel userId)
      cluster (cluster.withdraw keyPrefix moment node conn channel) core
      ((core.forget conn channel).withdraw conn channel) := by
  have same := @Moves.of_same node conn.app.id cluster cluster core stands rfl
  unfold withdraw Core.forget Core.withdraw
  cases (ChannelKind.fromName channel).isPresence with
  | false => exact ⟨false, "", by simpa [removedEvents] using same⟩
  | true =>
      cases conn.getPresence channel with
      | none => exact ⟨false, "", by simpa [removedEvents] using same⟩
      | some member =>
          have forgotten := @moves_changeConn node conn.app.id conn.socketId cluster core
            stands (fun stored => stored.removePresence channel)
            (fun view => { view with presence := view.presence.erase channel })
            (fun stored => rfl)
          obtain ⟨userGone, left⟩ := @moves_leavePresence keyPrefix moment _ node conn _
            channel member.1 forgotten.stands
          refine ⟨userGone, member.1, ?_⟩
          simpa [Core.forgetPresence] using forgotten.trans left

/-- Whether a leave finds no subscriber of the channel on any node. -/
def Vacates (cluster : Cluster) (node appId socketId channel : String) (core : Core) :
    Prop :=
  ((core.adapter.ns appId).channels.members channel).erase socketId = ∅ ∧
    cluster.remoteSocketCount node appId channel = 0

instance (node appId socketId channel : String) :
    Decidable (Vacates cluster node appId socketId channel core) :=
  inferInstanceAs (Decidable (_ ∧ _))

theorem isChannelGloballyVacated_iff {appId : String} {vacated : Bool} :
    (cluster.isChannelGloballyVacated keyPrefix node appId channel vacated).2 = true ↔
      vacated = true ∧
        (cluster.adapterOf node).getChannelSocketCount appId channel = 0 ∧
        cluster.remoteSocketCount node appId channel = 0 := by
  unfold isChannelGloballyVacated
  cases vacated with
  | false => simp
  | true =>
      simp only [Bool.not_true, Bool.false_eq_true, if_false, true_and]
      split
      · rename_i here
        exact iff_of_false Bool.false_ne_true fun both => by omega
      · rename_i nobody
        split
        · exact iff_of_false Bool.false_ne_true fun both => by omega
        · exact iff_of_true rfl (by omega)

theorem members_leave (core : Core) (appId socketId channel : String) :
    ((core.leave appId socketId channel).adapter.ns appId).channels.members channel =
      ((core.adapter.ns appId).channels.members channel).erase socketId := by
  rw [Core.leave, Core.setAdapter, (core.adapter.ns_removeFromChannel appId socketId
    channel appId).1, if_pos rfl, Namespace.members_removeFromChannel,
    Table.members_discard, if_pos rfl]

theorem moves_leaveChannel (stands : cluster.Stands node core)
    (member : core.adapter.Subscribed conn.app.id conn.socketId channel) :
    ∃ vacated, (vacated = true ↔
        Vacates cluster node conn.app.id conn.socketId channel core) ∧
      Moves node conn.app.id (vacatedEvents vacated channel) cluster
        (cluster.leaveChannel keyPrefix reported node conn channel) core
        (core.leave conn.app.id conn.socketId channel) := by
  have placed : Moves node conn.app.id [] cluster (cluster.setAdapter node
      (core.adapter.removeFromChannel conn.app.id conn.socketId channel).1) core
      (core.leave conn.app.id conn.socketId channel) := moves_setAdapter stands _
  have flag := (core.adapter.ns conn.app.id).removeFromChannel_snd member
  rw [← (core.adapter.ns_removeFromChannel conn.app.id conn.socketId channel
    conn.app.id).2] at flag
  have here := adapterOf_of_stands placed.stands
  simp only [leaveChannel, adapterOf_of_stands stands]
  refine ⟨_, isChannelGloballyVacated_iff.trans ?_, .quiet (placed.trans
    (.late (moves_notify_if ?_ _ _) ?_)) (summaries_sendSubscriptionCount ..)⟩
  · rw [flag, here, placed.remoteSocketCount, LocalAdapter.getChannelSocketCount_eq,
      members_leave, Finset.card_eq_zero]
    simp [Vacates]
  · exact (placed.quiet (summaries_isChannelGloballyVacated keyPrefix _)).stands
  · exact summaries_isChannelGloballyVacated keyPrefix _

theorem Moves.left {between : Cluster} {middle : Core} {events : List WebhookEvent}
    (withdrawn : Moves node conn.app.id events cluster between core middle)
    (kept : LocalAdapter.Keeps LocalAdapter.membership core.adapter middle.adapter)
    (member : core.adapter.Subscribed conn.app.id conn.socketId channel) :
    ∃ vacated, (vacated = true ↔
        Vacates cluster node conn.app.id conn.socketId channel core) ∧
      Moves node conn.app.id (events ++ vacatedEvents vacated channel) cluster
        (between.leaveChannel keyPrefix reported node conn channel) core
        (middle.leave conn.app.id conn.socketId channel) := by
  obtain ⟨vacated, verdict, left⟩ := @moves_leaveChannel keyPrefix reported _ node conn _
    channel withdrawn.stands (kept.subscribed.mpr member)
  have channels : (middle.adapter.ns conn.app.id).channels =
      (core.adapter.ns conn.app.id).channels := congrArg Prod.fst (kept conn.app.id)
  refine ⟨vacated, verdict.trans ?_, withdrawn.trans left⟩
  rw [Vacates, Vacates, channels, withdrawn.remoteSocketCount]

theorem moves_unsubscribed (stands : cluster.Stands node core)
    (member : core.adapter.Subscribed conn.app.id conn.socketId channel) :
    ∃ userGone userId vacated,
      (vacated = true ↔
        Vacates cluster node conn.app.id conn.socketId channel core) ∧
      Moves node conn.app.id
        (removedEvents userGone channel userId ++ vacatedEvents vacated channel) cluster
        (((cluster.withdraw keyPrefix moment node conn channel).changeConn node
          conn.socketId fun stored => stored.removeChannel channel).leaveChannel
            keyPrefix reported node conn channel) core
        (core.unsubscribe conn channel) := by
  obtain ⟨userGone, userId, withdrawn⟩ := @moves_withdraw keyPrefix moment _ node conn _
    channel stands
  have forgotten := withdrawn.trans (@moves_changeConn node conn.app.id conn.socketId _ _
    withdrawn.stands (fun stored => stored.removeChannel channel)
    (fun view => { view with channels := view.channels.erase channel })
    (fun stored => rfl))
  rw [List.append_nil] at forgotten
  have adapter : (core.forget conn channel).adapter = core.adapter := by
    unfold Core.forget
    split <;> rfl
  have kept : LocalAdapter.Keeps LocalAdapter.membership core.adapter
      ((core.forget conn channel).withdraw conn channel).adapter :=
    adapter ▸ keeps_withdraw fun _ _ => rfl
  exact ⟨userGone, userId, forgotten.left kept member⟩

theorem moves_closePresence (stands : cluster.Stands node core) :
    ∃ userGone userId, Moves node conn.app.id
      (removedEvents userGone channel userId) cluster
      (if (ChannelKind.fromName channel).isPresence then
        match conn.getPresence channel with
        | some (userId, _) =>
            cluster.leavePresence keyPrefix moment node conn channel userId
        | none => cluster
      else cluster) core (core.withdraw conn channel) := by
  have same := @Moves.of_same node conn.app.id cluster cluster core stands rfl
  unfold Core.withdraw
  cases (ChannelKind.fromName channel).isPresence with
  | false => exact ⟨false, "", by simpa [removedEvents] using same⟩
  | true =>
      cases conn.getPresence channel with
      | none => exact ⟨false, "", by simpa [removedEvents] using same⟩
      | some member =>
          obtain ⟨userGone, left⟩ := @moves_leavePresence keyPrefix moment _ node conn
            _ channel member.1 stands
          exact ⟨userGone, member.1, by simpa using left⟩

theorem moves_closeChannel (stands : cluster.Stands node core)
    (member : core.adapter.Subscribed conn.app.id conn.socketId channel) :
    ∃ userGone userId vacated,
      (vacated = true ↔
        Vacates cluster node conn.app.id conn.socketId channel core) ∧
      Moves node conn.app.id
        (removedEvents userGone channel userId ++ vacatedEvents vacated channel) cluster
        (cluster.closeChannel keyPrefix moment reported node conn channel) core
        (core.closeChannel conn channel) := by
  obtain ⟨userGone, userId, withdrawn⟩ := @moves_closePresence keyPrefix moment cluster node
    conn core channel stands
  exact ⟨userGone, userId, withdrawn.left (keeps_withdraw fun _ _ => rfl) member⟩

end

end RushSocket.Cluster
