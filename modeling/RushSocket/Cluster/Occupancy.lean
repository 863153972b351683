import RushSocket.Cluster.Moves

namespace RushSocket.Cluster

open Adapter Adapter.Redis Data Protocol Server Transition Websocket

/-! Whether the webhooks of a presence channel tell when the nodes together get
its first subscriber and lose its last one. -/

section

variable (cluster : Cluster) (node appId channel : String)

def queueOf : List WebhookEvent :=
  ((cluster.nodes.lookup node).bind fun state => state.webhooks.lookup appId).getD []

/-- How often the nodes together have enqueued a webhook for the app. -/
def enqueued (event : WebhookEvent) : Nat :=
  ∑ node ∈ cluster.nodes.keys, (cluster.queueOf node appId).count event

def subscriberCount : Nat :=
  ∑ node ∈ cluster.nodes.keys,
    (cluster.adapterOf node).getChannelSocketCount appId channel

end

/-- The webhooks of the channel tell what the operation does to the number of
its subscribers. -/
structure Reported (appId channel : String) (before after : Cluster) : Prop where
  occupied : after.enqueued appId (.channelOccupied channel) =
    before.enqueued appId (.channelOccupied channel) +
      if before.subscriberCount appId channel = 0 ∧
        after.subscriberCount appId channel = 1 then 1 else 0
  vacated : after.enqueued appId (.channelVacated channel) =
    before.enqueued appId (.channelVacated channel) +
      if before.subscriberCount appId channel = 1 ∧
        after.subscriberCount appId channel = 0 then 1 else 0

/-- The user of a presence subscription that passes the checks before the limit
of the channel. -/
def admittedUser (crates : Crates) (conn : WsConnection) (channel : String)
    (data : Value) : Option String := do
  let auth ← stringField data "auth"
  let channelDataText ← stringField data "channel_data"
  guard (Auth.verifyChannelAuth crates.sign conn.app.key conn.app.secret conn.socketId
    channel (some channelDataText) auth)
  let channelData ← crates.readValue channelDataText
  let userId ← idField channelData "user_id"
  guard (channelData.json.print.utf8ByteSize ≤
    kilobytes conn.app.maxPresenceMemberSizeInKb)
  return userId

/-- The channel and the user of the presence subscription that a message asks
for, when it passes these checks. -/
def asked (crates : Crates) (conn : WsConnection) (msg : ClientMessage) :
    Option (String × String) := do
  let data ← extractData crates msg
  let channel ← stringField data "channel"
  guard (isValidChannelName channel)
  guard (channel.utf8ByteSize ≤ conn.app.maxChannelNameLength)
  guard (channel ∉ conn.subscribedChannels)
  guard (ChannelKind.fromName channel).isPresence
  let userId ← admittedUser crates conn channel data
  return (channel, userId)

section

variable (crates : Crates) (keyPrefix appId channel : String) (cluster : Cluster)

def opens (node socketId : String) (msg : ClientMessage) : Bool :=
  (cluster.connOf node socketId).any fun conn =>
    conn.app.id = appId &&
    (asked crates conn msg).any (fun request =>
      request.1 = channel && !cluster.overLimit keyPrefix appId channel request.2
        conn.app.maxPresenceMembersPerChannel) &&
    (cluster.adapterOf node).getChannelSocketCount appId channel = 0

/-- A node gets its first subscriber of the channel only when no other node has
one. -/
def OpensAlone : Action → Prop
  | .subscribe node socketId msg _ _ =>
      cluster.opens crates keyPrefix appId channel node socketId msg = true →
        cluster.remoteSocketCount node appId channel = 0
  | _ => True

instance (action : Action) :
    Decidable (OpensAlone crates keyPrefix appId channel cluster action) := by
  cases action <;> unfold OpensAlone <;> infer_instance

def Reports (action : Action) : Prop :=
  ∀ next, step crates keyPrefix cluster action = some next →
    Reported appId channel cluster next

end

/-! What a message to subscribe can lead to. -/

inductive Subscription (crates : Crates) (keyPrefix : String) (moment : Moment)
    (reported : String → Nat) (cluster : Cluster) (node : String)
    (conn : WsConnection) (msg : ClientMessage) : Cluster → Prop where
  | kept {after : Cluster} (unasked : asked crates conn msg = none)
      (same : after.summaries = cluster.summaries) :
      Subscription crates keyPrefix moment reported cluster node conn msg after
  | joined {channel : String} {authenticated : Bool}
      (unasked : asked crates conn msg = none)
      (plain : (ChannelKind.fromName channel).isPresence = false) :
      Subscription crates keyPrefix moment reported cluster node conn msg
        (cluster.joinChannel keyPrefix moment reported node conn channel authenticated)
  | joinedPresence {channel userId : String} {userInfo : Value}
      (asks : asked crates conn msg = some (channel, userId))
      (fresh : channel ∉ conn.subscribedChannels)
      (presence : (ChannelKind.fromName channel).isPresence = true) :
      Subscription crates keyPrefix moment reported cluster node conn msg
        (cluster.joinPresence crates keyPrefix moment node conn channel userId userInfo)

section

variable {crates : Crates} {keyPrefix : String} {moment : Moment}
  {reported : String → Nat} {cluster : Cluster} {node : String}
  {conn : WsConnection} {msg : ClientMessage} {channel : String} {data : Value}

theorem asked_of_plain (extracted : extractData crates msg = some data)
    (named : stringField data "channel" = some channel)
    (plain : (ChannelKind.fromName channel).isPresence = false) :
    asked crates conn msg = none := by
  simp [asked, extracted, named, plain]

theorem subscription_private (extracted : extractData crates msg = some data)
    (named : stringField data "channel" = some channel)
    (plain : (ChannelKind.fromName channel).isPresence = false) :
    Subscription crates keyPrefix moment reported cluster node conn msg
      (cluster.subscribePrivate crates keyPrefix moment reported node conn channel
        data) := by
  have unasked : asked crates conn msg = none := asked_of_plain extracted named plain
  unfold subscribePrivate
  split
  · exact .kept unasked (summaries_refuse conn _)
  · split
    · exact .kept unasked (summaries_refuse conn _)
    · exact .joined unasked plain

theorem subscription_presence (extracted : extractData crates msg = some data)
    (named : stringField data "channel" = some channel)
    (valid : isValidChannelName channel = true)
    (short : channel.utf8ByteSize ≤ conn.app.maxChannelNameLength)
    (fresh : channel ∉ conn.subscribedChannels)
    (presence : (ChannelKind.fromName channel).isPresence = true) :
    Subscription crates keyPrefix moment reported cluster node conn msg
      (cluster.subscribePresence crates keyPrefix moment node conn channel data) := by
  have same : asked crates conn msg =
      (admittedUser crates conn channel data).map fun userId => (channel, userId) := by
    simp [asked, extracted, named, valid, short, fresh, presence, Option.map_eq_bind]
  have refused : ∀ message, admittedUser crates conn channel data = none →
      Subscription crates keyPrefix moment reported cluster node conn msg
        (cluster.refuse node conn message) := by
    intro message none_
    exact .kept (by rw [same, none_]; rfl) (summaries_refuse conn message)
  unfold subscribePresence
  split
  · rename_i unauthorised
    exact refused _ (by simp [admittedUser, unauthorised])
  · rename_i auth authGiven
    split
    · rename_i missing
      exact refused _ (by simp [admittedUser, authGiven, missing])
    · rename_i channelDataText channelDataGiven
      split
      · rename_i failed
        exact refused _ (by simp_all [admittedUser])
      · rename_i verified
        split
        · rename_i unreadable
          exact refused _ (by simp [admittedUser, authGiven, channelDataGiven, unreadable])
        · rename_i channelData readData
          split
          · rename_i unnamed
            exact refused _ (by
              simp [admittedUser, authGiven, channelDataGiven, readData, unnamed])
          · rename_i userId given
            split
            · rename_i large
              exact refused _ (by
                simp [admittedUser, authGiven, channelDataGiven, readData, given, large])
            · rename_i small
              refine .joinedPresence ?_ fresh presence
              rw [same, Option.map_eq_some_iff]
              refine ⟨userId, ?_, rfl⟩
              simp_all [admittedUser]

theorem subscription_subscribe (crates : Crates) (keyPrefix : String)
    (moment : Moment) (reported : String → Nat) (cluster : Cluster) (node : String)
    (conn : WsConnection) (msg : ClientMessage) :
    Subscription crates keyPrefix moment reported cluster node conn msg
      (cluster.subscribe crates keyPrefix moment reported node conn msg) := by
  unfold subscribe
  split
  · rename_i unread
    exact .kept (by simp [asked, unread]) (summaries_refuse conn _)
  · rename_i data extracted
    split
    · rename_i unnamed
      exact .kept (by simp [asked, extracted, unnamed]) (summaries_refuse conn _)
    · rename_i channel named
      split
      · rename_i invalid
        refine .kept ?_ (summaries_refuse conn _)
        simp only [Bool.or_eq_true, Bool.not_eq_true', decide_eq_true_iff] at invalid
        rcases invalid with malformed | long
        · simp [asked, extracted, named, malformed]
        · simp [asked, extracted, named, long]
      · rename_i valid
        simp only [Bool.or_eq_true, Bool.not_eq_true', decide_eq_true_iff, not_or,
          Bool.not_eq_false, Nat.not_lt] at valid
        split
        · rename_i subscribed
          refine .kept ?_ rfl
          have there : channel ∈ conn.subscribedChannels := by
            simpa [WsConnection.isSubscribed] using subscribed
          simp [asked, extracted, named, there]
        · rename_i notSubscribed
          have fresh : channel ∉ conn.subscribedChannels := by
            simpa [WsConnection.isSubscribed] using notSubscribed
          have plain : (ChannelKind.fromName channel).isPresence = false →
              asked crates conn msg = none := asked_of_plain extracted named
          split <;> rename_i kind
          · exact .joined (plain (by rw [kind]; rfl)) (by rw [kind]; rfl)
          · exact .joined (plain (by rw [kind]; rfl)) (by rw [kind]; rfl)
          · exact subscription_private extracted named (by rw [kind]; rfl)
          · exact subscription_private extracted named (by rw [kind]; rfl)
          · exact subscription_private extracted named (by rw [kind]; rfl)
          · exact subscription_private extracted named (by rw [kind]; rfl)
          · exact subscription_presence extracted named valid.1 valid.2 fresh
              (by rw [kind]; rfl)
          · exact subscription_presence extracted named valid.1 valid.2 fresh
              (by rw [kind]; rfl)

end

/-! The numbers. -/

section

variable {node told appId channel socketId : String} {events : List WebhookEvent}
  {before after cluster : Cluster} {core next : Core} {event : WebhookEvent}

theorem count_queueOf (describes : event.describes = true) :
    (cluster.queueOf node appId).count event =
      (((cluster.summaries node).bind fun summary =>
        summary.2.stream appId).getD []).count event := by
  rw [queueOf, summaries]
  cases cluster.nodes.lookup node with
  | none => rfl
  | some state =>
      simp only [Option.map_some, Option.bind_some, AppState.ledger]
      cases state.webhooks.lookup appId with
      | none => rfl
      | some queue => exact (List.count_filter describes).symm

theorem Stands.mem (stands : cluster.Stands node core) : node ∈ cluster.nodes.keys := by
  obtain ⟨ledger, was⟩ := stands
  rw [mem_nodes_iff, was]
  rfl

theorem Moves.was (moves : Moves node told events before after core next) :
    before.Stands node core := by
  obtain ⟨ledger, was, _⟩ := moves.mine
  exact ⟨ledger, was⟩

/-- The agreement holds on every node, and every node has a queue for the app. -/
structure Sound (appId : String) (cluster : Cluster) : Prop where
  agree : ∀ {node core}, cluster.Stands node core → Agree core
  queued : ∀ {node core ledger}, cluster.summaries node = some (core, ledger) →
    (ledger.stream appId).isSome = true

theorem Sound.moves (sound : Sound appId before)
    (moves : Moves node told events before after core next) (agree : Agree next) :
    Sound appId after := by
  obtain ⟨ledger, was, now⟩ := moves.mine
  constructor
  · rintro peer other ⟨theirs, found⟩
    by_cases same : peer = node
    · rw [same, now] at found
      cases found
      exact agree
    · rw [moves.others peer same] at found
      exact sound.agree ⟨theirs, found⟩
  · intro peer other theirs found
    by_cases same : peer = node
    · rw [same, now] at found
      cases found
      simp only [Ledger.tell]
      split
      · rw [Option.isSome_map]
        exact sound.queued was
      · exact sound.queued was
    · rw [moves.others peer same] at found
      exact sound.queued found

theorem Moves.keys (moves : Moves node told events before after core next) :
    after.nodes.keys = before.nodes.keys := by
  ext peer
  rw [mem_nodes_iff, mem_nodes_iff]
  by_cases same : peer = node
  · obtain ⟨ledger, was, now⟩ := moves.mine
    rw [same, was, now]
    exact iff_of_true rfl rfl
  · rw [moves.others peer same]

theorem Moves.enqueued (moves : Moves node told events before after core next)
    (sound : Sound appId before) (describes : event.describes = true) :
    after.enqueued appId event =
      before.enqueued appId event + if told = appId then events.count event else 0 := by
  obtain ⟨ledger, was, now⟩ := moves.mine
  obtain ⟨queue, stored⟩ := Option.isSome_iff_exists.mp (sound.queued was)
  have mine : (after.queueOf node appId).count event =
      (before.queueOf node appId).count event +
        if told = appId then events.count event else 0 := by
    rw [count_queueOf describes, count_queueOf describes, was, now]
    simp only [Option.bind_some, Ledger.tell, stored, Option.map_some, Option.getD_some,
      eq_comm (a := appId)]
    split
    · rw [Option.getD_some, List.count_append, List.count_filter describes]
    · rfl
  have others : ∀ peer ∈ before.nodes.keys.erase node,
      (after.queueOf peer appId).count event =
        (before.queueOf peer appId).count event := by
    intro peer member
    rw [count_queueOf describes, count_queueOf describes,
      moves.others peer (Finset.ne_of_mem_erase member)]
  rw [Cluster.enqueued, Cluster.enqueued, moves.keys,
    ← Finset.add_sum_erase _ _ moves.was.mem, ← Finset.add_sum_erase _ _ moves.was.mem,
    mine, Finset.sum_congr rfl others]
  omega

def seats (core : Core) (appId channel : String) : Nat :=
  ((core.adapter.ns appId).channels.members channel).card

theorem subscriberCount_eq (stands : cluster.Stands node core) :
    cluster.subscriberCount appId channel =
      seats core appId channel + cluster.remoteSocketCount node appId channel := by
  rw [subscriberCount, ← Finset.add_sum_erase _ _ stands.mem, remoteSocketCount,
    adapterOf_of_stands stands, LocalAdapter.getChannelSocketCount_eq, seats]

/-- What has to be shown of a step that moves one node. -/
theorem Moves.reported_iff (moves : Moves node told events before after core next)
    (sound : Sound appId before) {remote : Nat}
    (rest : before.remoteSocketCount node appId channel = remote) :
    Reported appId channel before after ↔
      (if told = appId then events.count (.channelOccupied channel) else 0) =
          (if seats core appId channel + remote = 0 ∧
            seats next appId channel + remote = 1 then 1 else 0) ∧
        (if told = appId then events.count (.channelVacated channel) else 0) =
          (if seats core appId channel + remote = 1 ∧
            seats next appId channel + remote = 0 then 1 else 0) := by
  have occupied := @Moves.enqueued _ _ appId _ _ _ _ _ (.channelOccupied channel) moves
    sound rfl
  have vacated := @Moves.enqueued _ _ appId _ _ _ _ _ (.channelVacated channel) moves
    sound rfl
  have early := @subscriberCount_eq node appId channel before core moves.was
  have late := @subscriberCount_eq node appId channel after next moves.stands
  rw [moves.remoteSocketCount, rest] at late
  rw [rest] at early
  constructor
  · rintro ⟨first, second⟩
    rw [early, late] at first second
    omega
  · rintro ⟨first, second⟩
    constructor
    · rw [early, late]
      omega
    · rw [early, late]
      omega

/-! What is counted in the events of one step. -/

theorem count_unlike (flag : Bool) {told : WebhookEvent} (unlike : told.name ≠ event.name) :
    (if flag then [told] else []).count event = 0 := by
  refine List.count_eq_zero.mpr fun member => ?_
  cases flag with
  | false => cases member
  | true => exact unlike (congrArg WebhookEvent.name (List.mem_singleton.mp member).symm)

theorem count_added (isNew : Bool) (place userId : String) :
    (addedEvents isNew place userId).count (.channelOccupied channel) = 0 ∧
      (addedEvents isNew place userId).count (.channelVacated channel) = 0 :=
  ⟨count_unlike isNew (by simp [WebhookEvent.memberAdded, WebhookEvent.channelOccupied]),
    count_unlike isNew (by simp [WebhookEvent.memberAdded, WebhookEvent.channelVacated])⟩

theorem count_removed (userGone : Bool) (place userId : String) :
    (removedEvents userGone place userId).count (.channelOccupied channel) = 0 ∧
      (removedEvents userGone place userId).count (.channelVacated channel) = 0 :=
  ⟨count_unlike userGone
      (by simp [WebhookEvent.memberRemoved, WebhookEvent.channelOccupied]),
    count_unlike userGone
      (by simp [WebhookEvent.memberRemoved, WebhookEvent.channelVacated])⟩

theorem count_occupied (occupied : Bool) (place : String) :
    (occupiedEvents occupied place).count (.channelOccupied channel) =
        (if occupied ∧ place = channel then 1 else 0) ∧
      (occupiedEvents occupied place).count (.channelVacated channel) = 0 := by
  refine ⟨?_, count_unlike occupied
    (by simp [WebhookEvent.channelOccupied, WebhookEvent.channelVacated])⟩
  cases occupied with
  | false => simp [occupiedEvents]
  | true =>
      by_cases same : place = channel
      · simp [occupiedEvents, same]
      · simp [occupiedEvents, same, WebhookEvent.channelOccupied]

theorem count_vacated (vacated : Bool) (place : String) :
    (vacatedEvents vacated place).count (.channelOccupied channel) = 0 ∧
      (vacatedEvents vacated place).count (.channelVacated channel) =
        if vacated ∧ place = channel then 1 else 0 := by
  refine ⟨count_unlike vacated
    (by simp [WebhookEvent.channelOccupied, WebhookEvent.channelVacated]), ?_⟩
  cases vacated with
  | false => simp [vacatedEvents]
  | true =>
      by_cases same : place = channel
      · simp [vacatedEvents, same]
      · simp [vacatedEvents, same, WebhookEvent.channelVacated]

theorem Moves.reported_still (moves : Moves node told events before after core next)
    (sound : Sound appId before)
    (seated : seats next appId channel = seats core appId channel)
    (silent : told = appId → events.count (.channelOccupied channel) = 0 ∧
      events.count (.channelVacated channel) = 0) :
    Reported appId channel before after := by
  rw [moves.reported_iff sound rfl, seated]
  generalize before.remoteSocketCount node appId channel = remote
  by_cases same : told = appId
  · obtain ⟨occupied, vacated⟩ := silent same
    rw [if_pos same, if_pos same, occupied, vacated]
    exact ⟨(if_neg (by omega)).symm, (if_neg (by omega)).symm⟩
  · rw [if_neg same, if_neg same]
    exact ⟨(if_neg (by omega)).symm, (if_neg (by omega)).symm⟩

theorem Moves.reported_left (moves : Moves node appId events before after core next)
    (sound : Sound appId before)
    (member : core.adapter.Subscribed appId socketId channel)
    (remaining : (next.adapter.ns appId).channels.members channel =
      ((core.adapter.ns appId).channels.members channel).erase socketId)
    (silent : events.count (.channelOccupied channel) = 0)
    (told : events.count (.channelVacated channel) =
      if Vacates before node appId socketId channel core then 1 else 0) :
    Reported appId channel before after := by
  have smaller := Finset.card_erase_add_one member
  rw [moves.reported_iff sound rfl, if_pos rfl, if_pos rfl, silent, told, seats, seats,
    remaining, ← smaller]
  refine ⟨(if_neg (by omega)).symm, if_congr ?_ rfl rfl⟩
  rw [Vacates, ← Finset.card_eq_zero]
  omega

/-- A step that brings a socket into the channel is reported exactly when the
others have no subscriber, should the node have none. -/
theorem Moves.reported_joined_iff
    (moves : Moves node appId events before after core next)
    (sound : Sound appId before) (fresh : ¬ core.adapter.Subscribed appId socketId channel)
    (added : (next.adapter.ns appId).channels.members channel =
      insert socketId ((core.adapter.ns appId).channels.members channel))
    (told : events.count (.channelOccupied channel) =
      if seats core appId channel = 0 then 1 else 0)
    (silent : events.count (.channelVacated channel) = 0) :
    Reported appId channel before after ↔
      (seats core appId channel = 0 →
        before.remoteSocketCount node appId channel = 0) := by
  have larger : seats next appId channel = seats core appId channel + 1 := by
    rw [seats, added]
    exact Finset.card_insert_of_notMem fresh
  rw [moves.reported_iff sound rfl, if_pos rfl, if_pos rfl, silent, told, larger]
  generalize before.remoteSocketCount node appId channel = remote
  rw [and_iff_left (if_neg (by omega)).symm]
  by_cases vacant : seats core appId channel = 0
  · rw [if_pos vacant, vacant]
    by_cases alone : remote = 0
    · simp [alone]
    · simp [alone]
  · rw [if_neg vacant, if_neg (by omega)]
    exact iff_of_true rfl fun none_ => absurd none_ vacant

end

/-! Members of a channel before and after. -/

section

variable {core next : Core} {told socketId place appId channel : String}

theorem members_join (registered : Registered core) :
    ((core.join told socketId place).adapter.ns told).channels.members place =
      insert socketId ((core.adapter.ns told).channels.members place) := by
  have joined := core.adapter.ns_addToChannel told socketId place told
  rw [if_pos rfl] at joined
  rw [Core.join]
  change ((core.adapter.addToChannel told socketId place).1.ns told).channels.members
    place = _
  rw [joined, Namespace.members_addToChannel, if_pos rfl, registered.findSocketId]

theorem members_join_other (other : ¬ (appId = told ∧ channel = place)) :
    ((core.join told socketId place).adapter.ns appId).channels.members channel =
      (core.adapter.ns appId).channels.members channel := by
  have joined := core.adapter.ns_addToChannel told socketId place appId
  change ((core.adapter.addToChannel told socketId place).1.ns appId).channels.members
    channel = _
  rw [joined]
  split
  · rename_i same
    rw [Namespace.members_addToChannel, if_neg fun there => other ⟨same, there⟩, same]
  · rfl

theorem members_tryPresence {userId : String} {userInfo : Value} {maxMembers : Nat} :
    ((core.tryPresence told socketId place userId userInfo maxMembers).adapter.ns
        appId).channels = (core.adapter.ns appId).channels := by
  have kept : LocalAdapter.Keeps Namespace.channels core.adapter (core.tryPresence told
      socketId place userId userInfo maxMembers).adapter :=
    LocalAdapter.keeps_tryAddPresenceMember fun _ _ => rfl
  exact kept appId

theorem members_of_joined (agree : Agree core) (after : Agree next)
    (joined : ∀ socket, next.Joined appId socket channel ↔
      core.Joined appId socket channel ∧ socket ≠ socketId) :
    (next.adapter.ns appId).channels.members channel =
      ((core.adapter.ns appId).channels.members channel).erase socketId := by
  ext socket
  rw [Finset.mem_erase]
  refine after.enrolled.subscribed.trans ((joined socket).trans ?_)
  rw [← agree.enrolled.subscribed, and_comm]
  rfl

end

/-! Each operation. -/

section

variable {crates : Crates} {keyPrefix : String} {moment : Moment}
  {reported : String → Nat} {cluster : Cluster} {node appId channel socketId : String}
  {conn : WsConnection} {core : Core}

theorem Sound.found (sound : Sound appId cluster)
    (stored : cluster.connOf node socketId = some conn) :
    conn.socketId = socketId ∧ ∃ core, cluster.Stands node core ∧
      core.view conn.socketId = some conn.view := by
  obtain ⟨state, there, stored⟩ := Option.bind_eq_some_iff.mp stored
  have stands : cluster.Stands node state.core :=
    ⟨state.ledger, by rw [summaries, there]; rfl⟩
  obtain ⟨named, found⟩ := (sound.agree stands).found stored
  exact ⟨named, state.core, stands, found⟩

/-- What is shown of every step. -/
def Kept (appId channel : String) (before after : Cluster) : Prop :=
  Sound appId after ∧ Reported appId channel before after

theorem kept_joinChannel (sound : Sound appId cluster)
    (presence : (ChannelKind.fromName channel).isPresence = true)
    (stands : cluster.Stands node core) (lives : core.Lives conn.app.id conn.socketId)
    {place : String} (plain : (ChannelKind.fromName place).isPresence = false)
    (authenticated : Bool) :
    Kept appId channel cluster
      (cluster.joinChannel keyPrefix moment reported node conn place authenticated) := by
  obtain ⟨claimed, moves⟩ := @moves_joinChannel keyPrefix moment reported cluster node conn
    core place stands authenticated
  have different : place ≠ channel := by
    rintro rfl
    rw [plain] at presence
    cases presence
  have counts := @count_occupied channel claimed place
  rw [if_neg fun both => different both.2] at counts
  refine ⟨sound.moves moves ((sound.agree stands).join lives),
    moves.reported_still sound ?_ fun _ => counts⟩
  rw [seats, members_join_other fun both => different both.2.symm, seats]

theorem kept_joinPresence (sound : Sound appId cluster)
    (stands : cluster.Stands node core)
    (found : core.view conn.socketId = some conn.view)
    {place userId : String} {userInfo : Value} (fresh : place ∉ conn.subscribedChannels)
    (presence : (ChannelKind.fromName place).isPresence = true) :
    Sound appId (cluster.joinPresence crates keyPrefix moment node conn place userId
        userInfo) ∧
      (Reported appId channel cluster (cluster.joinPresence crates keyPrefix moment node
          conn place userId userInfo) ↔
        (conn.app.id = appId → place = channel →
          cluster.overLimit keyPrefix appId channel userId
            conn.app.maxPresenceMembersPerChannel = false →
          seats core appId channel = 0 →
            cluster.remoteSocketCount node appId channel = 0)) := by
  have agree := sound.agree stands
  have unjoined : ¬ core.Joined conn.app.id conn.socketId place :=
    fun joined => fresh ((Core.joined_conn found).mp joined)
  cases limited : cluster.overLimit keyPrefix conn.app.id place userId
      conn.app.maxPresenceMembersPerChannel with
  | true =>
      have still := @Moves.of_same node appId _ _ _ stands (@summaries_joinPresence_refused
        crates keyPrefix moment cluster node conn place userId userInfo limited)
      refine ⟨sound.moves still agree, iff_of_true ?_ ?_⟩
      · exact still.reported_still sound rfl fun _ => ⟨rfl, rfl⟩
      · rintro rfl rfl admitted
        rw [limited] at admitted
        cases admitted
  | false =>
      obtain ⟨maxMembers, isNew, accepted, moves⟩ := @moves_joinPresence crates keyPrefix
        moment cluster node conn core place userId userInfo stands limited
      have after := agree.joinPresence_accepted (Core.lives_conn found) unjoined presence
        accepted
      refine ⟨sound.moves moves after, ?_⟩
      have registered : Registered (core.tryPresence conn.app.id conn.socketId place
          userId userInfo maxMembers) := agree.registered.tryPresence maxMembers
      have channels := @members_tryPresence core conn.app.id conn.socketId place
      have flag := Namespace.addToChannel_snd ((core.tryPresence conn.app.id
        conn.socketId place userId userInfo maxMembers).adapter.ns conn.app.id)
          conn.socketId place
      rw [channels, ← Finset.card_eq_zero] at flag
      by_cases here : conn.app.id = appId ∧ place = channel
      · obtain ⟨rfl, rfl⟩ := here
        have occupied := @count_occupied place ((core.tryPresence conn.app.id
          conn.socketId place userId userInfo maxMembers).adapter.addToChannel
            conn.app.id conn.socketId place).2 place
        have added := @count_added place isNew place userId
        refine (moves.reported_joined_iff sound
          (fun there => unjoined (agree.enrolled.subscribed.mp there)) ?_ ?_ ?_).trans ?_
        · refine (members_join registered).trans ?_
          rw [channels]
        · rw [List.count_append, occupied.1, added.1, Nat.add_zero]
          exact if_congr ((and_iff_left rfl).trans flag) rfl rfl
        · rw [List.count_append, occupied.2, added.2]
        · simp [limited]
      · refine iff_of_true (moves.reported_still sound ?_ ?_) ?_
        · refine congrArg Finset.card ((members_join_other ?_).trans ?_)
          · exact fun both => here ⟨both.1.symm, both.2.symm⟩
          · rw [channels]
        · intro same
          have occupied := @count_occupied channel ((core.tryPresence conn.app.id
            conn.socketId place userId userInfo maxMembers).adapter.addToChannel
              conn.app.id conn.socketId place).2 place
          have added := @count_added channel isNew place userId
          rw [if_neg fun both => here ⟨same, both.2⟩] at occupied
          exact ⟨by rw [List.count_append, occupied.1, added.1],
            by rw [List.count_append, occupied.2, added.2]⟩
        · exact fun same there => absurd ⟨same, there⟩ here

theorem kept_left (sound : Sound appId cluster) {after : Cluster} {next : Core}
    {place userId : String} {userGone vacated : Bool}
    (moves : Moves node conn.app.id
      (removedEvents userGone place userId ++ vacatedEvents vacated place) cluster after
        core next)
    (member : core.adapter.Subscribed conn.app.id conn.socketId place)
    (verdict : vacated = true ↔
      Vacates cluster node conn.app.id conn.socketId place core)
    (agree : Agree next)
    (joined : ∀ {app socket channel}, next.Joined app socket channel ↔
      core.Joined app socket channel ∧
        ¬ (app = conn.app.id ∧ socket = conn.socketId ∧ channel = place)) :
    Kept appId channel cluster after := by
  refine ⟨sound.moves moves agree, ?_⟩
  have removed := @count_removed channel userGone place userId
  have told := @count_vacated channel vacated place
  have before := sound.agree moves.was
  by_cases here : conn.app.id = appId ∧ place = channel
  · obtain ⟨rfl, rfl⟩ := here
    refine moves.reported_left sound member (members_of_joined before agree fun socket =>
      ?_) ?_ ?_
    · rw [joined]
      simp
    · rw [List.count_append, removed.1, told.1]
    · rw [List.count_append, removed.2, told.2, Nat.zero_add]
      exact if_congr ((and_iff_left rfl).trans verdict) rfl rfl
  · refine moves.reported_still sound ?_ fun same => ?_
    · refine congrArg Finset.card (Finset.ext fun socket => ?_)
      refine agree.enrolled.subscribed.trans (joined.trans ?_)
      refine (and_iff_left ?_).trans before.enrolled.subscribed.symm
      exact fun both => here ⟨both.1.symm, both.2.2.symm⟩
    · rw [if_neg fun both => here ⟨same, both.2⟩] at told
      exact ⟨by rw [List.count_append, removed.1, told.1],
        by rw [List.count_append, removed.2, told.2]⟩

theorem kept_same (sound : Sound appId cluster) {after : Cluster}
    (stands : cluster.Stands node core) (same : after.summaries = cluster.summaries) :
    Kept appId channel cluster after := by
  have still := @Moves.of_same node appId _ _ _ stands same
  exact ⟨sound.moves still (sound.agree stands),
    still.reported_still sound rfl fun _ => ⟨rfl, rfl⟩⟩

theorem kept_unsubscribe (sound : Sound appId cluster)
    (stands : cluster.Stands node core)
    (found : core.view conn.socketId = some conn.view) (msg : ClientMessage) :
    Kept appId channel cluster
      (cluster.unsubscribe crates keyPrefix moment reported node conn msg) := by
  unfold unsubscribe
  split
  · exact kept_same sound stands rfl
  · split
    · exact kept_same sound stands rfl
    · rename_i place named
      split
      · exact kept_same sound stands rfl
      · rename_i subscribed
        have agree := sound.agree stands
        have joined : core.Joined conn.app.id conn.socketId place :=
          (Core.joined_conn found).mpr
            (by simpa [WsConnection.isSubscribed] using subscribed)
        have member := agree.enrolled.subscribed.mpr joined
        obtain ⟨userGone, userId, vacated, verdict, moves⟩ := @moves_unsubscribed keyPrefix
          moment reported cluster node conn core place stands member
        exact kept_left sound moves member verdict (agree.unsubscribe found)
          (Core.joined_unsubscribe (Core.lives_conn found))

/-- The loop enqueues for each of its channels what a leave of that channel alone
would enqueue. -/
theorem moves_closeChannels (stands : cluster.Stands node core) {channels : List String}
    (nodup : channels.Nodup)
    (members : ∀ channel ∈ channels,
      core.adapter.Subscribed conn.app.id conn.socketId channel) :
    ∃ events, Moves node conn.app.id events cluster
        (cluster.closeChannels keyPrefix moment reported node conn channels) core
        (core.closeChannels conn channels) ∧
      ∀ channel, events.count (.channelOccupied channel) = 0 ∧
        events.count (.channelVacated channel) =
          if channel ∈ channels ∧
            Vacates cluster node conn.app.id conn.socketId channel core then 1 else 0 := by
  induction channels generalizing cluster core with
  | nil => exact ⟨[], .of_same stands rfl, fun channel => ⟨rfl, by simp⟩⟩
  | cons place rest induction =>
      obtain ⟨new, nodup⟩ := List.nodup_cons.mp nodup
      obtain ⟨userGone, userId, vacated, verdict, left⟩ := @moves_closeChannel keyPrefix
        moment reported cluster node conn core place stands
        (members place List.mem_cons_self)
      have elsewhere : ∀ channel, channel ≠ place → ∀ socket,
          (core.closeChannel conn place).adapter.Subscribed conn.app.id socket channel ↔
            core.adapter.Subscribed conn.app.id socket channel := by
        intro channel different socket
        rw [subscribed_closeChannel]
        exact and_iff_left fun both => different both.2.2
      obtain ⟨events, moves, counts⟩ := induction left.stands nodup fun channel later =>
        (elsewhere channel (fun same => new (same ▸ later)) conn.socketId).mpr
          (members channel (List.mem_cons_of_mem place later))
      refine ⟨_, left.trans moves, fun channel => ?_⟩
      have removed := @count_removed channel userGone place userId
      have told := @count_vacated channel vacated place
      obtain ⟨silent, later⟩ := counts channel
      simp only [List.count_append, removed, told, silent, later, Nat.add_zero, true_and,
        Nat.zero_add]
      by_cases same : channel = place
      · subst same
        simp [new, verdict]
      · have unchanged : Vacates (cluster.closeChannel keyPrefix moment reported node conn
            place) node conn.app.id conn.socketId channel (core.closeChannel conn place) ↔
            Vacates cluster node conn.app.id conn.socketId channel core := by
          rw [Vacates, Vacates, left.remoteSocketCount,
            Finset.ext (elsewhere channel same)]
        simp [same, Ne.symm same, unchanged]

theorem moves_close (stands : cluster.Stands node core) (agree : Agree core)
    (found : core.view conn.socketId = some conn.view) :
    ∃ events, Moves node conn.app.id events cluster
        ((cluster.close keyPrefix moment reported node conn).change node fun state =>
          state.drop conn.socketId) core
        ((core.close moment.order conn).vanish conn.socketId) ∧
      ∀ channel, events.count (.channelOccupied channel) = 0 ∧
        events.count (.channelVacated channel) =
          if channel ∈ conn.subscribedChannels ∧
            Vacates cluster node conn.app.id conn.socketId channel core then 1
          else 0 := by
  have members : ∀ channel ∈ moment.order.list conn.subscribedChannels,
      core.adapter.Subscribed conn.app.id conn.socketId channel := by
    intro channel listed
    rw [agree.enrolled.subscribed, Core.joined_conn found]
    exact moment.order.mem_list.mp listed
  obtain ⟨events, left, counts⟩ := @moves_closeChannels keyPrefix moment reported cluster
    node conn core stands _ (moment.order.nodup conn.subscribedChannels) members
  have forgotten : Moves node conn.app.id (events ++ []) cluster
      (cluster.close keyPrefix moment reported node conn) core
      (core.close moment.order conn) := by
    refine left.trans (moves_change left.stands fun state same => ?_)
    rw [Ledger.tell_of_plain _ _ rfl, Core.close, ← same]
    unfold forgetConn Core.forgetUser
    cases conn.user with
    | none => exact ⟨rfl, rfl⟩
    | some user => exact ⟨rfl, rfl⟩
  have dropped : Moves node conn.app.id ((events ++ []) ++ []) cluster
      ((cluster.close keyPrefix moment reported node conn).change node fun state =>
        state.drop conn.socketId) core
      ((core.close moment.order conn).vanish conn.socketId) := by
    refine forgotten.trans (moves_change forgotten.stands fun state same => ?_)
    rw [core_drop, same, Ledger.tell_of_plain _ _ rfl]
    exact ⟨rfl, rfl⟩
  rw [List.append_nil, List.append_nil] at dropped
  exact ⟨events, dropped, fun channel => ⟨(counts channel).1, (counts channel).2.trans
    (if_congr (and_congr_left' moment.order.mem_list) rfl rfl)⟩⟩

theorem kept_close (sound : Sound appId cluster) (stands : cluster.Stands node core)
    (found : core.view conn.socketId = some conn.view) :
    Kept appId channel cluster
      ((cluster.close keyPrefix moment reported node conn).change node fun state =>
        state.drop conn.socketId) := by
  have before := sound.agree stands
  have agree := before.close found moment.order
  obtain ⟨events, moves, counts⟩ := @moves_close keyPrefix moment reported cluster node
    conn core stands before found
  refine ⟨sound.moves moves agree, ?_⟩
  obtain ⟨silent, told⟩ := counts channel
  have joined : ∀ {app socket}, ((core.close moment.order conn).vanish
      conn.socketId).Joined app socket channel ↔
      core.Joined app socket channel ∧ socket ≠ conn.socketId := Core.seen_closed _
  by_cases here : conn.app.id = appId ∧ channel ∈ conn.subscribedChannels
  · obtain ⟨rfl, member⟩ := here
    refine moves.reported_left sound ?_
      (members_of_joined before agree fun socket => joined) silent ?_
    · exact before.enrolled.subscribed.mpr ((Core.joined_conn found).mpr member)
    · rw [told]
      exact if_congr (and_iff_right member) rfl rfl
  · refine moves.reported_still sound ?_ fun same => ?_
    · refine congrArg Finset.card (Finset.ext fun socket => ?_)
      refine agree.enrolled.subscribed.trans (joined.trans ?_)
      refine (and_iff_left_of_imp ?_).trans before.enrolled.subscribed.symm
      rintro ⟨view, again, named, member⟩ rfl
      rw [found] at again
      cases again
      exact here ⟨named, member⟩
    · rw [if_neg fun both => here ⟨same, both.1⟩] at told
      exact ⟨silent, told⟩

theorem kept_accept (crates : Crates) (sound : Sound appId cluster) {key : String}
    (there : node ∈ cluster.nodes) (absent : cluster.connOf node socketId = none) :
    Kept appId channel cluster
      (cluster.change node fun state => state.accept key socketId) := by
  obtain ⟨state, found⟩ := Finmap.mem_iff.mp there
  rw [connOf, found, Option.bind_some] at absent
  have change := @change_accept crates state key socketId absent
  have moves := @moves_alter node appId [] cluster (fun state => state.accept key socketId)
    state found (by rw [ledger_handshake, Ledger.tell_of_plain _ _ rfl])
  have agree := sound.agree moves.was
  have still : Agree (state.accept key socketId).core ∧
      ((state.accept key socketId).core.adapter.ns appId).channels =
        (state.core.adapter.ns appId).channels := by
    generalize (state.accept key socketId).core = next at change
    cases change with
    | kept quiet => cases quiet
    | refused absent same =>
        exact ⟨agree.refused same, congrArg Namespace.channels (same appId)⟩
    | @entered _ _ app absent found added =>
        refine ⟨agree.enter (congrArg (Option.map WsConnection.view) absent) added, ?_⟩
        have entered := state.adapter.ns_tryAddSocket app.id ⟨socketId⟩
          app.maxConnections appId
        rw [added] at entered
        refine (congrArg Namespace.channels entered).trans ?_
        split
        · rename_i same
          rw [same]
          rfl
        · rfl
  refine ⟨sound.moves moves still.1, moves.reported_still sound ?_ fun _ => ⟨rfl, rfl⟩⟩
  rw [seats, still.2, seats]

end

/-! Every run. -/

section

variable {crates : Crates} {keyPrefix appId channel : String} {cluster next : Cluster}
  {action : Action}

theorem opens_of_unasked {node socketId : String} {conn : WsConnection}
    {msg : ClientMessage} (stored : cluster.connOf node socketId = some conn)
    (unasked : asked crates conn msg = none) :
    cluster.opens crates keyPrefix appId channel node socketId msg = false := by
  simp [opens, stored, unasked]

/-- A step keeps what is needed of the nodes, and is reported when the condition
holds and only then. -/
theorem Sound.step (sound : Sound appId cluster)
    (presence : (ChannelKind.fromName channel).isPresence = true)
    (stepped : Cluster.step crates keyPrefix cluster action = some next) :
    Sound appId next ∧
      (Reported appId channel cluster next ↔
        OpensAlone crates keyPrefix appId channel cluster action) := by
  have always : Kept appId channel cluster next →
      OpensAlone crates keyPrefix appId channel cluster action →
      Sound appId next ∧ (Reported appId channel cluster next ↔
        OpensAlone crates keyPrefix appId channel cluster action) :=
    fun kept holds => ⟨kept.1, iff_of_true kept.2 holds⟩
  cases action with
  | accept node key socketId =>
      simp only [Cluster.step] at stepped
      split at stepped
      · rename_i enabled
        cases stepped
        exact always (kept_accept crates sound enabled.1 enabled.2) trivial
      · cases stepped
  | subscribe node socketId msg moment reported =>
      obtain ⟨conn, stored, rfl⟩ := Option.map_eq_some_iff.mp stepped
      obtain ⟨rfl, core, stands, found⟩ := sound.found stored
      have subscription := subscription_subscribe crates keyPrefix moment reported cluster
        node conn msg
      generalize cluster.subscribe crates keyPrefix moment reported node conn msg = after
        at subscription always stepped
      cases subscription with
      | kept unasked same =>
          refine always (kept_same sound stands same) fun opens => ?_
          rw [opens_of_unasked stored unasked] at opens
          cases opens
      | joined unasked plain =>
          refine always (kept_joinChannel sound presence stands (Core.lives_conn found)
            plain _) fun opens => ?_
          rw [opens_of_unasked stored unasked] at opens
          cases opens
      | @joinedPresence place userId userInfo asks fresh kind =>
          obtain ⟨after, exact_⟩ := @kept_joinPresence crates keyPrefix moment cluster node
            appId channel conn core sound stands found place userId userInfo fresh kind
          refine ⟨after, exact_.trans ?_⟩
          have opens : cluster.opens crates keyPrefix appId channel node conn.socketId msg =
              true ↔ conn.app.id = appId ∧ place = channel ∧
                cluster.overLimit keyPrefix appId channel userId
                  conn.app.maxPresenceMembersPerChannel = false ∧
                seats core appId channel = 0 := by
            simp [Cluster.opens, stored, asks, adapterOf_of_stands stands,
              LocalAdapter.getChannelSocketCount_eq, seats, and_assoc]
          rw [OpensAlone, opens]
          simp only [and_imp]
  | unsubscribe node socketId msg moment reported =>
      obtain ⟨conn, stored, rfl⟩ := Option.map_eq_some_iff.mp stepped
      obtain ⟨rfl, core, stands, found⟩ := sound.found stored
      exact always (kept_unsubscribe sound stands found msg) trivial
  | close node socketId moment reported =>
      obtain ⟨conn, stored, rfl⟩ := Option.map_eq_some_iff.mp stepped
      obtain ⟨rfl, core, stands, found⟩ := sound.found stored
      exact always (kept_close sound stands found) trivial

theorem reports_iff (sound : Sound appId cluster)
    (presence : (ChannelKind.fromName channel).isPresence = true) :
    Reports crates keyPrefix appId channel cluster action ↔
      OpensAlone crates keyPrefix appId channel cluster action := by
  cases stepped : Cluster.step crates keyPrefix cluster action with
  | some next =>
      refine Iff.trans ⟨fun reports => reports next stepped, ?_⟩
        (sound.step presence stepped).2
      intro reported other again
      rw [stepped] at again
      cases again
      exact reported
  | none =>
      refine iff_of_true (fun next again => ?_) ?_
      · rw [stepped] at again
        cases again
      · cases action with
        | subscribe node socketId msg moment reported =>
            have absent := Option.map_eq_none_iff.mp stepped
            intro opens
            simp [Cluster.opens, absent] at opens
        | accept | unsubscribe | close => trivial

theorem sound_start {configs : Table String (List App)} {cacheTtl : Nat}
    (configured : ∀ node apps, configs.lookup node = some apps →
      ∃ app ∈ apps, app.id = appId ∧ app.webhookUrl.isSome) :
    Sound appId (start configs cacheTtl) := by
  have summary : ∀ node, (start configs cacheTtl).summaries node =
      (configs.lookup node).map fun apps =>
        ((AppState.new apps cacheTtl).core, (AppState.new apps cacheTtl).ledger) := by
    intro node
    rw [summaries, start, Table.lookup_mapValues, Option.map_map]
    rfl
  constructor
  · rintro node core ⟨ledger, was⟩
    rw [summary] at was
    obtain ⟨apps, _, shape⟩ := Option.map_eq_some_iff.mp was
    cases shape
    exact agree_new
  · intro node core ledger was
    rw [summary] at was
    obtain ⟨apps, stored, shape⟩ := Option.map_eq_some_iff.mp was
    cases shape
    change (((AppState.webhookQueues apps).lookup appId).map _).isSome = true
    rw [AppState.lookup_webhookQueues, if_pos (by simpa using configured node apps stored)]
    rfl

end

/-- In any run the webhooks of a presence channel tell exactly when the nodes
together get its first subscriber and lose its last one, if and only if no
node ever gets its first subscriber while another node has one. -/
theorem presence_webhooks_reported_iff (crates : Crates) (keyPrefix : String)
    (configs : Table String (List App)) (cacheTtl : Nat) {appId channel : String}
    (presence : (ChannelKind.fromName channel).isPresence = true)
    (configured : ∀ node apps, configs.lookup node = some apps →
      ∃ app ∈ apps, app.id = appId ∧ app.webhookUrl.isSome)
    (actions : List Action) :
    (system crates keyPrefix configs cacheTtl).Guarded
        (Reports crates keyPrefix appId channel) actions ↔
      (system crates keyPrefix configs cacheTtl).Guarded
        (OpensAlone crates keyPrefix appId channel) actions :=
  @System.guarded_congr _ _ (system crates keyPrefix configs cacheTtl) _ _ (Sound appId)
    (sound_start configured) (fun sound stepped => (sound.step presence stepped).1)
    (fun sound => reports_iff sound presence) actions

/-! Two nodes with one app, and a user on each. -/

namespace Sample

open Server.Sample (annRoom joinRoom message moment)

def app : App := { App.sample with webhookUrl := some "http://localhost/hooks" }

def configs : Table String (List App) :=
  (Finmap.insert "node-a" [app] ∅ : Table String (List App)).insert "node-b" [app]

def bobRoom : String := "\x7b\"user_id\":\"bob\"\x7d"

def bobJoinsRoom : ClientMessage :=
  message "pusher:subscribe"
    [("auth", "app-key:84503265f67d789ce972076ad825539a932b121d9bec1c13f1357b19e29a689f"),
      ("channel", "presence-room"), ("channel_data", bobRoom)]

def leaveRoom : ClientMessage :=
  message "pusher:unsubscribe" [("channel", "presence-room")]

def crates : Crates :=
  { Server.Sample.crates with
    sign := fun secret text =>
      if secret = "app-secret" && text = "2.2:presence-room:" ++ bobRoom then
        "84503265f67d789ce972076ad825539a932b121d9bec1c13f1357b19e29a689f"
      else Server.Sample.crates.sign secret text
    readValue := fun text =>
      if text = bobRoom then some (.ofJson (.object [("user_id", .string "bob")]))
      else if text = "\x7b\x7d" then some (.ofJson (.object []))
      else Server.Sample.crates.readValue text }

def nobody : String → Nat := fun _ => 0

def annJoined : List Action :=
  [.accept "node-a" "app-key" "1.1", .accept "node-b" "app-key" "2.2",
    .subscribe "node-a" "1.1" joinRoom moment nobody]

def bobJoins : Action := .subscribe "node-b" "2.2" bobJoinsRoom moment nobody

def inTurn : List Action :=
  annJoined ++ [.unsubscribe "node-a" "1.1" leaveRoom moment nobody, bobJoins,
    .close "node-b" "2.2" moment nobody]

def cluster : System Cluster Action := system crates "rushsocket" configs 60

def counts (cluster : Cluster) : Nat × Nat × Nat :=
  (cluster.enqueued "app" (.channelOccupied "presence-room"),
    cluster.enqueued "app" (.channelVacated "presence-room"),
    cluster.subscriberCount "app" "presence-room")

end Sample

theorem presence_webhooks_reported_in_turn :
    (∃ final, Sample.cluster.run Sample.inTurn = some final ∧
        Sample.counts final = (2, 2, 0)) ∧
      Sample.cluster.Guarded (Reports Sample.crates "rushsocket" "app" "presence-room")
        Sample.inTurn := by
  have ends : ((Sample.cluster.run Sample.inTurn).filter fun final =>
      Sample.counts final = (2, 2, 0)).isSome = true := by
    decide +kernel
  have alone : Sample.cluster.Guarded
      (OpensAlone Sample.crates "rushsocket" "app" "presence-room") Sample.inTurn := by
    decide +kernel
  have configured : ∀ node apps, Sample.configs.lookup node = some apps →
      ∃ app ∈ apps, app.id = "app" ∧ app.webhookUrl.isSome := by
    intro node apps stored
    have same : apps = [Sample.app] := by
      rw [Sample.configs, Table.lookup_put, Table.lookup_put] at stored
      split at stored
      · exact (Option.some.inj stored).symm
      · split at stored
        · exact (Option.some.inj stored).symm
        · cases stored
    rw [same]
    exact ⟨Sample.app, List.mem_singleton_self _, rfl, rfl⟩
  obtain ⟨final, found⟩ := Option.isSome_iff_exists.mp ends
  obtain ⟨reached, counted⟩ := Option.filter_eq_some_iff.mp found
  exact ⟨⟨final, reached, of_decide_eq_true counted⟩,
    (presence_webhooks_reported_iff Sample.crates "rushsocket" Sample.configs 60
      (by decide) configured Sample.inTurn).mpr alone⟩

/-- The second node tells of the channel again, although it was not empty. -/
theorem presence_occupied_twice :
    ∃ before after, Sample.cluster.run Sample.annJoined = some before ∧
      Sample.cluster.step before Sample.bobJoins = some after ∧
      Sample.counts before = (1, 0, 1) ∧ Sample.counts after = (2, 0, 2) ∧
      ¬ Reported "app" "presence-room" before after := by
  have ends : ((Sample.cluster.run Sample.annJoined).filter fun before =>
      Sample.counts before = (1, 0, 1) ∧
        (Sample.cluster.step before Sample.bobJoins).map Sample.counts =
          some (2, 0, 2)).isSome = true := by
    decide +kernel
  obtain ⟨before, found⟩ := Option.isSome_iff_exists.mp ends
  obtain ⟨reached, both⟩ := Option.filter_eq_some_iff.mp found
  obtain ⟨early, late⟩ := of_decide_eq_true both
  obtain ⟨after, stepped, late⟩ := Option.map_eq_some_iff.mp late
  refine ⟨before, after, reached, stepped, early, late, fun told => ?_⟩
  obtain ⟨first, rest⟩ := Prod.mk.inj early
  obtain ⟨second, rest'⟩ := Prod.mk.inj late
  have occupied := told.occupied
  rw [first, second, (Prod.mk.inj rest).2, (Prod.mk.inj rest').2] at occupied
  exact absurd occupied (by decide)

end RushSocket.Cluster
