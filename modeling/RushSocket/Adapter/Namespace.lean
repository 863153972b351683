import RushSocket.Data.HashOrder
import RushSocket.Data.Json.Value
import RushSocket.Data.Table

namespace RushSocket.Adapter

open Data

/-- A shared handle on a connection.  The socket id never changes; what does
change is kept with the connection. -/
structure ConnHandle where
  socketId : String
  deriving DecidableEq

/-- The state of one app: its sockets, channel memberships and presence data. -/
structure Namespace where
  sockets : Table String ConnHandle
  connectionCount : Nat
  channels : Table String (Finset String)
  socketChannels : Table String (Finset String)
  presence : Table String (Table String (Value × Finset String))
  users : Table String (Finset String)
  deriving DecidableEq

namespace Namespace

def new : Namespace where
  sockets := ∅
  connectionCount := 0
  channels := ∅
  socketChannels := ∅
  presence := ∅
  users := ∅

/-! Sockets. -/

def addSocket (ns : Namespace) (conn : ConnHandle) : Namespace :=
  { ns with
    sockets := ns.sockets.insert conn.socketId conn
    connectionCount := ns.connectionCount + 1 }

/-- A negative limit means unlimited. -/
def tryAddSocket (ns : Namespace) (conn : ConnHandle) (limit : Int) :
    Namespace × Bool :=
  if limit < 0 then (ns.addSocket conn, true)
  else if ns.connectionCount ≥ limit.toNat then (ns, false)
  else (ns.addSocket conn, true)

theorem tryAddSocket_cases (ns : Namespace) (conn : ConnHandle) (limit : Int) :
    ns.tryAddSocket conn limit = (ns.addSocket conn, true) ∨
      ns.tryAddSocket conn limit = (ns, false) := by
  unfold tryAddSocket
  split
  · exact .inl rfl
  · split
    · exact .inr rfl
    · exact .inl rfl

/-- The guarded block of both removals: take the socket out of the stored set
and report whether the set is empty now. -/
def dropMember (ns : Namespace) (socketId channel : String) : Namespace × Bool :=
  match ns.channels.lookup channel with
  | some sockets =>
      ({ ns with channels := ns.channels.insert channel (sockets.erase socketId) },
        sockets.erase socketId = ∅)
  | none => (ns, false)

theorem dropMember_fst (ns : Namespace) (socketId channel : String) :
    (ns.dropMember socketId channel).1 =
      { ns with channels := ns.channels.discard channel socketId } := by
  unfold dropMember Table.discard Table.modify
  cases ns.channels.lookup channel with
  | none => rfl
  | some sockets => rfl

theorem dropMember_snd (ns : Namespace) (socketId channel : String) :
    (ns.dropMember socketId channel).2 = true ↔
      (ns.channels.discard channel socketId).lookup channel = some ∅ := by
  unfold dropMember Table.discard
  cases found : ns.channels.lookup channel with
  | none => simp [Table.lookup_modify, found]
  | some sockets => simp [Table.lookup_modify, found]

def deleteChannel (ns : Namespace) (channel : String) : Namespace :=
  { ns with channels := ns.channels.erase channel }

def dropMemberships (socketId : String) :
    List String → Namespace → Namespace × List String
  | [], ns => (ns, [])
  | channel :: rest, ns =>
      match ns.dropMember socketId channel with
      | (dropped, true) =>
          let (final, vacated) :=
            dropMemberships socketId rest (dropped.deleteChannel channel)
          (final, channel :: vacated)
      | (dropped, false) => dropMemberships socketId rest dropped

def takeSocket (ns : Namespace) (socketId : String) : Namespace × Bool :=
  ({ ns with sockets := ns.sockets.erase socketId }, socketId ∈ ns.sockets)

def uncountSocket (ns : Namespace) : Namespace :=
  { ns with connectionCount := ns.connectionCount - 1 }

def takeReverse (ns : Namespace) (socketId : String) : Namespace × Finset String :=
  ({ ns with socketChannels := ns.socketChannels.erase socketId },
    ns.socketChannels.members socketId)

def removeSocket (order : HashOrder) (ns : Namespace) (socketId : String) :
    Namespace × List String :=
  let (taken, registered) := ns.takeSocket socketId
  let counted := if registered then taken.uncountSocket else taken
  let (reversed, channels) := counted.takeReverse socketId
  reversed.dropMemberships socketId (order.list channels)

theorem removeSocket_new (order : HashOrder) (socketId : String) :
    new.removeSocket order socketId = (new, []) := by
  have erased : ∀ {ν : Type} (key : String), (∅ : Table String ν).erase key = ∅ :=
    fun key => Table.drop_absent (Finmap.lookup_empty key)
  simp [removeSocket, takeSocket, takeReverse, dropMemberships, new, erased,
    Finmap.notMem_empty]

theorem dropMemberships_fst (socketId : String) (listed : List String)
    (ns : Namespace) :
    ∃ channels, (ns.dropMemberships socketId listed).1 = { ns with channels } ∧
      ∀ channel candidate,
        (candidate ∈ channels.members channel →
          candidate ∈ ns.channels.members channel) ∧
        (candidate ≠ socketId → candidate ∈ ns.channels.members channel →
          candidate ∈ channels.members channel) := by
  induction listed generalizing ns with
  | nil => exact ⟨ns.channels, rfl, fun _ _ => ⟨id, fun _ => id⟩⟩
  | cons dropped rest induction =>
      -- whether or not the emptied key is deleted, one member is discarded
      have iterated : ∃ channels,
          (ns.dropMemberships socketId (dropped :: rest)).1 =
              ({ ns with channels }.dropMemberships socketId rest).1 ∧
            ∀ channel, channels.members channel =
              (ns.channels.discard dropped socketId).members channel := by
        simp only [dropMemberships]
        cases outcome : ns.dropMember socketId dropped with
        | mk after vacated =>
            have after_eq := ns.dropMember_fst socketId dropped
            have vacated_iff := ns.dropMember_snd socketId dropped
            rw [outcome] at after_eq vacated_iff
            dsimp only at after_eq vacated_iff
            subst after_eq
            cases vacated with
            | true =>
                refine ⟨_, rfl, fun channel => ?_⟩
                exact Table.members_drop_of_empty
                  (Table.members_of_lookup (vacated_iff.mp rfl)) channel
            | false => exact ⟨_, rfl, fun channel => rfl⟩
      obtain ⟨middle, equal, discarded⟩ := iterated
      obtain ⟨channels, final, shrinks⟩ := induction { ns with channels := middle }
      refine ⟨channels, by rw [equal, final], fun channel candidate => ?_⟩
      have step := shrinks channel candidate
      dsimp only at step
      rw [discarded, Table.mem_members_discard] at step
      exact ⟨fun member => (step.1 member).1,
        fun different member => step.2 different ⟨member, fun both => different both.2⟩⟩

theorem removeSocket_fst (order : HashOrder) (ns : Namespace) (socketId : String) :
    ∃ channels connectionCount, (ns.removeSocket order socketId).1 =
        { ns with
          sockets := ns.sockets.erase socketId
          connectionCount
          channels
          socketChannels := ns.socketChannels.erase socketId } ∧
      ∀ channel candidate,
        (candidate ∈ channels.members channel →
          candidate ∈ ns.channels.members channel) ∧
        (candidate ≠ socketId → candidate ∈ ns.channels.members channel →
          candidate ∈ channels.members channel) := by
  have general := fun connectionCount => dropMemberships_fst socketId
    (order.list (ns.socketChannels.members socketId))
    { ns with
      sockets := ns.sockets.erase socketId
      connectionCount
      socketChannels := ns.socketChannels.erase socketId }
  simp only [removeSocket, takeSocket, takeReverse, uncountSocket]
  by_cases registered : socketId ∈ ns.sockets
  · simp only [registered, decide_true, if_true]
    obtain ⟨channels, equal, shrinks⟩ := general (ns.connectionCount - 1)
    exact ⟨channels, _, equal, shrinks⟩
  · simp only [registered, decide_false, Bool.false_eq_true, if_false]
    obtain ⟨channels, equal, shrinks⟩ := general ns.connectionCount
    exact ⟨channels, _, equal, shrinks⟩

theorem removeSocket_of_no_channels (order : HashOrder) (ns : Namespace)
    {socketId : String} (none_ : ns.socketChannels.members socketId = ∅) :
    (ns.removeSocket order socketId).1 =
      { ns with
        sockets := ns.sockets.erase socketId
        connectionCount :=
          if socketId ∈ ns.sockets then ns.connectionCount - 1
          else ns.connectionCount
        socketChannels := ns.socketChannels.erase socketId } := by
  simp only [removeSocket, takeSocket, takeReverse, uncountSocket]
  by_cases registered : socketId ∈ ns.sockets
  · simp [registered, none_, dropMemberships]
  · simp [registered, none_, dropMemberships]

/-! Channels. -/

/-- The shared id of the socket when it is registered, else the id given. -/
def findSocketId (ns : Namespace) (socketId : String) : String :=
  match ns.sockets.lookup socketId with
  | some conn => conn.socketId
  | none => socketId

/-- The guarded block of `addToChannel`: both indexes under the entry guard. -/
def insertMember (ns : Namespace) (socketId channel : String) : Namespace × Bool :=
  ({ ns with
      channels := ns.channels.enroll channel socketId
      socketChannels := ns.socketChannels.enroll socketId channel },
    ns.channels.members channel = ∅)

def addToChannel (ns : Namespace) (socketId channel : String) : Namespace × Bool :=
  ns.insertMember (ns.findSocketId socketId) channel

def dropReverse (ns : Namespace) (socketId channel : String) : Namespace :=
  { ns with socketChannels := ns.socketChannels.discard socketId channel }

def removeFromChannel (ns : Namespace) (socketId channel : String) :
    Namespace × Bool :=
  let (dropped, vacated) := ns.dropMember socketId channel
  let deleted := if vacated then dropped.deleteChannel channel else dropped
  (deleted.dropReverse socketId channel, vacated)

theorem members_addToChannel (ns : Namespace) (socketId channel other : String) :
    (ns.addToChannel socketId channel).1.channels.members other =
      if other = channel then
        insert (ns.findSocketId socketId) (ns.channels.members channel)
      else ns.channels.members other :=
  Table.members_enroll ns.channels channel other _

theorem addToChannel_snd (ns : Namespace) (socketId channel : String) :
    (ns.addToChannel socketId channel).2 = true ↔ ns.channels.members channel = ∅ :=
  decide_eq_true_iff

theorem members_removeFromChannel (ns : Namespace)
    (socketId channel other : String) :
    (ns.removeFromChannel socketId channel).1.channels.members other =
      (ns.channels.discard channel socketId).members other := by
  simp only [removeFromChannel, dropReverse]
  cases vacated : (ns.dropMember socketId channel).2 with
  | false => simp [dropMember_fst]
  | true =>
      have empty := (ns.dropMember_snd socketId channel).mp vacated
      simp only [if_true, deleteChannel, dropMember_fst]
      exact Table.members_drop_of_empty (Table.members_of_lookup empty) other

theorem sockets_removeFromChannel (ns : Namespace) (socketId channel : String) :
    (ns.removeFromChannel socketId channel).1.sockets = ns.sockets := by
  simp only [removeFromChannel, dropReverse, dropMember_fst]
  split <;> rfl

theorem removeFromChannel_snd (ns : Namespace) {socketId channel : String}
    (member : socketId ∈ ns.channels.members channel) :
    (ns.removeFromChannel socketId channel).2 = true ↔
      (ns.channels.members channel).erase socketId = ∅ := by
  have present : ∃ stored, ns.channels.lookup channel = some stored := by
    cases found : ns.channels.lookup channel with
    | none =>
        rw [Table.members_of_none found] at member
        exact absurd member (Finset.notMem_empty _)
    | some stored => exact ⟨stored, rfl⟩
  obtain ⟨stored, found⟩ := present
  rw [Table.members_of_lookup found]
  simp [removeFromChannel, dropMember, found]

/-- The connections `send_to_channel` writes to, in the order of the loop. -/
def recipients (order : HashOrder) (ns : Namespace) (channel : String)
    (exceptingId : Option String) : List ConnHandle :=
  match ns.channels.lookup channel with
  | some socketIds =>
      (order.list socketIds).filterMap fun socketId =>
        if some socketId = exceptingId then none
        else ns.sockets.lookup socketId
  | none => []

theorem recipients_of_named {ns : Namespace} {channel : String}
    (named : ∀ socketId ∈ ns.channels.members channel, ∀ handle,
      ns.sockets.lookup socketId = some handle → handle.socketId = socketId)
    (order : HashOrder) (exceptingId : Option String) :
    (ns.recipients order channel exceptingId).map ConnHandle.socketId =
      (order.list (ns.channels.members channel)).filter fun socketId =>
        some socketId ≠ exceptingId ∧ (ns.sockets.lookup socketId).isSome := by
  unfold recipients
  cases found : ns.channels.lookup channel with
  | none => simp [Table.members_of_none found]
  | some socketIds =>
      rw [Table.members_of_lookup found] at named ⊢
      have listed : ∀ socketId ∈ order.list socketIds, ∀ handle,
          ns.sockets.lookup socketId = some handle → handle.socketId = socketId :=
        fun socketId member => named socketId (order.mem_list.mp member)
      dsimp only
      generalize order.list socketIds = list at listed
      induction list with
      | nil => rfl
      | cons socketId rest induction =>
          have tail := induction fun other member =>
            listed other (List.mem_cons_of_mem _ member)
          have head := listed socketId List.mem_cons_self
          by_cases excepted : some socketId = exceptingId
          · simpa [excepted] using tail
          · cases stored : ns.sockets.lookup socketId with
            | none => simpa [excepted, stored] using tail
            | some handle => simpa [excepted, stored, head handle stored] using tail

theorem recipients_of_registered {ns : Namespace} {channel : String}
    (registered : ∀ socketId ∈ ns.channels.members channel,
      ns.sockets.lookup socketId = some ⟨socketId⟩)
    (order : HashOrder) (exceptingId : Option String) :
    (ns.recipients order channel exceptingId).map ConnHandle.socketId =
      (order.list (ns.channels.members channel)).filter (some · ≠ exceptingId) := by
  rw [recipients_of_named]
  · apply List.filter_congr
    intro socketId member
    simp [registered socketId (order.mem_list.mp member)]
  · intro socketId member handle found
    rw [registered socketId member] at found
    cases found
    rfl

def getConnectionCount (ns : Namespace) : Nat := ns.connectionCount

def getChannels (order : HashOrder) (ns : Namespace) : List String :=
  order.list ns.channels.keys

def getChannelSocketCount (ns : Namespace) (channel : String) : Nat :=
  (ns.channels.members channel).card

/-! Presence. -/

def presenceOf (ns : Namespace) (channel : String) :
    Table String (Value × Finset String) :=
  (ns.presence.lookup channel).getD ∅

def getPresenceMembers (ns : Namespace) (channel : String) : Table String Value :=
  (ns.presenceOf channel).mapValues Prod.fst

/-- Add a socket to a user of a channel.  A user already present keeps the
info stored first. -/
def joinPresence (members : Table String (Value × Finset String))
    (socketId userId : String) (userInfo : Value) :
    Table String (Value × Finset String) :=
  match members.lookup userId with
  | some (info, sockets) => members.insert userId (info, insert socketId sockets)
  | none => members.insert userId (userInfo, {socketId})

def addPresenceMember (ns : Namespace) (channel socketId userId : String)
    (userInfo : Value) : Namespace × Bool :=
  let members := ns.presenceOf channel
  ({ ns with
      presence := ns.presence.insert channel
        (joinPresence members socketId userId userInfo) },
    userId ∉ members)

/-- The limit check, the insertion and the snapshot are made under one guard.
A refused join leaves an entry for the channel behind. -/
def tryAddPresenceMember (ns : Namespace) (channel socketId userId : String)
    (userInfo : Value) (maxMembers : Nat) :
    Namespace × Except Unit (Bool × Table String Value) :=
  let members := ns.presenceOf channel
  if userId ∉ members ∧ members.size ≥ maxMembers then
    ({ ns with presence := ns.presence.insert channel members }, .error ())
  else
    let joined := joinPresence members socketId userId userInfo
    ({ ns with presence := ns.presence.insert channel joined },
      .ok (userId ∉ members, joined.mapValues Prod.fst))

/-- The guarded block of `removePresenceMember`; the flags tell whether the
user is gone and whether the channel has no user left. -/
def dropPresence (members : Table String (Value × Finset String))
    (socketId userId : String) : Table String (Value × Finset String) × Bool :=
  match members.lookup userId with
  | some (info, sockets) =>
      if sockets.erase socketId = ∅ then (members.erase userId, true)
      else (members.insert userId (info, sockets.erase socketId), false)
  | none => (members, false)

def removePresenceMember (ns : Namespace) (channel socketId userId : String) :
    Namespace × Bool :=
  match ns.presence.lookup channel with
  | some members =>
      let (remaining, userGone) := dropPresence members socketId userId
      let presence :=
        if remaining = ∅ then ns.presence.erase channel
        else ns.presence.insert channel remaining
      ({ ns with presence }, userGone)
  | none => (ns, false)

def getPresenceUserCount (ns : Namespace) (channel : String) : Nat :=
  (ns.presenceOf channel).size

def presenceSockets (ns : Namespace) (channel userId : String) : Finset String :=
  (((ns.presenceOf channel).lookup userId).map Prod.snd).getD ∅

theorem presenceOf_put (ns : Namespace) (channel other : String)
    (members : Table String (Value × Finset String)) :
    presenceOf { ns with presence := ns.presence.insert channel members } other =
      if other = channel then members else ns.presenceOf other := by
  rw [presenceOf, presenceOf, Table.lookup_put]
  split <;> rfl

theorem presenceOf_drop (ns : Namespace) (channel other : String) :
    presenceOf { ns with presence := ns.presence.erase channel } other =
      if other = channel then ∅ else ns.presenceOf other := by
  rw [presenceOf, presenceOf, Table.lookup_drop]
  split <;> rfl

theorem tryAddPresenceMember_fst (ns : Namespace)
    (channel socketId userId : String) (userInfo : Value) (maxMembers : Nat) :
    ∃ presence, (ns.tryAddPresenceMember channel socketId userId userInfo
      maxMembers).1 = { ns with presence } := by
  simp only [tryAddPresenceMember]
  split
  · exact ⟨_, rfl⟩
  · exact ⟨_, rfl⟩

theorem member_joinPresence (members : Table String (Value × Finset String))
    (socketId userId other : String) (userInfo : Value) :
    (joinPresence members socketId userId userInfo).lookup other =
      if other = userId then
        some (((members.lookup userId).map Prod.fst).getD userInfo,
          insert socketId (((members.lookup userId).map Prod.snd).getD ∅))
      else members.lookup other := by
  unfold joinPresence
  cases found : members.lookup userId with
  | none =>
      rw [Table.lookup_put]
      rfl
  | some stored =>
      rw [Table.lookup_put]
      rfl

theorem lookup_joinPresence (members : Table String (Value × Finset String))
    (socketId userId other : String) (userInfo : Value) :
    (((joinPresence members socketId userId userInfo).lookup other).map
        Prod.snd).getD ∅ =
      if other = userId then
        insert socketId (((members.lookup userId).map Prod.snd).getD ∅)
      else ((members.lookup other).map Prod.snd).getD ∅ := by
  rw [member_joinPresence]
  split <;> rfl

theorem presenceSockets_tryAddPresenceMember (ns : Namespace)
    (channel socketId userId : String) (userInfo : Value) (maxMembers : Nat)
    (other otherUser : String) :
    (ns.tryAddPresenceMember channel socketId userId userInfo
        maxMembers).1.presenceSockets other otherUser =
      if (ns.tryAddPresenceMember channel socketId userId userInfo
            maxMembers).2.isOk ∧ other = channel ∧ otherUser = userId then
        insert socketId (ns.presenceSockets channel userId)
      else ns.presenceSockets other otherUser := by
  simp only [tryAddPresenceMember]
  split
  · simp only [Except.isOk, Except.toBool, Bool.false_eq_true, false_and, if_false]
    rw [presenceSockets, presenceOf_put]
    by_cases same : other = channel
    · rw [if_pos same, same]
      rfl
    · rw [if_neg same]
      rfl
  · simp only [Except.isOk, Except.toBool, true_and]
    rw [presenceSockets, presenceOf_put]
    by_cases same : other = channel
    · subst same
      rw [if_pos rfl, lookup_joinPresence]
      simp [presenceSockets]
    · rw [if_neg same, if_neg (fun both => same both.1)]
      rfl

theorem removePresenceMember_fst (ns : Namespace)
    (channel socketId userId : String) :
    ∃ presence, (ns.removePresenceMember channel socketId userId).1 =
      { ns with presence } := by
  unfold removePresenceMember
  split
  · exact ⟨_, rfl⟩
  · exact ⟨ns.presence, rfl⟩

theorem member_dropPresence (members : Table String (Value × Finset String))
    (socketId userId other : String) :
    (dropPresence members socketId userId).1.lookup other =
      if other = userId then
        ((members.lookup userId).map fun member =>
          (member.1, member.2.erase socketId)).filter fun member => member.2 ≠ ∅
      else members.lookup other := by
  unfold dropPresence
  cases found : members.lookup userId with
  | none =>
      by_cases same : other = userId
      · subst same
        simp [found]
      · simp [same]
  | some stored =>
      obtain ⟨info, sockets⟩ := stored
      dsimp only
      split
      · rename_i empty
        rw [Table.lookup_drop]
        simp [Option.filter, empty]
      · rename_i remaining
        rw [Table.lookup_put]
        simp [Option.filter, remaining]

theorem lookup_dropPresence (members : Table String (Value × Finset String))
    (socketId userId other : String) :
    (((dropPresence members socketId userId).1.lookup other).map Prod.snd).getD ∅ =
      if other = userId then
        (((members.lookup userId).map Prod.snd).getD ∅).erase socketId
      else ((members.lookup other).map Prod.snd).getD ∅ := by
  rw [member_dropPresence]
  split
  · cases members.lookup userId with
    | none => simp
    | some member =>
        by_cases emptied : member.2.erase socketId = ∅
        · simp [Option.filter, emptied]
        · simp [Option.filter, emptied]
  · rfl

theorem presenceOf_removePresenceMember (ns : Namespace)
    (channel socketId userId other : String) :
    (ns.removePresenceMember channel socketId userId).1.presenceOf other =
      if other = channel then
        (dropPresence (ns.presenceOf channel) socketId userId).1
      else ns.presenceOf other := by
  unfold removePresenceMember
  cases found : ns.presence.lookup channel with
  | none =>
      have absent : ns.presenceOf channel = ∅ := by simp [presenceOf, found]
      dsimp only
      split
      · rename_i same
        rw [same, absent]
        rfl
      · rfl
  | some members =>
      have stored : ns.presenceOf channel = members := by simp [presenceOf, found]
      rw [stored]
      dsimp only
      split
      · rename_i emptied
        rw [presenceOf_drop, emptied]
      · rw [presenceOf_put]

theorem removePresenceMember_snd (ns : Namespace)
    (channel socketId userId : String) :
    (ns.removePresenceMember channel socketId userId).2 =
      (dropPresence (ns.presenceOf channel) socketId userId).2 := by
  unfold removePresenceMember presenceOf
  cases ns.presence.lookup channel <;> rfl

theorem presenceSockets_removePresenceMember (ns : Namespace)
    (channel socketId userId other otherUser : String) :
    (ns.removePresenceMember channel socketId userId).1.presenceSockets other
        otherUser =
      if other = channel ∧ otherUser = userId then
        (ns.presenceSockets channel userId).erase socketId
      else ns.presenceSockets other otherUser := by
  rw [presenceSockets, presenceOf_removePresenceMember]
  by_cases same : other = channel
  · subst same
    rw [if_pos rfl, lookup_dropPresence]
    simp [presenceSockets]
  · rw [if_neg same, if_neg (fun both => same both.1)]
    rfl

/-! The presence data of each channel after a join and after a leave. -/

section

variable {ns : Namespace} {channel userId : String} {maxMembers : Nat}

theorem tryAddPresenceMember_of_full
    (full : userId ∉ ns.presenceOf channel ∧
      (ns.presenceOf channel).size ≥ maxMembers)
    (socketId : String) (userInfo : Value) :
    ns.tryAddPresenceMember channel socketId userId userInfo maxMembers =
      ({ ns with presence := ns.presence.insert channel (ns.presenceOf channel) },
        .error ()) :=
  if_pos full

theorem tryAddPresenceMember_of_room
    (room : ¬ (userId ∉ ns.presenceOf channel ∧
      (ns.presenceOf channel).size ≥ maxMembers))
    (socketId : String) (userInfo : Value) :
    ns.tryAddPresenceMember channel socketId userId userInfo maxMembers =
      ({ ns with
          presence := ns.presence.insert channel
            (joinPresence (ns.presenceOf channel) socketId userId userInfo) },
        .ok (userId ∉ ns.presenceOf channel,
          (joinPresence (ns.presenceOf channel) socketId userId userInfo).mapValues
            Prod.fst)) :=
  if_neg room

end

theorem presenceOf_put_same (ns : Namespace) (channel other : String) :
    presenceOf { ns with
      presence := ns.presence.insert channel (ns.presenceOf channel) } other =
      ns.presenceOf other := by
  rw [presenceOf_put]
  split
  · rename_i same
    rw [same]
  · rfl

/-! The users of a channel. -/

theorem keys_getPresenceMembers (ns : Namespace) (channel : String) :
    (ns.getPresenceMembers channel).keys = (ns.presenceOf channel).keys :=
  Table.keys_mapValues Prod.fst (ns.presenceOf channel)

theorem keys_joinPresence (members : Table String (Value × Finset String))
    (socketId userId : String) (userInfo : Value) :
    (joinPresence members socketId userId userInfo).keys =
      insert userId members.keys := by
  unfold joinPresence
  cases members.lookup userId with
  | none => exact Table.keys_put members userId _
  | some stored => exact Table.keys_put members userId _

/-- A join that is refused changes no user; one that is accepted adds its user
and says whether it was new. -/
theorem tryAddPresenceMember_cases (ns : Namespace)
    (channel socketId userId : String) (userInfo : Value) (maxMembers : Nat) :
    ∃ presence,
      let after : Namespace := { ns with presence }
      (ns.tryAddPresenceMember channel socketId userId userInfo maxMembers =
          (after, .error ()) ∧
        after.presenceOf channel = ns.presenceOf channel) ∨
      (∃ members, ns.tryAddPresenceMember channel socketId userId userInfo
            maxMembers =
          (after, .ok (userId ∉ (ns.presenceOf channel).keys, members)) ∧
        (after.presenceOf channel).keys =
          insert userId (ns.presenceOf channel).keys) := by
  simp only [tryAddPresenceMember, Finmap.mem_keys]
  split
  · refine ⟨_, .inl ⟨rfl, ?_⟩⟩
    rw [presenceOf_put, if_pos rfl]
  · refine ⟨_, .inr ⟨_, rfl, ?_⟩⟩
    rw [presenceOf_put, if_pos rfl, keys_joinPresence]

theorem presenceOf_tryAddPresenceMember_other (ns : Namespace)
    (channel socketId userId : String) (userInfo : Value) (maxMembers : Nat)
    {other : String} (different : other ≠ channel) :
    (ns.tryAddPresenceMember channel socketId userId userInfo
      maxMembers).1.presenceOf other = ns.presenceOf other := by
  simp only [tryAddPresenceMember]
  split
  · rw [presenceOf_put, if_neg different]
  · rw [presenceOf_put, if_neg different]

theorem presenceOf_removePresenceMember_other (ns : Namespace)
    (channel socketId userId : String) {other : String} (different : other ≠ channel) :
    (ns.removePresenceMember channel socketId userId).1.presenceOf other =
      ns.presenceOf other := by
  rw [presenceOf_removePresenceMember, if_neg different]

theorem mem_of_removePresenceMember {ns : Namespace}
    {channel socketId userId : String}
    (gone : (ns.removePresenceMember channel socketId userId).2 = true) :
    userId ∈ (ns.presenceOf channel).keys := by
  rw [removePresenceMember_snd, dropPresence] at gone
  cases there : (ns.presenceOf channel).lookup userId with
  | none => simp [there] at gone
  | some user => exact Table.mem_keys_iff.mpr ⟨user, there⟩

theorem dropPresence_keys (members : Table String (Value × Finset String))
    (socketId userId : String) :
    (dropPresence members socketId userId).1.keys =
      if (dropPresence members socketId userId).2 then members.keys.erase userId
      else members.keys := by
  unfold dropPresence
  cases found : members.lookup userId with
  | none => rfl
  | some stored =>
      dsimp only
      split
      · exact Table.keys_drop members userId
      · rw [Table.keys_put]
        exact Finset.insert_eq_of_mem (Table.mem_keys_iff.mpr ⟨stored, found⟩)

theorem keys_removePresenceMember (ns : Namespace)
    (channel socketId userId : String) :
    ((ns.removePresenceMember channel socketId userId).1.presenceOf channel).keys =
      if (ns.removePresenceMember channel socketId userId).2 then
        (ns.presenceOf channel).keys.erase userId
      else (ns.presenceOf channel).keys := by
  rw [presenceOf_removePresenceMember, if_pos rfl, removePresenceMember_snd,
    dropPresence_keys]

/-! Users. -/

def addUser (ns : Namespace) (userId socketId : String) : Namespace :=
  { ns with users := ns.users.enroll userId socketId }

def removeUser (ns : Namespace) (userId socketId : String) : Namespace :=
  match ns.users.lookup userId with
  | some sockets =>
      if sockets.erase socketId = ∅ then { ns with users := ns.users.erase userId }
      else { ns with users := ns.users.insert userId (sockets.erase socketId) }
  | none => ns

theorem members_addUser (ns : Namespace) (userId socketId other : String) :
    (ns.addUser userId socketId).users.members other =
      if other = userId then insert socketId (ns.users.members userId)
      else ns.users.members other :=
  Table.members_enroll ns.users userId other socketId

theorem removeUser_eq (ns : Namespace) (userId socketId : String) :
    ∃ users, ns.removeUser userId socketId = { ns with users } ∧
      ∀ other, users.members other =
        if other = userId then (ns.users.members userId).erase socketId
        else ns.users.members other := by
  unfold removeUser
  cases found : ns.users.lookup userId with
  | none =>
      refine ⟨ns.users, rfl, fun other => ?_⟩
      split
      · rename_i same
        rw [same, Table.members_of_none found, Finset.erase_empty]
      · rfl
  | some sockets =>
      rw [Table.members_of_lookup found]
      dsimp only
      split
      · rename_i empty
        refine ⟨_, rfl, fun other => ?_⟩
        rw [Table.members_drop, empty]
      · refine ⟨_, rfl, fun other => ?_⟩
        rw [Table.members, Table.lookup_put]
        split <;> rfl

def getSocketsForUser (order : HashOrder) (ns : Namespace) (userId : String) :
    List ConnHandle :=
  (order.list (ns.users.members userId)).filterMap ns.sockets.lookup

end Namespace

end RushSocket.Adapter
