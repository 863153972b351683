import RushSocket.Adapter.Local

namespace RushSocket.Adapter.LocalAdapter

open Data

/-! The adapter as relations between apps, sockets, channels and users. -/

section

variable (adapter : LocalAdapter) (appId socketId channel userId : String)

def Subscribed : Prop := socketId ∈ (adapter.ns appId).channels.members channel

/-- What the reverse index says. -/
def Indexed : Prop := channel ∈ (adapter.ns appId).socketChannels.members socketId

/-- The reverse index has an entry for the socket, if only an empty one. -/
def Listed : Prop := socketId ∈ (adapter.ns appId).socketChannels

def Present : Prop :=
  socketId ∈ (adapter.ns appId).presenceSockets channel userId

def SignedIn : Prop := socketId ∈ (adapter.ns appId).users.members userId

end

def Keeps {α : Type u} (part : Namespace → α) (before after : LocalAdapter) : Prop :=
  ∀ appId, part (after.ns appId) = part (before.ns appId)

theorem Keeps.refl {α : Type u} (part : Namespace → α) (adapter : LocalAdapter) :
    Keeps part adapter adapter :=
  fun _ => rfl

theorem Keeps.trans {α : Type u} {part : Namespace → α}
    {before between after : LocalAdapter} (first : Keeps part before between)
    (second : Keeps part between after) : Keeps part before after :=
  fun appId => (second appId).trans (first appId)

/-- The sockets of an app and their number. -/
def registry (ns : Namespace) : Table String ConnHandle × Nat :=
  (ns.sockets, ns.connectionCount)

def membership (ns : Namespace) :
    Table String (Finset String) × Table String (Finset String) :=
  (ns.channels, ns.socketChannels)

section

variable {adapter : LocalAdapter} {appId socketId channel userId : String}
  {userInfo : Value} {maxMembers : Nat} {app socket place user : String}

/-! Frames: each operation keeps what its own part does not reach. -/

section

variable {α : Type u} {part : Namespace → α}

theorem keeps_addToChannel (ignores : ∀ ns channels socketChannels,
      part { ns with channels, socketChannels } = part ns) :
    Keeps part adapter (adapter.addToChannel appId socketId channel).1 := by
  intro app
  rw [ns_addToChannel]
  split
  · rename_i same
    rw [same]
    exact ignores _ _ _
  · rfl

theorem keeps_removeFromChannel (ignores : ∀ ns channels socketChannels,
      part { ns with channels, socketChannels } = part ns) :
    Keeps part adapter (adapter.removeFromChannel appId socketId channel).1 := by
  intro app
  rw [(ns_removeFromChannel adapter appId socketId channel app).1]
  split
  · rename_i same
    rw [same]
    simp only [Namespace.removeFromChannel, Namespace.dropReverse,
      Namespace.dropMember_fst]
    split
    · exact ignores (adapter.ns appId) _ _
    · exact ignores (adapter.ns appId) _ _
  · rfl

theorem keeps_tryAddPresenceMember
    (ignores : ∀ ns presence, part { ns with presence } = part ns) :
    Keeps part adapter (adapter.tryAddPresenceMember appId channel socketId userId
      userInfo maxMembers).1 := by
  intro app
  rw [ns_tryAddPresenceMember]
  split
  · rename_i same
    obtain ⟨presence, shape⟩ := Namespace.tryAddPresenceMember_fst (adapter.ns appId)
      channel socketId userId userInfo maxMembers
    rw [same, shape, ignores]
  · rfl

theorem keeps_removePresenceMember
    (ignores : ∀ ns presence, part { ns with presence } = part ns) :
    Keeps part adapter
      (adapter.removePresenceMember appId channel socketId userId).1 := by
  intro app
  rw [(ns_removePresenceMember adapter appId channel socketId userId app).1]
  split
  · rename_i same
    obtain ⟨presence, shape⟩ := Namespace.removePresenceMember_fst (adapter.ns appId)
      channel socketId userId
    rw [same, shape, ignores]
  · rfl

theorem keeps_addUser (ignores : ∀ ns users, part { ns with users } = part ns) :
    Keeps part adapter (adapter.addUser appId userId socketId) := by
  intro app
  rw [ns_addUser]
  split
  · rename_i same
    rw [same]
    exact ignores _ _
  · rfl

theorem keeps_removeUser (ignores : ∀ ns users, part { ns with users } = part ns) :
    Keeps part adapter (adapter.removeUser appId userId socketId) := by
  intro app
  rw [ns_removeUser]
  split
  · rename_i same
    obtain ⟨users, shape, _⟩ := Namespace.removeUser_eq (adapter.ns appId) userId
      socketId
    rw [same, shape, ignores]
  · rfl

end

theorem Keeps.subscribed {before after : LocalAdapter}
    (keeps : Keeps membership before after) :
    after.Subscribed app socket place ↔ before.Subscribed app socket place := by
  have same : (after.ns app).channels = (before.ns app).channels :=
    congrArg Prod.fst (keeps app)
  rw [Subscribed, same, Subscribed]

theorem Keeps.indexed {before after : LocalAdapter}
    (keeps : Keeps membership before after) :
    after.Indexed app socket place ↔ before.Indexed app socket place := by
  have same : (after.ns app).socketChannels = (before.ns app).socketChannels :=
    congrArg Prod.snd (keeps app)
  rw [Indexed, same, Indexed]

theorem Keeps.listed {before after : LocalAdapter}
    (keeps : Keeps membership before after) :
    after.Listed app socket ↔ before.Listed app socket := by
  have same : (after.ns app).socketChannels = (before.ns app).socketChannels :=
    congrArg Prod.snd (keeps app)
  rw [Listed, same, Listed]

theorem Keeps.present {before after : LocalAdapter}
    (keeps : Keeps Namespace.presence before after) :
    after.Present app socket place user ↔ before.Present app socket place user := by
  have same : (after.ns app).presence = (before.ns app).presence := keeps app
  rw [Present, Namespace.presenceSockets, Namespace.presenceOf, same, Present,
    Namespace.presenceSockets, Namespace.presenceOf]

theorem Keeps.signedIn {before after : LocalAdapter}
    (keeps : Keeps Namespace.users before after) :
    after.SignedIn app socket user ↔ before.SignedIn app socket user := by
  have same : (after.ns app).users = (before.ns app).users := keeps app
  rw [SignedIn, same, SignedIn]

/-! Effects: how an operation changes the relation it is about. -/

theorem subscribed_addToChannel
    (same : (adapter.ns appId).findSocketId socketId = socketId) :
    (adapter.addToChannel appId socketId channel).1.Subscribed app socket place ↔
      adapter.Subscribed app socket place ∨
        (app = appId ∧ socket = socketId ∧ place = channel) := by
  rw [Subscribed, ns_addToChannel]
  by_cases here : app = appId
  · subst here
    rw [if_pos rfl, Namespace.members_addToChannel, same, Subscribed]
    by_cases there : place = channel
    · subst there
      simp [or_comm]
    · simp [there]
  · simp [here, Subscribed]

theorem indexed_addToChannel
    (same : (adapter.ns appId).findSocketId socketId = socketId) :
    (adapter.addToChannel appId socketId channel).1.Indexed app socket place ↔
      adapter.Indexed app socket place ∨
        (app = appId ∧ socket = socketId ∧ place = channel) := by
  rw [Indexed, ns_addToChannel]
  by_cases here : app = appId
  · subst here
    rw [if_pos rfl]
    simp only [Namespace.addToChannel, Namespace.insertMember, same,
      Table.mem_members_enroll, true_and]
    rfl
  · simp [here, Indexed]

theorem subscribed_removeFromChannel :
    (adapter.removeFromChannel appId socketId channel).1.Subscribed app socket
        place ↔
      adapter.Subscribed app socket place ∧
        ¬ (app = appId ∧ socket = socketId ∧ place = channel) := by
  rw [Subscribed, (ns_removeFromChannel adapter appId socketId channel app).1]
  by_cases here : app = appId
  · subst here
    rw [if_pos rfl, Namespace.members_removeFromChannel, Table.mem_members_discard]
    simp [Subscribed, and_comm]
  · simp [here, Subscribed]

theorem indexed_removeFromChannel :
    (adapter.removeFromChannel appId socketId channel).1.Indexed app socket place ↔
      adapter.Indexed app socket place ∧
        ¬ (app = appId ∧ socket = socketId ∧ place = channel) := by
  rw [Indexed, (ns_removeFromChannel adapter appId socketId channel app).1]
  by_cases here : app = appId
  · subst here
    rw [if_pos rfl]
    simp only [Namespace.removeFromChannel, Namespace.dropReverse,
      Namespace.dropMember_fst, Table.mem_members_discard]
    split <;> simp [Indexed, Namespace.deleteChannel]
  · simp [here, Indexed]

theorem listed_addToChannel
    (same : (adapter.ns appId).findSocketId socketId = socketId) :
    (adapter.addToChannel appId socketId channel).1.Listed app socket ↔
      adapter.Listed app socket ∨ (app = appId ∧ socket = socketId) := by
  rw [Listed, ns_addToChannel]
  by_cases here : app = appId
  · subst here
    rw [if_pos rfl]
    simp only [Namespace.addToChannel, Namespace.insertMember, same, Table.enroll,
      Finmap.mem_insert, true_and, Listed]
    exact or_comm
  · simp [here, Listed]

theorem listed_removeFromChannel :
    (adapter.removeFromChannel appId socketId channel).1.Listed app socket ↔
      adapter.Listed app socket := by
  rw [Listed, (ns_removeFromChannel adapter appId socketId channel app).1]
  split
  · rename_i same
    subst same
    have kept : ∀ table : Table String (Finset String),
        socket ∈ table.discard socketId channel ↔ socket ∈ table := by
      intro table
      rw [← Finmap.lookup_isSome, Table.discard, Table.lookup_modify,
        ← Finmap.lookup_isSome]
      split
      · rename_i same
        rw [same, Option.isSome_map]
      · rfl
    simp only [Namespace.removeFromChannel, Namespace.dropReverse,
      Namespace.dropMember_fst]
    split <;> exact kept _
  · rfl

theorem present_tryAddPresenceMember :
    (adapter.tryAddPresenceMember appId channel socketId userId userInfo
        maxMembers).1.Present app socket place user ↔
      adapter.Present app socket place user ∨
        ((adapter.tryAddPresenceMember appId channel socketId userId userInfo
            maxMembers).2.isOk ∧
          app = appId ∧ socket = socketId ∧ place = channel ∧ user = userId) := by
  rw [Present, ns_tryAddPresenceMember]
  by_cases here : app = appId
  · subst here
    have outcome : (adapter.tryAddPresenceMember app channel socketId userId userInfo
        maxMembers).2 = ((adapter.ns app).tryAddPresenceMember channel socketId
          userId userInfo maxMembers).2 := rfl
    rw [if_pos rfl, Namespace.presenceSockets_tryAddPresenceMember, outcome, Present]
    split
    · rename_i accepted
      obtain ⟨ok, rfl, rfl⟩ := accepted
      simp [ok, or_comm]
    · rename_i notHere
      refine ⟨.inl, fun either => either.elim id fun new => ?_⟩
      exact absurd ⟨new.1, new.2.2.2.1, new.2.2.2.2⟩ notHere
  · simp [here, Present]

theorem present_removePresenceMember :
    (adapter.removePresenceMember appId channel socketId userId).1.Present app socket
        place user ↔
      adapter.Present app socket place user ∧
        ¬ (app = appId ∧ socket = socketId ∧ place = channel ∧ user = userId) := by
  rw [Present, (ns_removePresenceMember adapter appId channel socketId userId app).1]
  by_cases here : app = appId
  · subst here
    rw [if_pos rfl, Namespace.presenceSockets_removePresenceMember, Present]
    split
    · rename_i same
      obtain ⟨rfl, rfl⟩ := same
      rw [Finset.mem_erase]
      simp [and_comm]
    · rename_i elsewhere
      refine ⟨fun member => ⟨member, fun removed => elsewhere removed.2.2⟩, And.left⟩
  · simp [here, Present]

theorem ns_removeSocket_idle {order : HashOrder}
    (idle : ∀ channel, ¬ adapter.Indexed appId socketId channel) (app : String) :
    (adapter.removeSocket order appId socketId).1.ns app =
      if app = appId then
        { adapter.ns appId with
          sockets := (adapter.ns appId).sockets.erase socketId
          connectionCount :=
            if socketId ∈ (adapter.ns appId).sockets then
              (adapter.ns appId).connectionCount - 1
            else (adapter.ns appId).connectionCount
          socketChannels := (adapter.ns appId).socketChannels.erase socketId }
      else adapter.ns app := by
  rw [ns_removeSocket, Namespace.removeSocket_of_no_channels]
  exact Finset.eq_empty_iff_forall_notMem.mpr idle

theorem subscribed_removeSocket_idle {order : HashOrder}
    (idle : ∀ channel, ¬ adapter.Indexed appId socketId channel) :
    (adapter.removeSocket order appId socketId).1.Subscribed app socket place ↔
      adapter.Subscribed app socket place := by
  rw [Subscribed, ns_removeSocket_idle idle]
  split
  · rename_i same
    rw [same]
    rfl
  · rfl

theorem indexed_removeSocket_idle {order : HashOrder}
    (idle : ∀ channel, ¬ adapter.Indexed appId socketId channel) :
    (adapter.removeSocket order appId socketId).1.Indexed app socket place ↔
      adapter.Indexed app socket place := by
  rw [Indexed, ns_removeSocket_idle idle]
  split
  · rename_i same
    rw [same, Table.members_drop_of_empty
      (Finset.eq_empty_iff_forall_notMem.mpr idle) socket]
    rfl
  · rfl

theorem listed_removeSocket_idle {order : HashOrder}
    (idle : ∀ channel, ¬ adapter.Indexed appId socketId channel) :
    (adapter.removeSocket order appId socketId).1.Listed app socket ↔
      adapter.Listed app socket ∧ ¬ (app = appId ∧ socket = socketId) := by
  rw [Listed, ns_removeSocket_idle idle]
  by_cases here : app = appId
  · subst here
    rw [if_pos rfl, Finmap.mem_erase, Listed]
    simp [and_comm]
  · simp [here, Listed]

theorem keeps_removeSocket_idle {α : Type u} {part : Namespace → α}
    {order : HashOrder} (idle : ∀ channel, ¬ adapter.Indexed appId socketId channel)
    (ignores : ∀ ns sockets connectionCount socketChannels,
      part { ns with sockets, connectionCount, socketChannels } = part ns) :
    Keeps part adapter (adapter.removeSocket order appId socketId).1 := by
  intro app
  rw [ns_removeSocket_idle idle]
  split
  · rename_i same
    rw [same]
    exact ignores _ _ _ _
  · rfl

theorem signedIn_addUser :
    (adapter.addUser appId userId socketId).SignedIn app socket user ↔
      adapter.SignedIn app socket user ∨
        (app = appId ∧ socket = socketId ∧ user = userId) := by
  rw [SignedIn, ns_addUser]
  by_cases here : app = appId
  · subst here
    rw [if_pos rfl, Namespace.members_addUser, SignedIn]
    by_cases same : user = userId
    · subst same
      simp [or_comm]
    · simp [same]
  · simp [here, SignedIn]

theorem signedIn_removeUser :
    (adapter.removeUser appId userId socketId).SignedIn app socket user ↔
      adapter.SignedIn app socket user ∧
        ¬ (app = appId ∧ socket = socketId ∧ user = userId) := by
  rw [SignedIn, ns_removeUser]
  by_cases here : app = appId
  · subst here
    obtain ⟨users, shape, members⟩ := Namespace.removeUser_eq (adapter.ns app) userId
      socketId
    rw [if_pos rfl, shape, members, SignedIn]
    split
    · rename_i same
      subst same
      rw [Finset.mem_erase]
      simp [and_comm]
    · rename_i other
      simp [other]
  · simp [here, SignedIn]

end

end RushSocket.Adapter.LocalAdapter
