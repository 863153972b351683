import RushSocket.Adapter.Local
import RushSocket.Data.ReverseIndex

namespace RushSocket.Adapter

open Data

/-! A socket leaves a channel.  What happens to one channel depends on nothing
else, so the order of several departures does not matter. -/

namespace Namespace

section

variable (ns : Namespace) (socketId channel : String)

def remainingUsers (userId : String)
    (stored : Option (Table String (Value × Finset String))) :
    Option (Table String (Value × Finset String)) :=
  (stored.map fun members => (dropPresence members socketId userId).1).filter (· ≠ ∅)

theorem removePresenceMember_fst_eq (userId : String) :
    (ns.removePresenceMember channel socketId userId).1 =
      { ns with
        presence := ns.presence.alter channel (remainingUsers socketId userId) } := by
  unfold removePresenceMember Table.alter remainingUsers
  cases found : ns.presence.lookup channel with
  | none => simp [Table.drop_absent found]
  | some members =>
      by_cases emptied : (dropPresence members socketId userId).1 = ∅
      · simp [Option.filter, emptied]
      · simp [Option.filter, emptied]

theorem removeFromChannel_fst_eq :
    (ns.removeFromChannel socketId channel).1 =
      { ns with
        channels := ns.channels.alter channel (Table.strike socketId)
        socketChannels := ns.socketChannels.discard socketId channel } := by
  unfold removeFromChannel dropMember deleteChannel dropReverse Table.alter Table.strike
  cases found : ns.channels.lookup channel with
  | none => simp [Table.drop_absent found]
  | some sockets =>
      by_cases emptied : sockets.erase socketId = ∅
      · have erased := Table.drop_put ns.channels channel ∅
        simp [Option.filter, emptied, erased]
      · simp [Option.filter, emptied]

def depart (user : Option String) : Namespace :=
  match user with
  | some userId =>
      ((ns.removePresenceMember channel socketId userId).1.removeFromChannel socketId
        channel).1
  | none => (ns.removeFromChannel socketId channel).1

def takesUser (user : Option String) : Bool :=
  user.any fun userId => (ns.removePresenceMember channel socketId userId).2

def vacates : Bool := (ns.removeFromChannel socketId channel).2

def departPresence (user : Option String)
    (presence : Table String (Table String (Value × Finset String))) :
    Table String (Table String (Value × Finset String)) :=
  match user with
  | some userId => presence.alter channel (remainingUsers socketId userId)
  | none => presence

theorem depart_eq (user : Option String) :
    ns.depart socketId channel user =
      { ns with
        presence := departPresence socketId channel user ns.presence
        channels := ns.channels.alter channel (Table.strike socketId)
        socketChannels := ns.socketChannels.discard socketId channel } := by
  unfold depart departPresence
  cases user with
  | none => exact removeFromChannel_fst_eq ns socketId channel
  | some userId =>
      dsimp only
      rw [removeFromChannel_fst_eq, removePresenceMember_fst_eq]

end

section

variable {ns : Namespace} {socketId channel other : String} {user otherUser : Option String}

theorem departPresence_comm (different : channel ≠ other)
    (presence : Table String (Table String (Value × Finset String))) :
    departPresence socketId other otherUser
        (departPresence socketId channel user presence) =
      departPresence socketId channel user
        (departPresence socketId other otherUser presence) := by
  unfold departPresence
  cases user with
  | none => rfl
  | some userId =>
      cases otherUser with
      | none => rfl
      | some otherId => exact Table.alter_comm different _ _ _

theorem discard_comm (table : Table String (Finset String)) :
    (table.discard socketId channel).discard socketId other =
      (table.discard socketId other).discard socketId channel := by
  simp only [Table.discard, Table.modify_modify]
  congr 1
  funext channels
  exact Finset.erase_right_comm

theorem depart_comm (different : channel ≠ other) :
    (ns.depart socketId channel user).depart socketId other otherUser =
      (ns.depart socketId other otherUser).depart socketId channel user := by
  simp only [depart_eq, mk.injEq, true_and, and_true]
  exact ⟨Table.alter_comm different _ _ _, discard_comm _, departPresence_comm different _⟩

structure SameAt (channel : String) (before after : Namespace) : Prop where
  presence : after.presence.lookup channel = before.presence.lookup channel
  channels : after.channels.lookup channel = before.channels.lookup channel

theorem sameAt_depart (different : channel ≠ other) :
    SameAt channel ns (ns.depart socketId other user) where
  presence := by
    rw [depart_eq]
    unfold departPresence
    cases user with
    | none => rfl
    | some userId => rw [Table.lookup_alter, if_neg different]
  channels := by
    rw [depart_eq, Table.lookup_alter, if_neg different]

variable {after : Namespace}

theorem SameAt.takesUser (same : SameAt channel ns after) :
    after.takesUser socketId channel user = ns.takesUser socketId channel user := by
  unfold Namespace.takesUser removePresenceMember
  rw [same.presence]
  cases ns.presence.lookup channel <;> rfl

theorem SameAt.vacates (same : SameAt channel ns after) :
    after.vacates socketId channel = ns.vacates socketId channel := by
  unfold Namespace.vacates removeFromChannel dropMember
  rw [same.channels]
  cases ns.channels.lookup channel <;> rfl

theorem SameAt.members (same : SameAt channel ns after) :
    after.channels.members channel = ns.channels.members channel := by
  rw [Table.members, same.channels]
  rfl

theorem vacates_removePresenceMember (userId : String) :
    (ns.removePresenceMember channel socketId userId).1.vacates socketId channel =
      ns.vacates socketId channel := by
  rw [removePresenceMember_fst_eq]
  unfold vacates removeFromChannel dropMember
  cases ns.channels.lookup channel <;> rfl

theorem sockets_depart : (ns.depart socketId channel user).sockets = ns.sockets := by
  rw [depart_eq]

theorem mem_of_depart {place member : String}
    (there : member ∈ (ns.depart socketId channel user).channels.members place) :
    member ∈ ns.channels.members place := by
  rw [depart_eq] at there
  exact (Table.mem_members_alter_strike.mp there).1

theorem SameAt.depart (same : SameAt channel ns after) :
    SameAt channel (ns.depart socketId channel user)
      (after.depart socketId channel user) where
  presence := by
    simp only [depart_eq, departPresence]
    cases user with
    | none => exact same.presence
    | some userId => simp only [Table.lookup_alter, if_pos, same.presence]
  channels := by
    simp only [depart_eq, Table.lookup_alter, if_pos, same.channels]

end

end Namespace

namespace LocalAdapter

def depart (adapter : LocalAdapter) (appId socketId channel : String)
    (user : Option String) : LocalAdapter :=
  ⟨adapter.namespaces.modify appId fun ns => ns.depart socketId channel user⟩

variable {adapter : LocalAdapter} {appId socketId channel other : String}
  {user otherUser : Option String}

theorem changeWith_fst {α : Type u} (otherwise : α)
    (change : Namespace → Namespace × α) :
    (adapter.changeWith appId otherwise change).1 =
      ⟨adapter.namespaces.modify appId fun ns => (change ns).1⟩ := by
  unfold changeWith Table.modify
  cases adapter.namespaces.lookup appId <;> rfl

theorem ns_depart (app : String) :
    (adapter.depart appId socketId channel user).ns app =
      if app = appId then (adapter.ns appId).depart socketId channel user
      else adapter.ns app := by
  unfold depart ns
  rw [Table.lookup_modify]
  split
  · cases adapter.namespaces.lookup appId with
    | some stored => rfl
    | none =>
        cases user with
        | none => rfl
        | some userId => rfl
  · rfl

theorem depart_comm (different : channel ≠ other) :
    (adapter.depart appId socketId channel user).depart appId socketId other otherUser =
      (adapter.depart appId socketId other otherUser).depart appId socketId channel
        user := by
  simp only [depart, Table.modify_modify, mk.injEq]
  congr 1
  funext ns
  exact Namespace.depart_comm different

end LocalAdapter

end RushSocket.Adapter
