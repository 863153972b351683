import RushSocket.Adapter.Namespace
import RushSocket.Protocol.Channels

namespace RushSocket.Adapter

open Data Protocol

structure ChannelInfo where
  occupied : Bool := false
  subscriptionCount : Nat := 0
  userCount : Option Nat := none
  deriving DecidableEq

/-- The adapter of a single node: one namespace for each app that has one. -/
structure LocalAdapter where
  namespaces : Table String Namespace
  deriving DecidableEq

namespace LocalAdapter

def new : LocalAdapter := ⟨∅⟩

/-- The namespace of an app, an absent one reading as the empty namespace. -/
def ns (adapter : LocalAdapter) (appId : String) : Namespace :=
  (adapter.namespaces.lookup appId).getD .new

def getAppIds (order : HashOrder) (adapter : LocalAdapter) : List String :=
  order.list adapter.namespaces.keys

def createWith {α : Type u} (adapter : LocalAdapter) (appId : String)
    (change : Namespace → Namespace × α) : LocalAdapter × α :=
  (⟨adapter.namespaces.insert appId (change (adapter.ns appId)).1⟩,
    (change (adapter.ns appId)).2)

def changeWith {α : Type u} (adapter : LocalAdapter) (appId : String) (otherwise : α)
    (change : Namespace → Namespace × α) : LocalAdapter × α :=
  match adapter.namespaces.lookup appId with
  | some stored =>
      (⟨adapter.namespaces.insert appId (change stored).1⟩, (change stored).2)
  | none => (adapter, otherwise)

def tryAddSocket (adapter : LocalAdapter) (appId : String) (conn : ConnHandle)
    (limit : Int) : LocalAdapter × Bool :=
  adapter.createWith appId fun ns => ns.tryAddSocket conn limit

def removeSocket (order : HashOrder) (adapter : LocalAdapter)
    (appId socketId : String) : LocalAdapter × List String :=
  adapter.changeWith appId [] fun ns => ns.removeSocket order socketId

def addToChannel (adapter : LocalAdapter) (appId socketId channel : String) :
    LocalAdapter × Bool :=
  adapter.createWith appId fun ns => ns.addToChannel socketId channel

def removeFromChannel (adapter : LocalAdapter) (appId socketId channel : String) :
    LocalAdapter × Bool :=
  adapter.changeWith appId false fun ns => ns.removeFromChannel socketId channel

def recipients (order : HashOrder) (adapter : LocalAdapter) (appId channel : String)
    (exceptingId : Option String) : List ConnHandle :=
  match adapter.namespaces.lookup appId with
  | some ns => ns.recipients order channel exceptingId
  | none => []

def addPresenceMember (adapter : LocalAdapter)
    (appId channel socketId userId : String) (userInfo : Value) :
    LocalAdapter × Bool :=
  adapter.createWith appId fun ns =>
    ns.addPresenceMember channel socketId userId userInfo

def tryAddPresenceMember (adapter : LocalAdapter)
    (appId channel socketId userId : String) (userInfo : Value) (maxMembers : Nat) :
    LocalAdapter × Except Unit (Bool × Table String Value) :=
  adapter.createWith appId fun ns =>
    ns.tryAddPresenceMember channel socketId userId userInfo maxMembers

def removePresenceMember (adapter : LocalAdapter)
    (appId channel socketId userId : String) : LocalAdapter × Bool :=
  adapter.changeWith appId false fun ns =>
    ns.removePresenceMember channel socketId userId

def addUser (adapter : LocalAdapter) (appId userId socketId : String) :
    LocalAdapter :=
  (adapter.createWith appId fun ns => (ns.addUser userId socketId, ())).1

def removeUser (adapter : LocalAdapter) (appId userId socketId : String) :
    LocalAdapter :=
  (adapter.changeWith appId () fun ns => (ns.removeUser userId socketId, ())).1

def getSocketsForUser (order : HashOrder) (adapter : LocalAdapter)
    (appId userId : String) : List ConnHandle :=
  match adapter.namespaces.lookup appId with
  | some ns => ns.getSocketsForUser order userId
  | none => []

def getConnectionCount (adapter : LocalAdapter) (appId : String) : Nat :=
  match adapter.namespaces.lookup appId with
  | some ns => ns.getConnectionCount
  | none => 0

def getChannels (order : HashOrder) (adapter : LocalAdapter) (appId : String) :
    List String :=
  match adapter.namespaces.lookup appId with
  | some ns => ns.getChannels order
  | none => []

def getChannelInfo (adapter : LocalAdapter) (appId channel : String) : ChannelInfo :=
  match adapter.namespaces.lookup appId with
  | none => {}
  | some ns =>
      { occupied := ns.getChannelSocketCount channel > 0
        subscriptionCount := ns.getChannelSocketCount channel
        userCount :=
          if (ChannelKind.fromName channel).isPresence then
            some (ns.getPresenceUserCount channel)
          else none }

def getSocket (adapter : LocalAdapter) (appId socketId : String) : Option ConnHandle :=
  match adapter.namespaces.lookup appId with
  | some ns => ns.sockets.lookup socketId
  | none => none

def getChannelSockets (order : HashOrder) (adapter : LocalAdapter)
    (appId channel : String) : List String :=
  match adapter.namespaces.lookup appId with
  | some ns => order.list (ns.channels.members channel)
  | none => []

def getChannelSocketCount (adapter : LocalAdapter) (appId channel : String) : Nat :=
  match adapter.namespaces.lookup appId with
  | some ns => ns.getChannelSocketCount channel
  | none => 0

def getPresenceMembers (adapter : LocalAdapter) (appId channel : String) :
    Table String Value :=
  match adapter.namespaces.lookup appId with
  | some ns => ns.getPresenceMembers channel
  | none => ∅

def getPresenceUserCount (adapter : LocalAdapter) (appId channel : String) : Nat :=
  match adapter.namespaces.lookup appId with
  | some ns => ns.getPresenceUserCount channel
  | none => 0

/-- On a single node what holds locally holds globally. -/
def isChannelGloballyOccupied (locallyOccupied : Bool) : Bool := locallyOccupied

def isChannelGloballyVacated (locallyVacated : Bool) : Bool := locallyVacated

/-! What the operations do to the namespaces read by `ns`. -/

theorem ns_createWith {α : Type u} (adapter : LocalAdapter) (appId other : String)
    (change : Namespace → Namespace × α) :
    (adapter.createWith appId change).1.ns other =
      if other = appId then (change (adapter.ns appId)).1 else adapter.ns other := by
  rw [createWith, ns, Table.lookup_put]
  by_cases same : other = appId
  · simp [same]
  · simp [same, ns]

/-- When the operation leaves the empty namespace empty, it does not matter
whether the app had one. -/
theorem ns_changeWith {α : Type u} (adapter : LocalAdapter) (appId other : String)
    (otherwise : α) (change : Namespace → Namespace × α)
    (neutral : change .new = (.new, otherwise)) :
    (adapter.changeWith appId otherwise change).1.ns other =
        (if other = appId then (change (adapter.ns appId)).1
          else adapter.ns other) ∧
      (adapter.changeWith appId otherwise change).2 =
        (change (adapter.ns appId)).2 := by
  cases found : adapter.namespaces.lookup appId with
  | some stored =>
      have read : adapter.ns appId = stored := by simp [ns, found]
      rw [read]
      simp only [changeWith, found, and_true]
      rw [ns, Table.lookup_put]
      by_cases same : other = appId
      · simp [same]
      · simp [same, ns]
  | none =>
      have read : adapter.ns appId = .new := by simp [ns, found]
      rw [read, neutral]
      simp only [changeWith, found, and_true]
      by_cases same : other = appId
      · rw [if_pos same, same, read]
      · rw [if_neg same]

theorem ns_addToChannel (adapter : LocalAdapter)
    (appId socketId channel other : String) :
    (adapter.addToChannel appId socketId channel).1.ns other =
      if other = appId then ((adapter.ns appId).addToChannel socketId channel).1
      else adapter.ns other :=
  ns_createWith adapter appId other _

theorem ns_removeFromChannel (adapter : LocalAdapter)
    (appId socketId channel other : String) :
    (adapter.removeFromChannel appId socketId channel).1.ns other =
        (if other = appId then
          ((adapter.ns appId).removeFromChannel socketId channel).1
        else adapter.ns other) ∧
      (adapter.removeFromChannel appId socketId channel).2 =
        ((adapter.ns appId).removeFromChannel socketId channel).2 :=
  ns_changeWith adapter appId other false _ rfl

theorem ns_tryAddSocket (adapter : LocalAdapter) (appId : String)
    (conn : ConnHandle) (limit : Int) (other : String) :
    (adapter.tryAddSocket appId conn limit).1.ns other =
      if other = appId then ((adapter.ns appId).tryAddSocket conn limit).1
      else adapter.ns other :=
  ns_createWith adapter appId other _

theorem ns_tryAddPresenceMember (adapter : LocalAdapter)
    (appId channel socketId userId : String) (userInfo : Value) (maxMembers : Nat)
    (other : String) :
    (adapter.tryAddPresenceMember appId channel socketId userId userInfo
        maxMembers).1.ns other =
      if other = appId then
        ((adapter.ns appId).tryAddPresenceMember channel socketId userId userInfo
          maxMembers).1
      else adapter.ns other :=
  ns_createWith adapter appId other _

theorem ns_removePresenceMember (adapter : LocalAdapter)
    (appId channel socketId userId other : String) :
    (adapter.removePresenceMember appId channel socketId userId).1.ns other =
        (if other = appId then
          ((adapter.ns appId).removePresenceMember channel socketId userId).1
        else adapter.ns other) ∧
      (adapter.removePresenceMember appId channel socketId userId).2 =
        ((adapter.ns appId).removePresenceMember channel socketId userId).2 :=
  ns_changeWith adapter appId other false _ rfl

theorem ns_addUser (adapter : LocalAdapter) (appId userId socketId other : String) :
    (adapter.addUser appId userId socketId).ns other =
      if other = appId then (adapter.ns appId).addUser userId socketId
      else adapter.ns other :=
  ns_createWith adapter appId other _

theorem ns_removeUser (adapter : LocalAdapter)
    (appId userId socketId other : String) :
    (adapter.removeUser appId userId socketId).ns other =
      if other = appId then (adapter.ns appId).removeUser userId socketId
      else adapter.ns other :=
  (ns_changeWith adapter appId other () _ rfl).1

theorem ns_removeSocket (order : HashOrder) (adapter : LocalAdapter)
    (appId socketId other : String) :
    (adapter.removeSocket order appId socketId).1.ns other =
      if other = appId then ((adapter.ns appId).removeSocket order socketId).1
      else adapter.ns other :=
  (ns_changeWith adapter appId other [] (fun ns => ns.removeSocket order socketId)
    (Namespace.removeSocket_new order socketId)).1

theorem getSocketsForUser_eq (order : HashOrder) (adapter : LocalAdapter)
    (appId userId : String) :
    adapter.getSocketsForUser order appId userId =
      (adapter.ns appId).getSocketsForUser order userId := by
  unfold getSocketsForUser ns
  cases adapter.namespaces.lookup appId with
  | none => simp [Namespace.getSocketsForUser, Namespace.new]
  | some stored => rfl

theorem recipients_eq (order : HashOrder) (adapter : LocalAdapter)
    (appId channel : String) (exceptingId : Option String) :
    adapter.recipients order appId channel exceptingId =
      (adapter.ns appId).recipients order channel exceptingId := by
  unfold recipients ns
  cases adapter.namespaces.lookup appId <;> rfl

theorem getChannels_eq (order : HashOrder) (adapter : LocalAdapter)
    (appId : String) :
    adapter.getChannels order appId = order.list (adapter.ns appId).channels.keys := by
  unfold getChannels ns
  cases adapter.namespaces.lookup appId with
  | none => exact (order.list_empty).symm
  | some stored => rfl

theorem getPresenceMembers_eq (adapter : LocalAdapter) (appId channel : String) :
    adapter.getPresenceMembers appId channel =
      (adapter.ns appId).getPresenceMembers channel := by
  unfold getPresenceMembers ns
  cases adapter.namespaces.lookup appId with
  | none => rfl
  | some stored => rfl

theorem getConnectionCount_eq (adapter : LocalAdapter) (appId : String) :
    adapter.getConnectionCount appId = (adapter.ns appId).connectionCount := by
  unfold getConnectionCount ns
  cases adapter.namespaces.lookup appId <;> rfl

theorem getChannelSocketCount_eq (adapter : LocalAdapter) (appId channel : String) :
    adapter.getChannelSocketCount appId channel =
      ((adapter.ns appId).channels.members channel).card := by
  unfold getChannelSocketCount ns
  cases adapter.namespaces.lookup appId <;> rfl

end LocalAdapter

end RushSocket.Adapter
