import RushSocket.Adapter.Local

namespace RushSocket.Adapter

open Data

/-! The joins and leaves of presence channels as calls with a result. -/

inductive PresenceCall where
  | tryAddPresenceMember (channel socketId userId : String) (userInfo : Value)
      (maxMembers : Nat)
  | removePresenceMember (channel socketId userId : String)
  deriving DecidableEq

inductive PresenceReturned where
  | added (outcome : Except Unit (Bool × Table String Value))
  | removed (userGone : Bool)

namespace PresenceCall

def info : PresenceCall → Option Value
  | .tryAddPresenceMember _ _ _ userInfo _ => some userInfo
  | .removePresenceMember _ _ _ => none

def joins : PresenceCall → Bool
  | .tryAddPresenceMember _ _ _ _ _ => true
  | .removePresenceMember _ _ _ => false

def withLimit (maxMembers : Nat) : PresenceCall → PresenceCall
  | .tryAddPresenceMember channel socketId userId userInfo _ =>
      .tryAddPresenceMember channel socketId userId userInfo maxMembers
  | .removePresenceMember channel socketId userId =>
      .removePresenceMember channel socketId userId

@[simp] theorem joins_withLimit (maxMembers : Nat) (call : PresenceCall) :
    (call.withLimit maxMembers).joins = call.joins := by
  cases call <;> rfl

end PresenceCall

/-- The sockets that are in a channel, each with the channel and the user it
joined as. -/
def attending : List (PresenceCall × PresenceReturned) →
    Table (String × String) (String × String)
  | [] => ∅
  | (call, returned) :: earlier =>
      match call, returned with
      | .tryAddPresenceMember channel socketId userId _ _, .added (.ok _) =>
          (attending earlier).insert (channel, socketId) (channel, userId)
      | .removePresenceMember channel socketId _, _ =>
          (attending earlier).erase (channel, socketId)
      | _, _ => attending earlier

/-- A socket joins a channel only when not in it, and leaves it only after
joining, as the same user. -/
def permits (history : List (PresenceCall × PresenceReturned)) :
    PresenceCall → Bool
  | .tryAddPresenceMember channel socketId _ _ _ =>
      (attending history).lookup (channel, socketId) = none
  | .removePresenceMember channel socketId userId =>
      (attending history).lookup (channel, socketId) = some (channel, userId)

def Namespace.answer (ns : Namespace) : PresenceCall → Namespace × PresenceReturned
  | .tryAddPresenceMember channel socketId userId userInfo maxMembers =>
      let (after, outcome) :=
        ns.tryAddPresenceMember channel socketId userId userInfo maxMembers
      (after, .added outcome)
  | .removePresenceMember channel socketId userId =>
      let (after, userGone) := ns.removePresenceMember channel socketId userId
      (after, .removed userGone)

def LocalAdapter.answer (appId : String) (adapter : LocalAdapter) :
    PresenceCall → LocalAdapter × PresenceReturned
  | .tryAddPresenceMember channel socketId userId userInfo maxMembers =>
      let (after, outcome) := adapter.tryAddPresenceMember appId channel socketId userId
        userInfo maxMembers
      (after, .added outcome)
  | .removePresenceMember channel socketId userId =>
      let (after, userGone) :=
        adapter.removePresenceMember appId channel socketId userId
      (after, .removed userGone)

end RushSocket.Adapter
