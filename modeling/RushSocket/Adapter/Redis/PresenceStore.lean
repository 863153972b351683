import RushSocket.Adapter.PresenceCalls
import RushSocket.Adapter.Redis.Commands
import RushSocket.Data.Json.Text

namespace RushSocket.Adapter.Redis

open Data

inductive Command where
  | hlen
  | hexists
  | hincrby
  | hset
  | hgetall
  | hdelPresence
  | hdelSockets
  | delPresence
  | delSockets
  deriving DecidableEq

/-- The part of a node that the presence calls reach.  The two kinds of hashes
have keys of their own. -/
structure RedisAdapter where
  locals : LocalAdapter
  presence : Hashes String
  presenceSockets : Hashes Int

namespace RedisAdapter

def new : RedisAdapter where
  locals := .new
  presence := ∅
  presenceSockets := ∅

def setLocals (adapter : RedisAdapter) (locals : LocalAdapter) : RedisAdapter :=
  { adapter with locals }

section

variable (fromStr : String → Option Value) (keyPrefix appId : String)
  (fails : Command → Bool) (adapter : RedisAdapter) (channel : String)

/-- A command that fails changes nothing, and its error is ignored. -/
def changePresence (command : Command) (change : Hashes String → Hashes String) :
    RedisAdapter :=
  if fails command then adapter
  else { adapter with presence := change adapter.presence }

def changeSockets (command : Command) (change : Hashes Int → Hashes Int) :
    RedisAdapter :=
  if fails command then adapter
  else { adapter with presenceSockets := change adapter.presenceSockets }

def incrementSockets (userId : String) (amount : Int) : RedisAdapter × Option Int :=
  if fails .hincrby then (adapter, none)
  else
    let (presenceSockets, count) := adapter.presenceSockets.hincrby
      (presenceSocketsKey keyPrefix appId channel) userId amount
    ({ adapter with presenceSockets }, some count)

def readInfo (text : String) : Value := (fromStr text).getD (.ofJson .null)

def getPresenceMembers : Table String Value :=
  if fails .hgetall then adapter.locals.getPresenceMembers appId channel
  else (adapter.presence.fields (presenceKey keyPrefix appId channel)).mapValues
    (readInfo fromStr)

def getPresenceUserCount : Nat :=
  if fails .hlen then adapter.locals.getPresenceUserCount appId channel
  else adapter.presence.hlen (presenceKey keyPrefix appId channel)

def overLimit (userId : String) (maxMembers : Nat) : Bool :=
  let currentCount :=
    if fails .hlen then 0
    else adapter.presence.hlen (presenceKey keyPrefix appId channel)
  let alreadyExists :=
    !fails .hexists &&
      adapter.presence.hexists (presenceKey keyPrefix appId channel) userId
  !alreadyExists && currentCount ≥ maxMembers

/-- The part of a join after the limit check, up to the snapshot. -/
def countMember (socketId userId : String) (userInfo : Value) : RedisAdapter × Bool :=
  let added := adapter.setLocals
    (adapter.locals.addPresenceMember appId channel socketId userId userInfo).1
  let (incremented, reply) :=
    added.incrementSockets keyPrefix appId fails channel userId 1
  if reply.getD 1 = 1 then
    (incremented.changePresence fails .hset fun presence =>
      presence.hset (presenceKey keyPrefix appId channel) userId userInfo.json.print,
      true)
  else (incremented, false)

def tryAddPresenceMember (socketId userId : String) (userInfo : Value)
    (maxMembers : Nat) : RedisAdapter × Except Unit (Bool × Table String Value) :=
  if adapter.overLimit keyPrefix appId fails channel userId maxMembers then
    (adapter, .error ())
  else
    let (counted, isNew) :=
      adapter.countMember keyPrefix appId fails channel socketId userId userInfo
    (counted, .ok (isNew,
      counted.getPresenceMembers fromStr keyPrefix appId fails channel))

/-- The user leaves both hashes, and the last user takes the keys along. -/
def forgetMember (userId : String) : RedisAdapter :=
  let key := presenceKey keyPrefix appId channel
  let socketsKey := presenceSocketsKey keyPrefix appId channel
  let forgotten := (adapter.changePresence fails .hdelPresence fun presence =>
    presence.hdel key userId).changeSockets fails .hdelSockets fun sockets =>
      sockets.hdel socketsKey userId
  let remaining := if fails .hlen then 1 else forgotten.presence.hlen key
  if remaining = 0 then
    (forgotten.changePresence fails .delPresence fun presence =>
      presence.del key).changeSockets fails .delSockets fun sockets =>
        sockets.del socketsKey
  else forgotten

/-- The part of a leave before the check of the count. -/
def uncountMember (socketId userId : String) : RedisAdapter × Option Int :=
  (adapter.setLocals
    (adapter.locals.removePresenceMember appId channel socketId userId).1).incrementSockets
      keyPrefix appId fails channel userId (-1)

def removePresenceMember (socketId userId : String) : RedisAdapter × Bool :=
  let (uncounted, reply) :=
    adapter.uncountMember keyPrefix appId fails channel socketId userId
  match reply with
  | none => (uncounted, false)
  | some count =>
      if count ≤ 0 then
        (uncounted.forgetMember keyPrefix appId fails channel userId, true)
      else (uncounted, false)

def answer (fails : Command → Bool) (adapter : RedisAdapter) :
    PresenceCall → RedisAdapter × PresenceReturned
  | .tryAddPresenceMember channel socketId userId userInfo maxMembers =>
      let (after, outcome) := adapter.tryAddPresenceMember fromStr keyPrefix appId fails
        channel socketId userId userInfo maxMembers
      (after, .added outcome)
  | .removePresenceMember channel socketId userId =>
      let (after, userGone) := adapter.removePresenceMember keyPrefix appId fails channel
        socketId userId
      (after, .removed userGone)

/-! What the two hashes say of a channel. -/

def membersOf : Table String String :=
  adapter.presence.fields (presenceKey keyPrefix appId channel)

def countOf (userId : String) : Int :=
  adapter.presenceSockets.counter (presenceSocketsKey keyPrefix appId channel) userId

end

variable {fromStr : String → Option Value} {keyPrefix appId : String}
  {fails : Command → Bool} {adapter : RedisAdapter}
  {channel socketId userId : String} {userInfo : Value} {maxMembers : Nat}

@[simp] theorem membersOf_setLocals (locals : LocalAdapter) (other : String) :
    (adapter.setLocals locals).membersOf keyPrefix appId other =
      adapter.membersOf keyPrefix appId other := rfl

@[simp] theorem countOf_setLocals (locals : LocalAdapter) (other user : String) :
    (adapter.setLocals locals).countOf keyPrefix appId other user =
      adapter.countOf keyPrefix appId other user := rfl

@[simp] theorem countOf_changePresence (command : Command)
    (change : Hashes String → Hashes String) (other user : String) :
    (adapter.changePresence fails command change).countOf keyPrefix appId other user =
      adapter.countOf keyPrefix appId other user := by
  unfold changePresence
  split <;> rfl

@[simp] theorem membersOf_changeSockets (command : Command)
    (change : Hashes Int → Hashes Int) (other : String) :
    (adapter.changeSockets fails command change).membersOf keyPrefix appId other =
      adapter.membersOf keyPrefix appId other := by
  unfold changeSockets
  split <;> rfl

theorem membersOf_hset (command : Command) (text other : String) :
    (adapter.changePresence fails command fun presence =>
        presence.hset (presenceKey keyPrefix appId channel) userId text).membersOf
          keyPrefix appId other =
      if fails command = false ∧ other = channel then
        (adapter.membersOf keyPrefix appId channel).insert userId text
      else adapter.membersOf keyPrefix appId other := by
  unfold changePresence
  cases fails command with
  | true => simp
  | false =>
      simp only [Bool.false_eq_true, if_false, true_and, membersOf]
      by_cases same : other = channel
      · rw [same, if_pos rfl, Hashes.fields_hset]
      · rw [if_neg same, Hashes.fields_hset_other (presenceKey_inj.not.mpr same)]

theorem membersOf_hdel (command : Command) (other : String) :
    (adapter.changePresence fails command fun presence =>
        presence.hdel (presenceKey keyPrefix appId channel) userId).membersOf
          keyPrefix appId other =
      if fails command = false ∧ other = channel then
        (adapter.membersOf keyPrefix appId channel).erase userId
      else adapter.membersOf keyPrefix appId other := by
  unfold changePresence
  cases fails command with
  | true => simp
  | false =>
      simp only [Bool.false_eq_true, if_false, true_and, membersOf]
      by_cases same : other = channel
      · rw [same, if_pos rfl, Hashes.fields_hdel]
      · rw [if_neg same, Hashes.fields_hdel_other (presenceKey_inj.not.mpr same)]

theorem membersOf_del (empty : adapter.membersOf keyPrefix appId channel = ∅)
    (command : Command) (other : String) :
    (adapter.changePresence fails command fun presence =>
        presence.del (presenceKey keyPrefix appId channel)).membersOf
          keyPrefix appId other =
      adapter.membersOf keyPrefix appId other := by
  unfold changePresence
  cases fails command with
  | true => simp
  | false =>
      simp only [Bool.false_eq_true, if_false, membersOf]
      by_cases same : other = channel
      · rw [same, Hashes.fields_del]
        exact empty.symm
      · rw [Hashes.fields_del_other (presenceKey_inj.not.mpr same)]

theorem countOf_hincrby (other user : String) (amount : Int) :
    (adapter.incrementSockets keyPrefix appId fails channel userId amount).1.countOf
        keyPrefix appId other user =
      if fails .hincrby = false ∧ other = channel ∧ user = userId then
        adapter.countOf keyPrefix appId channel userId + amount
      else adapter.countOf keyPrefix appId other user := by
  unfold incrementSockets
  cases fails .hincrby with
  | true => simp
  | false =>
      simp only [Bool.false_eq_true, if_false, true_and, countOf]
      by_cases same : other = channel
      · subst same
        rw [Hashes.counter_hincrby]
        by_cases here : user = userId
        · simp [here]
        · simp [here]
      · rw [if_neg fun both => same both.1]
        exact congrArg (fun fields => (Finmap.lookup user fields).getD 0)
          (Hashes.fields_hset_other (presenceSocketsKey_inj.not.mpr same) _ _)

theorem countOf_hdel (command : Command) (other user : String) :
    (adapter.changeSockets fails command fun sockets =>
        sockets.hdel (presenceSocketsKey keyPrefix appId channel) userId).countOf
          keyPrefix appId other user =
      if fails command = false ∧ other = channel ∧ user = userId then 0
      else adapter.countOf keyPrefix appId other user := by
  unfold changeSockets
  cases fails command with
  | true => simp
  | false =>
      simp only [Bool.false_eq_true, if_false, true_and, countOf]
      by_cases same : other = channel
      · subst same
        rw [Hashes.counter_hdel]
        simp
      · rw [if_neg fun both => same both.1]
        exact congrArg (fun fields => (Finmap.lookup user fields).getD 0)
          (Hashes.fields_hdel_other (presenceSocketsKey_inj.not.mpr same) _)

theorem countOf_del (command : Command) (other user : String) :
    (adapter.changeSockets fails command fun sockets =>
        sockets.del (presenceSocketsKey keyPrefix appId channel)).countOf
          keyPrefix appId other user =
      if fails command = false ∧ other = channel then 0
      else adapter.countOf keyPrefix appId other user := by
  unfold changeSockets
  cases fails command with
  | true => simp
  | false =>
      simp only [Bool.false_eq_true, if_false, true_and, countOf]
      by_cases same : other = channel
      · subst same
        rw [Hashes.counter_del, if_pos rfl]
      · rw [if_neg same]
        exact congrArg (fun fields => (Finmap.lookup user fields).getD 0)
          (Hashes.fields_del_other (presenceSocketsKey_inj.not.mpr same))

/-! What a join does to the two hashes. -/

theorem countMember_snd :
    (adapter.countMember keyPrefix appId fails channel socketId userId userInfo).2 =
      (fails .hincrby || adapter.countOf keyPrefix appId channel userId = 0) := by
  unfold countMember incrementSockets
  cases fails .hincrby with
  | true => rfl
  | false =>
      have reply : (adapter.setLocals (adapter.locals.addPresenceMember appId channel
          socketId userId userInfo).1).presenceSockets.counter
            (presenceSocketsKey keyPrefix appId channel) userId =
          adapter.countOf keyPrefix appId channel userId := rfl
      simp only [Bool.false_eq_true, if_false, Option.getD_some, Hashes.hincrby, reply,
        Bool.false_or]
      split
      · rename_i first
        exact (decide_eq_true (by omega)).symm
      · rename_i later
        exact (decide_eq_false (by omega)).symm

theorem countOf_countMember (other user : String) :
    (adapter.countMember keyPrefix appId fails channel socketId userId
        userInfo).1.countOf keyPrefix appId other user =
      if fails .hincrby = false ∧ other = channel ∧ user = userId then
        adapter.countOf keyPrefix appId channel userId + 1
      else adapter.countOf keyPrefix appId other user := by
  simp only [countMember]
  split
  · rw [countOf_changePresence, countOf_hincrby]
    rfl
  · rw [countOf_hincrby]
    rfl

theorem membersOf_incrementSockets (other : String) (amount : Int) :
    (adapter.incrementSockets keyPrefix appId fails channel userId amount).1.membersOf
        keyPrefix appId other =
      adapter.membersOf keyPrefix appId other := by
  unfold incrementSockets
  split <;> rfl

theorem membersOf_countMember (other : String) :
    (adapter.countMember keyPrefix appId fails channel socketId userId
        userInfo).1.membersOf keyPrefix appId other =
      if (adapter.countMember keyPrefix appId fails channel socketId userId
          userInfo).2 = true ∧ fails .hset = false ∧ other = channel then
        (adapter.membersOf keyPrefix appId channel).insert userId userInfo.json.print
      else adapter.membersOf keyPrefix appId other := by
  simp only [countMember]
  split
  · simp only [membersOf_hset, membersOf_incrementSockets, membersOf_setLocals, true_and]
  · simp only [membersOf_incrementSockets, membersOf_setLocals, Bool.false_eq_true,
      false_and, if_false]

/-! What a leave does to them. -/

theorem remaining_eq_zero (count : Nat) :
    (if fails .hlen then 1 else count) = 0 ↔ fails .hlen = false ∧ count = 0 := by
  cases fails .hlen <;> simp

theorem membersOf_eq_empty :
    adapter.presence.hlen (presenceKey keyPrefix appId channel) = 0 ↔
      adapter.membersOf keyPrefix appId channel = ∅ :=
  Finset.card_eq_zero.trans Table.keys_eq_empty_iff

theorem membersOf_forgetMember (other : String) :
    (adapter.forgetMember keyPrefix appId fails channel userId).membersOf
        keyPrefix appId other =
      if fails .hdelPresence = false ∧ other = channel then
        (adapter.membersOf keyPrefix appId channel).erase userId
      else adapter.membersOf keyPrefix appId other := by
  simp only [forgetMember, remaining_eq_zero, membersOf_eq_empty]
  split
  · rename_i emptied
    rw [membersOf_changeSockets, membersOf_del emptied.2, membersOf_changeSockets,
      membersOf_hdel]
  · rw [membersOf_changeSockets, membersOf_hdel]

/-- Either the hash of the users has become empty, or the counts of the other
users are left alone. -/
theorem countOf_forgetMember (other user : String) :
    (adapter.forgetMember keyPrefix appId fails channel userId).countOf
        keyPrefix appId other user =
      if other = channel ∧ user = userId ∧ fails .hdelSockets = false then 0
      else if other = channel ∧ fails .hlen = false ∧ fails .delSockets = false ∧
          (adapter.forgetMember keyPrefix appId fails channel userId).membersOf
            keyPrefix appId channel = ∅ then 0
      else adapter.countOf keyPrefix appId other user := by
  have emptied := @membersOf_forgetMember keyPrefix appId fails adapter channel userId
    channel
  simp only [and_true] at emptied
  rw [emptied]
  simp only [forgetMember, remaining_eq_zero, membersOf_eq_empty,
    membersOf_changeSockets, membersOf_hdel, and_true]
  generalize (if fails .hdelPresence = false then
    Finmap.erase userId (adapter.membersOf keyPrefix appId channel)
    else adapter.membersOf keyPrefix appId channel) = remaining
  split
  · rename_i deleted
    rw [countOf_del, countOf_changePresence, countOf_hdel, countOf_changePresence]
    grind
  · rename_i kept
    rw [countOf_hdel, countOf_changePresence]
    grind

theorem countOf_uncountMember (other user : String) :
    (adapter.uncountMember keyPrefix appId fails channel socketId userId).1.countOf
        keyPrefix appId other user =
      if fails .hincrby = false ∧ other = channel ∧ user = userId then
        adapter.countOf keyPrefix appId channel userId - 1
      else adapter.countOf keyPrefix appId other user := by
  rw [uncountMember, countOf_hincrby]
  rfl

theorem membersOf_uncountMember (other : String) :
    (adapter.uncountMember keyPrefix appId fails channel socketId userId).1.membersOf
        keyPrefix appId other =
      adapter.membersOf keyPrefix appId other := by
  rw [uncountMember, membersOf_incrementSockets, membersOf_setLocals]

theorem removePresenceMember_of_failed (failed : fails .hincrby = true) :
    adapter.removePresenceMember keyPrefix appId fails channel socketId userId =
      ((adapter.uncountMember keyPrefix appId fails channel socketId userId).1,
        false) := by
  simp [removePresenceMember, uncountMember, incrementSockets, failed]

theorem removePresenceMember_of_counted (counted : fails .hincrby = false) :
    adapter.removePresenceMember keyPrefix appId fails channel socketId userId =
      if adapter.countOf keyPrefix appId channel userId ≤ 1 then
        ((adapter.uncountMember keyPrefix appId fails channel socketId
          userId).1.forgetMember keyPrefix appId fails channel userId, true)
      else
        ((adapter.uncountMember keyPrefix appId fails channel socketId userId).1,
          false) := by
  have reply : (adapter.uncountMember keyPrefix appId fails channel socketId userId).2 =
      some (adapter.countOf keyPrefix appId channel userId - 1) := by
    simp only [uncountMember, incrementSockets, counted, Bool.false_eq_true, if_false]
    rfl
  simp only [removePresenceMember, reply]
  have last : adapter.countOf keyPrefix appId channel userId - 1 ≤ 0 ↔
      adapter.countOf keyPrefix appId channel userId ≤ 1 := by omega
  simp only [last]

end RedisAdapter

end RushSocket.Adapter.Redis
