import RushSocket.Adapter.Local
import RushSocket.Adapter.Redis.Commands
import RushSocket.Data.Json.Text
import RushSocket.Transition.Calls

namespace RushSocket.Adapter.Redis.Presence

open Data Transition

/-! Presence across nodes.  The users of a channel are the fields of one hash
and the numbers of their sockets the fields of another; each command is one
step, and a node holds its command connection for the length of a call. -/

structure Cluster where
  locals : Table String LocalAdapter
  presence : Hashes String
  sockets : Hashes Int

def Cluster.localOf (cluster : Cluster) (node : String) : LocalAdapter :=
  (cluster.locals.lookup node).getD .new

def Cluster.setLocal (cluster : Cluster) (node : String) (adapter : LocalAdapter) :
    Cluster :=
  { cluster with locals := cluster.locals.insert node adapter }

def Cluster.setPresence (cluster : Cluster) (presence : Hashes String) : Cluster :=
  { cluster with presence }

def Cluster.setSockets (cluster : Cluster) (sockets : Hashes Int) : Cluster :=
  { cluster with sockets }

def Cluster.empty : Cluster where
  locals := ∅
  presence := ∅
  sockets := ∅

inductive Operation where
  | tryAddPresenceMember (socketId userId : String) (userInfo : Value)
      (maxMembers : Nat)
  | removePresenceMember (socketId userId : String)

inductive Point where
  | hlen
  | hexists (currentCount : Nat)
  | localAdd
  | increment
  | hset
  | hgetall (isNew : Bool)
  | localRemove
  | decrement
  | hdelPresence
  | hdelSockets
  | remaining
  | delPresence
  | delSockets

inductive Returned where
  | added (outcome : Except Unit (Bool × Table String Value))
  | removed (userGone : Bool)

def enter : Operation → Point
  | .tryAddPresenceMember _ _ _ _ => .hlen
  | .removePresenceMember _ _ => .localRemove

section

variable (readFloat : DecimalText → Option DecimalText)
  (keyPrefix appId channel : String)

def readInfo (text : String) : Value :=
  ((Json.parse readFloat text).map Value.ofJson).getD (.ofJson .null)

def advance (cluster : Cluster) (node : String) :
    Operation → Point → Unit → Option (Cluster × Progress Point Returned)
  | .tryAddPresenceMember _ _ _ _, .hlen, _ =>
      some (cluster, .running
        (.hexists (cluster.presence.hlen (presenceKey keyPrefix appId channel))))
  | .tryAddPresenceMember _ userId _ maxMembers, .hexists currentCount, _ =>
      if !cluster.presence.hexists (presenceKey keyPrefix appId channel) userId &&
          currentCount ≥ maxMembers then
        some (cluster, .finished (.added (.error ())))
      else some (cluster, .running .localAdd)
  | .tryAddPresenceMember socketId userId userInfo _, .localAdd, _ =>
      some (cluster.setLocal node ((cluster.localOf node).addPresenceMember appId
        channel socketId userId userInfo).1, .running .increment)
  | .tryAddPresenceMember _ userId _ _, .increment, _ =>
      let (sockets, count) := cluster.sockets.hincrby
        (presenceSocketsKey keyPrefix appId channel) userId 1
      some (cluster.setSockets sockets,
        .running (if count = 1 then .hset else .hgetall false))
  | .tryAddPresenceMember _ userId userInfo _, .hset, _ =>
      some (cluster.setPresence (cluster.presence.hset
          (presenceKey keyPrefix appId channel) userId userInfo.json.print),
        .running (.hgetall true))
  | .tryAddPresenceMember _ _ _ _, .hgetall isNew, _ =>
      some (cluster, .finished (.added (.ok (isNew,
        (cluster.presence.fields (presenceKey keyPrefix appId channel)).mapValues
          (readInfo readFloat)))))
  | .removePresenceMember socketId userId, .localRemove, _ =>
      some (cluster.setLocal node ((cluster.localOf node).removePresenceMember appId
        channel socketId userId).1, .running .decrement)
  | .removePresenceMember _ userId, .decrement, _ =>
      let (sockets, count) := cluster.sockets.hincrby
        (presenceSocketsKey keyPrefix appId channel) userId (-1)
      some (cluster.setSockets sockets,
        if count ≤ 0 then .running .hdelPresence else .finished (.removed false))
  | .removePresenceMember _ userId, .hdelPresence, _ =>
      some (cluster.setPresence (cluster.presence.hdel
          (presenceKey keyPrefix appId channel) userId), .running .hdelSockets)
  | .removePresenceMember _ userId, .hdelSockets, _ =>
      some (cluster.setSockets (cluster.sockets.hdel
          (presenceSocketsKey keyPrefix appId channel) userId), .running .remaining)
  | .removePresenceMember _ _, .remaining, _ =>
      some (cluster,
        if cluster.presence.hlen (presenceKey keyPrefix appId channel) = 0 then
          .running .delPresence
        else .finished (.removed true))
  | .removePresenceMember _ _, .delPresence, _ =>
      some (cluster.setPresence (cluster.presence.del
          (presenceKey keyPrefix appId channel)), .running .delSockets)
  | .removePresenceMember _ _, .delSockets, _ =>
      some (cluster.setSockets (cluster.sockets.del
          (presenceSocketsKey keyPrefix appId channel)), .finished (.removed true))
  | _, _, _ => none

def code : Code Cluster String Operation Point Unit Returned where
  enter := enter
  advance := advance readFloat keyPrefix appId channel

end

abbrev State := Calls Cluster String Operation Point Returned
abbrev Action := CallAction String Operation Unit

def joinedSockets : List (Finished String Operation Returned) →
    Table (String × String) String
  | [] => ∅
  | done :: earlier =>
      match done.operation, done.result with
      | .tryAddPresenceMember socketId userId _ _, .added (.ok _) =>
          (joinedSockets earlier).insert (done.caller, socketId) userId
      | .removePresenceMember socketId _, _ =>
          (joinedSockets earlier).erase (done.caller, socketId)
      | _, _ => joinedSockets earlier

/-- A socket joins only when not a member and leaves only after joining, as the
same user. -/
def permits (log : List (Finished String Operation Returned)) (node : String) :
    Operation → Bool
  | .tryAddPresenceMember socketId _ _ _ =>
      (joinedSockets log).lookup (node, socketId) = none
  | .removePresenceMember socketId userId =>
      (joinedSockets log).lookup (node, socketId) = some userId

def system (readFloat : DecimalText → Option DecimalText)
    (keyPrefix appId channel : String) : System State Action :=
  Calls.system (code readFloat keyPrefix appId channel) permits .empty

section

variable (keyPrefix appId channel : String)

/-- The hash of users and the counts of sockets say what the log says. -/
def Exact (state : State) : Prop :=
  ∀ userId,
    state.shared.sockets.counter (presenceSocketsKey keyPrefix appId channel) userId =
        ((joinedSockets state.log).occurrences userId : Int) ∧
      (userId ∈ state.shared.presence.fields (presenceKey keyPrefix appId channel) ↔
        0 < (joinedSockets state.log).occurrences userId)

/-- The user that a call has still to store. -/
def stores : Option (Operation × Point) → Option String
  | some (.tryAddPresenceMember _ userId _ _, .hset) => some userId
  | _ => none

/-- Some join of the user has still to store it. -/
def Storing (state : State) (userId : String) : Prop :=
  ∃ node ∈ state.calls.keys, stores (state.calls.lookup node) = some userId

/-- No socket of the user is counted, or some join has still to store it. -/
def Deletable (state : State) (userId : String) : Prop :=
  state.shared.sockets.counter (presenceSocketsKey keyPrefix appId channel) userId ≤ 0 ∨
    Storing state userId

def usersDeleted (present : Finset String) : Option (Operation × Point) → Finset String
  | some (.removePresenceMember _ userId, .hdelPresence) => {userId}
  | some (.removePresenceMember _ _, .delPresence) => present
  | _ => ∅

def countsDeleted (counts : Finset String) : Option (Operation × Point) → Finset String
  | some (.removePresenceMember _ userId, .hdelSockets) => {userId}
  | some (.removePresenceMember _ _, .delSockets) => counts
  | _ => ∅

/-- Every deletion of a leave hits only what has become unused. -/
def DeletesUnused (state : State) : Action → Prop
  | .begin _ _ => True
  | .advance node _ =>
      (∀ userId ∈ usersDeleted (state.shared.presence.fields
          (presenceKey keyPrefix appId channel)).keys (state.calls.lookup node),
        Deletable keyPrefix appId channel state userId) ∧
      ∀ userId ∈ countsDeleted (state.shared.sockets.fields
          (presenceSocketsKey keyPrefix appId channel)).keys (state.calls.lookup node),
        state.shared.sockets.counter
          (presenceSocketsKey keyPrefix appId channel) userId ≤ 0

/-! The invariant.  A socket counts from the increment of its join to the
decrement of its leave, which its call reaches before the log records it. -/

/-- What the counter step of a call in progress has made of its socket. -/
def settledSocket : Option (Operation × Point) → Option (String × Option String)
  | some (.tryAddPresenceMember socketId userId _ _, .hset)
  | some (.tryAddPresenceMember socketId userId _ _, .hgetall _) =>
      some (socketId, some userId)
  | some (.removePresenceMember socketId _, .hdelPresence)
  | some (.removePresenceMember socketId _, .hdelSockets)
  | some (.removePresenceMember socketId _, .remaining)
  | some (.removePresenceMember socketId _, .delPresence)
  | some (.removePresenceMember socketId _, .delSockets) => some (socketId, none)
  | _ => none

def standing (call : Option (Operation × Point)) (socketId : String)
    (logged : Option String) : Option String :=
  match settledSocket call with
  | some (moved, now) => if socketId = moved then now else logged
  | none => logged

def removes : Option (Operation × Point) → Option String
  | some (.removePresenceMember _ userId, .hdelPresence) => some userId
  | _ => none

/-- The table lists the sockets that count, with their users. -/
structure Inv (state : State) (counting : Table (String × String) String) :
    Prop where
  effective : ∀ node socketId, counting.lookup (node, socketId) =
    standing (state.calls.lookup node) socketId
      ((joinedSockets state.log).lookup (node, socketId))
  counted : ∀ userId, state.shared.sockets.counter
    (presenceSocketsKey keyPrefix appId channel) userId =
      (counting.occurrences userId : Int)
  present : ∀ userId, userId ∈ state.shared.presence.fields
      (presenceKey keyPrefix appId channel) →
    0 < counting.occurrences userId ∨
      ∃ node, removes (state.calls.lookup node) = some userId
  recorded : ∀ userId, 0 < counting.occurrences userId →
    userId ∈ state.shared.presence.fields (presenceKey keyPrefix appId channel) ∨
      ∃ node, stores (state.calls.lookup node) = some userId
  permitted : ∀ node operation point,
    state.calls.lookup node = some (operation, point) →
      permits state.log node operation = true

def Holds (state : State) : Prop := ∃ counting, Inv keyPrefix appId channel state counting

variable {keyPrefix appId channel}
variable {state : State} {node : String} {operation : Operation} {point : Point}
  {cluster : Cluster} {progress : Progress Point Returned}
  {counting after : Table (String × String) String}

theorem lookup_joinedSockets_settle_other {other : String} (different : other ≠ node)
    (socketId : String) :
    (joinedSockets (state.settle node operation cluster progress).log).lookup
        (other, socketId) =
      (joinedSockets state.log).lookup (other, socketId) := by
  have distinct : ∀ mine, (other, socketId) ≠ (node, mine) := by
    intro mine equal
    exact different (congrArg Prod.fst equal)
  cases progress with
  | running point => rfl
  | finished returned =>
      simp only [Calls.settle, joinedSockets]
      split
      · rw [Table.lookup_put, if_neg (distinct _)]
      · rw [Table.lookup_drop, if_neg (distinct _)]
      · rfl

theorem permits_settle_other {other : String} (different : other ≠ node)
    (their : Operation) :
    permits (state.settle node operation cluster progress).log other their =
      permits state.log other their := by
  cases their <;>
    simp only [permits, lookup_joinedSockets_settle_other different]

theorem Inv.settle (inv : Inv keyPrefix appId channel state counting)
    (found : state.calls.lookup node = some (operation, point))
    (own : ∀ socketId, after.lookup (node, socketId) =
      standing (progress.call operation) socketId
        ((joinedSockets (state.settle node operation cluster progress).log).lookup
          (node, socketId)))
    (others : ∀ other socketId, other ≠ node →
      after.lookup (other, socketId) = counting.lookup (other, socketId))
    (counted : ∀ userId, cluster.sockets.counter
      (presenceSocketsKey keyPrefix appId channel) userId =
        (after.occurrences userId : Int))
    (present : ∀ userId, userId ∈ cluster.presence.fields
        (presenceKey keyPrefix appId channel) →
      0 < after.occurrences userId ∨ removes (progress.call operation) = some userId ∨
        ∃ other, other ≠ node ∧ removes (state.calls.lookup other) = some userId)
    (recorded : ∀ userId, 0 < after.occurrences userId →
      userId ∈ cluster.presence.fields (presenceKey keyPrefix appId channel) ∨
        stores (progress.call operation) = some userId ∨
        ∃ other, other ≠ node ∧ stores (state.calls.lookup other) = some userId) :
    Inv keyPrefix appId channel (state.settle node operation cluster progress)
      after where
  effective := by
    intro other socketId
    rw [Calls.lookup_settle]
    by_cases same : other = node
    · subst same
      rw [if_pos rfl]
      exact own socketId
    · rw [if_neg same, lookup_joinedSockets_settle_other same,
        others other socketId same]
      exact inv.effective other socketId
  counted := by
    rw [Calls.settle_shared]
    exact counted
  present := by
    rw [Calls.settle_shared]
    intro userId member
    rcases present userId member with positive | mine | ⟨other, different, theirs⟩
    · exact .inl positive
    · exact .inr ⟨node, by rw [Calls.lookup_settle, if_pos rfl, mine]⟩
    · exact .inr ⟨other, by rw [Calls.lookup_settle, if_neg different, theirs]⟩
  recorded := by
    rw [Calls.settle_shared]
    intro userId positive
    rcases recorded userId positive with member | mine | ⟨other, different, theirs⟩
    · exact .inl member
    · exact .inr ⟨node, by rw [Calls.lookup_settle, if_pos rfl, mine]⟩
    · exact .inr ⟨other, by rw [Calls.lookup_settle, if_neg different, theirs]⟩
  permitted := by
    intro other their at_ calling
    rw [Calls.lookup_settle] at calling
    by_cases same : other = node
    · subst same
      rw [if_pos rfl] at calling
      cases progress with
      | running next =>
          cases calling
          exact inv.permitted other operation point found
      | finished returned => cases calling
    · rw [if_neg same] at calling
      rw [permits_settle_other same]
      exact inv.permitted other their at_ calling

theorem Inv.presentElsewhere (inv : Inv keyPrefix appId channel state counting)
    (found : state.calls.lookup node = some (operation, point)) {userId : String}
    (member : userId ∈ state.shared.presence.fields
      (presenceKey keyPrefix appId channel)) :
    0 < counting.occurrences userId ∨ removes (some (operation, point)) = some userId ∨
      ∃ other, other ≠ node ∧ removes (state.calls.lookup other) = some userId := by
  rcases inv.present userId member with positive | ⟨other, removing⟩
  · exact .inl positive
  · by_cases same : other = node
    · rw [same, found] at removing
      exact .inr (.inl removing)
    · exact .inr (.inr ⟨other, same, removing⟩)

theorem Inv.recordedElsewhere (inv : Inv keyPrefix appId channel state counting)
    (found : state.calls.lookup node = some (operation, point)) {userId : String}
    (positive : 0 < counting.occurrences userId) :
    userId ∈ state.shared.presence.fields (presenceKey keyPrefix appId channel) ∨
      stores (some (operation, point)) = some userId ∨
      ∃ other, other ≠ node ∧ stores (state.calls.lookup other) = some userId := by
  rcases inv.recorded userId positive with member | ⟨other, storing⟩
  · exact .inl member
  · by_cases same : other = node
    · rw [same, found] at storing
      exact .inr (.inl storing)
    · exact .inr (.inr ⟨other, same, storing⟩)

theorem Inv.pass (inv : Inv keyPrefix appId channel state counting)
    (found : state.calls.lookup node = some (operation, point))
    (same : ∀ socketId, standing (some (operation, point)) socketId
        ((joinedSockets state.log).lookup (node, socketId)) =
      standing (progress.call operation) socketId
        ((joinedSockets (state.settle node operation cluster progress).log).lookup
          (node, socketId)))
    (presence : cluster.presence = state.shared.presence)
    (sockets : cluster.sockets = state.shared.sockets)
    (removing : removes (some (operation, point)) = none)
    (storing : stores (some (operation, point)) = none) :
    Inv keyPrefix appId channel (state.settle node operation cluster progress)
      counting := by
  refine inv.settle found ?_ (fun _ _ _ => rfl) ?_ ?_ ?_
  · intro socketId
    rw [inv.effective node socketId, found]
    exact same socketId
  · rw [sockets]
    exact inv.counted
  · intro userId member
    rw [presence] at member
    rcases inv.presentElsewhere found member with positive | mine | theirs
    · exact .inl positive
    · rw [removing] at mine
      cases mine
    · exact .inr (.inr theirs)
  · intro userId positive
    rw [presence]
    rcases inv.recordedElsewhere found positive with member | mine | theirs
    · exact .inl member
    · rw [storing] at mine
      cases mine
    · exact .inr (.inr theirs)

theorem Inv.logged_join (inv : Inv keyPrefix appId channel state counting)
    {socketId userId : String} {userInfo : Value} {maxMembers : Nat}
    (found : state.calls.lookup node =
      some (.tryAddPresenceMember socketId userId userInfo maxMembers, point)) :
    (joinedSockets state.log).lookup (node, socketId) = none := by
  have permitted := inv.permitted node _ point found
  simpa [permits] using permitted

theorem Inv.logged_leave (inv : Inv keyPrefix appId channel state counting)
    {socketId userId : String}
    (found : state.calls.lookup node =
      some (.removePresenceMember socketId userId, point)) :
    (joinedSockets state.log).lookup (node, socketId) = some userId := by
  have permitted := inv.permitted node _ point found
  simpa [permits] using permitted

theorem Inv.increment {socketId userId : String} {userInfo : Value}
    {maxMembers : Nat} (inv : Inv keyPrefix appId channel state counting)
    (found : state.calls.lookup node =
      some (.tryAddPresenceMember socketId userId userInfo maxMembers, .increment)) :
    Inv keyPrefix appId channel
      (state.settle node
        (.tryAddPresenceMember socketId userId userInfo maxMembers)
        (state.shared.setSockets (state.shared.sockets.hincrby
          (presenceSocketsKey keyPrefix appId channel) userId 1).1)
        (.running (if (state.shared.sockets.hincrby
            (presenceSocketsKey keyPrefix appId channel) userId 1).2 = 1 then .hset
          else .hgetall false)))
      (counting.insert (node, socketId) userId) := by
  have absent : counting.lookup (node, socketId) = none := by
    rw [inv.effective, found]
    exact inv.logged_join found
  have count := inv.counted userId
  refine inv.settle found ?_ ?_ ?_ ?_ ?_
  · intro other
    have before := inv.effective node other
    rw [found] at before
    rw [Table.lookup_put]
    by_cases same : other = socketId
    · subst same
      rw [if_pos rfl]
      split <;> simp [standing, Progress.call, settledSocket]
    · rw [if_neg (by simp [same]), before]
      split <;> simp [standing, Progress.call, settledSocket, same, Calls.settle]
  · intro other theirs different
    rw [Table.lookup_put, if_neg (by simp [different])]
  · intro other
    simp only [Cluster.setSockets]
    rw [Hashes.counter_hincrby, inv.counted other, Table.occurrences_put absent]
    by_cases same : other = userId
    · simp [same]
    · simp [same]
  · intro other member
    rw [Table.occurrences_put absent]
    rcases inv.presentElsewhere found member with positive | mine | theirs
    · exact .inl (Nat.add_pos_left positive _)
    · cases mine
    · exact .inr (.inr theirs)
  · intro other positive
    rw [Table.occurrences_put absent] at positive
    by_cases before : 0 < counting.occurrences other
    · rcases inv.recordedElsewhere found before with member | mine | theirs
      · exact .inl member
      · cases mine
      · exact .inr (.inr theirs)
    · -- the first socket of the user, so this call goes on to store it
      have same : other = userId := by
        by_contra different
        rw [if_neg different] at positive
        exact before positive
      subst same
      have first : (state.shared.sockets.hincrby
          (presenceSocketsKey keyPrefix appId channel) other 1).2 = 1 := by
        simp only [Hashes.hincrby, count]
        omega
      exact .inr (.inl (by simp [Progress.call, first, stores]))

theorem Inv.hset {socketId userId : String} {userInfo : Value}
    {maxMembers : Nat} {text : String}
    (inv : Inv keyPrefix appId channel state counting)
    (found : state.calls.lookup node =
      some (.tryAddPresenceMember socketId userId userInfo maxMembers, .hset)) :
    Inv keyPrefix appId channel
      (state.settle node
        (.tryAddPresenceMember socketId userId userInfo maxMembers)
        (state.shared.setPresence (state.shared.presence.hset
          (presenceKey keyPrefix appId channel) userId text))
        (.running (.hgetall true)))
      counting := by
  have mine : 0 < counting.occurrences userId := by
    have listed : counting.lookup (node, socketId) = some userId := by
      rw [inv.effective, found]
      simp [standing, settledSocket]
    exact Table.occurrences_pos listed
  have stored : ∀ other, other ∈ (state.shared.presence.hset
      (presenceKey keyPrefix appId channel) userId text).fields
        (presenceKey keyPrefix appId channel) ↔
      other = userId ∨ other ∈ state.shared.presence.fields
        (presenceKey keyPrefix appId channel) := by
    intro other
    rw [Hashes.fields_hset, Finmap.mem_insert]
  refine inv.settle found ?_ (fun _ _ _ => rfl) inv.counted ?_ ?_
  · intro other
    rw [inv.effective node other, found]
    rfl
  · intro other member
    rcases (stored other).mp member with rfl | before
    · exact .inl mine
    · rcases inv.presentElsewhere found before with positive | removing | theirs
      · exact .inl positive
      · cases removing
      · exact .inr (.inr theirs)
  · intro other positive
    rcases inv.recordedElsewhere found positive with member | storing | theirs
    · exact .inl ((stored other).mpr (.inr member))
    · exact .inl ((stored other).mpr (.inl (Option.some.inj storing).symm))
    · exact .inr (.inr theirs)

theorem Inv.decrement {socketId userId : String}
    (inv : Inv keyPrefix appId channel state counting)
    (found : state.calls.lookup node =
      some (.removePresenceMember socketId userId, .decrement)) :
    Inv keyPrefix appId channel
      (state.settle node (.removePresenceMember socketId userId)
        (state.shared.setSockets (state.shared.sockets.hincrby
          (presenceSocketsKey keyPrefix appId channel) userId (-1)).1)
        (if (state.shared.sockets.hincrby
            (presenceSocketsKey keyPrefix appId channel) userId (-1)).2 ≤ 0 then
          .running .hdelPresence
        else .finished (.removed false)))
      (counting.erase (node, socketId)) := by
  have member : counting.lookup (node, socketId) = some userId := by
    rw [inv.effective, found]
    exact inv.logged_leave found
  have count := inv.counted userId
  have dropped := Table.occurrences_drop member
  refine inv.settle found ?_ ?_ ?_ ?_ ?_
  · intro other
    have before := inv.effective node other
    rw [found] at before
    rw [Table.lookup_drop]
    by_cases same : other = socketId
    · subst same
      rw [if_pos rfl]
      split
      · simp [standing, Progress.call, settledSocket]
      · simp [standing, Progress.call, settledSocket, Calls.settle,
          joinedSockets]
    · rw [if_neg (by simp [same]), before]
      split
      · simp [standing, Progress.call, settledSocket, same, Calls.settle]
      · simp [standing, Progress.call, settledSocket, same, Calls.settle,
          joinedSockets]
  · intro other theirs different
    rw [Table.lookup_drop, if_neg (by simp [different])]
  · intro other
    have before := dropped other
    simp only [Cluster.setSockets]
    rw [Hashes.counter_hincrby, inv.counted other, before]
    by_cases same : other = userId
    · simp [same]
    · simp [same]
  · intro other inHash
    have before := dropped other
    rcases inv.presentElsewhere found inHash with positive | removing | theirs
    · by_cases still : 0 < Table.occurrences (counting.erase (node, socketId)) other
      · exact .inl still
      · -- the last socket of the user, so this call goes on to remove it
        have same : other = userId := by
          by_contra different
          rw [if_neg different] at before
          omega
        subst same
        rw [if_pos rfl] at before
        have last : (state.shared.sockets.hincrby
            (presenceSocketsKey keyPrefix appId channel) other (-1)).2 ≤ 0 := by
          simp only [Hashes.hincrby, count]
          omega
        exact .inr (.inl (by simp [Progress.call, last, removes]))
    · cases removing
    · exact .inr (.inr theirs)
  · intro other positive
    have before := dropped other
    have earlier : 0 < counting.occurrences other := by omega
    rcases inv.recordedElsewhere found earlier with inHash | storing | theirs
    · exact .inl inHash
    · cases storing
    · exact .inr (.inr theirs)

theorem Inv.not_positive_of_deletable
    (inv : Inv keyPrefix appId channel state counting) {userId : String}
    (unused : state.shared.sockets.counter
      (presenceSocketsKey keyPrefix appId channel) userId ≤ 0) :
    ¬ 0 < counting.occurrences userId := by
  rw [inv.counted] at unused
  omega

/-- Removing users that may be deleted from the hash loses nobody. -/
theorem Inv.shrink {socketId userId : String} {next : Point}
    {presence : Hashes String}
    (inv : Inv keyPrefix appId channel state counting)
    (found : state.calls.lookup node =
      some (.removePresenceMember socketId userId, point))
    (sameCount : settledSocket (some (.removePresenceMember socketId userId, point)) =
      settledSocket (some (.removePresenceMember socketId userId, next)))
    (smaller : ∀ other, other ∈ presence.fields (presenceKey keyPrefix appId channel) →
      other ∈ state.shared.presence.fields (presenceKey keyPrefix appId channel) ∧
        removes (some (.removePresenceMember socketId userId, point)) ≠ some other)
    (deletable : ∀ other,
      other ∈ state.shared.presence.fields (presenceKey keyPrefix appId channel) →
      other ∉ presence.fields (presenceKey keyPrefix appId channel) →
        Deletable keyPrefix appId channel state other) :
    Inv keyPrefix appId channel
      (state.settle node (.removePresenceMember socketId userId)
        (state.shared.setPresence presence) (.running next))
      counting := by
  have notStoring : ∀ other,
      stores (some (.removePresenceMember socketId userId, point)) ≠ some other := by
    intro other storing
    cases storing
  refine inv.settle found ?_ (fun _ _ _ => rfl) inv.counted ?_ ?_
  · intro other
    rw [inv.effective node other, found]
    simp only [standing, sameCount, Progress.call]
    rfl
  · intro other member
    obtain ⟨before, notMine⟩ := smaller other member
    rcases inv.presentElsewhere found before with positive | removing | theirs
    · exact .inl positive
    · exact absurd removing notMine
    · exact .inr (.inr theirs)
  · intro other positive
    rcases inv.recordedElsewhere found positive with before | storing | theirs
    · by_cases kept : other ∈ presence.fields (presenceKey keyPrefix appId channel)
      · exact .inl kept
      · rcases deletable other before kept with unused | ⟨storer, _, storing⟩
        · exact absurd positive (inv.not_positive_of_deletable unused)
        · refine .inr (.inr ⟨storer, ?_, storing⟩)
          rintro rfl
          rw [found] at storing
          exact notStoring other storing
    · exact absurd storing (notStoring other)
    · exact .inr (.inr theirs)

theorem Inv.clear {socketId userId : String} {sockets : Hashes Int}
    (inv : Inv keyPrefix appId channel state counting)
    (found : state.calls.lookup node =
      some (.removePresenceMember socketId userId, point))
    (same : ∀ other, standing (some (.removePresenceMember socketId userId, point))
        other ((joinedSockets state.log).lookup (node, other)) =
      standing (progress.call (.removePresenceMember socketId userId)) other
        ((joinedSockets (state.settle node (.removePresenceMember socketId userId)
          (state.shared.setSockets sockets) progress).log).lookup (node, other)))
    (removing : removes (some (.removePresenceMember socketId userId, point)) = none)
    (unchanged : ∀ other, sockets.counter
        (presenceSocketsKey keyPrefix appId channel) other =
      state.shared.sockets.counter
        (presenceSocketsKey keyPrefix appId channel) other) :
    Inv keyPrefix appId channel
      (state.settle node (.removePresenceMember socketId userId)
        (state.shared.setSockets sockets) progress)
      counting := by
  refine inv.settle found ?_ (fun _ _ _ => rfl) ?_ ?_ ?_
  · intro other
    rw [inv.effective node other, found]
    exact same other
  · intro other
    exact (unchanged other).trans (inv.counted other)
  · intro other member
    rcases inv.presentElsewhere found member with positive | mine | theirs
    · exact .inl positive
    · rw [removing] at mine
      cases mine
    · exact .inr (.inr theirs)
  · intro other positive
    rcases inv.recordedElsewhere found positive with member | mine | theirs
    · exact .inl member
    · cases mine
    · exact .inr (.inr theirs)

theorem Inv.counter_nonneg (inv : Inv keyPrefix appId channel state counting)
    {userId : String}
    (unused : state.shared.sockets.counter
      (presenceSocketsKey keyPrefix appId channel) userId ≤ 0) :
    state.shared.sockets.counter (presenceSocketsKey keyPrefix appId channel) userId =
      0 := by
  have count := inv.counted userId
  omega

theorem Inv.advance {readFloat : DecimalText → Option DecimalText}
    (inv : Inv keyPrefix appId channel state counting)
    (found : state.calls.lookup node = some (operation, point))
    (spared : DeletesUnused keyPrefix appId channel state (.advance node ()))
    (advanced : Presence.advance readFloat keyPrefix appId channel state.shared node
      operation point () = some (cluster, progress)) :
    Holds keyPrefix appId channel (state.settle node operation cluster progress) := by
  obtain ⟨usersSpared, countsSpared⟩ := spared
  rw [found] at usersSpared countsSpared
  unfold Presence.advance at advanced
  split at advanced
  · cases advanced
    exact ⟨counting, inv.pass found (fun _ => rfl) rfl rfl rfl rfl⟩
  · split at advanced <;> cases advanced
    · exact ⟨counting, inv.pass found (fun _ => rfl) rfl rfl rfl rfl⟩
    · exact ⟨counting, inv.pass found (fun _ => rfl) rfl rfl rfl rfl⟩
  · cases advanced
    exact ⟨counting, inv.pass found (fun _ => rfl) rfl rfl rfl rfl⟩
  · cases advanced
    exact ⟨_, inv.increment found⟩
  · cases advanced
    exact ⟨_, inv.hset found⟩
  · -- the log takes over the socket that the increment has counted
    rename_i socketId userId userInfo maxMembers isNew
    cases advanced
    refine ⟨counting, inv.pass found (fun other => ?_) rfl rfl rfl rfl⟩
    simp only [standing, settledSocket, Progress.call, Calls.settle, joinedSockets,
      Table.lookup_put, Prod.mk.injEq, true_and]
  · cases advanced
    exact ⟨counting, inv.pass found (fun _ => rfl) rfl rfl rfl rfl⟩
  · cases advanced
    exact ⟨_, inv.decrement found⟩
  · rename_i socketId userId
    cases advanced
    refine ⟨counting, inv.shrink found rfl ?_ ?_⟩
    · intro other member
      rw [Hashes.fields_hdel, Finmap.mem_erase] at member
      exact ⟨member.2, fun mine => member.1 (Option.some.inj mine).symm⟩
    · intro other before gone
      rw [Hashes.fields_hdel, Finmap.mem_erase] at gone
      by_cases same : other = userId
      · exact usersSpared other (Finset.mem_singleton.mpr same)
      · exact absurd ⟨same, before⟩ gone
  · rename_i socketId userId
    cases advanced
    refine ⟨counting, inv.clear found (fun _ => rfl) rfl fun other => ?_⟩
    rw [Hashes.counter_hdel]
    by_cases same : other = userId
    · have unused := countsSpared other (Finset.mem_singleton.mpr same)
      rw [if_pos same, inv.counter_nonneg unused]
    · rw [if_neg same]
  · cases advanced
    refine ⟨counting, inv.pass found (fun other => ?_) rfl rfl rfl rfl⟩
    split
    · rfl
    · simp only [standing, settledSocket, Progress.call, Calls.settle, joinedSockets,
        Table.lookup_drop, Prod.mk.injEq, true_and]
  · cases advanced
    refine ⟨counting, inv.shrink found rfl ?_ ?_⟩
    · intro other member
      rw [Hashes.fields_del] at member
      exact absurd member Finmap.notMem_empty
    · intro other before _
      exact usersSpared other (Finmap.mem_keys.mpr before)
  · cases advanced
    refine ⟨counting, inv.clear found (fun other => ?_) rfl fun other => ?_⟩
    · simp only [standing, settledSocket, Progress.call, Calls.settle, joinedSockets,
        Table.lookup_drop, Prod.mk.injEq, true_and]
    · rw [Hashes.counter_del]
      cases stored : (state.shared.sockets.fields
          (presenceSocketsKey keyPrefix appId channel)).lookup other with
      | none => simp [Hashes.counter, stored]
      | some value =>
          have member := Table.mem_keys_iff.mpr ⟨value, stored⟩
          exact (inv.counter_nonneg (countsSpared other member)).symm
  · cases advanced

theorem Inv.begin (inv : Inv keyPrefix appId channel state counting)
    (absent : state.calls.lookup node = none)
    (permitted : permits state.log node operation = true) :
    Inv keyPrefix appId channel
      { state with calls := state.calls.insert node (operation, enter operation) }
      counting where
  effective := by
    intro other socketId
    rw [inv.effective other socketId, Table.lookup_put]
    by_cases same : other = node
    · rw [if_pos same, same, absent]
      cases operation <;> rfl
    · rw [if_neg same]
  counted := inv.counted
  present := by
    intro userId member
    rcases inv.present userId member with positive | ⟨other, removing⟩
    · exact .inl positive
    · refine .inr ⟨other, ?_⟩
      rw [Table.lookup_put, if_neg]
      · exact removing
      · rintro rfl
        rw [absent] at removing
        cases removing
  recorded := by
    intro userId positive
    rcases inv.recorded userId positive with member | ⟨other, storing⟩
    · exact .inl member
    · refine .inr ⟨other, ?_⟩
      rw [Table.lookup_put, if_neg]
      · exact storing
      · rintro rfl
        rw [absent] at storing
        cases storing
  permitted := by
    intro other their point calling
    rw [Table.lookup_put] at calling
    split at calling
    · rename_i same
      cases calling
      rw [same]
      exact permitted
    · exact inv.permitted other their point calling

theorem Inv.start :
    Inv keyPrefix appId channel { shared := .empty, calls := ∅, log := [] } ∅ where
  effective := by simp [joinedSockets, standing, settledSocket]
  counted := by simp [Cluster.empty, Hashes.counter, Hashes.fields]
  present := by simp [Cluster.empty, Hashes.fields, Finmap.notMem_empty]
  recorded := by simp
  permitted := by simp

theorem Inv.exact (inv : Inv keyPrefix appId channel state counting)
    (quiet : state.Quiet) : Exact keyPrefix appId channel state := by
  have same : counting = joinedSockets state.log := by
    apply Finmap.ext_lookup
    intro key
    rw [inv.effective key.1 key.2, quiet.lookup]
    rfl
  intro userId
  rw [← same]
  refine ⟨inv.counted userId, fun member => ?_, fun positive => ?_⟩
  · rcases inv.present userId member with positive | ⟨other, removing⟩
    · exact positive
    · rw [quiet.lookup] at removing
      cases removing
  · rcases inv.recorded userId positive with member | ⟨other, storing⟩
    · exact member
    · rw [quiet.lookup] at storing
      cases storing

end

/-- In every interleaving in which the deletions of a leave hit only what is
unused, the counts of all nodes together are right. -/
theorem global_counts_exact (readFloat : DecimalText → Option DecimalText)
    (keyPrefix appId channel : String) (actions : List Action) (final : State)
    (reached : (system readFloat keyPrefix appId channel).run actions = some final)
    (guarded : (system readFloat keyPrefix appId channel).Guarded
      (DeletesUnused keyPrefix appId channel) actions)
    (quiet : final.Quiet) : Exact keyPrefix appId channel final := by
  have holds : Holds keyPrefix appId channel final := by
    refine Calls.invariant ?_ ?_ ?_ reached guarded
    · exact ⟨∅, Inv.start⟩
    · rintro state node operation ⟨counting, inv⟩ absent permitted
      exact ⟨counting, inv.begin absent permitted⟩
    · rintro state node operation point ⟨⟩ cluster progress ⟨counting, inv⟩ found
        spared advanced
      exact inv.advance found spared advanced
  obtain ⟨counting, inv⟩ := holds
  exact inv.exact quiet

instance (state : State) (userId : String) : Decidable (Storing state userId) :=
  inferInstanceAs (Decidable (∃ node ∈ state.calls.keys,
    stores (state.calls.lookup node) = some userId))

instance (keyPrefix appId channel : String) (state : State) (userId : String) :
    Decidable (Deletable keyPrefix appId channel state userId) :=
  inferInstanceAs (Decidable (_ ∨ _))

instance (keyPrefix appId channel : String) (state : State) :
    (action : Action) → Decidable (DeletesUnused keyPrefix appId channel state action)
  | .begin _ _ => .isTrue trivial
  | .advance _ _ => inferInstanceAs (Decidable (_ ∧ _))

def serial : List Action :=
  [.begin "node-a" (.tryAddPresenceMember "1.1" "ann" (.ofJson (.object [])) 100)] ++
    List.replicate 6 (.advance "node-a" ()) ++
  [.begin "node-a" (.removePresenceMember "1.1" "ann")] ++
    List.replicate 7 (.advance "node-a" ()) ++
  [.begin "node-b" (.tryAddPresenceMember "2.2" "ann" (.ofJson (.object [])) 100)] ++
    List.replicate 6 (.advance "node-b" ())

theorem global_counts_exact_serial :
    ∃ final, (system some "rushsocket" "app" "presence-room").run serial = some final ∧
      Exact "rushsocket" "app" "presence-room" final :=
  ⟨_, rfl, global_counts_exact some "rushsocket" "app" "presence-room" serial _ rfl
    (by decide) rfl⟩

/-- The second socket joins between the decrement of the first and the
deletions that follow it. -/
def racing : List Action :=
  [.begin "node-a" (.tryAddPresenceMember "1.1" "ann" (.ofJson (.object [])) 100)] ++
    List.replicate 6 (.advance "node-a" ()) ++
  [.begin "node-a" (.removePresenceMember "1.1" "ann")] ++
    List.replicate 2 (.advance "node-a" ()) ++
  [.begin "node-b" (.tryAddPresenceMember "2.2" "ann" (.ofJson (.object [])) 100)] ++
    List.replicate 6 (.advance "node-b" ()) ++
    List.replicate 5 (.advance "node-a" ())

theorem member_lost_racing :
    ∃ final, (system some "rushsocket" "app" "presence-room").run racing = some final ∧
      final.Quiet ∧ (joinedSockets final.log).occurrences "ann" = 1 ∧
      ¬ Exact "rushsocket" "app" "presence-room" final := by
  refine ⟨_, rfl, rfl, by decide, ?_⟩
  intro exact
  have counted := (exact "ann").1
  revert counted
  decide

end RushSocket.Adapter.Redis.Presence
