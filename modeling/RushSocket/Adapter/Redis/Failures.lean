import RushSocket.Adapter.Redis.PresenceStore
import RushSocket.Transition.Session

namespace RushSocket.Adapter.Redis.Failures

open Data Transition

/-! One node on a Redis whose commands may fail.  A count of sockets that is too
high only keeps a user longer; with one that is too low, a user that is there
looks new or gone. -/

structure Attempt where
  call : PresenceCall
  fails : Command → Bool

/-- The calls and what they returned, without the failures. -/
def plain (history : List (Attempt × PresenceReturned)) :
    List (PresenceCall × PresenceReturned) :=
  history.map fun (attempt, returned) => (attempt.call, returned)

def Absent (history : List (PresenceCall × PresenceReturned))
    (channel userId : String) : Prop :=
  ∀ socketId, (attending history).lookup (channel, socketId) ≠ some (channel, userId)

/-- A user whom a join calls new was absent, and one whom a leave calls gone is. -/
def Truthful : List (PresenceCall × PresenceReturned) → Prop
  | [] => True
  | (.tryAddPresenceMember channel _ userId _ _, .added (.ok (true, _))) :: earlier =>
      Absent earlier channel userId ∧ Truthful earlier
  | (.removePresenceMember channel socketId userId, .removed true) :: earlier =>
      Absent ((.removePresenceMember channel socketId userId, .removed true) :: earlier)
        channel userId ∧ Truthful earlier
  | _ :: earlier => Truthful earlier

section

variable (fromStr : String → Option Value) (keyPrefix appId : String)

def system :
    System (Session RedisAdapter Attempt PresenceReturned) Attempt :=
  Session.system
    (fun redis attempt => redis.answer fromStr keyPrefix appId attempt.fails attempt.call)
    (fun history attempt => permits (plain history) attempt.call) .new

/-- Redis takes note of a socket that joins, and of its user. -/
def Recorded (session : Session RedisAdapter Attempt PresenceReturned)
    (attempt : Attempt) : Prop :=
  match attempt.call with
  | .tryAddPresenceMember channel _ userId _ maxMembers =>
      session.state.overLimit keyPrefix appId attempt.fails channel userId maxMembers =
          false →
        attempt.fails .hincrby = false ∧
          (session.state.countOf keyPrefix appId channel userId = 0 →
            attempt.fails .hset = false)
  | .removePresenceMember _ _ _ => True

instance : ∀ session attempt, Decidable (Recorded keyPrefix appId session attempt)
  | session, ⟨.tryAddPresenceMember channel _ userId _ maxMembers, fails⟩ =>
      inferInstanceAs (Decidable
        (session.state.overLimit keyPrefix appId fails channel userId maxMembers =
            false →
          fails .hincrby = false ∧
            (session.state.countOf keyPrefix appId channel userId = 0 →
              fails .hset = false)))
  | _, ⟨.removePresenceMember _ _ _, _⟩ => .isTrue trivial

/-- No count is too low, and a user with a count is among the members. -/
structure Covers (redis : RedisAdapter)
    (history : List (PresenceCall × PresenceReturned)) : Prop where
  counted : ∀ channel userId,
    ((attending history).occurrences (channel, userId) : Int) ≤
      redis.countOf keyPrefix appId channel userId
  listed : ∀ channel userId, 0 < redis.countOf keyPrefix appId channel userId →
    userId ∈ redis.membersOf keyPrefix appId channel

end

variable {fromStr : String → Option Value} {keyPrefix appId : String}
  {fails : Command → Bool} {redis : RedisAdapter}
  {history : List (PresenceCall × PresenceReturned)}
  {channel socketId userId : String} {userInfo : Value} {maxMembers : Nat}

theorem absent_of_occurrences
    (nobody : (attending history).occurrences (channel, userId) = 0) :
    Absent history channel userId := fun _ found =>
  absurd (Table.occurrences_pos found) (Nat.not_lt.mpr nobody.le)

theorem covers_new : Covers keyPrefix appId .new [] where
  counted := fun _ _ => Int.le_refl 0
  listed := fun _ _ positive => absurd positive (Int.lt_irrefl 0)

/-! A join. -/

theorem Covers.truthful_join (covers : Covers keyPrefix appId redis history)
    (recorded : fails .hincrby = false)
    (isNew : (redis.countMember keyPrefix appId fails channel socketId userId
      userInfo).2 = true) : Absent history channel userId := by
  rw [RedisAdapter.countMember_snd, recorded, Bool.false_or] at isNew
  have none_ : redis.countOf keyPrefix appId channel userId = 0 := of_decide_eq_true isNew
  have counted := covers.counted channel userId
  exact absent_of_occurrences (by omega)

theorem Covers.join (covers : Covers keyPrefix appId redis history)
    (outside : (attending history).lookup (channel, socketId) = none)
    (recorded : fails .hincrby = false)
    (entered : redis.countOf keyPrefix appId channel userId = 0 → fails .hset = false)
    (maxMembers : Nat) (outcome : Bool × Table String Value) :
    Covers keyPrefix appId
      (redis.countMember keyPrefix appId fails channel socketId userId userInfo).1
      ((.tryAddPresenceMember channel socketId userId userInfo maxMembers,
        .added (.ok outcome)) :: history) where
  counted := by
    intro other user
    have counted := covers.counted other user
    rw [RedisAdapter.countOf_countMember, attending, Table.occurrences_put outside]
    simp only [recorded, true_and, Prod.mk.injEq]
    split
    · rename_i same
      rw [same.1, same.2] at counted ⊢
      push_cast
      omega
    · exact counted
  listed := by
    intro other user positive
    rw [RedisAdapter.countOf_countMember] at positive
    rw [RedisAdapter.membersOf_countMember, RedisAdapter.countMember_snd]
    simp only [recorded, Bool.false_or, decide_eq_true_eq, true_and] at positive ⊢
    by_cases same : other = channel ∧ user = userId
    · obtain ⟨rfl, rfl⟩ := same
      have counted := covers.counted other user
      by_cases first : redis.countOf keyPrefix appId other user = 0
      · rw [if_pos ⟨first, entered first, rfl⟩]
        exact Finmap.mem_insert.mpr (.inl rfl)
      · rw [if_neg fun both => first both.1]
        exact covers.listed other user (by omega)
    · rw [if_neg same] at positive
      have listed := covers.listed other user positive
      split
      · rename_i joined
        rw [joined.2.2] at listed
        exact Finmap.mem_insert.mpr (.inr listed)
      · exact listed

/-! A leave. -/

theorem attending_leave
    (inside : (attending history).lookup (channel, socketId) = some (channel, userId))
    (returned : PresenceReturned) (other user : String) :
    (attending history).occurrences (other, user) =
      (attending ((.removePresenceMember channel socketId userId, returned) ::
        history)).occurrences (other, user) +
        if other = channel ∧ user = userId then 1 else 0 := by
  rw [Table.occurrences_drop inside]
  simp [attending]

/-- A leave that does not forget the user. -/
theorem Covers.uncount (covers : Covers keyPrefix appId redis history)
    (inside : (attending history).lookup (channel, socketId) = some (channel, userId))
    (returned : PresenceReturned) :
    Covers keyPrefix appId
      (redis.uncountMember keyPrefix appId fails channel socketId userId).1
      ((.removePresenceMember channel socketId userId, returned) :: history) where
  counted := by
    intro other user
    have counted := covers.counted other user
    rw [attending_leave inside returned] at counted
    rw [RedisAdapter.countOf_uncountMember]
    push_cast at counted
    split
    · rename_i same
      obtain ⟨_, rfl, rfl⟩ := same
      rw [if_pos ⟨rfl, rfl⟩] at counted
      omega
    · split at counted <;> omega
  listed := by
    intro other user positive
    rw [RedisAdapter.membersOf_uncountMember]
    refine covers.listed other user ?_
    rw [RedisAdapter.countOf_uncountMember] at positive
    split at positive
    · rename_i same
      rw [same.2.1, same.2.2]
      omega
    · exact positive

theorem Covers.forget (covers : Covers keyPrefix appId redis history)
    (gone : redis.countOf keyPrefix appId channel userId ≤ 0) :
    Covers keyPrefix appId (redis.forgetMember keyPrefix appId fails channel userId)
      history := by
  have others : ∀ other user, 0 < redis.countOf keyPrefix appId other user →
      user ∈ (redis.forgetMember keyPrefix appId fails channel userId).membersOf
        keyPrefix appId other := by
    intro other user positive
    have listed := covers.listed other user positive
    rw [RedisAdapter.membersOf_forgetMember]
    split
    · rename_i same
      rw [same.2] at positive listed
      refine Finmap.mem_erase.mpr ⟨?_, listed⟩
      rintro rfl
      exact absurd positive (Int.not_lt.mpr gone)
    · exact listed
  refine ⟨fun other user => ?_, fun other user positive => ?_⟩
  · have counted := covers.counted other user
    rw [RedisAdapter.countOf_forgetMember]
    split
    · rename_i same
      rw [same.1, same.2.1] at counted ⊢
      omega
    · split
      · rename_i emptied
        by_contra positive
        have present := others other user (by omega)
        rw [emptied.1, emptied.2.2.2] at present
        exact Finmap.notMem_empty present
      · exact counted
  · refine others other user ?_
    rw [RedisAdapter.countOf_forgetMember] at positive
    split at positive
    · exact absurd positive (Int.lt_irrefl 0)
    · split at positive
      · exact absurd positive (Int.lt_irrefl 0)
      · exact positive

theorem Covers.truthful_leave (covers : Covers keyPrefix appId redis history)
    (gone : redis.countOf keyPrefix appId channel userId ≤ 0) :
    Absent history channel userId := by
  have counted := covers.counted channel userId
  exact absent_of_occurrences (by omega)

theorem countOf_uncounted (covers : Covers keyPrefix appId redis history)
    (inside : (attending history).lookup (channel, socketId) = some (channel, userId))
    (counted : fails .hincrby = false)
    (last : redis.countOf keyPrefix appId channel userId ≤ 1) :
    (redis.uncountMember keyPrefix appId fails channel socketId userId).1.countOf
      keyPrefix appId channel userId ≤ 0 := by
  have present := covers.counted channel userId
  have positive := Table.occurrences_pos inside
  rw [RedisAdapter.countOf_uncountMember, if_pos ⟨counted, rfl, rfl⟩]
  omega

/-! Every call. -/

theorem Covers.answer {attempt : Attempt}
    {session : Session RedisAdapter Attempt PresenceReturned}
    (covers : Covers keyPrefix appId session.state (plain session.history))
    (truthful : Truthful (plain session.history))
    (permitted : permits (plain session.history) attempt.call = true)
    (recorded : Recorded keyPrefix appId session attempt) :
    let (after, returned) :=
      session.state.answer fromStr keyPrefix appId attempt.fails attempt.call
    Covers keyPrefix appId after ((attempt.call, returned) :: plain session.history) ∧
      Truthful ((attempt.call, returned) :: plain session.history) := by
  obtain ⟨call, fails⟩ := attempt
  cases call with
  | tryAddPresenceMember channel socketId userId userInfo maxMembers =>
      have outside := of_decide_eq_true permitted
      simp only [RedisAdapter.answer, RedisAdapter.tryAddPresenceMember]
      cases full : session.state.overLimit keyPrefix appId fails channel userId
          maxMembers with
      | true => exact ⟨⟨covers.counted, covers.listed⟩, truthful⟩
      | false =>
          obtain ⟨counted, entered⟩ := recorded full
          refine ⟨covers.join outside counted entered maxMembers _, ?_⟩
          cases isNew : (session.state.countMember keyPrefix appId fails channel socketId
              userId userInfo).2 with
          | true => exact ⟨covers.truthful_join counted isNew, truthful⟩
          | false => exact truthful
  | removePresenceMember channel socketId userId =>
      have inside := of_decide_eq_true permitted
      simp only [RedisAdapter.answer]
      cases counted : fails .hincrby with
      | true =>
          rw [RedisAdapter.removePresenceMember_of_failed counted]
          exact ⟨covers.uncount inside _, truthful⟩
      | false =>
          rw [RedisAdapter.removePresenceMember_of_counted counted]
          split
          · rename_i last
            have gone := countOf_uncounted covers inside counted last
            have uncounted :=
              @Covers.uncount _ _ fails _ _ _ _ _ covers inside (.removed true)
            exact ⟨uncounted.forget gone, uncounted.truthful_leave gone, truthful⟩
          · exact ⟨covers.uncount inside _, truthful⟩

/-- No call misleads in a run where Redis takes note of every socket and user. -/
theorem truthful_of_recorded (fromStr : String → Option Value)
    (keyPrefix appId : String) {attempts : List Attempt}
    {final : Session RedisAdapter Attempt PresenceReturned}
    (reached : (system fromStr keyPrefix appId).run attempts = some final)
    (recorded : (system fromStr keyPrefix appId).Guarded (Recorded keyPrefix appId)
      attempts) :
    Truthful (plain final.history) := by
  have holds := @Session.invariant _ _ _ _ _ _ _
    (fun redis history =>
      Covers keyPrefix appId redis (plain history) ∧ Truthful (plain history))
    ⟨covers_new, trivial⟩ ?_ _ _ reached recorded
  · exact holds.2
  · intro redis history attempt holds permitted recorded
    exact @Covers.answer fromStr keyPrefix appId attempt ⟨redis, history⟩ holds.1
      holds.2 permitted recorded

/-- Both sockets of Ann are there, and only the first is counted. -/
def uncounted : List Attempt :=
  [⟨.tryAddPresenceMember "presence-room" "1.1" "ann" (.ofJson .null) 10,
      fun _ => false⟩,
    ⟨.tryAddPresenceMember "presence-room" "1.2" "ann" (.ofJson .null) 10,
      fun command => command = .hincrby⟩]

theorem new_and_already_there :
    ∃ final, (system (fun _ => none) "rush" "app").run uncounted = some final ∧
      ¬ Truthful (plain final.history) := by
  refine ⟨_, rfl, fun truthful => ?_⟩
  exact truthful.1 "1.1" (by decide)

def recordedVisits : List Attempt :=
  [⟨.tryAddPresenceMember "presence-room" "1.1" "ann" (.ofJson .null) 10,
      fun command => command = .hlen⟩,
    ⟨.tryAddPresenceMember "presence-room" "1.2" "ann" (.ofJson .null) 10,
      fun command => command = .hset⟩,
    ⟨.removePresenceMember "presence-room" "1.1" "ann",
      fun command => command = .hincrby⟩,
    ⟨.removePresenceMember "presence-room" "1.2" "ann",
      fun command => command = .hdelPresence⟩]

theorem recordedVisits_truthful :
    ∃ final, (system (fun _ => none) "rush" "app").run recordedVisits = some final ∧
      Truthful (plain final.history) := by
  obtain ⟨final, reached⟩ : ∃ final,
      (system (fun _ => none) "rush" "app").run recordedVisits = some final :=
    Option.isSome_iff_exists.mp (by decide)
  exact ⟨final, reached, truthful_of_recorded _ "rush" "app" reached (by decide)⟩

end RushSocket.Adapter.Redis.Failures
