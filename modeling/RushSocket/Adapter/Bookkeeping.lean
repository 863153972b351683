import RushSocket.Adapter.PresenceCalls
import RushSocket.Transition.Session

namespace RushSocket.Adapter.Bookkeeping

open Data Transition

/-! The presence data of an app under joins with one limit and leaves, made one
after another. -/

abbrev State := Session Namespace PresenceCall PresenceReturned

def system : System State PresenceCall :=
  Session.system Namespace.answer (fun _ _ => true) .new

/-- Every user of a channel has a socket, and the users are not too many. -/
structure Orderly (maxMembers : Nat) (members : Table String (Value × Finset String)) :
    Prop where
  attended : ∀ userId info sockets,
    members.lookup userId = some (info, sockets) → sockets ≠ ∅
  limited : members.size ≤ maxMembers

def Tidy (maxMembers : Nat) (ns : Namespace) : Prop :=
  ∀ channel members, ns.presence.lookup channel = some members →
    members ≠ ∅ ∧ Orderly maxMembers members

/-- What a call returns and leaves behind is what the presence data before it
asks for. -/
def Returns (ns : Namespace) : PresenceCall → Prop
  | .tryAddPresenceMember channel socketId userId userInfo maxMembers =>
      let (after, outcome) :=
        ns.tryAddPresenceMember channel socketId userId userInfo maxMembers
      (outcome = .error () ↔
        userId ∉ ns.presenceOf channel ∧
          ns.getPresenceUserCount channel = maxMembers) ∧
      (outcome = .error () → after.presence = ns.presence) ∧
      ∀ isNew members, outcome = .ok (isNew, members) →
        (isNew = true ↔ userId ∉ ns.presenceOf channel) ∧
          members = after.getPresenceMembers channel
  | .removePresenceMember channel socketId userId =>
      (ns.removePresenceMember channel socketId userId).2 = true ↔
        ns.presenceSockets channel userId = {socketId}

structure Exact (maxMembers : Nat) (state : State) (call : PresenceCall) : Prop where
  returns : Returns state.state call
  tidy : Tidy maxMembers (state.state.answer call).1

variable {maxMembers : Nat} {ns : Namespace} {channel socketId userId : String}
  {userInfo : Value} {members : Table String (Value × Finset String)}

theorem tidy_new : Tidy maxMembers .new := by
  intro channel members found
  simp [Namespace.new] at found

theorem Tidy.put (tidy : Tidy maxMembers ns) (peopled : members ≠ ∅)
    (orderly : Orderly maxMembers members) :
    Tidy maxMembers { ns with presence := ns.presence.insert channel members } := by
  intro other stored found
  rw [Table.lookup_put] at found
  split at found
  · cases found
    exact ⟨peopled, orderly⟩
  · exact tidy other stored found

theorem Tidy.drop (tidy : Tidy maxMembers ns) :
    Tidy maxMembers { ns with presence := ns.presence.erase channel } := by
  intro other stored found
  rw [Table.lookup_drop] at found
  split at found
  · cases found
  · exact tidy other stored found

theorem Tidy.orderly (tidy : Tidy maxMembers ns) (channel : String) :
    Orderly maxMembers (ns.presenceOf channel) := by
  unfold Namespace.presenceOf
  cases found : ns.presence.lookup channel with
  | none =>
      exact {
        attended := by simp
        limited := Nat.zero_le maxMembers }
  | some members => exact (tidy channel members found).2

/-! Joins. -/

theorem Orderly.joinPresence (orderly : Orderly maxMembers members)
    (room : userId ∈ members ∨ members.size < maxMembers) :
    Orderly maxMembers (Namespace.joinPresence members socketId userId userInfo) where
  attended := by
    intro other info sockets found
    unfold Namespace.joinPresence at found
    split at found
    · rw [Table.lookup_put] at found
      split at found
      · cases found
        exact Finset.insert_ne_empty _ _
      · exact orderly.attended other info sockets found
    · rw [Table.lookup_put] at found
      split at found
      · cases found
        exact Finset.singleton_ne_empty _
      · exact orderly.attended other info sockets found
  limited := by
    rw [Table.size, Namespace.keys_joinPresence]
    rcases room with present | fewer
    · rw [Finset.insert_eq_of_mem (Finmap.mem_keys.mpr present)]
      exact orderly.limited
    · exact (Finset.card_insert_le userId members.keys).trans fewer

theorem lookup_of_full (positive : 0 < maxMembers)
    (full : maxMembers ≤ (ns.presenceOf channel).size) :
    ns.presence.lookup channel = some (ns.presenceOf channel) := by
  unfold Namespace.presenceOf at full ⊢
  cases found : ns.presence.lookup channel with
  | none =>
      rw [found] at full
      exact absurd full (Nat.not_le.mpr positive)
  | some members => rfl

theorem Tidy.returns_join (tidy : Tidy maxMembers ns) (positive : 0 < maxMembers) :
    Returns ns (.tryAddPresenceMember channel socketId userId userInfo maxMembers) := by
  have limited := (tidy.orderly channel).limited
  have counts : ns.getPresenceUserCount channel = (ns.presenceOf channel).size := rfl
  simp only [Returns, Namespace.tryAddPresenceMember, counts]
  split
  · rename_i full
    refine ⟨?_, fun _ => ?_, ?_⟩
    · exact iff_of_true rfl ⟨full.1, Nat.le_antisymm limited full.2⟩
    · exact Table.put_present (lookup_of_full positive full.2)
    · intro isNew listed accepted
      cases accepted
  · rename_i fits
    dsimp only
    refine ⟨iff_of_false ?_ fun full => fits ⟨full.1, full.2.ge⟩, ?_, ?_⟩
    · intro refused
      cases refused
    · intro refused
      cases refused
    · intro isNew listed accepted
      cases accepted
      refine ⟨decide_eq_true_iff, ?_⟩
      rw [Namespace.getPresenceMembers, Namespace.presenceOf_put, if_pos rfl]

theorem Tidy.join (tidy : Tidy maxMembers ns) (positive : 0 < maxMembers) :
    Tidy maxMembers (ns.tryAddPresenceMember channel socketId userId userInfo
      maxMembers).1 := by
  simp only [Namespace.tryAddPresenceMember]
  split
  · rename_i full
    rw [Table.put_present (lookup_of_full positive full.2)]
    exact tidy
  · rename_i fits
    have room : userId ∈ ns.presenceOf channel ∨
        (ns.presenceOf channel).size < maxMembers := by
      rw [not_and_or, not_not, not_le] at fits
      exact fits
    refine tidy.put ?_ ((tidy.orderly channel).joinPresence room)
    rw [Ne, ← Table.keys_eq_empty_iff, Namespace.keys_joinPresence]
    exact Finset.insert_ne_empty userId _

/-! Leaves. -/

theorem Orderly.dropPresence (orderly : Orderly maxMembers members) :
    Orderly maxMembers (Namespace.dropPresence members socketId userId).1 where
  attended := by
    intro other info sockets found
    unfold Namespace.dropPresence at found
    split at found
    · split at found
      · rw [Table.lookup_drop] at found
        split at found
        · cases found
        · exact orderly.attended other info sockets found
      · rename_i remaining
        rw [Table.lookup_put] at found
        split at found
        · cases found
          exact remaining
        · exact orderly.attended other info sockets found
    · exact orderly.attended other info sockets found
  limited := by
    rw [Table.size, Namespace.dropPresence_keys]
    split
    · exact Finset.card_erase_le.trans orderly.limited
    · exact orderly.limited

theorem Tidy.leave (tidy : Tidy maxMembers ns) :
    Tidy maxMembers (ns.removePresenceMember channel socketId userId).1 := by
  unfold Namespace.removePresenceMember
  split
  · rename_i members found
    dsimp only
    split
    · exact tidy.drop
    · rename_i peopled
      exact tidy.put peopled (tidy channel members found).2.dropPresence
  · exact tidy

theorem Orderly.dropPresence_snd (orderly : Orderly maxMembers members) :
    (Namespace.dropPresence members socketId userId).2 = true ↔
      ((members.lookup userId).map Prod.snd).getD ∅ = {socketId} := by
  unfold Namespace.dropPresence
  cases found : members.lookup userId with
  | none => simp
  | some stored =>
      obtain ⟨info, sockets⟩ := stored
      have attended := orderly.attended userId info sockets found
      have last : sockets.erase socketId = ∅ ↔ sockets = {socketId} := by
        rw [Finset.erase_eq_empty_iff]
        exact or_iff_right attended
      simp only [Option.map_some, Option.getD_some, ← last]
      split
      · rename_i emptied
        exact iff_of_true rfl emptied
      · rename_i others
        exact iff_of_false Bool.false_ne_true others

theorem Tidy.returns_leave (tidy : Tidy maxMembers ns) :
    Returns ns (.removePresenceMember channel socketId userId) := by
  have last := @Orderly.dropPresence_snd _ socketId userId _ (tidy.orderly channel)
  unfold Namespace.presenceOf at last
  simp only [Returns, Namespace.presenceSockets, Namespace.presenceOf,
    Namespace.removePresenceMember]
  cases found : ns.presence.lookup channel with
  | none => simp
  | some members =>
      rw [found] at last
      exact last

/-! Runs. -/

theorem Tidy.exact (state : State) (tidy : Tidy maxMembers state.state)
    {call : PresenceCall} (limited : 0 < maxMembers ∨ call.joins = false) :
    Exact maxMembers state (call.withLimit maxMembers) := by
  cases call with
  | tryAddPresenceMember channel socketId userId userInfo limit =>
      have positive : 0 < maxMembers :=
        limited.resolve_right fun impossible => nomatch impossible
      exact ⟨tidy.returns_join positive, tidy.join positive⟩
  | removePresenceMember channel socketId userId =>
      exact ⟨tidy.returns_leave, tidy.leave⟩

/-- With no members allowed, the entry that a join looks up stays empty. -/
theorem not_exact_of_zero {state : State} {call : PresenceCall}
    (joins : call.joins = true) : ¬ Exact 0 state (call.withLimit 0) := by
  intro exact_
  cases call with
  | removePresenceMember channel socketId userId => cases joins
  | tryAddPresenceMember channel socketId userId userInfo limit =>
      have entered : ∃ members, (state.state.tryAddPresenceMember channel socketId
          userId userInfo 0).1.presence.lookup channel = some members := by
        simp only [Namespace.tryAddPresenceMember]
        split
        · exact ⟨_, Finmap.lookup_insert _⟩
        · exact ⟨_, Finmap.lookup_insert _⟩
      obtain ⟨members, found⟩ := entered
      obtain ⟨peopled, orderly⟩ := exact_.tidy channel members found
      obtain ⟨user, present⟩ := Finset.nonempty_iff_ne_empty.mpr
        fun empty => peopled (Table.keys_eq_empty_iff.mp empty)
      exact absurd orderly.limited
        (Nat.not_le.mpr (Table.size_pos (Finmap.mem_keys.mp present)))

/-- Every call does what it should exactly when some members are allowed or no
one joins. -/
theorem bookkeeping_exact (maxMembers : Nat) (calls : List PresenceCall) :
    system.Guarded (Exact maxMembers) (calls.map (PresenceCall.withLimit maxMembers)) ↔
      0 < maxMembers ∨ ∀ call ∈ calls, call.joins = false := by
  constructor
  · intro guarded
    rw [or_iff_not_imp_left]
    intro none_ call member
    obtain rfl : maxMembers = 0 := Nat.eq_zero_of_not_pos none_
    obtain ⟨final, reached⟩ := Session.run_of_always Namespace.answer Namespace.new
      (calls.map (PresenceCall.withLimit 0))
    obtain ⟨state, exact_⟩ := system.allowed_of_guarded reached guarded
      (List.mem_map_of_mem member)
    by_contra joins
    exact not_exact_of_zero (Bool.eq_true_of_not_eq_false joins) exact_
  · intro limited
    refine system.guarded_of_invariant
      (fun call => ∃ made : PresenceCall, call = made.withLimit maxMembers ∧
        (0 < maxMembers ∨ made.joins = false))
      (fun state => Tidy maxMembers state.state) tidy_new ?_ ?_
    · rintro state call tidy ⟨made, rfl, limited⟩
      have exact_ := tidy.exact state limited
      refine ⟨exact_, fun next stepped => ?_⟩
      change Session.step Namespace.answer (fun _ _ => true) state _ = _ at stepped
      obtain ⟨_, rfl⟩ := Session.step_eq_some.mp stepped
      exact exact_.tidy
    · intro call member
      obtain ⟨made, listed, rfl⟩ := List.mem_map.mp member
      exact ⟨made, rfl, limited.imp_right fun none_ => none_ made listed⟩

def refusedJoin : PresenceCall :=
  .tryAddPresenceMember "presence-room" "1.1" "ann" (.ofJson (.object [])) 0

theorem empty_entry_left :
    (Namespace.new.tryAddPresenceMember "presence-room" "1.1" "ann"
        (.ofJson (.object [])) 0).1.presence.lookup "presence-room" = some ∅ ∧
      Namespace.new.presence.lookup "presence-room" = none ∧
      ¬ system.Guarded (Exact 0) [refusedJoin] := by
  refine ⟨by decide, by decide, fun guarded => ?_⟩
  obtain ⟨peopled, _⟩ := guarded.1.tidy "presence-room" ∅ (by decide)
  exact peopled rfl

end RushSocket.Adapter.Bookkeeping
