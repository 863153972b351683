import RushSocket.Adapter.PresenceCalls
import RushSocket.Transition.Linearization

namespace RushSocket.Adapter.Attendance

open Data Transition

/-! Concurrent joins and leaves of one presence channel.  A join is one guarded
block; a leave that finds the channel without users deletes its entry after the
guard is gone. -/

inductive Operation where
  | tryAddPresenceMember (userId : String) (userInfo : Value) (maxMembers : Nat)
  | removePresenceMember (userId : String)

inductive Point where
  | join
  | leave
  | delete (userGone : Bool)

/-- The guarded block of a leave; the last flag tells whether the channel has no
user left. -/
def dropMember (ns : Namespace) (channel socketId userId : String) :
    Namespace × Bool × Bool :=
  match ns.presence.lookup channel with
  | some members =>
      let (remaining, userGone) := Namespace.dropPresence members socketId userId
      ({ ns with presence := ns.presence.insert channel remaining }, userGone,
        remaining = ∅)
  | none => (ns, false, false)

def deletePresence (ns : Namespace) (channel : String) : Namespace :=
  { ns with presence := ns.presence.erase channel }

theorem removePresenceMember_eq_blocks (ns : Namespace)
    (channel socketId userId : String) :
    ns.removePresenceMember channel socketId userId =
      let (dropped, userGone, emptied) := dropMember ns channel socketId userId
      (if emptied then deletePresence dropped channel else dropped, userGone) := by
  unfold Namespace.removePresenceMember dropMember
  cases ns.presence.lookup channel with
  | none => rfl
  | some members =>
      dsimp only
      by_cases emptied : (Namespace.dropPresence members socketId userId).1 = ∅
      · rw [if_pos emptied, if_pos (decide_eq_true emptied), deletePresence,
          Table.drop_put]
      · rw [if_neg emptied, if_neg (by simpa using emptied)]

section

variable (channel : String)

def advance (ns : Namespace) (socketId : String) :
    Operation → Point → Unit → Option (Namespace × Progress Point PresenceReturned)
  | .tryAddPresenceMember userId userInfo maxMembers, .join, _ =>
      let (after, outcome) :=
        ns.tryAddPresenceMember channel socketId userId userInfo maxMembers
      some (after, .finished (.added outcome))
  | .removePresenceMember userId, .leave, _ =>
      let (dropped, userGone, emptied) := dropMember ns channel socketId userId
      some (dropped,
        if emptied then .running (.delete userGone) else .finished (.removed userGone))
  | .removePresenceMember _, .delete userGone, _ =>
      some (deletePresence ns channel, .finished (.removed userGone))
  | _, _, _ => none

def code : Code Namespace String Operation Point Unit PresenceReturned where
  enter
    | .tryAddPresenceMember _ _ _ => .join
    | .removePresenceMember _ => .leave
  advance := advance channel

/-- A leave takes effect under its guard. -/
def decided : Point → Option PresenceReturned
  | .delete userGone => some (.removed userGone)
  | .join | .leave => none

abbrev Log := List (Finished String Operation PresenceReturned)

/-- The user as which a call leaves its socket joined; a refused join leaves it as
it was. -/
def moved : Finished String Operation PresenceReturned → Option (Option String)
  | ⟨_, .tryAddPresenceMember userId _ _, .added (.ok _)⟩ => some (some userId)
  | ⟨_, .removePresenceMember _, _⟩ => some none
  | _ => none

def joinedAs (log : Log) (socketId : String) : Option String :=
  ((own socketId log).findSome? moved).join

/-- A socket joins only when not a member, and leaves only after joining. -/
def permits (log : Log) (socketId : String) : Operation → Bool
  | .tryAddPresenceMember _ _ _ => joinedAs log socketId = none
  | .removePresenceMember userId => joinedAs log socketId = some userId

abbrev State := Linearization.State Namespace String Operation Point PresenceReturned
abbrev Action := CallAction String Operation Unit

def system : System State Action :=
  Linearization.system (code channel) decided permits .new

def deletes : Option (Operation × Point) → Bool
  | some (.removePresenceMember _, .delete _) => true
  | _ => false

/-- The entry is deleted only while the channel still has no user. -/
def DeletesEmpty (state : State) : Action → Prop
  | .begin _ _ => True
  | .advance socketId _ =>
      deletes (state.calls.lookup socketId) = true →
        state.shared.object.presenceOf channel = ∅

instance (state : State) :
    (action : Action) → Decidable (DeletesEmpty channel state action)
  | .begin _ _ => .isTrue trivial
  | .advance socketId _ =>
      inferInstanceAs (Decidable (deletes (state.calls.lookup socketId) = true →
        state.shared.object.presenceOf channel = ∅))

end

def turn (userId : String) : Finished String Operation PresenceReturned → Option Bool
  | ⟨_, .tryAddPresenceMember other _ _, .added (.ok (true, _))⟩ =>
      if other = userId then some true else none
  | ⟨_, .removePresenceMember other, .removed true⟩ =>
      if other = userId then some false else none
  | _ => none

def turns (userId : String) (log : Log) : List Bool := log.filterMap (turn userId)

/-- Turns alternate, and the first of them, which stands last, is true. -/
def Alternate : List Bool → Prop
  | [] => True
  | turn :: earlier => earlier.headD false = !turn ∧ Alternate earlier

/-- The users of a channel are what the effects of the calls make of them. -/
structure Mirrors (members : Table String (Value × Finset String)) (effects : Log) :
    Prop where
  placed : ∀ socketId userId,
    socketId ∈ ((members.lookup userId).map Prod.snd).getD ∅ ↔
      joinedAs effects socketId = some userId
  attended : ∀ userId member, members.lookup userId = some member → member.2 ≠ ∅
  alternate : ∀ userId, Alternate (turns userId effects)
  latest : ∀ userId, (turns userId effects).headD false = true ↔ userId ∈ members

variable {members : Table String (Value × Finset String)} {effects : Log}
  {channel socketId userId : String} {userInfo : Value} {maxMembers : Nat}

theorem joinedAs_cons (done : Finished String Operation PresenceReturned)
    (log : Log) (socketId : String) :
    joinedAs (done :: log) socketId =
      if done.caller = socketId then (moved done).getD (joinedAs log socketId)
      else joinedAs log socketId := by
  unfold joinedAs
  rw [own_cons]
  split
  · rw [List.findSome?_cons]
    cases moved done <;> rfl
  · rfl

theorem turns_cons (userId : String)
    (done : Finished String Operation PresenceReturned) (log : Log) :
    turns userId (done :: log) = (turn userId done).toList ++ turns userId log := by
  rw [turns, List.filterMap_cons]
  cases turn userId done <;> rfl

/-- An effect keeps the mirror when it moves its socket, and when it says of its
user what is new about it. -/
theorem Mirrors.effect (mirrors : Mirrors members effects)
    {after : Table String (Value × Finset String)}
    (done : Finished String Operation PresenceReturned)
    (placed : ∀ socketId userId,
      socketId ∈ ((after.lookup userId).map Prod.snd).getD ∅ ↔
        joinedAs (done :: effects) socketId = some userId)
    (attended : ∀ userId member, after.lookup userId = some member → member.2 ≠ ∅)
    (turned : ∀ userId,
      (turn userId done = none ∧ (userId ∈ after ↔ userId ∈ members)) ∨
      (turn userId done = some true ∧ userId ∉ members ∧ userId ∈ after) ∨
      (turn userId done = some false ∧ userId ∈ members ∧ userId ∉ after)) :
    Mirrors after (done :: effects) where
  placed := placed
  attended := attended
  alternate := by
    intro userId
    have latest := mirrors.latest userId
    rw [turns_cons]
    rcases turned userId with ⟨none_, _⟩ | ⟨new, absent, _⟩ | ⟨gone, present, _⟩
    · rw [none_]
      exact mirrors.alternate userId
    · rw [new]
      refine ⟨?_, mirrors.alternate userId⟩
      exact Bool.eq_false_iff.mpr fun head => absent (latest.mp head)
    · rw [gone]
      exact ⟨latest.mpr present, mirrors.alternate userId⟩
  latest := by
    intro userId
    have latest := mirrors.latest userId
    rw [turns_cons]
    rcases turned userId with ⟨none_, same⟩ | ⟨new, _, present⟩ | ⟨gone, _, absent⟩
    · rw [none_, same]
      exact latest
    · rw [new]
      exact iff_of_true rfl present
    · rw [gone]
      exact iff_of_false Bool.false_ne_true absent

theorem Mirrors.refused (mirrors : Mirrors members effects) :
    Mirrors members (⟨socketId, .tryAddPresenceMember userId userInfo maxMembers,
      .added (.error ())⟩ :: effects) := by
  refine mirrors.effect _ ?_ mirrors.attended fun user => .inl ⟨rfl, .rfl⟩
  intro other user
  rw [joinedAs_cons]
  simpa [moved] using mirrors.placed other user

theorem Mirrors.join (mirrors : Mirrors members effects)
    (outside : joinedAs effects socketId = none) (snapshot : Table String Value) :
    Mirrors (Namespace.joinPresence members socketId userId userInfo)
      (⟨socketId, .tryAddPresenceMember userId userInfo maxMembers,
        .added (.ok (userId ∉ members, snapshot))⟩ :: effects) := by
  refine mirrors.effect _ ?_ ?_ ?_
  · intro other user
    have before := mirrors.placed other user
    rw [joinedAs_cons, Namespace.lookup_joinPresence]
    by_cases own_ : socketId = other
    · subst own_
      rw [outside] at before
      by_cases same : user = userId
      · simp [same, moved]
      · simpa [same, moved, Ne.symm same] using before
    · by_cases same : user = userId
      · subst same
        simpa [own_, Ne.symm own_] using before
      · simpa [own_, same] using before
  · intro user member found
    rw [Namespace.member_joinPresence] at found
    split at found
    · cases found
      exact Finset.insert_ne_empty _ _
    · exact mirrors.attended user member found
  · intro user
    have entered : user ∈ Namespace.joinPresence members socketId userId userInfo ↔
        user = userId ∨ user ∈ members := by
      rw [← Finmap.mem_keys, Namespace.keys_joinPresence, Finset.mem_insert,
        Finmap.mem_keys]
    rw [entered]
    by_cases present : userId ∈ members
    · refine .inl ⟨by simp [turn, present], or_iff_right_of_imp ?_⟩
      rintro rfl
      exact present
    · by_cases same : user = userId
      · subst same
        exact .inr (.inl ⟨by simp [turn, present], present, .inl rfl⟩)
      · exact .inl ⟨by simp [turn, present, Ne.symm same], by simp [same]⟩

theorem Mirrors.leave (mirrors : Mirrors members effects)
    (inside : joinedAs effects socketId = some userId) :
    Mirrors (Namespace.dropPresence members socketId userId).1
      (⟨socketId, .removePresenceMember userId,
        .removed (Namespace.dropPresence members socketId userId).2⟩ :: effects) := by
  refine mirrors.effect _ ?_ ?_ ?_
  · intro other user
    have before := mirrors.placed other user
    rw [joinedAs_cons, Namespace.lookup_dropPresence]
    by_cases own_ : socketId = other
    · subst own_
      rw [inside] at before
      by_cases same : user = userId
      · simp [same, moved]
      · simpa [same, moved, Ne.symm same] using before
    · by_cases same : user = userId
      · subst same
        simpa [own_, Ne.symm own_] using before
      · simpa [own_, same] using before
  · intro user member found
    rw [Namespace.member_dropPresence] at found
    split at found
    · exact of_decide_eq_true (Option.filter_eq_some_iff.mp found).2
    · exact mirrors.attended user member found
  · intro user
    have present : userId ∈ members := by
      have listed := (mirrors.placed socketId userId).mpr inside
      rw [← Finmap.mem_keys, Table.mem_keys_iff]
      cases found : members.lookup userId with
      | none => simp [found] at listed
      | some member => exact ⟨member, rfl⟩
    have keys := Namespace.dropPresence_keys members socketId userId
    rw [← Finmap.mem_keys, keys]
    cases gone : (Namespace.dropPresence members socketId userId).2 with
    | false =>
        exact .inl ⟨rfl, Finmap.mem_keys⟩
    | true =>
        by_cases same : user = userId
        · subst same
          exact .inr (.inr ⟨by simp [turn], present, by simp⟩)
        · exact .inl ⟨by simp [turn, Ne.symm same], by simp [same, Finmap.mem_keys]⟩

/-! The steps of the calls. -/

theorem presenceOf_dropMember (ns : Namespace) (channel socketId userId : String) :
    (dropMember ns channel socketId userId).1.presenceOf channel =
        (Namespace.dropPresence (ns.presenceOf channel) socketId userId).1 ∧
      (dropMember ns channel socketId userId).2.1 =
        (Namespace.dropPresence (ns.presenceOf channel) socketId userId).2 := by
  unfold dropMember
  cases found : ns.presence.lookup channel with
  | none =>
      have absent : ns.presenceOf channel = ∅ := by simp [Namespace.presenceOf, found]
      dsimp only
      rw [absent]
      exact ⟨rfl, rfl⟩
  | some members =>
      have stored : ns.presenceOf channel = members := by
        simp [Namespace.presenceOf, found]
      dsimp only
      rw [Namespace.presenceOf_put, if_pos rfl, stored]
      exact ⟨rfl, rfl⟩

theorem outcome_leave (emptied userGone : Bool) :
    Code.outcome decided
        (if emptied then .running (.delete userGone) else .finished (.removed userGone)) =
      some (.removed userGone) := by
  cases emptied <;> rfl

theorem decides : (code channel).Decides decided where
  undecided := by
    intro operation
    cases operation <;> rfl
  kept := by
    intro ns socketId operation point choice after progress result settled stepped
    cases point with
    | join => cases settled
    | leave => cases settled
    | delete userGone =>
        cases settled
        cases operation with
        | tryAddPresenceMember userId userInfo maxMembers => cases stepped
        | removePresenceMember userId =>
            cases stepped
            rfl

theorem local_ : Linearization.Local permits := by
  intro first second caller same
  have joined : joinedAs first caller = joinedAs second caller := by
    rw [joinedAs, same, joinedAs]
  funext operation
  cases operation with
  | tryAddPresenceMember userId userInfo maxMembers => simp only [permits, joined]
  | removePresenceMember userId => simp only [permits, joined]

theorem Mirrors.step {ns after : Namespace} {operation : Operation} {point : Point}
    {progress : Progress Point PresenceReturned} {result : PresenceReturned}
    (mirrors : Mirrors (ns.presenceOf channel) effects)
    (permitted : permits effects socketId operation = true)
    (undecided : decided point = none)
    (stepped : advance channel ns socketId operation point () = some (after, progress))
    (settled : Code.outcome decided progress = some result) :
    Mirrors (after.presenceOf channel) (⟨socketId, operation, result⟩ :: effects) := by
  cases operation with
  | tryAddPresenceMember userId userInfo maxMembers =>
      have outside := of_decide_eq_true permitted
      cases point with
      | leave => cases stepped
      | delete userGone => cases stepped
      | join =>
          simp only [advance, Option.some.injEq, Prod.mk.injEq] at stepped
          obtain ⟨rfl, rfl⟩ := stepped
          cases settled
          by_cases full : userId ∉ ns.presenceOf channel ∧
              (ns.presenceOf channel).size ≥ maxMembers
          · rw [Namespace.tryAddPresenceMember_of_full full,
              Namespace.presenceOf_put_same]
            exact mirrors.refused
          · rw [Namespace.tryAddPresenceMember_of_room full, Namespace.presenceOf_put,
              if_pos rfl]
            exact mirrors.join outside _
  | removePresenceMember userId =>
      have inside := of_decide_eq_true permitted
      cases point with
      | join => cases stepped
      | delete userGone => cases undecided
      | leave =>
          obtain ⟨remaining, gone⟩ := presenceOf_dropMember ns channel socketId userId
          simp only [advance, Option.some.injEq, Prod.mk.injEq] at stepped
          obtain ⟨rfl, rfl⟩ := stepped
          rw [outcome_leave] at settled
          cases settled
          rw [remaining, gone]
          exact mirrors.leave inside

/-! Runs. -/

/-- The channel lists who has joined and not left; what the calls return is what
they decided; and a user is new and gone in turns, in the order in which the
calls take effect. -/
structure Exact (channel : String) (state : State) : Prop where
  listed : ∀ socketId userId,
    socketId ∈ state.shared.object.presenceSockets channel userId ↔
      joinedAs state.log socketId = some userId
  returned : ∀ socketId,
    own socketId state.shared.effects = own socketId state.log
  alternate : ∀ userId, Alternate (turns userId state.shared.effects)

/-- In every interleaving in which the entry is deleted only while the channel
still has no user, no member is lost. -/
theorem no_member_lost (channel : String) (actions : List Action) (final : State)
    (reached : (system channel).run actions = some final)
    (guarded : (system channel).Guarded (DeletesEmpty channel) actions)
    (quiet : final.Quiet) : Exact channel final := by
  have holds := @Linearization.of_run _ _ _ _ _ _ _ (code channel) decided permits
    Namespace.new (DeletesEmpty channel)
    (fun ns effects => Mirrors (ns.presenceOf channel) effects) decides local_ ?_ ?_ ?_
    _ _ reached guarded
  · obtain ⟨mirrors, returned⟩ := holds
    refine ⟨fun socketId userId => ?_, returned quiet, mirrors.alternate⟩
    have placed := mirrors.placed socketId userId
    rwa [joinedAs, returned quiet socketId] at placed
  · have empty : Namespace.new.presenceOf channel = ∅ := rfl
    exact {
      placed := by simp [empty, joinedAs, own]
      attended := by simp [empty]
      alternate := fun _ => trivial
      latest := by simp [empty, turns, Finmap.notMem_empty] }
  · intro ns effects socketId operation point choice after progress result mirrors
      permitted undecided stepped settled
    exact mirrors.step permitted undecided stepped settled
  · intro state socketId operation point choice after progress mirrors spared found
      stepped passive
    cases operation with
    | tryAddPresenceMember userId userInfo maxMembers =>
        cases point with
        | join =>
            cases stepped
            exact absurd passive (by simp [decided, Code.outcome])
        | leave => cases stepped
        | delete userGone => cases stepped
    | removePresenceMember userId =>
        cases point with
        | join => cases stepped
        | leave =>
            cases stepped
            rw [outcome_leave] at passive
            exact absurd passive (by simp [decided])
        | delete userGone =>
            cases stepped
            have empty := spared (by rw [found]; rfl)
            rw [empty] at mirrors
            rw [deletePresence, Namespace.presenceOf_drop, if_pos rfl]
            exact mirrors

def serial : List Action :=
  [.begin "1.1" (.tryAddPresenceMember "ann" (.ofJson .null) 10), .advance "1.1" (),
    .begin "1.1" (.removePresenceMember "ann"), .advance "1.1" (), .advance "1.1" (),
    .begin "2.2" (.tryAddPresenceMember "bob" (.ofJson .null) 10), .advance "2.2" ()]

theorem no_member_lost_serial :
    ∃ final, (system "presence-room").run serial = some final ∧
      Exact "presence-room" final :=
  ⟨_, rfl, no_member_lost "presence-room" serial _ rfl (by decide) rfl⟩

/-- Bob joins after Ann's leave has emptied the channel and before it deletes the
entry. -/
def overtaken : List Action :=
  [.begin "1.1" (.tryAddPresenceMember "ann" (.ofJson .null) 10), .advance "1.1" (),
    .begin "1.1" (.removePresenceMember "ann"), .advance "1.1" (),
    .begin "2.2" (.tryAddPresenceMember "bob" (.ofJson .null) 10), .advance "2.2" (),
    .advance "1.1" ()]

theorem member_lost :
    ∃ final, (system "presence-room").run overtaken = some final ∧ final.Quiet ∧
      ¬ Exact "presence-room" final :=
  ⟨_, rfl, rfl, fun exact_ =>
    absurd ((exact_.listed "2.2" "bob").mpr (by decide)) (by decide)⟩

end RushSocket.Adapter.Attendance
