import RushSocket.Adapter.Namespace
import RushSocket.Transition.Linearization

namespace RushSocket.Adapter.SignedIn

open Data Transition

/-! Concurrent calls on the index of the signed-in sockets.  A removal empties
the set of a user under its guard and deletes the key after the guard is gone. -/

inductive Operation where
  | addUser (userId : String)
  | removeUser (userId : String)
  deriving DecidableEq

inductive Point where
  | insert
  | drop
  | delete
  deriving DecidableEq

def dropUser (ns : Namespace) (userId socketId : String) : Namespace × Bool :=
  match ns.users.lookup userId with
  | some sockets =>
      ({ ns with users := ns.users.insert userId (sockets.erase socketId) },
        sockets.erase socketId = ∅)
  | none => (ns, false)

def deleteUser (ns : Namespace) (userId : String) : Namespace :=
  { ns with users := ns.users.erase userId }

/-- Without other calls in between the two blocks are the removal. -/
theorem removeUser_eq_blocks (ns : Namespace) (userId socketId : String) :
    ns.removeUser userId socketId =
      if (dropUser ns userId socketId).2 then
        deleteUser (dropUser ns userId socketId).1 userId
      else (dropUser ns userId socketId).1 := by
  unfold Namespace.removeUser dropUser
  cases ns.users.lookup userId with
  | none => rfl
  | some sockets =>
      by_cases emptied : sockets.erase socketId = ∅
      · have erased := Table.drop_put ns.users userId (sockets.erase socketId)
        simp [emptied, deleteUser, ← erased]
      · simp [emptied]

def advance (ns : Namespace) (socketId : String) :
    Operation → Point → Unit → Option (Namespace × Progress Point Unit)
  | .addUser userId, .insert, _ => some (ns.addUser userId socketId, .finished ())
  | .removeUser userId, .drop, _ =>
      let (dropped, emptied) := dropUser ns userId socketId
      some (dropped, if emptied then .running .delete else .finished ())
  | .removeUser userId, .delete, _ => some (deleteUser ns userId, .finished ())
  | _, _, _ => none

def code : Code Namespace String Operation Point Unit Unit where
  enter
    | .addUser _ => .insert
    | .removeUser _ => .drop
  advance := advance

def decided : Point → Option Unit
  | .delete => some ()
  | .insert | .drop => none

abbrev Log := List (Finished String Operation Unit)

/-- A socket signs in at most once, and signs out at most once, after that. -/
def permits (log : Log) (socketId : String) : Operation → Bool
  | .addUser _ => own socketId log = []
  | .removeUser userId =>
      own socketId log = [⟨socketId, .addUser userId, ()⟩]

abbrev State := Linearization.State Namespace String Operation Point Unit
abbrev Action := CallAction String Operation Unit

def connected (sockets : Table String ConnHandle) : Namespace :=
  { Namespace.new with sockets }

def system (sockets : Table String ConnHandle) : System State Action :=
  Linearization.system code decided permits (connected sockets)

/-- The socket has signed in as the user and not out again. -/
def signedIn (log : Log) (socketId userId : String) : Bool :=
  ⟨socketId, .addUser userId, ()⟩ ∈ log ∧ ⟨socketId, .removeUser userId, ()⟩ ∉ log

def deletes : Option (Operation × Point) → Option String
  | some (.removeUser userId, .delete) => some userId
  | _ => none

/-- A key is deleted only while its set is still empty or absent. -/
def DeletesEmpty (state : State) : Action → Prop
  | .begin _ _ => True
  | .advance socketId _ =>
      ∀ userId ∈ deletes (state.calls.lookup socketId),
        state.shared.object.users.members userId = ∅

instance (state : State) : (action : Action) → Decidable (DeletesEmpty state action)
  | .begin _ _ => .isTrue trivial
  | .advance socketId _ =>
      inferInstanceAs (Decidable (∀ userId ∈ deletes (state.calls.lookup socketId),
        state.shared.object.users.members userId = ∅))

def Indexed (ns : Namespace) (effects : Log) : Prop :=
  ∀ socketId userId,
    socketId ∈ ns.users.members userId ↔ signedIn effects socketId userId = true

variable {ns : Namespace} {effects : Log} {socketId userId : String}

theorem signedIn_own {first second : Log}
    (same : own socketId first = own socketId second) (userId : String) :
    signedIn first socketId userId = signedIn second socketId userId := by
  have entries : ∀ operation, (⟨socketId, operation, ()⟩ : Finished _ _ Unit) ∈ first ↔
      (⟨socketId, operation, ()⟩ : Finished _ _ Unit) ∈ second := by
    intro operation
    have listed := congrArg (⟨socketId, operation, ()⟩ ∈ ·) same
    simpa only [mem_own, and_true, eq_iff_iff] using listed
  simp only [signedIn, entries]

theorem Indexed.add (indexed : Indexed ns effects)
    (fresh : own socketId effects = []) :
    Indexed (ns.addUser userId socketId)
      (⟨socketId, .addUser userId, ()⟩ :: effects) := by
  intro other user
  have before := indexed other user
  have none_ : ∀ operation,
      (⟨socketId, operation, ()⟩ : Finished _ _ Unit) ∉ effects := by
    intro operation listed
    have listed := mem_own.mpr ⟨listed, rfl⟩
    rw [fresh] at listed
    cases listed
  rw [Namespace.members_addUser]
  by_cases same : user = userId ∧ other = socketId
  · obtain ⟨rfl, rfl⟩ := same
    simp [signedIn, none_]
  · have unsigned : signedIn (⟨socketId, .addUser userId, ()⟩ :: effects) other user =
        signedIn effects other user := by
      simp only [signedIn, List.mem_cons, Finished.mk.injEq, Operation.addUser.injEq]
      grind
    rw [unsigned, ← before]
    grind

theorem members_dropUser (other : String) :
    (dropUser ns userId socketId).1.users.members other =
      if other = userId then (ns.users.members userId).erase socketId
      else ns.users.members other := by
  unfold dropUser
  cases found : ns.users.lookup userId with
  | none =>
      rw [Table.members_of_none found, Finset.erase_empty]
      by_cases same : other = userId
      · rw [if_pos same, same]
        exact Table.members_of_none found
      · rw [if_neg same]
  | some sockets =>
      rw [Table.members_of_lookup found, Table.members, Table.lookup_put]
      split <;> rfl

theorem Indexed.drop (indexed : Indexed ns effects)
    (alone : own socketId effects = [⟨socketId, .addUser userId, ()⟩]) :
    Indexed (dropUser ns userId socketId).1
      (⟨socketId, .removeUser userId, ()⟩ :: effects) := by
  intro other user
  have before := indexed other user
  rw [members_dropUser]
  have entry : ∀ operation, (⟨socketId, operation, ()⟩ : Finished _ _ Unit) ∈ effects →
      operation = .addUser userId := by
    intro operation listed
    have listed := mem_own.mpr ⟨listed, rfl⟩
    rw [alone] at listed
    simpa using listed
  by_cases same : other = socketId
  · subst same
    have unsigned : signedIn (⟨other, .removeUser userId, ()⟩ :: effects) other user =
        false := by
      refine decide_eq_false fun signed => ?_
      obtain ⟨added, kept⟩ := signed
      rw [List.mem_cons] at added
      have own_ := entry _ (added.resolve_left nofun)
      cases own_
      exact kept List.mem_cons_self
    have outside : user ≠ userId → other ∉ ns.users.members user := by
      intro different member
      obtain ⟨added, _⟩ := of_decide_eq_true (before.mp member)
      cases entry _ added
      exact different rfl
    rw [unsigned]
    grind
  · have unsigned : signedIn (⟨socketId, .removeUser userId, ()⟩ :: effects) other user =
        signedIn effects other user := by
      simp only [signedIn, List.mem_cons, Finished.mk.injEq]
      grind
    rw [unsigned, ← before]
    grind

theorem outcome_drop (emptied : Bool) :
    Code.outcome decided (if emptied then .running .delete else .finished ()) =
      some () := by
  cases emptied <;> rfl

theorem decides : code.Decides decided where
  undecided := by
    intro operation
    cases operation <;> rfl
  kept := by
    intro ns socketId operation point choice after progress result settled stepped
    cases point with
    | insert => cases settled
    | drop => cases settled
    | delete =>
        cases operation with
        | addUser userId => cases stepped
        | removeUser userId =>
            cases stepped
            rfl

theorem local_ : Linearization.Local permits := by
  intro first second caller same
  funext operation
  cases operation <;> simp only [permits, same]

/-- The index lists the sockets that are signed in, and whoever of them is
connected is found there. -/
def Exact (state : State) : Prop :=
  (∀ socketId userId, socketId ∈ state.shared.object.users.members userId ↔
    signedIn state.log socketId userId = true) ∧
  ∀ order socketId userId handle, signedIn state.log socketId userId = true →
    state.shared.object.sockets.lookup socketId = some handle →
      handle ∈ state.shared.object.getSocketsForUser order userId

/-- In every interleaving in which a key is deleted only while its set is still
empty, no socket drops out of the index. -/
theorem no_socket_lost (sockets : Table String ConnHandle) (actions : List Action)
    (final : State) (reached : (system sockets).run actions = some final)
    (guarded : (system sockets).Guarded DeletesEmpty actions) (quiet : final.Quiet) :
    Exact final := by
  have holds := @Linearization.of_run _ _ _ _ _ _ _ code decided permits
    (connected sockets) DeletesEmpty Indexed decides local_ ?_ ?_ ?_ _ _ reached guarded
  · have indexed : ∀ socketId userId,
        socketId ∈ final.shared.object.users.members userId ↔
          signedIn final.log socketId userId = true := by
      intro socketId userId
      rw [← signedIn_own (holds.2 quiet socketId)]
      exact holds.1 socketId userId
    refine ⟨indexed, fun order socketId userId handle signed found => ?_⟩
    refine List.mem_filterMap.mpr ⟨socketId, ?_, found⟩
    exact order.mem_list.mpr ((indexed socketId userId).mpr signed)
  · intro socketId userId
    simp [connected, Namespace.new, signedIn]
  · intro ns effects socketId operation point choice after progress result indexed
      permitted undecided stepped settled
    cases operation with
    | addUser userId =>
        cases point with
        | insert =>
            cases stepped
            exact indexed.add (of_decide_eq_true permitted)
        | drop => cases stepped
        | delete => cases stepped
    | removeUser userId =>
        cases point with
        | insert => cases stepped
        | drop =>
            cases stepped
            exact indexed.drop (of_decide_eq_true permitted)
        | delete => cases undecided
  · intro state socketId operation point choice after progress indexed spared found
      stepped passive
    cases operation with
    | addUser userId =>
        cases point with
        | insert =>
            cases stepped
            exact absurd passive (by simp [decided, Code.outcome])
        | drop => cases stepped
        | delete => cases stepped
    | removeUser userId =>
        cases point with
        | insert => cases stepped
        | drop =>
            cases stepped
            rw [outcome_drop] at passive
            exact absurd passive (by simp [decided])
        | delete =>
            cases stepped
            intro other user
            have empty := spared userId (by rw [found]; rfl)
            rw [deleteUser, Table.members_drop_of_empty empty]
            exact indexed other user

def serial : List Action :=
  [.begin "1.1" (.addUser "ann"), .advance "1.1" (),
    .begin "1.1" (.removeUser "ann"), .advance "1.1" (), .advance "1.1" (),
    .begin "2.2" (.addUser "ann"), .advance "2.2" ()]

def remaining : Table String ConnHandle := Finmap.singleton "2.2" ⟨"2.2"⟩

theorem no_socket_lost_serial :
    ∃ final, (system remaining).run serial = some final ∧ Exact final :=
  ⟨_, rfl, no_socket_lost remaining serial _ rfl (by decide) rfl⟩

/-- The second socket signs in after the first has emptied the set and before it
deletes the key. -/
def overtaken : List Action :=
  [.begin "1.1" (.addUser "ann"), .advance "1.1" (),
    .begin "1.1" (.removeUser "ann"), .advance "1.1" (),
    .begin "2.2" (.addUser "ann"), .advance "2.2" (), .advance "1.1" ()]

theorem socket_lost :
    ∃ final, (system remaining).run overtaken = some final ∧ final.Quiet ∧
      ¬ Exact final :=
  ⟨_, rfl, rfl, fun exact_ =>
    absurd ((exact_.1 "2.2" "ann").mpr (by decide)) (by decide)⟩

end RushSocket.Adapter.SignedIn
