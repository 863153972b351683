import RushSocket.Adapter.Departure
import RushSocket.Transition.System

namespace RushSocket.Adapter.Namespace

open Data Transition

/-! The calls of a namespace one after another, and what the reverse index is
worth to a disconnect. -/

inductive MembershipCall
  | addSocket (conn : ConnHandle)
  | addToChannel (socketId channel : String)
  | removeFromChannel (socketId channel : String)
  | removeSocket (order : HashOrder) (socketId : String)

def callMembership (ns : Namespace) : MembershipCall → Namespace
  | .addSocket conn => ns.addSocket conn
  | .addToChannel socketId channel => (ns.addToChannel socketId channel).1
  | .removeFromChannel socketId channel => (ns.removeFromChannel socketId channel).1
  | .removeSocket order socketId => (ns.removeSocket order socketId).1

def membershipCalls : System Namespace MembershipCall where
  start := .new
  step ns call := some (ns.callMembership call)

/-- The two maps mirror each other, no channel is kept without sockets, and every
handle is kept under its own id. -/
structure Mirrored (ns : Namespace) : Prop where
  mirrors : ns.channels.Mirrors ns.socketChannels
  peopled : ns.channels.Peopled
  named : ∀ {socketId conn}, ns.sockets.lookup socketId = some conn →
    conn.socketId = socketId

/-- The channels that `remove_socket` reports for this one. -/
def isVacatedBy (ns : Namespace) (socketId channel : String) : Bool :=
  (ns.channels.lookup channel).any fun sockets => sockets.erase socketId = ∅

variable {ns : Namespace}

/-- One round of the loop of `removeSocket`. -/
theorem dropMemberships_cons (ns : Namespace) (socketId channel : String)
    (rest : List String) :
    ns.dropMemberships socketId (channel :: rest) =
      let next := { ns with
        channels := ns.channels.alter channel (Table.strike socketId) }
      let (final, vacated) := next.dropMemberships socketId rest
      (final, if ns.isVacatedBy socketId channel then channel :: vacated else vacated) := by
  rw [dropMemberships]
  unfold dropMember isVacatedBy Table.alter Table.strike
  cases found : ns.channels.lookup channel with
  | none => simp [Table.drop_absent found]
  | some sockets =>
      cases emptied : decide (sockets.erase socketId = ∅) with
      | true =>
          have erased := Table.drop_put ns.channels channel (∅ : Finset String)
          simp [Option.filter, of_decide_eq_true emptied, deleteChannel, erased]
      | false => simp [Option.filter, of_decide_eq_false emptied]

theorem dropMemberships_eq (socketId : String) {listed : List String}
    (nodup : listed.Nodup) (ns : Namespace) :
    ns.dropMemberships socketId listed =
      ({ ns with channels := Table.strikeAll socketId listed ns.channels },
        listed.filter (ns.isVacatedBy socketId)) := by
  induction listed generalizing ns with
  | nil => rfl
  | cons channel rest induction =>
      obtain ⟨fresh, nodup⟩ := List.nodup_cons.mp nodup
      have later : rest.filter (isVacatedBy { ns with
            channels := ns.channels.alter channel (Table.strike socketId) } socketId) =
          rest.filter (ns.isVacatedBy socketId) := by
        apply List.filter_congr
        intro other member
        have different : other ≠ channel := fun same => fresh (same ▸ member)
        simp only [isVacatedBy, Table.lookup_alter, if_neg different]
      rw [dropMemberships_cons]
      dsimp only
      rw [induction nodup, List.filter_cons, later]
      rfl

theorem mirrored_new : new.Mirrored where
  mirrors key value := by simp [new]
  peopled key := by simp [new]
  named found := by simp [new] at found

theorem Mirrored.findSocketId (mirrored : ns.Mirrored) (socketId : String) :
    ns.findSocketId socketId = socketId := by
  unfold Namespace.findSocketId
  cases found : ns.sockets.lookup socketId with
  | none => rfl
  | some conn => exact mirrored.named found

theorem Mirrored.addSocket (mirrored : ns.Mirrored) (conn : ConnHandle) :
    (ns.addSocket conn).Mirrored where
  mirrors := mirrored.mirrors
  peopled := mirrored.peopled
  named found := by
    simp only [Namespace.addSocket, Table.lookup_put] at found
    split at found
    · rename_i same
      cases found
      exact same.symm
    · exact mirrored.named found

theorem Mirrored.addToChannel (mirrored : ns.Mirrored) (socketId channel : String) :
    (ns.addToChannel socketId channel).1.Mirrored := by
  rw [Namespace.addToChannel, mirrored.findSocketId]
  exact
    { mirrors := mirrored.mirrors.enroll channel socketId
      peopled := mirrored.peopled.enroll socketId channel
      named := mirrored.named }

theorem Mirrored.removeFromChannel (mirrored : ns.Mirrored) (socketId channel : String) :
    (ns.removeFromChannel socketId channel).1.Mirrored := by
  rw [removeFromChannel_fst_eq]
  exact
    { mirrors := mirrored.mirrors.alter channel socketId
      peopled := mirrored.peopled.alter socketId channel
      named := mirrored.named }

/-- With the mirror, going through the listed channels is a full scan. -/
theorem Mirrored.removeSocket_eq (mirrored : ns.Mirrored) (order : HashOrder)
    (socketId : String) :
    ns.removeSocket order socketId =
      ({ ns with
          sockets := ns.sockets.erase socketId
          connectionCount :=
            if socketId ∈ ns.sockets then ns.connectionCount - 1 else ns.connectionCount
          channels := ns.channels.without socketId
          socketChannels := ns.socketChannels.erase socketId },
        (order.list (ns.socketChannels.members socketId)).filter
          (ns.isVacatedBy socketId)) := by
  have nodup := order.nodup (ns.socketChannels.members socketId)
  have scanned := Table.strikeAll_eq_without mirrored.mirrors mirrored.peopled nodup
    fun _ => order.mem_list
  unfold Namespace.removeSocket takeSocket takeReverse uncountSocket
  cases registered : decide (socketId ∈ ns.sockets) with
  | true =>
      simp only [if_true, dropMemberships_eq socketId nodup, scanned,
        of_decide_eq_true registered]
      rfl
  | false =>
      simp only [Bool.false_eq_true, if_false, dropMemberships_eq socketId nodup, scanned,
        of_decide_eq_false registered]
      rfl

theorem Mirrored.removeSocket (mirrored : ns.Mirrored) (order : HashOrder)
    (socketId : String) : (ns.removeSocket order socketId).1.Mirrored := by
  rw [mirrored.removeSocket_eq]
  exact
    { mirrors := mirrored.mirrors.without socketId
      peopled := Table.peopled_without ns.channels socketId
      named := fun found => by
        rw [Table.lookup_drop] at found
        split at found
        · cases found
        · exact mirrored.named found }

theorem Mirrored.call (mirrored : ns.Mirrored) (call : MembershipCall) :
    (ns.callMembership call).Mirrored := by
  cases call with
  | addSocket conn => exact mirrored.addSocket conn
  | addToChannel socketId channel => exact mirrored.addToChannel socketId channel
  | removeFromChannel socketId channel => exact mirrored.removeFromChannel socketId channel
  | removeSocket order socketId => exact mirrored.removeSocket order socketId

theorem mirrored_of_run {calls : List MembershipCall}
    (reached : membershipCalls.run calls = some ns) : ns.Mirrored := by
  refine membershipCalls.invariant_of_every_step mirrored_new
    (fun {_ call _} mirrored stepped => ?_) reached
  cases stepped
  exact mirrored.call call

theorem Mirrored.isVacatedBy (mirrored : ns.Mirrored) (socketId channel : String) :
    ns.isVacatedBy socketId channel = true ↔
      ns.channels.lookup channel = some {socketId} := by
  unfold Namespace.isVacatedBy
  cases found : ns.channels.lookup channel with
  | none => simp
  | some sockets =>
      have nonempty : sockets ≠ ∅ := fun empty =>
        mirrored.peopled channel (empty ▸ found)
      simp [Finset.erase_eq_empty_iff, nonempty]

/-- The reverse index gives the same disconnect as a full scan. -/
theorem removeSocket_eq_full_scan {calls : List MembershipCall}
    (reached : membershipCalls.run calls = some ns) (order : HashOrder)
    (socketId : String) :
    let (after, vacated) := ns.removeSocket order socketId
    after.channels = ns.channels.without socketId ∧
      (∀ channel sockets, ns.channels.lookup channel = some sockets →
        sockets ≠ ∅ ∧ (socketId ∉ sockets →
          after.channels.lookup channel = some sockets)) ∧
      vacated.Nodup ∧
      (∀ channel, channel ∈ vacated ↔
        ns.channels.lookup channel = some {socketId}) ∧
      after.sockets = ns.sockets.erase socketId ∧
      after.socketChannels = ns.socketChannels.erase socketId := by
  have mirrored := mirrored_of_run reached
  rw [mirrored.removeSocket_eq]
  refine ⟨rfl, fun channel sockets found => ⟨fun empty => ?_, fun absent => ?_⟩,
    (order.nodup _).filter _, fun channel => ?_, rfl, rfl⟩
  · exact mirrored.peopled channel (empty ▸ found)
  · refine (Table.lookup_without ns.channels socketId channel).trans ?_
    rw [found]
    refine Table.strike_of_notMem ?_ absent
    exact found ▸ mirrored.peopled channel
  · rw [List.mem_filter, mirrored.isVacatedBy, order.mem_list]
    refine ⟨And.right, fun alone => ⟨?_, alone⟩⟩
    rw [← mirrored.mirrors channel socketId, Table.members_of_lookup alone]
    exact Finset.mem_singleton_self socketId

/-- Two channels of one socket, one of them shared with a socket that was never
registered; the first was joined twice. -/
theorem removeSocket_eq_full_scan_applies :
    let calls : List MembershipCall :=
      [.addSocket ⟨"1.1"⟩, .addToChannel "1.1" "a", .addToChannel "1.1" "a",
        .addToChannel "1.1" "b", .addToChannel "2.2" "b", .removeFromChannel "2.2" "a"]
    ∃ ns, membershipCalls.run calls = some ns ∧
      (ns.removeSocket .ascending "1.1").2 = ["a"] ∧
      (ns.removeSocket .ascending "1.1").1.channels = ns.channels.without "1.1" := by
  intro calls
  refine ⟨_, rfl, by decide, ?_⟩
  exact (@removeSocket_eq_full_scan _ calls rfl .ascending "1.1").1

end RushSocket.Adapter.Namespace
