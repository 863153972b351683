import RushSocket.Adapter.Namespace
import RushSocket.Transition.Calls

namespace RushSocket.Adapter.Membership

open Data Transition

/-! Concurrent membership calls on one namespace.  Each map call or guarded
block is one step; the removals empty the set under its guard and delete the
key only after the guard is gone. -/

inductive Operation where
  | addToChannel (channel : String)
  | removeFromChannel (channel : String)
  | removeSocket
  deriving DecidableEq

inductive Point where
  | lookup
  | insert (found : String)
  | drop
  | delete
  | reverse (vacated : Bool)
  | take
  | uncount
  | takeReverse
  | loop (rest : Finset String) (vacated : List String)
  | deleteVisited (channel : String) (rest : Finset String) (vacated : List String)
  deriving DecidableEq

inductive Choice where
  | proceed
  | visit (channel : String)
  deriving DecidableEq

inductive Returned where
  | occupied (wasEmpty : Bool)
  | vacated (empty : Bool)
  | vacatedChannels (channels : List String)
  deriving DecidableEq

def enter : Operation → Point
  | .addToChannel _ => .lookup
  | .removeFromChannel _ => .drop
  | .removeSocket => .take

def advance (ns : Namespace) (socketId : String) :
    Operation → Point → Choice → Option (Namespace × Progress Point Returned)
  | .addToChannel _, .lookup, .proceed =>
      some (ns, .running (.insert (ns.findSocketId socketId)))
  | .addToChannel channel, .insert found, .proceed =>
      let (inserted, wasEmpty) := ns.insertMember found channel
      some (inserted, .finished (.occupied wasEmpty))
  | .removeFromChannel channel, .drop, .proceed =>
      let (dropped, vacated) := ns.dropMember socketId channel
      some (dropped, .running (if vacated then .delete else .reverse false))
  | .removeFromChannel channel, .delete, .proceed =>
      some (ns.deleteChannel channel, .running (.reverse true))
  | .removeFromChannel channel, .reverse vacated, .proceed =>
      some (ns.dropReverse socketId channel, .finished (.vacated vacated))
  | .removeSocket, .take, .proceed =>
      let (taken, registered) := ns.takeSocket socketId
      some (taken, .running (if registered then .uncount else .takeReverse))
  | .removeSocket, .uncount, .proceed =>
      some (ns.uncountSocket, .running .takeReverse)
  | .removeSocket, .takeReverse, .proceed =>
      let (reversed, channels) := ns.takeReverse socketId
      some (reversed, .running (.loop channels []))
  | .removeSocket, .loop rest vacated, .visit channel =>
      if channel ∈ rest then
        let (dropped, empty) := ns.dropMember socketId channel
        some (dropped, .running
          (if empty then .deleteVisited channel (rest.erase channel) vacated
          else .loop (rest.erase channel) vacated))
      else none
  | .removeSocket, .loop rest vacated, .proceed =>
      if rest = ∅ then some (ns, .finished (.vacatedChannels vacated)) else none
  | .removeSocket, .deleteVisited channel rest vacated, .proceed =>
      some (ns.deleteChannel channel, .running (.loop rest (vacated ++ [channel])))
  | _, _, _ => none

def code : Code Namespace String Operation Point Choice Returned where
  enter := enter
  advance := advance

abbrev State := Calls Namespace String Operation Point Returned
abbrev Action := CallAction String Operation Choice

def registered (socketIds : List String) : Namespace :=
  socketIds.foldl (fun ns socketId => ns.addSocket ⟨socketId⟩) .new

/-- Calls of one socket never overlap; any call may begin when none is in
progress. -/
def system (socketIds : List String) : System State Action :=
  Calls.system code (fun _ _ _ => true) (registered socketIds)

def Operation.concerns : Operation → String → Bool
  | .addToChannel other, channel => other = channel
  | .removeFromChannel other, channel => other = channel
  | .removeSocket, _ => true

/-- The last finished operation of the socket that concerns the channel is an
addition. -/
def joined : List (Finished String Operation Returned) → String → String → Bool
  | [], _, _ => false
  | done :: earlier, socketId, channel =>
      if done.caller = socketId ∧ done.operation.concerns channel then
        done.operation = .addToChannel channel
      else joined earlier socketId channel

def deletes : Option (Operation × Point) → Option String
  | some (.removeFromChannel channel, .delete) => some channel
  | some (.removeSocket, .deleteVisited channel _ _) => some channel
  | _ => none

/-- A key is deleted only while its set is still empty or absent. -/
def DeletesEmpty (state : State) : Action → Prop
  | .begin _ _ => True
  | .advance socketId _ =>
      ∀ channel ∈ deletes (state.calls.lookup socketId),
        state.shared.channels.members channel = ∅

/-! What a call in progress has done already. -/

def heldDuring (call : Option (Operation × Point)) (channel : String)
    (joined : Bool) : Bool :=
  match call with
  | some (.removeFromChannel other, .delete)
  | some (.removeFromChannel other, .reverse _) => joined && channel ≠ other
  | some (.removeSocket, .loop rest _)
  | some (.removeSocket, .deleteVisited _ rest _) => channel ∈ rest
  | _ => joined

def indexedDuring (call : Option (Operation × Point)) (joined : Bool) : Bool :=
  match call with
  | some (.removeSocket, .loop _ _)
  | some (.removeSocket, .deleteVisited _ _ _) => false
  | _ => joined

structure Inv (state : State) : Prop where
  held : ∀ socketId channel,
    socketId ∈ state.shared.channels.members channel ↔
      heldDuring (state.calls.lookup socketId) channel
        (joined state.log socketId channel) = true
  indexed : ∀ socketId channel,
    channel ∈ state.shared.socketChannels.members socketId ↔
      indexedDuring (state.calls.lookup socketId)
        (joined state.log socketId channel) = true
  emptied : ∀ channel, state.shared.channels.lookup channel = some ∅ →
    ∃ socketId, deletes (state.calls.lookup socketId) = some channel
  named : ∀ socketId conn, state.shared.sockets.lookup socketId = some conn →
    conn.socketId = socketId
  found : ∀ socketId operation found,
    state.calls.lookup socketId = some (operation, .insert found) →
      found = socketId

def joinedAfter (operation : Operation) (channel : String) (joined : Bool) :
    Progress Point Returned → Bool
  | .running _ => joined
  | .finished _ =>
      if operation.concerns channel then operation = .addToChannel channel
      else joined

variable {state : State} {caller : String} {operation : Operation}
  {point : Point} {ns : Namespace} {progress : Progress Point Returned}

theorem joined_settle_self (channel : String) :
    joined (state.settle caller operation ns progress).log caller channel =
      joinedAfter operation channel (joined state.log caller channel) progress := by
  cases progress with
  | running point => rfl
  | finished returned =>
      simp only [Calls.settle, joined, true_and, joinedAfter]

theorem joined_settle_other {other : String} (different : other ≠ caller)
    (channel : String) :
    joined (state.settle caller operation ns progress).log other channel =
      joined state.log other channel := by
  cases progress with
  | running point => rfl
  | finished returned =>
      simp [Calls.settle, joined, Ne.symm different]

/-- An empty set is kept only until a call in progress deletes its key. -/
def Pending (state : State) : Prop :=
  ∀ channel, state.shared.channels.lookup channel = some ∅ →
    ∃ socketId, deletes (state.calls.lookup socketId) = some channel

/-- An empty set is new after a step, and then the caller is about to delete its
key, or it was kept before and the step has not deleted it. -/
def Empties (state : State) (operation : Operation) (point : Point) (ns : Namespace)
    (progress : Progress Point Returned) : Prop :=
  ∀ channel, ns.channels.lookup channel = some ∅ →
    deletes (progress.call operation) = some channel ∨
      state.shared.channels.lookup channel = some ∅ ∧
        deletes (some (operation, point)) ≠ some channel

theorem Pending.settle (pending : Pending state)
    (found : state.calls.lookup caller = some (operation, point))
    (empties : Empties state operation point ns progress) :
    Pending (state.settle caller operation ns progress) := by
  intro channel empty
  rw [Calls.settle_shared] at empty
  rcases empties channel empty with own | ⟨before, spared⟩
  · exact ⟨caller, by rw [Calls.lookup_settle, if_pos rfl, own]⟩
  · obtain ⟨socketId, deleting⟩ := pending channel before
    have different : socketId ≠ caller := by
      rintro rfl
      rw [found] at deleting
      exact spared deleting
    exact ⟨socketId, by rw [Calls.lookup_settle, if_neg different, deleting]⟩

theorem Pending.begin (pending : Pending state)
    (absent : state.calls.lookup caller = none) :
    Pending { state with
      calls := state.calls.insert caller (operation, enter operation) } := by
  intro channel empty
  obtain ⟨socketId, deleting⟩ := pending channel empty
  have different : socketId ≠ caller := by
    rintro rfl
    rw [absent] at deleting
    cases deleting
  exact ⟨socketId, by rw [Table.lookup_put, if_neg different, deleting]⟩

/-- A step keeps the invariant when it keeps it for its caller, leaves the
memberships of the others alone, and leaves no empty set without a call that
is about to delete it. -/
theorem Inv.settle (inv : Inv state)
    (found : state.calls.lookup caller = some (operation, point))
    (held : ∀ channel, caller ∈ ns.channels.members channel ↔
      heldDuring (progress.call operation) channel (joinedAfter operation channel
        (joined state.log caller channel) progress) = true)
    (indexed : ∀ channel, channel ∈ ns.socketChannels.members caller ↔
      indexedDuring (progress.call operation) (joinedAfter operation channel
        (joined state.log caller channel) progress) = true)
    (othersHeld : ∀ other channel, other ≠ caller →
      (other ∈ ns.channels.members channel ↔
        other ∈ state.shared.channels.members channel))
    (othersIndexed : ∀ other, other ≠ caller →
      ns.socketChannels.members other = state.shared.socketChannels.members other)
    (emptied : Empties state operation point ns progress)
    (named : ∀ socketId conn, ns.sockets.lookup socketId = some conn →
      state.shared.sockets.lookup socketId = some conn)
    (foundOwn : ∀ inserted, progress.call operation =
      some (operation, .insert inserted) → inserted = caller) :
    Inv (state.settle caller operation ns progress) where
  held := by
    intro socketId channel
    rw [Calls.settle_shared, Calls.lookup_settle]
    by_cases same : socketId = caller
    · subst same
      rw [if_pos rfl, joined_settle_self]
      exact held channel
    · rw [if_neg same, joined_settle_other same, othersHeld socketId channel same]
      exact inv.held socketId channel
  indexed := by
    intro socketId channel
    rw [Calls.settle_shared, Calls.lookup_settle]
    by_cases same : socketId = caller
    · subst same
      rw [if_pos rfl, joined_settle_self]
      exact indexed channel
    · rw [if_neg same, joined_settle_other same, othersIndexed socketId same]
      exact inv.indexed socketId channel
  emptied := Pending.settle inv.emptied found emptied
  named := by
    intro socketId conn stored
    rw [Calls.settle_shared] at stored
    exact inv.named socketId conn (named socketId conn stored)
  found := by
    intro socketId other inserted calling
    rw [Calls.lookup_settle] at calling
    by_cases same : socketId = caller
    · rw [if_pos same] at calling
      subst same
      have sameOperation : other = operation := by
        cases progress with
        | running next => cases calling; rfl
        | finished returned => cases calling
      subst sameOperation
      exact foundOwn inserted calling
    · rw [if_neg same] at calling
      exact inv.found socketId other inserted calling

theorem emptied_of_discard {channel other : String}
    (empty : (state.shared.channels.discard channel caller).lookup other = some ∅) :
    (other = channel ∧ (state.shared.dropMember caller channel).2 = true) ∨
      (other ≠ channel ∧ state.shared.channels.lookup other = some ∅) := by
  by_cases same : other = channel
  · subst same
    exact .inl ⟨rfl, (Namespace.dropMember_snd _ _ _).mpr empty⟩
  · rw [Table.discard, Table.lookup_modify, if_neg same] at empty
    exact .inr ⟨same, empty⟩

theorem lookup_deleteChannel {channel other : String}
    (empty : (ns.deleteChannel channel).channels.lookup other = some ∅) :
    ns.channels.lookup other = some ∅ ∧ channel ≠ other := by
  rw [Namespace.deleteChannel, Table.lookup_drop] at empty
  split at empty
  · cases empty
  · rename_i different
    exact ⟨empty, Ne.symm different⟩

theorem empties_discard {channel : String}
    (undeleting : deletes (some (operation, point)) = none)
    (deleting : (state.shared.dropMember caller channel).2 = true →
      deletes (progress.call operation) = some channel) :
    Empties state operation point
      { state.shared with channels := state.shared.channels.discard channel caller }
      progress := by
  intro other empty
  rcases emptied_of_discard empty with ⟨rfl, vacated⟩ | ⟨different, before⟩
  · exact .inl (deleting vacated)
  · exact .inr ⟨before, by simp [undeleting]⟩

theorem empties_deleteChannel {channel : String}
    (deleting : deletes (some (operation, point)) = some channel) :
    Empties state operation point (state.shared.deleteChannel channel) progress := by
  intro other empty
  obtain ⟨before, different⟩ := lookup_deleteChannel empty
  exact .inr ⟨before, by simpa [deleting] using different⟩

theorem empties_insertMember {inserted channel : String}
    (undeleting : deletes (some (operation, point)) = none) :
    Empties state operation point (state.shared.insertMember inserted channel).1
      progress := by
  intro other empty
  simp only [Namespace.insertMember, Table.lookup_enroll] at empty
  split at empty
  · simp at empty
  · exact .inr ⟨empty, by simp [undeleting]⟩

/-! One lemma for each point of the code. -/

theorem Inv.lookup {channel : String} (inv : Inv state)
    (found : state.calls.lookup caller =
      some (.addToChannel channel, .lookup)) :
    Inv (state.settle caller (.addToChannel channel) state.shared
      (.running (.insert (state.shared.findSocketId caller)))) := by
  have held := inv.held caller
  have indexed := inv.indexed caller
  rw [found] at held indexed
  refine inv.settle found held indexed (fun _ _ _ => .rfl) (fun _ _ => rfl)
    ?_ (fun _ _ stored => stored) ?_
  · intro other empty
    exact .inr ⟨empty, by simp [deletes]⟩
  · intro inserted equal
    cases equal
    unfold Namespace.findSocketId
    cases stored : state.shared.sockets.lookup caller with
    | none => rfl
    | some conn => exact inv.named caller conn stored

theorem Inv.insert {channel inserted : String} (inv : Inv state)
    (found : state.calls.lookup caller =
      some (.addToChannel channel, .insert inserted)) :
    Inv (state.settle caller (.addToChannel channel)
      (state.shared.insertMember inserted channel).1
      (.finished (.occupied (state.shared.insertMember inserted channel).2))) := by
  have held := inv.held caller
  have indexed := inv.indexed caller
  rw [found] at held indexed
  have same := inv.found caller _ inserted found
  subst same
  refine inv.settle found ?_ ?_ ?_ ?_ (empties_insertMember rfl)
    (fun _ _ stored => stored) (by simp [Progress.call])
  · intro other
    simp only [Namespace.insertMember, Table.mem_members_enroll, held other]
    simp [heldDuring, joinedAfter, Operation.concerns, Progress.call]
    grind
  · intro other
    simp only [Namespace.insertMember, Table.mem_members_enroll, indexed other]
    simp [indexedDuring, joinedAfter, Operation.concerns, Progress.call]
    grind
  · intro other otherChannel different
    simp [Namespace.insertMember, Table.mem_members_enroll, different]
  · intro other different
    simp [Namespace.insertMember, Table.members_enroll, different]

theorem Inv.drop {channel : String} (inv : Inv state)
    (found : state.calls.lookup caller =
      some (.removeFromChannel channel, .drop)) :
    Inv (state.settle caller (.removeFromChannel channel)
      (state.shared.dropMember caller channel).1
      (.running (if (state.shared.dropMember caller channel).2 then .delete
        else .reverse false))) := by
  have held := inv.held caller
  have indexed := inv.indexed caller
  rw [found] at held indexed
  rw [Namespace.dropMember_fst]
  refine inv.settle found ?_ ?_ ?_ (fun _ _ => rfl) ?_ (fun _ _ stored => stored) ?_
  · intro other
    rw [Table.mem_members_discard, held other]
    cases (state.shared.dropMember caller channel).2 <;>
      simp [heldDuring, joinedAfter, Progress.call]
  · intro other
    rw [indexed other]
    cases (state.shared.dropMember caller channel).2 <;> rfl
  · intro other otherChannel different
    simp [Table.mem_members_discard, different]
  · apply empties_discard rfl
    intro vacated
    simp [Progress.call, vacated, deletes]
  · intro inserted equal
    cases vacated : (state.shared.dropMember caller channel).2 <;>
      simp [Progress.call, vacated] at equal

theorem members_deleteChannel {channel : String}
    (empty : ns.channels.members channel = ∅) (other : String) :
    (ns.deleteChannel channel).channels.members other =
      ns.channels.members other :=
  Table.members_drop_of_empty empty other

theorem Inv.delete {channel : String} (inv : Inv state)
    (found : state.calls.lookup caller =
      some (.removeFromChannel channel, .delete))
    (empty : state.shared.channels.members channel = ∅) :
    Inv (state.settle caller (.removeFromChannel channel)
      (state.shared.deleteChannel channel) (.running (.reverse true))) := by
  have held := inv.held caller
  have indexed := inv.indexed caller
  rw [found] at held indexed
  refine inv.settle found ?_ indexed ?_ (fun _ _ => rfl) (empties_deleteChannel rfl)
    (fun _ _ stored => stored) (by simp [Progress.call])
  · intro other
    rw [members_deleteChannel empty]
    exact held other
  · intro other otherChannel different
    rw [members_deleteChannel empty]

theorem Inv.reverse {channel : String} {vacated : Bool} (inv : Inv state)
    (found : state.calls.lookup caller =
      some (.removeFromChannel channel, .reverse vacated)) :
    Inv (state.settle caller (.removeFromChannel channel)
      (state.shared.dropReverse caller channel) (.finished (.vacated vacated))) := by
  have held := inv.held caller
  have indexed := inv.indexed caller
  rw [found] at held indexed
  refine inv.settle found ?_ ?_ (fun _ _ _ => .rfl) ?_ ?_
    (fun _ _ stored => stored) (by simp [Progress.call])
  · intro other
    simp only [Namespace.dropReverse, held other]
    simp [heldDuring, joinedAfter, Operation.concerns, Progress.call]
    grind
  · intro other
    simp only [Namespace.dropReverse, Table.mem_members_discard, indexed other]
    simp [indexedDuring, joinedAfter, Operation.concerns, Progress.call]
    grind
  · intro other different
    simp [Namespace.dropReverse, Table.members_discard, different]
  · intro other empty
    exact .inr ⟨empty, by simp [deletes]⟩

theorem Inv.take (inv : Inv state)
    (found : state.calls.lookup caller = some (.removeSocket, .take)) :
    Inv (state.settle caller .removeSocket (state.shared.takeSocket caller).1
      (.running (if (state.shared.takeSocket caller).2 then .uncount
        else .takeReverse))) := by
  have held := inv.held caller
  have indexed := inv.indexed caller
  rw [found] at held indexed
  cases (state.shared.takeSocket caller).2 with
  | true | false =>
      refine inv.settle found held indexed (fun _ _ _ => .rfl) (fun _ _ => rfl)
        (fun other empty => .inr ⟨empty, by simp [deletes]⟩) ?_
        (by simp [Progress.call])
      intro socketId conn stored
      simp only [Namespace.takeSocket, Table.lookup_drop] at stored
      split at stored
      · cases stored
      · exact stored

theorem Inv.uncount (inv : Inv state)
    (found : state.calls.lookup caller = some (.removeSocket, .uncount)) :
    Inv (state.settle caller .removeSocket state.shared.uncountSocket
      (.running .takeReverse)) := by
  have held := inv.held caller
  have indexed := inv.indexed caller
  rw [found] at held indexed
  exact inv.settle found held indexed (fun _ _ _ => .rfl) (fun _ _ => rfl)
    (fun other empty => .inr ⟨empty, by simp [deletes]⟩)
    (fun _ _ stored => stored) (by simp [Progress.call])

theorem Inv.takeReverse (inv : Inv state)
    (found : state.calls.lookup caller = some (.removeSocket, .takeReverse)) :
    Inv (state.settle caller .removeSocket (state.shared.takeReverse caller).1
      (.running (.loop (state.shared.takeReverse caller).2 []))) := by
  have held := inv.held caller
  have indexed := inv.indexed caller
  rw [found] at held indexed
  refine inv.settle found ?_ ?_ (fun _ _ _ => .rfl) ?_
    (fun other empty => .inr ⟨empty, by simp [deletes]⟩)
    (fun _ _ stored => stored) (by simp [Progress.call])
  · intro channel
    simp only [Namespace.takeReverse, held channel, heldDuring, Progress.call,
      decide_eq_true_eq, indexed channel, indexedDuring]
  · intro channel
    simp [Namespace.takeReverse, Table.members_drop, indexedDuring, Progress.call]
  · intro other different
    simp [Namespace.takeReverse, Table.members_drop, different]

theorem Inv.visit {channel : String} {rest : Finset String}
    {vacated : List String} (inv : Inv state)
    (found : state.calls.lookup caller =
      some (.removeSocket, .loop rest vacated)) :
    Inv (state.settle caller .removeSocket
      (state.shared.dropMember caller channel).1
      (.running (if (state.shared.dropMember caller channel).2 then
          .deleteVisited channel (rest.erase channel) vacated
        else .loop (rest.erase channel) vacated))) := by
  have held := inv.held caller
  have indexed := inv.indexed caller
  rw [found] at held indexed
  rw [Namespace.dropMember_fst]
  refine inv.settle found ?_ ?_ ?_ (fun _ _ => rfl) ?_ (fun _ _ stored => stored) ?_
  · intro other
    rw [Table.mem_members_discard, held other]
    cases (state.shared.dropMember caller channel).2 <;>
      simp [heldDuring, Progress.call, and_comm]
  · intro other
    rw [indexed other]
    cases (state.shared.dropMember caller channel).2 <;>
      simp [indexedDuring, Progress.call]
  · intro other otherChannel different
    simp [Table.mem_members_discard, different]
  · apply empties_discard rfl
    intro vacated
    simp [Progress.call, vacated, deletes]
  · intro inserted equal
    cases vacated : (state.shared.dropMember caller channel).2 <;>
      simp [Progress.call, vacated] at equal

theorem Inv.finishLoop {vacated : List String} (inv : Inv state)
    (found : state.calls.lookup caller = some (.removeSocket, .loop ∅ vacated)) :
    Inv (state.settle caller .removeSocket state.shared
      (.finished (.vacatedChannels vacated))) := by
  have held := inv.held caller
  have indexed := inv.indexed caller
  rw [found] at held indexed
  refine inv.settle found ?_ ?_ (fun _ _ _ => .rfl) (fun _ _ => rfl)
    (fun other empty => .inr ⟨empty, by simp [deletes]⟩)
    (fun _ _ stored => stored) (by simp [Progress.call])
  · intro channel
    rw [held channel]
    simp [heldDuring, joinedAfter, Operation.concerns, Progress.call]
  · intro channel
    rw [indexed channel]
    simp [indexedDuring, joinedAfter, Operation.concerns, Progress.call]

theorem Inv.deleteVisited {channel : String} {rest : Finset String}
    {vacated : List String} (inv : Inv state)
    (found : state.calls.lookup caller =
      some (.removeSocket, .deleteVisited channel rest vacated))
    (empty : state.shared.channels.members channel = ∅) :
    Inv (state.settle caller .removeSocket (state.shared.deleteChannel channel)
      (.running (.loop rest (vacated ++ [channel])))) := by
  have held := inv.held caller
  have indexed := inv.indexed caller
  rw [found] at held indexed
  refine inv.settle found ?_ indexed ?_ (fun _ _ => rfl) (empties_deleteChannel rfl)
    (fun _ _ stored => stored) (by simp [Progress.call])
  · intro other
    rw [members_deleteChannel empty]
    exact held other
  · intro other otherChannel different
    rw [members_deleteChannel empty]

theorem empties_advance {choice : Choice}
    (advanced : Membership.advance state.shared caller operation point choice =
      some (ns, progress)) :
    Empties state operation point ns progress := by
  unfold Membership.advance at advanced
  split at advanced
  all_goals
    try simp only [Option.some.injEq, Prod.mk.injEq, reduceCtorEq] at advanced
  case h_2 =>
    obtain ⟨rfl, rfl⟩ := advanced
    exact empties_insertMember rfl
  case h_3 =>
    obtain ⟨rfl, rfl⟩ := advanced
    rw [Namespace.dropMember_fst]
    apply empties_discard rfl
    intro vacated
    simp [Progress.call, vacated, deletes]
  case h_4 | h_11 =>
    obtain ⟨rfl, rfl⟩ := advanced
    exact empties_deleteChannel rfl
  case h_9 =>
    split at advanced
    · simp only [Option.some.injEq, Prod.mk.injEq] at advanced
      obtain ⟨rfl, rfl⟩ := advanced
      rw [Namespace.dropMember_fst]
      apply empties_discard rfl
      intro vacated
      simp [Progress.call, vacated, deletes]
    · cases advanced
  case h_10 =>
    split at advanced
    · cases advanced
      exact fun channel empty => .inr ⟨empty, by simp [deletes]⟩
    · cases advanced
  all_goals
    obtain ⟨rfl, rfl⟩ := advanced
    exact fun channel empty => .inr ⟨empty, by simp [deletes]⟩

theorem Inv.advance {choice : Choice} (inv : Inv state)
    (found : state.calls.lookup caller = some (operation, point))
    (spared : ∀ channel ∈ deletes (some (operation, point)),
      state.shared.channels.members channel = ∅)
    (advanced : Membership.advance state.shared caller operation point choice =
      some (ns, progress)) :
    Inv (state.settle caller operation ns progress) := by
  unfold Membership.advance at advanced
  split at advanced
  · cases advanced
    exact inv.lookup found
  · cases advanced
    exact inv.insert found
  · cases advanced
    exact inv.drop found
  · cases advanced
    exact inv.delete found (spared _ rfl)
  · cases advanced
    exact inv.reverse found
  · cases advanced
    exact inv.take found
  · cases advanced
    exact inv.uncount found
  · cases advanced
    exact inv.takeReverse found
  · split at advanced
    · cases advanced
      exact inv.visit found
    · cases advanced
  · split at advanced
    · rename_i done
      subst done
      cases advanced
      exact inv.finishLoop found
    · cases advanced
  · cases advanced
    exact inv.deleteVisited found (spared _ rfl)
  · cases advanced

theorem Inv.begin (inv : Inv state)
    (absent : state.calls.lookup caller = none) :
    Inv { state with
      calls := state.calls.insert caller (operation, enter operation) } where
  held := by
    intro socketId channel
    rw [inv.held socketId channel, Table.lookup_put]
    by_cases same : socketId = caller
    · subst same
      rw [if_pos rfl, absent]
      cases operation <;> rfl
    · rw [if_neg same]
  indexed := by
    intro socketId channel
    rw [inv.indexed socketId channel, Table.lookup_put]
    by_cases same : socketId = caller
    · subst same
      rw [if_pos rfl, absent]
      cases operation <;> rfl
    · rw [if_neg same]
  emptied := Pending.begin inv.emptied absent
  named := inv.named
  found := by
    intro socketId other inserted calling
    rw [Table.lookup_put] at calling
    split at calling
    · cases operation <;> cases calling
    · exact inv.found socketId other inserted calling

theorem registered_append (socketIds : List String) (socketId : String) :
    registered (socketIds ++ [socketId]) =
      (registered socketIds).addSocket ⟨socketId⟩ := by
  simp [registered]

theorem Inv.start (socketIds : List String) :
    Inv { shared := registered socketIds, calls := ∅, log := [] } := by
  induction socketIds using List.reverseRecOn with
  | nil =>
      exact {
        held := by simp [registered, Namespace.new, heldDuring, joined]
        indexed := by simp [registered, Namespace.new, indexedDuring, joined]
        emptied := by simp [registered, Namespace.new]
        named := by simp [registered, Namespace.new]
        found := by simp }
  | append_singleton socketIds socketId induction =>
      rw [registered_append]
      exact {
        held := induction.held
        indexed := induction.indexed
        emptied := induction.emptied
        named := by
          intro other conn stored
          rw [Namespace.addSocket, Table.lookup_put] at stored
          split at stored
          · rename_i same
            cases stored
            exact same.symm
          · exact induction.named other conn stored
        found := by simp }

theorem Inv.of_run {socketIds : List String} {actions : List Action}
    {final : State} (reached : (system socketIds).run actions = some final)
    (guarded : (system socketIds).Guarded DeletesEmpty actions) : Inv final := by
  refine Calls.invariant (Inv.start socketIds) ?_ ?_ reached guarded
  · intro state caller operation inv absent _
    exact inv.begin absent
  · intro state caller operation point choice ns progress inv found spared advanced
    refine inv.advance found ?_ advanced
    intro channel deleting
    exact spared channel (by rw [found]; exact deleting)

/-- The two indexes mirror the log and no set is empty. -/
def Exact (state : State) : Prop :=
  (∀ socketId channel,
    (socketId ∈ state.shared.channels.members channel ↔
      joined state.log socketId channel = true) ∧
    (socketId ∈ state.shared.channels.members channel ↔
      channel ∈ state.shared.socketChannels.members socketId)) ∧
  ∀ channel, state.shared.channels.lookup channel ≠ some ∅

theorem Inv.exact (inv : Inv state) (quiet : state.Quiet) : Exact state := by
  refine ⟨fun socketId channel => ?_, fun channel empty => ?_⟩
  · have held := inv.held socketId channel
    have indexed := inv.indexed socketId channel
    rw [quiet.lookup] at held indexed
    exact ⟨held, held.trans indexed.symm⟩
  · obtain ⟨socketId, deleting⟩ := inv.emptied channel empty
    rw [quiet.lookup] at deleting
    cases deleting

/-- In every interleaving in which a key is deleted only while its set is
still empty, no subscriber is lost. -/
theorem no_subscriber_lost (socketIds : List String) (actions : List Action)
    (final : State)
    (reached : (system socketIds).run actions = some final)
    (guarded : (system socketIds).Guarded DeletesEmpty actions)
    (quiet : final.Quiet) : Exact final :=
  (Inv.of_run reached guarded).exact quiet

/-- In every interleaving, an empty set that is kept will be deleted. -/
theorem pending_of_run {socketIds : List String} {actions : List Action}
    {final : State} (reached : (system socketIds).run actions = some final) :
    Pending final := by
  refine Calls.invariant (Inv.start socketIds).emptied ?_ ?_ reached
    ((system socketIds).meets_true _ actions)
  · intro state caller operation pending absent _
    exact Pending.begin pending absent
  · intro state caller operation point choice ns progress pending found _ advanced
    exact Pending.settle pending found (empties_advance advanced)

instance (state : State) : (action : Action) → Decidable (DeletesEmpty state action)
  | .begin _ _ => .isTrue trivial
  | .advance socketId _ =>
      inferInstanceAs (Decidable (∀ channel ∈ deletes (state.calls.lookup socketId),
        state.shared.channels.members channel = ∅))

def serial : List Action :=
  [.begin "1.1" (.addToChannel "room"), .advance "1.1" .proceed,
    .advance "1.1" .proceed, .begin "1.1" (.removeFromChannel "room"),
    .advance "1.1" .proceed, .advance "1.1" .proceed, .advance "1.1" .proceed,
    .begin "2.2" (.addToChannel "room"), .advance "2.2" .proceed,
    .advance "2.2" .proceed]

theorem no_subscriber_lost_serial :
    ∃ final, (system ["1.1", "2.2"]).run serial = some final ∧ Exact final :=
  ⟨_, rfl, no_subscriber_lost ["1.1", "2.2"] serial _ rfl (by decide) rfl⟩

/-- The second socket joins after the first has emptied the set and before it
deletes the key. -/
def racing : List Action :=
  [.begin "1.1" (.addToChannel "room"), .advance "1.1" .proceed,
    .advance "1.1" .proceed, .begin "1.1" (.removeFromChannel "room"),
    .advance "1.1" .proceed, .begin "2.2" (.addToChannel "room"),
    .advance "2.2" .proceed, .advance "2.2" .proceed,
    .advance "1.1" .proceed, .advance "1.1" .proceed]

theorem subscriber_lost_racing :
    ∃ final, (system ["1.1", "2.2"]).run racing = some final ∧ final.Quiet ∧
      joined final.log "2.2" "room" = true ∧
      "2.2" ∉ final.shared.channels.members "room" ∧ ¬ Exact final := by
  refine ⟨_, rfl, rfl, by decide, by decide, ?_⟩
  intro exact
  have held := (exact.1 "2.2" "room").1
  revert held
  decide

end RushSocket.Adapter.Membership
