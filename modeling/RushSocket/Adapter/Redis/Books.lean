import RushSocket.Adapter.Redis.Heartbeats
import RushSocket.Data.TimedMap

namespace RushSocket.Adapter.Redis.Heartbeats

open Data Stats Transition

/-! What the log tells of the messages that a node has heard and of the stats that
were written. -/

structure Beat where
  started : Nat
  written : Nat
  stats : Value

def hearing (nodeId : String) (call : Finished Nat Operation Returned) :
    Option (Nat × TimedMap.Call String Unit) :=
  match call.operation, call.result with
  | .hear node senderNode, .heard moment =>
      if node = nodeId then
        some (moment, .set senderNode () RedisPubSub.staleThreshold)
      else none
  | _, _ => none

def hearings (nodeId : String) (log : Log) : TimedMap.History String Unit :=
  log.filterMap (hearing nodeId)

def beatOf (call : Finished Nat Operation Returned) :
    Option (Nat × TimedMap.Call String Beat) :=
  match call.operation, call.result with
  | .heartbeat nodeId, .beaten started written stats false =>
      some (written, .set nodeId { started, written, stats } statsLifetime)
  | _, _ => none

def beats (log : Log) : TimedMap.History String Beat := log.filterMap beatOf

def Silent (call : Finished Nat Operation Returned) : Prop :=
  (∀ nodeId, hearing nodeId call = none) ∧ beatOf call = none

theorem hearings_silent {call : Finished Nat Operation Returned} (silent : Silent call)
    (nodeId : String) (log : Log) : hearings nodeId (call :: log) = hearings nodeId log :=
  List.filterMap_cons_none (silent.1 nodeId)

theorem beats_silent {call : Finished Nat Operation Returned} (silent : Silent call)
    (log : Log) : beats (call :: log) = beats log :=
  List.filterMap_cons_none silent.2

/-- The known peers and the stored strings are what the log tells. -/
structure Books (keyPrefix : String) (shared : Shared) (log : Log) : Prop where
  hearingsDated : ∀ nodeId, TimedMap.Dated (hearings nodeId log) shared.now
  beatsDated : TimedMap.Dated (beats log) shared.now
  others : ∀ nodeId, ∀ dated ∈ hearings nodeId log, dated.2.key ≠ nodeId
  known : ∀ nodeId node, shared.nodes.lookup nodeId = some node →
    ∀ instant, shared.now ≤ instant → ∀ peer,
      (∃ lastSeen, node.pubsub.knownNodes.lookup peer = some lastSeen ∧
          instant - lastSeen < RedisPubSub.staleThreshold) ↔
        TimedMap.remembered (hearings nodeId log) instant peer = some ()
  stored : ∀ peer instant,
    ((shared.strings.lookup (nodeStatsKey keyPrefix peer)).bind fun (text, expires) =>
        if instant < expires then some text else none) =
      (TimedMap.remembered (beats log) instant peer).map fun beat => beat.stats.json.print

namespace Books

variable {keyPrefix : String} {shared : Shared} {log : Log}

theorem silent (books : Books keyPrefix shared log)
    {call : Finished Nat Operation Returned} (silent : Silent call) :
    Books keyPrefix shared (call :: log) where
  hearingsDated nodeId := by
    rw [hearings_silent silent]
    exact books.hearingsDated nodeId
  beatsDated := by
    rw [beats_silent silent]
    exact books.beatsDated
  others nodeId := by
    rw [hearings_silent silent]
    exact books.others nodeId
  known nodeId node found instant after peer := by
    rw [hearings_silent silent]
    exact books.known nodeId node found instant after peer
  stored peer instant := by
    rw [beats_silent silent]
    exact books.stored peer instant

theorem pass (books : Books keyPrefix shared log) (elapsed : Nat) :
    Books keyPrefix { shared with now := shared.now + elapsed } log where
  hearingsDated nodeId := by
    obtain ⟨ordered, past⟩ := books.hearingsDated nodeId
    exact ⟨ordered, fun dated member => Nat.le_add_right_of_le (past dated member)⟩
  beatsDated := by
    obtain ⟨ordered, past⟩ := books.beatsDated
    exact ⟨ordered, fun dated member => Nat.le_add_right_of_le (past dated member)⟩
  others := books.others
  known nodeId node found instant after :=
    books.known nodeId node found instant ((Nat.le_add_right _ _).trans after)
  stored := books.stored

theorem keeps (books : Books keyPrefix shared log) {nodes : Table String Node}
    (same : ∀ nodeId node, nodes.lookup nodeId = some node →
      ∃ stored, shared.nodes.lookup nodeId = some stored ∧
        ∀ instant, shared.now ≤ instant → ∀ peer,
          (∃ lastSeen, node.pubsub.knownNodes.lookup peer = some lastSeen ∧
              instant - lastSeen < RedisPubSub.staleThreshold) ↔
            ∃ lastSeen, stored.pubsub.knownNodes.lookup peer = some lastSeen ∧
              instant - lastSeen < RedisPubSub.staleThreshold) :
    Books keyPrefix { shared with nodes } log where
  hearingsDated := books.hearingsDated
  beatsDated := books.beatsDated
  others := books.others
  known nodeId node found instant after peer := by
    obtain ⟨stored, before, alike⟩ := same nodeId node found
    rw [alike instant after]
    exact books.known nodeId stored before instant after peer
  stored := books.stored

theorem change (books : Books keyPrefix shared log) (nodeId : String) (node : Node) :
    Books keyPrefix { shared with
      nodes := shared.nodes.modify nodeId fun stored =>
        { node with pubsub := stored.pubsub } } log := by
  apply books.keeps
  intro other changed found
  rw [Table.lookup_modify] at found
  split at found
  · rename_i same
    subst same
    obtain ⟨stored, before, rfl⟩ := Option.map_eq_some_iff.mp found
    exact ⟨stored, before, fun _ _ _ => Iff.rfl⟩
  · exact ⟨changed, found, fun _ _ _ => Iff.rfl⟩

/-- Who is pruned would not have counted later either. -/
theorem pruned (books : Books keyPrefix shared log) {nodeId : String} {node : Node}
    (found : shared.nodes.lookup nodeId = some node) :
    Books keyPrefix (shared.setPubsub nodeId (node.pubsub.pruneNodes shared.now))
      log := by
  apply books.keeps
  intro other changed present
  rw [Table.lookup_modify] at present
  split at present
  · rename_i same
    subst same
    rw [found] at present
    cases present
    refine ⟨node, found, fun instant after peer => ?_⟩
    simp only [RedisPubSub.pruneNodes, Table.lookup_retain, Option.filter_eq_some_iff,
      decide_eq_true_eq]
    refine exists_congr fun lastSeen => ?_
    constructor
    · exact fun kept => ⟨kept.1.1, kept.2⟩
    · exact fun kept => ⟨⟨kept.1, by omega⟩, kept.2⟩
  · exact ⟨changed, present, fun _ _ _ => Iff.rfl⟩

theorem heard (books : Books keyPrefix shared log) {nodeId senderNode : String}
    {node : Node} (found : shared.nodes.lookup nodeId = some node)
    (apart : senderNode ≠ nodeId) (caller : Nat) :
    Books keyPrefix
      (shared.setPubsub nodeId (node.pubsub.recordPeer senderNode shared.now))
      (⟨caller, .hear nodeId senderNode, .heard shared.now⟩ :: log) where
  hearingsDated other := by
    simp only [hearings, List.filterMap_cons, hearing]
    cases same : decide (nodeId = other) with
    | true =>
        rw [if_pos (of_decide_eq_true same)]
        exact TimedMap.Dated.cons (books.hearingsDated other) _
    | false =>
        rw [if_neg (of_decide_eq_false same)]
        exact books.hearingsDated other
  beatsDated := books.beatsDated
  others other := by
    simp only [hearings, List.filterMap_cons, hearing]
    cases same : decide (nodeId = other) with
    | true =>
        cases of_decide_eq_true same
        rw [if_pos rfl]
        exact List.forall_mem_cons.mpr ⟨apart, books.others nodeId⟩
    | false =>
        rw [if_neg (of_decide_eq_false same)]
        exact books.others other
  known other changed present instant after peer := by
    change Finmap.lookup other (shared.nodes.modify nodeId _) = _ at present
    rw [Table.lookup_modify] at present
    simp only [hearings, List.filterMap_cons, hearing]
    split at present
    · rename_i same
      subst same
      rw [found] at present
      cases present
      simp only [if_pos, RedisPubSub.recordPeer, Table.lookup_put]
      have before := books.known other node found instant after peer
      have lives : shared.now ≤ instant := after
      split
      · rename_i named
        subst named
        rw [TimedMap.remembered_set]
        simp only [Option.some.injEq, exists_eq_left', ite_eq_left_iff, reduceCtorEq,
          imp_false, not_not]
        omega
      · rename_i apart
        rw [TimedMap.remembered_cons_of_ne (Ne.symm apart)]
        exact before
    · rename_i apart
      rw [if_neg (Ne.symm apart)]
      exact books.known other changed present instant after peer
  stored := books.stored

theorem beaten (books : Books keyPrefix shared log) (caller : Nat) (nodeId : String)
    (started : Nat) (stats : Value) :
    Books keyPrefix (shared.set (nodeStatsKey keyPrefix nodeId) stats.json.print)
      (⟨caller, .heartbeat nodeId, .beaten started shared.now stats false⟩ :: log) where
  hearingsDated := books.hearingsDated
  beatsDated := TimedMap.Dated.cons books.beatsDated _
  others := books.others
  known := books.known
  stored peer instant := by
    have before := books.stored peer instant
    simp only [Shared.set, beats, List.filterMap_cons, beatOf, Table.lookup_put,
      nodeStatsKey_inj]
    split
    · rename_i same
      subst same
      rw [TimedMap.remembered_set, Option.bind_some]
      split <;> rfl
    · rename_i apart
      rw [TimedMap.remembered_cons_of_ne (Ne.symm apart)]
      exact before

theorem start (nodes : Table String Node) : Books keyPrefix (.start nodes) [] where
  hearingsDated nodeId := ⟨List.Pairwise.nil, nofun⟩
  beatsDated := ⟨List.Pairwise.nil, nofun⟩
  others nodeId := nofun
  known nodeId node found instant after peer := by
    simp only [Shared.start, Table.lookup_mapValues, Option.map_eq_some_iff] at found
    obtain ⟨stored, _, rfl⟩ := found
    refine iff_of_false ?_ nofun
    intro ⟨lastSeen, known, _⟩
    exact nomatch (Finmap.lookup_empty peer).symm.trans known
  stored peer instant := by
    rw [Shared.start, Finmap.lookup_empty]
    rfl

end Books

end RushSocket.Adapter.Redis.Heartbeats
