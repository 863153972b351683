import RushSocket.Adapter.Redis.Provenance

namespace RushSocket.Adapter.Redis.Exchange

open Data Transition

/-! What requests and discoveries keep. -/

namespace Inv

variable {readFloat : DecimalText → Option DecimalText} {past : Set State}
  {state : State} {caller : Caller} {operation : Operation} {point : Point}
  {shared : Shared} {progress : Progress Point Returned}

theorem asks_askedBy {requestId nodeId : String} {requestType : RequestType} {began : Nat}
    (asks : Asks state.shared operation point shared progress)
    (asked : AskedBy shared requestId nodeId requestType began) :
    AskedBy state.shared requestId nodeId requestType began ∨
      requestId ∉ state.shared.issued := by
  cases asks with
  | draw question present fresh =>
      obtain ⟨operation, questionToo, issued⟩ := asked
      rw [Shared.issue, Table.lookup_put] at issued
      split at issued
      · rename_i same
        exact .inr (same ▸ fresh)
      · exact .inl ⟨operation, questionToo, issued⟩
  | _ => exact .inl asked

theorem asks_owned (asks : Asks state.shared operation point shared progress)
    (next : Point) (running : progress = .running next) (requestId : String)
    (about : next.requestId = some requestId) :
    point.requestId = some requestId ∨ requestId ∉ state.shared.issued := by
  cases asks with
  | pass | change | disconnect | publish | fail | finish | discover => cases running
  | draw question present fresh =>
      cases running
      right
      cases operation with
      | discoverPeers =>
          cases about
          exact fresh
      | _ =>
          cases about
          exact fresh
  | count =>
      split at running
      · cases running
      · cases running
        exact .inl about
  | insert =>
      cases running
      exact .inl about
  | send question asked order reaches either =>
      cases running
      cases either with
      | inl same =>
          cases same
          exact .inl about
      | inr same =>
          cases same
          exact .inl about
  | wake =>
      cases running
      exact .inl about

/-! Each part of the invariant after a step that asks. -/

section

variable (inv : Inv readFloat state past) {index : Nat}
  (found : state.calls.lookup (.task index) = some (operation, point))
  (asks : Asks state.shared operation point shared progress)
include inv found asks

theorem asks_issued (requestId : String) (issue : Issue)
    (drawn : shared.issued.lookup requestId = some issue) : issue.began ≤ shared.now := by
  cases asks with
  | pass elapsed => exact (inv.issued requestId issue drawn).trans (Nat.le_add_right _ _)
  | draw question present fresh =>
      rw [Shared.issue, Table.lookup_put] at drawn
      split at drawn
      · cases drawn
        exact Nat.le_refl _
      · exact inv.issued requestId issue drawn
  | _ => exact inv.issued requestId issue drawn

theorem asks_messages (nodeId : String) (envelope : PubSubEnvelope)
    (member : envelope ∈ mail readFloat
      (state.settle (.task index) operation shared progress) nodeId) :
    let next := state.settle (.task index) operation shared progress
    Genuine readFloat (insert next past) next.shared nodeId envelope := by
  intro next
  have follows : Follows past state (insert next past) next := asks_follows asks _
  cases posts_of_asks asks member with
  | inl earlier => exact follows.genuine (inv.messages nodeId envelope earlier)
  | inr posted =>
      apply follows.genuine
      cases posted with
      | broadcast present => exact ⟨present, trivial⟩
      | request question present requestId =>
          obtain ⟨⟨began, issued⟩, _⟩ := inv.calls _ _ _ found
          exact ⟨present, rfl, began, operation, question, issued⟩
      | response => cases asks

theorem asks_peers (nodeId : String) (site : Site)
    (present : shared.sites.lookup nodeId = some site) :
    ∀ peer ∈ site.pubsub.knownNodes, peer ∈ state.shared.sites ∧ peer ≠ nodeId := by
  revert nodeId site
  let holds (nodeId : String) (pubsub : RedisPubSub) : Prop :=
    ∀ peer ∈ pubsub.knownNodes, peer ∈ state.shared.sites ∧ peer ≠ nodeId
  cases asks with
  | pass | disconnect | publish | draw | send | wake | fail => exact inv.peers
  | change nodeId locals => exact forall_change holds inv.peers
  | count question asked =>
      apply forall_setPubsub holds fun other _ => inv.peers other
      intro peer kept
      exact inv.peers _ _ asked peer (mem_pruneNodes kept)
  | insert question asked =>
      exact forall_setPubsub holds (fun other _ => inv.peers other) (inv.peers _ _ asked)
  | finish asked | discover asked =>
      exact forall_setPubsub holds (fun other _ => inv.peers other) (inv.peers _ _ asked)

theorem asks_once (requestId issuer : String) (requestType : RequestType) (began : Nat)
    (asked : AskedBy shared requestId issuer requestType began) (responder : String) :
    tokens readFloat (state.settle (.task index) operation shared progress) requestId issuer
      responder ≤ 1 := by
  cases asks_askedBy asks asked with
  | inl earlier =>
      cases @tokens_asks_le readFloat state _ _ _ _ requestId issuer responder index
          asks with
      | inl fewer => exact fewer.trans (inv.once _ _ _ _ earlier responder)
      | inr sent =>
          obtain ⟨same, more⟩ := sent
          subst same
          obtain ⟨_, untouched⟩ := inv.calls _ _ _ found
          rw [tokens_of_untouched untouched] at more
          exact more
  | inr fresh =>
      have unsent : point ≠ .publishing requestId := by
        intro same
        obtain ⟨_, issued⟩ := inv.issued_of_call found (congrArg Point.requestId same)
        exact fresh (Finmap.mem_of_lookup_eq_some issued)
      rw [tokens_of_untouched (asks_untouched asks unsent (inv.untouched_of_fresh fresh))]
      exact Nat.zero_le 1

end

theorem asks_accepted (inv : Inv readFloat state past) (index : Nat)
    (asks : Asks state.shared operation point shared progress) (requestId : String) :
    let next := state.settle (.task index) operation shared progress
    ∀ response ∈ acceptances requestId next.log,
      ∃ issuer requestType began, AskedBy next.shared requestId issuer requestType began ∧
        response.responderNode ∈ next.shared.sites ∧ response.responderNode ≠ issuer ∧
        Answered readFloat (insert next past) response.responderNode requestType began
          next.shared.now response.payload := by
  intro next response member
  have follows : Follows past state (insert next past) next := asks_follows asks _
  rw [acceptances_settle (silent_of_asks asks)] at member
  obtain ⟨issuer, requestType, began, asked, present, other, answered⟩ :=
    inv.accepted requestId response member
  exact ⟨issuer, requestType, began, follows.askedBy asked, follows.sites _ present, other,
    answered.extend follows.past follows.clock⟩

section

variable (inv : Inv readFloat state past) (passed : state ∈ past) {index : Nat}
  (found : state.calls.lookup (.task index) = some (operation, point))
  (asks : Asks state.shared operation point shared progress)
include inv passed found asks

theorem asks_own {next : Point} (running : progress = .running next) :
    let after := state.settle (.task index) operation shared progress
    Underway readFloat (insert after past) after operation next := by
  intro after
  have follows : Follows past state (insert after past) after := asks_follows asks _
  have untouched {requestId : String} (unsent : point ≠ .publishing requestId)
      (before : Untouched readFloat state requestId) :
      Untouched readFloat after requestId :=
    asks_untouched asks unsent before
  have settled : after.shared = shared := Calls.settle_shared ..
  have underway := inv.calls _ _ _ found
  cases asks with
  | pass | change | disconnect | publish | fail | finish | discover => cases running
  | @draw _ nodeId requestId requestType question present fresh =>
      cases running
      have new : Untouched readFloat after requestId :=
        untouched (by intro same; cases same) (inv.untouched_of_fresh fresh)
      have issued : after.shared.issued.lookup requestId =
          some { operation, began := state.shared.now } := by
        rw [settled, Shared.issue, Table.lookup_put, if_pos rfl]
      cases operation with
      | request => exact ⟨⟨_, issued⟩, new⟩
      | discoverPeers =>
          refine ⟨⟨_, issued, by decide, ?_⟩, new⟩
          intro _ _ same
          cases same
      | pass | change | disconnect | publish | receive => cases question
  | @count _ nodeId requestId requestType site question asked =>
      obtain ⟨⟨began, issued⟩, new⟩ := underway
      split at running
      · cases running
      · rename_i positive
        cases running
        refine ⟨⟨began, follows.issued _ _ issued, Nat.pos_of_ne_zero positive, ?_⟩,
          untouched (by intro same; cases same) new⟩
        intro other otherType same
        cases same
        cases question
        apply Knew.extend follows.past follows.clock
        exact ⟨state, passed, inv.issued _ _ issued, Nat.le_refl _, site, asked, rfl⟩
  | insert question asked =>
      cases running
      obtain ⟨⟨began, issued, _⟩, new⟩ := underway
      exact ⟨⟨began, follows.issued _ _ issued⟩, untouched (by intro same; cases same) new⟩
  | send question asked order reaches either =>
      cases running
      obtain ⟨⟨began, issued⟩, _⟩ := underway
      cases either with
      | inl same =>
          cases same
          exact ⟨began, follows.issued _ _ issued⟩
      | inr same =>
          cases same
          exact ⟨began, follows.issued _ _ issued, trivial⟩
  | @wake _ nodeId requestId requestType site question asked =>
      cases running
      obtain ⟨began, issued⟩ := underway
      exact ⟨began, follows.issued _ _ issued,
        follows.ended (inv.ended_of_pending asked question issued)⟩

theorem asks_calls (caller : Caller) (called : Operation) (place : Point)
    (foundNext : (state.settle (.task index) operation shared progress).calls.lookup
      caller = some (called, place)) :
    let after := state.settle (.task index) operation shared progress
    Underway readFloat (insert after past) after called place := by
  intro after
  rw [Calls.lookup_settle] at foundNext
  split at foundNext
  · obtain ⟨rfl, running⟩ := eq_of_call foundNext
    exact inv.asks_own passed found asks running
  · rename_i other
    apply (asks_follows asks _).underway _ (inv.calls _ _ _ foundNext)
    intro requestId about untouched
    apply asks_untouched asks _ untouched
    intro same
    cases same
    exact other (inv.owned _ _ _ foundNext _ _ _ found requestId about rfl)

end

section

variable (inv : Inv readFloat state past) {index : Nat}
  (found : state.calls.lookup (.task index) = some (operation, point))
  (asks : Asks state.shared operation point shared progress)
include inv found asks

theorem asks_pending (nodeId : String) (site : Site)
    (present : shared.sites.lookup nodeId = some site) :
    let after := state.settle (.task index) operation shared progress
    ∀ requestId pending, site.pubsub.pending.lookup requestId = some pending →
      Awaiting (insert after past) after nodeId requestId pending := by
  intro after
  have follows : Follows past state (insert after past) after := asks_follows asks _
  revert nodeId site
  let holds (nodeId : String) (pubsub : RedisPubSub) : Prop :=
    ∀ requestId pending, pubsub.pending.lookup requestId = some pending →
      Awaiting (insert after past) after nodeId requestId pending
  have kept : ∀ nodeId site, state.shared.sites.lookup nodeId = some site →
      holds nodeId site.pubsub := by
    intro nodeId site present requestId pending waiting
    apply follows.awaiting _ (inv.pending nodeId site present requestId pending waiting)
    exact acceptances_settle (silent_of_asks asks) requestId
  cases asks with
  | pass | disconnect | publish | draw | send | wake | fail => exact kept
  | change nodeId locals => exact forall_change holds kept
  | count question asked =>
      exact forall_setPubsub holds (fun other _ => kept other) (kept _ _ asked)
  | finish asked | discover asked =>
      apply forall_setPubsub holds fun other _ => kept other
      intro requestId pending waiting
      rw [RedisPubSub.removePending, Table.lookup_drop] at waiting
      split at waiting
      · cases waiting
      · exact kept _ _ asked requestId pending waiting
  | @insert _ nodeId requestId requestType site expectedCount question asked =>
      apply forall_setPubsub holds fun other _ => kept other
      intro other pending waiting
      rw [RedisPubSub.insertPending, Table.lookup_put] at waiting
      split at waiting
      · rename_i same
        subst same
        cases waiting
        obtain ⟨⟨began, issued, expected⟩, untouched⟩ := inv.calls _ _ _ found
        refine ⟨_, requestType, follows.issued _ _ issued, question,
          expected.extend follows.past follows.clock, ?_⟩
        have none_ : acceptances other after.log = [] := untouched.accepted
        rw [none_]
        rfl
      · exact kept _ _ asked other pending waiting

theorem asks_result {result : Returned} (finished : progress = .finished result) :
    Truthful readFloat past state operation result := by
  have underway := inv.calls _ _ _ found
  cases asks with
  | pass | change | disconnect | publish | fail | discover =>
      cases finished
      trivial
  | draw | insert | send | wake => cases finished
  | count question asked =>
      obtain ⟨⟨began, issued⟩, _⟩ := underway
      split at finished
      · cases finished
        cases operation with
        | request => exact ⟨began, issued, .inl rfl⟩
        | _ => trivial
      · cases finished
  | @finish nodeId requestId requestType site received asked =>
      cases finished
      obtain ⟨began, issued, ended⟩ := underway
      refine ⟨began, issued, ?_⟩
      cases received with
      | none => exact .inl rfl
      | some payloads => exact .inr (ended _ _ rfl)

theorem asks_results (call : Finished Caller Operation Returned)
    (member : call ∈ (state.settle (.task index) operation shared progress).log) :
    let after := state.settle (.task index) operation shared progress
    Truthful readFloat (insert after past) after call.operation call.result := by
  intro after
  have follows : Follows past state (insert after past) after := asks_follows asks _
  apply follows.truthful
  cases progress with
  | running => exact inv.results call member
  | finished result =>
      cases List.mem_cons.mp member with
      | inr earlier => exact inv.results call earlier
      | inl same =>
          subst same
          exact inv.asks_result found asks rfl

end

theorem asks (inv : Inv readFloat state past) (passed : state ∈ past)
    (found : state.calls.lookup caller = some (operation, point))
    (asks : Asks state.shared operation point shared progress) :
    let after := state.settle caller operation shared progress
    Inv readFloat after (insert after past) := by
  intro after
  obtain ⟨index, rfl⟩ := inv.task found asks
  have settled : after.shared = shared := Calls.settle_shared ..
  have follows : Follows past state (insert after past) after := asks_follows asks _
  constructor
  · exact inv.roles_settle found
  · rw [settled]
    exact inv.asks_issued found asks
  · exact inv.asks_messages found asks
  · intro nodeId
    rw [Calls.lookup_settle, if_neg nofun]
    exact inv.others nodeId
  · rw [settled]
    intro nodeId site present peer known
    obtain ⟨listed, other⟩ := inv.asks_peers found asks nodeId site present peer known
    exact ⟨settled ▸ follows.sites peer listed, other⟩
  · rw [settled]
    exact inv.asks_once found asks
  · exact inv.asks_accepted index asks
  · exact inv.asks_calls passed found asks
  · exact inv.owned_settle found (asks_owned asks)
  · rw [settled]
    exact inv.asks_pending found asks
  · exact inv.asks_results found asks

end Inv

end RushSocket.Adapter.Redis.Exchange
