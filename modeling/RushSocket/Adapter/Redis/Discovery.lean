import RushSocket.Adapter.Redis.Authenticity

namespace RushSocket.Adapter.Redis.Exchange

open Data Transition

/-! What a node knows of its peers when its discovery is over. -/

/-- The peer has been heard of since, unless that is too long ago. -/
def Remembers (now since : Nat) (peer : String) (pubsub : RedisPubSub) : Prop :=
  (∃ lastSeen, pubsub.knownNodes.lookup peer = some lastSeen ∧ since ≤ lastSeen) ∨
    since + RedisPubSub.staleThreshold ≤ now

def Remembered (shared : Shared) (nodeId peer : String) (since : Nat) : Prop :=
  since ≤ shared.now ∧ ∀ other site, shared.sites.lookup other = some site →
    other = nodeId → Remembers shared.now since peer site.pubsub

def Discovered (readFloat : DecimalText → Option DecimalText) (past : Set State)
    (state : State) : Operation → Returned → Prop
  | .discoverPeers nodeId, .peers requestId ended count =>
      ∃ began responses, state.shared.issued.lookup requestId =
          some { operation := .discoverPeers nodeId, began } ∧
        responses <+: acceptances requestId state.log ∧ responses.length = count ∧
        (∀ response ∈ responses, Answered readFloat past response.responderNode
          .discoverPeers began ended response.payload) ∧
        ∃ finishing ∈ past, finishing.shared.now = ended ∧
          ∀ response ∈ responses,
            Remembered finishing.shared nodeId response.responderNode began
  | _, _ => True

structure Recalls (readFloat : DecimalText → Option DecimalText) (state : State)
    (past : Set State) : Prop where
  handling : ∀ nodeId operation senderNode response,
    state.calls.lookup (.listener nodeId) =
        some (operation, .handling ⟨senderNode, .response response⟩) →
      ∀ requestType began,
        AskedBy state.shared response.requestId nodeId requestType began →
          Remembered state.shared nodeId senderNode began
  accepted : ∀ requestId, ∀ response ∈ acceptances requestId state.log,
    ∀ nodeId requestType began,
      AskedBy state.shared requestId nodeId requestType began →
        Remembered state.shared nodeId response.responderNode began
  results : ∀ call ∈ state.log, Discovered readFloat past state call.operation call.result

/-! One step. -/

section

variable {now since : Nat} {peer : String} {pubsub : RedisPubSub}

theorem Remembers.later {later : Nat} (remembers : Remembers now since peer pubsub)
    (longer : now ≤ later) : Remembers later since peer pubsub :=
  remembers.imp_right fun stale => stale.trans longer

theorem Remembers.pruneNodes (remembers : Remembers now since peer pubsub) :
    Remembers now since peer (pubsub.pruneNodes now) := by
  cases remembers with
  | inr stale => exact .inr stale
  | inl heard =>
      obtain ⟨lastSeen, listed, after⟩ := heard
      cases recent : decide (now - lastSeen < RedisPubSub.staleThreshold) with
      | true =>
          refine .inl ⟨lastSeen, ?_, after⟩
          rw [RedisPubSub.pruneNodes, Table.lookup_retain, listed]
          exact Option.filter_eq_some_iff.mpr ⟨rfl, recent⟩
      | false =>
          have silent : RedisPubSub.staleThreshold ≤ now - lastSeen :=
            Nat.le_of_not_lt (of_decide_eq_false recent)
          have positive : 0 < RedisPubSub.staleThreshold := by decide
          exact .inr (by omega)

theorem Remembers.recordPeer (begun : since ≤ now) (sender : String)
    (remembers : sender ≠ peer → Remembers now since peer pubsub) :
    Remembers now since peer (pubsub.recordPeer sender now) := by
  cases same : decide (sender = peer) with
  | true =>
      refine .inl ⟨now, ?_, begun⟩
      rw [RedisPubSub.recordPeer, Table.lookup_put, if_pos (of_decide_eq_true same).symm]
  | false =>
      have other := of_decide_eq_false same
      apply (remembers other).imp_left
      intro heard
      obtain ⟨lastSeen, listed, after⟩ := heard
      refine ⟨lastSeen, ?_, after⟩
      rw [RedisPubSub.recordPeer, Table.lookup_put, if_neg (Ne.symm other)]
      exact listed

end

section

variable {readFloat : DecimalText → Option DecimalText} {past : Set State} {state : State}
  {operation : Operation} {point : Point} {shared next : Shared}
  {progress : Progress Point Returned} {nodeId peer : String} {since : Nat}

theorem Remembered.asks (remembered : Remembered shared nodeId peer since)
    (asks : Asks shared operation point next progress) :
    Remembered next nodeId peer since := by
  obtain ⟨begun, each⟩ := remembered
  let holds (other : String) (pubsub : RedisPubSub) : Prop :=
    other = nodeId → Remembers shared.now since peer pubsub
  cases asks with
  | disconnect | publish | draw | send | wake | fail => exact ⟨begun, each⟩
  | pass elapsed =>
      refine ⟨begun.trans (Nat.le_add_right _ _), fun other site found same => ?_⟩
      exact (each other site found same).later (Nat.le_add_right _ _)
  | change => exact ⟨begun, forall_change holds each⟩
  | count question asked =>
      refine ⟨begun, forall_setPubsub holds (fun other _ => each other) fun same => ?_⟩
      exact (each _ _ asked same).pruneNodes
  | insert question asked =>
      exact ⟨begun, forall_setPubsub holds (fun other _ => each other) (each _ _ asked)⟩
  | finish asked | discover asked =>
      exact ⟨begun, forall_setPubsub holds (fun other _ => each other) (each _ _ asked)⟩

theorem Remembered.receives {listening : String} {site : Site}
    (remembered : Remembered shared nodeId peer since)
    (present : shared.sites.lookup listening = some site)
    (receives : Receives readFloat shared listening site point next progress) :
    Remembered next nodeId peer since := by
  obtain ⟨begun, each⟩ := remembered
  let holds (other : String) (pubsub : RedisPubSub) : Prop :=
    other = nodeId → Remembers shared.now since peer pubsub
  cases receives with
  | skip | take | hear | compute | respond => exact ⟨begun, each⟩
  | accept | ignore =>
      exact ⟨begun, forall_setPubsub holds (fun other _ => each other) (each _ _ present)⟩
  | record envelope =>
      refine ⟨begun, forall_setPubsub holds (fun other _ => each other) fun same => ?_⟩
      exact Remembers.recordPeer begun _ fun _ => each _ _ present same

theorem remembered_recorded {envelope : PubSubEnvelope} {site : Site}
    (begun : since ≤ shared.now) :
    Remembered (shared.setPubsub nodeId
      (site.pubsub.recordPeer envelope.senderNode shared.now)) nodeId envelope.senderNode
      since := by
  refine ⟨begun, ?_⟩
  let holds (other : String) (pubsub : RedisPubSub) : Prop :=
    other = nodeId → Remembers shared.now since envelope.senderNode pubsub
  apply forall_setPubsub holds
  · intro other different _ _ same
    exact absurd same different
  · intro _
    exact Remembers.recordPeer begun _ fun other => absurd rfl other

theorem Discovered.extend {later : Set State} {after : State} {result : Returned}
    (follows : Follows past state later after)
    (discovered : Discovered readFloat past state operation result) :
    Discovered readFloat later after operation result := by
  unfold Discovered at discovered ⊢
  split
  · obtain ⟨began, responses, issued, first, count, each, finishing, passed, same⟩ :=
      discovered
    refine ⟨began, responses, follows.issued _ _ issued,
      first.trans (follows.accepted _), count, fun response member => ?_, finishing,
      follows.past passed, same⟩
    exact (each response member).extend follows.past (Nat.le_refl _)
  · trivial

end

namespace Recalls

variable {readFloat : DecimalText → Option DecimalText} {past : Set State} {state : State}
  {caller : Caller} {operation : Operation} {point : Point} {shared : Shared}
  {progress : Progress Point Returned}

theorem asked_before (inv : Inv readFloat state past) {requestId nodeId : String}
    {requestType : RequestType} {began : Nat} {response : Response}
    (member : response ∈ acceptances requestId state.log)
    (either : AskedBy state.shared requestId nodeId requestType began ∨
      requestId ∉ state.shared.issued) :
    AskedBy state.shared requestId nodeId requestType began := by
  apply either.resolve_right
  intro fresh
  obtain ⟨_, _, _, ⟨_, _, issued⟩, _⟩ := inv.accepted requestId response member
  exact fresh (Finmap.mem_of_lookup_eq_some issued)

theorem discovered (recalls : Recalls readFloat state past) (inv : Inv readFloat state past)
    (passed : state ∈ past) {result : Returned}
    (found : state.calls.lookup caller = some (operation, point))
    (asks : Asks state.shared operation point shared progress)
    (finished : progress = .finished result) :
    Discovered readFloat past state operation result := by
  have underway := inv.calls _ _ _ found
  cases asks with
  | pass | change | disconnect | publish | fail | finish =>
      cases finished
      trivial
  | draw | insert | send | wake => cases finished
  | count =>
      split at finished
      · cases finished
        cases operation <;> trivial
      · cases finished
  | @discover nodeId requestId site ending count asked counted =>
      cases finished
      obtain ⟨began, issued, _⟩ := underway
      have question : AskedBy state.shared requestId nodeId .discoverPeers began :=
        ⟨_, rfl, issued⟩
      have told (responses : List Response)
          (first : responses <+: acceptances requestId state.log)
          (length : responses.length = count) :
          Discovered readFloat past state (.discoverPeers nodeId)
            (.peers requestId state.shared.now count) := by
        refine ⟨began, responses, issued, first, length, fun response member => ?_, state,
          passed, rfl, fun response member => ?_⟩
        · obtain ⟨_, _, _, askedToo, _, _, answered⟩ :=
            inv.accepted requestId response (first.subset member)
          obtain ⟨_, rfl, rfl⟩ := question.unique askedToo
          exact answered
        · exact recalls.accepted requestId response (first.subset member) _ _ _ question
      cases counted with
      | inl none_ => exact told [] List.nil_prefix none_.symm
      | inr some_ =>
          obtain ⟨pending, waiting, same⟩ := some_
          obtain ⟨_, whole⟩ := inv.pending_of_lookup asked issued waiting
          apply told _ (List.prefix_refl _)
          rw [same, congrArg PendingState.responses whole, List.length_map]

theorem asks (recalls : Recalls readFloat state past) (inv : Inv readFloat state past)
    (passed : state ∈ past)
    (found : state.calls.lookup caller = some (operation, point))
    (asks : Asks state.shared operation point shared progress) :
    let after := state.settle caller operation shared progress
    Recalls readFloat after (insert after past) := by
  intro after
  obtain ⟨index, rfl⟩ := inv.task found asks
  have settled : after.shared = shared := Calls.settle_shared ..
  have follows : Follows past state (insert after past) after := asks_follows asks _
  have same (requestId : String) :
      acceptances requestId after.log = acceptances requestId state.log :=
    acceptances_settle (silent_of_asks asks) requestId
  constructor
  · intro nodeId called senderNode response handled requestType began asked
    rw [Calls.lookup_settle, if_neg nofun] at handled
    rw [settled] at asked ⊢
    obtain ⟨_, _, earlier, _⟩ := inv.genuine_response handled
    apply Remembered.asks _ asks
    apply recalls.handling nodeId called senderNode response handled requestType
    cases Inv.asks_askedBy asks asked with
    | inl before => exact before
    | inr fresh =>
        obtain ⟨_, _, issued⟩ := earlier
        exact absurd (Finmap.mem_of_lookup_eq_some issued) fresh
  · intro requestId response member nodeId requestType began asked
    rw [settled] at asked ⊢
    rw [same] at member
    apply Remembered.asks _ asks
    apply recalls.accepted requestId response member nodeId requestType
    exact asked_before inv member (Inv.asks_askedBy asks asked)
  · intro call member
    apply Discovered.extend follows
    cases progress with
    | running => exact recalls.results call member
    | finished result =>
        cases List.mem_cons.mp member with
        | inr earlier => exact recalls.results call earlier
        | inl same =>
            subst same
            exact recalls.discovered inv passed found asks rfl

theorem receives (recalls : Recalls readFloat state past) (inv : Inv readFloat state past)
    {nodeId : String} {site : Site}
    (found : state.calls.lookup caller = some (.receive nodeId, point))
    (present : state.shared.sites.lookup nodeId = some site)
    (receives : Receives readFloat state.shared nodeId site point shared progress) :
    let after := state.settle caller (.receive nodeId) shared progress
    Recalls readFloat after (insert after past) := by
  intro after
  have caller := inv.listener found
  subst caller
  have settled : after.shared = shared := Calls.settle_shared ..
  have follows : Follows past state (insert after past) after := receives_follows receives _
  constructor
  · intro listening called senderNode response handled requestType began asked
    rw [settled] at asked ⊢
    have before := Inv.receives_askedBy receives asked
    rw [Calls.lookup_settle] at handled
    split at handled
    · rename_i same
      cases same
      obtain ⟨_, running⟩ := Inv.eq_of_call handled
      cases receives with
      | skip | take | hear | compute | accept | ignore | respond => cases running
      | record envelope =>
          cases running
          obtain ⟨_, _, issued⟩ := before
          exact remembered_recorded (inv.issued _ _ issued)
    · apply Remembered.receives _ present receives
      exact recalls.handling listening called senderNode response handled requestType began
        before
  · intro requestId response member asker requestType began asked
    rw [settled] at asked ⊢
    have before := Inv.receives_askedBy receives asked
    apply Remembered.receives _ present receives
    cases receives with
    | accept =>
        change response ∈ acceptances requestId (_ :: state.log) at member
        rw [acceptances_accepted, List.mem_append] at member
        cases member with
        | inl earlier => exact recalls.accepted requestId response earlier _ _ _ before
        | inr last =>
            split at last
            · rename_i same
              cases List.mem_singleton.mp last
              subst same
              obtain ⟨_, _, askedToo, _⟩ := inv.genuine_response found
              obtain ⟨rfl, _⟩ := before.unique askedToo
              have sender := (inv.genuine_inHand found List.mem_cons_self).2.1
              rw [sender]
              exact recalls.handling _ _ _ _ found _ _ before
            · cases last
    | skip | take | record | hear | compute | ignore | respond =>
        apply recalls.accepted requestId response _ _ _ _ before
        rw [← acceptances_settle]
        · exact member
        · intro _ same
          cases same
  · intro call member
    apply Discovered.extend follows
    cases progress with
    | running => exact recalls.results call member
    | finished result =>
        cases List.mem_cons.mp member with
        | inr earlier => exact recalls.results call earlier
        | inl same =>
            subst same
            trivial

theorem begins (recalls : Recalls readFloat state past) :
    let after := { state with
      calls := state.calls.insert caller (operation, enter operation) }
    Recalls readFloat after (insert after past) := by
  intro after
  have follows : Follows past state (insert after past) after := follows_begin caller
  constructor
  · intro nodeId called senderNode response handled
    rw [Table.lookup_put] at handled
    split at handled
    · cases operation <;> cases handled
    · exact recalls.handling nodeId called senderNode response handled
  · exact recalls.accepted
  · intro call member
    exact (recalls.results call member).extend follows

theorem start (nodes : Table String LocalAdapter) :
    let state : State := { shared := .start nodes, calls := ∅, log := [] }
    Recalls readFloat state {state} := by
  intro state
  constructor
  · intro nodeId called senderNode response handled
    rw [Finmap.lookup_empty] at handled
    cases handled
  · intro requestId response member
    cases member
  · intro call member
    cases member

end Recalls

section

variable {readFloat : DecimalText → Option DecimalText} {nodes : Table String LocalAdapter}
  {actions : List (CallAction Caller Operation Choice)} {final : State}

end

/-! A node that has just started finds the other. -/

end RushSocket.Adapter.Redis.Exchange
