import RushSocket.Adapter.Redis.Questions

namespace RushSocket.Adapter.Redis.Exchange

open Data Transition

/-! What the listeners keep. -/

namespace Inv

variable {readFloat : DecimalText → Option DecimalText} {past : Set State}
  {state : State} {caller : Caller} {operation : Operation} {point : Point}
  {shared : Shared} {progress : Progress Point Returned}

/-! Each part of the invariant after a step of a listener. -/

section

variable {nodeId : String} {site : Site}
  (receives : Receives readFloat state.shared nodeId site point shared progress)
include receives

theorem receives_issued (requestId : String) :
    shared.issued.lookup requestId = state.shared.issued.lookup requestId := by
  cases receives <;> rfl

theorem receives_askedBy {requestId issuer : String} {requestType : RequestType}
    {began : Nat} (asked : AskedBy shared requestId issuer requestType began) :
    AskedBy state.shared requestId issuer requestType began := by
  obtain ⟨operation, question, issued⟩ := asked
  rw [receives_issued receives] at issued
  exact ⟨operation, question, issued⟩

theorem receives_requestId (next : Point) (running : progress = .running next) :
    next.requestId = none := by
  cases receives <;> cases running <;> rfl

variable (inv : Inv readFloat state past)
  (found : state.calls.lookup (.listener nodeId) = some (.receive nodeId, point))
include inv found

theorem receives_messages (present : state.shared.sites.lookup nodeId = some site)
    (receiver : String) (envelope : PubSubEnvelope)
    (member : envelope ∈ mail readFloat
      (state.settle (.listener nodeId) (.receive nodeId) shared progress) receiver) :
    let next := state.settle (.listener nodeId) (.receive nodeId) shared progress
    Genuine readFloat (insert next past) next.shared receiver envelope := by
  intro next
  have follows : Follows past state (insert next past) next := receives_follows receives _
  have genuine (senderNode : String) (request : Request)
      (same : point = .handling ⟨senderNode, .request request⟩) :
      request.senderNode = senderNode := inv.sender_of_request (same ▸ found)
  apply follows.genuine
  cases posts_of_receives found present receives genuine member with
  | inl earlier => exact inv.messages receiver envelope earlier
  | inr posted =>
      cases posted with
      | request question => cases question
      | response listed request computed arrives =>
          obtain ⟨began, asked, after, before, answer⟩ := inv.calls _ _ _ found
          exact ⟨listed, rfl, _, began, asked, computed, _, after, before, answer, arrives⟩

theorem receives_others (listening : String) :
    let next := state.settle (.listener nodeId) (.receive nodeId) shared progress
    ∀ envelope ∈ inHand (next.calls.lookup (.listener listening)),
      envelope.senderNode ≠ listening := by
  intro next envelope holds
  have own : ∀ envelope ∈ inHand (some (Operation.receive nodeId, point)),
      envelope.senderNode ≠ nodeId := found ▸ inv.others nodeId
  rw [Calls.lookup_settle] at holds
  split at holds
  · rename_i same
    cases same
    cases receives with
    | skip | hear | accept | ignore | respond => cases holds
    | take first read other =>
        cases List.mem_singleton.mp holds
        exact other
    | record => exact own envelope holds
    | compute senderNode request =>
        cases List.mem_singleton.mp holds
        rw [inv.sender_of_request found]
        exact own _ List.mem_cons_self
  · exact inv.others listening envelope holds

theorem receives_peers (other : String) (after : Site)
    (present : shared.sites.lookup other = some after)
    (asked : state.shared.sites.lookup nodeId = some site) :
    ∀ peer ∈ after.pubsub.knownNodes, peer ∈ state.shared.sites ∧ peer ≠ other := by
  revert other after
  let holds (nodeId : String) (pubsub : RedisPubSub) : Prop :=
    ∀ peer ∈ pubsub.knownNodes, peer ∈ state.shared.sites ∧ peer ≠ nodeId
  cases receives with
  | skip | take | hear | compute | respond => exact inv.peers
  | accept | ignore =>
      exact forall_setPubsub holds (fun other _ => inv.peers other) (inv.peers _ _ asked)
  | record envelope =>
      apply forall_setPubsub holds fun other _ => inv.peers other
      intro peer listed
      rw [RedisPubSub.recordPeer, Finmap.mem_insert] at listed
      cases listed with
      | inl same =>
          rw [same]
          exact ⟨(inv.genuine_inHand found List.mem_cons_self).1,
            inv.others nodeId envelope (found ▸ List.mem_cons_self)⟩
      | inr earlier => exact inv.peers _ _ asked peer earlier

theorem receives_once (requestId issuer : String) (requestType : RequestType)
    (began : Nat) (asked : AskedBy shared requestId issuer requestType began)
    (responder : String) :
    tokens readFloat (state.settle (.listener nodeId) (.receive nodeId) shared progress)
      requestId issuer responder ≤ 1 := by
  have earlier := receives_askedBy receives asked
  apply (tokens_receives_le found receives _ _).trans (inv.once _ _ _ _ earlier responder)
  · intro senderNode request same
    exact inv.sender_of_request (same ▸ found)
  · intro senderNode response same about
    subst same
    obtain ⟨_, _, askedToo, _⟩ := inv.genuine_response found
    subst about
    exact (earlier.unique askedToo).1

theorem receives_accepted (requestId : String) :
    let next := state.settle (.listener nodeId) (.receive nodeId) shared progress
    ∀ response ∈ acceptances requestId next.log,
      ∃ issuer requestType began, AskedBy next.shared requestId issuer requestType began ∧
        response.responderNode ∈ next.shared.sites ∧ response.responderNode ≠ issuer ∧
        Answered readFloat (insert next past) response.responderNode requestType began
          next.shared.now response.payload := by
  intro next response member
  have follows : Follows past state (insert next past) next := receives_follows receives _
  have before : ∃ issuer requestType began,
      AskedBy state.shared requestId issuer requestType began ∧
        response.responderNode ∈ state.shared.sites ∧ response.responderNode ≠ issuer ∧
        Answered readFloat past response.responderNode requestType began state.shared.now
          response.payload := by
    cases receives with
    | accept =>
        change response ∈ acceptances requestId (_ :: state.log) at member
        rw [acceptances_cons, List.mem_append] at member
        cases member with
        | inl earlier => exact inv.accepted requestId response earlier
        | inr last =>
            obtain ⟨same, about⟩ := List.mem_filter.mp last
            cases Option.mem_toList.mp same
            have about : response.requestId = requestId := of_decide_eq_true about
            subst about
            exact ⟨nodeId, inv.genuine_response found⟩
    | skip | take | record | hear | compute | ignore | respond =>
        apply inv.accepted requestId response
        rw [← acceptances_settle]
        · exact member
        · intro _ same
          cases same
  obtain ⟨issuer, requestType, began, asked, present, other, answered⟩ := before
  exact ⟨issuer, requestType, began, follows.askedBy asked, follows.sites _ present, other,
    answered.extend follows.past follows.clock⟩

theorem receives_calls (passed : state ∈ past)
    (present : state.shared.sites.lookup nodeId = some site) (caller : Caller)
    (called : Operation) (place : Point)
    (foundNext : (state.settle (.listener nodeId) (.receive nodeId) shared
      progress).calls.lookup caller = some (called, place)) :
    let after := state.settle (.listener nodeId) (.receive nodeId) shared progress
    Underway readFloat (insert after past) after called place := by
  intro after
  have follows : Follows past state (insert after past) after := receives_follows receives _
  rw [Calls.lookup_settle] at foundNext
  split at foundNext
  · obtain ⟨rfl, running⟩ := eq_of_call foundNext
    apply follows.underway
    · intro requestId about
      rw [receives_requestId receives place running] at about
      cases about
    · cases receives with
      | skip | hear | accept | ignore | respond => cases running
      | take | record =>
          cases running
          trivial
      | compute senderNode request order metrics =>
          cases running
          obtain ⟨_, sender, began, asked⟩ := inv.genuine_inHand found List.mem_cons_self
          obtain ⟨_, _, issued⟩ := id asked
          exact ⟨began, asked, inv.issued _ _ issued, Nat.le_refl _,
            state, passed, rfl, site, present, order, metrics, rfl⟩
  · apply follows.underway _ (inv.calls _ _ _ foundNext)
    intro requestId _ untouched
    exact inv.receives_untouched found present receives untouched

theorem receives_pending (asked : state.shared.sites.lookup nodeId = some site)
    (other : String) (after : Site) (present : shared.sites.lookup other = some after) :
    let next := state.settle (.listener nodeId) (.receive nodeId) shared progress
    ∀ requestId pending, after.pubsub.pending.lookup requestId = some pending →
      Awaiting (insert next past) next other requestId pending := by
  intro next
  have follows : Follows past state (insert next past) next := receives_follows receives _
  revert other after
  let holds (nodeId : String) (pubsub : RedisPubSub) : Prop :=
    ∀ requestId pending, pubsub.pending.lookup requestId = some pending →
      Awaiting (insert next past) next nodeId requestId pending
  have kept (silent : ∀ response, progress ≠ .finished (.accepted response)) :
      ∀ nodeId site, state.shared.sites.lookup nodeId = some site →
        holds nodeId site.pubsub := by
    intro nodeId site present requestId pending waiting
    apply follows.awaiting _ (inv.pending nodeId site present requestId pending waiting)
    exact acceptances_settle silent requestId
  cases receives with
  | skip | take | hear | compute | respond =>
      apply kept
      intro _ same
      cases same
  | record =>
      exact forall_setPubsub holds (fun other _ => kept nofun other) (kept nofun _ _ asked)
  | ignore late =>
      apply forall_setPubsub holds fun other _ => kept nofun other
      intro requestId pending waiting
      rw [RedisPubSub.handleResponse, Table.lookup_modify] at waiting
      split at waiting
      · rename_i same
        rw [Finmap.lookup_eq_none.mpr late] at waiting
        cases waiting
      · exact kept nofun _ _ asked requestId pending waiting
  | @accept senderNode response awaited =>
      obtain ⟨_, _, asker, _⟩ := inv.genuine_response found
      have elsewhere : ∀ other site, state.shared.sites.lookup other = some site →
          ∀ requestId pending, site.pubsub.pending.lookup requestId = some pending →
            response.requestId ≠ requestId →
              Awaiting (insert next past) next other requestId pending := by
        intro other site present requestId pending waiting different
        apply follows.awaiting _ (inv.pending other site present requestId pending waiting)
        exact (acceptances_accepted response _).trans (if_neg different ▸ List.append_nil _)
      apply forall_setPubsub holds
      · intro other different site present requestId pending waiting
        apply elsewhere other site present requestId pending waiting
        intro same
        obtain ⟨issue, requestType, issued, question, _⟩ :=
          inv.pending other site present requestId pending waiting
        have asked : AskedBy state.shared requestId other requestType issue.began :=
          ⟨issue.operation, question, issued⟩
        exact different (asked.unique (same ▸ asker)).1
      · intro requestId pending waiting
        rw [RedisPubSub.handleResponse, Table.lookup_modify] at waiting
        split at waiting
        · rename_i same
          subst same
          obtain ⟨before, waitingBefore, rfl⟩ := Option.map_eq_some_iff.mp waiting
          obtain ⟨issue, requestType, issued, question, expected, pushed⟩ :=
            inv.pending _ _ asked _ before waitingBefore
          refine ⟨issue, requestType, follows.issued _ _ issued, question,
            expected.extend follows.past follows.clock, ?_⟩
          have more : acceptances response.requestId next.log =
              acceptances response.requestId state.log ++ [response] :=
            (acceptances_accepted response _).trans (by rw [if_pos rfl])
          rw [more, List.map_append, PendingState.pushAll_append]
          exact congrArg (PendingState.push · response.payload) pushed
        · rename_i different
          exact elsewhere _ _ asked requestId pending waiting (Ne.symm different)

end

theorem receives_results (inv : Inv readFloat state past) {nodeId : String} {site : Site}
    (receives : Receives readFloat state.shared nodeId site point shared progress)
    (call : Finished Caller Operation Returned)
    (member : call ∈ (state.settle (.listener nodeId) (.receive nodeId) shared
      progress).log) :
    let after := state.settle (.listener nodeId) (.receive nodeId) shared progress
    Truthful readFloat (insert after past) after call.operation call.result := by
  intro after
  have follows : Follows past state (insert after past) after := receives_follows receives _
  apply follows.truthful
  cases progress with
  | running => exact inv.results call member
  | finished result =>
      cases List.mem_cons.mp member with
      | inr earlier => exact inv.results call earlier
      | inl same =>
          subst same
          trivial

theorem receives (inv : Inv readFloat state past) (passed : state ∈ past)
    {nodeId : String} {site : Site}
    (found : state.calls.lookup caller = some (.receive nodeId, point))
    (present : state.shared.sites.lookup nodeId = some site)
    (receives : Receives readFloat state.shared nodeId site point shared progress) :
    let after := state.settle caller (.receive nodeId) shared progress
    Inv readFloat after (insert after past) := by
  intro after
  have caller := inv.listener found
  subst caller
  have settled : after.shared = shared := Calls.settle_shared ..
  have follows : Follows past state (insert after past) after := receives_follows receives _
  constructor
  · exact inv.roles_settle found
  · intro requestId issue issued
    rw [settled, receives_issued receives] at issued
    exact (inv.issued requestId issue issued).trans follows.clock
  · exact receives_messages receives inv found present
  · exact receives_others receives inv found
  · intro other site there peer known
    rw [settled] at there
    obtain ⟨listed, different⟩ :=
      receives_peers receives inv found other site there present peer known
    exact ⟨follows.sites peer listed, different⟩
  · rw [settled]
    exact receives_once receives inv found
  · exact receives_accepted receives inv found
  · exact receives_calls receives inv found passed present
  · apply inv.owned_settle found
    intro next running requestId about
    rw [receives_requestId receives next running] at about
    cases about
  · rw [settled]
    exact receives_pending receives inv found present
  · exact inv.receives_results receives

theorem roles_of_permits {log : Log} (permitted : permits log caller operation = true)
    (nodeId : String) : operation = .receive nodeId ↔ caller = .listener nodeId := by
  cases caller with
  | task index =>
      refine iff_of_false ?_ nofun
      intro same
      rw [same] at permitted
      cases permitted
  | listener listening =>
      cases operation with
      | receive receiver =>
          have same : listening = receiver := of_decide_eq_true permitted
          rw [same, Operation.receive.injEq, Caller.listener.injEq]
      | pass | change | disconnect | publish | request | discoverPeers => cases permitted

theorem requestId_enter (operation : Operation) : (enter operation).requestId = none := by
  cases operation <;> rfl

theorem begins (inv : Inv readFloat state past) (absent : state.calls.lookup caller = none)
    (permitted : permits state.log caller operation = true) :
    let after := { state with
      calls := state.calls.insert caller (operation, enter operation) }
    Inv readFloat after (insert after past) := by
  intro after
  have follows : Follows past state (insert after past) after := follows_begin caller
  have mails (nodeId : String) :
      mail readFloat after nodeId = mail readFloat state nodeId :=
    mail_begin absent nodeId
  have untouched (requestId : String) (before : Untouched readFloat state requestId) :
      Untouched readFloat after requestId :=
    ⟨fun nodeId => mails nodeId ▸ before.mail nodeId, before.accepted⟩
  have cases_ {other : Caller} {called : Operation} {place : Point}
      (found : after.calls.lookup other = some (called, place)) :
      other = caller ∧ called = operation ∧ place = enter operation ∨
        other ≠ caller ∧ state.calls.lookup other = some (called, place) := by
    rw [Table.lookup_put] at found
    split at found
    · rename_i same
      cases found
      exact .inl ⟨same, rfl, rfl⟩
    · rename_i different
      exact .inr ⟨different, found⟩
  constructor
  · intro other called place found nodeId
    cases cases_ found with
    | inl new =>
        obtain ⟨rfl, rfl, _⟩ := new
        exact roles_of_permits permitted nodeId
    | inr old => exact inv.roles _ _ _ old.2 nodeId
  · exact inv.issued
  · intro nodeId envelope member
    exact follows.genuine (inv.messages nodeId envelope (mails nodeId ▸ member))
  · intro nodeId envelope holds
    rw [Table.lookup_put] at holds
    split at holds
    · cases operation <;> cases holds
    · exact inv.others nodeId envelope holds
  · exact inv.peers
  · intro requestId issuer requestType began asked responder
    rw [tokens, mails, mails]
    exact inv.once requestId issuer requestType began asked responder
  · intro requestId response member
    obtain ⟨issuer, requestType, began, asked, present, other, answered⟩ :=
      inv.accepted requestId response member
    exact ⟨issuer, requestType, began, asked, present, other,
      answered.extend follows.past (Nat.le_refl _)⟩
  · intro other called place found
    cases cases_ found with
    | inl new =>
        obtain ⟨_, rfl, rfl⟩ := new
        cases called <;> trivial
    | inr old =>
        apply follows.underway _ (inv.calls _ _ _ old.2)
        intro requestId _
        exact untouched requestId
  · intro first called place foundFirst second task position foundSecond requestId about
      aboutToo
    cases cases_ foundFirst with
    | inl new =>
        rw [new.2.2, requestId_enter] at about
        cases about
    | inr old =>
        cases cases_ foundSecond with
        | inl new =>
            rw [new.2.2, requestId_enter] at aboutToo
            cases aboutToo
        | inr oldToo =>
            exact inv.owned _ _ _ old.2 _ _ _ oldToo.2 requestId about aboutToo
  · intro nodeId site present requestId pending waiting
    exact follows.awaiting rfl (inv.pending nodeId site present requestId pending waiting)
  · intro call member
    exact follows.truthful (inv.results call member)

theorem start (nodes : Table String LocalAdapter) :
    let state : State := { shared := .start nodes, calls := ∅, log := [] }
    Inv readFloat state {state} := by
  intro state
  have idle (caller : Caller) : state.calls.lookup caller = none :=
    Finmap.lookup_empty caller
  have fresh (requestId : String) : state.shared.issued.lookup requestId = none :=
    Finmap.lookup_empty requestId
  have silent (nodeId : String) : mail readFloat state nodeId = [] := by
    rw [mail, idle]
    rfl
  have quiet : ∀ nodeId site, state.shared.sites.lookup nodeId = some site →
      site.pubsub = { pending := ∅, knownNodes := ∅ } := by
    intro nodeId site present
    change (Table.mapValues _ nodes).lookup nodeId = some site at present
    rw [Table.lookup_mapValues] at present
    obtain ⟨locals, _, rfl⟩ := Option.map_eq_some_iff.mp present
    rfl
  constructor
  · intro caller operation point found
    rw [idle] at found
    cases found
  · intro requestId issue issued
    rw [fresh] at issued
    cases issued
  · intro nodeId envelope member
    rw [silent] at member
    cases member
  · intro nodeId envelope holds
    rw [idle] at holds
    cases holds
  · intro nodeId site present peer known
    rw [quiet nodeId site present] at known
    cases Finmap.notMem_empty known
  · intro requestId issuer requestType began asked
    obtain ⟨_, _, issued⟩ := asked
    rw [fresh] at issued
    cases issued
  · intro requestId response member
    cases member
  · intro caller operation point found
    rw [idle] at found
    cases found
  · intro caller operation point found
    rw [idle] at found
    cases found
  · intro nodeId site present requestId pending waiting
    rw [quiet nodeId site present, Finmap.lookup_empty] at waiting
    cases waiting
  · intro call member
    cases member

end Inv

theorem inv_of_reached {readFloat : DecimalText → Option DecimalText}
    {nodes : Table String LocalAdapter}
    {actions : List (CallAction Caller Operation Choice)} {final : State}
    (reached : (system readFloat nodes).run actions = some final) :
    Inv readFloat final ((system readFloat nodes).Visited actions) := by
  apply Calls.invariant_visited _ _ _ reached
  · exact Inv.start nodes
  · intro state past caller operation inv _ absent permitted
    exact inv.begins absent permitted
  · intro state past caller operation point choice shared progress inv passed found stepped
    have moved : advance readFloat state.shared caller operation point choice =
      some (shared, progress) := stepped
    cases step_cases moved with
    | inl asks => exact inv.asks passed found asks
    | inr listens =>
        obtain ⟨nodeId, site, rfl, present, receives⟩ := listens
        exact inv.receives passed found present receives

end RushSocket.Adapter.Redis.Exchange
