import RushSocket.Adapter.Redis.Answers
import RushSocket.Adapter.Redis.Mail

namespace RushSocket.Adapter.Redis.Exchange

open Data Transition

/-! Whose answers a request returns. -/

def Computed (past : Set State) (responder : String) (requestType : RequestType)
    (computed : Nat) (payload : ResponsePayload) : Prop :=
  ∃ state ∈ past, state.shared.now = computed ∧
    ∃ site, state.shared.sites.lookup responder = some site ∧
      ∃ order metrics, payload = handleRequest order metrics site.locals requestType

/-- What is received is what is read of an answer that the node computed in the period. -/
def Answered (readFloat : DecimalText → Option DecimalText) (past : Set State)
    (responder : String) (requestType : RequestType) (began last : Nat)
    (received : ResponsePayload) : Prop :=
  ∃ computed payload, began ≤ computed ∧ computed ≤ last ∧
    Computed past responder requestType computed payload ∧
    Arrives readFloat payload received

def Knew (past : Set State) (nodeId : String) (began last count : Nat) : Prop :=
  ∃ state ∈ past, began ≤ state.shared.now ∧ state.shared.now ≤ last ∧
    ∃ site, state.shared.sites.lookup nodeId = some site ∧
      count = (Answers.knownPeers site.pubsub state.shared.now).card

def AskedBy (shared : Shared) (requestId nodeId : String) (requestType : RequestType)
    (began : Nat) : Prop :=
  ∃ operation, operation.question = some (nodeId, requestType) ∧
    shared.issued.lookup requestId = some { operation, began }

/-- Where a message comes from and what it is about. -/
def Genuine (readFloat : DecimalText → Option DecimalText) (past : Set State)
    (shared : Shared) (nodeId : String) (envelope : PubSubEnvelope) : Prop :=
  envelope.senderNode ∈ shared.sites ∧
    match envelope.payload with
    | .broadcast _ => True
    | .request request =>
        request.senderNode = envelope.senderNode ∧
          ∃ began, AskedBy shared request.requestId request.senderNode request.requestType
            began
    | .response response =>
        response.responderNode = envelope.senderNode ∧
          ∃ requestType began, AskedBy shared response.requestId nodeId requestType began ∧
            Answered readFloat past response.responderNode requestType began shared.now
              response.payload

def requestIdOf (envelope : PubSubEnvelope) : Option String :=
  match envelope.payload with
  | .broadcast _ => none
  | .request request => some request.requestId
  | .response response => some response.requestId

structure Untouched (readFloat : DecimalText → Option DecimalText) (state : State)
    (requestId : String) : Prop where
  mail : ∀ nodeId, ∀ envelope ∈ mail readFloat state nodeId,
    requestIdOf envelope ≠ some requestId
  accepted : acceptances requestId state.log = []

/-- So many answers are expected: of a request, as many as there were peers. -/
def Expected (past : Set State) (now : Nat) (issue : Issue) (expectedCount : Nat) : Prop :=
  0 < expectedCount ∧ ∀ nodeId requestType,
    issue.operation = .request nodeId requestType →
      Knew past nodeId issue.began now expectedCount

/-- The first answers that were accepted, each from its node. -/
def Collected (readFloat : DecimalText → Option DecimalText) (past : Set State) (log : Log)
    (requestId : String) (requestType : RequestType) (began last : Nat)
    (payloads : List ResponsePayload) : Prop :=
  ∃ answers, answers <+: acceptances requestId log ∧
    answers.map Response.payload = payloads ∧
    ∀ answer ∈ answers, Answered readFloat past answer.responderNode requestType began last
      answer.payload

/-- What a call has found out when it removes its entry. -/
def Ended (readFloat : DecimalText → Option DecimalText) (past : Set State) (state : State)
    (requestId : String) (issue : Issue) : Requests.Ending → Prop
  | .received (some payloads) =>
      ∀ nodeId requestType, issue.operation = .request nodeId requestType →
        Collected readFloat past state.log requestId requestType issue.began
            state.shared.now payloads ∧
          Knew past nodeId issue.began state.shared.now payloads.length
  | _ => True

/-- What a call has done by the point that it is at. -/
def Underway (readFloat : DecimalText → Option DecimalText) (past : Set State)
    (state : State) : Operation → Point → Prop
  | operation, .counting requestId | operation, .publishing requestId =>
      (∃ began, state.shared.issued.lookup requestId = some { operation, began }) ∧
        Untouched readFloat state requestId
  | operation, .inserting requestId expectedCount =>
      (∃ began, state.shared.issued.lookup requestId = some { operation, began } ∧
        Expected past state.shared.now { operation, began } expectedCount) ∧
        Untouched readFloat state requestId
  | operation, .waiting requestId =>
      ∃ began, state.shared.issued.lookup requestId = some { operation, began }
  | operation, .removing requestId ending =>
      ∃ began, state.shared.issued.lookup requestId = some { operation, began } ∧
        Ended readFloat past state requestId { operation, began } ending
  | .receive nodeId, .responding request computed payload =>
      ∃ began, AskedBy state.shared request.requestId request.senderNode
          request.requestType began ∧
        began ≤ computed ∧ computed ≤ state.shared.now ∧
        Computed past nodeId request.requestType computed payload
  | _, _ => True

/-- The entry of a request has the answers that were accepted. -/
def Awaiting (past : Set State) (state : State) (nodeId requestId : String)
    (pending : PendingState) : Prop :=
  ∃ issue requestType, state.shared.issued.lookup requestId = some issue ∧
    issue.operation.question = some (nodeId, requestType) ∧
    Expected past state.shared.now issue pending.expectedCount ∧
    pending = (PendingState.new pending.expectedCount).pushAll
      ((acceptances requestId state.log).map Response.payload)

/-- What a finished request has returned. -/
def Truthful (readFloat : DecimalText → Option DecimalText) (past : Set State)
    (state : State) : Operation → Returned → Prop
  | .request nodeId requestType, .responses requestId ended (.ok payloads) =>
      ∃ began, state.shared.issued.lookup requestId =
          some { operation := .request nodeId requestType, began } ∧
        (payloads = [] ∨
          Collected readFloat past state.log requestId requestType began ended payloads ∧
            Knew past nodeId began ended payloads.length)
  | _, _ => True

def Point.requestId : Point → Option String
  | .counting requestId | .inserting requestId _ | .publishing requestId
  | .waiting requestId | .removing requestId _ => some requestId
  | .acting | .drawing | .taking | .recording _ | .handling _ | .responding _ _ _ => none

structure Inv (readFloat : DecimalText → Option DecimalText) (state : State)
    (past : Set State) : Prop where
  roles : ∀ caller operation point, state.calls.lookup caller = some (operation, point) →
    ∀ nodeId, operation = .receive nodeId ↔ caller = .listener nodeId
  issued : ∀ requestId issue, state.shared.issued.lookup requestId = some issue →
    issue.began ≤ state.shared.now
  messages : ∀ nodeId, ∀ envelope ∈ mail readFloat state nodeId,
    Genuine readFloat past state.shared nodeId envelope
  others : ∀ nodeId, ∀ envelope ∈ inHand (state.calls.lookup (.listener nodeId)),
    envelope.senderNode ≠ nodeId
  peers : ∀ nodeId site, state.shared.sites.lookup nodeId = some site →
    ∀ peer ∈ site.pubsub.knownNodes, peer ∈ state.shared.sites ∧ peer ≠ nodeId
  once : ∀ requestId issuer requestType began,
    AskedBy state.shared requestId issuer requestType began →
      ∀ responder, tokens readFloat state requestId issuer responder ≤ 1
  accepted : ∀ requestId, ∀ response ∈ acceptances requestId state.log,
    ∃ issuer requestType began, AskedBy state.shared requestId issuer requestType began ∧
      response.responderNode ∈ state.shared.sites ∧ response.responderNode ≠ issuer ∧
      Answered readFloat past response.responderNode requestType began state.shared.now
        response.payload
  calls : ∀ caller operation point, state.calls.lookup caller = some (operation, point) →
    Underway readFloat past state operation point
  owned : ∀ caller operation point, state.calls.lookup caller = some (operation, point) →
    ∀ other task place, state.calls.lookup other = some (task, place) →
      ∀ requestId, point.requestId = some requestId → place.requestId = some requestId →
        caller = other
  pending : ∀ nodeId site, state.shared.sites.lookup nodeId = some site →
    ∀ requestId pending, site.pubsub.pending.lookup requestId = some pending →
      Awaiting past state nodeId requestId pending
  results : ∀ call ∈ state.log, Truthful readFloat past state call.operation call.result

/-! What has been found out stays so. -/

/-- What a later state keeps. -/
structure Follows (past : Set State) (state : State) (later : Set State) (next : State) :
    Prop where
  past : past ⊆ later
  clock : state.shared.now ≤ next.shared.now
  sites : ∀ nodeId, nodeId ∈ state.shared.sites → nodeId ∈ next.shared.sites
  issued : ∀ requestId issue, state.shared.issued.lookup requestId = some issue →
    next.shared.issued.lookup requestId = some issue
  accepted : ∀ requestId, acceptances requestId state.log <+: acceptances requestId next.log

section

variable {readFloat : DecimalText → Option DecimalText} {past later : Set State}
  {state next : State} {nodeId responder requestId : String} {requestType : RequestType}
  {began last until_ computed : Nat}

theorem Computed.extend {payload : ResponsePayload} (grown : past ⊆ later)
    (found : Computed past responder requestType computed payload) :
    Computed later responder requestType computed payload := by
  obtain ⟨state, passed, same⟩ := found
  exact ⟨state, grown passed, same⟩

theorem Answered.extend {received : ResponsePayload} (grown : past ⊆ later)
    (longer : last ≤ until_)
    (answered : Answered readFloat past responder requestType began last received) :
    Answered readFloat later responder requestType began until_ received := by
  obtain ⟨computed, payload, after, before, found, arrives⟩ := answered
  exact ⟨computed, payload, after, before.trans longer, found.extend grown, arrives⟩

theorem Knew.extend {count : Nat} (grown : past ⊆ later) (longer : last ≤ until_)
    (knew : Knew past nodeId began last count) : Knew later nodeId began until_ count := by
  obtain ⟨state, passed, after, before, same⟩ := knew
  exact ⟨state, grown passed, after, before.trans longer, same⟩

theorem Collected.extend {log newer : Log} {payloads : List ResponsePayload}
    (grown : past ⊆ later) (longer : last ≤ until_)
    (more : acceptances requestId log <+: acceptances requestId newer)
    (collected : Collected readFloat past log requestId requestType began last payloads) :
    Collected readFloat later newer requestId requestType began until_ payloads := by
  obtain ⟨answers, first, same, each⟩ := collected
  refine ⟨answers, first.trans more, same, fun answer member => ?_⟩
  exact (each answer member).extend grown longer

theorem Expected.extend {now later_ : Nat} {issue : Issue} {expectedCount : Nat}
    (grown : past ⊆ later) (longer : now ≤ later_)
    (expected : Expected past now issue expectedCount) :
    Expected later later_ issue expectedCount := by
  refine ⟨expected.1, fun nodeId requestType same => ?_⟩
  exact (expected.2 nodeId requestType same).extend grown longer

theorem AskedBy.unique {shared : Shared} {other : String} {otherType : RequestType}
    {otherBegan : Nat} (asked : AskedBy shared requestId nodeId requestType began)
    (also : AskedBy shared requestId other otherType otherBegan) :
    nodeId = other ∧ requestType = otherType ∧ began = otherBegan := by
  obtain ⟨operation, question, found⟩ := asked
  obtain ⟨same, questionToo, foundToo⟩ := also
  rw [found] at foundToo
  cases foundToo
  rw [question] at questionToo
  cases questionToo
  exact ⟨rfl, rfl, rfl⟩

namespace Follows

variable (follows : Follows past state later next)
include follows

theorem askedBy (asked : AskedBy state.shared requestId nodeId requestType began) :
    AskedBy next.shared requestId nodeId requestType began := by
  obtain ⟨operation, question, found⟩ := asked
  exact ⟨operation, question, follows.issued _ _ found⟩

theorem genuine {envelope : PubSubEnvelope}
    (genuine : Genuine readFloat past state.shared nodeId envelope) :
    Genuine readFloat later next.shared nodeId envelope := by
  obtain ⟨senderNode, payload⟩ := envelope
  refine ⟨follows.sites _ genuine.1, ?_⟩
  cases payload with
  | broadcast message => trivial
  | request request =>
      obtain ⟨sender, began, asked⟩ := genuine.2
      exact ⟨sender, began, follows.askedBy asked⟩
  | response response =>
      obtain ⟨sender, requestType, began, asked, answered⟩ := genuine.2
      exact ⟨sender, requestType, began, follows.askedBy asked,
        answered.extend follows.past follows.clock⟩

theorem ended {issue : Issue} {ending : Requests.Ending}
    (ended : Ended readFloat past state requestId issue ending) :
    Ended readFloat later next requestId issue ending := by
  cases ending with
  | unpublished | waited => exact trivial
  | received received =>
      cases received with
      | none => exact trivial
      | some payloads =>
          intro nodeId requestType same
          obtain ⟨collected, knew⟩ := ended nodeId requestType same
          exact ⟨collected.extend follows.past follows.clock (follows.accepted _),
            knew.extend follows.past follows.clock⟩

theorem underway {operation : Operation} {point : Point}
    (untouched : ∀ requestId, point.requestId = some requestId →
      Untouched readFloat state requestId → Untouched readFloat next requestId)
    (underway : Underway readFloat past state operation point) :
    Underway readFloat later next operation point := by
  cases point with
  | acting | drawing | taking | recording | handling => exact trivial
  | counting requestId | publishing requestId =>
      obtain ⟨⟨began, found⟩, new⟩ := underway
      exact ⟨⟨began, follows.issued _ _ found⟩, untouched _ rfl new⟩
  | inserting requestId expectedCount =>
      obtain ⟨⟨began, found, expected⟩, new⟩ := underway
      exact ⟨⟨began, follows.issued _ _ found,
        expected.extend follows.past follows.clock⟩, untouched _ rfl new⟩
  | waiting requestId =>
      obtain ⟨began, found⟩ := underway
      exact ⟨began, follows.issued _ _ found⟩
  | removing requestId ending =>
      obtain ⟨began, found, ended⟩ := underway
      exact ⟨began, follows.issued _ _ found, follows.ended ended⟩
  | responding request computed payload =>
      cases operation with
      | receive nodeId =>
          obtain ⟨began, asked, after, before, found⟩ := underway
          exact ⟨began, follows.askedBy asked, after, before.trans follows.clock,
            found.extend follows.past⟩
      | _ => exact trivial

theorem awaiting {pending : PendingState}
    (same : acceptances requestId next.log = acceptances requestId state.log)
    (awaiting : Awaiting past state nodeId requestId pending) :
    Awaiting later next nodeId requestId pending := by
  obtain ⟨issue, requestType, issued, question, expected, pushed⟩ := awaiting
  exact ⟨issue, requestType, follows.issued _ _ issued, question,
    expected.extend follows.past follows.clock, same ▸ pushed⟩

theorem truthful {operation : Operation} {result : Returned}
    (truthful : Truthful readFloat past state operation result) :
    Truthful readFloat later next operation result := by
  unfold Truthful at truthful ⊢
  split
  · obtain ⟨began, found, either⟩ := truthful
    refine ⟨began, follows.issued _ _ found, either.imp_right fun ⟨collected, knew⟩ => ?_⟩
    exact ⟨collected.extend follows.past (Nat.le_refl _) (follows.accepted _),
      knew.extend follows.past (Nat.le_refl _)⟩
  · trivial

end Follows

end

/-! One step. -/

section

variable {shared : Shared} {nodeId other : String} {site : Site}

theorem mem_sites_modify (change : Site → Site) :
    other ∈ shared.sites.modify nodeId change ↔ other ∈ shared.sites := by
  rw [← Finmap.mem_keys, Table.keys_modify, Finmap.mem_keys]

theorem forall_setPubsub {pubsub : RedisPubSub} (holds : String → RedisPubSub → Prop)
    (each : ∀ other, other ≠ nodeId → ∀ site, shared.sites.lookup other = some site →
      holds other site.pubsub)
    (replaced : holds nodeId pubsub) :
    ∀ other site, (shared.setPubsub nodeId pubsub).sites.lookup other = some site →
      holds other site.pubsub := by
  intro other site found
  rw [Shared.setPubsub, Table.lookup_modify] at found
  split at found
  · rename_i same
    obtain ⟨before, _, rfl⟩ := Option.map_eq_some_iff.mp found
    exact same ▸ replaced
  · rename_i different
    exact each other different site found

theorem forall_change {locals : LocalAdapter} (holds : String → RedisPubSub → Prop)
    (each : ∀ other site, shared.sites.lookup other = some site → holds other site.pubsub) :
    let changed := shared.sites.modify nodeId fun site => { site with locals }
    ∀ other site, changed.lookup other = some site → holds other site.pubsub := by
  intro changed other site found
  rw [Table.lookup_modify] at found
  split at found
  · rename_i same
    obtain ⟨before, present, rfl⟩ := Option.map_eq_some_iff.mp found
    exact each other before (same ▸ present)
  · exact each other site found

theorem mem_pruneNodes {pubsub : RedisPubSub} {now : Nat} {peer : String}
    (kept : peer ∈ (pubsub.pruneNodes now).knownNodes) : peer ∈ pubsub.knownNodes := by
  obtain ⟨lastSeen, listed⟩ := Finmap.mem_iff.mp kept
  rw [RedisPubSub.pruneNodes, Table.lookup_retain] at listed
  exact Finmap.mem_of_lookup_eq_some (Option.filter_eq_some_iff.mp listed).1

end

section

variable {readFloat : DecimalText → Option DecimalText} {past : Set State}
  {state : State} {operation : Operation} {point : Point} {shared : Shared}
  {progress : Progress Point Returned}

theorem follows_begin (caller : Caller) :
    let next := { state with
      calls := state.calls.insert caller (operation, enter operation) }
    Follows past state (insert next past) next where
  past := Set.subset_insert _ _
  clock := Nat.le_refl _
  sites _ present := present
  issued _ _ found := found
  accepted _ := List.prefix_refl _

theorem asks_follows (asks : Asks state.shared operation point shared progress)
    (caller : Caller) :
    let next := state.settle caller operation shared progress
    Follows past state (insert next past) next := by
  intro next
  constructor
  · exact Set.subset_insert _ _
  · unfold next
    rw [Calls.settle_shared]
    cases asks with
    | pass elapsed => exact Nat.le_add_right _ _
    | _ => exact Nat.le_refl _
  · intro nodeId present
    unfold next
    rw [Calls.settle_shared]
    cases asks with
    | change | count | insert | finish | discover => exact (mem_sites_modify _).mpr present
    | pass | disconnect | publish | draw | send | wake | fail => exact present
  · intro requestId issue found
    unfold next
    rw [Calls.settle_shared]
    cases asks with
    | draw question present fresh =>
        rw [Shared.issue, Table.lookup_put, if_neg]
        · exact found
        · intro same
          exact fresh (same ▸ Finmap.mem_of_lookup_eq_some found)
    | _ => exact found
  · intro requestId
    unfold next
    rw [acceptances_settle (silent_of_asks asks)]

theorem receives_follows {nodeId : String} {site : Site}
    (receives : Receives readFloat state.shared nodeId site point shared progress)
    (caller : Caller) :
    let next := state.settle caller operation shared progress
    Follows past state (insert next past) next := by
  intro next
  constructor
  · exact Set.subset_insert _ _
  · unfold next
    rw [Calls.settle_shared]
    cases receives <;> exact Nat.le_refl _
  · intro other present
    unfold next
    rw [Calls.settle_shared]
    cases receives with
    | record | accept | ignore => exact (mem_sites_modify _).mpr present
    | skip | take | hear | compute | respond => exact present
  · intro requestId issue found
    unfold next
    rw [Calls.settle_shared]
    cases receives <;> exact found
  · intro requestId
    unfold next
    cases progress with
    | running point => exact List.prefix_refl _
    | finished result =>
        rw [Calls.settle, acceptances_cons]
        exact List.prefix_append _ _

end

namespace Inv

variable {readFloat : DecimalText → Option DecimalText} {past : Set State}
  {state : State} {caller : Caller} {operation : Operation} {point : Point}
  {shared : Shared} {progress : Progress Point Returned}

/-! What the invariant says of a call that is about to take a step. -/

section

variable (inv : Inv readFloat state past)
include inv

theorem task (found : state.calls.lookup caller = some (operation, point))
    (asks : Asks state.shared operation point shared progress) :
    ∃ index, caller = .task index := by
  cases caller with
  | task index => exact ⟨index, rfl⟩
  | listener nodeId =>
      cases (inv.roles _ _ _ found nodeId).mpr rfl
      cases asks with
      | draw question | count question | insert question | send question
      | wake question => cases question

theorem listener {nodeId : String}
    (found : state.calls.lookup caller = some (.receive nodeId, point)) :
    caller = .listener nodeId :=
  (inv.roles _ _ _ found nodeId).mp rfl

variable {nodeId : String}

theorem genuine_inHand {envelope : PubSubEnvelope}
    (found : state.calls.lookup (.listener nodeId) = some (operation, point))
    (holds : envelope ∈ inHand (some (operation, point))) :
    Genuine readFloat past state.shared nodeId envelope := by
  apply inv.messages
  rw [mail_of_inHand found]
  exact List.mem_append_left _ holds

theorem sender_of_request {senderNode : String} {request : Request}
    (found : state.calls.lookup (.listener nodeId) =
      some (operation, .handling ⟨senderNode, .request request⟩)) :
    request.senderNode = senderNode :=
  (inv.genuine_inHand found List.mem_cons_self).2.1

theorem genuine_response {senderNode : String} {response : Response}
    (found : state.calls.lookup (.listener nodeId) =
      some (operation, .handling ⟨senderNode, .response response⟩)) :
    ∃ requestType began,
      AskedBy state.shared response.requestId nodeId requestType began ∧
        response.responderNode ∈ state.shared.sites ∧ response.responderNode ≠ nodeId ∧
        Answered readFloat past response.responderNode requestType began state.shared.now
          response.payload := by
  obtain ⟨listed, sender, requestType, began, asked, answered⟩ :=
    inv.genuine_inHand found List.mem_cons_self
  refine ⟨requestType, began, asked, ?_, ?_, answered⟩
  · rw [sender]
    exact listed
  · rw [sender]
    exact inv.others nodeId _ (found ▸ List.mem_cons_self)

theorem issued_of_mem {envelope : PubSubEnvelope} {requestId : String}
    (member : envelope ∈ mail readFloat state nodeId)
    (about : requestIdOf envelope = some requestId) :
    requestId ∈ state.shared.issued := by
  have genuine := inv.messages nodeId envelope member
  obtain ⟨senderNode, payload⟩ := envelope
  cases payload with
  | broadcast message => cases about
  | request request =>
      cases about
      obtain ⟨_, _, _, _, found⟩ := genuine.2
      exact Finmap.mem_of_lookup_eq_some found
  | response response =>
      cases about
      obtain ⟨_, _, _, ⟨_, _, found⟩, _⟩ := genuine.2
      exact Finmap.mem_of_lookup_eq_some found

theorem untouched_of_fresh {requestId : String} (fresh : requestId ∉ state.shared.issued) :
    Untouched readFloat state requestId where
  mail nodeId envelope member about := fresh (inv.issued_of_mem member about)
  accepted := by
    rw [List.eq_nil_iff_forall_not_mem]
    intro response member
    obtain ⟨_, _, _, ⟨_, _, found⟩, _⟩ := inv.accepted requestId response member
    exact fresh (Finmap.mem_of_lookup_eq_some found)

theorem issued_of_call {requestId : String}
    (found : state.calls.lookup caller = some (operation, point))
    (about : point.requestId = some requestId) :
    ∃ began, state.shared.issued.lookup requestId = some { operation, began } := by
  have underway := inv.calls caller operation point found
  cases point with
  | acting | drawing | taking | recording | handling | responding => cases about
  | counting | publishing =>
      cases about
      exact underway.1
  | inserting =>
      cases about
      obtain ⟨⟨began, issued, _⟩, _⟩ := underway
      exact ⟨began, issued⟩
  | waiting =>
      cases about
      exact underway
  | removing =>
      cases about
      obtain ⟨began, issued, _⟩ := underway
      exact ⟨began, issued⟩

end

/-! What the table of pending requests says. -/

section

variable (inv : Inv readFloat state past) {nodeId requestId : String} {site : Site}
  {requestType : RequestType} {began : Nat}
include inv

theorem collected {answers : List Response}
    (question : operation.question = some (nodeId, requestType))
    (issued : state.shared.issued.lookup requestId = some { operation, began })
    (first : answers <+: acceptances requestId state.log) :
    Collected readFloat past state.log requestId requestType began state.shared.now
      (answers.map Response.payload) := by
  refine ⟨answers, first, rfl, fun answer member => ?_⟩
  obtain ⟨issuer, otherType, otherBegan, asked, _, _, answered⟩ :=
    inv.accepted requestId answer (first.subset member)
  obtain ⟨_, rfl, rfl⟩ := AskedBy.unique ⟨operation, question, issued⟩ asked
  exact answered

theorem pending_of_lookup {pending : PendingState}
    (asked : state.shared.sites.lookup nodeId = some site)
    (issued : state.shared.issued.lookup requestId = some { operation, began })
    (waiting : site.pubsub.pending.lookup requestId = some pending) :
    Expected past state.shared.now { operation, began } pending.expectedCount ∧
      pending = {
        responses := (acceptances requestId state.log).map Response.payload
        sent :=
          if pending.expectedCount ≤ (acceptances requestId state.log).length then
            some (((acceptances requestId state.log).take pending.expectedCount).map
              Response.payload)
          else none
        expectedCount := pending.expectedCount } := by
  obtain ⟨issue, otherType, issuedToo, _, expected, same⟩ :=
    inv.pending nodeId site asked requestId pending waiting
  rw [issued] at issuedToo
  cases issuedToo
  refine ⟨expected, ?_⟩
  rw [PendingState.pushAll_new expected.1, List.length_map, ← List.map_take] at same
  exact same

theorem ended_of_pending (asked : state.shared.sites.lookup nodeId = some site)
    (question : operation.question = some (nodeId, requestType))
    (issued : state.shared.issued.lookup requestId = some { operation, began }) :
    Ended readFloat past state requestId { operation, began }
      (.received ((site.pubsub.pending.lookup requestId).bind PendingState.sent)) := by
  cases waiting : site.pubsub.pending.lookup requestId with
  | none => exact trivial
  | some pending =>
      obtain ⟨expected, same⟩ := inv.pending_of_lookup asked issued waiting
      rw [Option.bind_some, congrArg PendingState.sent same]
      split
      · rename_i enough
        intro other otherType own
        cases own
        cases question
        constructor
        · exact inv.collected rfl issued (List.take_prefix _ _)
        · rw [List.length_map, List.length_take, Nat.min_eq_left enough]
          exact expected.2 _ _ rfl
      · exact trivial

end

/-! Messages. -/

theorem tokens_of_untouched {requestId issuer responder : String}
    (untouched : Untouched readFloat state requestId) :
    tokens readFloat state requestId issuer responder = 0 := by
  have none_ {holds : PubSubEnvelope → Bool}
      (about : ∀ envelope, holds envelope = true → requestIdOf envelope = some requestId)
      (nodeId : String) : (mail readFloat state nodeId).countP holds = 0 := by
    rw [List.countP_eq_zero]
    intro envelope member counts
    exact untouched.mail nodeId envelope member (about envelope counts)
  rw [tokens, none_, none_, untouched.accepted]
  · rfl
  · intro ⟨senderNode, payload⟩ counts
    cases payload with
    | broadcast | request => cases counts
    | response response =>
        simp only [isAnswer, Bool.and_eq_true, decide_eq_true_eq] at counts
        exact congrArg some counts.1
  · intro ⟨senderNode, payload⟩ counts
    cases payload with
    | broadcast | response => cases counts
    | request request => exact congrArg some (of_decide_eq_true counts)

theorem untouched_of_posts {requestId : String} {next : State}
    (untouched : Untouched readFloat state requestId)
    (posts : ∀ receiver, ∀ envelope ∈ mail readFloat next receiver,
      envelope ∈ mail readFloat state receiver ∨
        Posts readFloat state.shared operation point receiver envelope)
    (unsent : point ≠ .publishing requestId)
    (answers : ∀ request computed payload, point = .responding request computed payload →
      request.requestId ≠ requestId)
    (accepted : acceptances requestId next.log = []) :
    Untouched readFloat next requestId where
  accepted := accepted
  mail receiver envelope member about := by
    cases posts receiver envelope member with
    | inl earlier => exact untouched.mail receiver envelope earlier about
    | inr posted =>
        cases posted with
        | broadcast => cases about
        | request =>
            cases about
            exact unsent rfl
        | response =>
            cases about
            exact answers _ _ _ rfl rfl

theorem asks_untouched {index : Nat} {requestId : String}
    (asks : Asks state.shared operation point shared progress)
    (unsent : point ≠ .publishing requestId)
    (untouched : Untouched readFloat state requestId) :
    Untouched readFloat (state.settle (.task index) operation shared progress)
      requestId := by
  apply untouched_of_posts untouched
  · intro receiver envelope member
    exact posts_of_asks asks member
  · exact unsent
  · intro request computed payload same
    cases same
    cases asks
  · rw [acceptances_settle (silent_of_asks asks)]
    exact untouched.accepted

theorem receives_untouched (inv : Inv readFloat state past) {nodeId requestId : String}
    {site : Site}
    (found : state.calls.lookup (.listener nodeId) = some (.receive nodeId, point))
    (present : state.shared.sites.lookup nodeId = some site)
    (receives : Receives readFloat state.shared nodeId site point shared progress)
    (untouched : Untouched readFloat state requestId) :
    Untouched readFloat (state.settle (.listener nodeId) (.receive nodeId) shared progress)
      requestId := by
  have inMail : ∀ envelope ∈ inHand (some (.receive nodeId, point)),
      requestIdOf envelope ≠ some requestId := by
    intro envelope holds
    apply untouched.mail nodeId
    rw [mail_of_inHand found]
    exact List.mem_append_left _ holds
  apply untouched_of_posts untouched
  · intro receiver envelope member
    apply posts_of_receives found present receives _ member
    intro senderNode request same
    exact inv.sender_of_request (same ▸ found)
  · intro same
    cases same
    cases receives
  · intro request computed payload same about
    apply inMail ⟨request.senderNode, .request request⟩
    · rw [same]
      exact List.mem_cons_self
    · exact congrArg some about
  · cases receives with
    | @accept senderNode response awaited =>
        rw [Calls.settle, acceptances_cons, untouched.accepted, List.nil_append,
          List.filter_eq_nil_iff]
        intro given member
        cases Option.mem_toList.mp member
        intro about
        apply inMail _ List.mem_cons_self
        exact congrArg some (of_decide_eq_true about)
    | skip | take | record | hear | compute | ignore | respond =>
        rw [acceptances_settle]
        · exact untouched.accepted
        · intro _ same
          cases same

/-! The calls after a step. -/

theorem eq_of_call {called : Operation} {next : Point}
    (same : progress.call operation = some (called, next)) :
    called = operation ∧ progress = .running next := by
  cases progress with
  | running point =>
      cases same
      exact ⟨rfl, rfl⟩
  | finished result => cases same

section

variable (inv : Inv readFloat state past)
  (found : state.calls.lookup caller = some (operation, point))
include inv found

theorem roles_settle (other : Caller) (called : Operation) (place : Point)
    (foundNext : (state.settle caller operation shared progress).calls.lookup other =
      some (called, place)) (nodeId : String) :
    called = .receive nodeId ↔ other = .listener nodeId := by
  rw [Calls.lookup_settle] at foundNext
  split at foundNext
  · rename_i same
    obtain ⟨rfl, _⟩ := eq_of_call foundNext
    rw [same]
    exact inv.roles _ _ _ found nodeId
  · exact inv.roles _ _ _ foundNext nodeId

/-- Ids stay with their calls, when the call that has taken the step keeps its own or has
drawn a new one. -/
theorem owned_settle
    (kept : ∀ next, progress = .running next → ∀ requestId,
      next.requestId = some requestId →
        point.requestId = some requestId ∨ requestId ∉ state.shared.issued)
    (first : Caller) (called : Operation) (place : Point)
    (foundFirst : (state.settle caller operation shared progress).calls.lookup first =
      some (called, place))
    (second : Caller) (task : Operation) (position : Point)
    (foundSecond : (state.settle caller operation shared progress).calls.lookup second =
      some (task, position))
    (requestId : String) (about : place.requestId = some requestId)
    (aboutToo : position.requestId = some requestId) : first = second := by
  have apart {next : Point} {other : Caller} {called : Operation} {place : Point}
      (running : progress = .running next) (about : next.requestId = some requestId)
      (foundOther : state.calls.lookup other = some (called, place))
      (aboutToo : place.requestId = some requestId) : caller = other := by
    cases kept next running requestId about with
    | inl own => exact inv.owned _ _ _ found _ _ _ foundOther requestId own aboutToo
    | inr fresh =>
        obtain ⟨_, issued⟩ := inv.issued_of_call foundOther aboutToo
        exact absurd (Finmap.mem_of_lookup_eq_some issued) fresh
  rw [Calls.lookup_settle] at foundFirst foundSecond
  split at foundFirst
  · rename_i same
    split at foundSecond
    · rename_i sameToo
      exact same.trans sameToo.symm
    · rw [same]
      exact apart (eq_of_call foundFirst).2 about foundSecond aboutToo
  · split at foundSecond
    · rename_i sameToo
      rw [sameToo]
      exact (apart (eq_of_call foundSecond).2 aboutToo foundFirst about).symm
    · exact inv.owned _ _ _ foundFirst _ _ _ foundSecond requestId about aboutToo

end

end Inv

end RushSocket.Adapter.Redis.Exchange
