import RushSocket.Adapter.Redis.Courier

namespace RushSocket.Adapter.Redis.Exchange

open Data Transition

/-! Where the messages about one request are. -/

/-- The message that a listener has in hand. -/
def inHand : Option (Operation × Point) → List PubSubEnvelope
  | some (_, .recording envelope) | some (_, .handling envelope) => [envelope]
  | some (_, .responding request _ _) => [⟨request.senderNode, .request request⟩]
  | _ => []

/-- The messages that a node has before it, the one in hand first. -/
def mail (readFloat : DecimalText → Option DecimalText) (state : State)
    (nodeId : String) : List PubSubEnvelope :=
  inHand (state.calls.lookup (.listener nodeId)) ++
    state.shared.inboxes.legible (PubSubEnvelope.ofText readFloat) nodeId

def isRequest (requestId : String) (envelope : PubSubEnvelope) : Bool :=
  match envelope.payload with
  | .request request => request.requestId = requestId
  | .broadcast _ | .response _ => false

def isAnswer (requestId responder : String) (envelope : PubSubEnvelope) : Bool :=
  match envelope.payload with
  | .response response =>
      response.requestId = requestId && response.responderNode = responder
  | .broadcast _ | .request _ => false

def acceptance (entry : Finished Caller Operation Returned) : Option Response :=
  match entry.result with
  | .accepted response => some response
  | .done | .responses _ _ _ | .peers _ _ _ => none

def acceptances (requestId : String) (log : Log) : List Response :=
  (log.reverse.filterMap acceptance).filter fun response => response.requestId = requestId

/-- A request at the responder, its answer at the node that asked, or an accepted answer. -/
def tokens (readFloat : DecimalText → Option DecimalText) (state : State)
    (requestId issuer responder : String) : Nat :=
  (mail readFloat state responder).countP (isRequest requestId) +
    (mail readFloat state issuer).countP (isAnswer requestId responder) +
    (acceptances requestId state.log).countP fun response =>
      response.responderNode = responder

theorem acceptances_cons (requestId : String)
    (entry : Finished Caller Operation Returned) (log : Log) :
    acceptances requestId (entry :: log) =
      acceptances requestId log ++ (acceptance entry).toList.filter fun response =>
        response.requestId = requestId := by
  unfold acceptances
  rw [List.reverse_cons, List.filterMap_append, List.filter_append]
  congr 2

theorem acceptances_silent {requestId : String}
    {entry : Finished Caller Operation Returned} (silent : acceptance entry = none)
    (log : Log) : acceptances requestId (entry :: log) = acceptances requestId log := by
  rw [acceptances_cons, silent]
  exact List.append_nil _

theorem acceptances_accepted {caller : Caller} {operation : Operation} {requestId : String}
    (response : Response) (log : Log) :
    acceptances requestId (⟨caller, operation, .accepted response⟩ :: log) =
      acceptances requestId log ++
        if response.requestId = requestId then [response] else [] := by
  rw [acceptances_cons]
  congr 1
  by_cases same : response.requestId = requestId <;> simp [acceptance, same]

section

variable {readFloat : DecimalText → Option DecimalText} {state : State}
  {operation : Operation} {shared : Shared} {progress : Progress Point Returned}

theorem mail_settle_task (index : Nat) (nodeId : String) :
    mail readFloat (state.settle (.task index) operation shared progress) nodeId =
      inHand (state.calls.lookup (.listener nodeId)) ++
        shared.inboxes.legible (PubSubEnvelope.ofText readFloat) nodeId := by
  rw [mail, Calls.lookup_settle, if_neg nofun, Calls.settle_shared]

theorem mail_settle_listener (listening nodeId : String) :
    mail readFloat (state.settle (.listener listening) operation shared progress) nodeId =
      (if nodeId = listening then inHand (progress.call operation)
        else inHand (state.calls.lookup (.listener nodeId))) ++
        shared.inboxes.legible (PubSubEnvelope.ofText readFloat) nodeId := by
  simp only [mail, Calls.lookup_settle, Calls.settle_shared, Caller.listener.injEq]
  split <;> rfl

theorem mail_begin {caller : Caller} (absent : state.calls.lookup caller = none)
    (nodeId : String) :
    mail readFloat { state with
      calls := state.calls.insert caller (operation, enter operation) } nodeId =
      mail readFloat state nodeId := by
  unfold mail
  rw [Table.lookup_put]
  split
  · rename_i same
    rw [same, absent]
    cases operation <;> rfl
  · rfl

/-- What is in hand is not yet in the inbox. -/
theorem mail_of_inHand {nodeId : String} {point : Point}
    (found : state.calls.lookup (.listener nodeId) = some (operation, point)) :
    mail readFloat state nodeId = inHand (some (operation, point)) ++
      state.shared.inboxes.legible (PubSubEnvelope.ofText readFloat) nodeId := by
  rw [mail, found]

end

/-! The messages that a step adds. -/

theorem ofText_broadcast (readFloat : DecimalText → Option DecimalText)
    (order : HashOrder) (senderNode : String) (message : BroadcastMessage) :
    PubSubEnvelope.ofText readFloat
      (PubSubEnvelope.toText order ⟨senderNode, .broadcast message⟩) =
      some ⟨senderNode, .broadcast message⟩ :=
  (wire_round_trip_iff readFloat order _).mpr trivial

theorem ofText_request (readFloat : DecimalText → Option DecimalText)
    (order : HashOrder) (senderNode : String) (request : Request) :
    PubSubEnvelope.ofText readFloat
      (PubSubEnvelope.toText order ⟨senderNode, .request request⟩) =
      some ⟨senderNode, .request request⟩ :=
  (wire_round_trip_iff readFloat order _).mpr trivial

inductive Posts (readFloat : DecimalText → Option DecimalText) (shared : Shared) :
    Operation → Point → String → PubSubEnvelope → Prop
  | broadcast {nodeId : String} (present : nodeId ∈ shared.sites)
      (message : BroadcastMessage) (receiver : String) :
      Posts readFloat shared (.publish nodeId message) .acting receiver
        ⟨nodeId, .broadcast message⟩
  | request {operation : Operation} {nodeId : String} {requestType : RequestType}
      (question : operation.question = some (nodeId, requestType))
      (present : nodeId ∈ shared.sites) (requestId receiver : String) :
      Posts readFloat shared operation (.publishing requestId) receiver
        ⟨nodeId, .request { requestId, senderNode := nodeId, requestType }⟩
  | response {nodeId : String} (present : nodeId ∈ shared.sites) (request : Request)
      (computed : Nat) {payload received : ResponsePayload}
      (arrives : Arrives readFloat payload received) :
      Posts readFloat shared (.receive nodeId) (.responding request computed payload)
        request.senderNode
        ⟨nodeId, .response
          { requestId := request.requestId, responderNode := nodeId, payload := received }⟩

section

variable {readFloat : DecimalText → Option DecimalText} {state : State}
  {operation : Operation} {point : Point} {shared : Shared}
  {progress : Progress Point Returned} {receiver : String} {envelope : PubSubEnvelope}

theorem posts_of_asks {index : Nat}
    (asks : Asks state.shared operation point shared progress)
    (member : envelope ∈ mail readFloat
      (state.settle (.task index) operation shared progress) receiver) :
    envelope ∈ mail readFloat state receiver ∨
      Posts readFloat state.shared operation point receiver envelope := by
  rw [mail_settle_task, List.mem_append] at member
  rw [mail, List.mem_append, or_assoc]
  apply member.imp_right
  intro legible
  cases asks with
  | pass | change | draw | count | insert | wake | fail | finish | discover =>
      exact .inl legible
  | disconnect nodeId =>
      rw [Shared.setInbox, Mailboxes.legible_update] at legible
      split at legible
      · cases legible
      · exact .inl legible
  | publish found message order reaches =>
      apply (Mailboxes.mem_legible_deliver legible).imp_right
      intro ⟨_, read⟩
      rw [ofText_broadcast] at read
      cases read
      exact .broadcast (Finmap.mem_of_lookup_eq_some found) message receiver
  | send question found order reaches either =>
      apply (Mailboxes.mem_legible_deliver legible).imp_right
      intro ⟨_, read⟩
      rw [ofText_request] at read
      cases read
      exact .request question (Finmap.mem_of_lookup_eq_some found) _ receiver

theorem mem_legible_setInbox {nodeId text : String} {rest : List String}
    (first : state.shared.inboxes nodeId = text :: rest)
    (member : envelope ∈ (state.shared.setInbox nodeId rest).inboxes.legible
      (PubSubEnvelope.ofText readFloat) receiver) :
    envelope ∈ state.shared.inboxes.legible (PubSubEnvelope.ofText readFloat) receiver := by
  rw [Shared.setInbox, Mailboxes.legible_update] at member
  split at member
  · rename_i same
    rw [same, Mailboxes.legible, first]
    exact ((List.sublist_cons_self text rest).filterMap _).mem member
  · exact member

theorem posts_of_receives {nodeId : String} {site : Site}
    (found : state.calls.lookup (.listener nodeId) = some (.receive nodeId, point))
    (present : state.shared.sites.lookup nodeId = some site)
    (receives : Receives readFloat state.shared nodeId site point shared progress)
    (genuine : ∀ senderNode request, point = .handling ⟨senderNode, .request request⟩ →
      request.senderNode = senderNode)
    (member : envelope ∈ mail readFloat
      (state.settle (.listener nodeId) (.receive nodeId) shared progress) receiver) :
    envelope ∈ mail readFloat state receiver ∨
      Posts readFloat state.shared (.receive nodeId) point receiver envelope := by
  rw [mail_settle_listener, List.mem_append] at member
  rw [mail, List.mem_append]
  cases member with
  | inl hand =>
      left
      split at hand
      · rename_i same
        subst same
        rw [found]
        cases receives with
        | skip | hear | accept | ignore | respond => cases hand
        | take first read other =>
            cases List.mem_singleton.mp hand
            right
            rw [Mailboxes.legible, first, List.filterMap_cons, read]
            exact List.mem_cons_self
        | record => exact .inl hand
        | compute senderNode request =>
            left
            rw [← genuine senderNode request rfl]
            exact hand
      · exact .inl hand
  | inr legible =>
      cases receives with
      | skip first | take first => exact .inl (.inr (mem_legible_setInbox first legible))
      | record | hear | compute | accept | ignore => exact .inl (.inr legible)
      | respond request computed payload order reaches =>
          cases Mailboxes.mem_legible_deliver legible with
          | inl earlier => exact .inl (.inr earlier)
          | inr posted =>
              right
              obtain ⟨reached, read⟩ := posted
              obtain ⟨received, arrives, rfl⟩ := exists_arrives read
              cases Finset.mem_singleton.mp (Finset.mem_of_mem_inter_right reached)
              have listed := Finmap.mem_of_lookup_eq_some present
              exact .response listed request computed arrives

end

/-! How many messages there are about one request. -/

section

variable {readFloat : DecimalText → Option DecimalText} {state : State}
  {operation : Operation} {point : Point} {shared : Shared}
  {progress : Progress Point Returned}

theorem acceptances_settle {caller : Caller}
    (silent : ∀ response, progress ≠ .finished (.accepted response)) (requestId : String) :
    acceptances requestId (state.settle caller operation shared progress).log =
      acceptances requestId state.log := by
  cases progress with
  | running point => rfl
  | finished result =>
      apply acceptances_silent
      cases result with
      | accepted response => exact absurd rfl (silent response)
      | done | responses | peers => rfl

theorem countP_publish_le {order : HashOrder} {reaches : Finset String}
    {envelope : PubSubEnvelope}
    (read : PubSubEnvelope.ofText readFloat (envelope.toText order) = some envelope)
    (holds : PubSubEnvelope → Bool) (receiver : String) :
    let before := state.shared.inboxes.legible (PubSubEnvelope.ofText readFloat) receiver
    let after := (state.shared.publish order reaches envelope).inboxes.legible
      (PubSubEnvelope.ofText readFloat) receiver
    after.countP holds ≤ before.countP holds ∨
      holds envelope = true ∧ after.countP holds ≤ before.countP holds + 1 := by
  intro before after
  have grown : after.countP holds ≤
      before.countP holds + (some envelope).toList.countP holds := by
    rw [← read]
    exact Mailboxes.countP_legible_deliver_le holds
  cases counts : holds envelope with
  | true => exact .inr ⟨rfl, by simpa [counts] using grown⟩
  | false => exact .inl (by simpa [counts] using grown)

theorem countP_asks_le {index : Nat}
    (asks : Asks state.shared operation point shared progress)
    (holds : PubSubEnvelope → Bool) (receiver : String) :
    let before := mail readFloat state receiver
    let after := mail readFloat (state.settle (.task index) operation shared progress)
      receiver
    after.countP holds ≤ before.countP holds ∨
      (∃ envelope, Posts readFloat state.shared operation point receiver envelope ∧
        holds envelope = true) ∧ after.countP holds ≤ before.countP holds + 1 := by
  intro before after
  unfold before after
  rw [mail_settle_task, mail, List.countP_append, List.countP_append, Nat.add_assoc]
  cases asks with
  | pass | change | draw | count | insert | wake | fail | finish | discover =>
      exact .inl (Nat.le_refl _)
  | disconnect nodeId =>
      left
      apply Nat.add_le_add_left
      apply List.Sublist.countP_le
      rw [Shared.setInbox, Mailboxes.legible_update]
      split
      · exact List.nil_sublist _
      · exact List.Sublist.refl _
  | @publish nodeId _ found message order reaches =>
      have posted := @countP_publish_le _ state _ reaches _
        (ofText_broadcast readFloat order nodeId message) holds receiver
      apply posted.imp (Nat.add_le_add_left · _)
      intro ⟨counts, grown⟩
      refine ⟨⟨_, ?_, counts⟩, Nat.add_le_add_left grown _⟩
      exact .broadcast (Finmap.mem_of_lookup_eq_some found) message receiver
  | @send _ nodeId requestId requestType _ question found order reaches =>
      have posted := @countP_publish_le _ state _ reaches _
        (ofText_request readFloat order nodeId ⟨requestId, nodeId, requestType⟩) holds
        receiver
      apply posted.imp (Nat.add_le_add_left · _)
      intro ⟨counts, grown⟩
      refine ⟨⟨_, ?_, counts⟩, Nat.add_le_add_left grown _⟩
      exact .request question (Finmap.mem_of_lookup_eq_some found) _ receiver

theorem sublist_receives {nodeId : String} {site : Site}
    (found : state.calls.lookup (.listener nodeId) = some (.receive nodeId, point))
    (receives : Receives readFloat state.shared nodeId site point shared progress)
    (genuine : ∀ senderNode request, point = .handling ⟨senderNode, .request request⟩ →
      request.senderNode = senderNode)
    (silent : ∀ request computed payload, point ≠ .responding request computed payload)
    (receiver : String) :
    (mail readFloat (state.settle (.listener nodeId) (.receive nodeId) shared progress)
      receiver).Sublist (mail readFloat state receiver) := by
  rw [mail_settle_listener, mail]
  split
  · rename_i same
    subst same
    rw [found]
    cases receives with
    | skip first =>
        rw [Shared.setInbox, Mailboxes.legible_update, if_pos rfl, Mailboxes.legible, first]
        exact ((List.sublist_cons_self _ _).filterMap _)
    | take first read other =>
        rw [Shared.setInbox, Mailboxes.legible_update, if_pos rfl, Mailboxes.legible, first,
          List.filterMap_cons, read]
        exact List.Sublist.refl _
    | record => exact List.Sublist.refl _
    | hear | accept | ignore => exact List.sublist_cons_self _ _
    | compute senderNode request =>
        rw [← genuine senderNode request rfl]
        exact List.Sublist.refl _
    | respond request computed payload => exact absurd rfl (silent request computed payload)
  · rename_i other
    cases receives with
    | skip | take =>
        rw [Shared.setInbox, Mailboxes.legible_update, if_neg other]
    | record | hear | accept | ignore | compute => exact List.Sublist.refl _
    | respond request computed payload => exact absurd rfl (silent request computed payload)

theorem silent_of_asks (asks : Asks state.shared operation point shared progress)
    (response : Response) : progress ≠ .finished (.accepted response) := by
  intro same
  cases asks with
  | count question found =>
      split at same
      · cases same
      · cases same
  | _ => cases same

variable {requestId issuer responder : String}

theorem tokens_asks_le {index : Nat}
    (asks : Asks state.shared operation point shared progress) :
    let before := tokens readFloat state requestId issuer responder
    let after := tokens readFloat
      (state.settle (.task index) operation shared progress) requestId issuer responder
    after ≤ before ∨ point = .publishing requestId ∧ after ≤ before + 1 := by
  intro before after
  unfold before after tokens
  rw [acceptances_settle (silent_of_asks asks)]
  have answers := @countP_asks_le readFloat _ _ _ _ _ index asks
    (isAnswer requestId responder) issuer
  have fewer := answers.resolve_right fun ⟨⟨envelope, posts, counts⟩, _⟩ => by
    cases posts with
    | broadcast | request => cases counts
    | response => cases asks
  cases @countP_asks_le readFloat _ _ _ _ _ index asks
    (isRequest requestId) responder with
  | inl requests => exact .inl (by omega)
  | inr grown =>
      obtain ⟨⟨envelope, posts, counts⟩, requests⟩ := grown
      refine .inr ⟨?_, by omega⟩
      cases posts with
      | broadcast => cases counts
      | request => exact congrArg Point.publishing (of_decide_eq_true counts)
      | response => cases counts

theorem countP_answer_le {nodeId : String} {request : Request} {payload : ResponsePayload}
    {order : HashOrder} {reaches : Finset String} (holds : PubSubEnvelope → Bool)
    (receiver : String) :
    let before := state.shared.inboxes.legible (PubSubEnvelope.ofText readFloat) receiver
    let response := { requestId := request.requestId, responderNode := nodeId, payload }
    let after := (state.shared.publish order (reaches ∩ {request.senderNode})
      ⟨nodeId, .response response⟩).inboxes.legible (PubSubEnvelope.ofText readFloat)
        receiver
    after.countP holds ≤ before.countP holds ∨
      (∃ received, holds ⟨nodeId, .response { response with payload := received }⟩ = true) ∧
        after.countP holds ≤ before.countP holds + 1 := by
  intro before response after
  have grown : after.countP holds ≤ before.countP holds +
      (PubSubEnvelope.ofText readFloat (PubSubEnvelope.toText order
        ⟨nodeId, .response response⟩)).toList.countP holds :=
    Mailboxes.countP_legible_deliver_le holds
  cases read : PubSubEnvelope.ofText readFloat (PubSubEnvelope.toText order
      ⟨nodeId, .response response⟩) with
  | none =>
      rw [read] at grown
      exact .inl grown
  | some arrived =>
      obtain ⟨received, _, rfl⟩ := @exists_arrives _ _ response _ read
      rw [read] at grown
      cases counts : holds ⟨nodeId, .response { response with payload := received }⟩ with
      | true => exact .inr ⟨⟨received, counts⟩, by simpa [counts, response] using grown⟩
      | false => exact .inl (by simpa [counts, response] using grown)

theorem tokens_le_of_sublist {caller : Caller}
    (fewer : ∀ receiver, (mail readFloat (state.settle caller operation shared progress)
      receiver).Sublist (mail readFloat state receiver))
    (silent : ∀ response, progress ≠ .finished (.accepted response)) :
    tokens readFloat (state.settle caller operation shared progress) requestId issuer
      responder ≤ tokens readFloat state requestId issuer responder := by
  unfold tokens
  rw [acceptances_settle silent]
  apply Nat.add_le_add_right
  exact Nat.add_le_add (fewer responder).countP_le (fewer issuer).countP_le

theorem tokens_accept_le {nodeId senderNode : String} {response : Response}
    (found : state.calls.lookup (.listener nodeId) =
      some (.receive nodeId, .handling ⟨senderNode, .response response⟩))
    (boxes : shared.inboxes = state.shared.inboxes)
    (asker : response.requestId = requestId → issuer = nodeId) :
    tokens readFloat (state.settle (.listener nodeId) (.receive nodeId) shared
      (.finished (.accepted response))) requestId issuer responder ≤
      tokens readFloat state requestId issuer responder := by
  have others : ∀ holds : PubSubEnvelope → Bool, ∀ receiver,
      (mail readFloat (state.settle (.listener nodeId) (.receive nodeId) shared
          (.finished (.accepted response))) receiver).countP holds +
        (if receiver = nodeId ∧ holds ⟨senderNode, .response response⟩ = true then 1
          else 0) ≤
        (mail readFloat state receiver).countP holds := by
    intro holds receiver
    rw [mail_settle_listener, mail, boxes]
    by_cases same : receiver = nodeId
    · subst same
      rw [if_pos rfl, found]
      simp [inHand, Progress.call, List.countP_cons]
    · simp [same]
  have requests := others (isRequest requestId) responder
  have answers := others (isAnswer requestId responder) issuer
  unfold tokens
  change _ + _ + (acceptances requestId (_ :: state.log)).countP _ ≤ _
  rw [acceptances_accepted, List.countP_append]
  have added : ((if response.requestId = requestId then [response] else []).countP
      fun response => response.responderNode = responder) ≤
      if issuer = nodeId ∧
        isAnswer requestId responder ⟨senderNode, .response response⟩ = true then 1
      else 0 := by
    by_cases same : response.requestId = requestId
    · by_cases given : response.responderNode = responder <;>
        simp [isAnswer, same, given, asker same]
    · simp [same]
  omega

theorem tokens_respond_le {nodeId : String} {request : Request} {computed : Nat}
    {payload : ResponsePayload} {order : HashOrder} {reaches : Finset String}
    (found : state.calls.lookup (.listener nodeId) =
      some (.receive nodeId, .responding request computed payload)) :
    let published := state.shared.publish order (reaches ∩ {request.senderNode})
      ⟨nodeId, .response
        { requestId := request.requestId, responderNode := nodeId, payload }⟩
    tokens readFloat (state.settle (.listener nodeId) (.receive nodeId) published
      (.finished .done)) requestId issuer responder ≤
      tokens readFloat state requestId issuer responder := by
  intro published
  have others : ∀ holds : PubSubEnvelope → Bool, ∀ receiver,
      (mail readFloat (state.settle (.listener nodeId) (.receive nodeId) published
          (.finished .done)) receiver).countP holds +
        (if receiver = nodeId ∧
            holds ⟨request.senderNode, .request request⟩ = true then 1 else 0) +
        (state.shared.inboxes.legible (PubSubEnvelope.ofText readFloat) receiver).countP
          holds ≤
        (mail readFloat state receiver).countP holds +
          (published.inboxes.legible (PubSubEnvelope.ofText readFloat) receiver).countP
            holds := by
    intro holds receiver
    rw [mail_settle_listener, mail]
    by_cases same : receiver = nodeId
    · subst same
      rw [if_pos rfl, found]
      simp only [inHand, Progress.call, List.nil_append, List.cons_append,
        List.countP_cons, true_and]
      omega
    · simp only [same, if_false, List.countP_append, false_and]
      omega
  have requests := others (isRequest requestId) responder
  have answers := others (isAnswer requestId responder) issuer
  have silent : ∀ response, (Progress.finished .done : Progress Point Returned) ≠
      .finished (.accepted response) := nofun
  unfold tokens
  rw [acceptances_settle silent]
  let read (shared : Shared) (receiver : String) : List PubSubEnvelope :=
    shared.inboxes.legible (PubSubEnvelope.ofText readFloat) receiver
  have noRequest : (read published responder).countP (isRequest requestId) ≤
      (read state.shared responder).countP (isRequest requestId) :=
    (countP_answer_le (isRequest requestId) responder).resolve_right fun ⟨made, _⟩ => by
      obtain ⟨received, counts⟩ := made
      cases counts
  have answered : (read published issuer).countP (isAnswer requestId responder) ≤
        (read state.shared issuer).countP (isAnswer requestId responder) ∨
      (∃ received, isAnswer requestId responder ⟨nodeId, .response
        { requestId := request.requestId, responderNode := nodeId, payload := received }⟩) ∧
      (read published issuer).countP (isAnswer requestId responder) ≤
        (read state.shared issuer).countP (isAnswer requestId responder) + 1 :=
    countP_answer_le (isAnswer requestId responder) issuer
  unfold read at noRequest answered
  cases answered with
  | inl fewer => omega
  | inr more =>
      obtain ⟨⟨received, counts⟩, grown⟩ := more
      have same : request.requestId = requestId ∧ nodeId = responder := by
        simpa [isAnswer] using counts
      rw [if_pos ⟨same.2.symm, decide_eq_true same.1⟩] at requests
      omega

/-- The steps of a listener never make a message more than there are. -/
theorem tokens_receives_le {nodeId : String} {site : Site}
    (found : state.calls.lookup (.listener nodeId) = some (.receive nodeId, point))
    (receives : Receives readFloat state.shared nodeId site point shared progress)
    (genuine : ∀ senderNode request, point = .handling ⟨senderNode, .request request⟩ →
      request.senderNode = senderNode)
    (asker : ∀ senderNode response, point = .handling ⟨senderNode, .response response⟩ →
      response.requestId = requestId → issuer = nodeId) :
    tokens readFloat (state.settle (.listener nodeId) (.receive nodeId) shared progress)
      requestId issuer responder ≤ tokens readFloat state requestId issuer responder := by
  have kept := sublist_receives found receives genuine
  cases receives with
  | respond => exact tokens_respond_le found
  | accept => exact tokens_accept_le found rfl (asker _ _ rfl)
  | skip | take | record | hear | compute | ignore =>
      apply tokens_le_of_sublist
      · apply kept
        intro _ _ _ same
        cases same
      · intro _ same
        cases same

end

end RushSocket.Adapter.Redis.Exchange
