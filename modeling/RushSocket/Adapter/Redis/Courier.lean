import RushSocket.Adapter.Redis.Exchange
import RushSocket.Adapter.Redis.WireRoundTrip
import RushSocket.Transition.Visits

namespace RushSocket.Adapter.Redis

open Data Json Transition

/-! What is read at the other end of the wire. -/

section

variable (readFloat : DecimalText → Option DecimalText) (order : HashOrder)

theorem PubSubEnvelope.sender_of_ofText {envelope arrived : PubSubEnvelope}
    (read : ofText readFloat (envelope.toText order) = some arrived) :
    arrived.senderNode = envelope.senderNode ∧
      ∃ fields, envelope.payload.fields order = some fields ∧
        ∃ again, reread.rereadFields readFloat fields = some again ∧
          PubSubPayload.ofFields again = some arrived.payload := by
  obtain ⟨senderNode, payload⟩ := envelope
  cases serialised : payload.fields order with
  | none =>
      simp [toText, toJson, serialised] at read
      cases read
  | some fields =>
      have text : toText order ⟨senderNode, payload⟩ =
          (Json.object [("sender_node", .string senderNode),
            ("payload", .object fields)]).print := by
        simp [toText, toJson, serialised]
      have reading : (Json.object [("sender_node", .string senderNode),
          ("payload", .object fields)]).reread readFloat =
          (reread.rereadFields readFloat fields).map fun again =>
            .object [("sender_node", .string senderNode), ("payload", .object again)] := by
        simp only [reread, reread.rereadFields, Option.bind_some]
        cases reread.rereadFields readFloat fields <;> rfl
      rw [ofText, text, parse_print, reading] at read
      cases travelled : reread.rereadFields readFloat fields with
      | none => simp [travelled] at read
      | some again =>
          simp only [travelled, Option.map_some, Option.bind_some] at read
          split at read
          · rw [Option.bind_some, ofJson_object] at read
            obtain ⟨found, decoded, rfl⟩ := Option.map_eq_some_iff.mp read
            exact ⟨rfl, fields, rfl, again, travelled, decoded⟩
          · cases read

/-- The text of an answer with the one payload is read as an answer with the other. -/
def Arrives (sent received : ResponsePayload) : Prop :=
  ∃ order requestId responderNode,
    PubSubEnvelope.ofText readFloat (PubSubEnvelope.toText order
        ⟨responderNode, .response { requestId, responderNode, payload := sent }⟩) =
      some ⟨responderNode, .response { requestId, responderNode, payload := received }⟩

variable {readFloat} {order}

theorem Response.ofFields_reread {response : Response} {fields again : Fields}
    {payload : PubSubPayload}
    (serialised : response.fields order = some fields)
    (travelled : reread.rereadFields readFloat (tagged "kind" "Response" fields) =
      some again)
    (decoded : PubSubPayload.ofFields again = some payload) :
    ∃ received, payload = .response { response with payload := received } := by
  obtain ⟨content, _, rfl⟩ := Option.map_eq_some_iff.mp serialised
  have reading : reread.rereadFields readFloat
      (tagged "kind" "Response" [("request_id", .string response.requestId),
        ("responder_node", .string response.responderNode),
        ("payload", .object content)]) =
      (reread.rereadFields readFloat content).map fun inner =>
        tagged "kind" "Response" [("request_id", .string response.requestId),
          ("responder_node", .string response.responderNode),
          ("payload", .object inner)] := by
    simp only [tagged, reread.rereadFields, reread, Option.bind_some]
    cases reread.rereadFields readFloat content <;> rfl
  rw [reading] at travelled
  obtain ⟨inner, _, rfl⟩ := Option.map_eq_some_iff.mp travelled
  cases found : ResponsePayload.ofFields inner with
  | none =>
      simp [PubSubPayload.ofFields, tagged, takeTag, field, asString, Response.ofFields,
        stringField, asFields, found] at decoded
  | some received =>
      refine ⟨received, ?_⟩
      simpa [PubSubPayload.ofFields, tagged, takeTag, field, asString, Response.ofFields,
        stringField, asFields, found, eq_comm] using decoded

theorem exists_arrives {response : Response} {arrived : PubSubEnvelope}
    (read : PubSubEnvelope.ofText readFloat (PubSubEnvelope.toText order
      ⟨response.responderNode, .response response⟩) = some arrived) :
    ∃ received, Arrives readFloat response.payload received ∧
      arrived = ⟨response.responderNode,
        .response { response with payload := received }⟩ := by
  obtain ⟨sender, fields, serialised, again, travelled, decoded⟩ :=
    PubSubEnvelope.sender_of_ofText readFloat order read
  obtain ⟨written, wrote, rfl⟩ := Option.map_eq_some_iff.mp serialised
  obtain ⟨received, same⟩ := Response.ofFields_reread wrote travelled decoded
  have whole : arrived = ⟨response.responderNode,
      .response { response with payload := received }⟩ := by
    obtain ⟨_, _⟩ := arrived
    cases sender
    cases same
    rfl
  rw [whole] at read
  exact ⟨received, ⟨order, response.requestId, response.responderNode, read⟩, whole⟩

theorem Arrives.carried {sent received : ResponsePayload}
    (arrives : Arrives readFloat sent received) (carried : sent.Carried readFloat) :
    received = sent := by
  obtain ⟨order, requestId, responderNode, read⟩ := arrives
  have whole := (wire_round_trip_iff readFloat order
    ⟨responderNode, .response { requestId, responderNode, payload := sent }⟩).mpr carried
  rw [whole] at read
  injection read with same
  injection same with _ same
  injection same with same
  injection same with _ _ same
  exact same.symm

end

namespace Exchange

/-! What one step can do. -/

def Operation.question : Operation → Option (String × RequestType)
  | .request nodeId requestType => some (nodeId, requestType)
  | .discoverPeers nodeId => some (nodeId, .discoverPeers)
  | .pass _ | .change _ _ | .disconnect _ | .publish _ _ | .receive _ => none

def Operation.drawn (requestId : String) : Operation → Point
  | .discoverPeers _ => .inserting requestId Requests.usizeMax
  | _ => .counting requestId

/-- The steps outside the listeners. -/
inductive Asks (shared : Shared) :
    Operation → Point → Shared → Progress Point Returned → Prop
  | pass (elapsed : Nat) :
      Asks shared (.pass elapsed) .acting { shared with now := shared.now + elapsed }
        (.finished .done)
  | change (nodeId : String) (locals : LocalAdapter) :
      Asks shared (.change nodeId locals) .acting
        { shared with
          sites := shared.sites.modify nodeId fun site => { site with locals } }
        (.finished .done)
  | disconnect (nodeId : String) :
      Asks shared (.disconnect nodeId) .acting (shared.setInbox nodeId []) (.finished .done)
  | publish {nodeId : String} {site : Site} (found : shared.sites.lookup nodeId = some site)
      (message : BroadcastMessage) (order : HashOrder) (reaches : Finset String) :
      Asks shared (.publish nodeId message) .acting
        (shared.publish order reaches ⟨nodeId, .broadcast message⟩) (.finished .done)
  | draw {operation : Operation} {nodeId requestId : String} {requestType : RequestType}
      (question : operation.question = some (nodeId, requestType))
      (present : nodeId ∈ shared.sites) (fresh : requestId ∉ shared.issued) :
      Asks shared operation .drawing (shared.issue requestId operation)
        (.running (operation.drawn requestId))
  | count {operation : Operation} {nodeId requestId : String} {requestType : RequestType}
      {site : Site} (question : operation.question = some (nodeId, requestType))
      (found : shared.sites.lookup nodeId = some site) :
      Asks shared operation (.counting requestId)
        (shared.setPubsub nodeId (site.pubsub.pruneNodes shared.now))
        (if (site.pubsub.getPeerCount shared.now).2 = 0 then
          .finished (.responses requestId shared.now (.ok []))
        else .running (.inserting requestId (site.pubsub.getPeerCount shared.now).2))
  | insert {operation : Operation} {nodeId requestId : String} {requestType : RequestType}
      {site : Site} {expectedCount : Nat}
      (question : operation.question = some (nodeId, requestType))
      (found : shared.sites.lookup nodeId = some site) :
      Asks shared operation (.inserting requestId expectedCount)
        (shared.setPubsub nodeId (site.pubsub.insertPending requestId (.new expectedCount)))
        (.running (.publishing requestId))
  | send {operation : Operation} {nodeId requestId : String} {requestType : RequestType}
      {site : Site} (question : operation.question = some (nodeId, requestType))
      (found : shared.sites.lookup nodeId = some site) (order : HashOrder)
      (reaches : Finset String) {next : Point}
      (either : next = .waiting requestId ∨ next = .removing requestId .unpublished) :
      Asks shared operation (.publishing requestId)
        (shared.publish order reaches
          ⟨nodeId, .request { requestId, senderNode := nodeId, requestType }⟩)
        (.running next)
  | wake {operation : Operation} {nodeId requestId : String} {requestType : RequestType}
      {site : Site} (question : operation.question = some (nodeId, requestType))
      (found : shared.sites.lookup nodeId = some site) :
      Asks shared operation (.waiting requestId) shared
        (.running (.removing requestId
          (.received ((site.pubsub.pending.lookup requestId).bind PendingState.sent))))
  | fail {nodeId requestId : String} {requestType : RequestType} :
      Asks shared (.request nodeId requestType) (.removing requestId .unpublished) shared
        (.finished (.responses requestId shared.now (.error ())))
  | finish {nodeId requestId : String} {requestType : RequestType} {site : Site}
      {received : Option (List ResponsePayload)}
      (found : shared.sites.lookup nodeId = some site) :
      Asks shared (.request nodeId requestType) (.removing requestId (.received received))
        (shared.setPubsub nodeId (site.pubsub.removePending requestId))
        (.finished (.responses requestId shared.now (.ok (received.getD []))))
  | discover {nodeId requestId : String} {site : Site} {ending : Requests.Ending}
      {count : Nat} (found : shared.sites.lookup nodeId = some site)
      (counted : count = 0 ∨ ∃ state, site.pubsub.pending.lookup requestId = some state ∧
        count = state.responses.length) :
      Asks shared (.discoverPeers nodeId) (.removing requestId ending)
        (shared.setPubsub nodeId (site.pubsub.removePending requestId))
        (.finished (.peers requestId shared.now count))

/-- The steps of the listener of a node. -/
inductive Receives (readFloat : DecimalText → Option DecimalText) (shared : Shared)
    (nodeId : String) (site : Site) :
    Point → Shared → Progress Point Returned → Prop
  | skip {text : String} {rest : List String}
      (first : shared.inboxes nodeId = text :: rest) :
      Receives readFloat shared nodeId site .taking (shared.setInbox nodeId rest)
        (.finished .done)
  | take {text : String} {rest : List String} {envelope : PubSubEnvelope}
      (first : shared.inboxes nodeId = text :: rest)
      (read : PubSubEnvelope.ofText readFloat text = some envelope)
      (other : envelope.senderNode ≠ nodeId) :
      Receives readFloat shared nodeId site .taking (shared.setInbox nodeId rest)
        (.running (.recording envelope))
  | record (envelope : PubSubEnvelope) :
      Receives readFloat shared nodeId site (.recording envelope)
        (shared.setPubsub nodeId (site.pubsub.recordPeer envelope.senderNode shared.now))
        (.running (.handling envelope))
  | hear (senderNode : String) (message : BroadcastMessage) :
      Receives readFloat shared nodeId site (.handling ⟨senderNode, .broadcast message⟩)
        shared (.finished .done)
  | compute (senderNode : String) (request : Request) (order : HashOrder)
      (metrics : Option Metrics) :
      Receives readFloat shared nodeId site (.handling ⟨senderNode, .request request⟩)
        shared (.running (.responding request shared.now
          (handleRequest order metrics site.locals request.requestType)))
  | accept {senderNode : String} {response : Response}
      (awaited : response.requestId ∈ site.pubsub.pending) :
      Receives readFloat shared nodeId site (.handling ⟨senderNode, .response response⟩)
        (shared.setPubsub nodeId (site.pubsub.handleResponse response))
        (.finished (.accepted response))
  | ignore {senderNode : String} {response : Response}
      (late : response.requestId ∉ site.pubsub.pending) :
      Receives readFloat shared nodeId site (.handling ⟨senderNode, .response response⟩)
        (shared.setPubsub nodeId (site.pubsub.handleResponse response)) (.finished .done)
  | respond (request : Request) (computed : Nat) (payload : ResponsePayload)
      (order : HashOrder) (reaches : Finset String) :
      Receives readFloat shared nodeId site (.responding request computed payload)
        (shared.publish order (reaches ∩ {request.senderNode})
          ⟨nodeId, .response
            { requestId := request.requestId, responderNode := nodeId, payload }⟩)
        (.finished .done)

section

variable {readFloat : DecimalText → Option DecimalText} {shared next : Shared}
  {caller : Caller} {operation : Operation} {point : Point} {choice : Choice}
  {progress : Progress Point Returned}

theorem asks_of_draw {nodeId requestId : String} {requestType : RequestType}
    (question : operation.question = some (nodeId, requestType))
    (drawn : draw shared operation nodeId requestId (operation.drawn requestId) =
      some (next, progress)) :
    Asks shared operation .drawing next progress := by
  unfold draw at drawn
  split at drawn
  · rename_i fresh
    cases drawn
    exact .draw question fresh.1 fresh.2
  · cases drawn

theorem asks_of_finish {site : Site} {nodeId requestId : String}
    {requestType : RequestType} {ending : Requests.Ending}
    (question : operation.question = some (nodeId, requestType))
    (found : shared.sites.lookup nodeId = some site)
    (finished : finish shared site nodeId requestId operation ending =
      some (next, progress)) :
    Asks shared operation (.removing requestId ending) next progress := by
  unfold finish at finished
  split at finished
  · cases finished
    exact .fail
  · cases question
    cases finished
    exact .finish found
  · cases question
    cases finished
    exact .discover found (.inl rfl)
  · cases question
    cases finished
    apply Asks.discover found
    cases site.pubsub.pending.lookup requestId with
    | none => exact .inl rfl
    | some state => exact .inr ⟨state, rfl, rfl⟩
  · cases finished

theorem asks_of_ask {site : Site} {nodeId : String} {requestType : RequestType}
    (question : operation.question = some (nodeId, requestType))
    (found : shared.sites.lookup nodeId = some site)
    (asked : ask shared site operation nodeId requestType choice point =
      some (next, progress)) :
    Asks shared operation point next progress := by
  unfold ask at asked
  split at asked
  · cases asked
    exact .count question found
  · cases asked
    exact .insert question found
  · cases asked
    apply Asks.send question found
    split
    · exact .inl rfl
    · exact .inr rfl
  · cases asked
    exact .wake question found
  · exact asks_of_finish question found asked
  · cases asked

theorem receives_of_receive {site : Site} {nodeId : String}
    (received : receive readFloat shared site nodeId choice point =
      some (next, progress)) :
    Receives readFloat shared nodeId site point next progress := by
  unfold receive at received
  split at received
  · split at received
    · cases received
    · rename_i text rest first
      cases received
      split
      · exact .skip first
      · rename_i envelope read
        split
        · exact .skip first
        · rename_i other
          exact .take first read other
  · cases received
    exact .record _
  · rename_i envelope
    obtain ⟨senderNode, payload⟩ := envelope
    cases payload with
    | broadcast message =>
        cases received
        exact .hear senderNode message
    | request request =>
        cases received
        exact .compute senderNode request choice.order choice.metrics
    | response response =>
        cases received
        split
        · rename_i awaited
          exact .accept awaited
        · rename_i late
          exact .ignore late
  · cases received
    exact .respond _ _ _ choice.order choice.reaches
  · cases received

theorem step_cases
    (stepped : advance readFloat shared caller operation point choice =
      some (next, progress)) :
    Asks shared operation point next progress ∨
      ∃ nodeId site, operation = .receive nodeId ∧
        shared.sites.lookup nodeId = some site ∧
        Receives readFloat shared nodeId site point next progress := by
  unfold advance at stepped
  split at stepped
  · cases stepped
    exact .inl (.pass _)
  · cases stepped
    exact .inl (.change _ _)
  · cases stepped
    exact .inl (.disconnect _)
  · obtain ⟨site, found, same⟩ := Option.map_eq_some_iff.mp stepped
    cases same
    exact .inl (.publish found _ _ _)
  · exact .inl (asks_of_draw rfl stepped)
  · exact .inl (asks_of_draw rfl stepped)
  · obtain ⟨site, found, asked⟩ := Option.bind_eq_some_iff.mp stepped
    exact .inl (asks_of_ask rfl found asked)
  · obtain ⟨site, found, asked⟩ := Option.bind_eq_some_iff.mp stepped
    exact .inl (asks_of_ask rfl found asked)
  · obtain ⟨site, found, received⟩ := Option.bind_eq_some_iff.mp stepped
    exact .inr ⟨_, site, rfl, found, receives_of_receive received⟩
  · cases stepped

end

end Exchange

end RushSocket.Adapter.Redis
