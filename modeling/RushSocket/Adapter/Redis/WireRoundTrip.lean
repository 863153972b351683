import RushSocket.Adapter.Redis.Wire

namespace RushSocket.Adapter.Redis

open Data Json

variable (readFloat : DecimalText → Option DecimalText) (order : HashOrder)

/-! Messages without numbers or maps come back as they were. -/

theorem BroadcastMessage.ofFields_fields (message : BroadcastMessage) :
    ofFields message.fields = some message := by
  cases message with
  | channelMessage appId channel message exceptingId =>
      cases exceptingId <;> rfl
  | terminateUser appId userId => rfl
  | heartbeat => rfl

theorem BroadcastMessage.reread_fields (message : BroadcastMessage) :
    reread.rereadFields readFloat message.fields = some message.fields := by
  cases message with
  | channelMessage appId channel message exceptingId =>
      cases exceptingId <;> rfl
  | terminateUser appId userId => rfl
  | heartbeat => rfl

theorem BroadcastMessage.depth_fields (message : BroadcastMessage) :
    depth.depthFields message.fields = 0 := by
  cases message with
  | channelMessage appId channel message exceptingId =>
      cases exceptingId <;> rfl
  | terminateUser appId userId => rfl
  | heartbeat => rfl

theorem RequestType.ofFields_fields (requestType : RequestType) :
    ofFields requestType.fields = some requestType := by
  cases requestType <;> rfl

theorem RequestType.reread_fields (requestType : RequestType) :
    reread.rereadFields readFloat requestType.fields = some requestType.fields := by
  cases requestType <;> rfl

theorem RequestType.depth_fields (requestType : RequestType) :
    depth.depthFields requestType.fields = 0 := by
  cases requestType <;> rfl

theorem Request.ofFields_fields (request : Request) :
    ofFields request.fields = some request := by
  have inner := request.requestType.ofFields_fields
  simp [ofFields, fields, stringField, field, asString, asFields, inner]

theorem Request.reread_fields (request : Request) :
    reread.rereadFields readFloat request.fields = some request.fields := by
  simp [fields, reread.rereadFields, reread,
    request.requestType.reread_fields readFloat]

theorem Request.depth_fields (request : Request) :
    depth.depthFields request.fields = 1 := by
  simp [fields, depth.depthFields, depth, request.requestType.depth_fields]

/-! The envelope comes back exactly when its payload does, read again and
within the depth that is left. -/

/-- What the payload's map becomes on the way. -/
def Travels (fields : Fields) (payload : PubSubPayload) : Prop :=
  ∃ again, reread.rereadFields readFloat fields = some again ∧
    depth.depthFields again + 2 ≤ recursionLimit ∧
    PubSubPayload.ofFields again = some payload

theorem PubSubEnvelope.ofJson_object (senderNode : String) (fields : Fields) :
    ofJson (.object [("sender_node", .string senderNode),
        ("payload", .object fields)]) =
      (PubSubPayload.ofFields fields).map fun payload =>
        { senderNode, payload } := by
  cases found : PubSubPayload.ofFields fields <;>
    simp [ofJson, asFields, stringField, field, asString, found]

theorem PubSubEnvelope.ofText_toText_iff {envelope : PubSubEnvelope}
    {fields : Fields} (serialised : envelope.payload.fields order = some fields) :
    ofText readFloat (envelope.toText order) = some envelope ↔
      Travels readFloat fields envelope.payload := by
  obtain ⟨senderNode, payload⟩ := envelope
  have text : toText order ⟨senderNode, payload⟩ =
      (Json.object [("sender_node", .string senderNode),
        ("payload", .object fields)]).print := by
    simp [toText, toJson, serialised]
  have reading : (Json.object [("sender_node", .string senderNode),
      ("payload", .object fields)]).reread readFloat =
      (reread.rereadFields readFloat fields).map fun again =>
        .object [("sender_node", .string senderNode), ("payload", .object again)] := by
    simp only [reread, reread.rereadFields, Option.bind_some]
    cases reread.rereadFields readFloat fields <;> rfl
  rw [ofText, text, parse_print, reading, Travels]
  cases reread.rereadFields readFloat fields with
  | none => simp
  | some again =>
      have nested : depth (.object [("sender_node", .string senderNode),
          ("payload", .object again)]) = depth.depthFields again + 2 := by
        simp [depth, depth.depthFields]
      simp only [Option.map_some, Option.bind_some, nested, Option.some.injEq,
        exists_eq_left']
      by_cases within : depth.depthFields again + 2 ≤ recursionLimit
      · simp only [within, if_true, Option.bind_some, ofJson_object, true_and]
        cases PubSubPayload.ofFields again <;> simp
      · simp [within]

theorem travels_broadcast (message : BroadcastMessage) :
    Travels readFloat (tagged "kind" "Broadcast" message.fields)
      (.broadcast message) := by
  refine ⟨tagged "kind" "Broadcast" message.fields, ?_, ?_, ?_⟩
  · simp [tagged, reread.rereadFields, reread, message.reread_fields]
  · simp [tagged, depth.depthFields, depth, message.depth_fields, recursionLimit]
  · cases message with
    | channelMessage appId channel text exceptingId =>
        cases exceptingId <;> rfl
    | terminateUser appId userId => rfl
    | heartbeat => rfl

theorem travels_request (request : Request) :
    Travels readFloat (tagged "kind" "Request" request.fields)
      (.request request) := by
  refine ⟨tagged "kind" "Request" request.fields, ?_, ?_, ?_⟩
  · simp [tagged, reread.rereadFields, reread, request.reread_fields]
  · simp [tagged, depth.depthFields, depth, request.depth_fields, recursionLimit]
  · have inner := request.requestType.ofFields_fields
    simp [PubSubPayload.ofFields, tagged, takeTag, field, asString, Request.ofFields,
      Request.fields, stringField, asFields, inner]

/-! Responses. -/

theorem travels_response_iff (requestId responderNode : String)
    (payload : ResponsePayload) (fields : Fields) :
    Travels readFloat
        (tagged "kind" "Response" [("request_id", .string requestId),
          ("responder_node", .string responderNode), ("payload", .object fields)])
        (.response { requestId, responderNode, payload }) ↔
      ∃ again, reread.rereadFields readFloat fields = some again ∧
        depth.depthFields again + 3 ≤ recursionLimit ∧
        ResponsePayload.ofFields again = some payload := by
  have reading : reread.rereadFields readFloat
      (tagged "kind" "Response" [("request_id", .string requestId),
        ("responder_node", .string responderNode), ("payload", .object fields)]) =
      (reread.rereadFields readFloat fields).map fun again =>
        tagged "kind" "Response" [("request_id", .string requestId),
          ("responder_node", .string responderNode), ("payload", .object again)] := by
    simp only [tagged, reread.rereadFields, reread, Option.bind_some]
    cases reread.rereadFields readFloat fields <;> rfl
  have decoding : ∀ again : Fields, PubSubPayload.ofFields
      (tagged "kind" "Response" [("request_id", .string requestId),
        ("responder_node", .string responderNode), ("payload", .object again)]) =
      (ResponsePayload.ofFields again).map fun payload =>
        .response { requestId, responderNode, payload } := by
    intro again
    cases found : ResponsePayload.ofFields again <;>
      simp [PubSubPayload.ofFields, tagged, takeTag, field, asString,
        Response.ofFields, stringField, asFields, found]
  have nesting : ∀ again : Fields, depth.depthFields
      (tagged "kind" "Response" [("request_id", .string requestId),
        ("responder_node", .string responderNode), ("payload", .object again)]) =
      depth.depthFields again + 1 := by
    intro again
    simp [tagged, depth.depthFields, depth]
  rw [Travels, reading]
  cases reread.rereadFields readFloat fields with
  | none => simp
  | some again =>
      simp only [Option.map_some, Option.some.injEq, exists_eq_left', decoding, nesting]
      cases ResponsePayload.ofFields again <;> simp

/-! A map comes back through its entries. -/

theorem membersOfFields_append (fields : Fields) (entry : String × Json) :
    membersOfFields (fields ++ [entry]) =
      (membersOfFields fields).insert entry.1 (.ofJson entry.2) := by
  simp [membersOfFields]

theorem lookup_membersOfFields {fields : Fields}
    (nodup : (fields.map Prod.fst).Nodup) {entry : String × Json}
    (member : entry ∈ fields) :
    (membersOfFields fields).lookup entry.1 = some (.ofJson entry.2) := by
  induction fields using List.reverseRecOn with
  | nil => cases member
  | append_singleton fields last induction =>
      rw [List.map_append, List.nodup_append] at nodup
      rw [membersOfFields_append, Table.lookup_put]
      rcases List.mem_append.mp member with front | back
      · have different : entry.1 ≠ last.1 :=
          nodup.2.2 entry.1 (List.mem_map_of_mem front) last.1 (by simp)
        rw [if_neg different]
        exact induction nodup.1 front
      · rw [List.mem_singleton.mp back, if_pos rfl]

theorem lookup_membersOfFields_of_not_mem {fields : Fields} {userId : String}
    (absent : userId ∉ fields.map Prod.fst) :
    (membersOfFields fields).lookup userId = none := by
  induction fields using List.reverseRecOn with
  | nil => rfl
  | append_singleton fields last induction =>
      simp only [List.map_append, List.map_cons, List.map_nil, List.mem_append,
        List.mem_singleton, not_or] at absent
      rw [membersOfFields_append, Table.lookup_put, if_neg absent.2]
      exact induction absent.1

theorem mem_memberFields {members : Table String Value} {entry : String × Json} :
    entry ∈ memberFields order members ↔
      ∃ info, members.lookup entry.1 = some info ∧ entry.2 = info.json := by
  simp only [memberFields, List.mem_filterMap, Option.map_eq_some_iff]
  constructor
  · rintro ⟨userId, _, info, found, rfl⟩
    exact ⟨info, found, rfl⟩
  · rintro ⟨info, found, same⟩
    refine ⟨entry.1, ?_, info, found, by rw [← same]⟩
    exact order.mem_list.mpr (Table.mem_keys_iff.mpr ⟨info, found⟩)

theorem keys_memberFields (members : Table String Value) :
    (memberFields order members).map Prod.fst = order.list members.keys := by
  have present : ∀ userId ∈ order.list members.keys,
      ∃ info, members.lookup userId = some info := fun userId member =>
    Table.mem_keys_iff.mp (order.mem_list.mp member)
  rw [memberFields, List.map_filterMap]
  generalize order.list members.keys = userIds at present
  induction userIds with
  | nil => rfl
  | cons userId rest induction =>
      obtain ⟨info, found⟩ := present userId List.mem_cons_self
      have tail := induction fun other member =>
        present other (List.mem_cons_of_mem _ member)
      simp only [List.filterMap_cons, found, Option.map_some]
      rw [tail]

theorem takeTag_tagged (tag variant : String) (fields : Fields) :
    takeTag tag (tagged tag variant fields) =
      if tag ∈ fields.map Prod.fst then none else some (variant, fields) := by
  have onTag : (tagged tag variant fields).filter (fun entry => entry.1 = tag) =
      (tag, .string variant) :: fields.filter fun entry => entry.1 = tag := by
    simp [tagged]
  by_cases repeated : tag ∈ fields.map Prod.fst
  · obtain ⟨entry, member, same⟩ := List.mem_map.mp repeated
    have kept : entry ∈ fields.filter fun entry => entry.1 = tag := by
      simp [member, same]
    obtain ⟨other, rest, shape⟩ :=
      List.exists_cons_of_ne_nil (List.ne_nil_of_mem kept)
    rw [if_pos repeated, takeTag, field, onTag, shape]
    rfl
  · have none : fields.filter (fun entry => decide (entry.1 = tag)) = [] := by
      rw [List.filter_eq_nil_iff]
      intro entry member same
      exact repeated (List.mem_map.mpr ⟨entry, member, by simpa using same⟩)
    have all : (tagged tag variant fields).filter (fun entry => entry.1 ≠ tag) =
        fields := by
      rw [tagged, List.filter_cons_of_neg (by simp), List.filter_eq_self]
      intro entry member
      have different : entry.1 ≠ tag := fun same =>
        repeated (List.mem_map.mpr ⟨entry, member, same⟩)
      simpa using different
    rw [if_neg repeated, takeTag, field, onTag, none, all]
    rfl

theorem reread_tagged (variant : String) (fields : Fields) :
    reread.rereadFields readFloat (tagged "type" variant fields) =
      (reread.rereadFields readFloat fields).map (tagged "type" variant) := by
  simp only [tagged, reread.rereadFields, reread, Option.bind_some]
  rfl

theorem depth_tagged (variant : String) (fields : Fields) :
    depth.depthFields (tagged "type" variant fields) = depth.depthFields fields := by
  simp [tagged, depth.depthFields, depth]

/-- The responses that come back: not a number or a list; no user with the name
of the tag; nothing nested deeper than the recursion limit leaves room for; and
every float is one that reads back as itself. -/
def ResponsePayload.Carried : ResponsePayload → Prop
  | .count _ | .channels _ | .socketIds _ => False
  | .channelInfo _ _ _ | .ack => True
  | .presenceMembers members =>
      "type" ∉ members ∧ ∀ userId info, members.lookup userId = some info →
        info.json.depth + 3 ≤ recursionLimit ∧
          info.json.reread readFloat = some info.json
  | .metrics snapshot =>
      ∃ fields, snapshot.json = .object fields ∧ "type" ∉ fields.map Prod.fst ∧
        ∀ entry ∈ fields, entry.2.depth + 3 ≤ recursionLimit ∧
          entry.2.reread readFloat = some entry.2

theorem membersOfFields_memberFields (members : Table String Value) :
    membersOfFields (memberFields order members) = members := by
  have nodup : ((memberFields order members).map Prod.fst).Nodup := by
    rw [keys_memberFields]
    exact order.nodup _
  apply Finmap.ext_lookup
  intro userId
  cases found : members.lookup userId with
  | none =>
      apply lookup_membersOfFields_of_not_mem
      rw [keys_memberFields, order.mem_list, Table.mem_keys_iff]
      rintro ⟨info, stored⟩
      rw [found] at stored
      cases stored
  | some info =>
      have member : (userId, info.json) ∈ memberFields order members :=
        (mem_memberFields order).mpr ⟨info, found, rfl⟩
      rw [lookup_membersOfFields nodup member, Value.ofJson_json]

theorem reread_of_membersOfFields {members : Table String Value} {again : Fields}
    (read : reread.rereadFields readFloat (memberFields order members) = some again)
    (same : membersOfFields again = members) {userId : String} {info : Value}
    (found : members.lookup userId = some info) :
    info.json.reread readFloat = some info.json := by
  have keys := keys_rereadFields readFloat read
  have nodup : (again.map Prod.fst).Nodup := by
    rw [keys, keys_memberFields]
    exact order.nodup _
  have sent : (userId, info.json) ∈ memberFields order members :=
    (mem_memberFields order).mpr ⟨info, found, rfl⟩
  obtain ⟨arrived, member, reading⟩ := mem_rereadFields readFloat read sent
  have stored := lookup_membersOfFields nodup member
  rw [same, found] at stored
  have unchanged : arrived = info.json := by
    have canonical := (canonical_reread readFloat _ reading).trans info.canonical
    rw [Option.some.inj stored]
    exact (arrived.normalize_of_canonical canonical).symm
  rw [reading, unchanged]

theorem asUsize_ofU64 (value : UInt64) : asUsize (Json.ofU64 value) = some value := by
  simp [asUsize, Json.ofU64]

theorem travels_channelInfo {occupied : Bool} {subscriptionCount : UInt64}
    {userCount : Option UInt64} {fields : Fields}
    (serialised : (ResponsePayload.channelInfo occupied subscriptionCount
      userCount).fields order = some fields) :
    ∃ again, reread.rereadFields readFloat fields = some again ∧
      depth.depthFields again + 3 ≤ recursionLimit ∧
      ResponsePayload.ofFields again =
        some (.channelInfo occupied subscriptionCount userCount) := by
  have count := asUsize_ofU64 subscriptionCount
  refine ⟨fields, ?_, ?_, ?_⟩
  · cases serialised
    cases userCount <;> rfl
  · cases serialised
    cases userCount <;> exact (by decide : 0 + 3 ≤ recursionLimit)
  · cases serialised
    cases userCount with
    | none =>
        simp [ResponsePayload.ofFields, tagged, takeTag, field, optionalField,
          asString, asBool, asOption, ofOption, count]
    | some users =>
        have optional : asOption asUsize (Json.ofU64 users) = some (some users) := by
          simp [Json.ofU64, asOption, asUsize]
        simp [ResponsePayload.ofFields, tagged, takeTag, field, optionalField,
          asString, asBool, ofOption, count, optional]

theorem ofFields_presenceMembers (fields : Fields) :
    ResponsePayload.ofFields (tagged "type" "PresenceMembers" fields) =
      if "type" ∈ fields.map Prod.fst then none
      else some (.presenceMembers (membersOfFields fields)) := by
  rw [ResponsePayload.ofFields, takeTag_tagged]
  split <;> rfl

theorem ofFields_metrics (fields : Fields) :
    ResponsePayload.ofFields (tagged "type" "Metrics" fields) =
      if "type" ∈ fields.map Prod.fst then none
      else some (.metrics (.ofJson (.object fields))) := by
  rw [ResponsePayload.ofFields, takeTag_tagged]
  split <;> rfl

theorem travels_presenceMembers_iff (members : Table String Value) :
    (∃ again, reread.rereadFields readFloat
        (tagged "type" "PresenceMembers" (memberFields order members)) =
          some again ∧
        depth.depthFields again + 3 ≤ recursionLimit ∧
        ResponsePayload.ofFields again = some (.presenceMembers members)) ↔
      (ResponsePayload.presenceMembers members).Carried readFloat := by
  have keys : ∀ userId, userId ∈ (memberFields order members).map Prod.fst ↔
      userId ∈ members := by
    intro userId
    rw [keys_memberFields, order.mem_list, Finmap.mem_keys]
  rw [reread_tagged]
  constructor
  · rintro ⟨again, read, shallow, decoded⟩
    obtain ⟨inner, innerRead, rfl⟩ := Option.map_eq_some_iff.mp read
    have sameKeys := keys_rereadFields readFloat innerRead
    rw [ofFields_presenceMembers, sameKeys] at decoded
    rw [depth_tagged, depthFields_reread readFloat _ innerRead] at shallow
    split at decoded
    · cases decoded
    · rename_i distinct
      have noClash : "type" ∉ members := fun clash => distinct ((keys _).mpr clash)
      have same : membersOfFields inner = members := by
        injection decoded with decoded
        injection decoded
      refine ⟨noClash, fun userId info found => ⟨?_, ?_⟩⟩
      · have bound := depthFields_le_iff.mp le_rfl (userId, info.json)
          ((mem_memberFields order).mpr ⟨info, found, rfl⟩)
        exact Nat.le_trans (Nat.add_le_add_right bound 3) shallow
      · exact reread_of_membersOfFields readFloat order innerRead same found
  · rintro ⟨noClash, entries⟩
    have steady : reread.rereadFields readFloat (memberFields order members) =
        some (memberFields order members) := by
      rw [rereadFields_self_iff]
      intro entry member
      obtain ⟨info, found, shape⟩ := (mem_memberFields order).mp member
      rw [shape]
      exact (entries entry.1 info found).2
    have shallow : depth.depthFields (memberFields order members) ≤
        recursionLimit - 3 := by
      rw [depthFields_le_iff]
      intro entry member
      obtain ⟨info, found, shape⟩ := (mem_memberFields order).mp member
      rw [shape]
      exact Nat.le_sub_of_add_le (entries entry.1 info found).1
    refine ⟨tagged "type" "PresenceMembers" (memberFields order members),
      by rw [steady]; rfl, ?_, ?_⟩
    · rw [depth_tagged]
      exact Nat.add_le_of_le_sub (by decide) shallow
    · rw [ofFields_presenceMembers, if_neg fun clash => noClash ((keys _).mp clash),
        membersOfFields_memberFields]

theorem travels_metrics_iff {snapshot : Value} {fields : Fields}
    (shape : snapshot.json = .object fields) :
    (∃ again, reread.rereadFields readFloat (tagged "type" "Metrics" fields) =
          some again ∧
        depth.depthFields again + 3 ≤ recursionLimit ∧
        ResponsePayload.ofFields again = some (.metrics snapshot)) ↔
      (ResponsePayload.metrics snapshot).Carried readFloat := by
  rw [reread_tagged]
  constructor
  · rintro ⟨again, read, shallow, decoded⟩
    obtain ⟨inner, innerRead, rfl⟩ := Option.map_eq_some_iff.mp read
    have sameKeys := keys_rereadFields readFloat innerRead
    rw [ofFields_metrics, sameKeys] at decoded
    rw [depth_tagged, depthFields_reread readFloat _ innerRead] at shallow
    split at decoded
    · cases decoded
    · rename_i noClash
      have whole : (Json.object fields).reread readFloat = some (.object inner) := by
        simp [reread, innerRead]
      have canonical : (Json.object inner).canonical = true := by
        rw [canonical_reread readFloat _ whole, ← shape]
        exact snapshot.canonical
      have same : Value.ofJson (.object inner) = snapshot := by
        injection decoded with decoded
        injection decoded
      have unchanged : inner = fields := by
        have json := congrArg Value.json same
        simp only [Value.ofJson, normalize_of_canonical _ canonical, shape] at json
        injection json
      rw [unchanged] at innerRead
      refine ⟨fields, shape, noClash, fun entry member => ⟨?_, ?_⟩⟩
      · have bound := depthFields_le_iff.mp le_rfl entry member
        exact Nat.le_trans (Nat.add_le_add_right bound 3) shallow
      · exact (rereadFields_self_iff readFloat).mp innerRead entry member
  · rintro ⟨others, otherShape, noClash, entries⟩
    obtain rfl : fields = others := by
      rw [shape] at otherShape
      injection otherShape
    have steady := (rereadFields_self_iff readFloat).mpr fun entry member =>
      (entries entry member).2
    have shallow : depth.depthFields fields ≤ recursionLimit - 3 :=
      depthFields_le_iff.mpr fun entry member =>
        Nat.le_sub_of_add_le (entries entry member).1
    refine ⟨tagged "type" "Metrics" fields, by rw [steady]; rfl, ?_, ?_⟩
    · rw [depth_tagged]
      exact Nat.add_le_of_le_sub (by decide) shallow
    · rw [ofFields_metrics, if_neg noClash, ← shape, Value.ofJson_json]

theorem travels_carried_iff {payload : ResponsePayload} {fields : Fields}
    (serialised : payload.fields order = some fields) :
    (∃ again, reread.rereadFields readFloat fields = some again ∧
        depth.depthFields again + 3 ≤ recursionLimit ∧
        ResponsePayload.ofFields again = some payload) ↔
      payload.Carried readFloat := by
  cases payload with
  | count | channels | socketIds => cases serialised
  | channelInfo occupied subscriptionCount userCount =>
      exact ⟨fun _ => trivial, fun _ =>
        travels_channelInfo readFloat order serialised⟩
  | ack =>
      cases serialised
      exact ⟨fun _ => trivial, fun _ => ⟨_, rfl, by decide, rfl⟩⟩
  | presenceMembers members =>
      cases serialised
      exact travels_presenceMembers_iff readFloat order members
  | metrics snapshot =>
      simp only [ResponsePayload.fields, Option.map_eq_some_iff] at serialised
      obtain ⟨inner, content, rfl⟩ := serialised
      have shape : snapshot.json = .object inner := by
        revert content
        cases snapshot.json <;> simp [mapContent]
      exact travels_metrics_iff readFloat shape

theorem not_carried_of_fields_eq_none {payload : ResponsePayload}
    (unserialised : payload.fields order = none) : ¬ payload.Carried readFloat := by
  cases payload with
  | count | channels | socketIds => exact id
  | channelInfo | ack | presenceMembers => cases unserialised
  | metrics snapshot =>
      rintro ⟨fields, shape, _⟩
      simp [ResponsePayload.fields, shape, mapContent] at unserialised

def PubSubEnvelope.Carried (envelope : PubSubEnvelope) : Prop :=
  match envelope.payload with
  | .broadcast _ | .request _ => True
  | .response response => response.payload.Carried readFloat

theorem PubSubEnvelope.ofText_empty : ofText readFloat "" = none := rfl

/-- Publishing and parsing gives an envelope back exactly when it is carried. -/
theorem wire_round_trip_iff (envelope : PubSubEnvelope) :
    PubSubEnvelope.ofText readFloat (envelope.toText order) = some envelope ↔
      envelope.Carried readFloat := by
  obtain ⟨senderNode, payload⟩ := envelope
  cases payload with
  | broadcast message =>
      rw [PubSubEnvelope.ofText_toText_iff readFloat order rfl]
      exact ⟨fun _ => trivial, fun _ => travels_broadcast readFloat message⟩
  | request request =>
      rw [PubSubEnvelope.ofText_toText_iff readFloat order rfl]
      exact ⟨fun _ => trivial, fun _ => travels_request readFloat request⟩
  | response response =>
      obtain ⟨requestId, responderNode, payload⟩ := response
      cases serialised : payload.fields order with
      | none =>
          have text : PubSubEnvelope.toText order
              ⟨senderNode, .response ⟨requestId, responderNode, payload⟩⟩ = "" := by
            simp [PubSubEnvelope.toText, PubSubEnvelope.toJson, PubSubPayload.fields,
              Response.fields, serialised]
          rw [text, PubSubEnvelope.ofText_empty]
          exact ⟨fun equal => (nomatch equal), fun carried =>
            absurd carried (not_carried_of_fields_eq_none readFloat order serialised)⟩
      | some fields =>
          have outer : PubSubPayload.fields order
              (.response ⟨requestId, responderNode, payload⟩) =
              some (tagged "kind" "Response" [("request_id", .string requestId),
                ("responder_node", .string responderNode),
                ("payload", .object fields)]) := by
            simp [PubSubPayload.fields, Response.fields, serialised]
          rw [PubSubEnvelope.ofText_toText_iff readFloat order outer,
            travels_response_iff, travels_carried_iff readFloat order serialised]
          rfl

def countAnswer : PubSubEnvelope where
  senderNode := "node-b"
  payload := .response
    { requestId := "request-1", responderNode := "node-b", payload := .count 3 }

theorem countAnswer_lost :
    countAnswer.toText .ascending = "" ∧
      PubSubEnvelope.ofText some (countAnswer.toText .ascending) ≠
        some countAnswer :=
  ⟨rfl, nofun⟩

end RushSocket.Adapter.Redis
