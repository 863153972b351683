import RushSocket.Adapter.Redis.Wire

namespace RushSocket.Adapter.Redis

open Data

/-! Requests to the other nodes and the collection of their answers. -/

/-- The answers to one request.  The sender `tx` is taken when it sends. -/
structure PendingState where
  responses : List ResponsePayload
  sent : Option (List ResponsePayload)
  expectedCount : Nat
  deriving DecidableEq

namespace PendingState

def new (expectedCount : Nat) : PendingState where
  responses := []
  sent := none
  expectedCount := expectedCount

def push (state : PendingState) (payload : ResponsePayload) : PendingState :=
  let responses := state.responses ++ [payload]
  { state with
    responses
    sent :=
      if responses.length ≥ state.expectedCount then state.sent.or (some responses)
      else state.sent }

def pushAll (state : PendingState) (payloads : List ResponsePayload) :
    PendingState :=
  payloads.foldl push state

theorem pushAll_append (state : PendingState)
    (first second : List ResponsePayload) :
    state.pushAll (first ++ second) = (state.pushAll first).pushAll second :=
  List.foldl_append

theorem pushAll_new {expectedCount : Nat} (expecting : 0 < expectedCount)
    (payloads : List ResponsePayload) :
    (new expectedCount).pushAll payloads =
      { responses := payloads
        sent :=
          if expectedCount ≤ payloads.length then
            some (payloads.take expectedCount)
          else none
        expectedCount } := by
  induction payloads using List.reverseRecOn with
  | nil => simp [pushAll, new, Nat.not_le.mpr expecting]
  | append_singleton payloads payload induction =>
      rw [pushAll_append, induction]
      simp only [pushAll, List.foldl_cons, List.foldl_nil, push, List.length_append,
        List.length_singleton, mk.injEq, true_and, and_true]
      rcases Nat.lt_trichotomy payloads.length.succ expectedCount with
        fewer | exact_ | more
      · rw [if_neg (by omega), if_neg (by omega), if_neg (by omega)]
      · rw [if_pos (by omega), if_neg (by omega), if_pos (by omega),
          List.take_of_length_le (by simp [← exact_])]
        rfl
      · rw [if_pos (by omega), if_pos (by omega), if_pos (by omega),
          List.take_append_of_le_length (by omega)]
        rfl

end PendingState

/-- Instants count nanoseconds. -/
structure RedisPubSub where
  pending : Table String PendingState
  knownNodes : Table String Nat
  deriving DecidableEq

/-- What the environment does while a request waits: the answers handed to
`handle_response` before the publish is over, before the channel or the timer
wakes the request, and before it has removed its entry. -/
structure Delivery where
  whilePublishing : List Response
  published : Bool
  whileWaiting : List Response
  beforeRemoval : List Response

def payloadsFor (requestId : String) (responses : List Response) :
    List ResponsePayload :=
  (responses.filter fun response => response.requestId = requestId).map
    Response.payload

namespace RedisPubSub

def heartbeatInterval : Nat := 30

def staleThreshold : Nat := heartbeatInterval * 2 * 1000000000

def recordPeer (pubsub : RedisPubSub) (nodeId : String) (now : Nat) : RedisPubSub :=
  { pubsub with knownNodes := pubsub.knownNodes.insert nodeId now }

def pruneNodes (pubsub : RedisPubSub) (now : Nat) : RedisPubSub :=
  { pubsub with
    knownNodes := pubsub.knownNodes.retain fun _ lastSeen =>
      now - lastSeen < staleThreshold }

def getPeerCount (pubsub : RedisPubSub) (now : Nat) : RedisPubSub × Nat :=
  (pubsub.pruneNodes now, (pubsub.pruneNodes now).knownNodes.size)

def handleResponse (pubsub : RedisPubSub) (response : Response) : RedisPubSub :=
  { pubsub with
    pending := pubsub.pending.modify response.requestId fun state =>
      state.push response.payload }

def handleResponses (pubsub : RedisPubSub) (responses : List Response) :
    RedisPubSub :=
  responses.foldl handleResponse pubsub

def insertPending (pubsub : RedisPubSub) (requestId : String)
    (state : PendingState) : RedisPubSub :=
  { pubsub with pending := pubsub.pending.insert requestId state }

def removePending (pubsub : RedisPubSub) (requestId : String) : RedisPubSub :=
  { pubsub with pending := pubsub.pending.erase requestId }

/-- The publish and the wait: an error of the publish, or what the channel has
given when the timer is over. -/
def awaitResponses (pubsub : RedisPubSub) (requestId : String)
    (delivery : Delivery) :
    RedisPubSub × Except Unit (Option (List ResponsePayload)) :=
  let publishing := pubsub.handleResponses delivery.whilePublishing
  if delivery.published then
    let waiting := publishing.handleResponses delivery.whileWaiting
    (waiting.handleResponses delivery.beforeRemoval,
      .ok ((waiting.pending.lookup requestId).bind PendingState.sent))
  else (publishing, .error ())

def request (pubsub : RedisPubSub) (now : Nat) (requestId : String)
    (delivery : Delivery) : RedisPubSub × Except Unit (List ResponsePayload) :=
  let (counted, expectedCount) := pubsub.getPeerCount now
  if expectedCount = 0 then (counted, .ok [])
  else
    let opened := counted.insertPending requestId (.new expectedCount)
    let (ended, result) := opened.awaitResponses requestId delivery
    match result with
    | .ok received => (ended.removePending requestId, .ok (received.getD []))
    | .error () => (ended, .error ())

def accepted (pubsub : RedisPubSub) (now : Nat) (requestId : String)
    (delivery : Delivery) : List ResponsePayload :=
  let (counted, expectedCount) := pubsub.getPeerCount now
  if expectedCount = 0 then []
  else
    let opened := counted.insertPending requestId (.new expectedCount)
    match (opened.awaitResponses requestId delivery).1.pending.lookup requestId with
    | some state => state.responses
    | none => []

/-! What a request collects. -/

theorem lookup_handleResponses (pubsub : RedisPubSub) (responses : List Response)
    (requestId : String) :
    (pubsub.handleResponses responses).pending.lookup requestId =
      (pubsub.pending.lookup requestId).map fun state =>
        state.pushAll (payloadsFor requestId responses) := by
  induction responses generalizing pubsub with
  | nil =>
      change pubsub.pending.lookup requestId = _
      cases pubsub.pending.lookup requestId <;> rfl
  | cons response rest induction =>
      change ((pubsub.handleResponse response).handleResponses rest).pending.lookup
        requestId = _
      rw [induction, handleResponse, Table.lookup_modify]
      by_cases same : requestId = response.requestId
      · subst same
        rw [if_pos rfl, Option.map_map]
        simp only [payloadsFor, List.filter_cons, decide_true, if_true]
        rfl
      · rw [if_neg same]
        simp only [payloadsFor, List.filter_cons, Ne.symm same, decide_false,
          Bool.false_eq_true, if_false]

theorem handleResponses_append (pubsub : RedisPubSub)
    (first second : List Response) :
    (pubsub.handleResponses first).handleResponses second =
      pubsub.handleResponses (first ++ second) :=
  (List.foldl_append ..).symm

theorem lookup_insertPending_handleResponses (pubsub : RedisPubSub)
    (requestId : String) {expectedCount : Nat} (expecting : 0 < expectedCount)
    (responses : List Response) :
    ((pubsub.insertPending requestId (.new expectedCount)).handleResponses
        responses).pending.lookup requestId =
      some {
        responses := payloadsFor requestId responses
        sent :=
          if expectedCount ≤ (payloadsFor requestId responses).length then
            some ((payloadsFor requestId responses).take expectedCount)
          else none
        expectedCount } := by
  rw [lookup_handleResponses, insertPending, Finmap.lookup_insert, Option.map_some,
    PendingState.pushAll_new expecting]

def timely (requestId : String) (delivery : Delivery) : List ResponsePayload :=
  payloadsFor requestId (delivery.whilePublishing ++ delivery.whileWaiting)

theorem awaitResponses_snd (pubsub : RedisPubSub) (requestId : String)
    {expectedCount : Nat} (expecting : 0 < expectedCount) (delivery : Delivery) :
    ((pubsub.insertPending requestId (.new expectedCount)).awaitResponses requestId
        delivery).2 =
      if delivery.published then
        .ok (if expectedCount ≤ (timely requestId delivery).length then
          some ((timely requestId delivery).take expectedCount)
        else none)
      else .error () := by
  simp only [awaitResponses, handleResponses_append]
  split
  · rw [lookup_insertPending_handleResponses pubsub requestId expecting]
    rfl
  · rfl

/-- What a request returns is decided by the answers in time and their number. -/
theorem request_snd (pubsub : RedisPubSub) (now : Nat) (requestId : String)
    (delivery : Delivery) :
    (pubsub.request now requestId delivery).2 =
      if (pubsub.getPeerCount now).2 = 0 then .ok []
      else if delivery.published then
        .ok (if (pubsub.getPeerCount now).2 ≤ (timely requestId delivery).length then
          (timely requestId delivery).take (pubsub.getPeerCount now).2
        else [])
      else .error () := by
  simp only [request]
  by_cases none_ : (pubsub.getPeerCount now).2 = 0
  · rw [if_pos none_, if_pos none_]
  · have outcome := awaitResponses_snd (pubsub.getPeerCount now).1 requestId
      (Nat.pos_of_ne_zero none_) delivery
    rw [if_neg none_, if_neg none_, outcome]
    cases delivery.published with
    | false => rfl
    | true =>
        simp only [if_true]
        split <;> rfl

theorem accepted_of_no_peers {pubsub : RedisPubSub} {now : Nat}
    (none_ : (pubsub.getPeerCount now).2 = 0) (requestId : String)
    (delivery : Delivery) : pubsub.accepted now requestId delivery = [] := by
  simp only [accepted, if_pos none_]

end RedisPubSub

end RushSocket.Adapter.Redis
