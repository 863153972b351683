import RushSocket.Adapter.Redis.PubSub

namespace RushSocket.Adapter.Redis.Answers

open Data

/-! Which nodes have answered when a request completes. -/

/-- The nodes whose answers reach `handle_response` before the publish is over,
while the request waits, and before it has removed its entry. -/
structure Round where
  whilePublishing : List String
  whileWaiting : List String
  beforeRemoval : List String
  published : Bool
  once : (whilePublishing ++ whileWaiting ++ beforeRemoval).Nodup

def Round.timely (round : Round) : List String :=
  round.whilePublishing ++ round.whileWaiting

def respond (requestId : String) (answers : String → ResponsePayload)
    (nodeId : String) : Response where
  requestId
  responderNode := nodeId
  payload := answers nodeId

def Round.deliver (round : Round) (requestId : String)
    (answers : String → ResponsePayload) : Delivery where
  whilePublishing := round.whilePublishing.map (respond requestId answers)
  published := round.published
  whileWaiting := round.whileWaiting.map (respond requestId answers)
  beforeRemoval := round.beforeRemoval.map (respond requestId answers)

section

variable (pubsub : RedisPubSub) (now : Nat) (requestId : String) (round : Round)

def knownPeers : Finset String := (pubsub.pruneNodes now).knownNodes.keys

/-- The request is published, and enough answers arrive to wake it. -/
def Completes : Prop :=
  round.published = true ∧ (knownPeers pubsub now).card ≤ round.timely.length

/-- Whatever the nodes answer, a completed request returns the answer of every
known peer. -/
def KnownAnswered : Prop :=
  Completes pubsub now round → ∀ answers received,
    (pubsub.request now requestId (round.deliver requestId answers)).2 =
        .ok received →
      ∀ nodeId ∈ knownPeers pubsub now, answers nodeId ∈ received

/-- The answers that complete the request are all from known peers. -/
def KnownFirst : Prop :=
  Completes pubsub now round →
    ∀ nodeId ∈ round.timely.take (knownPeers pubsub now).card,
      nodeId ∈ knownPeers pubsub now

end

variable {pubsub : RedisPubSub} {now : Nat} {requestId : String} {round : Round}

theorem payloadsFor_respond (answers : String → ResponsePayload)
    (nodes : List String) :
    payloadsFor requestId (nodes.map (respond requestId answers)) =
      nodes.map answers := by
  induction nodes with
  | nil => rfl
  | cons nodeId rest induction => simpa [payloadsFor, respond] using induction

theorem timely_deliver (answers : String → ResponsePayload) :
    RedisPubSub.timely requestId (round.deliver requestId answers) =
      round.timely.map answers := by
  rw [RedisPubSub.timely, Round.deliver, ← List.map_append, payloadsFor_respond,
    Round.timely]

theorem nodup_timely : round.timely.Nodup :=
  (List.nodup_append.mp round.once).1

theorem request_of_completes (completes : Completes pubsub now round)
    (answers : String → ResponsePayload) :
    (pubsub.request now requestId (round.deliver requestId answers)).2 =
      .ok ((round.timely.take (knownPeers pubsub now).card).map answers) := by
  have count : (pubsub.getPeerCount now).2 = (knownPeers pubsub now).card := rfl
  rw [RedisPubSub.request_snd, timely_deliver, count, List.length_map, ← List.map_take,
    if_pos completes.2]
  split
  · rename_i none_
    simp [none_]
  · exact if_pos completes.1

theorem forall_mem_iff {nodes : List String} {known : Finset String}
    (nodup : nodes.Nodup) (length : nodes.length = known.card) :
    (∀ nodeId ∈ nodes, nodeId ∈ known) ↔ ∀ nodeId ∈ known, nodeId ∈ nodes := by
  have card : nodes.toFinset.card = known.card := by
    rw [List.toFinset_card_of_nodup nodup, length]
  constructor
  · intro inside nodeId member
    have subset : nodes.toFinset ⊆ known := fun other listed =>
      inside other (List.mem_toFinset.mp listed)
    rw [← Finset.eq_of_subset_of_card_le subset card.ge] at member
    exact List.mem_toFinset.mp member
  · intro covered nodeId listed
    have subset : known ⊆ nodes.toFinset := fun other member =>
      List.mem_toFinset.mpr (covered other member)
    rw [Finset.eq_of_subset_of_card_le subset card.le]
    exact List.mem_toFinset.mpr listed

/-- A completed request returns the answers of all known peers if and only if the
answers that complete it are theirs. -/
theorem known_answered_iff (pubsub : RedisPubSub) (now : Nat) (requestId : String)
    (round : Round) :
    KnownAnswered pubsub now requestId round ↔ KnownFirst pubsub now round := by
  refine forall_congr' fun completes => ?_
  have length : (round.timely.take (knownPeers pubsub now).card).length =
      (knownPeers pubsub now).card := by
    rw [List.length_take, Nat.min_eq_left completes.2]
  have nodup := nodup_timely.sublist (List.take_sublist (knownPeers pubsub now).card
    round.timely)
  rw [forall_mem_iff nodup length]
  constructor
  · intro answered nodeId known
    -- an answer that no other node gives
    have returned := answered (fun other => if other = nodeId then .ack else .count 0) _
      (request_of_completes completes _) nodeId known
    obtain ⟨other, listed, same⟩ := List.mem_map.mp returned
    have equal : other = nodeId := by
      by_contra different
      simp [different] at same
    exact equal ▸ listed
  · intro covered answers received returned nodeId known
    rw [request_of_completes completes] at returned
    cases returned
    exact List.mem_map_of_mem (covered nodeId known)

/-- A node that has just started answers before the only known peer. -/
def newcomerFirst : Round where
  whilePublishing := []
  whileWaiting := ["new", "peer"]
  beforeRemoval := []
  published := true
  once := by decide

theorem peer_left_out :
    ¬ KnownAnswered ⟨∅, Finmap.singleton "peer" 0⟩ 0 "request" newcomerFirst := by
  intro answered
  have returned := answered ⟨rfl, by decide⟩
    (fun nodeId => .count (if nodeId = "peer" then 1 else 0)) [.count 0] (by decide)
    "peer" (by decide)
  exact absurd returned (by decide)

end RushSocket.Adapter.Redis.Answers
