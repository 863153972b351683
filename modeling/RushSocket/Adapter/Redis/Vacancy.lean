import RushSocket.Adapter.Local
import RushSocket.Adapter.Redis.Commands
import RushSocket.Adapter.Redis.PubSub

namespace RushSocket.Adapter.Redis.Vacancy

open Data

/-! The check that a channel is vacant on every node before its occupancy key
is deleted. -/

structure RedisNode where
  locals : LocalAdapter
  pubsub : RedisPubSub
  keys : Table String String

def countOf : ResponsePayload → Option UInt64
  | .count count => some count
  | _ => none

/-- The sum wraps, as it does in a release build. -/
def remoteCount (responses : List ResponsePayload) : UInt64 :=
  (responses.filterMap countOf).foldl (· + ·) 0

/-- Delete the occupancy key; an error of the command is only logged. -/
def RedisNode.release (node : RedisNode) (key : String) (succeeds : Bool) :
    RedisNode :=
  if succeeds then { node with keys := node.keys.erase key } else node

section

variable (keyPrefix appId channel : String) (node : RedisNode) (now : Nat)
  (requestId : String) (delivery : Delivery)

/-- Whether the check gets as far as to ask the other nodes. -/
def asks (locallyVacated : Bool) : Bool :=
  locallyVacated && !(node.locals.getChannelSocketCount appId channel > 0)

def isChannelGloballyVacated (locallyVacated deleteSucceeds : Bool) :
    RedisNode × Bool :=
  if !locallyVacated then (node, false)
  else if node.locals.getChannelSocketCount appId channel > 0 then (node, false)
  else
    let (pubsub, result) := node.pubsub.request now requestId delivery
    let asked := { node with pubsub }
    let key := occupancyKey keyPrefix appId channel
    match result with
    | .ok responses =>
        if remoteCount responses > 0 then (asked, false)
        else (asked.release key deleteSucceeds, true)
    | .error () => (asked.release key deleteSucceeds, true)

/-- Some accepted answer reports a subscriber. -/
def PositiveAccepted : Prop :=
  ∃ count, 0 < count ∧
    .count count ∈ node.pubsub.accepted now requestId delivery

/-- A positive answer makes the check say no and leave the keys alone. -/
def Blocked (locallyVacated deleteSucceeds : Bool) : Prop :=
  PositiveAccepted node now requestId delivery →
    (isChannelGloballyVacated keyPrefix appId channel node now requestId delivery
        locallyVacated deleteSucceeds).2 = false ∧
      (isChannelGloballyVacated keyPrefix appId channel node now requestId delivery
        locallyVacated deleteSucceeds).1.keys = node.keys

def countTotal (responses : List ResponsePayload) : Nat :=
  ((responses.filterMap countOf).map UInt64.toNat).sum

/-- The request is published, as many answers as there are peers come in time,
and the counts among the first of them do not sum to a multiple of 2^64. -/
def Answered : Prop :=
  delivery.published = true ∧
    (node.pubsub.getPeerCount now).2 ≤
      (RedisPubSub.timely requestId delivery).length ∧
    ¬ 2 ^ 64 ∣ countTotal ((RedisPubSub.timely requestId delivery).take
      (node.pubsub.getPeerCount now).2)

end

theorem toNat_foldl_add (counts : List UInt64) (start : UInt64) :
    (counts.foldl (· + ·) start).toNat =
      (start.toNat + (counts.map UInt64.toNat).sum) % 2 ^ 64 := by
  induction counts generalizing start with
  | nil => exact (Nat.mod_eq_of_lt start.toNat_lt).symm
  | cons count rest induction =>
      rw [List.foldl_cons, induction, UInt64.toNat_add, List.map_cons, List.sum_cons]
      omega

theorem remoteCount_pos_iff (responses : List ResponsePayload) :
    remoteCount responses > 0 ↔ ¬ 2 ^ 64 ∣ countTotal responses := by
  have total : (remoteCount responses).toNat = countTotal responses % 2 ^ 64 := by
    rw [remoteCount, toNat_foldl_add, countTotal]
    simp
  rw [gt_iff_lt, UInt64.lt_iff_toNat_lt, total, Nat.dvd_iff_mod_eq_zero]
  exact Nat.pos_iff_ne_zero

variable {keyPrefix appId channel : String} {node : RedisNode} {now : Nat}
  {requestId : String} {delivery : Delivery} {locallyVacated deleteSucceeds : Bool}

theorem counts_iff_answered
    (peers : (node.pubsub.getPeerCount now).2 ≠ 0) :
    (∃ responses, (node.pubsub.request now requestId delivery).2 = .ok responses ∧
        remoteCount responses > 0) ↔
      Answered node now requestId delivery := by
  rw [RedisPubSub.request_snd, if_neg peers]
  constructor
  · rintro ⟨responses, returned, positive⟩
    split at returned
    · rename_i published
      rw [Except.ok.injEq] at returned
      subst returned
      split at positive
      · rename_i enough
        exact ⟨published, enough, (remoteCount_pos_iff _).mp positive⟩
      · exact absurd positive (by decide)
    · cases returned
  · rintro ⟨published, enough, counted⟩
    rw [if_pos published, if_pos enough]
    exact ⟨_, rfl, (remoteCount_pos_iff _).mpr counted⟩

theorem peers_of_positiveAccepted
    (positive : PositiveAccepted node now requestId delivery) :
    (node.pubsub.getPeerCount now).2 ≠ 0 := by
  intro none_
  obtain ⟨count, _, member⟩ := positive
  rw [RedisPubSub.accepted_of_no_peers none_] at member
  cases member

theorem isChannelGloballyVacated_of_not_asks
    (quiet : asks appId channel node locallyVacated = false) :
    isChannelGloballyVacated keyPrefix appId channel node now requestId delivery
      locallyVacated deleteSucceeds = (node, false) := by
  unfold isChannelGloballyVacated
  unfold asks at quiet
  cases locallyVacated with
  | false => rfl
  | true =>
      rw [Bool.true_and, Bool.not_eq_false', decide_eq_true_iff] at quiet
      simp [quiet]

theorem isChannelGloballyVacated_of_asks
    (asking : asks appId channel node locallyVacated = true) :
    (isChannelGloballyVacated keyPrefix appId channel node now requestId delivery
        locallyVacated deleteSucceeds).2 = false ↔
      ∃ responses, (node.pubsub.request now requestId delivery).2 = .ok responses ∧
        remoteCount responses > 0 := by
  simp only [asks, Bool.and_eq_true, Bool.not_eq_true', decide_eq_false_iff_not]
    at asking
  simp only [isChannelGloballyVacated, asking.1, Bool.not_true, Bool.false_eq_true,
    if_false, if_neg asking.2]
  cases (node.pubsub.request now requestId delivery).2 with
  | ok responses =>
      simp only [Except.ok.injEq, exists_eq_left']
      split
      · rename_i positive
        exact iff_of_true rfl positive
      · rename_i none_
        exact iff_of_false (fun impossible => nomatch impossible) none_
  | error failed =>
      refine iff_of_false (fun impossible => nomatch impossible) ?_
      rintro ⟨responses, returned, _⟩
      cases returned

theorem keys_of_not_vacated
    (verdict : (isChannelGloballyVacated keyPrefix appId channel node now requestId
      delivery locallyVacated deleteSucceeds).2 = false) :
    (isChannelGloballyVacated keyPrefix appId channel node now requestId delivery
      locallyVacated deleteSucceeds).1.keys = node.keys := by
  unfold isChannelGloballyVacated at verdict ⊢
  split
  · rfl
  · rename_i vacated
    rw [if_neg vacated] at verdict
    split
    · rfl
    · rename_i here
      rw [if_neg here] at verdict
      dsimp only at verdict ⊢
      split
      · rename_i responses returned
        rw [returned] at verdict
        dsimp only at verdict
        split
        · rfl
        · rename_i none_
          rw [if_neg none_] at verdict
          cases verdict
      · rename_i returned
        rw [returned] at verdict
        cases verdict

/-- A positive answer blocks the deletion exactly when the request, if one is
made and accepts such an answer, is answered. -/
theorem positive_answer_blocks_iff (keyPrefix appId channel : String)
    (node : RedisNode) (now : Nat) (requestId : String) (delivery : Delivery)
    (locallyVacated deleteSucceeds : Bool) :
    Blocked keyPrefix appId channel node now requestId delivery locallyVacated
        deleteSucceeds ↔
      (asks appId channel node locallyVacated = true →
        PositiveAccepted node now requestId delivery →
          Answered node now requestId delivery) := by
  cases asking : asks appId channel node locallyVacated with
  | false =>
      refine iff_of_true (fun _ => ?_) (fun impossible => nomatch impossible)
      rw [isChannelGloballyVacated_of_not_asks asking]
      exact ⟨rfl, rfl⟩
  | true =>
      have decided : PositiveAccepted node now requestId delivery →
          ((isChannelGloballyVacated keyPrefix appId channel node now requestId
            delivery locallyVacated deleteSucceeds).2 = false ↔
            Answered node now requestId delivery) := by
        intro positive
        rw [isChannelGloballyVacated_of_asks asking]
        exact counts_iff_answered (peers_of_positiveAccepted positive)
      constructor
      · intro blocked _ positive
        exact (decided positive).mp (blocked positive).1
      · intro answered positive
        have verdict := (decided positive).mpr (answered rfl positive)
        exact ⟨verdict, keys_of_not_vacated verdict⟩

/-! Two peers are known; one answers that it has three subscribers, the other
does not answer before the timeout. -/

def asking : RedisNode where
  locals := .new
  pubsub :=
    { pending := ∅
      knownNodes := (Finmap.insert "node-b" 0 ∅ : Table String Nat).insert "node-c" 0 }
  keys := Finmap.insert "rushsocket:occupied:app:room" "node-a" ∅

def oneAnswer : Delivery where
  whilePublishing := []
  published := true
  whileWaiting :=
    [{ requestId := "request-1", responderNode := "node-b", payload := .count 3 }]
  beforeRemoval := []

theorem positive_answer_discarded :
    PositiveAccepted asking 0 "request-1" oneAnswer ∧
      (isChannelGloballyVacated "rushsocket" "app" "room" asking 0 "request-1"
        oneAnswer true true).2 = true ∧
      "rushsocket:occupied:app:room" ∈ asking.keys ∧
      "rushsocket:occupied:app:room" ∉ (isChannelGloballyVacated "rushsocket" "app"
        "room" asking 0 "request-1" oneAnswer true true).1.keys ∧
      ¬ Blocked "rushsocket" "app" "room" asking 0 "request-1" oneAnswer true
        true := by
  have positive : PositiveAccepted asking 0 "request-1" oneAnswer :=
    ⟨3, by decide, by decide⟩
  refine ⟨positive, by decide, by decide, by decide, ?_⟩
  intro blocked
  have verdict := (blocked positive).1
  revert verdict
  decide

end RushSocket.Adapter.Redis.Vacancy
