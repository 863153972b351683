import RushSocket.RateLimit.Quota
import RushSocket.Server.PayloadSize
import RushSocket.Websocket.Backpressure

namespace RushSocket.Server

open Data Protocol Http Websocket RateLimit

/-! Limits as they are configured and as they are computed. -/

/-- The bytes that are to be let through: no size is above the greatest of a word. -/
def configuredBytes (kb : Nat) : Nat := min (kb * 1024) (2 ^ 64 - 1)

theorem configuredBytes_le_kilobytes_iff {kb : Nat} :
    configuredBytes kb ≤ kilobytes kb ↔ kb * 1024 < 2 ^ 64 := by
  unfold configuredBytes kilobytes
  omega

/-- `run_connection` leaves for no message of the configured size. -/
def ReceivesAll (kb : Nat) : Prop :=
  ∀ settings : Settings, settings.maxMessageSizeInKb = kb →
    ∀ {capacity} (loop : Loop capacity) message,
      Loop.isLongerThan (configuredBytes kb) message = false →
        (loop.receive settings (some (.ok message))).point ≠ .leaving .tooLarge

/-- `client_event::handle` refuses no payload of the configured size. -/
def ForwardsAll (kb : Nat) : Prop :=
  ∀ moment state conn (msg : ClientMessage), conn.app.maxEventPayloadInKb = kb →
    ClientEvent.estimateJsonSize msg.data.json ≤ configuredBytes kb →
      ∀ socketId, ¬ Told state (ClientEvent.handle moment state conn msg) socketId

/-- `trigger` refuses no data of the configured size. -/
def TriggersAll (kb : Nat) : Prop :=
  ∀ (app : App) request, app.maxEventPayloadInKb = kb →
    request.data.utf8ByteSize ≤ configuredBytes kb →
      checkTrigger app request ≠ .error (Http.payloadTooLarge app)

/-- `trigger_batch` refuses no events of the configured size. -/
def BatchesAll (kb : Nat) : Prop :=
  ∀ (app : App) batch, app.maxEventPayloadInKb = kb →
    (∀ event ∈ batch, event.data.utf8ByteSize ≤ configuredBytes kb) →
      checkBatch app batch ≠ .error (Http.payloadTooLarge app)

section

variable {kb : Nat}

theorem kilobytes_lt_of_wraps (wraps : ¬ kb * 1024 < 2 ^ 64) :
    kilobytes kb + 2 ≤ configuredBytes kb := by
  unfold configuredBytes kilobytes
  omega

theorem receivesAll_iff : ReceivesAll kb ↔ kb * 1024 < 2 ^ 64 := by
  constructor
  · intro receives
    by_contra wraps
    have room := kilobytes_lt_of_wraps wraps
    let settings : Settings := ⟨1, 1, kb⟩
    let text := Sample.letters (kilobytes kb + 1)
    have size : text.utf8ByteSize = kilobytes kb + 1 := Sample.utf8ByteSize_letters _
    have short : Loop.isLongerThan (configuredBytes kb) (.text text) = false := by
      refine decide_eq_false ?_
      rw [size]
      omega
    have left : ((Loop.enter settings 0 : Loop 1).receive settings
        (some (.ok (.text text)))).point = .leaving .tooLarge := by
      have longer : text.utf8ByteSize > settings.maxMessageBytes := by
        rw [size]
        exact Nat.lt_succ_self _
      rw [Loop.receive, if_pos longer]
      rfl
    exact receives settings rfl (Loop.enter settings 0 : Loop 1) (.text text) short left
  · intro fits settings configured capacity loop message short
    have enough : configuredBytes kb ≤ settings.maxMessageBytes := by
      rw [Settings.maxMessageBytes, configured]
      exact configuredBytes_le_kilobytes_iff.mpr fits
    cases message with
    | text text =>
        have within : ¬ text.utf8ByteSize > settings.maxMessageBytes :=
          fun longer => of_decide_eq_false short (enough.trans_lt longer)
        rw [Loop.receive, if_neg within]
        intro same
        cases same
    | binary data =>
        have within : ¬ data.size > settings.maxMessageBytes :=
          fun longer => of_decide_eq_false short (enough.trans_lt longer)
        rw [Loop.receive, if_neg within]
        split
        · intro same
          cases same
        · intro same
          cases same
    | ping | pong | close =>
        intro same
        cases same

theorem forwardsAll_iff : ForwardsAll kb ↔ kb * 1024 < 2 ^ 64 := by
  constructor
  · intro forwards
    by_contra wraps
    have room := kilobytes_lt_of_wraps wraps
    have size := Sample.estimate_textOf (kilobytes kb)
    have larger : kilobytes kb < ClientEvent.estimateJsonSize
        (Sample.textOf (kilobytes kb)).json := by
      rw [size]
      omega
    exact forwards Sample.moment (Sample.listening kb) (Sample.sender kb)
      (Sample.payload (Sample.textOf (kilobytes kb))) rfl (size.trans_le room) "1.1"
      (Sample.told_of_larger larger)
  · intro fits moment state conn msg configured small socketId
    have within := small.trans (configuredBytes_le_kilobytes_iff.mpr fits)
    rw [← configured] at within
    exact Told.of_untold (@untold_handle _ _ _ _ conn.app.id within) socketId

theorem triggersAll_iff : TriggersAll kb ↔ kb * 1024 < 2 ^ 64 := by
  constructor
  · intro triggers
    by_contra wraps
    have room := kilobytes_lt_of_wraps wraps
    let app := { App.sample with maxEventPayloadInKb := kb }
    let data := Sample.letters (kilobytes kb + 1)
    have size : data.utf8ByteSize = kilobytes kb + 1 := Sample.utf8ByteSize_letters _
    let request : TriggerRequest := ⟨"event", data, none, some "room", none, none⟩
    have refused : checkTrigger app request = .error (Http.payloadTooLarge app) := by
      have short : ¬ "event".utf8ByteSize > app.maxEventNameLength :=
        show ¬ "event".utf8ByteSize > 200 by decide
      have single : ¬ [("room" : String)].length > app.maxEventChannelsAtOnce :=
        show ¬ 1 > 100 by decide
      have longer : data.utf8ByteSize > kilobytes app.maxEventPayloadInKb :=
        size ▸ Nat.lt_succ_self _
      have channels : channelsOf request = some ["room"] := rfl
      rw [checkTrigger, channels]
      dsimp only
      rw [if_neg single, if_neg short, if_pos longer]
    exact triggers app request rfl (size.trans_le (by omega)) refused
  · intro fits app request configured small
    have within : ¬ request.data.utf8ByteSize > kilobytes app.maxEventPayloadInKb := by
      rw [configured]
      exact Nat.not_lt.mpr (small.trans (configuredBytes_le_kilobytes_iff.mpr fits))
    unfold checkTrigger
    split
    · simp [Http.payloadTooLarge]
    · simp only [if_neg within]
      split
      · simp [Http.payloadTooLarge]
      · split
        · simp [Http.payloadTooLarge]
        · exact fun same => nomatch same

theorem batchesAll_iff : BatchesAll kb ↔ kb * 1024 < 2 ^ 64 := by
  constructor
  · intro batches
    by_contra wraps
    have room := kilobytes_lt_of_wraps wraps
    let app := { App.sample with maxEventPayloadInKb := kb }
    let data := Sample.letters (kilobytes kb + 1)
    have size : data.utf8ByteSize = kilobytes kb + 1 := Sample.utf8ByteSize_letters _
    let batch : List BatchEvent := [⟨"event", data, "room", none, none⟩]
    have few : ¬ batch.length > app.maxEventBatchSize := show ¬ 1 > 10 by decide
    have longer : data.utf8ByteSize > kilobytes app.maxEventPayloadInKb :=
      size ▸ Nat.lt_succ_self _
    have refused : checkBatch app batch = .error (Http.payloadTooLarge app) := by
      rw [checkBatch, if_neg few]
      exact if_pos (by simp [batch, longer])
    refine batches app batch rfl (fun event member => ?_) refused
    rw [List.mem_singleton.mp member]
    exact size.trans_le (by omega)
  · intro fits app batch configured small
    have within : ¬ (batch.any fun event =>
        event.data.utf8ByteSize > kilobytes app.maxEventPayloadInKb) = true := by
      rw [List.any_eq_true]
      rintro ⟨event, member, longer⟩
      rw [configured] at longer
      exact Nat.not_lt.mpr ((small event member).trans
        (configuredBytes_le_kilobytes_iff.mpr fits)) (of_decide_eq_true longer)
    rw [checkBatch, if_neg within]
    split
    · simp [Http.payloadTooLarge]
    · exact fun same => nomatch same

end

/-- When the limits of the configuration are kept to: by a rate limiter that is made, and by
each of the four places where a size is compared. -/
theorem limits_honoured (map : Table String Quota) (key : String) (maxPerSec : Int64)
    (kb : Nat) :
    (QuotaHonoured map key maxPerSec ↔ maxPerSec ≤ 0 ∨ key ∈ map ∨
      maxPerSec.toInt < 2 ^ 32 ∨ maxPerSec.toInt % 2 ^ 32 = 2 ^ 32 - 1) ∧
      (configuredBytes kb ≤ kilobytes kb ↔ kb * 1024 < 2 ^ 64) ∧
      (ReceivesAll kb ↔ kb * 1024 < 2 ^ 64) ∧ (ForwardsAll kb ↔ kb * 1024 < 2 ^ 64) ∧
      (TriggersAll kb ↔ kb * 1024 < 2 ^ 64) ∧ (BatchesAll kb ↔ kb * 1024 < 2 ^ 64) :=
  ⟨quotaHonoured_iff, configuredBytes_le_kilobytes_iff, receivesAll_iff, forwardsAll_iff,
    triggersAll_iff, batchesAll_iff⟩

/-- A rate of 2^32 panics, and 2^54 kilobytes are no bytes. -/
theorem limits_honoured_counterexample :
    getOrCreate ∅ "app" (2 ^ 32) = none ∧ ¬ QuotaHonoured ∅ "app" (2 ^ 32) ∧
      kilobytes (2 ^ 54) = 0 ∧ ¬ ReceivesAll (2 ^ 54) ∧ ¬ ForwardsAll (2 ^ 54) ∧
      ¬ TriggersAll (2 ^ 54) ∧ ¬ BatchesAll (2 ^ 54) := by
  have panics : getOrCreate ∅ "app" (2 ^ 32) = none := by decide
  have wraps : ¬ 2 ^ 54 * 1024 < 2 ^ 64 := by decide
  refine ⟨panics, ?_, by decide, mt receivesAll_iff.mp wraps, mt forwardsAll_iff.mp wraps,
    mt triggersAll_iff.mp wraps, mt batchesAll_iff.mp wraps⟩
  rintro ⟨after, limiter, made, _⟩
  rw [panics] at made
  cases made

end RushSocket.Server
