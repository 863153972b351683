import RushSocket.Data.Json.Size
import RushSocket.Server.Frames
import RushSocket.Websocket.Delivery

namespace RushSocket.Server

open Data Protocol Websocket Json ClientEvent

/-! The estimate of a payload is its size when nothing in it is escaped. -/

theorem brackets_key (key : String) {value : Json}
    (sized : Brackets (estimateJsonSize value) (textSize value.tokens) value.isPlain) :
    Brackets (key.utf8ByteSize + 2 + 1 + estimateJsonSize value) (fieldSize key value)
      (isPlainText key && value.isPlain) := by
  have whole := ((brackets_string key).add (.refl 1)).add sized
  rw [Bool.and_true] at whole
  exact whole

mutual
theorem brackets_estimateJsonSize : (json : Json) →
    Brackets (estimateJsonSize json) (textSize json.tokens) json.isPlain
  | .null => .refl 4
  | .bool true => .refl 4
  | .bool false => .refl 5
  | .number digits => by
      have size : textSize (Json.number digits).tokens = digits.print.length := by
        rw [tokens, textSize_token, utf8Len_number]
      rw [size]
      exact .refl _
  | .string value => by
      have size : textSize (Json.string value).tokens =
          String.utf8Len (Token.string value).text := textSize_token _
      rw [size]
      exact brackets_string value
  | .array [] => .refl 2
  | .array (item :: rest) => by
      have sized := ((Brackets.refl 2).add (brackets_estimateJsonSize item)).add
        (brackets_items rest)
      have least : estimateJsonSize (.array (item :: rest)) = 2 + estimateJsonSize item +
          (estimateJsonSize.estimateItems rest + rest.length) := by
        rw [estimateJsonSize, estimateJsonSize.estimateItems, List.length_cons]
        omega
      rw [least, textSize_array, isPlain, isPlain.plainItems]
      exact sized
  | .object [] => .refl 2
  | .object ((key, value) :: rest) => by
      have sized := ((Brackets.refl 2).add
        (brackets_key key (brackets_estimateJsonSize value))).add (brackets_fields rest)
      have least : estimateJsonSize (.object ((key, value) :: rest)) =
          2 + (key.utf8ByteSize + 2 + 1 + estimateJsonSize value) +
            (estimateJsonSize.estimateFields rest + rest.length) := by
        rw [estimateJsonSize, estimateJsonSize.estimateFields, List.length_cons]
        omega
      rw [least, textSize_object, isPlain, isPlain.plainFields]
      exact sized

theorem brackets_items : (items : List Json) →
    Brackets (estimateJsonSize.estimateItems items + items.length)
      (textSize (tokens.tailItems items)) (isPlain.plainItems items)
  | [] => .refl 0
  | item :: rest => by
      have sized := ((Brackets.refl 1).add (brackets_estimateJsonSize item)).add
        (brackets_items rest)
      have least : estimateJsonSize.estimateItems (item :: rest) + (item :: rest).length =
          1 + estimateJsonSize item +
            (estimateJsonSize.estimateItems rest + rest.length) := by
        rw [estimateJsonSize.estimateItems, List.length_cons]
        omega
      rw [least, textSize_tailItems, isPlain.plainItems]
      exact sized

theorem brackets_fields : (fields : List (String × Json)) →
    Brackets (estimateJsonSize.estimateFields fields + fields.length)
      (textSize (tokens.tailFields fields)) (isPlain.plainFields fields)
  | [] => .refl 0
  | (key, value) :: rest => by
      have sized := ((Brackets.refl 1).add
        (brackets_key key (brackets_estimateJsonSize value))).add (brackets_fields rest)
      have least : estimateJsonSize.estimateFields ((key, value) :: rest) +
            ((key, value) :: rest).length =
          1 + (key.utf8ByteSize + 2 + 1 + estimateJsonSize value) +
            (estimateJsonSize.estimateFields rest + rest.length) := by
        rw [estimateJsonSize.estimateFields, List.length_cons]
        omega
      rw [least, textSize_tailFields, isPlain.plainFields]
      exact sized
end

def serializedSize (value : Value) : Nat := value.json.print.utf8ByteSize

theorem brackets_serializedSize (value : Value) :
    Brackets (estimateJsonSize value.json) (serializedSize value) value.json.isPlain := by
  rw [serializedSize, utf8ByteSize_print]
  exact brackets_estimateJsonSize value.json

/-! Who is told that a payload is too large. -/

def payloadTooLarge : ServerMessage := .error "Event payload too large" (some 4009)

def Told (before after : AppState) (socketId : String) : Prop :=
  ∃ new, framesTo after socketId = framesTo before socketId ++ new ∧ payloadTooLarge ∈ new

/-- No payload of so many kilobytes is refused for its size. -/
def Honoured (kb : Nat) : Prop :=
  ∀ moment state conn (msg : ClientMessage), conn.app.maxEventPayloadInKb = kb →
    serializedSize msg.data ≤ kb * 1024 →
    ∀ socketId, ¬ Told state (ClientEvent.handle moment state conn msg) socketId

section

variable {moment : Moment} {state : AppState} {conn : WsConnection} {msg : ClientMessage}
  {appId : String}

abbrev Untold (appId : String) : AppState → AppState → Prop :=
  Grows (fun _ frame => frame ≠ payloadTooLarge) appId

theorem untold_refuse {message : String} {code : UInt16}
    (other : ServerMessage.error message (some code) ≠ payloadTooLarge) :
    Untold appId state (refuse state conn message code) :=
  grows_send state other

theorem untold_counted : Untold appId state (counted moment state conn) :=
  grows_setRateLimiter state _

theorem untold_forward (channel : String) :
    Untold appId state (forward moment state conn channel msg) :=
  (grows_notify state _ _).trans (grows_sendAll _ fun _ _ same =>
    nomatch congrArg ServerMessage.channel same)

theorem untold_handle
    (small : estimateJsonSize msg.data.json ≤ kilobytes conn.app.maxEventPayloadInKb) :
    Untold appId state (ClientEvent.handle moment state conn msg) := by
  unfold ClientEvent.handle
  refine .ite (untold_refuse (by decide)) ?_
  split
  · exact untold_refuse (by decide)
  · have seen := @untold_counted moment state conn appId
    refine .ite (untold_refuse (by decide)) (.ite (untold_refuse (by decide)) ?_)
    refine .ite (seen.trans (untold_refuse (by decide))) (seen.trans ?_)
    unfold checkAndForward
    rw [if_neg (Nat.not_lt.mpr small)]
    exact .ite (untold_refuse (by decide))
      (.ite (untold_refuse (by decide)) (untold_forward _))

theorem Told.of_untold {after : AppState} (untold : Untold appId state after)
    (socketId : String) : ¬ Told state after socketId := by
  rintro ⟨new, sent, member⟩
  obtain ⟨more, sentToo, only⟩ := untold.frames socketId
  have same := List.append_cancel_left (sent.symm.trans sentToo)
  exact only _ (same ▸ member) rfl

end

/-! A member of a channel who sends more than the limit, as it is computed. -/

namespace Sample

def openApp (kb : Nat) : App :=
  { App.sample with clientEventMode := "all", maxEventPayloadInKb := kb }

def sender (kb : Nat) : WsConnection :=
  { WsConnection.new "1.1" (openApp kb) with subscribedChannels := {"private-room"} }

def listening (kb : Nat) : AppState :=
  { AppState.new [openApp kb] 60 with connections := Finmap.singleton "1.1" (sender kb) }

def payload (data : Value) : ClientMessage where
  event := "client-typing"
  data := data
  channel := some "private-room"

theorem handle_sender (kb : Nat) (data : Value) :
    ClientEvent.handle moment (listening kb) (sender kb) (payload data) =
      checkAndForward moment (counted moment (listening kb) (sender kb)) (sender kb)
        "private-room" (payload data) := by
  have enabled : (sender kb).app.clientEventMode = "all" := rfl
  have member : (sender kb).isSubscribed "private-room" = true := by
    simp [sender, WsConnection.isSubscribed]
  have open' : isMembersOnly (sender kb) = false := by
    simp [isMembersOnly, enabled]
  have unlimited : (sender kb).app.maxClientEventsPerSec = -1 := rfl
  simp [ClientEvent.handle, payload, enabled, member, open', unlimited,
    LocalRateLimiter.checkClientEvent, LocalRateLimiter.allowed]

theorem told_of_larger {kb : Nat} {data : Value}
    (larger : kilobytes kb < estimateJsonSize data.json) :
    Told (listening kb)
      (ClientEvent.handle moment (listening kb) (sender kb) (payload data)) "1.1" := by
  have named : Text.startsWith "client-typing" "client-" = true := by decide
  have short : ¬ (sender kb).app.maxEventNameLength < "client-typing".utf8ByteSize :=
    show ¬ 200 < "client-typing".utf8ByteSize by decide
  have limit : (sender kb).app.maxEventPayloadInKb = kb := rfl
  have refused : ClientEvent.handle moment (listening kb) (sender kb) (payload data) =
      refuse (counted moment (listening kb) (sender kb)) (sender kb)
        "Event payload too large" 4009 := by
    rw [handle_sender]
    simp [checkAndForward, payload, named, short, limit, larger]
  have room : Connections.HasRoom (counted moment (listening kb) (sender kb)).connections
      "1.1" :=
    ⟨sender kb, Finmap.lookup_singleton_eq, show 0 - 0 < 512 by decide⟩
  have sent := @Connections.enqueued_send _ _ _ _ _ payloadTooLarge room "1.1"
  rw [if_pos rfl] at sent
  rw [refused]
  exact ⟨[payloadTooLarge], sent, List.mem_singleton_self _⟩

def letters (length : Nat) : String := .ofList (.replicate length 'a')

theorem utf8ByteSize_letters (length : Nat) : (letters length).utf8ByteSize = length := by
  have ascii : ∀ char ∈ List.replicate length 'a', char.toNat < 128 := by
    intro char member
    rw [List.eq_of_mem_replicate member]
    decide
  rw [letters, String.utf8ByteSize_ofList, utf8Len_of_ascii ascii, List.length_replicate]

theorem isPlainText_letters (length : Nat) : isPlainText (letters length) = true := by
  rw [isPlainText, letters, String.toList_ofList, List.all_eq_true]
  intro char member
  rw [List.eq_of_mem_replicate member]
  decide

def textOf (length : Nat) : Value := .ofJson (.string (letters length))

theorem estimate_textOf (length : Nat) :
    estimateJsonSize (textOf length).json = length + 2 :=
  congrArg (· + 2) (utf8ByteSize_letters length)

theorem serializedSize_textOf (length : Nat) :
    serializedSize (textOf length) = length + 2 := by
  have plain : (textOf length).json.isPlain = true := isPlainText_letters length
  rw [← (brackets_serializedSize _).same.mpr plain, estimate_textOf]

end Sample

/-- For every value the estimate and the size are as far apart as its escapes are long, and
the size that is configured is kept to as long as it fits the machine's word. -/
theorem payload_size (value : Value) (kb : Nat) :
    estimateJsonSize value.json ≤ serializedSize value ∧
      serializedSize value ≤ 6 * estimateJsonSize value.json ∧
      (estimateJsonSize value.json = serializedSize value ↔ value.json.isPlain = true) ∧
      (Honoured kb ↔ kb * 1024 < 2 ^ 64) := by
  obtain ⟨lower, upper, same⟩ := brackets_serializedSize value
  refine ⟨lower, upper, same, fun honoured => ?_, fun fits => ?_⟩
  · by_contra wraps
    have length : kilobytes kb + 2 ≤ kb * 1024 := by
      unfold kilobytes
      omega
    have larger : kilobytes kb < estimateJsonSize (Sample.textOf (kilobytes kb)).json := by
      rw [Sample.estimate_textOf]
      omega
    exact honoured Sample.moment (Sample.listening kb) (Sample.sender kb)
      (Sample.payload (Sample.textOf (kilobytes kb))) rfl
      ((Sample.serializedSize_textOf _).trans_le length) "1.1"
      (Sample.told_of_larger larger)
  · intro moment state conn msg configured within socketId
    have limit : kilobytes conn.app.maxEventPayloadInKb = kb * 1024 := by
      rw [configured, kilobytes_of_fits fits]
    have small := (brackets_serializedSize msg.data).lower.trans within
    rw [← limit] at small
    exact Told.of_untold (@untold_handle _ _ _ _ conn.app.id small) socketId

/-- With a limit of 2^54 kilobytes a payload of four bytes is refused. -/
theorem payload_size_counterexample :
    serializedSize (.ofJson .null) = 4 ∧
      Told (Sample.listening (2 ^ 54)) (ClientEvent.handle Sample.moment
        (Sample.listening (2 ^ 54)) (Sample.sender (2 ^ 54)) (Sample.payload (.ofJson .null)))
        "1.1" ∧
      ¬ Honoured (2 ^ 54) := by
  have size : serializedSize (.ofJson .null) = 4 := by decide
  have told := @Sample.told_of_larger (2 ^ 54) (.ofJson .null) (by decide)
  refine ⟨size, told, fun honoured => ?_⟩
  exact honoured _ _ (Sample.sender (2 ^ 54)) (Sample.payload (.ofJson .null)) rfl
    (size.trans_le (by decide)) "1.1" told

end RushSocket.Server
