import RushSocket.Data.Json.RoundTrip
import RushSocket.Webhook

namespace RushSocket

open Data Json

/-! What a receiver reads of the body of a webhook. -/

namespace WebhookEvent

def asText : Json → Option String
  | .string text => some text
  | _ => none

def asCount : Json → Option Nat
  | .number value => value.asU64
  | _ => none

def stringAt (json : Json) (key : String) : Option String := (json.get? key).bind asText

def countAt (json : Json) (key : String) : Option Nat := (json.get? key).bind asCount

def ofJson (json : Json) : Option WebhookEvent := do
  return {
    name := ← stringAt json "name"
    channel := ← stringAt json "channel"
    userId := stringAt json "user_id"
    data := stringAt json "data"
    event := stringAt json "event"
    socketId := stringAt json "socket_id"
    subscriptionCount := countAt json "subscription_count" }

def Fits (event : WebhookEvent) : Prop :=
  ∀ count, event.subscriptionCount = some count → count < 2 ^ 64

end WebhookEvent

/-- The events of a body, and the time that it tells. -/
def WebhookPayload.ofText (readFloat : DecimalText → Option DecimalText) (text : String) :
    Option WebhookPayload := do
  let json ← Json.parse readFloat text
  let timeMs ← WebhookEvent.countAt json "time_ms"
  match json.get? "events" with
  | some (.array items) => return ⟨.ofNat timeMs, ← items.mapM WebhookEvent.ofJson⟩
  | _ => none

namespace WebhookEvent

section

variable {α : Type} (key : String) (value : Option α) (write : α → Json)

@[simp] theorem get?_nil (other : String) : (Json.object []).get? other = none := rfl

theorem get?_cons (field : String × Json) (rest : List (String × Json)) (other : String) :
    (Json.object (field :: rest)).get? other =
      ((Json.object rest).get? other).or (if field.1 = other then some field.2 else none) := by
  simp only [Json.get?, List.findRev?_eq_find?_reverse, List.reverse_cons, List.find?_append,
    List.find?_singleton]
  cases rest.reverse.find? fun field => field.1 = other with
  | none =>
      cases same : decide (field.1 = other) with
      | true => simp [of_decide_eq_true same]
      | false => simp [of_decide_eq_false same]
  | some field => rfl

theorem get?_append (first second : List (String × Json)) (other : String) :
    (Json.object (first ++ second)).get? other =
      ((Json.object second).get? other).or ((Json.object first).get? other) := by
  induction first with
  | nil => exact Option.or_none.symm
  | cons field rest induction =>
      rw [List.cons_append, get?_cons, get?_cons, induction, Option.or_assoc]

theorem get?_optional (other : String) :
    (Json.object (optional key value write)).get? other =
      if key = other then value.map write else none := by
  cases value with
  | none => exact (ite_self none).symm
  | some value =>
      rw [optional]
      cases same : decide (key = other) with
      | true => simp [Json.get?, List.findRev?_eq_find?_reverse, of_decide_eq_true same]
      | false => simp [Json.get?, List.findRev?_eq_find?_reverse, of_decide_eq_false same]

theorem mem_optional {entry : String × Json} (member : entry ∈ optional key value write) :
    ∃ stored, value = some stored ∧ entry = (key, write stored) := by
  cases value with
  | none => cases member
  | some stored => exact ⟨stored, rfl, List.mem_singleton.mp member⟩

end

@[simp] theorem bind_asText (value : Option String) :
    (value.map Json.string).bind asText = value := by
  cases value <;> rfl

@[simp] theorem asCount_natural (value : UInt64) : asCount (Json.ofU64 value) = some value.toNat :=
  Number.asU64_natural _ value.toNat_lt

variable {readFloat : DecimalText → Option DecimalText} {event : WebhookEvent}

theorem ofJson_json (fits : event.Fits) : ofJson event.json = some event := by
  have counted : countAt event.json "subscription_count" = event.subscriptionCount := by
    cases known : event.subscriptionCount with
    | none => simp [countAt, json, get?_append, get?_cons, get?_optional, known]
    | some count =>
        have same : (UInt64.ofNat count).toNat = count :=
          UInt64.toNat_ofNat_of_lt' (fits count known)
        simp [countAt, json, get?_append, get?_cons, get?_optional, known, same]
  have named : stringAt event.json "name" = some event.name := by
    simp [stringAt, json, get?_append, get?_cons, get?_optional, asText]
  have placed : stringAt event.json "channel" = some event.channel := by
    simp [stringAt, json, get?_append, get?_cons, get?_optional, asText]
  rw [ofJson, named, placed, counted]
  simp [stringAt, json, get?_append, get?_cons, get?_optional]

/-- The fields of an event are texts and counts. -/
def Scalar (readFloat : DecimalText → Option DecimalText) (json : Json) : Prop :=
  json.reread readFloat = some json ∧ json.depth = 0

theorem scalar_json : ∃ fields, event.json = .object fields ∧
    ∀ entry ∈ fields, Scalar readFloat entry.2 := by
  refine ⟨_, rfl, ?_⟩
  intro entry member
  simp only [List.mem_append] at member
  have text {key : String} {value : Option String}
      (listed : entry ∈ optional key value .string) : Scalar readFloat entry.2 := by
    obtain ⟨stored, _, rfl⟩ := mem_optional _ _ _ listed
    exact ⟨rfl, rfl⟩
  obtain (((((first | listed) | listed) | listed) | listed) | listed) := member
  · obtain rfl | rfl : entry = _ ∨ entry = _ := by simpa using first
    · exact ⟨rfl, rfl⟩
    · exact ⟨rfl, rfl⟩
  · exact text listed
  · exact text listed
  · exact text listed
  · exact text listed
  · obtain ⟨stored, _, rfl⟩ := mem_optional _ _ _ listed
    exact ⟨rfl, rfl⟩

theorem reread_json : event.json.reread readFloat = some event.json ∧
    event.json.depth ≤ 1 := by
  obtain ⟨fields, same, scalar⟩ := @scalar_json readFloat event
  rw [same]
  constructor
  · rw [reread, (rereadFields_self_iff readFloat).mpr fun entry member =>
      (scalar entry member).1]
    rfl
  · apply Nat.succ_le_succ
    apply depthFields_le_iff.mpr
    intro entry member
    exact (scalar entry member).2.le

end WebhookEvent

namespace WebhookPayload

open WebhookEvent

variable {readFloat : DecimalText → Option DecimalText}

theorem rereadItems_events (events : List WebhookEvent) :
    reread.rereadItems readFloat (events.map WebhookEvent.json) =
      some (events.map WebhookEvent.json) := by
  induction events with
  | nil => rfl
  | cons event rest induction =>
      rw [List.map_cons, reread.rereadItems, (reread_json).1, induction]
      rfl

theorem depthItems_events (events : List WebhookEvent) :
    depth.depthItems (events.map WebhookEvent.json) ≤ 1 := by
  induction events with
  | nil => exact Nat.zero_le 1
  | cons event rest induction =>
      exact max_le (@reread_json some event).2 induction

theorem parse_body (payload : WebhookPayload) :
    Json.parse readFloat payload.body = some payload.json := by
  apply (parse_print_eq_some_iff readFloat payload.json).mpr
  constructor
  · simp only [json, reread, reread.rereadFields, rereadItems_events]
    rfl
  · have shallow := depthItems_events payload.events
    simp only [json, depth, depth.depthFields, Json.ofU64, recursionLimit]
    omega

theorem mapM_ofJson {events : List WebhookEvent} (fits : ∀ event ∈ events, event.Fits) :
    (events.map WebhookEvent.json).mapM ofJson = some events := by
  induction events with
  | nil => rfl
  | cons event rest induction =>
      have first := ofJson_json (fits event List.mem_cons_self)
      have later := induction fun other member => fits other (List.mem_cons_of_mem event member)
      rw [List.map_cons, List.mapM_cons, first, later]
      rfl

/-- A body is read back as the batch that it was made of. -/
theorem ofText_body {payload : WebhookPayload} (fits : ∀ event ∈ payload.events, event.Fits) :
    ofText readFloat payload.body = some payload := by
  have timed : countAt payload.json "time_ms" = some payload.timeMs.toNat := by
    simp [countAt, json, get?_cons]
  have listed : payload.json.get? "events" =
      some (.array (payload.events.map WebhookEvent.json)) := by
    simp [json, get?_cons]
  rw [ofText, parse_body]
  simp only [Option.bind_eq_bind, Option.bind_some, timed, listed, mapM_ofJson fits]
  simp

end WebhookPayload

end RushSocket
