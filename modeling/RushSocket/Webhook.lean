import RushSocket.Data.Json.Text

namespace RushSocket

open Data

structure WebhookEvent where
  name : String
  channel : String
  userId : Option String := none
  data : Option String := none
  event : Option String := none
  socketId : Option String := none
  subscriptionCount : Option Nat := none
  deriving DecidableEq

namespace WebhookEvent

def channelOccupied (channel : String) : WebhookEvent :=
  { name := "channel_occupied", channel }

def channelVacated (channel : String) : WebhookEvent :=
  { name := "channel_vacated", channel }

def cacheMiss (channel : String) : WebhookEvent :=
  { name := "cache_miss", channel }

def memberAdded (channel userId : String) : WebhookEvent :=
  { name := "member_added", channel, userId := some userId }

def memberRemoved (channel userId : String) : WebhookEvent :=
  { name := "member_removed", channel, userId := some userId }

def clientEvent (channel eventName : String) (data : Value) (socketId : String)
    (userId : Option String) : WebhookEvent :=
  { name := "client_event"
    channel
    userId
    data := some data.json.print
    event := some eventName
    socketId := some socketId }

def ofSubscriptionCount (channel : String) (count : Nat) : WebhookEvent :=
  { name := "subscription_count", channel, subscriptionCount := some count }

def optional {α : Type} (key : String) (value : Option α) (write : α → Json) :
    List (String × Json) :=
  match value with
  | some value => [(key, write value)]
  | none => []

/-- The fields in the order of the source; what is absent is left out. -/
def json (event : WebhookEvent) : Json :=
  .object ([("name", .string event.name), ("channel", .string event.channel)] ++
    optional "user_id" event.userId .string ++ optional "data" event.data .string ++
    optional "event" event.event .string ++
    optional "socket_id" event.socketId .string ++
    optional "subscription_count" event.subscriptionCount
      fun count => .ofU64 (.ofNat count))

end WebhookEvent

structure WebhookPayload where
  timeMs : UInt64
  events : List WebhookEvent

namespace WebhookPayload

def json (payload : WebhookPayload) : Json :=
  .object [("time_ms", .ofU64 payload.timeMs),
    ("events", .array (payload.events.map WebhookEvent.json))]

def body (payload : WebhookPayload) : String := payload.json.print

end WebhookPayload

example : WebhookPayload.body ⟨5, [.memberAdded "presence-a" "ann"]⟩ =
    "\x7b\"time_ms\":5,\"events\":[\x7b\"name\":\"member_added\"," ++
      "\"channel\":\"presence-a\",\"user_id\":\"ann\"\x7d]\x7d" := by
  decide +kernel

end RushSocket
