import RushSocket.Data.HashOrder
import RushSocket.Data.Json.Text
import RushSocket.Data.Table

namespace RushSocket.Protocol

open Data

structure ClientMessage where
  event : String
  data : Value
  channel : Option String
  deriving DecidableEq

structure TriggerRequest where
  name : String
  data : String
  channels : Option (List String)
  channel : Option String
  socketId : Option String
  info : Option String
  deriving DecidableEq

structure BatchEvent where
  name : String
  data : String
  channel : String
  socketId : Option String
  info : Option String
  deriving DecidableEq

/-- A message to a client.  Connections, channels and the cache carry its JSON
text; here they carry the message. -/
structure ServerMessage where
  event : String
  data : Option Value := none
  channel : Option String := none
  userId : Option String := none
  deriving DecidableEq

namespace ServerMessage

def text (value : String) : Value := .ofJson (.string value)

def inner (fields : List (String × Json)) : String :=
  (Value.ofJson (.object fields)).json.print

def pong : ServerMessage := { event := "pusher:pong" }

def error (message : String) (code : Option UInt16) : ServerMessage where
  event := "pusher:error"
  data := some (text (inner (("message", .string message) ::
    match code with
    | some code => [("code", .ofU64 code.toUInt64)]
    | none => [])))

def subscriptionSucceeded (channel : String) : ServerMessage where
  event := "pusher_internal:subscription_succeeded"
  data := some (text "{}")
  channel := some channel

def presenceSubscriptionSucceeded (channel : String) (ids : List String)
    (hash : Json) (count : Nat) : ServerMessage where
  event := "pusher_internal:subscription_succeeded"
  data := some (text (inner [("presence", .object
    [("ids", .array (ids.map .string)), ("hash", hash),
      ("count", .ofU64 (.ofNat count))])]))
  channel := some channel

def memberAdded (channel userId : String) (userInfo : Value) : ServerMessage where
  event := "pusher_internal:member_added"
  data := some (text (inner
    [("user_id", .string userId), ("user_info", userInfo.json)]))
  channel := some channel

def memberRemoved (channel userId : String) : ServerMessage where
  event := "pusher_internal:member_removed"
  data := some (text (inner [("user_id", .string userId)]))
  channel := some channel

def channelEvent (event channel : String) (data : Value)
    (userId : Option String) : ServerMessage where
  event := event
  data := some data
  channel := some channel
  userId := userId

def cacheMiss (channel : String) : ServerMessage where
  event := "pusher:cache_miss"
  channel := some channel

def signinSuccess (userData : String) : ServerMessage where
  event := "pusher:signin_success"
  data := some (text (inner [("user_data", .string userData)]))

/-- The text that is sent; a field that is absent is left out. -/
def toJson (message : ServerMessage) : String :=
  let optional (name : String) (value : Option Json) : List (String × Json) :=
    (value.map fun value => (name, value)).toList
  (Json.object (("event", .string message.event) ::
    (optional "data" (message.data.map Value.json) ++
      optional "channel" (message.channel.map .string) ++
      optional "user_id" (message.userId.map .string)))).print

example : pong.toJson = "\x7b\"event\":\"pusher:pong\"\x7d" := by decide

end ServerMessage

end RushSocket.Protocol
