import RushSocket.Data.HashOrder
import RushSocket.Data.Json.RoundTrip
import RushSocket.Data.Table

namespace RushSocket.Adapter.Redis

open Data

/-! The messages of the nodes. -/

inductive BroadcastMessage where
  | channelMessage (appId channel message : String) (exceptingId : Option String)
  | terminateUser (appId userId : String)
  | heartbeat
  deriving DecidableEq

inductive RequestType where
  | getConnectionCount (appId : String)
  | getChannels (appId : String)
  | getChannelSocketCount (appId channel : String)
  | getChannelInfo (appId channel : String)
  | getPresenceMembers (appId channel : String)
  | getPresenceUserCount (appId channel : String)
  | getChannelSockets (appId channel : String)
  | getMetrics
  | discoverPeers
  deriving DecidableEq

structure Request where
  requestId : String
  senderNode : String
  requestType : RequestType
  deriving DecidableEq

inductive ResponsePayload where
  | count (count : UInt64)
  | channels (channels : List String)
  | channelInfo (occupied : Bool) (subscriptionCount : UInt64)
      (userCount : Option UInt64)
  | presenceMembers (members : Table String Value)
  | socketIds (socketIds : List String)
  | metrics (metrics : Value)
  | ack
  deriving DecidableEq

structure Response where
  requestId : String
  responderNode : String
  payload : ResponsePayload
  deriving DecidableEq

inductive PubSubPayload where
  | broadcast (message : BroadcastMessage)
  | request (request : Request)
  | response (response : Response)
  deriving DecidableEq

structure PubSubEnvelope where
  senderNode : String
  payload : PubSubPayload
  deriving DecidableEq

/-! Serialising.  An internally tagged enum writes its tag before the fields of
the content, and the content of a newtype variant has to be a map. -/

abbrev Fields := List (String × Json)

def ofOption {α : Type u} (write : α → Json) : Option α → Json
  | some value => write value
  | none => .null

def tagged (tag variant : String) (fields : Fields) : Fields :=
  (tag, .string variant) :: fields

/-- The map a newtype variant may hold; any other content is an error. -/
def mapContent : Json → Option Fields
  | .object fields => some fields
  | _ => none

def BroadcastMessage.fields : BroadcastMessage → Fields
  | .channelMessage appId channel message exceptingId =>
      tagged "type" "ChannelMessage"
        [("app_id", .string appId), ("channel", .string channel),
          ("message", .string message),
          ("excepting_id", ofOption .string exceptingId)]
  | .terminateUser appId userId =>
      tagged "type" "TerminateUser"
        [("app_id", .string appId), ("user_id", .string userId)]
  | .heartbeat => tagged "type" "Heartbeat" []

def RequestType.fields : RequestType → Fields
  | .getConnectionCount appId =>
      tagged "type" "GetConnectionCount" [("app_id", .string appId)]
  | .getChannels appId => tagged "type" "GetChannels" [("app_id", .string appId)]
  | .getChannelSocketCount appId channel =>
      tagged "type" "GetChannelSocketCount"
        [("app_id", .string appId), ("channel", .string channel)]
  | .getChannelInfo appId channel =>
      tagged "type" "GetChannelInfo"
        [("app_id", .string appId), ("channel", .string channel)]
  | .getPresenceMembers appId channel =>
      tagged "type" "GetPresenceMembers"
        [("app_id", .string appId), ("channel", .string channel)]
  | .getPresenceUserCount appId channel =>
      tagged "type" "GetPresenceUserCount"
        [("app_id", .string appId), ("channel", .string channel)]
  | .getChannelSockets appId channel =>
      tagged "type" "GetChannelSockets"
        [("app_id", .string appId), ("channel", .string channel)]
  | .getMetrics => tagged "type" "GetMetrics" []
  | .discoverPeers => tagged "type" "DiscoverPeers" []

def Request.fields (request : Request) : Fields :=
  [("request_id", .string request.requestId),
    ("sender_node", .string request.senderNode),
    ("request_type", .object request.requestType.fields)]

def ResponsePayload.fields (order : HashOrder) : ResponsePayload → Option Fields
  | .count total =>
      (mapContent (.ofU64 total)).map (tagged "type" "Count")
  | .channels names =>
      (mapContent (.array (names.map .string))).map (tagged "type" "Channels")
  | .channelInfo occupied subscriptionCount userCount =>
      some (tagged "type" "ChannelInfo"
        [("occupied", .bool occupied),
          ("subscription_count", .ofU64 subscriptionCount),
          ("user_count", ofOption Json.ofU64 userCount)])
  | .presenceMembers members =>
      (mapContent (.object (memberFields order members))).map
        (tagged "type" "PresenceMembers")
  | .socketIds ids =>
      (mapContent (.array (ids.map .string))).map (tagged "type" "SocketIds")
  | .metrics snapshot => (mapContent snapshot.json).map (tagged "type" "Metrics")
  | .ack => some (tagged "type" "Ack" [])

def Response.fields (order : HashOrder) (response : Response) : Option Fields :=
  (response.payload.fields order).map fun payload =>
    [("request_id", .string response.requestId),
      ("responder_node", .string response.responderNode),
      ("payload", .object payload)]

def PubSubPayload.fields (order : HashOrder) : PubSubPayload → Option Fields
  | .broadcast message => some (tagged "kind" "Broadcast" message.fields)
  | .request asked => some (tagged "kind" "Request" asked.fields)
  | .response answer =>
      (answer.fields order).map (tagged "kind" "Response")

def PubSubEnvelope.toJson (order : HashOrder) (envelope : PubSubEnvelope) :
    Option Json :=
  (envelope.payload.fields order).map fun payload =>
    .object [("sender_node", .string envelope.senderNode),
      ("payload", .object payload)]

/-- The published text; an envelope that cannot be serialised becomes the
empty text. -/
def PubSubEnvelope.toText (order : HashOrder) (envelope : PubSubEnvelope) : String :=
  ((envelope.toJson order).map Json.print).getD ""

/-! Parsing.  A field of a struct occurs once; an enum takes its tag out of the
map and reads the variant from what is left. -/

def asFields : Json → Option Fields
  | .object fields => some fields
  | _ => none

def asString : Json → Option String
  | .string value => some value
  | _ => none

def asBool : Json → Option Bool
  | .bool value => some value
  | _ => none

def asUsize : Json → Option UInt64
  | .number value => value.asU64.map UInt64.ofNat
  | _ => none

def asStrings : Json → Option (List String)
  | .array items => items.mapM asString
  | _ => none

def asOption {α : Type u} (read : Json → Option α) : Json → Option (Option α)
  | .null => some none
  | json => (read json).map some

/-- The value of a field that occurs exactly once. -/
def field (fields : Fields) (name : String) : Option Json :=
  match fields.filter fun entry => entry.1 = name with
  | [(_, value)] => some value
  | _ => none

def optionalField {α : Type u} (read : Json → Option α) (fields : Fields)
    (name : String) : Option (Option α) :=
  match fields.filter fun entry => entry.1 = name with
  | [] => some none
  | [(_, value)] => asOption read value
  | _ => none

def takeTag (tag : String) (fields : Fields) : Option (String × Fields) :=
  (field fields tag).bind fun variant => (asString variant).map fun name =>
    (name, fields.filter fun entry => entry.1 ≠ tag)

def stringField (fields : Fields) (name : String) : Option String :=
  (field fields name).bind asString

def BroadcastMessage.ofFields (fields : Fields) : Option BroadcastMessage := do
  let (variant, content) ← takeTag "type" fields
  match variant with
  | "ChannelMessage" =>
      let appId ← stringField content "app_id"
      let channel ← stringField content "channel"
      let message ← stringField content "message"
      let exceptingId ← optionalField asString content "excepting_id"
      return .channelMessage appId channel message exceptingId
  | "TerminateUser" =>
      let appId ← stringField content "app_id"
      let userId ← stringField content "user_id"
      return .terminateUser appId userId
  | "Heartbeat" => return .heartbeat
  | _ => none

def RequestType.ofFields (fields : Fields) : Option RequestType := do
  let (variant, content) ← takeTag "type" fields
  match variant with
  | "GetConnectionCount" =>
      return .getConnectionCount (← stringField content "app_id")
  | "GetChannels" => return .getChannels (← stringField content "app_id")
  | "GetChannelSocketCount" =>
      return .getChannelSocketCount (← stringField content "app_id")
        (← stringField content "channel")
  | "GetChannelInfo" =>
      return .getChannelInfo (← stringField content "app_id")
        (← stringField content "channel")
  | "GetPresenceMembers" =>
      return .getPresenceMembers (← stringField content "app_id")
        (← stringField content "channel")
  | "GetPresenceUserCount" =>
      return .getPresenceUserCount (← stringField content "app_id")
        (← stringField content "channel")
  | "GetChannelSockets" =>
      return .getChannelSockets (← stringField content "app_id")
        (← stringField content "channel")
  | "GetMetrics" => return .getMetrics
  | "DiscoverPeers" => return .discoverPeers
  | _ => none

def Request.ofFields (fields : Fields) : Option Request := do
  let requestId ← stringField fields "request_id"
  let senderNode ← stringField fields "sender_node"
  let requestType ←
    ((field fields "request_type").bind asFields).bind RequestType.ofFields
  return { requestId, senderNode, requestType }

/-- A map takes the last value of a repeated key. -/
def membersOfFields (fields : Fields) : Table String Value :=
  fields.foldl (fun members entry => members.insert entry.1 (.ofJson entry.2)) ∅

/-- What is left after the tag is a map, so a variant that holds a number or a
list cannot be read. -/
def ResponsePayload.ofFields (fields : Fields) : Option ResponsePayload := do
  let (variant, content) ← takeTag "type" fields
  match variant with
  | "Count" => (asUsize (.object content)).map .count
  | "Channels" => (asStrings (.object content)).map .channels
  | "ChannelInfo" =>
      let occupied ← (field content "occupied").bind asBool
      let subscriptionCount ← (field content "subscription_count").bind asUsize
      let userCount ← optionalField asUsize content "user_count"
      return .channelInfo occupied subscriptionCount userCount
  | "PresenceMembers" => return .presenceMembers (membersOfFields content)
  | "SocketIds" => (asStrings (.object content)).map .socketIds
  | "Metrics" => return .metrics (.ofJson (.object content))
  | "Ack" => return .ack
  | _ => none

def Response.ofFields (fields : Fields) : Option Response := do
  let requestId ← stringField fields "request_id"
  let responderNode ← stringField fields "responder_node"
  let payload ←
    ((field fields "payload").bind asFields).bind ResponsePayload.ofFields
  return { requestId, responderNode, payload }

def PubSubPayload.ofFields (fields : Fields) : Option PubSubPayload := do
  let (variant, content) ← takeTag "kind" fields
  match variant with
  | "Broadcast" => (BroadcastMessage.ofFields content).map .broadcast
  | "Request" => (Request.ofFields content).map .request
  | "Response" => (Response.ofFields content).map .response
  | _ => none

def PubSubEnvelope.ofJson (json : Json) : Option PubSubEnvelope := do
  let fields ← asFields json
  let senderNode ← stringField fields "sender_node"
  let payload ← ((field fields "payload").bind asFields).bind PubSubPayload.ofFields
  return { senderNode, payload }

def PubSubEnvelope.ofText (readFloat : DecimalText → Option DecimalText)
    (text : String) : Option PubSubEnvelope :=
  (Json.parse readFloat text).bind ofJson

end RushSocket.Adapter.Redis
