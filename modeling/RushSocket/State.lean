import RushSocket.Adapter.Local
import RushSocket.Cache
import RushSocket.Protocol.Channels
import RushSocket.RateLimit
import RushSocket.Webhook
import RushSocket.Websocket.Connection

namespace RushSocket

open Adapter Data Protocol Websocket

/-- What is computed outside the repository: the hex texts of HMAC-SHA256 and of
MD5, and what is read from a text as JSON. -/
structure Crates where
  sign : String → String → String
  bodyMd5 : List UInt8 → String
  readValue : String → Option Value
  readMessage : String → Option ClientMessage
  readTrigger : List UInt8 → Except String TriggerRequest
  readBatch : List UInt8 → Except String (List BatchEvent)

/-- What a handler finds when it runs: the instant, the verdict of the rate
limiter, and the orders in which the hash sets list their elements. -/
structure Moment where
  now : Nat
  withinRate : Bool
  order : HashOrder
  recipientOrder : String → HashOrder

/-- The state of a single node.  An app that has webhooks has a queue. -/
structure AppState where
  appManager : StaticAppManager
  cacheTtl : Nat
  adapter : LocalAdapter
  connections : Table String WsConnection
  rateLimiter : LocalRateLimiter
  cache : MemoryCache
  webhooks : Table String (List WebhookEvent)
  deriving DecidableEq

namespace AppState

def webhookQueues (apps : List App) : Table String (List WebhookEvent) :=
  apps.foldl (fun queues app =>
    if app.webhookUrl.isSome then queues.insert app.id [] else queues) ∅

def new (apps : List App) (cacheTtl : Nat) : AppState where
  appManager := ⟨apps⟩
  cacheTtl := cacheTtl
  adapter := .new
  connections := ∅
  rateLimiter := .new
  cache := .new
  webhooks := webhookQueues apps

def setAdapter (state : AppState) (adapter : LocalAdapter) : AppState :=
  { state with adapter }

def setRateLimiter (state : AppState) (rateLimiter : LocalRateLimiter) : AppState :=
  { state with rateLimiter }

def setCache (state : AppState) (cache : MemoryCache) : AppState :=
  { state with cache }

def changeConn (state : AppState) (socketId : String)
    (change : WsConnection → WsConnection) : AppState :=
  { state with connections := state.connections.modify socketId change }

def send (state : AppState) (socketId : String) (frame : ServerMessage) : AppState :=
  state.changeConn socketId fun conn => conn.sendRaw frame

def sendAll (state : AppState) (recipients : List ConnHandle)
    (frame : ServerMessage) : AppState :=
  recipients.foldl (fun state conn => state.send conn.socketId frame) state

def sendToChannel (moment : Moment) (state : AppState) (appId channel : String)
    (frame : ServerMessage) (exceptingId : Option String) : AppState :=
  state.sendAll (state.adapter.recipients (moment.recipientOrder channel) appId channel
    exceptingId) frame

def notify (state : AppState) (appId : String) (event : WebhookEvent) : AppState :=
  { state with webhooks := state.webhooks.modify appId fun queue => queue ++ [event] }

/-- Not sent for presence channels. -/
def sendSubscriptionCount (state : AppState) (appId channel : String)
    (enabled : Bool) : AppState :=
  if !enabled then state
  else if (ChannelKind.fromName channel).isPresence then state
  else state.notify appId (.ofSubscriptionCount channel
    (state.adapter.getChannelSocketCount appId channel))

/-- Mark the connections of a user to be closed, with a last frame. -/
def terminateUserConnections (moment : Moment) (state : AppState)
    (appId userId : String) : AppState :=
  (state.adapter.getSocketsForUser moment.order appId userId).foldl
    (fun state conn => state.changeConn conn.socketId fun stored =>
      stored.terminate (.error "Connection terminated by server" (some 4009))) state

end AppState

end RushSocket
