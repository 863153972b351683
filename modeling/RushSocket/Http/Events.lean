import RushSocket.Http.Auth
import RushSocket.State

namespace RushSocket.Http

open Adapter Data Protocol

structure HttpResponse where
  status : Nat
  body : Json
  deriving DecidableEq

namespace HttpResponse

def failed (error : HttpError) : HttpResponse where
  status := error.status
  body := .object [("error", .string error.error)]

/-- The objects of a body are maps. -/
def ok (body : Json) : HttpResponse where
  status := 200
  body := (Value.ofJson body).json

def empty : HttpResponse := .ok (.object [])

end HttpResponse

def publish (moment : Moment) (app : App) (appId name data : String)
    (socketId : Option String) (state : AppState) (channel : String) : AppState :=
  let frame := ServerMessage.channelEvent name channel (ServerMessage.text data) none
  let cached :=
    if (ChannelKind.fromName channel).isCache && app.enableCacheChannels then
      state.setCache (state.cache.set moment.now (cacheKey appId channel) frame
        state.cacheTtl)
    else state
  cached.sendToChannel moment appId channel frame socketId

def wants (info : Option String) (item : String) : Bool :=
  info.any fun text => Text.hasItem text item

def channelInfo (state : AppState) (appId : String) (info : Option String)
    (channel : String) : List (String × Json) :=
  (if wants info "subscription_count" then
    [("subscription_count", Json.ofU64
      (.ofNat (state.adapter.getChannelSocketCount appId channel)))]
  else []) ++
  (if wants info "user_count" && (ChannelKind.fromName channel).isPresence then
    [("user_count", Json.ofU64
      (.ofNat (state.adapter.getPresenceUserCount appId channel)))]
  else [])

def payloadTooLarge (app : App) : HttpError where
  status := 413
  error := "The data content of this event exceeds the allowed maximum (" ++
    toString (kilobytes app.maxEventPayloadInKb) ++ ")"

def channelsOf (request : TriggerRequest) : Option (List String) :=
  match request.channels with
  | some channels => some channels
  | none => request.channel.map fun channel => [channel]

/-- The checks of `trigger` on a parsed body, with the channels to send to. -/
def checkTrigger (app : App) (request : TriggerRequest) :
    Except HttpError (List String) :=
  match channelsOf request with
  | none => .error ⟨400, "No channels specified"⟩
  | some channels =>
      if channels.length > app.maxEventChannelsAtOnce then
        .error ⟨400, "Too many channels"⟩
      else if request.name.utf8ByteSize > app.maxEventNameLength then
        .error ⟨400, "Event name too long"⟩
      else if request.data.utf8ByteSize > kilobytes app.maxEventPayloadInKb then
        .error (payloadTooLarge app)
      else .ok channels

def publishAll (moment : Moment) (app : App) (appId : String)
    (request : TriggerRequest) (state : AppState) (channels : List String) :
    AppState :=
  channels.foldl (publish moment app appId request.name request.data request.socketId)
    state

def triggerResponse (state : AppState) (appId : String) (info : Option String)
    (channels : List String) : HttpResponse :=
  if (wants info "subscription_count" || wants info "user_count") &&
      !channels.isEmpty then
    .ok (.object [("channels", .object (channels.map fun channel =>
      (channel, .object (channelInfo state appId info channel))))])
  else .empty

/-- The part that both routes have in common: the app, the signature and the
rate. -/
def authorise (crates : Crates) (moment : Moment) (state : AppState) (appId : String)
    (route : Route) (params : Params) (body : List UInt8) :
    AppState × Except HttpError App :=
  match state.appManager.findById appId with
  | none => (state, .error ⟨404, "App not found"⟩)
  | some app =>
      match checkSigned crates.sign crates.bodyMd5 appId app.secret route params
          body with
      | .error refused => (state, .error refused)
      | .ok () =>
          let (rateLimiter, allowed) := state.rateLimiter.checkBackendEvent appId
            app.maxBackendEventsPerSec moment.withinRate
          (state.setRateLimiter rateLimiter,
            if allowed then .ok app else .error ⟨429, "Rate limit exceeded"⟩)

def trigger (crates : Crates) (moment : Moment) (state : AppState) (appId : String)
    (params : Params) (body : List UInt8) : AppState × HttpResponse :=
  match authorise crates moment state appId .events params body with
  | (admitted, .error refused) => (admitted, .failed refused)
  | (admitted, .ok app) =>
      match crates.readTrigger body with
      | .error reason => (admitted, .failed ⟨400, "Invalid body: " ++ reason⟩)
      | .ok request =>
          match checkTrigger app request with
          | .error refused => (admitted, .failed refused)
          | .ok channels =>
              let published := publishAll moment app appId request admitted channels
              (published, triggerResponse published appId
                (request.info.or (params.get? "info")) channels)

def checkBatch (app : App) (batch : List BatchEvent) : Except HttpError Unit :=
  if batch.length > app.maxEventBatchSize then .error ⟨400, "Batch too large"⟩
  else if batch.any fun event =>
      event.data.utf8ByteSize > kilobytes app.maxEventPayloadInKb then
    .error (payloadTooLarge app)
  else .ok ()

def publishBatch (moment : Moment) (app : App) (appId : String) (state : AppState)
    (batch : List BatchEvent) : AppState :=
  batch.foldl (fun state event =>
    publish moment app appId event.name event.data event.socketId state event.channel)
    state

def batchResponse (state : AppState) (appId : String) (globalInfo : Option String)
    (batch : List BatchEvent) : HttpResponse :=
  if batch.any fun event => (event.info.or globalInfo).isSome then
    .ok (.object [("batch", .array (batch.map fun event =>
      .object (channelInfo state appId (event.info.or globalInfo) event.channel)))])
  else .empty

def triggerBatch (crates : Crates) (moment : Moment) (state : AppState)
    (appId : String) (params : Params) (body : List UInt8) :
    AppState × HttpResponse :=
  match authorise crates moment state appId .batchEvents params body with
  | (admitted, .error refused) => (admitted, .failed refused)
  | (admitted, .ok app) =>
      match crates.readBatch body with
      | .error reason => (admitted, .failed ⟨400, "Invalid body: " ++ reason⟩)
      | .ok batch =>
          match checkBatch app batch with
          | .error refused => (admitted, .failed refused)
          | .ok () =>
              let published := publishBatch moment app appId admitted batch
              (published,
                batchResponse published appId (params.get? "info") batch)

def terminate (crates : Crates) (moment : Moment) (state : AppState)
    (appId userId : String) (params : Params) : AppState × HttpResponse :=
  match state.appManager.findById appId with
  | none => (state, .failed ⟨404, "App not found"⟩)
  | some app =>
      match params.get? "auth_signature" with
      | none => (state, .failed ⟨401, "Missing auth_signature"⟩)
      | some authSignature =>
          let path := "/apps/" ++ appId ++ "/users/" ++ userId ++
            "/terminate_connections"
          if !verifyHttpSignature crates.sign app.secret "POST" path params
              authSignature then
            (state, .failed ⟨401, "Invalid signature"⟩)
          else
            (state.terminateUserConnections moment appId userId, .empty)

end RushSocket.Http
