import RushSocket.Http.Routes

namespace RushSocket.Http

open Adapter Data Protocol

/-! The routes that only read. -/

/-- The limit on the read requests of an app, and the apps that have a limiter. -/
structure ReadLimiter where
  maxReadReqPerSec : App → Int
  readLimiters : Finset String

def ReadLimiter.checkReadRequest (limiter : ReadLimiter) (appId : String) (app : App)
    (withinRate : Bool) : ReadLimiter × Bool :=
  ({ limiter with
      readLimiters := LocalRateLimiter.getOrCreate limiter.readLimiters appId
        (limiter.maxReadReqPerSec app) },
    LocalRateLimiter.allowed (limiter.maxReadReqPerSec app) withinRate)

/-- The part that the read routes have in common. -/
def authoriseRead (crates : Crates) (moment : Moment) (state : AppState)
    (limiter : ReadLimiter) (target : Target) (params : Params) :
    ReadLimiter × Except HttpError App :=
  match checkTarget crates.sign state.appManager target params with
  | .error refused => (limiter, .error refused)
  | .ok app =>
      let (counted, allowed) := limiter.checkReadRequest target.appId app
        moment.withinRate
      (counted, if allowed then .ok app else .error ⟨429, "Rate limit exceeded"⟩)

def userCountRefused : HttpError where
  status := 400
  error := "user_count is only available for presence channels " ++
    "(use filter_by_prefix=presence-)"

def filtersPresence (params : Params) : Bool :=
  (params.get? "filter_by_prefix").any fun lead => Text.startsWith lead "presence-"

def keepsChannel (params : Params) (channel : String) : Bool :=
  (params.get? "filter_by_prefix").all fun lead => Text.startsWith channel lead

def respond : Except HttpError Json → HttpResponse
  | .error refused => .failed refused
  | .ok body => .ok body

def listChannels (crates : Crates) (moment : Moment) (state : AppState)
    (limiter : ReadLimiter) (appId : String) (params : Params) :
    ReadLimiter × HttpResponse :=
  match authoriseRead crates moment state limiter (.channels appId) params with
  | (counted, .error refused) => (counted, .failed refused)
  | (counted, .ok _) =>
      let info := params.get? "info"
      if wants info "user_count" && !filtersPresence params then
        (counted, .failed userCountRefused)
      else
        let channels := (state.adapter.getChannels moment.order appId).filter
          (keepsChannel params)
        (counted, .ok (.object [("channels", .object (channels.map fun channel =>
          (channel, .object (channelInfo state appId info channel))))]))

def getChannel (crates : Crates) (moment : Moment) (state : AppState)
    (limiter : ReadLimiter) (appId channelName : String) (params : Params) :
    ReadLimiter × HttpResponse :=
  match authoriseRead crates moment state limiter (.channel appId channelName)
      params with
  | (counted, .error refused) => (counted, .failed refused)
  | (counted, .ok _) =>
      let info := state.adapter.getChannelInfo appId channelName
      (counted, .ok (.object (
        [("occupied", .bool info.occupied),
          ("subscription_count", Json.ofU64 (.ofNat info.subscriptionCount))]
        ++ (info.userCount.map fun userCount =>
          ("user_count", Json.ofU64 (.ofNat userCount))).toList)))

def getUsers (crates : Crates) (moment : Moment) (state : AppState)
    (limiter : ReadLimiter) (appId channelName : String) (params : Params) :
    ReadLimiter × HttpResponse :=
  match authoriseRead crates moment state limiter (.channelUsers appId channelName)
      params with
  | (counted, .error refused) => (counted, .failed refused)
  | (counted, .ok _) =>
      if !(ChannelKind.fromName channelName).isPresence then
        (counted, .failed ⟨400, "Not a presence channel"⟩)
      else
        let members := state.adapter.getPresenceMembers appId channelName
        (counted, .ok (.object [("users", .array
          ((moment.order.list members.keys).map fun userId =>
            .object [("id", .string userId)]))]))

def getConnections (crates : Crates) (moment : Moment) (state : AppState)
    (limiter : ReadLimiter) (appId : String) (params : Params) :
    ReadLimiter × HttpResponse :=
  match authoriseRead crates moment state limiter (.connections appId) params with
  | (counted, .error refused) => (counted, .failed refused)
  | (counted, .ok _) =>
      (counted, .ok (.object [("connections", Json.ofU64
        (.ofNat (state.adapter.getConnectionCount appId)))]))

end RushSocket.Http
