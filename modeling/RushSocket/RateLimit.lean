import Mathlib.Data.Finset.Basic

namespace RushSocket

/-! The limiters are kept by key.  What a limiter decides at an instant is
left to the environment. -/

structure LocalRateLimiter where
  backendLimiters : Finset String
  clientLimiters : Finset String
  deriving DecidableEq

namespace LocalRateLimiter

def new : LocalRateLimiter where
  backendLimiters := ∅
  clientLimiters := ∅

/-- No limiter is made for an unlimited rate. -/
def getOrCreate (limiters : Finset String) (key : String) (maxPerSec : Int) :
    Finset String :=
  if maxPerSec ≤ 0 then limiters else insert key limiters

def allowed (maxPerSec : Int) (withinRate : Bool) : Bool :=
  maxPerSec ≤ 0 || withinRate

def checkBackendEvent (limiter : LocalRateLimiter) (appId : String)
    (maxPerSec : Int) (withinRate : Bool) : LocalRateLimiter × Bool :=
  ({ limiter with
      backendLimiters := getOrCreate limiter.backendLimiters appId maxPerSec },
    allowed maxPerSec withinRate)

def checkClientEvent (limiter : LocalRateLimiter) (socketId : String)
    (maxPerSec : Int) (withinRate : Bool) : LocalRateLimiter × Bool :=
  ({ limiter with
      clientLimiters := getOrCreate limiter.clientLimiters socketId maxPerSec },
    allowed maxPerSec withinRate)

def removeSocket (limiter : LocalRateLimiter) (socketId : String) :
    LocalRateLimiter :=
  { limiter with clientLimiters := limiter.clientLimiters.erase socketId }

end LocalRateLimiter

end RushSocket
