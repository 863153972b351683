import Mathlib.Algebra.Group.Nat.Defs
import Mathlib.Data.List.Basic

namespace RushSocket

/-- The settings of an app that the handlers read. -/
structure App where
  id : String
  key : String
  secret : String
  enabled : Bool
  clientEventMode : String
  enableUserAuthentication : Bool
  maxConnections : Int
  maxBackendEventsPerSec : Int
  maxClientEventsPerSec : Int
  maxPresenceMembersPerChannel : Nat
  maxPresenceMemberSizeInKb : Nat
  maxChannelNameLength : Nat
  maxEventChannelsAtOnce : Nat
  maxEventNameLength : Nat
  maxEventPayloadInKb : Nat
  maxEventBatchSize : Nat
  enableCacheChannels : Bool
  webhookUrl : Option String
  enableSubscriptionCountWebhook : Bool
  deriving DecidableEq

/-- An app with every feature but the webhooks, for the examples. -/
def App.sample : App where
  id := "app"
  key := "app-key"
  secret := "app-secret"
  enabled := true
  clientEventMode := "members"
  enableUserAuthentication := true
  maxConnections := -1
  maxBackendEventsPerSec := -1
  maxClientEventsPerSec := -1
  maxPresenceMembersPerChannel := 100
  maxPresenceMemberSizeInKb := 2
  maxChannelNameLength := 200
  maxEventChannelsAtOnce := 100
  maxEventNameLength := 200
  maxEventPayloadInKb := 100
  maxEventBatchSize := 10
  enableCacheChannels := true
  webhookUrl := none
  enableSubscriptionCountWebhook := false

/-- Kilobytes in bytes, in the arithmetic of a `usize` of 64 bits. -/
def kilobytes (size : Nat) : Nat := size * 1024 % 2 ^ 64

theorem kilobytes_le (size : Nat) : kilobytes size ≤ size * 1024 := Nat.mod_le _ _

theorem kilobytes_of_fits {size : Nat} (fits : size * 1024 < 2 ^ 64) :
    kilobytes size = size * 1024 :=
  Nat.mod_eq_of_lt fits

/-- The configured apps in order; of two with one key, or one id, the later
counts. -/
structure StaticAppManager where
  apps : List App
  deriving DecidableEq

namespace StaticAppManager

def findByKey (manager : StaticAppManager) (key : String) : Option App :=
  manager.apps.findRev? fun app => app.key = key

def findById (manager : StaticAppManager) (id : String) : Option App :=
  manager.apps.findRev? fun app => app.id = id

theorem mem_of_findById {manager : StaticAppManager} {id : String} {found : App}
    (named : manager.findById id = some found) :
    found ∈ manager.apps ∧ found.id = id := by
  rw [findById, List.findRev?_eq_find?_reverse] at named
  exact ⟨List.mem_reverse.mp (List.mem_of_find?_eq_some named),
    by simpa using List.find?_some named⟩

end StaticAppManager

end RushSocket
