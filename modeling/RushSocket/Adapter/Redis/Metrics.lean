import RushSocket.Adapter.Redis.PubSub
import RushSocket.Metrics

namespace RushSocket.Adapter.Redis

open Data

/-! Metrics of all nodes. -/

namespace MergeMetrics

/-- A number is added to an integer that is there, or put where nothing is. -/
def mergeNumber (stored : Option Json) (remoteVal : Json) : Option Json :=
  match stored, remoteVal.asI64 with
  | some lVal, some rNum =>
      match lVal.asI64 with
      | some lNum => some (.ofI64 (lNum + rNum))
      | none => some lVal
  | _, _ => if remoteVal.isNumber then some (stored.getD remoteVal) else stored

def putField (key : String) (value : Option Json) (fields : List (String × Json)) :
    List (String × Json) :=
  match value with
  | some value => Json.insertField key value fields
  | none => fields

mutual
def merge (locals : Json) : Json → Json
  | .object remote =>
      match locals with
      | .object fields => .object (mergeFields fields remote)
      | .null | .bool _ | .number _ | .string _ | .array _ => locals
  | .null | .bool _ | .number _ | .string _ | .array _ => locals
termination_by structural remote => remote

def mergeFields (fields : List (String × Json)) :
    List (String × Json) → List (String × Json)
  | [] => fields
  | (key, remoteVal) :: rest =>
      if key = "apps" then
        let lApps := (Json.field? fields key).getD (.object [])
        mergeFields (Json.insertField key (mergeApps lApps remoteVal) fields) rest
      else
        let value := mergeNumber (Json.field? fields key) remoteVal
        mergeFields (putField key value fields) rest

def mergeApps (lApps : Json) : Json → Json
  | .object rApps =>
      match lApps with
      | .object fields => .object (mergeAppFields fields rApps)
      | .null | .bool _ | .number _ | .string _ | .array _ => lApps
  | .null | .bool _ | .number _ | .string _ | .array _ => lApps

def mergeAppFields (fields : List (String × Json)) :
    List (String × Json) → List (String × Json)
  | [] => fields
  | (appId, rApp) :: rest =>
      let lApp := (Json.field? fields appId).getD (.object [])
      mergeAppFields (Json.insertField appId (merge lApp rApp) fields) rest
end

/-! Merging values gives a value. -/

theorem canonical_field? {fields : List (String × Json)}
    (ascends : Json.ascending fields = true)
    (holds : Json.canonical.canonicalFields fields = true) {key : String} {value : Json}
    (found : Json.field? fields key = some value) : value.canonical = true :=
  Json.canonical_of_field? holds ((Json.field?_eq_some ascends).mp found)

theorem canonical_getD {fields : List (String × Json)}
    (ascends : Json.ascending fields = true)
    (holds : Json.canonical.canonicalFields fields = true) (key : String) :
    ((Json.field? fields key).getD (.object [])).canonical = true := by
  cases found : Json.field? fields key with
  | none => rfl
  | some value => exact canonical_field? ascends holds found

theorem canonical_mergeNumber {stored : Option Json} {remoteVal value : Json}
    (holds : ∀ value, stored = some value → value.canonical = true)
    (remote : remoteVal.canonical = true)
    (merged : mergeNumber stored remoteVal = some value) : value.canonical = true := by
  cases stored with
  | none =>
      simp only [mergeNumber, Option.getD_none] at merged
      split at merged
      · cases merged
        exact remote
      · cases merged
  | some lVal =>
      cases summand : remoteVal.asI64 with
      | none =>
          simp only [mergeNumber, summand, Option.getD_some, ite_self] at merged
          exact holds value merged
      | some rNum =>
          cases own : lVal.asI64 with
          | none =>
              simp only [mergeNumber, summand, own] at merged
              exact holds value merged
          | some lNum =>
              simp only [mergeNumber, summand, own] at merged
              cases merged
              rfl

mutual
theorem canonical_merge (locals : Json) (holds : locals.canonical = true) :
    (remote : Json) → remote.canonical = true → (merge locals remote).canonical = true
  | .null, _ | .bool _, _ | .number _, _ | .string _, _ | .array _, _ => by
      rw [merge]
      exact holds
  | .object remote, remoteHolds => by
      cases locals with
      | object fields =>
          simp only [Json.canonical, Bool.and_eq_true] at holds remoteHolds
          have merged := canonical_mergeFields fields holds.1 holds.2 remote remoteHolds.2
          simp [merge, Json.canonical, merged]
      | null | bool _ | number _ | string _ | array _ =>
          rw [merge]
          exact holds

theorem canonical_mergeFields (fields : List (String × Json))
    (ascends : Json.ascending fields = true)
    (holds : Json.canonical.canonicalFields fields = true) :
    (remote : List (String × Json)) → Json.canonical.canonicalFields remote = true →
      Json.ascending (mergeFields fields remote) = true ∧
        Json.canonical.canonicalFields (mergeFields fields remote) = true
  | [], _ => by
      rw [mergeFields]
      exact ⟨ascends, holds⟩
  | (key, remoteVal) :: rest, remoteHolds => by
      simp only [Json.canonical.canonicalFields, Bool.and_eq_true] at remoteHolds
      rw [mergeFields]
      split
      · have apps := canonical_mergeApps _ (canonical_getD ascends holds key) remoteVal
          remoteHolds.1
        exact canonical_mergeFields _ (Json.ascending_insertField ascends)
          (Json.canonicalFields_insertField apps holds) rest remoteHolds.2
      · dsimp only
        cases merged : mergeNumber (Json.field? fields key) remoteVal with
        | none => exact canonical_mergeFields fields ascends holds rest remoteHolds.2
        | some value =>
            have kept := canonical_mergeNumber
              (fun value found => canonical_field? ascends holds found) remoteHolds.1 merged
            exact canonical_mergeFields _ (Json.ascending_insertField ascends)
              (Json.canonicalFields_insertField kept holds) rest remoteHolds.2

theorem canonical_mergeApps (lApps : Json) (holds : lApps.canonical = true) :
    (remote : Json) → remote.canonical = true → (mergeApps lApps remote).canonical = true
  | .null, _ | .bool _, _ | .number _, _ | .string _, _ | .array _, _ => by
      rw [mergeApps]
      exact holds
  | .object remote, remoteHolds => by
      cases lApps with
      | object fields =>
          simp only [Json.canonical, Bool.and_eq_true] at holds remoteHolds
          have merged :=
            canonical_mergeAppFields fields holds.1 holds.2 remote remoteHolds.2
          simp [mergeApps, Json.canonical, merged]
      | null | bool _ | number _ | string _ | array _ =>
          rw [mergeApps]
          exact holds

theorem canonical_mergeAppFields (fields : List (String × Json))
    (ascends : Json.ascending fields = true)
    (holds : Json.canonical.canonicalFields fields = true) :
    (remote : List (String × Json)) → Json.canonical.canonicalFields remote = true →
      Json.ascending (mergeAppFields fields remote) = true ∧
        Json.canonical.canonicalFields (mergeAppFields fields remote) = true
  | [], _ => by
      rw [mergeAppFields]
      exact ⟨ascends, holds⟩
  | (appId, rApp) :: rest, remoteHolds => by
      simp only [Json.canonical.canonicalFields, Bool.and_eq_true] at remoteHolds
      rw [mergeAppFields]
      have app := canonical_merge _ (canonical_getD ascends holds appId) rApp remoteHolds.1
      exact canonical_mergeAppFields _ (Json.ascending_insertField ascends)
        (Json.canonicalFields_insertField app holds) rest remoteHolds.2
end

end MergeMetrics

open MergeMetrics

def mergeMetrics (locals remote : Value) : Value where
  json := merge locals.json remote.json
  canonical := canonical_merge locals.json locals.canonical remote.json remote.canonical

/-- Without metrics of its own a node starts with an empty map. -/
def localMetrics (order : HashOrder) (metrics : Option Metrics) : Value :=
  (metrics.map fun metrics => metrics.toJson order).getD (.object [])

/-- What `request` has given is merged in the order of the answers. -/
def getAggregatedMetrics (order : HashOrder) (metrics : Option Metrics)
    (requested : Except Unit (List ResponsePayload)) : Value :=
  match requested with
  | .ok responses =>
      responses.foldl (fun merged response =>
        match response with
        | .metrics remote => mergeMetrics merged remote
        | .count _ | .channels _ | .channelInfo _ _ _ | .presenceMembers _ | .socketIds _
        | .ack => merged) (localMetrics order metrics)
  | .error _ => localMetrics order metrics

example :
    mergeMetrics (.object [("connected", .number (.ofI64 2))])
        (.object [("connected", .number (.ofI64 3)), ("http_calls", .number (.ofI64 1))]) =
      .object [("connected", .number (.ofI64 5)), ("http_calls", .number (.ofI64 1))] := by
  decide

end RushSocket.Adapter.Redis
