import RushSocket.Adapter.Redis.PubSub
import RushSocket.Transition.Calls

namespace RushSocket.Adapter.Redis.Requests

open Data Transition

/-! Requests and discoveries of a node, with the answers that come in meanwhile.
Each call runs from one access to the shared tables to the next. -/

/-- The tables of a node.  `removed` has what callers and handlers still hold of
the entries that are gone, and `issued` records the request ids that were drawn. -/
structure Shared where
  issued : Finset String
  pubsub : RedisPubSub
  removed : Table String PendingState
  deriving DecidableEq

inductive Operation
  | request
  | discoverPeers
  | handleResponse (response : Response)
  | recordPeer (nodeId : String) (now : Nat)
  deriving DecidableEq

inductive Ending
  | received (responses : Option (List ResponsePayload))
  | unpublished
  | waited
  deriving DecidableEq

inductive Point
  | drawing
  | counting (requestId : String)
  | inserting (requestId : String) (expectedCount : Nat)
  | publishing (requestId : String)
  | waiting (requestId : String)
  | removing (requestId : String) (ending : Ending)
  | tallying (requestId : String)
  | looking
  | pushing
  | recording
  deriving DecidableEq

/-- The id that is drawn, the instant, and whether the publish succeeds are left to the
environment. -/
inductive Choice
  | uuid (requestId : String)
  | instant (now : Nat)
  | publishes (published : Bool)
  | proceed
  deriving DecidableEq

inductive Returned
  | responses (requestId : String) (result : Except Unit (List ResponsePayload))
  | peers (requestId : String) (count : Nat)
  | handled (pushed : Bool)
  | recorded

def usizeMax : Nat := 2 ^ 64 - 1

def enter : Operation → Point
  | .request | .discoverPeers => .drawing
  | .handleResponse _ => .looking
  | .recordPeer _ _ => .recording

namespace Shared

def start (knownNodes : Table String Nat) : Shared where
  issued := ∅
  pubsub := { pending := ∅, knownNodes }
  removed := ∅

def issue (shared : Shared) (requestId : String) : Shared :=
  { shared with issued := insert requestId shared.issued }

def insertPending (shared : Shared) (requestId : String) (expectedCount : Nat) : Shared :=
  { shared with pubsub := shared.pubsub.insertPending requestId (.new expectedCount) }

/-- Who holds the entry keeps it. -/
def removePending (shared : Shared) (requestId : String) : Shared :=
  { shared with
    pubsub := shared.pubsub.removePending requestId
    removed :=
      match shared.pubsub.pending.lookup requestId with
      | some state => shared.removed.insert requestId state
      | none => shared.removed }

/-- The answer is put where the handler has found the entry, in the table or not. -/
def push (shared : Shared) (response : Response) : Shared :=
  { shared with
    pubsub := shared.pubsub.handleResponse response
    removed := shared.removed.modify response.requestId fun state =>
      state.push response.payload }

end Shared

/-- `request` ends with an error when its publish fails; `discover_peers` removes its
entry first. -/
def advance (shared : Shared) (_ : Nat) : Operation → Point → Choice →
    Option (Shared × Progress Point Returned)
  | .request, .drawing, .uuid requestId =>
      if requestId ∈ shared.issued then none
      else some (shared.issue requestId, .running (.counting requestId))
  | .discoverPeers, .drawing, .uuid requestId =>
      if requestId ∈ shared.issued then none
      else some (shared.issue requestId, .running (.inserting requestId usizeMax))
  | .request, .counting requestId, .instant now =>
      let (counted, expectedCount) := shared.pubsub.getPeerCount now
      some ({ shared with pubsub := counted },
        if expectedCount = 0 then .finished (.responses requestId (.ok []))
        else .running (.inserting requestId expectedCount))
  | .request, .inserting requestId expectedCount, .proceed
  | .discoverPeers, .inserting requestId expectedCount, .proceed =>
      some (shared.insertPending requestId expectedCount, .running (.publishing requestId))
  | .request, .publishing requestId, .publishes published =>
      some (shared,
        if published then .running (.waiting requestId)
        else .finished (.responses requestId (.error ())))
  | .discoverPeers, .publishing requestId, .publishes published =>
      some (shared,
        if published then .running (.waiting requestId)
        else .running (.removing requestId .unpublished))
  | .request, .waiting requestId, .proceed =>
      -- what the channel has when the timer or the channel itself wakes the call
      let received := (shared.pubsub.pending.lookup requestId).bind PendingState.sent
      some (shared, .running (.removing requestId (.received received)))
  | .discoverPeers, .waiting requestId, .proceed =>
      some (shared, .running (.removing requestId .waited))
  | .request, .removing requestId (.received responses), .proceed =>
      some (shared.removePending requestId,
        .finished (.responses requestId (.ok (responses.getD []))))
  | .discoverPeers, .removing requestId .unpublished, .proceed =>
      some (shared.removePending requestId, .finished (.peers requestId 0))
  | .discoverPeers, .removing requestId .waited, .proceed =>
      some (shared.removePending requestId, .running (.tallying requestId))
  | .discoverPeers, .tallying requestId, .proceed =>
      let state := shared.removed.lookup requestId
      some (shared, .finished (.peers requestId
        ((state.map fun state => state.responses.length).getD 0)))
  | .handleResponse response, .looking, .proceed =>
      some (shared,
        if response.requestId ∈ shared.pubsub.pending then .running .pushing
        else .finished (.handled false))
  | .handleResponse response, .pushing, .proceed =>
      some (shared.push response, .finished (.handled true))
  | .recordPeer nodeId now, .recording, .proceed =>
      some ({ shared with pubsub := shared.pubsub.recordPeer nodeId now },
        .finished .recorded)
  | _, _, _ => none

def code : Code Shared Nat Operation Point Choice Returned where
  enter := enter
  advance := advance

abbrev State := Calls Shared Nat Operation Point Returned

abbrev Action := CallAction Nat Operation Choice

def system (knownNodes : Table String Nat) : System State Action :=
  Calls.system code (fun _ _ _ => true) (.start knownNodes)

end RushSocket.Adapter.Redis.Requests
