import RushSocket.Adapter.Redis.Listening

namespace RushSocket.Adapter.Redis.Exchange

open Data Transition

/-! The nodes stay the same. -/

/-- An answer: whose, when it was computed, and what has arrived of it. -/
structure Answer where
  responder : String
  computed : Nat
  payload : ResponsePayload
  received : ResponsePayload

section

variable {readFloat : DecimalText → Option DecimalText} {nodes : Table String LocalAdapter}
  {actions : List (CallAction Caller Operation Choice)} {final : State}
  (reached : (system readFloat nodes).run actions = some final)
include reached

end

/-! A node asks the one other that it has heard of for its metrics. -/

def cluster : Table String LocalAdapter :=
  (Finmap.singleton "a" LocalAdapter.new).insert "b" .new

def reaching (reaches : Finset String) : Choice where
  requestId := "request"
  order := .ascending
  metrics := none
  reaches
  succeeds := true

def turn (caller : Caller) (operation : Operation) (choices : List (Finset String)) :
    List (CallAction Caller Operation Choice) :=
  .begin caller operation :: choices.map fun reaches => .advance caller (reaching reaches)

def questioned (requestType : RequestType) (heard : List (Finset String)) :
    List (CallAction Caller Operation Choice) :=
  turn (.task 0) (.publish "b" .heartbeat) [{"a"}] ++
    turn (.listener "a") (.receive "a") [∅, ∅, ∅] ++
    turn (.task 1) (.request "a" requestType) [∅, ∅, ∅, {"a", "b"}] ++
    turn (.listener "b") (.receive "b") [∅, ∅, ∅, {"a"}] ++
    turn (.listener "a") (.receive "a") [∅] ++
    turn (.listener "a") (.receive "a") heard ++
    [.advance (.task 1) (reaching ∅), .advance (.task 1) (reaching ∅)]

def asking : List (CallAction Caller Operation Choice) := questioned .getMetrics [∅, ∅, ∅]

end RushSocket.Adapter.Redis.Exchange
