import RushSocket.Adapter.Redis.Authenticity
import RushSocket.Adapter.Redis.Snapshots
import RushSocket.Adapter.Redis.Vacancy

namespace RushSocket.Adapter.Redis

open Data Json Transition

/-! The metrics of a server on the wire. -/

section

variable {word : String → Int → Prop} {readFloat : DecimalText → Option DecimalText}

end

/-- The questions that are answered with a number or a list. -/
def RequestType.Bare : RequestType → Prop
  | .getConnectionCount _ | .getChannels _ | .getChannelSocketCount _ _
  | .getPresenceUserCount _ _ | .getChannelSockets _ _ => True
  | .getChannelInfo _ _ | .getPresenceMembers _ _ | .getMetrics | .discoverPeers => False

def socketIdsOf : ResponsePayload → List String
  | .socketIds ids => ids
  | _ => []

/-- The sockets of the node and those that the others have answered, each once. -/
def getChannelSockets (order : HashOrder) (locals : LocalAdapter) (appId channel : String)
    (requested : Except Unit (List ResponsePayload)) : List String :=
  let allSockets := locals.getChannelSockets order appId channel
  match requested with
  | .ok responses => order.list (allSockets ++ responses.flatMap socketIdsOf).toFinset
  | .error _ => order.list allSockets.toFinset

theorem Arrives.serialised {readFloat : DecimalText → Option DecimalText}
    {sent received : ResponsePayload} (arrives : Arrives readFloat sent received) :
    ∃ order fields, sent.fields order = some fields := by
  obtain ⟨order, requestId, responderNode, read⟩ := arrives
  obtain ⟨_, _, serialised, _⟩ := PubSubEnvelope.sender_of_ofText readFloat order read
  obtain ⟨_, wrote, _⟩ := Option.map_eq_some_iff.mp serialised
  obtain ⟨fields, same, _⟩ := Option.map_eq_some_iff.mp wrote
  exact ⟨order, fields, same⟩

namespace Exchange

def Answer.snapshot (answer : Answer) : Value :=
  match answer.payload with
  | .metrics snapshot => snapshot
  | _ => .object []

/-- A number or a list cannot take the tag, so the text is empty. -/
theorem not_arrives_of_bare {readFloat : DecimalText → Option DecimalText}
    {requestType : RequestType} (bare : requestType.Bare) {order : HashOrder}
    {metrics : Option Metrics} {locals : LocalAdapter} {received : ResponsePayload} :
    ¬ Arrives readFloat (handleRequest order metrics locals requestType) received := by
  intro arrives
  obtain ⟨_, _, serialised⟩ := arrives.serialised
  cases requestType with
  | getConnectionCount | getChannels | getChannelSocketCount | getPresenceUserCount
  | getChannelSockets => cases serialised
  | getChannelInfo | getPresenceMembers | getMetrics | discoverPeers => exact bare

section

variable {readFloat : DecimalText → Option DecimalText} {nodes : Table String LocalAdapter}
  {actions : List (CallAction Caller Operation Choice)} {final : State}
  (reached : (system readFloat nodes).run actions = some final)
include reached

/-- Whoever asks the other nodes for a number or a list learns nothing: no answer to it is
ever accepted, so the sockets of a channel are those of the node itself and the count of
the others is zero. -/
theorem bare_unanswered {requestId nodeId : String} {requestType : RequestType}
    {began : Nat} (bare : requestType.Bare)
    (asked : AskedBy final.shared requestId nodeId requestType began) :
    acceptances requestId final.log = [] ∧
      ∀ caller ended payloads, ⟨caller, .request nodeId requestType,
          .responses requestId ended (.ok payloads)⟩ ∈ final.log →
        payloads = [] ∧ Vacancy.remoteCount payloads = 0 ∧
          ∀ order locals appId channel,
            getChannelSockets order locals appId channel (.ok payloads) =
              order.list (locals.getChannelSockets order appId channel).toFinset := by
  have unheard : acceptances requestId final.log = [] := by
    apply List.eq_nil_iff_forall_not_mem.mpr
    intro response member
    obtain ⟨_, _, _, askedToo, _, _, answered⟩ :=
      (inv_of_reached reached).accepted requestId response member
    obtain ⟨_, _, _, _, computed, arrives⟩ := answered
    obtain ⟨_, _, _, _, _, _, _, same⟩ := computed
    rw [same, ← (asked.unique askedToo).2.1] at arrives
    exact not_arrives_of_bare bare arrives
  refine ⟨unheard, ?_⟩
  intro caller ended payloads finished
  obtain ⟨_, _, truthful⟩ := (inv_of_reached reached).results _ finished
  have nothing : payloads = [] := by
    cases truthful with
    | inl nothing => exact nothing
    | inr gathered =>
        obtain ⟨⟨answers, first, same, _⟩, _⟩ := gathered
        rw [unheard, List.prefix_nil] at first
        rw [← same, first]
        rfl
  subst nothing
  refine ⟨rfl, rfl, ?_⟩
  intro order locals appId channel
  rw [getChannelSockets, List.flatMap_nil, List.append_nil]

end

/-! The two servers have no metrics of their own, and who asks has two connections. -/

def vainly : List (CallAction Caller Operation Choice) :=
  questioned (.getChannelSockets "app" "room") [∅]

def unanswered (state : State) : Bool :=
  match state.log with
  | ⟨.task 1, .request "a" (.getChannelSockets "app" "room"),
      .responses "request" 0 (.ok [])⟩ :: _ => true
  | _ => false

theorem bare_unanswered_vainly :
    ∃ final, (system some cluster).run vainly = some final ∧
      ⟨.task 1, .request "a" (.getChannelSockets "app" "room"),
        .responses "request" 0 (.ok [])⟩ ∈ final.log ∧
      acceptances "request" final.log = [] := by
  have reached : ((system some cluster).run vainly).any unanswered = true := by
    decide +kernel
  obtain ⟨final, same, ended⟩ := Option.any_eq_true _ _ |>.mp reached
  unfold unanswered at ended
  split at ended
  · rename_i rest whole
    have finished : ⟨.task 1, .request "a" (.getChannelSockets "app" "room"),
        .responses "request" 0 (.ok [])⟩ ∈ final.log := whole ▸ List.mem_cons_self
    obtain ⟨began, issued, _⟩ := (inv_of_reached same).results _ finished
    have bare : (RequestType.getChannelSockets "app" "room").Bare := trivial
    exact ⟨final, same, finished, (bare_unanswered same bare ⟨_, rfl, issued⟩).1⟩
  · cases ended

end Exchange

end RushSocket.Adapter.Redis
