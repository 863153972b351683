import RushSocket.Adapter.Local
import RushSocket.Adapter.Redis.Commands
import RushSocket.Transition.Calls
import RushSocket.Webhook

namespace RushSocket.Adapter.Redis.Occupancy

open Data Transition

/-! The occupancy of one non-presence channel across nodes.  A join claims the
key of the channel when its node had no subscriber; a leave that empties its
node asks every other node for its count, then deletes the key. -/

structure Cluster where
  locals : Table String LocalAdapter
  occupied : Table String String
  webhooks : List WebhookEvent

def Cluster.localOf (cluster : Cluster) (node : String) : LocalAdapter :=
  (cluster.locals.lookup node).getD .new

def Cluster.setLocal (cluster : Cluster) (node : String) (adapter : LocalAdapter) :
    Cluster :=
  { cluster with locals := cluster.locals.insert node adapter }

def Cluster.send (cluster : Cluster) (event : WebhookEvent) : Cluster :=
  { cluster with webhooks := cluster.webhooks ++ [event] }

/-- A connection task: its node and its socket. -/
@[ext] structure Caller where
  node : String
  socketId : String
  deriving DecidableEq

inductive Operation where
  | subscribe
  | unsubscribe
  deriving DecidableEq

inductive Point where
  | add
  | claim
  | sendOccupied
  | remove
  | localCount
  | ask (peers : Finset String) (remote : Nat)
  | release
  | sendVacated
  deriving DecidableEq

inductive Choice where
  | proceed
  | answer (peer : String)
  deriving DecidableEq

def enter : Operation → Point
  | .subscribe => .add
  | .unsubscribe => .remove

section

variable (nodes : Finset String) (keyPrefix appId channel : String)

/-- SETNX: set the key when it is absent, and tell whether it was. -/
def Cluster.setnx (cluster : Cluster) (key value : String) : Cluster × Bool :=
  match cluster.occupied.lookup key with
  | some _ => (cluster, false)
  | none => ({ cluster with occupied := cluster.occupied.insert key value }, true)

def Cluster.del (cluster : Cluster) (key : String) : Cluster :=
  { cluster with occupied := cluster.occupied.erase key }

def advance (cluster : Cluster) (caller : Caller) :
    Operation → Point → Choice → Option (Cluster × Progress Point Unit)
  | .subscribe, .add, .proceed =>
      let (adapter, occupied) :=
        (cluster.localOf caller.node).addToChannel appId caller.socketId channel
      some (cluster.setLocal caller.node adapter,
        if occupied then .running .claim else .finished ())
  | .subscribe, .claim, .proceed =>
      let (claimed, wasSet) :=
        cluster.setnx (occupancyKey keyPrefix appId channel) caller.node
      some (claimed, if wasSet then .running .sendOccupied else .finished ())
  | .subscribe, .sendOccupied, .proceed =>
      some (cluster.send (.channelOccupied channel), .finished ())
  | .unsubscribe, .remove, .proceed =>
      let (adapter, vacated) :=
        (cluster.localOf caller.node).removeFromChannel appId caller.socketId channel
      some (cluster.setLocal caller.node adapter,
        if vacated then .running .localCount else .finished ())
  | .unsubscribe, .localCount, .proceed =>
      some (cluster,
        if (cluster.localOf caller.node).getChannelSocketCount appId channel > 0 then
          .finished ()
        else .running (.ask (nodes.erase caller.node) 0))
  | .unsubscribe, .ask peers remote, .answer peer =>
      if peer ∈ peers then
        some (cluster, .running (.ask (peers.erase peer)
          (remote + (cluster.localOf peer).getChannelSocketCount appId channel)))
      else none
  | .unsubscribe, .ask peers remote, .proceed =>
      if peers = ∅ then
        some (cluster, if remote > 0 then .finished () else .running .release)
      else none
  | .unsubscribe, .release, .proceed =>
      some (cluster.del (occupancyKey keyPrefix appId channel), .running .sendVacated)
  | .unsubscribe, .sendVacated, .proceed =>
      some (cluster.send (.channelVacated channel), .finished ())
  | _, _, _ => none

def code : Code Cluster Caller Operation Point Choice Unit where
  enter := enter
  advance := advance nodes keyPrefix appId channel

end

abbrev State := Calls Cluster Caller Operation Point Unit
abbrev Action := CallAction Caller Operation Choice

def subscribed : List (Finished Caller Operation Unit) → Caller → Bool
  | [], _ => false
  | done :: earlier, caller =>
      if done.caller = caller then done.operation = .subscribe
      else subscribed earlier caller

/-- A connection of a node subscribes when it is not subscribed, and
unsubscribes when it is. -/
def permits (nodes : Finset String) (log : List (Finished Caller Operation Unit))
    (caller : Caller) : Operation → Bool
  | .subscribe => caller.node ∈ nodes && !subscribed log caller
  | .unsubscribe => caller.node ∈ nodes && subscribed log caller

def connected (appId : String) (connections : List Caller) : Cluster :=
  connections.foldl
    (fun cluster caller => cluster.setLocal caller.node
      ((cluster.localOf caller.node).tryAddSocket appId ⟨caller.socketId⟩ (-1)).1)
    { locals := ∅, occupied := ∅, webhooks := [] }

def system (nodes : Finset String) (keyPrefix appId channel : String)
    (connections : List Caller) : System State Action :=
  Calls.system (code nodes keyPrefix appId channel) (permits nodes)
    (connected appId connections)

section

variable (keyPrefix appId channel : String)

def subscribers (cluster : Cluster) (node : String) : Finset String :=
  ((cluster.localOf node).ns appId).channels.members channel

def HasSubscriber (cluster : Cluster) : Prop :=
  ∃ node ∈ cluster.locals.keys, (subscribers appId channel cluster node).Nonempty

def Occupied (cluster : Cluster) : Prop :=
  occupancyKey keyPrefix appId channel ∈ cluster.occupied

/-- The `channel_occupied` webhooks less the `channel_vacated` ones. -/
def webhookBalance (cluster : Cluster) : Int :=
  (cluster.webhooks.count (.channelOccupied channel) : Int) -
    cluster.webhooks.count (.channelVacated channel)

/-- The key and the webhooks say whether some node has a subscriber. -/
def Exact (cluster : Cluster) : Prop :=
  (Occupied keyPrefix appId channel cluster ↔ HasSubscriber appId channel cluster) ∧
    (HasSubscriber appId channel cluster → webhookBalance channel cluster = 1) ∧
    (¬ HasSubscriber appId channel cluster → webhookBalance channel cluster = 0)

def claims (call : Operation × Point) : Bool := call = (.subscribe, .claim)

/-- Some join has still to claim the key. -/
def Claiming (state : State) : Prop :=
  ∃ caller ∈ state.calls.keys, (state.calls.lookup caller).any claims = true

def releases (call : Operation × Point) : Bool := call = (.unsubscribe, .release)

/-- The key is deleted only while it exists, and only while no node has a
subscriber or some join has still to claim it. -/
def ReleasesVacant (state : State) : Action → Prop
  | .begin _ _ => True
  | .advance caller _ =>
      (state.calls.lookup caller).any releases = true →
        Occupied keyPrefix appId channel state.shared ∧
          (¬ HasSubscriber appId channel state.shared ∨ Claiming state)

/-! The invariant. -/

/-- Whether a connection is in the channel of its node: a call in progress may
have changed that before the log records it. -/
def standing (logged : Bool) : Option (Operation × Point) → Bool
  | some (.subscribe, .claim) | some (.subscribe, .sendOccupied) => true
  | some (.unsubscribe, .localCount) | some (.unsubscribe, .ask _ _)
  | some (.unsubscribe, .release) | some (.unsubscribe, .sendVacated) => false
  | _ => logged

def seesNone : Operation × Point → Bool
  | (.unsubscribe, .localCount) => true
  | (.unsubscribe, .ask _ remote) => remote = 0
  | (.unsubscribe, .release) => true
  | _ => false

def sendsOccupied (call : Operation × Point) : Bool :=
  call = (.subscribe, .sendOccupied)

def sendsVacated (call : Operation × Point) : Bool :=
  call = (.unsubscribe, .sendVacated)

def ofBool (holds : Prop) [Decidable holds] : Int := if holds then 1 else 0

instance (cluster : Cluster) : Decidable (Occupied keyPrefix appId channel cluster) :=
  inferInstanceAs (Decidable (_ ∈ cluster.occupied))

structure Inv (state : State) : Prop where
  held : ∀ caller, caller.socketId ∈
      subscribers appId channel state.shared caller.node ↔
    standing (subscribed state.log caller) (state.calls.lookup caller) = true
  permitted : ∀ caller operation point,
    state.calls.lookup caller = some (operation, point) →
      subscribed state.log caller = decide (operation = .unsubscribe)
  named : ∀ node socketId conn,
    ((state.shared.localOf node).ns appId).sockets.lookup socketId = some conn →
      conn.socketId = socketId
  claimed : HasSubscriber appId channel state.shared →
    Occupied keyPrefix appId channel state.shared ∨
      ∃ caller, (state.calls.lookup caller).any claims = true
  released : Occupied keyPrefix appId channel state.shared →
    HasSubscriber appId channel state.shared ∨
      ∃ caller, (state.calls.lookup caller).any seesNone = true
  balanced : webhookBalance channel state.shared +
      (state.calls.count sendsOccupied : Int) - state.calls.count sendsVacated =
    ofBool (Occupied keyPrefix appId channel state.shared)

variable {keyPrefix appId channel}
variable {state : State} {caller : Caller} {operation : Operation} {point : Point}
  {cluster : Cluster} {progress : Progress Point Unit}

theorem localOf_setLocal (node other : String) (adapter : LocalAdapter) :
    (cluster.setLocal node adapter).localOf other =
      if other = node then adapter else cluster.localOf other := by
  rw [Cluster.localOf, Cluster.setLocal, Table.lookup_put]
  by_cases same : other = node
  · simp [same]
  · simp [same, Cluster.localOf]

theorem hasSubscriber_iff :
    HasSubscriber appId channel cluster ↔
      ∃ node socketId, socketId ∈ subscribers appId channel cluster node := by
  constructor
  · rintro ⟨node, _, socketId, member⟩
    exact ⟨node, socketId, member⟩
  · rintro ⟨node, socketId, member⟩
    refine ⟨node, ?_, socketId, member⟩
    rw [Table.mem_keys_iff]
    cases found : cluster.locals.lookup node with
    | none =>
        simp [subscribers, Cluster.localOf, found, LocalAdapter.new, LocalAdapter.ns,
          Namespace.new] at member
    | some adapter => exact ⟨adapter, rfl⟩

theorem subscribed_settle_self :
    subscribed (state.settle caller operation cluster progress).log caller =
      match progress with
      | .running _ => subscribed state.log caller
      | .finished _ => decide (operation = .subscribe) := by
  cases progress with
  | running point => rfl
  | finished result => simp [Calls.settle, subscribed]

theorem subscribed_settle_other {other : Caller} (different : other ≠ caller) :
    subscribed (state.settle caller operation cluster progress).log other =
      subscribed state.log other := by
  cases progress with
  | running point => rfl
  | finished result => simp [Calls.settle, subscribed, Ne.symm different]

theorem Inv.settle (inv : Inv keyPrefix appId channel state)
    (found : state.calls.lookup caller = some (operation, point))
    (own : caller.socketId ∈ subscribers appId channel cluster caller.node ↔
      standing (match progress with
        | .running _ => subscribed state.log caller
        | .finished _ => decide (operation = .subscribe))
        (progress.call operation) = true)
    (others : ∀ other : Caller, other ≠ caller →
      (other.socketId ∈ subscribers appId channel cluster other.node ↔
        other.socketId ∈ subscribers appId channel state.shared other.node))
    (named : ∀ node socketId conn,
      ((cluster.localOf node).ns appId).sockets.lookup socketId = some conn →
        conn.socketId = socketId)
    (claimed : HasSubscriber appId channel cluster →
      Occupied keyPrefix appId channel cluster ∨
        (progress.call operation).any claims = true ∨
        ∃ other, other ≠ caller ∧ (state.calls.lookup other).any claims = true)
    (released : Occupied keyPrefix appId channel cluster →
      HasSubscriber appId channel cluster ∨
        (progress.call operation).any seesNone = true ∨
        ∃ other, other ≠ caller ∧ (state.calls.lookup other).any seesNone = true)
    (balanced : webhookBalance channel cluster -
        ofBool (Occupied keyPrefix appId channel cluster) +
        ofBool ((progress.call operation).any sendsOccupied = true) -
        ofBool ((progress.call operation).any sendsVacated = true) =
      webhookBalance channel state.shared -
        ofBool (Occupied keyPrefix appId channel state.shared) +
        ofBool (sendsOccupied (operation, point) = true) -
        ofBool (sendsVacated (operation, point) = true)) :
    Inv keyPrefix appId channel (state.settle caller operation cluster progress) where
  held := by
    intro other
    rw [Calls.settle_shared, Calls.lookup_settle]
    by_cases same : other = caller
    · subst same
      rw [if_pos rfl, subscribed_settle_self]
      exact own
    · rw [if_neg same, subscribed_settle_other same, others other same]
      exact inv.held other
  permitted := by
    intro other their at_ calling
    rw [Calls.lookup_settle] at calling
    by_cases same : other = caller
    · subst same
      rw [if_pos rfl] at calling
      cases progress with
      | running next =>
          cases calling
          exact inv.permitted other operation point found
      | finished returned => cases calling
    · rw [if_neg same] at calling
      rw [subscribed_settle_other same]
      exact inv.permitted other their at_ calling
  named := by
    rw [Calls.settle_shared]
    exact named
  claimed := by
    rw [Calls.settle_shared]
    intro subscriber
    rcases claimed subscriber with occupied | mine | ⟨other, different, theirs⟩
    · exact .inl occupied
    · exact .inr ⟨caller, by rw [Calls.lookup_settle, if_pos rfl, mine]⟩
    · exact .inr ⟨other, by rw [Calls.lookup_settle, if_neg different, theirs]⟩
  released := by
    rw [Calls.settle_shared]
    intro occupied
    rcases released occupied with subscriber | mine | ⟨other, different, theirs⟩
    · exact .inl subscriber
    · exact .inr ⟨caller, by rw [Calls.lookup_settle, if_pos rfl, mine]⟩
    · exact .inr ⟨other, by rw [Calls.lookup_settle, if_neg different, theirs]⟩
  balanced := by
    have before := inv.balanced
    rw [Table.count_drop state.calls caller sendsOccupied,
      Table.count_drop state.calls caller sendsVacated, found] at before
    rw [Calls.settle_shared, Calls.count_settle, Calls.count_settle]
    simp only [Option.any_some, ofBool] at before balanced ⊢
    push_cast at before ⊢
    omega

theorem Inv.claimedElsewhere (inv : Inv keyPrefix appId channel state)
    (found : state.calls.lookup caller = some (operation, point))
    (subscriber : HasSubscriber appId channel state.shared) :
    Occupied keyPrefix appId channel state.shared ∨ claims (operation, point) = true ∨
      ∃ other, other ≠ caller ∧ (state.calls.lookup other).any claims = true := by
  rcases inv.claimed subscriber with occupied | claiming
  · exact .inl occupied
  · exact .inr (Calls.exists_own_or_other found
      (fun call => call.any claims = true) claiming)

theorem Inv.releasedElsewhere (inv : Inv keyPrefix appId channel state)
    (found : state.calls.lookup caller = some (operation, point))
    (occupied : Occupied keyPrefix appId channel state.shared) :
    HasSubscriber appId channel state.shared ∨ seesNone (operation, point) = true ∨
      ∃ other, other ≠ caller ∧ (state.calls.lookup other).any seesNone = true := by
  rcases inv.released occupied with subscriber | releasing
  · exact .inl subscriber
  · exact .inr (Calls.exists_own_or_other found
      (fun call => call.any seesNone = true) releasing)

/-! One lemma for each point of the two calls. -/

theorem ofBool_pos {holds : Prop} [Decidable holds] (yes : holds) :
    ofBool holds = 1 :=
  if_pos yes

theorem ofBool_neg {holds : Prop} [Decidable holds] (no : ¬ holds) :
    ofBool holds = 0 :=
  if_neg no

theorem webhookBalance_sendOccupied :
    webhookBalance channel (cluster.send (.channelOccupied channel)) =
      webhookBalance channel cluster + 1 := by
  have distinct : WebhookEvent.channelOccupied channel ≠
      WebhookEvent.channelVacated channel := by
    simp [WebhookEvent.channelOccupied, WebhookEvent.channelVacated]
  simp only [webhookBalance, Cluster.send, List.count_append,
    List.count_singleton_self, List.count_singleton, beq_iff_eq, if_neg distinct]
  omega

theorem webhookBalance_sendVacated :
    webhookBalance channel (cluster.send (.channelVacated channel)) =
      webhookBalance channel cluster - 1 := by
  have distinct : WebhookEvent.channelVacated channel ≠
      WebhookEvent.channelOccupied channel := by
    simp [WebhookEvent.channelOccupied, WebhookEvent.channelVacated]
  simp only [webhookBalance, Cluster.send, List.count_append,
    List.count_singleton_self, List.count_singleton, beq_iff_eq, if_neg distinct]
  omega

theorem subscribers_setLocal (node other : String) (adapter : LocalAdapter) :
    subscribers appId channel (cluster.setLocal node adapter) other =
      if other = node then (adapter.ns appId).channels.members channel
      else subscribers appId channel cluster other := by
  unfold subscribers
  rw [localOf_setLocal]
  split <;> rfl

theorem Inv.held_call (inv : Inv keyPrefix appId channel state)
    (found : state.calls.lookup caller = some (operation, point)) :
    caller.socketId ∈ subscribers appId channel state.shared caller.node ↔
      standing (decide (operation = .unsubscribe)) (some (operation, point)) =
        true := by
  rw [inv.held caller, found, inv.permitted caller operation point found]

/-- A step that leaves every node alone. -/
theorem Inv.keep (inv : Inv keyPrefix appId channel state)
    (found : state.calls.lookup caller = some (operation, point))
    (locals : cluster.locals = state.shared.locals)
    (own : standing (decide (operation = .unsubscribe)) (some (operation, point)) =
      standing (match progress with
        | .running _ => decide (operation = .unsubscribe)
        | .finished _ => decide (operation = .subscribe))
        (progress.call operation))
    (claimed : HasSubscriber appId channel state.shared →
      Occupied keyPrefix appId channel cluster ∨
        (progress.call operation).any claims = true ∨
        ∃ other, other ≠ caller ∧ (state.calls.lookup other).any claims = true)
    (released : Occupied keyPrefix appId channel cluster →
      HasSubscriber appId channel state.shared ∨
        (progress.call operation).any seesNone = true ∨
        ∃ other, other ≠ caller ∧ (state.calls.lookup other).any seesNone = true)
    (balanced : webhookBalance channel cluster -
        ofBool (Occupied keyPrefix appId channel cluster) +
        ofBool ((progress.call operation).any sendsOccupied = true) -
        ofBool ((progress.call operation).any sendsVacated = true) =
      webhookBalance channel state.shared -
        ofBool (Occupied keyPrefix appId channel state.shared) +
        ofBool (sendsOccupied (operation, point) = true) -
        ofBool (sendsVacated (operation, point) = true)) :
    Inv keyPrefix appId channel (state.settle caller operation cluster progress) := by
  have sameLocal : ∀ node, cluster.localOf node = state.shared.localOf node := by
    intro node
    rw [Cluster.localOf, locals, Cluster.localOf]
  have sameSubscribers : ∀ node, subscribers appId channel cluster node =
      subscribers appId channel state.shared node := by
    intro node
    rw [subscribers, sameLocal, subscribers]
  have sameHas : HasSubscriber appId channel cluster ↔
      HasSubscriber appId channel state.shared := by
    simp only [hasSubscriber_iff, sameSubscribers]
  refine inv.settle found ?_ ?_ ?_ ?_ ?_ balanced
  · rw [sameSubscribers, inv.held_call found, own,
      inv.permitted caller operation point found]
  · intro other _
    rw [sameSubscribers]
  · intro node
    rw [sameLocal]
    exact inv.named node
  · exact fun subscriber => claimed (sameHas.mp subscriber)
  · intro occupied
    rw [sameHas]
    exact released occupied

theorem Inv.add (inv : Inv keyPrefix appId channel state)
    (found : state.calls.lookup caller = some (.subscribe, .add)) :
    Inv keyPrefix appId channel
      (state.settle caller .subscribe
        (state.shared.setLocal caller.node
          ((state.shared.localOf caller.node).addToChannel appId caller.socketId
            channel).1)
        (if ((state.shared.localOf caller.node).addToChannel appId caller.socketId
            channel).2 then .running .claim else .finished ())) := by
  have sameId : ((state.shared.localOf caller.node).ns appId).findSocketId
      caller.socketId = caller.socketId := by
    unfold Namespace.findSocketId
    cases registered : ((state.shared.localOf caller.node).ns appId).sockets.lookup
        caller.socketId with
    | none => rfl
    | some conn => exact inv.named caller.node caller.socketId conn registered
  have joined : ∀ node, subscribers appId channel
      (state.shared.setLocal caller.node
        ((state.shared.localOf caller.node).addToChannel appId caller.socketId
          channel).1) node =
      if node = caller.node then
        insert caller.socketId (subscribers appId channel state.shared node)
      else subscribers appId channel state.shared node := by
    intro node
    rw [subscribers_setLocal]
    by_cases same : node = caller.node
    · rw [if_pos same, if_pos same, LocalAdapter.ns_addToChannel, if_pos rfl,
        Namespace.members_addToChannel, if_pos rfl, sameId, same]
      rfl
    · rw [if_neg same, if_neg same]
  have first : ((state.shared.localOf caller.node).addToChannel appId
      caller.socketId channel).2 = true ↔
      subscribers appId channel state.shared caller.node = ∅ :=
    Namespace.addToChannel_snd _ caller.socketId channel
  have member := joined caller.node
  rw [if_pos rfl] at member
  refine inv.settle found ?_ ?_ ?_ ?_ ?_ ?_
  · rw [member]
    refine iff_of_true (Finset.mem_insert_self _ _) ?_
    cases ((state.shared.localOf caller.node).addToChannel appId caller.socketId
      channel).2 <;> rfl
  · intro other different
    rw [joined other.node]
    split
    · rename_i sameNode
      rw [Finset.mem_insert, or_iff_right]
      intro sameSocket
      exact different (Caller.ext sameNode sameSocket)
    · rfl
  · intro node socketId conn
    rw [localOf_setLocal]
    by_cases same : node = caller.node
    · rw [if_pos same, LocalAdapter.ns_addToChannel, if_pos rfl]
      exact inv.named caller.node socketId conn
    · rw [if_neg same]
      exact inv.named node socketId conn
  · intro _
    by_cases wasEmpty : subscribers appId channel state.shared caller.node = ∅
    · rw [if_pos (first.mpr wasEmpty)]
      exact .inr (.inl rfl)
    · obtain ⟨socketId, earlier⟩ := Finset.nonempty_iff_ne_empty.mpr wasEmpty
      have subscriber := hasSubscriber_iff.mpr ⟨caller.node, socketId, earlier⟩
      rcases inv.claimedElsewhere found subscriber with occupied | mine | theirs
      · exact .inl occupied
      · cases mine
      · exact .inr (.inr theirs)
  · intro _
    refine .inl (hasSubscriber_iff.mpr ⟨caller.node, caller.socketId, ?_⟩)
    rw [member]
    exact Finset.mem_insert_self _ _
  · split <;> rfl

theorem Inv.claim (inv : Inv keyPrefix appId channel state)
    (found : state.calls.lookup caller = some (.subscribe, .claim)) :
    Inv keyPrefix appId channel
      (state.settle caller .subscribe
        (state.shared.setnx (occupancyKey keyPrefix appId channel) caller.node).1
        (if (state.shared.setnx (occupancyKey keyPrefix appId channel)
            caller.node).2 then .running .sendOccupied else .finished ())) := by
  cases taken : state.shared.occupied.lookup
      (occupancyKey keyPrefix appId channel) with
  | some owner =>
      have occupied : Occupied keyPrefix appId channel state.shared :=
        Finmap.mem_iff.mpr ⟨owner, taken⟩
      simp only [Cluster.setnx, taken, Bool.false_eq_true, if_false]
      refine inv.keep found rfl rfl (fun _ => .inl occupied) ?_ rfl
      intro _
      rcases inv.releasedElsewhere found occupied with subscriber | mine | theirs
      · exact .inl subscriber
      · cases mine
      · exact .inr (.inr theirs)
  | none =>
      have free : ¬ Occupied keyPrefix appId channel state.shared := by
        rw [Occupied, Finmap.mem_iff, taken]
        rintro ⟨owner, present⟩
        cases present
      have held : caller.socketId ∈
          subscribers appId channel state.shared caller.node :=
        (inv.held_call found).mpr rfl
      simp only [Cluster.setnx, taken, if_true]
      have occupied : Occupied keyPrefix appId channel
          { state.shared with
            occupied := state.shared.occupied.insert
              (occupancyKey keyPrefix appId channel) caller.node } :=
        Finmap.mem_insert.mpr (.inl rfl)
      refine inv.keep found rfl rfl (fun _ => .inl occupied)
        (fun _ => .inl (hasSubscriber_iff.mpr ⟨_, _, held⟩)) ?_
      rw [ofBool_pos occupied, ofBool_neg free]
      change webhookBalance channel state.shared - 1 + 1 - 0 =
        webhookBalance channel state.shared - 0 + 0 - 0
      omega

theorem Inv.sendOccupied (inv : Inv keyPrefix appId channel state)
    (found : state.calls.lookup caller = some (.subscribe, .sendOccupied)) :
    Inv keyPrefix appId channel
      (state.settle caller .subscribe
        (state.shared.send (.channelOccupied channel)) (.finished ())) := by
  refine inv.keep found rfl rfl ?_ ?_ ?_
  · intro subscriber
    rcases inv.claimedElsewhere found subscriber with occupied | mine | theirs
    · exact .inl occupied
    · cases mine
    · exact .inr (.inr theirs)
  · intro occupied
    rcases inv.releasedElsewhere found occupied with subscriber | mine | theirs
    · exact .inl subscriber
    · cases mine
    · exact .inr (.inr theirs)
  · rw [webhookBalance_sendOccupied]
    change webhookBalance channel state.shared + 1 -
        ofBool (Occupied keyPrefix appId channel state.shared) + 0 - 0 =
      webhookBalance channel state.shared -
        ofBool (Occupied keyPrefix appId channel state.shared) + 1 - 0
    omega

theorem Inv.remove (inv : Inv keyPrefix appId channel state)
    (found : state.calls.lookup caller = some (.unsubscribe, .remove)) :
    Inv keyPrefix appId channel
      (state.settle caller .unsubscribe
        (state.shared.setLocal caller.node
          ((state.shared.localOf caller.node).removeFromChannel appId
            caller.socketId channel).1)
        (if ((state.shared.localOf caller.node).removeFromChannel appId
            caller.socketId channel).2 then .running .localCount
          else .finished ())) := by
  have member : caller.socketId ∈
      subscribers appId channel state.shared caller.node :=
    (inv.held_call found).mpr rfl
  have left : ∀ node, subscribers appId channel
      (state.shared.setLocal caller.node
        ((state.shared.localOf caller.node).removeFromChannel appId caller.socketId
          channel).1) node =
      if node = caller.node then
        (subscribers appId channel state.shared node).erase caller.socketId
      else subscribers appId channel state.shared node := by
    intro node
    rw [subscribers_setLocal]
    by_cases same : node = caller.node
    · rw [if_pos same, if_pos same, (LocalAdapter.ns_removeFromChannel _ _ _ _ _).1,
        if_pos rfl, Namespace.members_removeFromChannel, Table.members_discard,
        if_pos rfl, same]
      rfl
    · rw [if_neg same, if_neg same]
  have last : ((state.shared.localOf caller.node).removeFromChannel appId
      caller.socketId channel).2 = true ↔
      (subscribers appId channel state.shared caller.node).erase caller.socketId =
        ∅ := by
    rw [(LocalAdapter.ns_removeFromChannel _ appId caller.socketId channel appId).2]
    exact Namespace.removeFromChannel_snd _ member
  have own := left caller.node
  rw [if_pos rfl] at own
  refine inv.settle found ?_ ?_ ?_ ?_ ?_ ?_
  · rw [own]
    refine iff_of_false (Finset.notMem_erase _ _) ?_
    cases ((state.shared.localOf caller.node).removeFromChannel appId
      caller.socketId channel).2 <;> exact Bool.false_ne_true
  · intro other different
    rw [left other.node]
    split
    · rename_i sameNode
      rw [Finset.mem_erase, and_iff_right]
      exact fun sameSocket => different (Caller.ext sameNode sameSocket)
    · rfl
  · intro node socketId conn
    rw [localOf_setLocal]
    by_cases same : node = caller.node
    · rw [if_pos same, (LocalAdapter.ns_removeFromChannel _ _ _ _ _).1, if_pos rfl,
        Namespace.sockets_removeFromChannel]
      exact inv.named caller.node socketId conn
    · rw [if_neg same]
      exact inv.named node socketId conn
  · intro still
    obtain ⟨node, socketId, remaining⟩ := hasSubscriber_iff.mp still
    have before : HasSubscriber appId channel state.shared := by
      refine hasSubscriber_iff.mpr ⟨node, socketId, ?_⟩
      rw [left] at remaining
      split at remaining
      · exact Finset.mem_of_mem_erase remaining
      · exact remaining
    rcases inv.claimedElsewhere found before with occupied | mine | theirs
    · exact .inl occupied
    · cases mine
    · exact .inr (.inr theirs)
  · intro _
    by_cases vacated : (subscribers appId channel state.shared caller.node).erase
        caller.socketId = ∅
    · rw [if_pos (last.mpr vacated)]
      exact .inr (.inl rfl)
    · obtain ⟨socketId, remaining⟩ := Finset.nonempty_iff_ne_empty.mpr vacated
      refine .inl (hasSubscriber_iff.mpr ⟨caller.node, socketId, ?_⟩)
      rw [own]
      exact remaining
  · split <;> rfl

theorem getChannelSocketCount_pos {node : String}
    (positive : 0 < (cluster.localOf node).getChannelSocketCount appId channel) :
    HasSubscriber appId channel cluster := by
  rw [LocalAdapter.getChannelSocketCount_eq] at positive
  obtain ⟨socketId, member⟩ := Finset.card_pos.mp positive
  exact hasSubscriber_iff.mpr ⟨node, socketId, member⟩

theorem Inv.look (inv : Inv keyPrefix appId channel state)
    (found : state.calls.lookup caller = some (.unsubscribe, point))
    (left : standing true (some (.unsubscribe, point)) = false)
    (leaves : ∀ logged, standing logged (progress.call .unsubscribe) =
      match progress with
      | .running _ => false
      | .finished _ => logged)
    (notSending : sendsVacated (.unsubscribe, point) =
      (progress.call .unsubscribe).any sendsVacated)
    (sees : seesNone (.unsubscribe, point) = true →
      HasSubscriber appId channel state.shared ∨
        (progress.call .unsubscribe).any seesNone = true) :
    Inv keyPrefix appId channel
      (state.settle caller .unsubscribe state.shared progress) := by
  refine inv.keep found rfl ?_ ?_ ?_ ?_
  · rw [leaves]
    cases progress with
    | running next => exact left
    | finished returned => exact left
  · intro subscriber
    rcases inv.claimedElsewhere found subscriber with occupied | mine | theirs
    · exact .inl occupied
    · cases mine
    · exact .inr (.inr theirs)
  · intro occupied
    rcases inv.releasedElsewhere found occupied with subscriber | mine | theirs
    · exact .inl subscriber
    · rcases sees mine with subscriber | still
      · exact .inl subscriber
      · exact .inr (.inl still)
    · exact .inr (.inr theirs)
  · rw [notSending]
    cases progress <;> rfl

theorem Inv.release (inv : Inv keyPrefix appId channel state)
    (found : state.calls.lookup caller = some (.unsubscribe, .release))
    (occupied : Occupied keyPrefix appId channel state.shared)
    (vacant : ¬ HasSubscriber appId channel state.shared ∨ Claiming state) :
    Inv keyPrefix appId channel
      (state.settle caller .unsubscribe
        (state.shared.del (occupancyKey keyPrefix appId channel))
        (.running .sendVacated)) := by
  have free : ¬ Occupied keyPrefix appId channel
      (state.shared.del (occupancyKey keyPrefix appId channel)) :=
    fun present => (Finmap.mem_erase.mp present).1 rfl
  refine inv.keep found rfl rfl ?_ (fun present => absurd present free) ?_
  · intro subscriber
    rcases vacant with none_ | ⟨claimer, _, claiming⟩
    · exact absurd subscriber none_
    · refine .inr (.inr ⟨claimer, ?_, claiming⟩)
      rintro rfl
      rw [found] at claiming
      cases claiming
  · rw [ofBool_neg free, ofBool_pos occupied]
    change webhookBalance channel state.shared - 0 + 0 - 1 =
      webhookBalance channel state.shared - 1 + 0 - 0
    omega

theorem Inv.sendVacated (inv : Inv keyPrefix appId channel state)
    (found : state.calls.lookup caller = some (.unsubscribe, .sendVacated)) :
    Inv keyPrefix appId channel
      (state.settle caller .unsubscribe
        (state.shared.send (.channelVacated channel)) (.finished ())) := by
  refine inv.keep found rfl rfl ?_ ?_ ?_
  · intro subscriber
    rcases inv.claimedElsewhere found subscriber with occupied | mine | theirs
    · exact .inl occupied
    · cases mine
    · exact .inr (.inr theirs)
  · intro occupied
    rcases inv.releasedElsewhere found occupied with subscriber | mine | theirs
    · exact .inl subscriber
    · cases mine
    · exact .inr (.inr theirs)
  · rw [webhookBalance_sendVacated]
    change webhookBalance channel state.shared - 1 -
        ofBool (Occupied keyPrefix appId channel state.shared) + 0 - 0 =
      webhookBalance channel state.shared -
        ofBool (Occupied keyPrefix appId channel state.shared) + 0 - 1
    omega

theorem Inv.advance {nodes : Finset String} {choice : Choice}
    (inv : Inv keyPrefix appId channel state)
    (found : state.calls.lookup caller = some (operation, point))
    (spared : ReleasesVacant keyPrefix appId channel state (.advance caller choice))
    (advanced : Occupancy.advance nodes keyPrefix appId channel state.shared caller
      operation point choice = some (cluster, progress)) :
    Inv keyPrefix appId channel (state.settle caller operation cluster progress) := by
  unfold Occupancy.advance at advanced
  split at advanced
  · cases advanced
    exact inv.add found
  · cases advanced
    exact inv.claim found
  · cases advanced
    exact inv.sendOccupied found
  · cases advanced
    exact inv.remove found
  · cases advanced
    split
    · rename_i positive
      exact inv.look found rfl (fun _ => rfl) rfl
        fun _ => .inl (getChannelSocketCount_pos positive)
    · exact inv.look found rfl (fun _ => rfl) rfl fun _ => .inr rfl
  · rename_i peers remote peer
    split at advanced <;> cases advanced
    refine inv.look found rfl (fun _ => rfl) rfl fun none_ => ?_
    have noneSoFar : remote = 0 := of_decide_eq_true none_
    rcases Nat.eq_zero_or_pos
        ((state.shared.localOf peer).getChannelSocketCount appId channel) with
      zero | positive
    · refine .inr ?_
      rw [noneSoFar, zero]
      rfl
    · exact .inl (getChannelSocketCount_pos positive)
  · rename_i peers remote
    split at advanced <;> cases advanced
    split
    · rename_i positive
      refine inv.look found rfl (fun _ => rfl) rfl fun none_ => ?_
      have noneSoFar : remote = 0 := of_decide_eq_true none_
      omega
    · exact inv.look found rfl (fun _ => rfl) rfl fun _ => .inr rfl
  · cases advanced
    have releasing : (state.calls.lookup caller).any releases = true := by
      rw [found]
      rfl
    obtain ⟨occupied, vacant⟩ := spared releasing
    exact inv.release found occupied vacant
  · cases advanced
    exact inv.sendVacated found
  · cases advanced

theorem Inv.begin {nodes : Finset String} (inv : Inv keyPrefix appId channel state)
    (absent : state.calls.lookup caller = none)
    (permitted : permits nodes state.log caller operation = true) :
    Inv keyPrefix appId channel
      { state with
        calls := state.calls.insert caller (operation, enter operation) } where
  held := by
    intro other
    rw [inv.held other, Table.lookup_put]
    by_cases same : other = caller
    · rw [if_pos same, same, absent]
      cases operation <;> rfl
    · rw [if_neg same]
  permitted := by
    intro other their point calling
    rw [Table.lookup_put] at calling
    split at calling
    · rename_i same
      cases calling
      rw [same]
      cases operation with
      | subscribe =>
          simp only [permits, Bool.and_eq_true, Bool.not_eq_true'] at permitted
          exact permitted.2
      | unsubscribe =>
          simp only [permits, Bool.and_eq_true] at permitted
          exact permitted.2
    · exact inv.permitted other their point calling
  named := inv.named
  claimed := by
    intro subscriber
    rcases inv.claimed subscriber with occupied | claiming
    · exact .inl occupied
    · exact .inr (Calls.exists_begun absent
        (fun call => call.any claims = true) Bool.false_ne_true claiming)
  released := by
    intro occupied
    rcases inv.released occupied with subscriber | releasing
    · exact .inl subscriber
    · exact .inr (Calls.exists_begun absent
        (fun call => call.any seesNone = true) Bool.false_ne_true releasing)
  balanced := by
    have before := inv.balanced
    rw [Table.count_drop state.calls caller sendsOccupied,
      Table.count_drop state.calls caller sendsVacated, absent] at before
    rw [Table.count_put, Table.count_put]
    cases operation with
    | subscribe => exact before
    | unsubscribe => exact before

/-- No node has a subscriber and the sockets are registered by name. -/
structure Fresh (appId : String) (cluster : Cluster) : Prop where
  occupied : cluster.occupied = ∅
  webhooks : cluster.webhooks = []
  channels : ∀ node, ((cluster.localOf node).ns appId).channels = ∅
  named : ∀ node socketId conn,
    ((cluster.localOf node).ns appId).sockets.lookup socketId = some conn →
      conn.socketId = socketId

theorem Fresh.connect {fresh : Cluster} (before : Fresh appId fresh)
    (connection : Caller) :
    Fresh appId (fresh.setLocal connection.node
      ((fresh.localOf connection.node).tryAddSocket appId
        ⟨connection.socketId⟩ (-1)).1) where
  occupied := before.occupied
  webhooks := before.webhooks
  channels := by
    intro node
    rw [localOf_setLocal]
    split
    · rw [LocalAdapter.tryAddSocket, LocalAdapter.ns_createWith, if_pos rfl]
      exact before.channels connection.node
    · exact before.channels node
  named := by
    intro node socketId conn registered
    rw [localOf_setLocal] at registered
    split at registered
    · rw [LocalAdapter.tryAddSocket, LocalAdapter.ns_createWith, if_pos rfl]
        at registered
      change Finmap.lookup socketId (Finmap.insert _ _ _) = _ at registered
      rw [Table.lookup_put] at registered
      split at registered
      · rename_i same
        cases registered
        exact same.symm
      · exact before.named connection.node socketId conn registered
    · exact before.named node socketId conn registered

theorem fresh_connected (appId : String) (connections : List Caller) :
    Fresh appId (connected appId connections) := by
  have general : ∀ (rest : List Caller) (cluster : Cluster), Fresh appId cluster →
      Fresh appId (rest.foldl (fun cluster caller => cluster.setLocal caller.node
        ((cluster.localOf caller.node).tryAddSocket appId
          ⟨caller.socketId⟩ (-1)).1) cluster) := by
    intro rest
    induction rest with
    | nil => exact fun cluster fresh => fresh
    | cons connection rest induction =>
        exact fun cluster fresh => induction _ (fresh.connect connection)
  refine general connections _ ⟨rfl, rfl, fun node => rfl, ?_⟩
  intro node socketId conn registered
  cases registered

theorem Inv.start (fresh : Fresh appId cluster) :
    Inv keyPrefix appId channel { shared := cluster, calls := ∅, log := [] } := by
  have none_ : ∀ node, subscribers appId channel cluster node = ∅ := by
    intro node
    rw [subscribers, fresh.channels]
    rfl
  have free : ¬ Occupied keyPrefix appId channel cluster := by
    rw [Occupied, fresh.occupied]
    exact Finmap.notMem_empty
  refine ⟨?_, ?_, fresh.named, ?_, fun occupied => absurd occupied free, ?_⟩
  · intro caller
    rw [none_]
    exact iff_of_false (Finset.notMem_empty _) Bool.false_ne_true
  · intro caller operation point calling
    cases calling
  · intro subscriber
    obtain ⟨node, socketId, member⟩ := hasSubscriber_iff.mp subscriber
    rw [none_] at member
    exact absurd member (Finset.notMem_empty _)
  · rw [ofBool_neg free, webhookBalance, fresh.webhooks]
    rfl

theorem Inv.exact (inv : Inv keyPrefix appId channel state) (quiet : state.Quiet) :
    Exact keyPrefix appId channel state.shared := by
  have same : Occupied keyPrefix appId channel state.shared ↔
      HasSubscriber appId channel state.shared := by
    constructor
    · intro occupied
      rcases inv.released occupied with subscriber | ⟨other, releasing⟩
      · exact subscriber
      · rw [quiet.lookup] at releasing
        cases releasing
    · intro subscriber
      rcases inv.claimed subscriber with occupied | ⟨other, claiming⟩
      · exact occupied
      · rw [quiet.lookup] at claiming
        cases claiming
  have balanced := inv.balanced
  rw [quiet] at balanced
  simp only [Table.count_empty, Nat.cast_zero, add_zero, sub_zero] at balanced
  refine ⟨same, fun subscriber => ?_, fun vacant => ?_⟩
  · rw [balanced, ofBool_pos (same.mpr subscriber)]
  · rw [balanced, ofBool_neg (mt same.mp vacant)]

end

/-- In every interleaving in which no leave deletes the key under a subscriber,
the key and the webhooks follow the occupancy of the cluster. -/
theorem occupancy_exact (nodes : Finset String) (keyPrefix appId channel : String)
    (connections : List Caller) (actions : List Action) (final : State)
    (reached : (system nodes keyPrefix appId channel connections).run actions =
      some final)
    (guarded : (system nodes keyPrefix appId channel connections).Guarded
      (ReleasesVacant keyPrefix appId channel) actions)
    (quiet : final.Quiet) :
    Exact keyPrefix appId channel final.shared := by
  have inv : Inv keyPrefix appId channel final := by
    refine Calls.invariant ?_ ?_ ?_ reached guarded
    · exact Inv.start (fresh_connected appId connections)
    · exact fun inv absent permitted => inv.begin absent permitted
    · exact fun inv found spared advanced => inv.advance found spared advanced
  exact inv.exact quiet

instance (appId channel : String) (cluster : Cluster) :
    Decidable (HasSubscriber appId channel cluster) :=
  inferInstanceAs (Decidable (∃ node ∈ cluster.locals.keys,
    (subscribers appId channel cluster node).Nonempty))

instance (state : State) : Decidable (Claiming state) :=
  inferInstanceAs (Decidable (∃ caller ∈ state.calls.keys,
    (state.calls.lookup caller).any claims = true))

instance (keyPrefix appId channel : String) (state : State) :
    (action : Action) → Decidable (ReleasesVacant keyPrefix appId channel state action)
  | .begin _ _ => .isTrue trivial
  | .advance _ _ => inferInstanceAs (Decidable (_ → _))

instance (keyPrefix appId channel : String) (cluster : Cluster) :
    Decidable (Exact keyPrefix appId channel cluster) :=
  inferInstanceAs (Decidable (_ ∧ _))

def leaver : Caller := ⟨"node-a", "1.1"⟩

def joiner : Caller := ⟨"node-b", "2.2"⟩

def serial : List Action :=
  [.begin leaver .subscribe] ++ List.replicate 3 (.advance leaver .proceed) ++
  [.begin leaver .unsubscribe, .advance leaver .proceed, .advance leaver .proceed,
    .advance leaver (.answer "node-b")] ++
    List.replicate 3 (.advance leaver .proceed) ++
  [.begin joiner .subscribe] ++ List.replicate 3 (.advance joiner .proceed)

theorem occupancy_exact_serial :
    ∃ final,
      (system {"node-a", "node-b"} "rushsocket" "app" "room" [leaver, joiner]).run
          serial = some final ∧
        Exact "rushsocket" "app" "room" final.shared :=
  ⟨_, rfl, occupancy_exact {"node-a", "node-b"} "rushsocket" "app" "room"
    [leaver, joiner] serial _ rfl (by decide) rfl⟩

/-- The second node joins between the answer it gives and the deletion: its
claim fails because the key is still there. -/
def racing : List Action :=
  [.begin leaver .subscribe] ++ List.replicate 3 (.advance leaver .proceed) ++
  [.begin leaver .unsubscribe, .advance leaver .proceed, .advance leaver .proceed,
    .advance leaver (.answer "node-b")] ++
  [.begin joiner .subscribe] ++ List.replicate 2 (.advance joiner .proceed) ++
    List.replicate 3 (.advance leaver .proceed)

theorem key_deleted_racing :
    ∃ final,
      (system {"node-a", "node-b"} "rushsocket" "app" "room" [leaver, joiner]).run
          racing = some final ∧
        final.Quiet ∧ HasSubscriber "app" "room" final.shared ∧
        ¬ Exact "rushsocket" "app" "room" final.shared :=
  ⟨_, rfl, rfl, by decide, by decide⟩

end RushSocket.Adapter.Redis.Occupancy
