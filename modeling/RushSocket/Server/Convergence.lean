import RushSocket.Server.Roster
import RushSocket.Server.System
import RushSocket.Websocket.Delivery

namespace RushSocket.Server.Roster

open Adapter Data Protocol Transition Websocket

/-! A roster may lag behind the presence data, as long as a broadcast that is
still to be made puts it right. -/

namespace Node

def subscribers (channel : String) (node : Node) : Finset String :=
  node.ns.channels.members channel

def users (channel : String) (node : Node) : Finset String :=
  (node.ns.getPresenceMembers channel).keys

def Heard (node : Node) (socketId : String) (frames : List Frame) : Prop :=
  ∃ conn, node.connections.lookup socketId = some conn ∧
    conn.forceClose = false ∧ conn.tx.enqueued = frames

def takes (node : Node) (socketId : String) : Bool :=
  (node.connections.lookup socketId).any fun conn =>
    !conn.forceClose && conn.tx.enqueued.length - conn.tx.taken < Outbound.capacity

end Node

/-- The caller is neither subscribing to the channel nor leaving it. -/
def settled : Call → Bool
  | some (_, .join _ _) | some (_, .succeed _ _) | some (_, .tell _)
  | some (_, .leave) | some (_, .remove) => false
  | _ => true

/-- What a call has yet to broadcast: a user, and whether it has become a member. -/
def owes : Call → Option (String × Bool)
  | some (.subscribe userId _, .join true _)
  | some (.subscribe userId _, .succeed true _)
  | some (.subscribe userId _, .announce) => some (userId, true)
  | some (_, .tell userId) => some (userId, false)
  | _ => none

/-- What the next step of a call broadcasts. -/
def broadcasts : Call → Option (String × Bool)
  | some (.subscribe userId _, .announce) => some (userId, true)
  | some (_, .tell userId) => some (userId, false)
  | _ => none

/-- The users that the next step of a call sends to its own connection. -/
def snapshot : Call → Option (Finset String)
  | some (_, .succeed _ members) => some members.keys
  | _ => none

/-- A call of a caller that is not excepted has yet to broadcast it. -/
def Owed (calls : Table String (Operation × Point)) (excepted : Finset String)
    (userId : String) (isMember : Bool) : Prop :=
  ∃ caller, caller ∉ excepted ∧
    owes (calls.lookup caller) = some (userId, isMember)

/-- A broadcast of another caller puts right what the roster has wrong. -/
def Follows (channel : String) (node : Node)
    (calls : Table String (Operation × Point)) (socketId : String)
    (roster : Finset String) : Prop :=
  ∀ userId, (userId ∈ roster ↔ userId ∈ node.users channel) ∨
    Owed calls {socketId} userId (userId ∈ node.users channel)

/-- What a step is about to send is so: a snapshot follows the presence data,
and a broadcast is true of its user or is put right, for each connection that
takes it, by a third caller. -/
def Truthful (channel : String) (state : State) : Action → Prop
  | .begin _ _ => True
  | .advance caller _ =>
      (∀ known ∈ snapshot (state.calls.lookup caller),
        state.shared.takes caller = true →
          Follows channel state.shared state.calls caller known) ∧
      ∀ news ∈ broadcasts (state.calls.lookup caller),
        (news.2 = true ↔ news.1 ∈ state.shared.users channel) ∨
          ∀ socketId ∈ state.shared.subscribers channel, socketId ≠ caller →
            state.shared.takes socketId = true →
            settled (state.calls.lookup socketId) = true →
              Owed state.calls {caller, socketId} news.1 (!news.2)

/-! The condition can be computed: only a call in progress owes anything. -/

instance (calls : Table String (Operation × Point)) (excepted : Finset String)
    (userId : String) (isMember : Bool) :
    Decidable (Owed calls excepted userId isMember) :=
  decidable_of_iff (∃ caller ∈ calls.keys, caller ∉ excepted ∧
      owes (calls.lookup caller) = some (userId, isMember)) <| by
    refine exists_congr fun caller => and_iff_right_of_imp ?_
    rintro ⟨_, owing⟩
    cases found : calls.lookup caller with
    | none => simp [found, owes] at owing
    | some call => exact Table.mem_keys_iff.mpr ⟨call, found⟩

instance (channel : String) (node : Node) (calls : Table String (Operation × Point))
    (socketId : String) (roster : Finset String) :
    Decidable (Follows channel node calls socketId roster) :=
  decidable_of_iff (∀ userId ∈ roster ∪ node.users channel,
      (userId ∈ roster ↔ userId ∈ node.users channel) ∨
        Owed calls {socketId} userId (userId ∈ node.users channel)) <| by
    refine forall_congr' fun userId => ⟨fun listed => ?_, fun follows _ => follows⟩
    by_cases member : userId ∈ roster ∪ node.users channel
    · exact listed member
    · rw [Finset.mem_union, not_or] at member
      exact .inl (iff_of_false member.1 member.2)

instance (channel : String) (state : State) :
    (action : Action) → Decidable (Truthful channel state action)
  | .begin _ _ => .isTrue trivial
  | .advance _ _ => by
      unfold Truthful
      infer_instance

/-! What is enqueued by a send is what is enqueued to its connection. -/

variable {node : Node} {channel socketId : String} {frames : List Frame}
  {frame : Frame}

theorem heard_changeConn {change : WsConnection Frame → WsConnection Frame}
    {changed : String}
    (silent : ∀ conn, node.connections.lookup changed = some conn →
      (change conn).tx.enqueued = conn.tx.enqueued ∧
        (change conn).forceClose = conn.forceClose) :
    (node.changeConn changed change).Heard socketId frames ↔
      node.Heard socketId frames :=
  Connections.heard_modify silent

theorem heard_send {sent : String} :
    (node.send sent frame).Heard socketId frames →
      (socketId ≠ sent ∧ node.Heard socketId frames) ∨
        (socketId = sent ∧ node.takes socketId = true ∧
          ∃ earlier, frames = earlier ++ [frame] ∧ node.Heard socketId earlier) :=
  Connections.heard_send

theorem connections_sendAll (recipients : List ConnHandle) :
    (node.sendAll recipients frame).connections =
      Connections.sendEach node.connections
        (recipients.map ConnHandle.socketId) frame := by
  induction recipients generalizing node with
  | nil => rfl
  | cons handle rest induction => exact induction

theorem heard_sendAll {recipients : List ConnHandle}
    (distinct : (recipients.map ConnHandle.socketId).Nodup)
    (heard : (node.sendAll recipients frame).Heard socketId frames) :
    (socketId ∉ recipients.map ConnHandle.socketId ∧
      node.Heard socketId frames) ∨
      (socketId ∈ recipients.map ConnHandle.socketId ∧
        node.takes socketId = true ∧
        ∃ earlier, frames = earlier ++ [frame] ∧ node.Heard socketId earlier) := by
  rw [Node.Heard, connections_sendAll] at heard
  exact Connections.heard_sendEach distinct heard

@[simp] theorem ns_sendAll (node : Node) (recipients : List ConnHandle)
    (frame : Frame) : (node.sendAll recipients frame).ns = node.ns := by
  induction recipients generalizing node with
  | nil => rfl
  | cons handle rest induction => exact induction (node.send handle.socketId frame)

/-! Where a socket stands in the channel. -/

structure Standing where
  subscriber : Bool
  handle : Option ConnHandle
  subscribed : Bool

def Node.standing (channel : String) (node : Node) (socketId : String) :
    Standing where
  subscriber := socketId ∈ node.subscribers channel
  handle := node.ns.sockets.lookup socketId
  subscribed := (node.connections.lookup socketId).all fun conn =>
    conn.isSubscribed channel

theorem standing_eq {before after : Node}
    (member : socketId ∈ after.subscribers channel ↔
      socketId ∈ before.subscribers channel)
    (handle : after.ns.sockets.lookup socketId = before.ns.sockets.lookup socketId)
    (connection : after.connections.lookup socketId =
      before.connections.lookup socketId) :
    after.standing channel socketId = before.standing channel socketId := by
  unfold Node.standing
  rw [handle, connection, decide_eq_decide.mpr member]

theorem standing_changeConn {change : WsConnection Frame → WsConnection Frame}
    (subscribed : ∀ conn, (change conn).subscribedChannels = conn.subscribedChannels)
    (changed : String) :
    (node.changeConn changed change).standing channel socketId =
      node.standing channel socketId := by
  have same : ((node.changeConn changed change).connections.lookup socketId).all
        (fun conn => conn.isSubscribed channel) =
      (node.connections.lookup socketId).all fun conn => conn.isSubscribed channel := by
    rw [Node.changeConn, Table.lookup_modify]
    split
    · rename_i equal
      rw [equal]
      cases node.connections.lookup changed with
      | none => rfl
      | some conn => simp [WsConnection.isSubscribed, subscribed]
    · rfl
  unfold Node.standing
  rw [same]
  rfl

theorem standing_changeConn_other {change : WsConnection Frame → WsConnection Frame}
    {changed : String} (different : socketId ≠ changed) :
    (node.changeConn changed change).standing channel socketId =
      node.standing channel socketId := by
  unfold Node.standing Node.changeConn
  rw [Table.lookup_modify, if_neg different]
  rfl

theorem sendRaw_subscribedChannels (conn : WsConnection Frame) (frame : Frame) :
    (conn.sendRaw frame).subscribedChannels = conn.subscribedChannels := by
  unfold WsConnection.sendRaw
  split <;> rfl

theorem standing_send (sent : String) :
    (node.send sent frame).standing channel socketId =
      node.standing channel socketId :=
  standing_changeConn (fun conn => sendRaw_subscribedChannels conn frame) sent

theorem standing_sendAll (recipients : List ConnHandle) :
    (node.sendAll recipients frame).standing channel socketId =
      node.standing channel socketId := by
  induction recipients generalizing node with
  | nil => rfl
  | cons handle rest induction => exact induction.trans (standing_send handle.socketId)

structure Standing.Fits (standing : Standing) (socketId : String) (opened : Bool)
    (call : Call) : Prop where
  registered : opened = true → standing.handle = some ⟨socketId⟩
  subscribed : standing.subscriber = true →
    opened = true ∧ standing.subscribed = true
  calling : call.isSome = true → opened = true
  removing : ∀ operation, call = some (operation, .remove) →
    standing.subscriber = false

structure Inv (channel : String) (socketIds : List String) (state : State) : Prop where
  fits : ∀ socketId, (state.shared.standing channel socketId).Fits socketId
    (isOpen socketIds state.log socketId) (state.calls.lookup socketId)
  follows : ∀ socketId ∈ state.shared.subscribers channel, ∀ frames,
    state.shared.Heard socketId frames →
      settled (state.calls.lookup socketId) = true →
        Follows channel state.shared state.calls socketId (rosterOf frames)

variable {caller : String} {socketIds : List String} {state : State}
  {operation : Operation} {point : Point} {progress : Progress Point Unit}

theorem owed_split {calls : Table String (Operation × Point)} {call : Call}
    (found : calls.lookup caller = call) (userId : String) (isMember : Bool) :
    Owed calls {socketId} userId isMember ↔
      Owed calls {caller, socketId} userId isMember ∨
        caller ≠ socketId ∧ owes call = some (userId, isMember) := by
  simp only [Owed, Finset.mem_singleton, Finset.mem_insert, not_or]
  constructor
  · rintro ⟨other, excepted, owing⟩
    by_cases same : other = caller
    · subst same
      rw [found] at owing
      exact .inr ⟨excepted, owing⟩
    · exact .inl ⟨other, ⟨same, excepted⟩, owing⟩
  · rintro (⟨other, ⟨_, excepted⟩, owing⟩ | ⟨excepted, owing⟩)
    · exact ⟨other, excepted, owing⟩
    · exact ⟨caller, excepted, by rw [found, owing]⟩

theorem owed_settle_others (userId : String) (isMember : Bool) :
    Owed (state.settle caller operation node progress).calls {caller, socketId}
        userId isMember ↔
      Owed state.calls {caller, socketId} userId isMember := by
  apply exists_congr
  intro other
  rw [Calls.lookup_settle]
  by_cases same : other = caller
  · simp [same]
  · simp [same]

/-- After a step the roster still follows, if each user is as before or is
accounted for. -/
theorem Follows.settle {before after : Finset String}
    (follows : Follows channel state.shared state.calls socketId before)
    (found : state.calls.lookup caller = some (operation, point))
    (changed : ∀ userId,
      ((userId ∈ after ↔ userId ∈ before) ∧
        (userId ∈ node.users channel ↔ userId ∈ state.shared.users channel) ∧
        (caller ≠ socketId → ∀ isMember,
          owes (some (operation, point)) = some (userId, isMember) →
            owes (progress.call operation) = some (userId, isMember))) ∨
      (userId ∈ after ↔ userId ∈ node.users channel) ∨
      Owed state.calls {caller, socketId} userId (userId ∈ node.users channel) ∨
      (caller ≠ socketId ∧ owes (progress.call operation) =
        some (userId, decide (userId ∈ node.users channel)))) :
    Follows channel node (state.settle caller operation node progress).calls
      socketId after := by
  intro userId
  have own : (state.settle caller operation node progress).calls.lookup caller =
      progress.call operation := by rw [Calls.lookup_settle, if_pos rfl]
  rw [owed_split own, owed_settle_others]
  rcases changed userId with ⟨roster, users, debt⟩ | told | owed | owed
  · rcases follows userId with told | owed
    · exact .inl (by rw [roster, told, users])
    · rw [owed_split found] at owed
      rcases owed with owed | ⟨different, owed⟩
      · simp only [users]
        exact .inr (.inl owed)
      · simp only [users]
        exact .inr (.inr ⟨different, debt different _ owed⟩)
  · exact .inl told
  · exact .inr (.inl owed)
  · exact .inr (.inr owed)

theorem isOpen_settle_other (different : socketId ≠ caller) :
    isOpen socketIds (state.settle caller operation node progress).log socketId =
      isOpen socketIds state.log socketId := by
  cases progress with
  | running point => rfl
  | finished returned => simp [isOpen, Calls.settle, Ne.symm different]

def openAfter (operation : Operation) (opened : Bool) :
    Progress Point Unit → Bool
  | .running _ => opened
  | .finished _ => opened && operation ≠ .close

theorem isOpen_settle_self :
    isOpen socketIds (state.settle caller operation node progress).log caller =
      openAfter operation (isOpen socketIds state.log caller) progress := by
  cases progress with
  | running point => rfl
  | finished returned =>
      simp [isOpen, Calls.settle, openAfter, Bool.and_comm, Bool.and_left_comm]

theorem subscriber_iff {before : Node}
    (same : node.standing channel socketId = before.standing channel socketId) :
    socketId ∈ node.subscribers channel ↔ socketId ∈ before.subscribers channel :=
  decide_eq_decide.mp (congrArg Standing.subscriber same)

/-- A step keeps the invariant when it changes where its caller stands at most,
and the rosters that are complete after it follow. -/
theorem Inv.settle (inv : Inv channel socketIds state)
    (others : ∀ other, other ≠ caller →
      node.standing channel other = state.shared.standing channel other)
    (own : (node.standing channel caller).Fits caller
      (openAfter operation (isOpen socketIds state.log caller) progress)
      (progress.call operation))
    (followsOthers : ∀ socketId, socketId ≠ caller →
      socketId ∈ state.shared.subscribers channel →
        settled (state.calls.lookup socketId) = true → ∀ frames,
          node.Heard socketId frames →
            Follows channel node
              (state.settle caller operation node progress).calls socketId
              (rosterOf frames))
    (followsOwn : caller ∈ node.subscribers channel →
      settled (progress.call operation) = true → ∀ frames,
        node.Heard caller frames →
          Follows channel node
            (state.settle caller operation node progress).calls caller
            (rosterOf frames)) :
    Inv channel socketIds (state.settle caller operation node progress) where
  fits := by
    intro socketId
    rw [Calls.settle_shared, Calls.lookup_settle]
    by_cases same : socketId = caller
    · subst same
      rw [if_pos rfl, isOpen_settle_self]
      exact own
    · rw [if_neg same, isOpen_settle_other same, others socketId same]
      exact inv.fits socketId
  follows := by
    intro socketId member frames heard complete
    rw [Calls.settle_shared] at member heard ⊢
    rw [Calls.lookup_settle] at complete
    by_cases same : socketId = caller
    · subst same
      rw [if_pos rfl] at complete
      exact followsOwn member complete frames heard
    · rw [if_neg same] at complete
      exact followsOthers socketId same
        ((subscriber_iff (others socketId same)).mp member) complete frames heard

theorem Standing.Fits.keep {standing : Standing} {opened : Bool}
    (fits : standing.Fits caller opened (some (operation, point)))
    (stays : openAfter operation opened progress = opened)
    (remains : ∀ other, progress.call operation ≠ some (other, .remove)) :
    standing.Fits caller (openAfter operation opened progress)
      (progress.call operation) := by
  rw [stays]
  exact {
    registered := fits.registered
    subscribed := fits.subscribed
    calling := fun _ => fits.calling rfl
    removing := fun other calling => absurd calling (remains other) }

theorem openAfter_of_ne_close (notClose : operation ≠ .close) (opened : Bool) :
    openAfter operation opened progress = opened := by
  cases progress with
  | running point => rfl
  | finished returned => simp [openAfter, notClose]

theorem call_afterwards (channel : String) (operation : Operation) :
    (afterwards channel).call operation = some (operation, .replay) ∨
      (afterwards channel).call operation = none := by
  unfold afterwards
  split
  · exact .inl rfl
  · exact .inr rfl

/-- A step that tells no client about a user. -/
theorem Inv.silent (inv : Inv channel socketIds state)
    (found : state.calls.lookup caller = some (operation, point))
    (others : ∀ other, other ≠ caller →
      node.standing channel other = state.shared.standing channel other)
    (own : (node.standing channel caller).Fits caller
      (openAfter operation (isOpen socketIds state.log caller) progress)
      (progress.call operation))
    (users : node.users channel = state.shared.users channel)
    (debt : owes (progress.call operation) = owes (some (operation, point)))
    (heard : ∀ socketId frames, node.Heard socketId frames →
      ∃ earlier, state.shared.Heard socketId earlier ∧
        rosterOf frames = rosterOf earlier)
    (complete : caller ∈ node.subscribers channel →
      settled (progress.call operation) = true →
        caller ∈ state.shared.subscribers channel ∧
          settled (some (operation, point)) = true) :
    Inv channel socketIds (state.settle caller operation node progress) := by
  have kept : ∀ socketId ∈ state.shared.subscribers channel,
      settled (state.calls.lookup socketId) = true → ∀ frames,
        node.Heard socketId frames →
          Follows channel node
            (state.settle caller operation node progress).calls socketId
            (rosterOf frames) := by
    intro socketId member before frames hears
    obtain ⟨earlier, heardBefore, same⟩ := heard socketId frames hears
    refine (inv.follows socketId member earlier heardBefore before).settle found ?_
    intro userId
    rw [same, users, debt]
    exact .inl ⟨.rfl, .rfl, fun _ _ => id⟩
  refine inv.settle others own (fun socketId _ => kept socketId) ?_
  intro member after
  obtain ⟨memberBefore, before⟩ := complete member after
  exact kept caller memberBefore (by rw [found]; exact before)

theorem Inv.succeed {isNewMember : Bool} {members : Table String Value}
    {order : HashOrder} {userId : String} {userInfo : Value} {hash : Json}
    {count : Nat} (inv : Inv channel socketIds state)
    (found : state.calls.lookup caller =
      some (.subscribe userId userInfo, .succeed isNewMember members))
    (truthful : state.shared.takes caller = true →
      Follows channel state.shared state.calls caller members.keys) :
    Inv channel socketIds (state.settle caller (.subscribe userId userInfo)
      (state.shared.send caller
        (.subscriptionSucceeded (order.list members.keys) hash count))
      (if isNewMember then .running .announce else afterwards channel)) := by
  have fits := inv.fits caller
  rw [found] at fits
  refine inv.settle (fun other _ => standing_send caller) ?_ ?_ ?_
  · rw [standing_send]
    apply fits.keep (openAfter_of_ne_close (by simp) _)
    intro other
    cases isNewMember with
    | true => simp [Progress.call]
    | false =>
        rcases call_afterwards channel (.subscribe userId userInfo) with call | call
        · simp [call]
        · simp [call]
  · intro socketId different member before frames heard
    rcases heard_send heard with ⟨_, heard⟩ | ⟨same, _⟩
    · refine (inv.follows socketId member frames heard before).settle found ?_
      intro other
      refine .inl ⟨.rfl, .rfl, fun _ isMember owing => ?_⟩
      cases isNewMember with
      | true => exact owing
      | false => cases owing
    · exact absurd same different
  · intro _ _ frames heard
    rcases heard_send heard with ⟨different, _⟩ | ⟨_, takes, earlier, rfl, _⟩
    · exact absurd rfl different
    · refine (truthful takes).settle found ?_
      intro other
      rw [rosterOf_append]
      exact .inl ⟨by simp [Frame.apply, order.mem_list], .rfl,
        fun different => absurd rfl different⟩

theorem Inv.registered (inv : Inv channel socketIds state) :
    ∀ socketId ∈ state.shared.ns.channels.members channel,
      state.shared.ns.sockets.lookup socketId = some ⟨socketId⟩ := by
  intro socketId member
  have fits := inv.fits socketId
  exact fits.registered (fits.subscribed (decide_eq_true member)).1

theorem Inv.heard_sendToChannel (inv : Inv channel socketIds state)
    {order : HashOrder}
    (heard : (state.shared.sendToChannel order channel frame (some caller)).Heard
      socketId frames) :
    (socketId ∈ state.shared.subscribers channel ∧ socketId ≠ caller ∧
        state.shared.takes socketId = true ∧
        ∃ earlier, frames = earlier ++ [frame] ∧
          state.shared.Heard socketId earlier) ∨
      (socketId ∈ state.shared.subscribers channel → socketId = caller) ∧
        state.shared.Heard socketId frames := by
  have recipients := Namespace.recipients_of_registered inv.registered order
    (some caller)
  have written : ∀ candidate, candidate ∈ ((state.shared.ns.recipients order channel
      (some caller)).map ConnHandle.socketId) ↔
        candidate ∈ state.shared.subscribers channel ∧ candidate ≠ caller := by
    intro candidate
    rw [recipients, List.mem_filter, order.mem_list, decide_eq_true_iff,
      ne_eq, Option.some.injEq]
    rfl
  have distinct : ((state.shared.ns.recipients order channel
      (some caller)).map ConnHandle.socketId).Nodup := by
    rw [recipients]
    exact (order.nodup _).filter _
  rcases heard_sendAll distinct heard with
    ⟨absent, heard⟩ | ⟨member, takes, earlier, equal, heard⟩
  · rw [written] at absent
    exact .inr ⟨fun member => of_not_not fun different => absent ⟨member, different⟩,
      heard⟩
  · obtain ⟨member, different⟩ := (written socketId).mp member
    exact .inl ⟨member, different, takes, earlier, equal, heard⟩

theorem Inv.broadcast {order : HashOrder} {userId : String} {isMember : Bool}
    (inv : Inv channel socketIds state)
    (found : state.calls.lookup caller = some (operation, point))
    (owing : owes (some (operation, point)) = some (userId, isMember))
    (truthful : (isMember = true ↔ userId ∈ state.shared.users channel) ∨
      ∀ socketId ∈ state.shared.subscribers channel, socketId ≠ caller →
        state.shared.takes socketId = true →
          settled (state.calls.lookup socketId) = true →
            Owed state.calls {caller, socketId} userId (!isMember))
    (applied : ∀ roster other, other ∈ frame.apply roster ↔
      if other = userId then isMember = true else other ∈ roster)
    (own : (state.shared.standing channel caller).Fits caller
      (openAfter operation (isOpen socketIds state.log caller) progress)
      (progress.call operation))
    (complete : settled (progress.call operation) = true →
      settled (some (operation, point)) = true) :
    Inv channel socketIds (state.settle caller operation
      (state.shared.sendToChannel order channel frame (some caller)) progress) := by
  have stands : ∀ socketId, (state.shared.sendToChannel order channel frame
      (some caller)).standing channel socketId =
        state.shared.standing channel socketId :=
    fun socketId => standing_sendAll _
  have users : (state.shared.sendToChannel order channel frame
      (some caller)).users channel = state.shared.users channel := by
    simp [Node.users, Node.sendToChannel]
  refine inv.settle (fun other _ => stands other) (by rw [stands]; exact own) ?_ ?_
  · intro socketId different member before frames heard
    rcases inv.heard_sendToChannel heard with
      ⟨_, _, takes, earlier, rfl, sooner⟩ | ⟨same, _⟩
    · refine (inv.follows socketId member earlier sooner before).settle found ?_
      intro other
      rw [rosterOf_append, applied, users]
      by_cases same : other = userId
      · subst same
        rw [if_pos rfl]
        by_cases so : isMember = true ↔ other ∈ state.shared.users channel
        · exact .inr (.inl so)
        · -- the frame is wrong of the user, so a third caller puts it right
          have owed := (truthful.resolve_left so) socketId member different takes
            before
          have opposite :
              decide (other ∈ state.shared.users channel) = !isMember := by
            cases isMember with
            | true => simpa using so
            | false => simpa using so
          rw [opposite]
          exact .inr (.inr (.inl owed))
      · rw [if_neg same]
        refine .inl ⟨.rfl, .rfl, fun _ flag owes => ?_⟩
        rw [owing] at owes
        cases owes
        exact absurd rfl same
    · exact absurd (same member) different
  · intro member after frames heard
    rcases inv.heard_sendToChannel heard with ⟨_, different, _⟩ | ⟨_, heard⟩
    · exact absurd rfl different
    · have memberBefore := (subscriber_iff (stands caller)).mp member
      refine (inv.follows caller memberBefore frames heard
        (by rw [found]; exact complete after)).settle found ?_
      intro other
      rw [users]
      exact .inl ⟨.rfl, .rfl, fun different => absurd rfl different⟩

theorem owes_enter (operation : Operation) :
    owes (some (operation, .enter)) = none := by
  cases operation <;> rfl

theorem Inv.attend {next : Point} (inv : Inv channel socketIds state)
    (userId : String)
    (found : state.calls.lookup caller = some (operation, .enter))
    (stands : ∀ socketId, node.standing channel socketId =
      state.shared.standing channel socketId)
    (heard : ∀ socketId frames, node.Heard socketId frames →
      state.shared.Heard socketId frames)
    (users : ∀ other, other ≠ userId →
      (other ∈ node.users channel ↔ other ∈ state.shared.users channel))
    (debt : (userId ∈ node.users channel ↔ userId ∈ state.shared.users channel) ∨
      owes (some (operation, next)) =
        some (userId, decide (userId ∈ node.users channel)))
    (remains : next ≠ .remove)
    (unsettled : settled (some (operation, next)) = false) :
    Inv channel socketIds (state.settle caller operation node (.running next)) := by
  have fits := inv.fits caller
  rw [found] at fits
  refine inv.settle (fun other _ => stands other) ?_ ?_ ?_
  · rw [stands]
    refine fits.keep rfl ?_
    rintro other calling
    cases calling
    exact remains rfl
  · intro socketId different member before frames hears
    refine (inv.follows socketId member frames (heard socketId frames hears)
      before).settle found ?_
    intro other
    by_cases same : other = userId
    · subst same
      rcases debt with unchanged | owing
      · exact .inl ⟨.rfl, unchanged, by simp [owes_enter]⟩
      · exact .inr (.inr (.inr ⟨Ne.symm different, owing⟩))
    · exact .inl ⟨.rfl, users other same, by simp [owes_enter]⟩
  · intro _ after
    exact absurd (unsettled.symm.trans after) (by simp)

/-! The steps of the handlers. -/

theorem users_of_presence {before after : Node}
    (same : after.ns.presence = before.ns.presence) :
    after.users channel = before.users channel := by
  simp only [Node.users, Namespace.getPresenceMembers, Namespace.presenceOf, same]

theorem Inv.own (inv : Inv channel socketIds state)
    (found : state.calls.lookup caller = some (operation, point)) :
    (state.shared.standing channel caller).Fits caller
      (isOpen socketIds state.log caller) (some (operation, point)) := by
  rw [← found]
  exact inv.fits caller

theorem Inv.pass (inv : Inv channel socketIds state)
    (found : state.calls.lookup caller = some (operation, .enter))
    (stays : openAfter operation (isOpen socketIds state.log caller) progress =
      isOpen socketIds state.log caller)
    (removing : ∀ other, progress.call operation = some (other, .remove) →
      caller ∉ state.shared.subscribers channel)
    (debt : owes (progress.call operation) = none) :
    Inv channel socketIds
      (state.settle caller operation state.shared progress) := by
  have fits := inv.own found
  refine inv.silent found (fun _ _ => rfl) ?_ rfl (debt.trans (owes_enter _).symm)
    (fun _ frames heard => ⟨frames, heard, rfl⟩) ?_
  · rw [stays]
    exact {
      registered := fits.registered
      subscribed := fits.subscribed
      calling := fun _ => fits.calling rfl
      removing := fun other calling => decide_eq_false (removing other calling) }
  · intro member _
    exact ⟨member, by cases operation <;> rfl⟩

theorem Inv.unsubscribed (inv : Inv channel socketIds state)
    {conn : WsConnection Frame}
    (stored : state.shared.connections.lookup caller = some conn)
    (absent : conn.isSubscribed channel = false) :
    caller ∉ state.shared.subscribers channel := by
  intro member
  have subscribed := ((inv.fits caller).subscribed (decide_eq_true member)).2
  simp [Node.standing, stored, absent] at subscribed

theorem Inv.subscribe {userId : String} {userInfo : Value}
    (inv : Inv channel socketIds state)
    (found : state.calls.lookup caller =
      some (.subscribe userId userInfo, .enter)) (maxMembers : Nat) :
    Inv channel socketIds
      (match state.shared.ns.tryAddPresenceMember channel caller userId userInfo
          maxMembers with
        | (ns, .error ()) =>
            state.settle caller (.subscribe userId userInfo)
              { state.shared with ns } (.running .refuse)
        | (ns, .ok (isNewMember, members)) =>
            state.settle caller (.subscribe userId userInfo)
              { state.shared with ns } (.running (.join isNewMember members))) := by
  obtain ⟨presence, ⟨outcome, same⟩ | ⟨members, outcome, users⟩⟩ :=
    state.shared.ns.tryAddPresenceMember_cases channel caller userId userInfo
      maxMembers
  · rw [outcome]
    refine inv.silent found (fun _ _ => rfl)
      ((inv.own found).keep rfl (by simp [Progress.call])) ?_ rfl
      (fun _ frames heard => ⟨frames, heard, rfl⟩)
      (fun member _ => ⟨member, rfl⟩)
    simp only [Node.users, Namespace.keys_getPresenceMembers, same]
  · rw [outcome]
    rw [← Namespace.keys_getPresenceMembers, ← Namespace.keys_getPresenceMembers]
      at users
    refine inv.attend userId found (fun _ => rfl) (fun _ _ heard => heard) ?_ ?_
      (by simp) rfl
    · intro other different
      rw [Node.users, users]
      simp [Node.users, different]
    · by_cases present : userId ∈ (state.shared.ns.getPresenceMembers channel).keys
      · refine .inl ?_
        rw [Node.users, users]
        simp [Node.users, present]
      · refine .inr ?_
        rw [Node.users, users]
        rw [Namespace.keys_getPresenceMembers] at present
        simp [owes, present]

theorem Inv.mention (inv : Inv channel socketIds state)
    (found : state.calls.lookup caller = some (operation, point))
    (neutral : ∀ roster, frame.apply roster = roster)
    (open_ : operation ≠ .close)
    (before : settled (some (operation, point)) = true)
    (debt : owes (some (operation, point)) = none) :
    Inv channel socketIds (state.settle caller operation
      (state.shared.send caller frame) (.finished ())) := by
  refine inv.silent found (fun _ _ => standing_send caller) ?_ rfl debt.symm ?_ ?_
  · rw [standing_send]
    exact (inv.own found).keep (openAfter_of_ne_close open_ _) (by simp [Progress.call])
  · intro socketId frames heard
    rcases heard_send heard with ⟨_, sooner⟩ | ⟨_, _, earlier, rfl, sooner⟩
    · exact ⟨frames, sooner, rfl⟩
    · exact ⟨earlier, sooner, by rw [rosterOf_append, neutral]⟩
  · intro member _
    exact ⟨(subscriber_iff (standing_send caller)).mp member, before⟩

theorem Inv.join {userId : String} {userInfo : Value} {isNewMember : Bool}
    {members : Table String Value}
    {change : WsConnection Frame → WsConnection Frame}
    (inv : Inv channel socketIds state)
    (found : state.calls.lookup caller =
      some (.subscribe userId userInfo, .join isNewMember members))
    (silent : ∀ conn, state.shared.connections.lookup caller = some conn →
      (change conn).tx.enqueued = conn.tx.enqueued ∧
        (change conn).forceClose = conn.forceClose)
    (subscribes : ∀ conn, (change conn).isSubscribed channel = true) :
    Inv channel socketIds (state.settle caller (.subscribe userId userInfo)
      (Node.changeConn
        { state.shared with ns := (state.shared.ns.addToChannel caller channel).1 }
        caller change)
      (.running (.succeed isNewMember members))) := by
  have fits := inv.own found
  have opened := fits.calling rfl
  have registered : state.shared.ns.sockets.lookup caller = some ⟨caller⟩ :=
    fits.registered opened
  have named : state.shared.ns.findSocketId caller = caller := by
    simp [Namespace.findSocketId, registered]
  refine inv.silent found ?_ ?_ rfl ?_ ?_ ?_
  · intro other different
    rw [standing_changeConn_other different]
    refine standing_eq ?_ rfl rfl
    simp [Node.subscribers, Namespace.members_addToChannel, named, different]
  · exact {
      registered := fun _ => registered
      subscribed := by
        intro _
        refine ⟨opened, ?_⟩
        simp only [Node.standing, Node.changeConn, Table.lookup_modify, if_pos]
        cases state.shared.connections.lookup caller with
        | none => rfl
        | some conn => simp [subscribes]
      calling := fun _ => opened
      removing := by simp [Progress.call] }
  · cases isNewMember <;> rfl
  · intro socketId frames heard
    exact ⟨frames, (heard_changeConn silent).mp heard, rfl⟩
  · intro _ after
    cases after

theorem Inv.leave {change : WsConnection Frame → WsConnection Frame}
    (inv : Inv channel socketIds state)
    (found : state.calls.lookup caller = some (operation, .leave))
    (silent : ∀ conn, state.shared.connections.lookup caller = some conn →
      (change conn).tx.enqueued = conn.tx.enqueued ∧
        (change conn).forceClose = conn.forceClose)
    (stays : openAfter operation (isOpen socketIds state.log caller) progress =
      isOpen socketIds state.log caller)
    (debt : owes (progress.call operation) = none) :
    Inv channel socketIds (state.settle caller operation
      (Node.changeConn
        { state.shared with
          ns := (state.shared.ns.removeFromChannel caller channel).1 }
        caller change) progress) := by
  have fits := inv.own found
  have gone : caller ∉ (state.shared.ns.removeFromChannel caller
      channel).1.channels.members channel := by
    rw [Namespace.members_removeFromChannel, Table.mem_members_discard]
    simp
  refine inv.silent found ?_ ?_ ?_ ?_ ?_ ?_
  · intro other different
    rw [standing_changeConn_other different]
    refine standing_eq ?_ ?_ rfl
    · simp [Node.subscribers, Namespace.members_removeFromChannel,
        Table.mem_members_discard, different]
    · simp only [Namespace.sockets_removeFromChannel]
  · rw [stays]
    exact {
      registered := by
        intro opened
        simp only [Node.standing, Node.changeConn,
          Namespace.sockets_removeFromChannel]
        exact fits.registered opened
      subscribed := fun member => absurd (of_decide_eq_true member) gone
      calling := fun _ => fits.calling rfl
      removing := fun _ _ => decide_eq_false gone }
  · apply users_of_presence
    simp only [Node.changeConn, Namespace.removeFromChannel, Namespace.dropReverse,
      Namespace.dropMember_fst]
    split <;> rfl
  · rw [debt]
    cases operation <;> rfl
  · intro socketId frames heard
    exact ⟨frames, (heard_changeConn silent).mp heard, rfl⟩
  · intro member
    exact absurd member gone

theorem Inv.remove {order : HashOrder} (inv : Inv channel socketIds state)
    (found : state.calls.lookup caller = some (.close, .remove)) :
    Inv channel socketIds (state.settle caller .close
      { state.shared with ns := (state.shared.ns.removeSocket order caller).1 }
      (.finished ())) := by
  obtain ⟨channels, connectionCount, removed, shrinks⟩ :=
    state.shared.ns.removeSocket_fst order caller
  have absent : caller ∉ state.shared.subscribers channel :=
    of_decide_eq_false ((inv.own found).removing .close rfl)
  have gone : caller ∉ channels.members channel := fun member =>
    absent ((shrinks channel caller).1 member)
  rw [removed]
  refine inv.silent found ?_ ?_ rfl rfl (fun _ frames heard => ⟨frames, heard, rfl⟩)
    (fun member => absurd member gone)
  · intro other different
    refine standing_eq ⟨(shrinks channel other).1, (shrinks channel other).2 different⟩
      ?_ rfl
    rw [Table.lookup_drop, if_neg different]
  · exact {
      registered := by simp [openAfter]
      subscribed := fun member => absurd (of_decide_eq_true member) gone
      calling := by simp [Progress.call]
      removing := by simp [Progress.call] }

/-- A change of the connection of the caller that its client does not see. -/
theorem Inv.change {change : WsConnection Frame → WsConnection Frame}
    (inv : Inv channel socketIds state)
    (found : state.calls.lookup caller = some (operation, .enter))
    (open_ : operation ≠ .close)
    (silent : ∀ conn, state.shared.connections.lookup caller = some conn →
      (change conn).tx.enqueued = conn.tx.enqueued ∧
        (change conn).forceClose = conn.forceClose)
    (subscribed : ∀ conn, (change conn).subscribedChannels = conn.subscribedChannels) :
    Inv channel socketIds (state.settle caller operation
      (state.shared.changeConn caller change) (.finished ())) := by
  refine inv.silent found (fun _ _ => standing_changeConn subscribed caller) ?_ rfl
    (owes_enter operation).symm ?_ ?_
  · rw [standing_changeConn subscribed]
    exact (inv.own found).keep (openAfter_of_ne_close open_ _) (by simp [Progress.call])
  · intro socketId frames heard
    exact ⟨frames, (heard_changeConn silent).mp heard, rfl⟩
  · intro member _
    refine ⟨(subscriber_iff (standing_changeConn subscribed caller)).mp member, ?_⟩
    cases operation <;> rfl

theorem Inv.withdraw {userId : String} {next : Node × Progress Point Unit}
    (inv : Inv channel socketIds state)
    (found : state.calls.lookup caller = some (operation, .enter))
    (change : WsConnection Frame → WsConnection Frame)
    (silent : ∀ conn, state.shared.connections.lookup caller = some conn →
      (change conn).tx.enqueued = conn.tx.enqueued ∧
        (change conn).forceClose = conn.forceClose)
    (subscribed : ∀ conn, (change conn).subscribedChannels = conn.subscribedChannels)
    (withdrawn : Roster.withdraw channel (state.shared.changeConn caller change)
      caller userId = next) :
    Inv channel socketIds (state.settle caller operation next.1 next.2) := by
  subst withdrawn
  obtain ⟨presence, removed⟩ := state.shared.ns.removePresenceMember_fst channel
    caller userId
  have users := state.shared.ns.keys_removePresenceMember channel caller userId
  rw [← Namespace.keys_getPresenceMembers, ← Namespace.keys_getPresenceMembers]
    at users
  simp only [Roster.withdraw]
  change Inv channel socketIds (state.settle caller operation
    { state.shared.changeConn caller change with
      ns := (state.shared.ns.removePresenceMember channel caller userId).1 }
    (.running (if (state.shared.ns.removePresenceMember channel caller userId).2 then
      .tell userId else .leave)))
  refine inv.attend userId found ?_ ?_ ?_ ?_ ?_ ?_
  · intro socketId
    refine Eq.trans ?_ (standing_changeConn subscribed caller)
    rw [removed]
    rfl
  · intro socketId frames heard
    exact (heard_changeConn silent).mp heard
  · intro other different
    rw [Node.users, users]
    split
    · simp [Node.users, different]
    · rfl
  · rw [Node.users, users]
    cases (state.shared.ns.removePresenceMember channel caller userId).2 with
    | true => exact .inr (by simp [owes])
    | false => exact .inl .rfl
  · split <;> simp
  · split <;> rfl

theorem Inv.begin (inv : Inv channel socketIds state)
    (absent : state.calls.lookup caller = none)
    (opened : isOpen socketIds state.log caller = true) :
    Inv channel socketIds { state with
      calls := state.calls.insert caller (operation, .enter) } where
  fits := by
    intro socketId
    have fits := inv.fits socketId
    rw [Table.lookup_put]
    by_cases same : socketId = caller
    · subst same
      rw [if_pos rfl]
      exact {
        registered := fits.registered
        subscribed := fits.subscribed
        calling := fun _ => opened
        removing := by simp }
    · rw [if_neg same]
      exact fits
  follows := by
    intro socketId member frames heard before
    rw [Table.lookup_put] at before
    have settledBefore : settled (state.calls.lookup socketId) = true := by
      by_cases same : socketId = caller
      · rw [same, absent]
        rfl
      · rwa [if_neg same] at before
    intro userId
    refine (inv.follows socketId member frames heard settledBefore userId).imp_right ?_
    rintro ⟨other, excepted, owing⟩
    refine ⟨other, excepted, ?_⟩
    have different : other ≠ caller := by
      rintro rfl
      rw [absent] at owing
      cases owing
    rw [Table.lookup_put, if_neg different]
    exact owing

theorem Inv.advanceSubscribe {userId : String} {userInfo : Value}
    {order : HashOrder} (inv : Inv channel socketIds state)
    (found : state.calls.lookup caller = some (.subscribe userId userInfo, point))
    (truthful : Truthful channel state (.advance caller order))
    (advanced : advance channel state.shared caller (.subscribe userId userInfo)
      point order = some (node, progress)) :
    Inv channel socketIds
      (state.settle caller (.subscribe userId userInfo) node progress) := by
  simp only [Truthful, found] at truthful
  cases point with
  | enter =>
      obtain ⟨conn, stored, equal⟩ := Option.map_eq_some_iff.mp advanced
      split at equal
      · cases equal
        exact inv.pass found (openAfter_of_ne_close (by simp) _)
          (by simp [Progress.call]) rfl
      · have joined := inv.subscribe found conn.app.maxPresenceMembersPerChannel
        split at equal
        · rename_i ns outcome
          cases equal
          rwa [outcome] at joined
        · rename_i ns isNewMember members outcome
          cases equal
          rwa [outcome] at joined
  | refuse =>
      cases advanced
      exact inv.mention found (fun _ => rfl) (by simp) rfl rfl
  | join isNewMember members =>
      cases advanced
      exact inv.join found (fun _ _ => ⟨rfl, rfl⟩) fun conn => by
        simp [WsConnection.isSubscribed, WsConnection.authenticate,
          WsConnection.setPresence, WsConnection.addChannel]
  | succeed isNewMember members =>
      cases advanced
      exact inv.succeed found (truthful.1 _ rfl)
  | announce =>
      cases advanced
      refine inv.broadcast found rfl (truthful.2 _ rfl) ?_ ?_ fun _ => rfl
      · intro roster other
        simp only [Frame.apply, Finset.mem_insert]
        split <;> simp_all
      · refine (inv.own found).keep (openAfter_of_ne_close (by simp) _) ?_
        intro other
        rcases call_afterwards channel (.subscribe userId userInfo) with call | call
        · simp [call]
        · simp [call]
  | replay =>
      obtain ⟨conn, stored, equal⟩ := Option.map_eq_some_iff.mp advanced
      split at equal
      · cases equal
        exact inv.mention found (fun _ => rfl) (by simp) rfl rfl
      · cases equal
        refine inv.silent found (fun _ _ => rfl)
          ((inv.own found).keep (openAfter_of_ne_close (by simp) _)
            (by simp [Progress.call])) rfl rfl
          (fun _ frames heard => ⟨frames, heard, rfl⟩) fun member _ => ⟨member, rfl⟩
  | tell userId => cases advanced
  | leave => cases advanced
  | remove => cases advanced

theorem Inv.tell {userId : String} {order : HashOrder}
    (inv : Inv channel socketIds state)
    (found : state.calls.lookup caller = some (operation, .tell userId))
    (truthful : Truthful channel state (.advance caller order)) :
    Inv channel socketIds (state.settle caller operation
      (state.shared.sendToChannel order channel (.memberRemoved userId) (some caller))
      (.running .leave)) := by
  have owing : owes (some (operation, .tell userId)) = some (userId, false) := by
    cases operation <;> rfl
  have news : broadcasts (some (operation, .tell userId)) = some (userId, false) := by
    cases operation <;> rfl
  simp only [Truthful, found] at truthful
  refine inv.broadcast found owing (truthful.2 _ news) ?_
    ((inv.own found).keep rfl (by simp [Progress.call])) ?_
  · intro roster other
    simp only [Frame.apply, Finset.mem_erase]
    split <;> simp_all
  · intro after
    cases operation <;> cases after

theorem Inv.advanceUnsubscribe {order : HashOrder}
    (inv : Inv channel socketIds state)
    (found : state.calls.lookup caller = some (.unsubscribe, point))
    (truthful : Truthful channel state (.advance caller order))
    (advanced : advance channel state.shared caller .unsubscribe point order =
      some (node, progress)) :
    Inv channel socketIds (state.settle caller .unsubscribe node progress) := by
  cases point with
  | enter =>
      obtain ⟨conn, stored, equal⟩ := Option.map_eq_some_iff.mp advanced
      split at equal
      · cases equal
        exact inv.pass found (openAfter_of_ne_close (by simp) _)
          (by simp [Progress.call]) rfl
      · split at equal
        · exact inv.withdraw found (fun stored => stored.removePresence channel)
            (fun _ _ => ⟨rfl, rfl⟩) (fun _ => rfl) equal
        · cases equal
          exact inv.pass found rfl (by simp [Progress.call]) rfl
  | tell userId =>
      cases advanced
      exact inv.tell found truthful
  | leave =>
      cases advanced
      exact inv.leave found (fun _ _ => ⟨rfl, rfl⟩)
        (openAfter_of_ne_close (by simp) _) rfl
  | refuse => cases advanced
  | join isNewMember members => cases advanced
  | succeed isNewMember members => cases advanced
  | announce => cases advanced
  | replay => cases advanced
  | remove => cases advanced

theorem changeConn_id (node : Node) (socketId : String) :
    node.changeConn socketId id = node := by
  rw [Node.changeConn, Table.modify_id]

theorem Inv.advanceClose {order : HashOrder} (inv : Inv channel socketIds state)
    (found : state.calls.lookup caller = some (.close, point))
    (truthful : Truthful channel state (.advance caller order))
    (advanced : advance channel state.shared caller .close point order =
      some (node, progress)) :
    Inv channel socketIds (state.settle caller .close node progress) := by
  cases point with
  | enter =>
      obtain ⟨conn, stored, equal⟩ := Option.map_eq_some_iff.mp advanced
      split at equal
      · rename_i absent
        cases equal
        refine inv.pass found rfl (fun _ _ => ?_) rfl
        exact inv.unsubscribed stored (by simpa using absent)
      · split at equal
        · rw [← changeConn_id state.shared caller] at equal
          exact inv.withdraw found id (fun _ _ => ⟨rfl, rfl⟩) (fun _ => rfl) equal
        · cases equal
          exact inv.pass found rfl (by simp [Progress.call]) rfl
  | tell userId =>
      cases advanced
      exact inv.tell found truthful
  | leave =>
      cases advanced
      have left := @Inv.leave channel caller socketIds state .close
        (.running .remove) id inv found (fun _ _ => ⟨rfl, rfl⟩) rfl rfl
      rwa [changeConn_id] at left
  | remove =>
      cases advanced
      exact inv.remove found
  | refuse => cases advanced
  | join isNewMember members => cases advanced
  | succeed isNewMember members => cases advanced
  | announce => cases advanced
  | replay => cases advanced

theorem Inv.advanceRecv {order : HashOrder} (inv : Inv channel socketIds state)
    (found : state.calls.lookup caller = some (.recv, point))
    (advanced : advance channel state.shared caller .recv point order =
      some (node, progress)) :
    Inv channel socketIds (state.settle caller .recv node progress) := by
  cases point with
  | enter =>
      obtain ⟨conn, stored, taken⟩ := Option.bind_eq_some_iff.mp advanced
      obtain ⟨⟨frame, tx⟩, received, equal⟩ := Option.map_eq_some_iff.mp taken
      cases equal
      refine inv.change found (by simp) ?_ fun _ => rfl
      intro other same
      cases stored.symm.trans same
      obtain ⟨_, _, equal⟩ := Option.map_eq_some_iff.mp received
      cases equal
      exact ⟨rfl, rfl⟩
  | refuse => cases advanced
  | join isNewMember members => cases advanced
  | succeed isNewMember members => cases advanced
  | announce => cases advanced
  | replay => cases advanced
  | tell userId => cases advanced
  | leave => cases advanced
  | remove => cases advanced

theorem Inv.advance {order : HashOrder} (inv : Inv channel socketIds state)
    (found : state.calls.lookup caller = some (operation, point))
    (truthful : Truthful channel state (.advance caller order))
    (advanced : Roster.advance channel state.shared caller operation point order =
      some (node, progress)) :
    Inv channel socketIds (state.settle caller operation node progress) := by
  cases operation with
  | subscribe userId userInfo => exact inv.advanceSubscribe found truthful advanced
  | unsubscribe => exact inv.advanceUnsubscribe found truthful advanced
  | close => exact inv.advanceClose found truthful advanced
  | recv => exact inv.advanceRecv found advanced

theorem accepted_append (app : App) (socketIds : List String) (socketId : String) :
    accepted app (socketIds ++ [socketId]) =
      (accepted app socketIds).accept app socketId := by
  simp [accepted]

theorem standing_accepted (app : App) (channel : String) (socketIds : List String) :
    (accepted app socketIds).subscribers channel = ∅ ∧
      ∀ socketId ∈ socketIds,
        (accepted app socketIds).ns.sockets.lookup socketId = some ⟨socketId⟩ := by
  induction socketIds using List.reverseRecOn with
  | nil => exact ⟨rfl, fun _ member => absurd member List.not_mem_nil⟩
  | append_singleton socketIds last induction =>
      rw [accepted_append]
      refine ⟨induction.1, fun socketId member => ?_⟩
      rw [Node.accept, Namespace.addSocket, Table.lookup_put]
      by_cases same : socketId = last
      · rw [if_pos same, same]
      · rw [if_neg same]
        exact induction.2 socketId (by simpa [same] using member)

theorem Inv.start (app : App) (channel : String) (socketIds : List String) :
    Inv channel socketIds { shared := accepted app socketIds, calls := ∅, log := [] } := by
  obtain ⟨empty, registered⟩ := standing_accepted app channel socketIds
  exact {
    fits := by
      intro socketId
      exact {
        registered := by
          intro opened
          simp only [isOpen, List.any_nil, Bool.not_false, Bool.and_true,
            decide_eq_true_iff] at opened
          exact registered socketId opened
        subscribed := by simp [Node.standing, empty]
        calling := by simp
        removing := by simp }
    follows := by simp [empty] }

theorem Inv.of_run {app : App} {actions : List Action} {final : State}
    (reached : (system app channel socketIds).run actions = some final)
    (truthful : (system app channel socketIds).Guarded (Truthful channel) actions) :
    Inv channel socketIds final := by
  refine Calls.invariant (Inv.start app channel socketIds) ?_ ?_ reached truthful
  · intro state caller operation inv absent permitted
    simp only [Bool.and_eq_true] at permitted
    exact inv.begin absent permitted.2
  · intro state caller operation point order node progress inv found truthful advanced
    exact inv.advance found truthful advanced

/-- The roster of every subscriber that is not flagged is that of the channel. -/
def Converged (channel : String) (state : State) : Prop :=
  ∀ socketId ∈ state.shared.ns.channels.members channel, ∀ conn,
    state.shared.connections.lookup socketId = some conn →
      conn.forceClose = false →
        rosterOf conn.tx.enqueued =
          (state.shared.ns.getPresenceMembers channel).keys

/-- In every interleaving in which what is sent about a user is so, or is put
right by a broadcast still to be made, the rosters converge. -/
theorem rosters_converge (app : App) (channel : String) (socketIds : List String)
    (actions : List Action) (final : State)
    (reached : (system app channel socketIds).run actions = some final)
    (truthful : (system app channel socketIds).Guarded (Truthful channel) actions)
    (quiet : final.Quiet) : Converged channel final := by
  intro socketId member conn stored unflagged
  have inv := Inv.of_run reached truthful
  have follows := inv.follows socketId member conn.tx.enqueued
    ⟨conn, stored, unflagged, rfl⟩ (by rw [quiet.lookup]; rfl)
  ext userId
  rcases follows userId with told | ⟨other, _, owing⟩
  · exact told
  · rw [quiet.lookup] at owing
    cases owing

def present (userId : String) : Operation :=
  .subscribe userId (.ofJson (.object []))

def steps (socketId : String) (count : Nat) : List Action :=
  List.replicate count (.advance socketId .ascending)

def serial : List Action :=
  [.begin "1.1" (present "ann")] ++ steps "1.1" 4 ++
    [.begin "2.2" (present "bob")] ++ steps "2.2" 4 ++
      [.begin "1.1" .unsubscribe] ++ steps "1.1" 3

theorem rosters_converge_serial :
    ∃ final, (system App.sample "presence-room" ["1.1", "2.2"]).run serial =
      some final ∧ Converged "presence-room" final := by
  have ends : (((system App.sample "presence-room" ["1.1", "2.2"]).run
      serial).filter fun state => state.calls = ∅).isSome = true := by
    decide +kernel
  obtain ⟨final, found⟩ := Option.isSome_iff_exists.mp ends
  obtain ⟨reached, ended⟩ := Option.filter_eq_some_iff.mp found
  have quiet : final.calls = ∅ := of_decide_eq_true ended
  exact ⟨final, reached, rosters_converge App.sample "presence-room" ["1.1", "2.2"]
    serial final reached (by decide +kernel) quiet⟩

/-- The second connection joins between the snapshot of the first and the
moment the first is in the channel. -/
def racing : List Action :=
  [.begin "1.1" (present "ann")] ++ steps "1.1" 1 ++
    [.begin "2.2" (present "bob")] ++ steps "2.2" 4 ++ steps "1.1" 3

theorem roster_stale_racing :
    ∃ final, (system App.sample "presence-room" ["1.1", "2.2"]).run racing =
      some final ∧ final.Quiet ∧ ¬ Converged "presence-room" final := by
  have ends : (((system App.sample "presence-room" ["1.1", "2.2"]).run
      racing).bind fun state =>
        (state.shared.connections.lookup "1.1").filter fun conn =>
          state.calls = ∅ ∧
            "1.1" ∈ state.shared.ns.channels.members "presence-room" ∧
            conn.forceClose = false ∧ "bob" ∉ rosterOf conn.tx.enqueued ∧
            "bob" ∈ (state.shared.ns.getPresenceMembers
              "presence-room").keys).isSome = true := by
    decide +kernel
  obtain ⟨conn, found⟩ := Option.isSome_iff_exists.mp ends
  obtain ⟨state, reached, found⟩ := Option.bind_eq_some_iff.mp found
  obtain ⟨stored, holds⟩ := Option.filter_eq_some_iff.mp found
  obtain ⟨quiet, member, unflagged, unknown, present⟩ := of_decide_eq_true holds
  refine ⟨state, reached, quiet, fun converged => unknown ?_⟩
  rw [converged "1.1" member conn stored unflagged]
  exact present

end RushSocket.Server.Roster
