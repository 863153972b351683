import RushSocket.Adapter.Departure
import RushSocket.Server.Recipients

namespace RushSocket.Server

open Adapter Data Protocol Websocket

/-! What a connection that leaves its channels does to the rest of the node:
to the adapter, the webhooks and the other connections. -/

structure Outside where
  adapter : LocalAdapter
  webhooks : Table String (List WebhookEvent)
  others : String → Option WsConnection

def outside (state : AppState) (socketId : String) : Outside where
  adapter := state.adapter
  webhooks := state.webhooks
  others receiver :=
    if receiver = socketId then none else state.connections.lookup receiver

section

variable (app : App) (ns : Namespace) (socketId channel : String)
  (user : Option String)

def parting (receiver : String) : Option ServerMessage :=
  if ns.takesUser socketId channel user ∧
      receiver ∈ ns.channels.members channel then
    user.map (.memberRemoved channel)
  else none

def withdrawnUser : List WebhookEvent :=
  user.elim [] (removedEvents (ns.takesUser socketId channel user) channel)

def countEvents (count : Nat) : List WebhookEvent :=
  if app.enableSubscriptionCountWebhook ∧
      (ChannelKind.fromName channel).isPresence = false then
    [.ofSubscriptionCount channel count]
  else []

/-- The webhooks, where `ns` is as before the departure. -/
def departureEvents : List WebhookEvent :=
  withdrawnUser ns socketId channel user ++
    (vacatedEvents (ns.vacates socketId channel) channel ++
      countEvents app channel
        ((ns.depart socketId channel user).channels.members channel).card)

end

namespace Outside

variable (outside : Outside)

def change (adapter : LocalAdapter) (appId : String) (events : List WebhookEvent)
    (sent : String → Option ServerMessage) : Outside where
  adapter := adapter
  webhooks := outside.webhooks.modify appId fun queue => queue ++ events
  others receiver :=
    (outside.others receiver).map fun conn => (sent receiver).elim conn conn.sendRaw

def depart (app : App) (socketId channel : String) (user : Option String) : Outside :=
  outside.change (outside.adapter.depart app.id socketId channel user) app.id
    (departureEvents app (outside.adapter.ns app.id) socketId channel user)
    (parting (outside.adapter.ns app.id) socketId channel user)

def withdraw (appId socketId channel : String) : Option String → Outside
  | some userId =>
      outside.change
        (outside.adapter.removePresenceMember appId channel socketId userId).1 appId
        (withdrawnUser (outside.adapter.ns appId) socketId channel (some userId))
        (parting (outside.adapter.ns appId) socketId channel (some userId))
  | none => outside

theorem change_change (early late : LocalAdapter) (appId : String)
    (first second : List WebhookEvent) (sent : String → Option ServerMessage) :
    (outside.change early appId first sent).change late appId second (fun _ => none) =
      outside.change late appId (first ++ second) sent := by
  simp only [change, Table.modify_modify, Function.comp_def, List.append_assoc,
    Option.elim_none, Option.map_id_apply']

theorem change_nothing (adapter : LocalAdapter) (appId : String) :
    outside.change adapter appId [] (fun _ => none) = { outside with adapter } := by
  simp [change, Table.modify_self]

end Outside

section

variable {moment : Moment} {state : AppState} {conn : WsConnection}
  {socketId channel userId : String}

theorem outside_changeConn (state : AppState) (socketId : String)
    (change : WsConnection → WsConnection) :
    outside (state.changeConn socketId change) socketId = outside state socketId := by
  unfold outside AppState.changeConn
  simp only [Table.lookup_modify, Outside.mk.injEq, true_and]
  funext receiver
  split
  · rfl
  · rfl

@[simp] theorem outside_adapter (state : AppState) (socketId : String) :
    (outside state socketId).adapter = state.adapter := rfl

theorem outside_notify_if (state : AppState) (flag : Bool) (appId : String)
    (event : WebhookEvent) :
    outside (if flag then state.notify appId event else state) socketId =
      (outside state socketId).change state.adapter appId
        (if flag then [event] else []) (fun _ => none) := by
  cases flag with
  | true => simp [outside, AppState.notify, Outside.change]
  | false =>
      rw [if_neg Bool.false_ne_true, if_neg Bool.false_ne_true, Outside.change_nothing]
      rfl

theorem outside_sendSubscriptionCount (state : AppState) (app : App) :
    outside (state.sendSubscriptionCount app.id channel
        app.enableSubscriptionCountWebhook) socketId =
      (outside state socketId).change state.adapter app.id
        (countEvents app channel
          ((state.adapter.ns app.id).channels.members channel).card)
        (fun _ => none) := by
  have written := @outside_notify_if socketId state
    (app.enableSubscriptionCountWebhook ∧
      (ChannelKind.fromName channel).isPresence = false) app.id
    (.ofSubscriptionCount channel (state.adapter.getChannelSocketCount app.id channel))
  rw [LocalAdapter.getChannelSocketCount_eq] at written
  rw [countEvents, AppState.sendSubscriptionCount,
    LocalAdapter.getChannelSocketCount_eq]
  simp only [decide_eq_true_eq] at written
  rw [← written]
  cases app.enableSubscriptionCountWebhook with
  | false => rfl
  | true => cases (ChannelKind.fromName channel).isPresence <;> rfl

theorem outside_leaveChannel (state : AppState) (conn : WsConnection) :
    outside (leaveChannel state conn channel) socketId =
      (outside state socketId).change
        (state.adapter.removeFromChannel conn.app.id conn.socketId channel).1
        conn.app.id
        (vacatedEvents ((state.adapter.ns conn.app.id).vacates conn.socketId channel)
            channel ++
          countEvents conn.app channel
            ((((state.adapter.ns conn.app.id).removeFromChannel conn.socketId
              channel).1.channels.members channel).card))
        (fun _ => none) := by
  obtain ⟨left, vacated⟩ := LocalAdapter.ns_removeFromChannel state.adapter conn.app.id
    conn.socketId channel conn.app.id
  rw [if_pos rfl] at left
  unfold leaveChannel
  simp only [LocalAdapter.isChannelGloballyVacated, vacated]
  generalize (state.adapter.removeFromChannel conn.app.id conn.socketId channel).1 =
    adapter at left
  have kept : (if ((state.adapter.ns conn.app.id).removeFromChannel conn.socketId
      channel).2 then (state.setAdapter adapter).notify conn.app.id
        (.channelVacated channel) else state.setAdapter adapter).adapter = adapter := by
    split <;> rfl
  rw [outside_sendSubscriptionCount, kept, left, outside_notify_if,
    Outside.change_change]
  rfl

theorem parting_of_stays {ns : Namespace} {user : Option String}
    (stays : ns.takesUser socketId channel user = false) :
    parting ns socketId channel user = fun _ => none := by
  funext receiver
  simp [parting, stays]

theorem parting_of_gone {ns : Namespace}
    (gone : ns.takesUser socketId channel (some userId) = true) :
    parting ns socketId channel (some userId) = fun receiver =>
      if receiver ∈ ns.channels.members channel then
        some (.memberRemoved channel userId)
      else none := by
  funext receiver
  simp [parting, gone]

theorem Handled.of_fewer {adapter after : LocalAdapter} {appId : String}
    (handled : Handled adapter appId)
    (sockets : (after.ns appId).sockets = (adapter.ns appId).sockets)
    (fewer : ∀ channel, ∀ member ∈ (after.ns appId).channels.members channel,
      member ∈ (adapter.ns appId).channels.members channel) :
    Handled after appId := by
  intro channel member there
  rw [sockets]
  exact handled channel member (fewer channel member there)

theorem outside_sendToChannel {appId : String} {frame : ServerMessage}
    (handled : Handled state.adapter appId) :
    outside (state.sendToChannel moment appId channel frame (some socketId)) socketId =
      (outside state socketId).change state.adapter appId []
        (fun receiver =>
          if receiver ∈ (state.adapter.ns appId).channels.members channel then
            some frame
          else none) := by
  have sent := @Handled.lookup_sendToChannel moment state appId channel frame
    (some socketId) handled
  have rest : (state.sendToChannel moment appId channel frame
      (some socketId)).adapter = state.adapter ∧
      (state.sendToChannel moment appId channel frame
        (some socketId)).webhooks = state.webhooks := by
    rw [AppState.sendToChannel, sendAll_eq]
    exact ⟨rfl, rfl⟩
  simp only [outside, Outside.change, sent, rest, List.append_nil, Table.modify_self,
    Outside.mk.injEq, true_and]
  funext receiver
  by_cases own : receiver = socketId
  · simp [own]
  · by_cases member : receiver ∈ (state.adapter.ns appId).channels.members channel
    · simp [own, member]
    · simp [own, member]

theorem outside_leavePresence (handled : Handled state.adapter conn.app.id) :
    outside (leavePresence moment state conn channel userId) conn.socketId =
      (outside state conn.socketId).withdraw conn.app.id conn.socketId channel
        (some userId) := by
  obtain ⟨left, gone⟩ := LocalAdapter.ns_removePresenceMember state.adapter conn.app.id
    channel conn.socketId userId conn.app.id
  rw [if_pos rfl, Namespace.removePresenceMember_fst_eq] at left
  unfold leavePresence Outside.withdraw
  simp only [gone, outside_adapter]
  generalize (state.adapter.removePresenceMember conn.app.id channel conn.socketId
    userId).1 = adapter at left
  have removed : Handled (state.setAdapter adapter).adapter conn.app.id :=
    handled.of_fewer (by rw [AppState.setAdapter, left]) fun channel member there => by
      rw [AppState.setAdapter, left] at there
      exact there
  cases taken : ((state.adapter.ns conn.app.id).removePresenceMember channel
    conn.socketId userId).2 with
  | true =>
      have notified := @outside_notify_if conn.socketId
        ((state.setAdapter adapter).sendToChannel moment conn.app.id channel
          (.memberRemoved channel userId) (some conn.socketId)) true conn.app.id
        (.memberRemoved channel userId)
      have same : ((state.setAdapter adapter).sendToChannel moment conn.app.id channel
          (.memberRemoved channel userId) (some conn.socketId)).adapter = adapter :=
        congrArg Core.adapter (AppState.core_sendToChannel ..)
      have members : ((state.setAdapter adapter).adapter.ns conn.app.id).channels =
          (state.adapter.ns conn.app.id).channels := by
        rw [AppState.setAdapter, left]
      have told : withdrawnUser (state.adapter.ns conn.app.id) conn.socketId channel
          (some userId) = [.memberRemoved channel userId] := by
        simp [withdrawnUser, removedEvents, Namespace.takesUser, taken]
      rw [if_pos rfl, if_pos rfl, outside_sendToChannel removed, members, same,
        Outside.change_change] at notified
      rw [if_pos rfl, notified, parting_of_gone taken, told]
      rfl
  | false =>
      have stays : (state.adapter.ns conn.app.id).takesUser conn.socketId channel
          (some userId) = false := taken
      have told : withdrawnUser (state.adapter.ns conn.app.id) conn.socketId channel
          (some userId) = [] := by
        simp [withdrawnUser, removedEvents, stays]
      rw [if_neg Bool.false_ne_true, parting_of_stays stays, told,
        Outside.change_nothing]
      rfl

theorem outside_departed {between : AppState} {user : Option String}
    (withdrawn : outside between conn.socketId =
      (outside state conn.socketId).withdraw conn.app.id conn.socketId channel user) :
    outside (leaveChannel between conn channel) conn.socketId =
      (outside state conn.socketId).depart conn.app conn.socketId channel user := by
  have adapter := congrArg Outside.adapter withdrawn
  rw [outside_leaveChannel, withdrawn]
  cases user with
  | none =>
      have same : between.adapter = state.adapter := adapter
      rw [same, Outside.depart, outside_adapter, parting_of_stays rfl,
        LocalAdapter.removeFromChannel, LocalAdapter.changeWith_fst]
      rfl
  | some userId =>
      have same : between.adapter = (state.adapter.removePresenceMember conn.app.id
        channel conn.socketId userId).1 := adapter
      obtain ⟨left, _⟩ := LocalAdapter.ns_removePresenceMember state.adapter conn.app.id
        channel conn.socketId userId conn.app.id
      rw [if_pos rfl] at left
      have both : ((state.adapter.removePresenceMember conn.app.id channel conn.socketId
          userId).1.removeFromChannel conn.app.id conn.socketId channel).1 =
          state.adapter.depart conn.app.id conn.socketId channel (some userId) := by
        rw [LocalAdapter.removeFromChannel, LocalAdapter.changeWith_fst,
          LocalAdapter.removePresenceMember, LocalAdapter.changeWith_fst,
          Table.modify_modify]
        rfl
      rw [same, left, Namespace.vacates_removePresenceMember, both, Outside.withdraw,
        Outside.change_change]
      rfl

def departing (conn : WsConnection) (channel : String) : Option String :=
  if (ChannelKind.fromName channel).isPresence then
    (conn.getPresence channel).map Prod.fst
  else none

theorem outside_closeChannel (handled : Handled state.adapter conn.app.id) :
    outside (closeChannel moment conn state channel) conn.socketId =
      (outside state conn.socketId).depart conn.app conn.socketId channel
        (departing conn channel) := by
  apply outside_departed
  unfold departing
  split
  · cases conn.getPresence channel with
    | none => rfl
    | some member => exact outside_leavePresence handled
  · rfl

theorem outside_leave (handled : Handled state.adapter conn.app.id) :
    outside (Unsubscribe.leave moment state conn channel) conn.socketId =
      (outside state conn.socketId).depart conn.app conn.socketId channel
        (departing conn channel) := by
  apply outside_departed
  rw [outside_changeConn]
  unfold departing Unsubscribe.withdraw
  split
  · cases conn.getPresence channel with
    | none => rfl
    | some member =>
        have left := @outside_leavePresence moment (state.changeConn conn.socketId
          fun stored => stored.removePresence channel) conn channel member.1 handled
        rw [outside_changeConn] at left
        exact left
  · rfl

theorem Handled.depart {adapter : LocalAdapter} {appId : String}
    {user : Option String} (handled : Handled adapter appId) :
    Handled (adapter.depart appId socketId channel user) appId := by
  apply handled.of_fewer
  · rw [LocalAdapter.ns_depart, if_pos rfl, Namespace.sockets_depart]
  · intro place member there
    rw [LocalAdapter.ns_depart, if_pos rfl] at there
    exact Namespace.mem_of_depart there

end

/-! Several channels are left one after another. -/

section

variable {app : App} {socketId channel : String} {ns after : Namespace}
  {user : Option String}

theorem departureEvents_congr (same : Namespace.SameAt channel ns after) :
    departureEvents app after socketId channel user =
      departureEvents app ns socketId channel user := by
  have left : (after.depart socketId channel user).channels.members channel =
      (ns.depart socketId channel user).channels.members channel := same.depart.members
  unfold departureEvents withdrawnUser
  rw [same.takesUser, same.vacates, left]

theorem parting_congr (same : Namespace.SameAt channel ns after) :
    parting after socketId channel user = parting ns socketId channel user := by
  funext receiver
  rw [parting, parting, same.takesUser, same.members]

end

namespace Outside

variable {app : App} {socketId : String} {users : String → Option String}

def departAll (outside : Outside) (app : App) (socketId : String)
    (users : String → Option String) (channels : List String) : Outside :=
  channels.foldl
    (fun outside channel => outside.depart app socketId channel (users channel)) outside

/-- What is sent and enqueued for a channel is what the namespace at the start
gives rise to. -/
theorem departAll_eq {channels : List String} (distinct : channels.Nodup)
    (outside : Outside) :
    outside.departAll app socketId users channels =
      { adapter := channels.foldl (fun adapter channel =>
          adapter.depart app.id socketId channel (users channel)) outside.adapter
        webhooks := outside.webhooks.modify app.id fun queue =>
          queue ++ channels.flatMap fun channel => departureEvents app
            (outside.adapter.ns app.id) socketId channel (users channel)
        others := fun receiver => (outside.others receiver).map fun conn =>
          (channels.filterMap fun channel => parting (outside.adapter.ns app.id)
            socketId channel (users channel) receiver).foldl WsConnection.sendRaw
              conn } := by
  induction channels generalizing outside with
  | nil => simp [departAll, Table.modify_self]
  | cons first rest induction =>
      obtain ⟨fresh, distinct⟩ := List.nodup_cons.mp distinct
      have same : ∀ channel ∈ rest, Namespace.SameAt channel (outside.adapter.ns app.id)
          ((outside.depart app socketId first (users first)).adapter.ns app.id) := by
        intro channel member
        have different : channel ≠ first := fun same => fresh (same ▸ member)
        have left := @LocalAdapter.ns_depart outside.adapter app.id socketId first
          (users first) app.id
        rw [if_pos rfl] at left
        exact left ▸ Namespace.sameAt_depart different
      have events := List.flatMap_congr fun channel member =>
        @departureEvents_congr app socketId channel _ _ (users channel)
          (same channel member)
      have frames := fun receiver => List.filterMap_congr fun channel member =>
        congrFun (@parting_congr socketId channel _ _ (users channel)
          (same channel member)) receiver
      have later := induction distinct (outside.depart app socketId first (users first))
      simp only [events, frames] at later
      refine later.trans ?_
      simp only [depart, change, Table.modify_modify, Option.map_map, mk.injEq]
      refine ⟨rfl, ?_, ?_⟩
      · congr 1
        funext queue
        simp
      · funext receiver
        congr 1
        funext conn
        rw [List.filterMap_cons]
        cases parting (outside.adapter.ns app.id) socketId first (users first) receiver
          with
        | none => rfl
        | some frame => rfl

end Outside

end RushSocket.Server
