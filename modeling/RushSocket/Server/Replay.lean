import RushSocket.Server.Agreement
import RushSocket.Server.Ledger

namespace RushSocket.Server

open Adapter Data Protocol Transition Websocket

/-! The webhooks of an app, replayed from the start, tell which channels there
are and which users are in them. -/

structure Replayed where
  channels : Finset String
  members : Finset (String × String)
  deriving DecidableEq

namespace Replayed

def empty : Replayed where
  channels := ∅
  members := ∅

/-- An event inserts what is absent or deletes what is present; the events of
other names do neither. -/
def apply (replayed : Replayed) (event : WebhookEvent) : Option Replayed :=
  if event.name = "channel_occupied" then
    if event.channel ∈ replayed.channels then none
    else some { replayed with channels := insert event.channel replayed.channels }
  else if event.name = "channel_vacated" then
    if event.channel ∈ replayed.channels then
      some { replayed with channels := replayed.channels.erase event.channel }
    else none
  else if event.name = "member_added" then
    event.userId.bind fun userId =>
      if (event.channel, userId) ∈ replayed.members then none
      else some { replayed with
        members := insert (event.channel, userId) replayed.members }
  else if event.name = "member_removed" then
    event.userId.bind fun userId =>
      if (event.channel, userId) ∈ replayed.members then
        some { replayed with
          members := replayed.members.erase (event.channel, userId) }
      else none
  else some replayed

def applyAll (replayed : Replayed) : List WebhookEvent → Option Replayed
  | [] => some replayed
  | event :: rest => (replayed.apply event).bind fun next => next.applyAll rest

/-! What each of the four events does. -/

theorem apply_channelOccupied (replayed : Replayed) (channel : String) :
    replayed.apply (.channelOccupied channel) =
      if channel ∈ replayed.channels then none
      else some { replayed with channels := insert channel replayed.channels } :=
  if_pos rfl

theorem apply_channelVacated (replayed : Replayed) (channel : String) :
    replayed.apply (.channelVacated channel) =
      if channel ∈ replayed.channels then
        some { replayed with channels := replayed.channels.erase channel }
      else none := by
  have other : "channel_vacated" ≠ "channel_occupied" := by decide
  exact (if_neg other).trans (if_pos rfl)

theorem apply_memberAdded (replayed : Replayed) (channel userId : String) :
    replayed.apply (.memberAdded channel userId) =
      if (channel, userId) ∈ replayed.members then none
      else some { replayed with
        members := insert (channel, userId) replayed.members } := by
  have first : "member_added" ≠ "channel_occupied" := by decide
  have second : "member_added" ≠ "channel_vacated" := by decide
  exact (if_neg first).trans ((if_neg second).trans (if_pos rfl))

theorem apply_memberRemoved (replayed : Replayed) (channel userId : String) :
    replayed.apply (.memberRemoved channel userId) =
      if (channel, userId) ∈ replayed.members then
        some { replayed with members := replayed.members.erase (channel, userId) }
      else none := by
  have first : "member_removed" ≠ "channel_occupied" := by decide
  have second : "member_removed" ≠ "channel_vacated" := by decide
  have third : "member_removed" ≠ "member_added" := by decide
  exact (if_neg first).trans ((if_neg second).trans ((if_neg third).trans (if_pos rfl)))

theorem applyAll_append (replayed : Replayed) (first second : List WebhookEvent) :
    replayed.applyAll (first ++ second) =
      (replayed.applyAll first).bind fun middle => middle.applyAll second := by
  induction first generalizing replayed with
  | nil => rfl
  | cons event rest induction =>
      simp only [List.cons_append, applyAll]
      cases replayed.apply event with
      | none => rfl
      | some next => exact induction next

theorem apply_of_plain (replayed : Replayed) {event : WebhookEvent}
    (plain : event.describes = false) : replayed.apply event = some replayed := by
  simp only [WebhookEvent.describes, Bool.or_eq_false_iff, decide_eq_false_iff_not]
    at plain
  simp [apply, plain]

/-- Events that describe no change can be left out. -/
theorem applyAll_filter (replayed : Replayed) (events : List WebhookEvent) :
    replayed.applyAll (events.filter WebhookEvent.describes) =
      replayed.applyAll events := by
  induction events generalizing replayed with
  | nil => rfl
  | cons event rest induction =>
      cases describes : event.describes with
      | true =>
          rw [List.filter_cons_of_pos describes]
          simp only [applyAll]
          cases replayed.apply event with
          | none => rfl
          | some next => exact induction next
      | false =>
          rw [List.filter_cons_of_neg (by simp [describes]), applyAll,
            apply_of_plain replayed describes]
          exact induction replayed

end Replayed

def replay (events : List WebhookEvent) : Option Replayed := Replayed.empty.applyAll events

/-- No channel is kept without a subscriber. -/
def Tidy (ns : Namespace) : Prop :=
  ∀ channel, ns.channels.lookup channel ≠ some ∅

structure Mirrors (ns : Namespace) (replayed : Replayed) : Prop where
  channels : ∀ channel,
    channel ∈ replayed.channels ↔ channel ∈ ns.channels.keys
  members : ∀ channel userId,
    (channel, userId) ∈ replayed.members ↔ userId ∈ (ns.presenceOf channel).keys

/-- What happens to a namespace is what the events tell of it. -/
structure Follows (before after : Namespace) (events : List WebhookEvent) : Prop where
  tidy : Tidy before → Tidy after
  replayed : Tidy before → ∀ replayed, Mirrors before replayed →
    ∃ next, replayed.applyAll events = some next ∧ Mirrors after next

section

variable {before between after ns : Namespace} {socketId channel userId : String}
  {userInfo : Value}

theorem Follows.trans {first second : List WebhookEvent}
    (early : Follows before between first) (late : Follows between after second) :
    Follows before after (first ++ second) where
  tidy tidy := late.tidy (early.tidy tidy)
  replayed := by
    intro tidy replayed mirrors
    obtain ⟨middle, applied, mirrored⟩ := early.replayed tidy replayed mirrors
    obtain ⟨last, finished, holds⟩ := late.replayed (early.tidy tidy) middle mirrored
    refine ⟨last, ?_, holds⟩
    rw [Replayed.applyAll_append, applied]
    exact finished

theorem Follows.quiet (channels : after.channels = before.channels)
    (members : ∀ channel,
      (after.presenceOf channel).keys = (before.presenceOf channel).keys) :
    Follows before after [] where
  tidy tidy := by
    intro channel
    rw [channels]
    exact tidy channel
  replayed _ replayed mirrors := by
    refine ⟨replayed, rfl, ?_, ?_⟩
    · intro channel
      rw [channels]
      exact mirrors.channels channel
    · intro channel userId
      rw [members]
      exact mirrors.members channel userId

theorem Follows.same : Follows ns ns [] := .quiet rfl fun _ => rfl

theorem Tidy.mem_keys_iff (tidy : Tidy ns) :
    channel ∈ ns.channels.keys ↔ ns.channels.members channel ≠ ∅ := by
  rw [Table.mem_keys_iff]
  cases found : ns.channels.lookup channel with
  | none => simp [Table.members_of_none found]
  | some stored =>
      rw [Table.members_of_lookup found]
      refine iff_of_true ⟨stored, rfl⟩ ?_
      rintro rfl
      exact tidy channel found

theorem follows_addToChannel :
    Follows ns (ns.addToChannel socketId channel).1
      (occupiedEvents (ns.addToChannel socketId channel).2 channel) where
  tidy := by
    intro tidy other empty
    simp only [Namespace.addToChannel, Namespace.insertMember, Table.lookup_enroll]
      at empty
    split at empty
    · simp at empty
    · exact tidy other empty
  replayed := by
    intro tidy replayed mirrors
    have keys : (ns.addToChannel socketId channel).1.channels.keys =
        insert channel ns.channels.keys := Table.keys_put ..
    have known : channel ∈ replayed.channels ↔ ns.channels.members channel ≠ ∅ :=
      (mirrors.channels channel).trans tidy.mem_keys_iff
    have flag := ns.addToChannel_snd socketId channel
    cases occupied : (ns.addToChannel socketId channel).2 with
    | true =>
        have fresh : channel ∉ replayed.channels := by
          rw [known, not_not]
          exact flag.mp occupied
        refine ⟨{ replayed with channels := insert channel replayed.channels }, ?_,
          ?_, mirrors.members⟩
        · simp [occupiedEvents, Replayed.applyAll, Replayed.apply_channelOccupied, fresh]
        · intro other
          rw [keys, Finset.mem_insert, Finset.mem_insert, mirrors.channels]
    | false =>
        have present : channel ∈ ns.channels.keys := by
          rw [tidy.mem_keys_iff]
          intro empty
          rw [flag.mpr empty] at occupied
          cases occupied
        refine ⟨replayed, rfl, ?_, mirrors.members⟩
        intro other
        rw [keys, Finset.insert_eq_of_mem present]
        exact mirrors.channels other

/-! What is left of the channels after a removal. -/

theorem channels_of_vacated
    (vacated : (ns.removeFromChannel socketId channel).2 = true) :
    (ns.removeFromChannel socketId channel).1.channels =
      (ns.channels.discard channel socketId).erase channel := by
  have flag : (ns.dropMember socketId channel).2 = true := vacated
  simp only [Namespace.removeFromChannel, Namespace.dropReverse, flag, if_true,
    Namespace.deleteChannel, Namespace.dropMember_fst]

theorem channels_of_remaining
    (remaining : (ns.removeFromChannel socketId channel).2 = false) :
    (ns.removeFromChannel socketId channel).1.channels =
      ns.channels.discard channel socketId := by
  have flag : (ns.dropMember socketId channel).2 = false := remaining
  simp only [Namespace.removeFromChannel, Namespace.dropReverse, flag,
    Bool.false_eq_true, if_false, Namespace.dropMember_fst]

theorem vacated_removeFromChannel :
    (ns.removeFromChannel socketId channel).2 = true ↔
      (ns.channels.discard channel socketId).lookup channel = some ∅ :=
  ns.dropMember_snd socketId channel

theorem keys_removeFromChannel :
    (ns.removeFromChannel socketId channel).1.channels.keys =
      (if (ns.removeFromChannel socketId channel).2 then
        ns.channels.keys.erase channel else ns.channels.keys) ∧
      ((ns.removeFromChannel socketId channel).2 = true →
        channel ∈ ns.channels.keys) := by
  have kept : (ns.channels.discard channel socketId).keys = ns.channels.keys :=
    Table.keys_modify ns.channels channel _
  constructor
  · cases flag : (ns.removeFromChannel socketId channel).2 with
    | true => rw [channels_of_vacated flag, Table.keys_drop, kept, if_pos rfl]
    | false => exact (congrArg Finmap.keys (channels_of_remaining flag)).trans kept
  · intro vacated
    rw [← kept, Table.mem_keys_iff]
    exact ⟨∅, vacated_removeFromChannel.mp vacated⟩

theorem follows_removeFromChannel :
    Follows ns (ns.removeFromChannel socketId channel).1
      (vacatedEvents (ns.removeFromChannel socketId channel).2 channel) where
  tidy := by
    intro tidy other empty
    have discarded : other ≠ channel →
        (ns.channels.discard channel socketId).lookup other ≠ some ∅ := by
      intro different
      rw [Table.discard, Table.lookup_modify, if_neg different]
      exact tidy other
    cases flag : (ns.removeFromChannel socketId channel).2 with
    | true =>
        rw [channels_of_vacated flag, Table.lookup_drop] at empty
        split at empty
        · cases empty
        · rename_i different
          exact discarded different empty
    | false =>
        rw [channels_of_remaining flag] at empty
        refine discarded ?_ empty
        rintro rfl
        rw [vacated_removeFromChannel.mpr empty] at flag
        cases flag
  replayed := by
    intro tidy replayed mirrors
    obtain ⟨keys, present⟩ := @keys_removeFromChannel ns socketId channel
    have members : ∀ other, (ns.removeFromChannel socketId channel).1.presenceOf
        other = ns.presenceOf other := by
      intro other
      simp only [Namespace.removeFromChannel, Namespace.dropReverse,
        Namespace.dropMember_fst]
      split <;> rfl
    cases vacated : (ns.removeFromChannel socketId channel).2 with
    | true =>
        rw [vacated, if_pos rfl] at keys
        have known := (mirrors.channels channel).mpr (present vacated)
        refine ⟨{ replayed with channels := replayed.channels.erase channel }, ?_,
          ?_, ?_⟩
        · simp [vacatedEvents, Replayed.applyAll, Replayed.apply_channelVacated, known]
        · intro other
          rw [keys, Finset.mem_erase, Finset.mem_erase, mirrors.channels]
        · intro other user
          rw [members]
          exact mirrors.members other user
    | false =>
        rw [vacated] at keys
        refine ⟨replayed, rfl, ?_, ?_⟩
        · intro other
          rw [keys]
          exact mirrors.channels other
        · intro other user
          rw [members]
          exact mirrors.members other user

theorem Follows.of_members {events : List WebhookEvent}
    (channels : after.channels = before.channels)
    (replayed : ∀ replayed, Mirrors before replayed →
      ∃ members, replayed.applyAll events = some { replayed with members } ∧
        ∀ channel userId, (channel, userId) ∈ members ↔
          userId ∈ (after.presenceOf channel).keys) :
    Follows before after events where
  tidy tidy := by
    intro channel
    rw [channels]
    exact tidy channel
  replayed _ known mirrors := by
    obtain ⟨members, applied, holds⟩ := replayed known mirrors
    refine ⟨_, applied, ?_, holds⟩
    intro channel
    rw [channels]
    exact mirrors.channels channel

theorem follows_tryAddPresenceMember {maxMembers : Nat} {isNew : Bool}
    {members : Table String Value}
    (accepted : (ns.tryAddPresenceMember channel socketId userId userInfo
      maxMembers).2 = .ok (isNew, members)) :
    Follows ns
      (ns.tryAddPresenceMember channel socketId userId userInfo maxMembers).1
      (addedEvents isNew channel userId) := by
  obtain ⟨presence, ⟨refused, _⟩ | ⟨returned, shape, keys⟩⟩ :=
    ns.tryAddPresenceMember_cases channel socketId userId userInfo maxMembers
  · rw [refused] at accepted
    cases accepted
  rw [shape] at accepted ⊢
  obtain ⟨rfl, _⟩ := Prod.mk.inj (Except.ok.inj accepted)
  have others : ∀ other, other ≠ channel →
      Namespace.presenceOf { ns with presence } other = ns.presenceOf other := by
    intro other different
    have same := ns.presenceOf_tryAddPresenceMember_other channel socketId userId
      userInfo maxMembers different
    rw [shape] at same
    exact same
  refine Follows.of_members (Eq.refl ns.channels) fun replayed mirrors => ?_
  have known := mirrors.members channel userId
  by_cases present : userId ∈ (ns.presenceOf channel).keys
  · refine ⟨replayed.members, ?_, ?_⟩
    · simp [addedEvents, present, Replayed.applyAll]
    · intro other user
      rw [mirrors.members]
      by_cases same : other = channel
      · rw [same, keys, Finset.insert_eq_of_mem present]
      · rw [others other same]
  · refine ⟨insert (channel, userId) replayed.members, ?_, ?_⟩
    · simp [addedEvents, present, Replayed.applyAll, Replayed.apply_memberAdded, known]
    · intro other user
      rw [Finset.mem_insert, Prod.mk.injEq, mirrors.members]
      by_cases same : other = channel
      · simp [same, keys]
      · simp [same, others other same]

theorem follows_tryAddPresenceMember_refused {maxMembers : Nat} {refusal : Unit}
    (refused : (ns.tryAddPresenceMember channel socketId userId userInfo
      maxMembers).2 = .error refusal) :
    Follows ns
      (ns.tryAddPresenceMember channel socketId userId userInfo maxMembers).1 [] := by
  obtain ⟨presence, ⟨shape, same⟩ | ⟨returned, shape, _⟩⟩ :=
    ns.tryAddPresenceMember_cases channel socketId userId userInfo maxMembers
  · refine .quiet (congrArg (Namespace.channels ∘ Prod.fst) shape) fun other => ?_
    by_cases here : other = channel
    · rw [here, shape, same]
    · rw [ns.presenceOf_tryAddPresenceMember_other channel socketId userId userInfo
        maxMembers here]
  · rw [shape] at refused
    cases refused

theorem follows_removePresenceMember :
    Follows ns (ns.removePresenceMember channel socketId userId).1
      (removedEvents (ns.removePresenceMember channel socketId userId).2 channel
        userId) := by
  obtain ⟨presence, shape⟩ := ns.removePresenceMember_fst channel socketId userId
  have keys := ns.keys_removePresenceMember channel socketId userId
  have others : ∀ {other}, other ≠ channel → _ :=
    ns.presenceOf_removePresenceMember_other channel socketId userId
  have channels := congrArg Namespace.channels shape
  refine .of_members channels fun replayed mirrors => ?_
  cases gone : (ns.removePresenceMember channel socketId userId).2 with
  | true =>
      have known := (mirrors.members channel userId).mpr
        (Namespace.mem_of_removePresenceMember gone)
      rw [gone, if_pos rfl] at keys
      refine ⟨replayed.members.erase (channel, userId), ?_, ?_⟩
      · simp [removedEvents, Replayed.applyAll, Replayed.apply_memberRemoved, known]
      · intro other user
        rw [Finset.mem_erase, mirrors.members]
        by_cases same : other = channel
        · simp [same, keys]
        · simp [same, others same]
  | false =>
      rw [gone] at keys
      refine ⟨replayed.members, rfl, fun other user => ?_⟩
      rw [mirrors.members]
      by_cases same : other = channel
      · rw [same, keys, if_neg Bool.false_ne_true]
      · rw [others same]

end

/-! The handlers. -/

/-- An app is told what happens to its namespace, and of the other namespaces
there is nothing to tell. -/
structure Tells (appId : String) (before after : AppState) : Prop where
  told : ∃ events,
    after.ledger.stream = (before.ledger.tell appId events).stream ∧
      Follows (before.adapter.ns appId) (after.adapter.ns appId) events
  others : ∀ {other}, other ≠ appId →
    Follows (before.adapter.ns other) (after.adapter.ns other) []

section

variable {appId : String} {before between after : AppState}

theorem Tells.trans (early : Tells appId before between)
    (late : Tells appId between after) : Tells appId before after where
  told := by
    obtain ⟨first, heard, follows⟩ := early.told
    obtain ⟨second, heardAfter, followsAfter⟩ := late.told
    refine ⟨first ++ second, ?_, follows.trans followsAfter⟩
    rw [heardAfter, ← Ledger.tell_tell]
    simp only [Ledger.tell, heard]
  others other := (early.others other).trans (late.others other)

theorem Tells.of_ns {ns : Namespace} {events : List WebhookEvent}
    (heard : after.ledger = before.ledger.tell appId events)
    (after_ns : ∀ other, after.adapter.ns other =
      if other = appId then ns else before.adapter.ns other)
    (follows : Follows (before.adapter.ns appId) ns events) :
    Tells appId before after where
  told := by
    refine ⟨events, congrArg Ledger.stream heard, ?_⟩
    rw [after_ns, if_pos rfl]
    exact follows
  others different := by
    rw [after_ns, if_neg different]
    exact .same

theorem Tells.of_keeps (stream : after.ledger.stream = before.ledger.stream)
    (keeps : LocalAdapter.Keeps (fun ns => (ns.channels, ns.presence)) before.adapter
      after.adapter) : Tells appId before after := by
  have quiet : ∀ other, Follows (before.adapter.ns other) (after.adapter.ns other)
      [] := by
    intro other
    obtain ⟨channels, presence⟩ := Prod.mk.inj (keeps other)
    refine .quiet channels fun channel => ?_
    rw [Namespace.presenceOf, presence, Namespace.presenceOf]
  refine ⟨⟨[], ?_, quiet appId⟩, fun _ => quiet _⟩
  rw [stream, Ledger.tell_of_plain _ _ rfl]

theorem Tells.of_same (stream : after.ledger.stream = before.ledger.stream)
    (adapter : after.adapter = before.adapter) : Tells appId before after := by
  refine .of_keeps stream ?_
  rw [adapter]
  exact LocalAdapter.Keeps.refl _ _

end

section

variable (moment : Moment) (state : AppState) (conn : WsConnection)
  (channel : String)

theorem tells_joinChannel (authenticated : Bool) :
    Tells conn.app.id state
      (Subscribe.joinChannel moment state conn channel authenticated) := by
  have adapter := congrArg Core.adapter
    (core_joinChannel moment state conn channel authenticated)
  have follows := @follows_addToChannel (state.adapter.ns conn.app.id) conn.socketId
    channel
  refine .of_ns (ledger_joinChannel ..) (fun other => ?_) follows
  exact (congrArg (LocalAdapter.ns · other) adapter).trans
    (state.adapter.ns_addToChannel conn.app.id conn.socketId channel other)

/-- The channel is told of before the user, but taken after it. -/
theorem Replayed.applyAll_joined (replayed : Replayed) (occupied isNew : Bool)
    (channel userId : String) :
    replayed.applyAll
        (occupiedEvents occupied channel ++ addedEvents isNew channel userId) =
      replayed.applyAll
        (addedEvents isNew channel userId ++ occupiedEvents occupied channel) := by
  cases occupied with
  | false => simp [occupiedEvents]
  | true =>
      cases isNew with
      | false => simp [addedEvents]
      | true =>
          simp only [occupiedEvents, addedEvents, if_true, List.cons_append,
            List.nil_append, applyAll, apply_channelOccupied, apply_memberAdded]
          by_cases there : channel ∈ replayed.channels
          · by_cases present : (channel, userId) ∈ replayed.members
            · simp [there, present]
            · simp [there, present]
          · by_cases present : (channel, userId) ∈ replayed.members
            · simp [there, present]
            · simp [there, present]

theorem Follows.joined {before after : Namespace} {occupied isNew : Bool}
    {userId : String}
    (follows : Follows before after
      (addedEvents isNew channel userId ++ occupiedEvents occupied channel)) :
    Follows before after
      (occupiedEvents occupied channel ++ addedEvents isNew channel userId) where
  tidy := follows.tidy
  replayed := by
    intro tidy replayed mirrors
    rw [Replayed.applyAll_joined]
    exact follows.replayed tidy replayed mirrors

/-- The namespaces after a join that the limit accepts. -/
theorem ns_joinPresence {userId : String} {userInfo : Value} {isNew : Bool}
    {members : Table String Value}
    (accepted : (state.adapter.tryAddPresenceMember conn.app.id channel conn.socketId
      userId userInfo conn.app.maxPresenceMembersPerChannel).2 = .ok (isNew, members))
    (other : String) :
    (Subscribe.joinPresence moment state conn channel userId
        userInfo).adapter.ns other =
      if other = conn.app.id then
        (((state.adapter.tryAddPresenceMember conn.app.id channel conn.socketId userId
          userInfo conn.app.maxPresenceMembersPerChannel).1.ns
            conn.app.id).addToChannel conn.socketId channel).1
      else state.adapter.ns other := by
  have core := core_joinPresence moment state conn channel userId userInfo
  have joins : (state.core.adapter.tryAddPresenceMember conn.app.id channel
      conn.socketId userId userInfo
      conn.app.maxPresenceMembersPerChannel).2.isOk = true :=
    congrArg Except.isOk accepted
  rw [Core.joinPresence_of_ok joins] at core
  have tried := state.adapter.ns_tryAddPresenceMember conn.app.id channel
    conn.socketId userId userInfo conn.app.maxPresenceMembersPerChannel
  refine (congrArg (LocalAdapter.ns · other) (congrArg Core.adapter core)).trans ?_
  refine (LocalAdapter.ns_addToChannel _ conn.app.id conn.socketId channel
    other).trans ?_
  split
  · rfl
  · rename_i different
    exact (tried other).trans (if_neg different)

theorem ns_joinPresence_refused {userId : String} {userInfo : Value}
    (refused : (state.adapter.tryAddPresenceMember conn.app.id channel conn.socketId
      userId userInfo conn.app.maxPresenceMembersPerChannel).2 = .error ())
    (other : String) :
    (Subscribe.joinPresence moment state conn channel userId
        userInfo).adapter.ns other =
      if other = conn.app.id then
        ((state.adapter.ns conn.app.id).tryAddPresenceMember channel conn.socketId
          userId userInfo conn.app.maxPresenceMembersPerChannel).1
      else state.adapter.ns other := by
  have core := core_joinPresence moment state conn channel userId userInfo
  have fails : (state.core.adapter.tryAddPresenceMember conn.app.id channel
      conn.socketId userId userInfo
      conn.app.maxPresenceMembersPerChannel).2.isOk = false :=
    congrArg Except.isOk refused
  rw [Core.joinPresence_of_error fails] at core
  exact (congrArg (LocalAdapter.ns · other) (congrArg Core.adapter core)).trans
    (state.adapter.ns_tryAddPresenceMember conn.app.id channel conn.socketId userId
      userInfo conn.app.maxPresenceMembersPerChannel other)

theorem tells_joinPresence (userId : String) (userInfo : Value) :
    Tells conn.app.id state
      (Subscribe.joinPresence moment state conn channel userId userInfo) := by
  cases outcome : (state.adapter.tryAddPresenceMember conn.app.id channel
      conn.socketId userId userInfo conn.app.maxPresenceMembersPerChannel).2 with
  | error refused =>
      refine .of_ns ?_ (ns_joinPresence_refused moment state conn channel outcome)
        (follows_tryAddPresenceMember_refused outcome)
      rw [Ledger.tell_of_plain _ _ rfl]
      exact ledger_joinPresence_refused _ _ _ _ outcome
  | ok returned =>
      obtain ⟨isNew, members⟩ := returned
      have tried := state.adapter.ns_tryAddPresenceMember conn.app.id channel
        conn.socketId userId userInfo conn.app.maxPresenceMembersPerChannel
        conn.app.id
      rw [if_pos rfl] at tried
      have follows := (follows_tryAddPresenceMember outcome).trans
        (@follows_addToChannel _ conn.socketId channel)
      rw [← tried] at follows
      exact .of_ns (ledger_joinPresence_accepted _ _ _ _ outcome)
        (ns_joinPresence moment state conn channel outcome) (follows.joined _)

theorem tells_leavePresence (userId : String) :
    Tells conn.app.id state (leavePresence moment state conn channel userId) := by
  have adapter := congrArg Core.adapter
    (core_leavePresence moment state conn channel userId)
  have removed := state.adapter.ns_removePresenceMember conn.app.id channel
    conn.socketId userId
  refine .of_ns (ledger_leavePresence ..)
    (fun other => (congrArg (LocalAdapter.ns · other) adapter).trans (removed other).1)
    ?_
  rw [(removed conn.app.id).2]
  exact follows_removePresenceMember

theorem tells_leaveChannel :
    Tells conn.app.id state (leaveChannel state conn channel) := by
  have adapter := congrArg Core.adapter (core_leaveChannel state conn channel)
  have removed := state.adapter.ns_removeFromChannel conn.app.id conn.socketId channel
  refine .of_ns (ledger_leaveChannel ..)
    (fun other => (congrArg (LocalAdapter.ns · other) adapter).trans (removed other).1)
    ?_
  rw [(removed conn.app.id).2]
  exact follows_removeFromChannel

theorem tells_changeConn (appId : String) {change : WsConnection → WsConnection} :
    Tells appId state (state.changeConn conn.socketId change) :=
  .of_same rfl rfl

theorem tells_leave :
    Tells conn.app.id state (Unsubscribe.leave moment state conn channel) := by
  have withdrawn : Tells conn.app.id state
      (Unsubscribe.withdraw moment state conn channel) := by
    unfold Unsubscribe.withdraw
    split
    · split
      · exact (tells_changeConn state conn _).trans (tells_leavePresence ..)
      · exact .of_same rfl rfl
    · exact .of_same rfl rfl
  exact (withdrawn.trans (tells_changeConn _ conn _)).trans
    (tells_leaveChannel _ conn channel)

theorem tells_closePresence :
    Tells conn.app.id state
      (if (ChannelKind.fromName channel).isPresence then
        match conn.getPresence channel with
        | some (userId, _) => leavePresence moment state conn channel userId
        | none => state
      else state) := by
  split
  · split
    · exact tells_leavePresence ..
    · exact .of_same rfl rfl
  · exact .of_same rfl rfl

theorem tells_closeChannel :
    Tells conn.app.id state (closeChannel moment conn state channel) :=
  (tells_closePresence moment state conn channel).trans (tells_leaveChannel _ conn channel)

theorem tells_closeChannels (channels : List String) :
    Tells conn.app.id state (channels.foldl (closeChannel moment conn) state) := by
  induction channels generalizing state with
  | nil => exact .of_same rfl rfl
  | cons channel rest induction =>
      exact (tells_closeChannel moment state conn channel).trans (induction _)

theorem tells_accept (userId userDataText : String) (userData : Value) :
    Tells conn.app.id state
      (Signin.accept state conn userId userDataText userData) := by
  have adapter := congrArg Core.adapter
    (core_accept state conn userId userDataText userData)
  refine .of_keeps rfl ?_
  change LocalAdapter.Keeps _ _ (Signin.accept state conn userId userDataText
    userData).core.adapter
  rw [adapter]
  exact LocalAdapter.keeps_addUser fun _ _ => rfl

end

section

variable {crates : Crates} {apps : List App} {cacheTtl : Nat} {moment : Moment}
  {state after : AppState} {conn : WsConnection} {text : String}

theorem Response.tells (response : Response crates moment conn text state after) :
    Tells conn.app.id state after := by
  cases response with
  | ignored => exact .of_same rfl rfl
  | replied => exact .of_same rfl rfl
  | joined => exact tells_joinChannel ..
  | joinedPresence => exact tells_joinPresence ..
  | unsubscribed => exact tells_leave ..
  | signedIn => exact tells_accept ..
  | refused => exact .of_same rfl rfl
  | @forwarded msg channel =>
      have core := core_forward moment (ClientEvent.counted moment state conn) conn msg
        channel
      exact .of_same (congrArg Ledger.stream (ledger_forward ..))
        (congrArg Core.adapter core)

theorem tells_onClose (agree : Agree state.core)
    (found : state.core.view conn.socketId = some conn.view) :
    Tells conn.app.id state (onClose moment state conn) := by
  have left := core_closeChannels moment conn state
    (moment.order.list conn.subscribedChannels)
  have kept : LocalAdapter.Keeps (fun ns => (ns.channels, ns.presence))
      (state.core.closeChannels conn
        (moment.order.list conn.subscribedChannels)).adapter
      (state.core.close moment.order conn).adapter :=
    (keeps_forgetUser fun _ _ => rfl).trans (LocalAdapter.keeps_removeSocket_idle
      (agree.idle found moment.order) fun _ _ _ _ => rfl)
  rw [← left, ← core_onClose] at kept
  refine (tells_closeChannels moment state conn _).trans (.of_keeps ?_ kept)
  unfold onClose
  cases conn.user with
  | none => rfl
  | some user => rfl

theorem tells_handshake (crates : Crates) {key socketId : String}
    (absent : state.connections.lookup socketId = none) :
    ∃ appId, Tells appId state (state.accept key socketId) := by
  have change := @change_accept crates state key socketId absent
  have stream := congrArg Ledger.stream (@ledger_handshake state key socketId)
  generalize shape : (state.accept key socketId).core = core at change
  have adapter := congrArg Core.adapter shape
  change (state.accept key socketId).adapter = core.adapter at adapter
  cases change with
  | kept quiet => cases quiet
  | refused absent same =>
      refine ⟨"", .of_keeps stream ?_⟩
      rw [adapter]
      exact fun appId => congrArg (fun ns => (ns.channels, ns.presence)) (same appId)
  | @entered _ _ app _ _ added =>
      refine ⟨app.id, .of_keeps stream ?_⟩
      rw [adapter]
      intro appId
      have entered := state.adapter.ns_tryAddSocket app.id ⟨socketId⟩
        app.maxConnections appId
      rw [added] at entered
      refine (congrArg (fun ns => (ns.channels, ns.presence)) entered).trans ?_
      split
      · rename_i same
        rw [same]
        rfl
      · rfl

theorem tells_step {action : Action} {next : AppState} (agree : Agree state.core)
    (stepped : step crates state action = some next) :
    ∃ appId, Tells appId state next := by
  simp only [step, Option.map_eq_some_iff] at stepped
  obtain ⟨after, performed, rfl⟩ := stepped
  cases action with
  | accept key socketId =>
      simp only [perform] at performed
      split at performed
      · cases performed
      · rename_i absent
        cases performed
        exact tells_handshake crates (Finmap.lookup_eq_none.mpr absent)
  | message socketId text moment =>
      simp only [perform, Option.map_eq_some_iff] at performed
      obtain ⟨conn, _, rfl⟩ := performed
      exact ⟨_, (response_onMessage crates moment state conn text).tells⟩
  | close socketId moment =>
      simp only [perform, Option.map_eq_some_iff] at performed
      obtain ⟨conn, stored, rfl⟩ := performed
      obtain ⟨rfl, found⟩ := agree.found stored
      exact ⟨_, (tells_onClose agree found).trans (.of_same rfl rfl)⟩
  | take socketId =>
      cases performed
      exact ⟨"", .of_same rfl rfl⟩
  | trigger appId params body moment =>
      cases performed
      refine ⟨"", .of_same ?_ (congrArg Core.adapter (core_trigger ..))⟩
      exact (congrArg Ledger.stream (ledger_trigger params body)).trans rfl
  | triggerBatch appId params body moment =>
      cases performed
      refine ⟨"", .of_same ?_ (congrArg Core.adapter (core_triggerBatch ..))⟩
      exact (congrArg Ledger.stream (ledger_triggerBatch params body)).trans rfl
  | terminate appId userId params moment =>
      cases performed
      refine ⟨"", .of_same ?_ (congrArg Core.adapter (core_terminate ..))⟩
      exact congrArg Ledger.stream (ledger_terminate userId params)

/-- Every app that has webhooks has been told what there is. -/
structure Described (state : AppState) : Prop where
  tidy : ∀ appId, Tidy (state.adapter.ns appId)
  replayed : ∀ {appId events}, state.ledger.stream appId = some events →
    ∃ replayed, replay events = some replayed ∧
      Mirrors (state.adapter.ns appId) replayed

theorem Described.tells {appId : String} (described : Described state)
    (tells : Tells appId state after) : Described after := by
  obtain ⟨events, heard, follows⟩ := tells.told
  constructor
  · intro other
    by_cases same : other = appId
    · rw [same]
      exact follows.tidy (described.tidy appId)
    · exact (tells.others same).tidy (described.tidy other)
  · intro other queue found
    rw [heard] at found
    simp only [Ledger.tell] at found
    split at found
    · rename_i same
      subst same
      obtain ⟨before, stored, rfl⟩ := Option.map_eq_some_iff.mp found
      obtain ⟨replayed, read, mirrors⟩ := described.replayed stored
      obtain ⟨next, applied, mirrored⟩ :=
        follows.replayed (described.tidy other) replayed mirrors
      refine ⟨next, ?_, mirrored⟩
      rw [replay, Replayed.applyAll_append, ← replay, read]
      exact (Replayed.applyAll_filter replayed events).trans applied
    · rename_i different
      obtain ⟨replayed, read, mirrors⟩ := described.replayed found
      obtain ⟨next, applied, mirrored⟩ :=
        (tells.others different).replayed (described.tidy other) replayed mirrors
      cases applied
      exact ⟨replayed, read, mirrored⟩

theorem described_new : Described (AppState.new apps cacheTtl) where
  tidy appId channel empty := by cases empty
  replayed := by
    intro appId events found
    obtain ⟨queue, stored, rfl⟩ := Option.map_eq_some_iff.mp found
    change (AppState.webhookQueues apps).lookup appId = some queue at stored
    rw [AppState.lookup_webhookQueues] at stored
    split at stored
    · cases stored
      refine ⟨.empty, rfl, fun channel => ?_, fun channel userId => ?_⟩
      · exact iff_of_false (Finset.notMem_empty _) (Finset.notMem_empty _)
      · exact iff_of_false (Finset.notMem_empty _) (Finset.notMem_empty _)
    · cases stored

theorem described_of_reached {actions : List Action}
    (reached : (system crates apps cacheTtl).run actions = some state) :
    Described state :=
  (@System.invariant_of_every_step _ _ (system crates apps cacheTtl)
    (fun state => Agree state.core ∧ Described state) ⟨agree_new, described_new⟩
    (fun {_ _ _} holds stepped => by
      obtain ⟨agree, described⟩ := holds
      obtain ⟨appId, tells⟩ := tells_step agree stepped
      exact ⟨agree.step stepped, described.tells tells⟩) _ _ reached).2

theorem queued_of_reached {actions : List Action} {appId : String}
    (reached : (system crates apps cacheTtl).run actions = some state)
    (configured : ∃ app ∈ apps, app.id = appId ∧ app.webhookUrl.isSome) :
    (state.webhooks.lookup appId).isSome = true := by
  have kept : (state.ledger.stream appId).isSome = true := by
    refine @System.invariant_of_every_step _ _ (system crates apps cacheTtl)
      (fun state => (state.ledger.stream appId).isSome = true) ?_ ?_ _ _ reached
    · change ((((AppState.webhookQueues apps).lookup appId).map _).isSome = true)
      rw [AppState.lookup_webhookQueues, if_pos]
      · rfl
      · simpa using configured
    · intro before action next queued stepped
      obtain ⟨teller, events, ledger⟩ := ledger_step stepped
      rw [ledger]
      simp only [Ledger.store, Ledger.tell]
      split
      · rw [Option.isSome_map]
        exact queued
      · exact queued
  simpa [AppState.ledger] using kept

end

/-- The webhooks of an app, from the first on, tell no change twice and none
that did not happen, and what they tell is what the adapter answers. -/
theorem webhooks_describe (crates : Crates) (apps : List App) (cacheTtl : Nat)
    {actions : List Action} {state : AppState} {appId : String}
    (reached : (system crates apps cacheTtl).run actions = some state)
    (configured : ∃ app ∈ apps, app.id = appId ∧ app.webhookUrl.isSome) :
    ∃ queue replayed, state.webhooks.lookup appId = some queue ∧
      replay queue = some replayed ∧
      (∀ order channel, channel ∈ replayed.channels ↔
        channel ∈ state.adapter.getChannels order appId) ∧
      ∀ channel userId, (channel, userId) ∈ replayed.members ↔
        userId ∈ (state.adapter.getPresenceMembers appId channel).keys := by
  have described := described_of_reached reached
  obtain ⟨queue, stored⟩ := Option.isSome_iff_exists.mp
    (queued_of_reached reached configured)
  have stream : state.ledger.stream appId =
      some (queue.filter WebhookEvent.describes) := by
    simp [AppState.ledger, stored]
  obtain ⟨replayed, read, mirrors⟩ := described.replayed stream
  refine ⟨queue, replayed, stored, ?_, fun order channel => ?_,
    fun channel userId => ?_⟩
  · rw [← read]
    exact (Replayed.applyAll_filter .empty queue).symm
  · rw [LocalAdapter.getChannels_eq, order.mem_list]
    exact mirrors.channels channel
  · rw [LocalAdapter.getPresenceMembers_eq, Namespace.keys_getPresenceMembers]
    exact mirrors.members channel userId

namespace Sample

def hookedApp : App := { App.sample with webhookUrl := some "http://localhost/hooks" }

end Sample

theorem webhooks_describe_joined :
    ∃ state queue replayed,
      (system Sample.crates [Sample.hookedApp] 60).run Sample.joining = some state ∧
        state.webhooks.lookup "app" = some queue ∧
        queue = [.channelOccupied "presence-room",
          .memberAdded "presence-room" "ann"] ∧
        replay queue = some replayed ∧
        (∀ order channel, channel ∈ replayed.channels ↔
          channel ∈ state.adapter.getChannels order "app") ∧
        ∀ channel userId, (channel, userId) ∈ replayed.members ↔
          userId ∈ (state.adapter.getPresenceMembers "app" channel).keys := by
  have ends : (((system Sample.crates [Sample.hookedApp] 60).run
      Sample.joining).filter fun state => state.webhooks.lookup "app" =
        some [.channelOccupied "presence-room",
          .memberAdded "presence-room" "ann"]).isSome = true := by
    decide +kernel
  obtain ⟨state, found⟩ := Option.isSome_iff_exists.mp ends
  obtain ⟨reached, enqueued⟩ := Option.filter_eq_some_iff.mp found
  have hooked : ∃ app ∈ [Sample.hookedApp], app.id = "app" ∧ app.webhookUrl.isSome :=
    ⟨Sample.hookedApp, List.mem_singleton_self _, rfl, rfl⟩
  obtain ⟨queue, replayed, stored, describes⟩ :=
    webhooks_describe Sample.crates [Sample.hookedApp] 60 reached hooked
  have same := (of_decide_eq_true enqueued).symm.trans stored
  exact ⟨state, queue, replayed, reached, stored, (Option.some.inj same).symm,
    describes⟩

end RushSocket.Server
