import RushSocket.Adapter.Relations
import RushSocket.Server.System

namespace RushSocket.Server

open Adapter Data Protocol Transition Websocket

/-! Every connection keeps its own record of where it is subscribed and as whom
it is present.  The record and the adapter agree in every reachable state. -/

namespace Core

section

variable (core : Core) (appId socketId channel userId : String)

def Seen (holds : View → Prop) : Prop :=
  ∃ view, core.view socketId = some view ∧ holds view

def Lives : Prop := core.Seen socketId fun view => view.app.id = appId

def Misnamed : Prop := core.Seen socketId fun view => view.socketId ≠ socketId

def Joined : Prop :=
  core.Seen socketId fun view => view.app.id = appId ∧ channel ∈ view.channels

def Appears : Prop :=
  core.Seen socketId fun view => view.app.id = appId ∧
    ∃ userInfo, view.presence.lookup channel = some (userId, userInfo)

end

section

variable {core : Core} {alter : View → View} {holds : View → Prop}
  {appId socketId channel userId app socket place user : String} {userInfo : Value}

theorem seen_change_self :
    (core.change socketId alter).Seen socketId holds ↔
      core.Seen socketId fun view => holds (alter view) := by
  simp [Seen, change, Option.map_eq_some_iff]

theorem seen_change_other (other : socket ≠ socketId) :
    (core.change socketId alter).Seen socket holds ↔ core.Seen socket holds := by
  simp [Seen, change, other]

theorem seen_change_same (same : ∀ view, holds (alter view) ↔ holds view) :
    (core.change socketId alter).Seen socket holds ↔ core.Seen socket holds := by
  by_cases here : socket = socketId
  · subst here
    rw [seen_change_self]
    simp only [Seen, same]
  · exact seen_change_other here

theorem seen_of_view {after : Core} (same : after.view = core.view) :
    after.Seen socket holds ↔ core.Seen socket holds := by
  rw [Seen, same, Seen]

theorem Lives.unique (lives : core.Lives appId socketId) (app : String) :
    core.Lives app socketId ↔ app = appId := by
  obtain ⟨view, found, rfl⟩ := lives
  refine ⟨fun ⟨other, again, named⟩ => ?_, fun same => ⟨view, found, same.symm⟩⟩
  rw [found] at again
  cases again
  exact named.symm

theorem lives_join :
    (core.join appId socketId channel).Lives app socket ↔ core.Lives app socket :=
  seen_change_same fun _ => Iff.rfl

theorem appears_join :
    (core.join appId socketId channel).Appears app socket place user ↔
      core.Appears app socket place user :=
  seen_change_same fun _ => Iff.rfl

theorem joined_notePresence :
    (core.notePresence socketId channel userId userInfo).Joined app socket place ↔
      core.Joined app socket place :=
  seen_change_same fun _ => Iff.rfl

theorem joined_signIn :
    (core.signIn appId socketId userId).Joined app socket place ↔
      core.Joined app socket place :=
  seen_change_same fun _ => Iff.rfl

theorem appears_signIn :
    (core.signIn appId socketId userId).Appears app socket place user ↔
      core.Appears app socket place user :=
  seen_change_same fun _ => Iff.rfl

theorem appears_forgetChannel :
    (core.forgetChannel socketId channel).Appears app socket place user ↔
      core.Appears app socket place user :=
  seen_change_same fun _ => Iff.rfl

theorem joined_join (lives : core.Lives appId socketId) :
    (core.join appId socketId channel).Joined app socket place ↔
      core.Joined app socket place ∨
        (app = appId ∧ socket = socketId ∧ place = channel) := by
  by_cases same : socket = socketId
  · subst same
    rw [← lives.unique app, Joined, join, seen_change_self]
    simp only [Finset.mem_insert, true_and]
    constructor
    · rintro ⟨view, found, named, rfl | member⟩
      · exact .inr ⟨⟨view, found, named⟩, rfl⟩
      · exact .inl ⟨view, found, named, member⟩
    · rintro (⟨view, found, named, member⟩ | ⟨⟨view, found, named⟩, rfl⟩)
      · exact ⟨view, found, named, .inr member⟩
      · exact ⟨view, found, named, .inl rfl⟩
  · rw [Joined, join, seen_change_other same]
    simp only [same, false_and, and_false, or_false]
    rfl

theorem joined_forgetChannel (lives : core.Lives appId socketId) :
    (core.forgetChannel socketId channel).Joined app socket place ↔
      core.Joined app socket place ∧
        ¬ (app = appId ∧ socket = socketId ∧ place = channel) := by
  by_cases same : socket = socketId
  · subst same
    rw [← lives.unique app, Joined, forgetChannel, seen_change_self]
    simp only [Finset.mem_erase, true_and]
    constructor
    · rintro ⟨view, found, named, other, member⟩
      exact ⟨⟨view, found, named, member⟩, fun there => other there.2⟩
    · rintro ⟨⟨view, found, named, member⟩, other⟩
      exact ⟨view, found, named, fun there => other ⟨⟨view, found, named⟩, there⟩,
        member⟩
  · rw [Joined, forgetChannel, seen_change_other same]
    simp only [same, false_and, and_false, not_false_iff, and_true]
    rfl

theorem appears_notePresence (lives : core.Lives appId socketId)
    (absent : ∀ user, ¬ core.Appears appId socketId channel user) :
    (core.notePresence socketId channel userId userInfo).Appears app socket place
        user ↔
      core.Appears app socket place user ∨
        (app = appId ∧ socket = socketId ∧ place = channel ∧ user = userId) := by
  by_cases same : socket = socketId
  · subst same
    rw [← lives.unique app, Appears, notePresence, seen_change_self]
    by_cases there : place = channel
    · subst there
      simp only [Finmap.lookup_insert, Option.some.injEq, Prod.mk.injEq, true_and]
      constructor
      · rintro ⟨view, found, named, _, rfl, _⟩
        exact .inr ⟨⟨view, found, named⟩, rfl⟩
      · rintro (⟨view, found, named, stored⟩ | ⟨⟨view, found, named⟩, rfl⟩)
        · have here := (lives.unique _).mp ⟨view, found, named⟩
          subst here
          exact absurd ⟨view, found, named, stored⟩ (absent user)
        · exact ⟨view, found, named, userInfo, rfl, rfl⟩
    · simp only [Table.lookup_put, there, and_false, false_and, or_false]
      rfl
  · rw [Appears, notePresence, seen_change_other same]
    simp only [same, false_and, and_false, or_false]
    rfl

theorem appears_forgetPresence (lives : core.Lives appId socketId) :
    (core.forgetPresence socketId channel).Appears app socket place user ↔
      core.Appears app socket place user ∧
        ¬ (app = appId ∧ socket = socketId ∧ place = channel) := by
  by_cases same : socket = socketId
  · subst same
    rw [← lives.unique app, Appears, forgetPresence, seen_change_self]
    by_cases there : place = channel
    · subst there
      constructor
      · rintro ⟨view, found, named, userInfo, stored⟩
        rw [Table.lookup_drop, if_pos rfl] at stored
        cases stored
      · rintro ⟨⟨view, found, named, stored⟩, gone⟩
        exact absurd ⟨⟨view, found, named⟩, rfl, rfl⟩ gone
    · simp only [Table.lookup_drop, there, and_false, not_false_iff, and_true]
      rfl
  · rw [Appears, forgetPresence, seen_change_other same]
    simp only [same, false_and, and_false, not_false_iff, and_true]
    rfl

end

end Core

/-- The sockets that the adapter has are those of the live connections. -/
structure Registered (core : Core) : Prop where
  named : ∀ {socketId}, ¬ core.Misnamed socketId
  handled : ∀ {appId socketId handle},
    (core.adapter.ns appId).sockets.lookup socketId = some handle →
      handle.socketId = socketId
  registered : ∀ {appId socketId},
    socketId ∈ (core.adapter.ns appId).sockets ↔ core.Lives appId socketId
  counted : ∀ {appId}, (core.adapter.ns appId).connectionCount =
    (core.adapter.ns appId).sockets.size
  limited : ∀ {socketId}, socketId ∈ core.clientLimiters →
    ∃ appId, core.Lives appId socketId

/-- Both indexes of the channels say what the connections say. -/
structure Enrolled (core : Core) : Prop where
  subscribed : ∀ {appId socketId channel},
    core.adapter.Subscribed appId socketId channel ↔
      core.Joined appId socketId channel
  indexed : ∀ {appId socketId channel},
    core.adapter.Indexed appId socketId channel ↔ core.Joined appId socketId channel
  listed : ∀ {appId socketId}, core.adapter.Listed appId socketId →
    core.Lives appId socketId

/-- The presence data says what the connections say. -/
structure Attending (core : Core) : Prop where
  present : ∀ {appId socketId channel userId},
    core.adapter.Present appId socketId channel userId ↔
      core.Appears appId socketId channel userId
  attends : ∀ {appId socketId channel userId},
    core.Appears appId socketId channel userId →
      core.Joined appId socketId channel ∧
        (ChannelKind.fromName channel).isPresence = true

structure Agree (core : Core) : Prop where
  registered : Registered core
  enrolled : Enrolled core
  attending : Attending core

section

variable {core after : Core} {appId socketId channel userId : String}
  {userInfo : Value}

/-! A part of the agreement outlasts what reaches neither of its two sides. -/

theorem Registered.transfer (holds : Registered core)
    (keeps : LocalAdapter.Keeps LocalAdapter.registry core.adapter after.adapter)
    (named : ∀ {socketId}, after.Misnamed socketId ↔ core.Misnamed socketId)
    (lives : ∀ {appId socketId}, after.Lives appId socketId ↔
      core.Lives appId socketId)
    (limited : ∀ {socketId}, socketId ∈ after.clientLimiters →
      ∃ appId, core.Lives appId socketId) : Registered after := by
  have sockets : ∀ appId,
      (after.adapter.ns appId).sockets = (core.adapter.ns appId).sockets :=
    fun appId => congrArg Prod.fst (keeps appId)
  have count : ∀ appId, (after.adapter.ns appId).connectionCount =
      (core.adapter.ns appId).connectionCount :=
    fun appId => congrArg Prod.snd (keeps appId)
  constructor
  · intro socketId misnamed
    exact holds.named (named.mp misnamed)
  · intro appId socketId handle found
    exact holds.handled (sockets appId ▸ found)
  · intro appId socketId
    rw [sockets, holds.registered, lives]
  · intro appId
    rw [count, sockets, holds.counted]
  · intro socketId member
    obtain ⟨appId, live⟩ := limited member
    exact ⟨appId, lives.mpr live⟩

theorem Enrolled.transfer (holds : Enrolled core)
    (keeps : LocalAdapter.Keeps LocalAdapter.membership core.adapter after.adapter)
    (lives : ∀ {appId socketId}, after.Lives appId socketId ↔
      core.Lives appId socketId)
    (joined : ∀ {appId socketId channel}, after.Joined appId socketId channel ↔
      core.Joined appId socketId channel) : Enrolled after where
  subscribed := by
    intro appId socketId channel
    rw [keeps.subscribed, holds.subscribed, joined]
  indexed := by
    intro appId socketId channel
    rw [keeps.indexed, holds.indexed, joined]
  listed := by
    intro appId socketId listed
    exact lives.mpr (holds.listed (keeps.listed.mp listed))

theorem Attending.transfer (holds : Attending core)
    (keeps : LocalAdapter.Keeps Namespace.presence core.adapter after.adapter)
    (appears : ∀ {appId socketId channel userId},
      after.Appears appId socketId channel userId ↔
        core.Appears appId socketId channel userId)
    (joined : ∀ {appId socketId channel}, core.Joined appId socketId channel →
      after.Joined appId socketId channel) : Attending after where
  present := by
    intro appId socketId channel userId
    rw [keeps.present, holds.present, appears]
  attends := by
    intro appId socketId channel userId there
    obtain ⟨member, presence⟩ := holds.attends (appears.mp there)
    exact ⟨joined member, presence⟩

theorem Registered.findSocketId (holds : Registered core) :
    (core.adapter.ns appId).findSocketId socketId = socketId := by
  unfold Namespace.findSocketId
  split
  · rename_i handle found
    exact holds.handled found
  · rfl

/-! Joining. -/

theorem Enrolled.join (holds : Enrolled core) (registered : Registered core)
    (lives : core.Lives appId socketId) :
    Enrolled (core.join appId socketId channel) where
  subscribed := by
    intro app socket place
    rw [Core.joined_join lives, ← holds.subscribed]
    exact LocalAdapter.subscribed_addToChannel registered.findSocketId
  indexed := by
    intro app socket place
    rw [Core.joined_join lives, ← holds.indexed]
    exact LocalAdapter.indexed_addToChannel registered.findSocketId
  listed := by
    intro app socket listed
    have same : (core.join appId socketId channel).Lives app socket ↔
        core.Lives app socket := Core.seen_change_same fun _ => Iff.rfl
    rw [same]
    rcases (LocalAdapter.listed_addToChannel registered.findSocketId).mp listed with
      before | ⟨rfl, rfl⟩
    · exact holds.listed before
    · exact lives

theorem Registered.join (holds : Registered core) :
    Registered (core.join appId socketId channel) :=
  holds.transfer (LocalAdapter.keeps_addToChannel fun _ _ _ => rfl)
    (Core.seen_change_same fun _ => Iff.rfl)
    (Core.seen_change_same fun _ => Iff.rfl) holds.limited

theorem Agree.join (agree : Agree core) (lives : core.Lives appId socketId) :
    Agree (core.join appId socketId channel) where
  registered := agree.registered.join
  enrolled := agree.enrolled.join agree.registered lives
  attending :=
    agree.attending.transfer (LocalAdapter.keeps_addToChannel fun _ _ _ => rfl)
      (Core.seen_change_same fun _ => Iff.rfl)
      (fun joined => (Core.joined_join lives).mpr (.inl joined))

section

variable {app : App}

theorem Registered.tryPresence (holds : Registered core) (maxMembers : Nat) :
    Registered
      (core.tryPresence appId socketId channel userId userInfo maxMembers) :=
  holds.transfer (LocalAdapter.keeps_tryAddPresenceMember fun _ _ => rfl) Iff.rfl
    Iff.rfl holds.limited

theorem Enrolled.tryPresence (holds : Enrolled core) (maxMembers : Nat) :
    Enrolled (core.tryPresence appId socketId channel userId userInfo maxMembers) :=
  holds.transfer (LocalAdapter.keeps_tryAddPresenceMember fun _ _ => rfl) Iff.rfl
    Iff.rfl

theorem Attending.tryPresence_refused {maxMembers : Nat} (holds : Attending core)
    (refused : (core.adapter.tryAddPresenceMember appId channel socketId userId
      userInfo maxMembers).2.isOk = false) :
    Attending (core.tryPresence appId socketId channel userId userInfo
      maxMembers) where
  present := by
    intro app socket place user
    refine LocalAdapter.present_tryAddPresenceMember.trans ?_
    rw [refused, holds.present]
    simp only [Bool.false_eq_true, false_and, or_false]
    rfl
  attends := holds.attends

theorem Attending.joinPresence_accepted {maxMembers : Nat} (holds : Attending core)
    (lives : core.Lives appId socketId)
    (fresh : ¬ core.Joined appId socketId channel)
    (presence : (ChannelKind.fromName channel).isPresence = true)
    (accepted : (core.adapter.tryAddPresenceMember appId channel socketId userId
      userInfo maxMembers).2.isOk = true) :
    Attending (((core.tryPresence appId socketId channel userId userInfo
      maxMembers).join appId socketId channel).notePresence socketId channel userId
        userInfo) := by
  have tried : (core.tryPresence appId socketId channel userId userInfo
      maxMembers).Lives appId socketId := lives
  have joinedLives : ((core.tryPresence appId socketId channel userId userInfo
      maxMembers).join appId socketId channel).Lives appId socketId :=
    Core.lives_join.mpr tried
  have absent : ∀ user, ¬ ((core.tryPresence appId socketId channel userId userInfo
      maxMembers).join appId socketId channel).Appears appId socketId channel
        user := by
    intro user there
    rw [Core.appears_join] at there
    exact fresh (holds.attends there).1
  constructor
  · intro app socket place user
    rw [Core.appears_notePresence joinedLives absent, Core.appears_join]
    refine (LocalAdapter.Keeps.present (LocalAdapter.keeps_addToChannel
      fun _ _ _ => rfl)).trans ?_
    refine LocalAdapter.present_tryAddPresenceMember.trans ?_
    rw [accepted, holds.present]
    simp only [true_and]
    rfl
  · intro app socket place user there
    rw [Core.joined_notePresence, Core.joined_join tried]
    rcases (Core.appears_notePresence joinedLives absent).mp there with
      before | ⟨rfl, rfl, rfl, rfl⟩
    · rw [Core.appears_join] at before
      obtain ⟨member, kind⟩ := holds.attends before
      exact ⟨.inl member, kind⟩
    · exact ⟨.inr ⟨rfl, rfl, rfl⟩, presence⟩

theorem Agree.joinPresence_accepted {maxMembers : Nat} (agree : Agree core)
    (lives : core.Lives appId socketId) (fresh : ¬ core.Joined appId socketId channel)
    (presence : (ChannelKind.fromName channel).isPresence = true)
    (accepted : (core.adapter.tryAddPresenceMember appId channel socketId userId
      userInfo maxMembers).2.isOk = true) :
    Agree (((core.tryPresence appId socketId channel userId userInfo
      maxMembers).join appId socketId channel).notePresence socketId channel userId
        userInfo) := by
  have registered : Registered ((core.tryPresence appId socketId channel userId userInfo
      maxMembers).join appId socketId channel) :=
    (agree.registered.tryPresence maxMembers).join
  have enrolled : Enrolled ((core.tryPresence appId socketId channel userId userInfo
      maxMembers).join appId socketId channel) :=
    (agree.enrolled.tryPresence maxMembers).join
      (agree.registered.tryPresence maxMembers) lives
  refine ⟨?_, ?_, agree.attending.joinPresence_accepted lives fresh presence accepted⟩
  · exact registered.transfer (LocalAdapter.Keeps.refl _ _)
      (Core.seen_change_same fun _ => Iff.rfl)
      (Core.seen_change_same fun _ => Iff.rfl) registered.limited
  · exact enrolled.transfer (LocalAdapter.Keeps.refl _ _)
      (Core.seen_change_same fun _ => Iff.rfl)
      (Core.seen_change_same fun _ => Iff.rfl)

theorem Agree.joinPresence (agree : Agree core) (lives : core.Lives app.id socketId)
    (fresh : ¬ core.Joined app.id socketId channel)
    (presence : (ChannelKind.fromName channel).isPresence = true) :
    Agree (core.joinPresence app socketId channel userId userInfo) := by
  cases outcome : (core.adapter.tryAddPresenceMember app.id channel socketId userId
      userInfo app.maxPresenceMembersPerChannel).2.isOk with
  | false =>
      rw [Core.joinPresence_of_error outcome]
      exact ⟨agree.registered.tryPresence _, agree.enrolled.tryPresence _,
        agree.attending.tryPresence_refused outcome⟩
  | true =>
      rw [Core.joinPresence_of_ok outcome]
      exact agree.joinPresence_accepted lives fresh presence outcome

end

theorem Agree.signIn (agree : Agree core) :
    Agree (core.signIn appId socketId userId) where
  registered :=
    agree.registered.transfer (LocalAdapter.keeps_addUser fun _ _ => rfl)
      (Core.seen_change_same fun _ => Iff.rfl)
      (Core.seen_change_same fun _ => Iff.rfl) agree.registered.limited
  enrolled :=
    agree.enrolled.transfer (LocalAdapter.keeps_addUser fun _ _ => rfl)
      (Core.seen_change_same fun _ => Iff.rfl)
      (Core.seen_change_same fun _ => Iff.rfl)
  attending :=
    agree.attending.transfer (LocalAdapter.keeps_addUser fun _ _ => rfl)
      (Core.seen_change_same fun _ => Iff.rfl)
      (fun joined => Core.joined_signIn.mpr joined)

theorem Agree.setLimiters (agree : Agree core) {limiters : Finset String}
    (limited : ∀ socketId ∈ limiters, ∃ appId, core.Lives appId socketId) :
    Agree (core.setLimiters limiters) where
  registered :=
    agree.registered.transfer (LocalAdapter.Keeps.refl _ _) Iff.rfl Iff.rfl
      (limited _)
  enrolled := agree.enrolled.transfer (LocalAdapter.Keeps.refl _ _) Iff.rfl Iff.rfl
  attending := agree.attending.transfer (LocalAdapter.Keeps.refl _ _) Iff.rfl id

end

/-! Leaving. -/

section

variable {core : Core} {conn : WsConnection} {channel app socket place user : String}

theorem view_withdraw : (core.withdraw conn channel).view = core.view := by
  unfold Core.withdraw
  split
  · split <;> rfl
  · rfl

theorem limiters_withdraw (core : Core) :
    (core.withdraw conn channel).clientLimiters = core.clientLimiters := by
  unfold Core.withdraw
  split
  · split <;> rfl
  · rfl

theorem keeps_withdraw {α : Type u} {part : Namespace → α}
    (ignores : ∀ ns presence, part { ns with presence } = part ns) :
    LocalAdapter.Keeps part core.adapter (core.withdraw conn channel).adapter := by
  unfold Core.withdraw
  split
  · split
    · exact LocalAdapter.keeps_removePresenceMember ignores
    · exact LocalAdapter.Keeps.refl part core.adapter
  · exact LocalAdapter.Keeps.refl part core.adapter

theorem present_withdraw :
    (core.withdraw conn channel).adapter.Present app socket place user ↔
      core.adapter.Present app socket place user ∧
        ¬ (app = conn.app.id ∧ socket = conn.socketId ∧ place = channel ∧
          (ChannelKind.fromName channel).isPresence = true ∧
          ∃ userInfo, conn.getPresence channel = some (user, userInfo)) := by
  unfold Core.withdraw
  split
  · rename_i presence
    cases stored : conn.getPresence channel with
    | none => simp
    | some member =>
        obtain ⟨userId, userInfo⟩ := member
        refine LocalAdapter.present_removePresenceMember.trans ?_
        simp [presence, eq_comm]
  · rename_i presence
    simp [presence]

theorem Core.lives_conn (found : core.view conn.socketId = some conn.view) :
    core.Lives conn.app.id conn.socketId :=
  ⟨conn.view, found, rfl⟩

theorem Agree.present_conn (agree : Agree core)
    (found : core.view conn.socketId = some conn.view)
    (there : core.adapter.Present conn.app.id conn.socketId place user) :
    (ChannelKind.fromName place).isPresence = true ∧
      ∃ userInfo, conn.getPresence place = some (user, userInfo) := by
  have appears := agree.attending.present.mp there
  have kind := (agree.attending.attends appears).2
  obtain ⟨view, again, _, stored⟩ := appears
  rw [found] at again
  cases again
  exact ⟨kind, stored⟩

theorem Core.seen_unsubscribe {holds : View → Prop}
    (ignores : ∀ view presence channels,
      holds { view with presence, channels } ↔ holds view) :
    (core.unsubscribe conn channel).Seen socket holds ↔ core.Seen socket holds := by
  have forgotten : (core.forget conn channel).Seen socket holds ↔
      core.Seen socket holds := by
    unfold Core.forget
    split
    · exact Core.seen_change_same fun view => ignores view _ view.channels
    · rfl
  refine (Core.seen_change_same fun view => ignores view view.presence _).trans ?_
  exact (Core.seen_of_view view_withdraw).trans forgotten

theorem Core.joined_unsubscribe (lives : core.Lives conn.app.id conn.socketId) :
    (core.unsubscribe conn channel).Joined app socket place ↔
      core.Joined app socket place ∧
        ¬ (app = conn.app.id ∧ socket = conn.socketId ∧ place = channel) := by
  have forgotten : ∀ {holds : View → Prop} {socket},
      (∀ view presence, holds { view with presence } ↔ holds view) →
      (((core.forget conn channel).withdraw conn channel).Seen socket holds ↔
        core.Seen socket holds) := by
    intro holds socket ignores
    refine (Core.seen_of_view view_withdraw).trans ?_
    unfold Core.forget
    split
    · exact Core.seen_change_same fun view => ignores view _
    · rfl
  have joined : ((core.forget conn channel).withdraw conn channel).Joined app socket
      place ↔ core.Joined app socket place := forgotten fun _ _ => Iff.rfl
  rw [← joined]
  exact Core.joined_forgetChannel ((forgotten fun _ _ => Iff.rfl).mpr lives)

theorem Agree.appears_unsubscribe (agree : Agree core)
    (found : core.view conn.socketId = some conn.view) :
    (core.unsubscribe conn channel).Appears app socket place user ↔
      core.Appears app socket place user ∧
        ¬ (app = conn.app.id ∧ socket = conn.socketId ∧ place = channel) := by
  have forgotten : (core.unsubscribe conn channel).Appears app socket place user ↔
      (core.forget conn channel).Appears app socket place user := by
    refine Core.appears_forgetChannel.trans ?_
    exact Core.seen_of_view view_withdraw
  rw [forgotten, Core.forget]
  split
  · exact Core.appears_forgetPresence (Core.lives_conn found)
  · rename_i absent
    refine ⟨fun there => ⟨there, ?_⟩, And.left⟩
    rintro ⟨rfl, rfl, rfl⟩
    obtain ⟨kind, userInfo, stored⟩ :=
      agree.present_conn found (agree.attending.present.mpr there)
    exact absent ⟨kind, by rw [stored]; rfl⟩

theorem Agree.unsubscribe (agree : Agree core)
    (found : core.view conn.socketId = some conn.view) :
    Agree (core.unsubscribe conn channel) := by
  have lives := Core.lives_conn found
  have adapter : (core.forget conn channel).adapter = core.adapter := by
    unfold Core.forget
    split <;> rfl
  have withdrawn : ∀ {α : Type} {part : Namespace → α},
      (∀ ns presence, part { ns with presence } = part ns) →
      LocalAdapter.Keeps part core.adapter
        ((core.forget conn channel).withdraw conn channel).adapter := by
    intro α part ignores
    rw [← adapter]
    exact keeps_withdraw ignores
  refine ⟨?_, ⟨?_, ?_, ?_⟩, ⟨?_, ?_⟩⟩
  · refine agree.registered.transfer ?_ (Core.seen_unsubscribe fun _ _ _ => Iff.rfl)
      (Core.seen_unsubscribe fun _ _ _ => Iff.rfl) ?_
    · exact (withdrawn fun _ _ => rfl).trans
        (LocalAdapter.keeps_removeFromChannel fun _ _ _ => rfl)
    · intro socket member
      have same : (core.unsubscribe conn channel).clientLimiters =
          core.clientLimiters := by
        refine Eq.trans (limiters_withdraw (core.forget conn channel)) ?_
        unfold Core.forget
        split <;> rfl
      exact agree.registered.limited (same ▸ member)
  · intro app socket place
    rw [Core.joined_unsubscribe lives, ← agree.enrolled.subscribed]
    refine LocalAdapter.subscribed_removeFromChannel.trans ?_
    exact and_congr_left' (withdrawn fun _ _ => rfl).subscribed
  · intro app socket place
    rw [Core.joined_unsubscribe lives, ← agree.enrolled.indexed]
    refine LocalAdapter.indexed_removeFromChannel.trans ?_
    exact and_congr_left' (withdrawn fun _ _ => rfl).indexed
  · intro app socket listed
    refine (Core.seen_unsubscribe fun _ _ _ => Iff.rfl).mpr (agree.enrolled.listed ?_)
    exact (withdrawn fun _ _ => rfl).listed.mp
      (LocalAdapter.listed_removeFromChannel.mp listed)
  · intro app socket place user
    rw [agree.appears_unsubscribe found, ← agree.attending.present]
    refine (LocalAdapter.Keeps.present (LocalAdapter.keeps_removeFromChannel
      fun _ _ _ => rfl)).trans ?_
    refine present_withdraw.trans ?_
    rw [adapter]
    refine and_congr_right fun there => not_congr ?_
    refine and_congr_right fun sameApp => and_congr_right fun sameSocket => ?_
    subst sameApp sameSocket
    refine and_iff_left_of_imp fun samePlace => ?_
    subst samePlace
    exact agree.present_conn found there
  · intro app socket place user there
    obtain ⟨before, remains⟩ := (agree.appears_unsubscribe found).mp there
    obtain ⟨member, kind⟩ := agree.attending.attends before
    exact ⟨(Core.joined_unsubscribe lives).mpr ⟨member, remains⟩, kind⟩

end

/-! The beginning of a connection. -/

section

variable {core : Core} {app : App} {appId socketId channel userId socket : String}

theorem Core.seen_enter {holds : View → Prop} (absent : core.view socketId = none) :
    (core.enter app socketId).Seen socket holds ↔
      core.Seen socket holds ∨
        (socket = socketId ∧ holds (WsConnection.new socketId app).view) := by
  by_cases same : socket = socketId
  · subst same
    simp [Core.Seen, Core.enter, absent]
  · simp [Core.Seen, Core.enter, same]

theorem Core.joined_enter (absent : core.view socketId = none) :
    (core.enter app socketId).Joined appId socket channel ↔
      core.Joined appId socket channel := by
  refine (Core.seen_enter absent).trans (or_iff_left ?_)
  exact fun new => Finset.notMem_empty channel new.2.2

theorem Core.appears_enter (absent : core.view socketId = none) :
    (core.enter app socketId).Appears appId socket channel userId ↔
      core.Appears appId socket channel userId := by
  refine (Core.seen_enter absent).trans (or_iff_left ?_)
  rintro ⟨_, _, userInfo, stored⟩
  cases stored

theorem Agree.enter (agree : Agree core) (absent : core.view socketId = none)
    (added : ((core.adapter.ns app.id).tryAddSocket ⟨socketId⟩
      app.maxConnections).1 = (core.adapter.ns app.id).addSocket ⟨socketId⟩) :
    Agree (core.enter app socketId) := by
  have ns : ∀ appId, (core.enter app socketId).adapter.ns appId =
      if appId = app.id then (core.adapter.ns app.id).addSocket ⟨socketId⟩
      else core.adapter.ns appId := by
    intro appId
    rw [← added]
    exact LocalAdapter.ns_tryAddSocket core.adapter app.id _ _ appId
  have keeps : ∀ {α : Type} (part : Namespace → α),
      (∀ ns sockets connectionCount,
        part { ns with sockets, connectionCount } = part ns) →
      LocalAdapter.Keeps part core.adapter (core.enter app socketId).adapter := by
    intro α part ignores appId
    rw [ns]
    split
    · rename_i same
      rw [same]
      exact ignores _ _ _
    · rfl
  have unknown : ∀ appId, socketId ∉ (core.adapter.ns appId).sockets := by
    intro appId known
    obtain ⟨view, found, _⟩ := agree.registered.registered.mp known
    rw [absent] at found
    cases found
  refine ⟨⟨?_, ?_, ?_, ?_, ?_⟩, ⟨?_, ?_, ?_⟩, ⟨?_, ?_⟩⟩
  · intro socket misnamed
    rcases (Core.seen_enter absent).mp misnamed with before | ⟨rfl, wrong⟩
    · exact agree.registered.named before
    · exact wrong rfl
  · intro appId socket handle found
    rw [ns] at found
    split at found
    · rw [Namespace.addSocket, Table.lookup_put] at found
      split at found
      · rename_i same
        cases found
        exact same.symm
      · exact agree.registered.handled found
    · exact agree.registered.handled found
  · intro appId socket
    refine Iff.trans ?_ (Core.seen_enter absent).symm
    rw [ns]
    split
    · rename_i same
      subst same
      rw [Namespace.addSocket, Finmap.mem_insert, agree.registered.registered]
      exact or_comm.trans (or_congr_right (iff_self_and.mpr fun _ => rfl))
    · rename_i other
      rw [agree.registered.registered]
      exact (or_iff_left fun new => other new.2.symm).symm
  · intro appId
    rw [ns]
    split
    · rw [Namespace.addSocket, Table.size_put (unknown app.id),
        agree.registered.counted]
    · exact agree.registered.counted
  · intro socket member
    obtain ⟨appId, live⟩ := agree.registered.limited member
    exact ⟨appId, (Core.seen_enter absent).mpr (.inl live)⟩
  · intro appId socket channel
    rw [Core.joined_enter absent, ← agree.enrolled.subscribed]
    exact (keeps LocalAdapter.membership fun _ _ _ => rfl).subscribed
  · intro appId socket channel
    rw [Core.joined_enter absent, ← agree.enrolled.indexed]
    exact (keeps LocalAdapter.membership fun _ _ _ => rfl).indexed
  · intro appId socket listed
    rw [(keeps LocalAdapter.membership fun _ _ _ => rfl).listed] at listed
    exact (Core.seen_enter absent).mpr (.inl (agree.enrolled.listed listed))
  · intro appId socket channel userId
    rw [Core.appears_enter absent, ← agree.attending.present]
    exact (keeps Namespace.presence fun _ _ _ => rfl).present
  · intro appId socket channel userId there
    rw [Core.joined_enter absent]
    exact agree.attending.attends ((Core.appears_enter absent).mp there)

end

/-! The end of a connection. -/

section

variable {conn : WsConnection} {app socket place user : String}

theorem view_closeChannels (core : Core) (channels : List String) :
    (core.closeChannels conn channels).view = core.view := by
  induction channels generalizing core with
  | nil => rfl
  | cons channel rest induction => exact (induction _).trans view_withdraw

theorem limiters_closeChannels (core : Core) (channels : List String) :
    (core.closeChannels conn channels).clientLimiters = core.clientLimiters := by
  induction channels generalizing core with
  | nil => rfl
  | cons channel rest induction => exact (induction _).trans (limiters_withdraw core)

theorem keeps_closeChannels {α : Type u} {part : Namespace → α}
    (ignores : ∀ ns channels socketChannels presence,
      part { ns with channels, socketChannels, presence } = part ns)
    (core : Core) (channels : List String) :
    LocalAdapter.Keeps part core.adapter
      (core.closeChannels conn channels).adapter := by
  induction channels generalizing core with
  | nil => exact LocalAdapter.Keeps.refl part core.adapter
  | cons channel rest induction =>
      refine LocalAdapter.Keeps.trans ?_ (induction (core.closeChannel conn channel))
      refine (keeps_withdraw fun ns presence => ?_).trans
        (LocalAdapter.keeps_removeFromChannel fun ns channels socketChannels => ?_)
      · exact ignores ns ns.channels ns.socketChannels presence
      · exact ignores ns channels socketChannels ns.presence

theorem holds_closeChannels (holds : LocalAdapter → Prop) {takes : String → Prop}
    (step : ∀ core channel, holds (Core.closeChannel conn core channel).adapter ↔
      holds core.adapter ∧ ¬ takes channel)
    (core : Core) (channels : List String) :
    holds (core.closeChannels conn channels).adapter ↔
      holds core.adapter ∧ ∀ channel ∈ channels, ¬ takes channel := by
  induction channels generalizing core with
  | nil => simp [Core.closeChannels]
  | cons channel rest induction =>
      refine (induction (core.closeChannel conn channel)).trans ?_
      rw [step, List.forall_mem_cons, and_assoc]

theorem subscribed_closeChannel (core : Core) (channel : String) :
    (core.closeChannel conn channel).adapter.Subscribed app socket place ↔
      core.adapter.Subscribed app socket place ∧
        ¬ (app = conn.app.id ∧ socket = conn.socketId ∧ place = channel) :=
  LocalAdapter.subscribed_removeFromChannel.trans
    (and_congr_left' (keeps_withdraw fun _ _ => rfl).subscribed)

theorem indexed_closeChannel (core : Core) (channel : String) :
    (core.closeChannel conn channel).adapter.Indexed app socket place ↔
      core.adapter.Indexed app socket place ∧
        ¬ (app = conn.app.id ∧ socket = conn.socketId ∧ place = channel) :=
  LocalAdapter.indexed_removeFromChannel.trans
    (and_congr_left' (keeps_withdraw fun _ _ => rfl).indexed)

theorem listed_closeChannels (core : Core) (channels : List String) :
    (core.closeChannels conn channels).adapter.Listed app socket ↔
      core.adapter.Listed app socket := by
  induction channels generalizing core with
  | nil => rfl
  | cons channel rest induction =>
      refine (induction (core.closeChannel conn channel)).trans ?_
      exact LocalAdapter.listed_removeFromChannel.trans
        (keeps_withdraw fun _ _ => rfl).listed

theorem present_closeChannel (core : Core) (channel : String) :
    (core.closeChannel conn channel).adapter.Present app socket place user ↔
      core.adapter.Present app socket place user ∧
        ¬ (app = conn.app.id ∧ socket = conn.socketId ∧ place = channel ∧
          (ChannelKind.fromName channel).isPresence = true ∧
          ∃ userInfo, conn.getPresence channel = some (user, userInfo)) :=
  (LocalAdapter.keeps_removeFromChannel fun _ _ _ => rfl).present.trans
    present_withdraw

section

variable {core : Core}

theorem Core.joined_conn (found : core.view conn.socketId = some conn.view) :
    core.Joined conn.app.id conn.socketId place ↔
      place ∈ conn.subscribedChannels := by
  refine ⟨?_, fun member => ⟨conn.view, found, rfl, member⟩⟩
  rintro ⟨view, again, _, member⟩
  rw [found] at again
  cases again
  exact member

/-- The loop takes a connection out of every channel that it has joined, and no
other connection out of any. -/
theorem Core.spared (found : core.view conn.socketId = some conn.view)
    (order : HashOrder) (joined : core.Joined app socket place) :
    (∀ channel ∈ order.list conn.subscribedChannels,
      ¬ (app = conn.app.id ∧ socket = conn.socketId ∧ place = channel)) ↔
      socket ≠ conn.socketId := by
  constructor
  · rintro spared rfl
    have sameApp : app = conn.app.id := by
      obtain ⟨view, again, named, _⟩ := joined
      rw [found] at again
      cases again
      exact named.symm
    subst sameApp
    exact spared place (order.mem_list.mpr ((Core.joined_conn found).mp joined))
      ⟨rfl, rfl, rfl⟩
  · exact fun other _ _ taken => other taken.2.1

theorem Agree.subscribed_left (agree : Agree core)
    (found : core.view conn.socketId = some conn.view) (order : HashOrder) :
    (core.closeChannels conn (order.list conn.subscribedChannels)).adapter.Subscribed
        app socket place ↔
      core.Joined app socket place ∧ socket ≠ conn.socketId := by
  refine (holds_closeChannels (fun adapter => adapter.Subscribed app socket place)
    subscribed_closeChannel core _).trans ?_
  rw [agree.enrolled.subscribed]
  exact and_congr_right fun joined => Core.spared found order joined

theorem Agree.indexed_left (agree : Agree core)
    (found : core.view conn.socketId = some conn.view) (order : HashOrder) :
    (core.closeChannels conn (order.list conn.subscribedChannels)).adapter.Indexed
        app socket place ↔
      core.Joined app socket place ∧ socket ≠ conn.socketId := by
  refine (holds_closeChannels (fun adapter => adapter.Indexed app socket place)
    indexed_closeChannel core _).trans ?_
  rw [agree.enrolled.indexed]
  exact and_congr_right fun joined => Core.spared found order joined

theorem Agree.present_left (agree : Agree core)
    (found : core.view conn.socketId = some conn.view) (order : HashOrder) :
    (core.closeChannels conn (order.list conn.subscribedChannels)).adapter.Present
        app socket place user ↔
      core.Appears app socket place user ∧ socket ≠ conn.socketId := by
  refine (holds_closeChannels (fun adapter => adapter.Present app socket place user)
    present_closeChannel core _).trans ?_
  rw [agree.attending.present]
  refine and_congr_right fun there => ?_
  have joined := (agree.attending.attends there).1
  rw [← Core.spared found order joined]
  refine forall₂_congr fun channel _ => not_congr ?_
  refine and_congr_right fun sameApp => and_congr_right fun sameSocket => ?_
  subst sameApp sameSocket
  refine and_iff_left_of_imp fun samePlace => ?_
  subst samePlace
  exact agree.present_conn found (agree.attending.present.mpr there)

theorem Core.seen_vanish {holds : View → Prop} {socketId : String} :
    (core.vanish socketId).Seen socket holds ↔
      core.Seen socket holds ∧ socket ≠ socketId := by
  by_cases same : socket = socketId
  · simp [Core.Seen, Core.vanish, same]
  · simp [Core.Seen, Core.vanish, same]

theorem view_forgetUser : (core.forgetUser conn).view = core.view := by
  unfold Core.forgetUser
  split <;> rfl

theorem limiters_forgetUser :
    (core.forgetUser conn).clientLimiters = core.clientLimiters := by
  unfold Core.forgetUser
  split <;> rfl

theorem keeps_forgetUser {α : Type u} {part : Namespace → α}
    (ignores : ∀ ns users, part { ns with users } = part ns) :
    LocalAdapter.Keeps part core.adapter (core.forgetUser conn).adapter := by
  unfold Core.forgetUser
  split
  · exact LocalAdapter.keeps_removeUser ignores
  · exact LocalAdapter.Keeps.refl part core.adapter

theorem view_close (order : HashOrder) : (core.close order conn).view = core.view :=
  view_forgetUser.trans (view_closeChannels core _)

theorem Core.seen_closed {holds : View → Prop} (order : HashOrder) :
    ((core.close order conn).vanish conn.socketId).Seen socket holds ↔
      core.Seen socket holds ∧ socket ≠ conn.socketId :=
  Core.seen_vanish.trans (and_congr_left' (Core.seen_of_view (view_close order)))

theorem Agree.idle (agree : Agree core)
    (found : core.view conn.socketId = some conn.view) (order : HashOrder)
    (channel : String) :
    ¬ ((core.closeChannels conn (order.list conn.subscribedChannels)).forgetUser
      conn).adapter.Indexed conn.app.id conn.socketId channel := by
  rw [(keeps_forgetUser fun _ _ => rfl).indexed, agree.indexed_left found order]
  exact fun left => left.2 rfl

theorem Agree.registry_close (agree : Agree core)
    (found : core.view conn.socketId = some conn.view) (order : HashOrder)
    (app : String) :
    LocalAdapter.registry ((core.close order conn).adapter.ns app) =
      if app = conn.app.id then
        ((core.adapter.ns app).sockets.erase conn.socketId,
          (core.adapter.ns app).connectionCount - 1)
      else LocalAdapter.registry (core.adapter.ns app) := by
  have kept : LocalAdapter.Keeps LocalAdapter.registry core.adapter
      ((core.closeChannels conn (order.list conn.subscribedChannels)).forgetUser
        conn).adapter :=
    (keeps_closeChannels (fun _ _ _ _ => rfl) core _).trans
      (keeps_forgetUser fun _ _ => rfl)
  have shape : (core.close order conn).adapter.ns app = _ :=
    LocalAdapter.ns_removeSocket_idle (agree.idle found order) app
  rw [shape]
  split
  · rename_i same
    subst same
    have known : conn.socketId ∈ (core.adapter.ns conn.app.id).sockets :=
      agree.registered.registered.mpr (Core.lives_conn found)
    have sockets := congrArg Prod.fst (kept conn.app.id)
    have count := congrArg Prod.snd (kept conn.app.id)
    dsimp only [LocalAdapter.registry] at sockets count
    rw [LocalAdapter.registry, sockets, count, if_pos known]
  · exact kept app

theorem Agree.registered_close (agree : Agree core)
    (found : core.view conn.socketId = some conn.view) (order : HashOrder) :
    Registered ((core.close order conn).vanish conn.socketId) := by
  have lives := Core.lives_conn found
  have sockets : ∀ app, ((core.close order conn).adapter.ns app).sockets =
      if app = conn.app.id then (core.adapter.ns app).sockets.erase conn.socketId
      else (core.adapter.ns app).sockets := by
    intro app
    refine (congrArg Prod.fst (agree.registry_close found order app)).trans ?_
    split <;> rfl
  have count : ∀ app, ((core.close order conn).adapter.ns app).connectionCount =
      if app = conn.app.id then (core.adapter.ns app).connectionCount - 1
      else (core.adapter.ns app).connectionCount := by
    intro app
    refine (congrArg Prod.snd (agree.registry_close found order app)).trans ?_
    split <;> rfl
  constructor
  · intro socket misnamed
    exact agree.registered.named ((Core.seen_closed order).mp misnamed).1
  · intro app socket handle stored
    change ((core.close order conn).adapter.ns app).sockets.lookup socket =
      some handle at stored
    rw [sockets] at stored
    split at stored
    · rw [Table.lookup_drop] at stored
      split at stored
      · cases stored
      · exact agree.registered.handled stored
    · exact agree.registered.handled stored
  · intro app socket
    refine Iff.trans ?_ (Core.seen_closed order).symm
    change socket ∈ ((core.close order conn).adapter.ns app).sockets ↔ _
    rw [sockets]
    split
    · rw [Finmap.mem_erase, agree.registered.registered]
      exact and_comm
    · rename_i otherApp
      rw [agree.registered.registered]
      refine iff_self_and.mpr ?_
      rintro there rfl
      exact otherApp ((lives.unique app).mp there)
  · intro app
    change ((core.close order conn).adapter.ns app).connectionCount =
      ((core.close order conn).adapter.ns app).sockets.size
    rw [count, sockets]
    split
    · rename_i same
      subst same
      rw [Table.size_drop (agree.registered.registered.mpr lives),
        agree.registered.counted]
    · exact agree.registered.counted
  · intro socket member
    obtain ⟨other, before⟩ := Finset.mem_erase.mp member
    rw [limiters_forgetUser, limiters_closeChannels] at before
    obtain ⟨app, live⟩ := agree.registered.limited before
    exact ⟨app, (Core.seen_closed order).mpr ⟨live, other⟩⟩

theorem Agree.close (agree : Agree core)
    (found : core.view conn.socketId = some conn.view) (order : HashOrder) :
    Agree ((core.close order conn).vanish conn.socketId) := by
  have idle := agree.idle found order
  refine ⟨agree.registered_close found order, ⟨?_, ?_, ?_⟩, ⟨?_, ?_⟩⟩
  · intro app socket place
    refine (LocalAdapter.subscribed_removeSocket_idle idle).trans ?_
    rw [(keeps_forgetUser fun _ _ => rfl).subscribed,
      agree.subscribed_left found order]
    exact (Core.seen_closed order).symm
  · intro app socket place
    refine (LocalAdapter.indexed_removeSocket_idle idle).trans ?_
    rw [(keeps_forgetUser fun _ _ => rfl).indexed, agree.indexed_left found order]
    exact (Core.seen_closed order).symm
  · intro app socket listed
    refine (Core.seen_closed order).mpr ?_
    obtain ⟨before, other⟩ := (LocalAdapter.listed_removeSocket_idle idle).mp listed
    rw [(keeps_forgetUser fun _ _ => rfl).listed, listed_closeChannels] at before
    have lives := agree.enrolled.listed before
    refine ⟨lives, ?_⟩
    rintro rfl
    exact other ⟨((Core.lives_conn found).unique app).mp lives, rfl⟩
  · intro app socket place user
    refine (LocalAdapter.Keeps.present (LocalAdapter.keeps_removeSocket_idle idle
      fun _ _ _ _ => rfl)).trans ?_
    rw [(keeps_forgetUser fun _ _ => rfl).present, agree.present_left found order]
    exact (Core.seen_closed order).symm
  · intro app socket place user there
    obtain ⟨before, other⟩ := (Core.seen_closed order).mp there
    obtain ⟨member, kind⟩ := agree.attending.attends before
    exact ⟨(Core.seen_closed order).mpr ⟨member, other⟩, kind⟩

end

end

/-! Every run keeps the agreement. -/

section

variable {crates : Crates} {apps : List App} {cacheTtl : Nat} {state : AppState}
  {conn : WsConnection}

theorem agree_new : Agree (AppState.new apps cacheTtl).core := by
  have nobody : ∀ socketId holds,
      ¬ (AppState.new apps cacheTtl).core.Seen socketId holds := by
    rintro socketId holds ⟨view, found, _⟩
    cases found
  refine ⟨⟨?_, ?_, ?_, ?_, ?_⟩, ⟨?_, ?_, ?_⟩, ⟨?_, ?_⟩⟩
  · exact fun misnamed => nobody _ _ misnamed
  · intro appId socketId handle found
    cases found
  · intro appId socketId
    exact iff_of_false (Finmap.notMem_empty) (nobody _ _)
  · exact fun {appId} => rfl
  · exact fun member => absurd member (Finset.notMem_empty _)
  · intro appId socketId channel
    exact iff_of_false (Finset.notMem_empty socketId) (nobody _ _)
  · intro appId socketId channel
    exact iff_of_false (Finset.notMem_empty channel) (nobody _ _)
  · exact fun listed => absurd listed Finmap.notMem_empty
  · intro appId socketId channel userId
    exact iff_of_false (Finset.notMem_empty socketId) (nobody _ _)
  · exact fun there => absurd there (nobody _ _)

theorem Agree.found (agree : Agree state.core) {socketId : String}
    (stored : state.connections.lookup socketId = some conn) :
    conn.socketId = socketId ∧ state.core.view conn.socketId = some conn.view := by
  have viewed : state.core.view socketId = some conn.view :=
    congrArg (Option.map WsConnection.view) stored
  have named : conn.socketId = socketId := by
    refine not_not.mp fun wrong => agree.registered.named ⟨conn.view, viewed, wrong⟩
  rw [named]
  exact ⟨rfl, viewed⟩

theorem Agree.outcome {core next : Core} {text : String} (agree : Agree core)
    (found : core.view conn.socketId = some conn.view)
    (outcome : Outcome crates conn text core next) : Agree next := by
  have lives := Core.lives_conn found
  cases outcome with
  | kept => exact agree
  | limited _ extends_ =>
      refine agree.setLimiters fun socketId member => ?_
      rcases extends_ socketId member with rfl | before
      · exact ⟨conn.app.id, lives⟩
      · exact agree.registered.limited before
  | joined => exact agree.join lives
  | joinedPresence _ _ fresh presence =>
      exact agree.joinPresence lives
        (fun joined => fresh ((Core.joined_conn found).mp joined)) presence
  | unsubscribed => exact agree.unsubscribe found
  | signedIn => exact agree.signIn

theorem Agree.refused {core : Core} {adapter : LocalAdapter} (agree : Agree core)
    (same : ∀ appId, adapter.ns appId = core.adapter.ns appId) :
    Agree (core.setAdapter adapter) where
  registered :=
    agree.registered.transfer (fun appId => congrArg _ (same appId)) Iff.rfl Iff.rfl
      agree.registered.limited
  enrolled :=
    agree.enrolled.transfer (fun appId => congrArg _ (same appId)) Iff.rfl Iff.rfl
  attending :=
    agree.attending.transfer (fun appId => congrArg _ (same appId)) Iff.rfl id

theorem Agree.step {next : AppState} {action : Action} (agree : Agree state.core)
    (stepped : step crates state action = some next) : Agree next.core := by
  have change := change_step stepped
  generalize next.core = core at change
  cases change with
  | kept => exact agree
  | refused absent same => exact agree.refused same
  | entered absent found added =>
      exact agree.enter (congrArg (Option.map WsConnection.view) absent) added
  | handled stored outcome => exact agree.outcome (agree.found stored).2 outcome
  | @closed socketId moment conn stored =>
      obtain ⟨rfl, found⟩ := agree.found stored
      exact agree.close found moment.order

theorem agree_of_reached {actions : List Action}
    (reached : (system crates apps cacheTtl).run actions = some state) :
    Agree state.core :=
  @System.invariant_of_every_step _ _ (system crates apps cacheTtl)
    (fun state => Agree state.core) agree_new (fun agree stepped => agree.step stepped)
    _ _ reached

end

/-- Nothing that the node shares mentions the socket. -/
structure LeftNothing (state : AppState) (socketId : String) : Prop where
  channels : ∀ appId channel,
    socketId ∉ (state.adapter.ns appId).channels.members channel
  socketChannels : ∀ appId, socketId ∉ (state.adapter.ns appId).socketChannels
  sockets : ∀ appId, socketId ∉ (state.adapter.ns appId).sockets
  presence : ∀ appId channel userId,
    socketId ∉ (state.adapter.ns appId).presenceSockets channel userId
  clientLimiters : socketId ∉ state.rateLimiter.clientLimiters

theorem Agree.leftNothing {state : AppState} {socketId : String}
    (agree : Agree state.core)
    (gone : state.connections.lookup socketId = none) :
    LeftNothing state socketId := by
  have nobody : ∀ holds, ¬ state.core.Seen socketId holds := by
    rintro holds ⟨view, found, _⟩
    have absent : state.core.view socketId = none :=
      congrArg (Option.map WsConnection.view) gone
    rw [absent] at found
    cases found
  constructor
  · exact fun appId channel member =>
      nobody _ (agree.enrolled.subscribed.mp member)
  · exact fun appId listed => nobody _ (agree.enrolled.listed listed)
  · exact fun appId known => nobody _ (agree.registered.registered.mp known)
  · exact fun appId channel userId there =>
      nobody _ (agree.attending.present.mp there)
  · intro limited
    obtain ⟨appId, lives⟩ := agree.registered.limited limited
    exact nobody _ lives

/-- One connection and the maps of its app. -/
structure RecordAgrees (state : AppState) (conn : WsConnection) : Prop where
  channels : ∀ channel, channel ∈ conn.subscribedChannels ↔
    conn.socketId ∈ (state.adapter.ns conn.app.id).channels.members channel
  socketChannels : ∀ channel, channel ∈ conn.subscribedChannels ↔
    channel ∈ (state.adapter.ns conn.app.id).socketChannels.members conn.socketId
  presence : ∀ channel userId,
    (∃ userInfo, conn.getPresence channel = some (userId, userInfo)) ↔
      conn.socketId ∈ (state.adapter.ns conn.app.id).presenceSockets channel userId

theorem Agree.recordAgrees {state : AppState} {conn : WsConnection}
    (agree : Agree state.core)
    (found : state.core.view conn.socketId = some conn.view) :
    RecordAgrees state conn := by
  refine ⟨fun channel => ?_, fun channel => ?_, fun channel userId => ?_⟩
  · exact (agree.enrolled.subscribed.trans (Core.joined_conn found)).symm
  · exact (agree.enrolled.indexed.trans (Core.joined_conn found)).symm
  · refine ⟨?_, fun there => (agree.present_conn found there).2⟩
    exact fun stored => agree.attending.present.mpr ⟨conn.view, found, rfl, stored⟩

theorem records_agree (crates : Crates) (apps : List App) (cacheTtl : Nat)
    {actions : List Action} {state : AppState}
    (reached : (system crates apps cacheTtl).run actions = some state) :
    (∀ socketId conn, state.connections.lookup socketId = some conn →
        conn.socketId = socketId ∧ RecordAgrees state conn) ∧
      ∀ socketId conn moment closed,
        state.connections.lookup socketId = some conn →
        step crates state (.close socketId moment) = some closed →
        LeftNothing closed socketId ∧
          (closed.adapter.ns conn.app.id).connectionCount + 1 =
            (state.adapter.ns conn.app.id).connectionCount := by
  have agree := agree_of_reached reached
  refine ⟨fun socketId conn stored => ?_, ?_⟩
  · obtain ⟨named, found⟩ := agree.found stored
    exact ⟨named, agree.recordAgrees found⟩
  · intro socketId conn moment closed stored stepped
    have closedAgree := agree.step stepped
    obtain ⟨rfl, found⟩ := agree.found stored
    simp only [step, perform, stored, Option.map_some, Option.some.injEq] at stepped
    subst stepped
    refine ⟨closedAgree.leftNothing (Finmap.lookup_erase _ _), ?_⟩
    have after : (onClose moment state conn).adapter =
        (state.core.close moment.order conn).adapter :=
      congrArg Core.adapter (core_onClose moment state conn)
    have count := congrArg Prod.snd
      (agree.registry_close found moment.order conn.app.id)
    rw [if_pos rfl, ← after] at count
    have known : conn.socketId ∈ (state.adapter.ns conn.app.id).sockets :=
      agree.registered.registered.mpr (Core.lives_conn found)
    have positive : 0 < (state.adapter.ns conn.app.id).connectionCount :=
      lt_of_lt_of_eq (Table.size_pos known) agree.registered.counted.symm
    change ((onClose moment state conn).adapter.ns conn.app.id).connectionCount + 1 = _
    change ((onClose moment state conn).adapter.ns conn.app.id).connectionCount =
      (state.adapter.ns conn.app.id).connectionCount - 1 at count
    omega

theorem records_agree_joined :
    ∃ state conn,
      (system Sample.crates [App.sample] 60).run Sample.joining = some state ∧
        state.connections.lookup "1.1" = some conn ∧
        conn.subscribedChannels = {"presence-room"} ∧ RecordAgrees state conn ∧
        ∃ closed, step Sample.crates state (.close "1.1" Sample.moment) =
          some closed ∧ LeftNothing closed "1.1" := by
  have ends : (((system Sample.crates [App.sample] 60).run Sample.joining).bind
      fun state => (state.connections.lookup "1.1").filter fun conn =>
        conn.subscribedChannels = {"presence-room"}).isSome = true := by
    decide +kernel
  obtain ⟨conn, found⟩ := Option.isSome_iff_exists.mp ends
  obtain ⟨state, reached, found⟩ := Option.bind_eq_some_iff.mp found
  obtain ⟨stored, joined⟩ := Option.filter_eq_some_iff.mp found
  have agrees := records_agree Sample.crates [App.sample] 60 reached
  have closes : step Sample.crates state (.close "1.1" Sample.moment) =
      some (settle (onClose Sample.moment state conn) (.close "1.1" Sample.moment)) := by
    rw [step, perform, stored]
    rfl
  exact ⟨state, conn, reached, stored, of_decide_eq_true joined,
    (agrees.1 "1.1" conn stored).2, _, closes,
    (agrees.2 "1.1" conn Sample.moment _ stored closes).1⟩

end RushSocket.Server
