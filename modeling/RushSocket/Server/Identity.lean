import RushSocket.Server.Agreement

namespace RushSocket.Server

open Adapter Data Protocol Websocket

/-! The app and the user of each connection, and what changes them. -/

namespace Core

def identity (core : Core) (socketId : String) : Option (App × Option String) :=
  (core.view socketId).map fun view => (view.app, view.userId)

def Identified (core : Core) (appId socketId userId : String) : Prop :=
  ∃ app, core.identity socketId = some (app, some userId) ∧ app.id = appId

section

variable {core next : Core} {conn : WsConnection} {app : App}
  {socketId channel userId : String} {userInfo : Value}

theorem identity_of_view (same : next.view = core.view) :
    next.identity = core.identity := by
  funext socketId
  rw [identity, same, identity]

theorem identity_change {alter : View → View}
    (same : ∀ view, (alter view).app = view.app ∧ (alter view).userId = view.userId) :
    (core.change socketId alter).identity = core.identity := by
  funext other
  simp only [identity, change]
  split
  · rw [Option.map_map]
    refine congrFun (congrArg Option.map ?_) _
    funext view
    exact Prod.ext (same view).1 (same view).2
  · rfl

theorem identity_join (appId : String) :
    (core.join appId socketId channel).identity = core.identity :=
  identity_change fun _ => ⟨rfl, rfl⟩

theorem identity_notePresence :
    (core.notePresence socketId channel userId userInfo).identity = core.identity :=
  identity_change fun _ => ⟨rfl, rfl⟩

theorem identity_joinPresence :
    (core.joinPresence app socketId channel userId userInfo).identity =
      core.identity := by
  unfold joinPresence
  dsimp only
  split
  · rw [identity_notePresence, identity_join]
    rfl
  · rfl

theorem identity_unsubscribe :
    (core.unsubscribe conn channel).identity = core.identity := by
  have forgotten : (core.forget conn channel).identity = core.identity := by
    unfold forget
    split
    · exact identity_change fun _ => ⟨rfl, rfl⟩
    · rfl
  have withdrawn : ((core.forget conn channel).withdraw conn channel).identity =
      core.identity := (identity_of_view view_withdraw).trans forgotten
  rw [← withdrawn]
  exact identity_change fun _ => ⟨rfl, rfl⟩

theorem identity_signIn (appId other : String) :
    (core.signIn appId socketId userId).identity other =
      if other = socketId then
        (core.identity other).map fun (app, _) => (app, some userId)
      else core.identity other := by
  simp only [identity, signIn, change, setAdapter]
  split
  · rw [Option.map_map, Option.map_map]
    rfl
  · rfl

theorem keeps_joinPresence {α : Type u} {part : Namespace → α}
    (ignores : ∀ ns channels socketChannels presence,
      part { ns with channels, socketChannels, presence } = part ns) :
    LocalAdapter.Keeps part core.adapter
      (core.joinPresence app socketId channel userId userInfo).adapter := by
  have tried : LocalAdapter.Keeps part core.adapter (core.tryPresence app.id socketId
      channel userId userInfo app.maxPresenceMembersPerChannel).adapter :=
    LocalAdapter.keeps_tryAddPresenceMember fun ns presence =>
      ignores ns ns.channels ns.socketChannels presence
  unfold joinPresence
  dsimp only
  split
  · exact tried.trans (LocalAdapter.keeps_addToChannel
      fun ns channels socketChannels => ignores ns channels socketChannels ns.presence)
  · exact tried

theorem keeps_unsubscribe {α : Type u} {part : Namespace → α}
    (ignores : ∀ ns channels socketChannels presence,
      part { ns with channels, socketChannels, presence } = part ns) :
    LocalAdapter.Keeps part core.adapter (core.unsubscribe conn channel).adapter := by
  have forgotten : (core.forget conn channel).adapter = core.adapter := by
    unfold forget
    split <;> rfl
  rw [← forgotten]
  refine LocalAdapter.Keeps.trans (keeps_withdraw fun ns presence => ?_)
    (LocalAdapter.keeps_removeFromChannel fun ns channels socketChannels => ?_)
  · exact ignores ns ns.channels ns.socketChannels presence
  · exact ignores ns channels socketChannels ns.presence

theorem identity_conn {core : Core} {conn : WsConnection}
    (found : core.view conn.socketId = some conn.view) :
    core.identity conn.socketId = some (conn.app, conn.user.map UserInfo.id) := by
  rw [identity, found]
  rfl

theorem identity_enter {core : Core} {app : App} {socketId : String}
    (other : String) :
    (core.enter app socketId).identity other =
      if other = socketId then some (app, none) else core.identity other := by
  simp only [identity, enter]
  split
  · rfl
  · rfl

theorem identity_closed {core : Core} {conn : WsConnection}
    (order : HashOrder) (other : String) :
    ((core.close order conn).vanish conn.socketId).identity other =
      if other = conn.socketId then none else core.identity other := by
  simp only [identity, vanish, view_close]
  split
  · rfl
  · rfl

end

end Core

/-- A message either signs its sender in or leaves every identity as it is. -/
theorem signin_outcome {crates : Crates} {conn : WsConnection} {text : String}
    {core next : Core} (outcome : Outcome crates conn text core next) :
    (next.identity = core.identity ∧
      LocalAdapter.Keeps Namespace.users core.adapter next.adapter ∧
      ∀ userId, ¬ SignsInAs crates conn.app conn.socketId text userId) ∨
      ∃ userId, SignsInAs crates conn.app conn.socketId text userId ∧
        next = core.signIn conn.app.id conn.socketId userId := by
  cases outcome with
  | kept silent => exact .inl ⟨rfl, LocalAdapter.Keeps.refl _ _, silent.unsigned⟩
  | limited silent => exact .inl ⟨rfl, LocalAdapter.Keeps.refl _ _, silent.unsigned⟩
  | joined silent =>
      exact .inl ⟨Core.identity_join _, LocalAdapter.keeps_addToChannel
        fun _ _ _ => rfl, silent.unsigned⟩
  | joinedPresence silent =>
      exact .inl ⟨Core.identity_joinPresence,
        Core.keeps_joinPresence fun _ _ _ _ => rfl, silent.unsigned⟩
  | unsubscribed unsigned =>
      exact .inl ⟨Core.identity_unsubscribe,
        Core.keeps_unsubscribe fun _ _ _ _ => rfl, unsigned⟩
  | signedIn signsIn => exact .inr ⟨_, signsIn, rfl⟩

theorem SignsInAs.unique {crates : Crates} {app : App}
    {socketId userId text other : String}
    (signsIn : SignsInAs crates app socketId text userId)
    (again : SignsInAs crates app socketId text other) : other = userId := by
  obtain ⟨msg, read, _, _, data, userDataText, userData, extracted, given, _, readData,
    id⟩ := signsIn
  obtain ⟨_, _, data', userDataText', userData', extracted', given', _, readData', id'⟩ :=
    again.event read
  rw [extracted] at extracted'
  cases extracted'
  rw [given] at given'
  cases given'
  rw [readData] at readData'
  cases readData'
  rw [id] at id'
  exact (Option.some.inj id').symm

end RushSocket.Server
