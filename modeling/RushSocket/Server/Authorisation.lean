import RushSocket.Server.Frames
import RushSocket.Server.Identity

namespace RushSocket.Server

open Adapter Data Protocol Transition Websocket

/-! Memberships, presences and frames of channels that require a token go back
to a verified subscription. -/

/-- In a history whose latest action comes first, the socket has subscribed to
the channel with a token that verifies, and has not left it since.  The user is
that of the channel data it sent, if the channel is a presence channel. -/
def Granted (crates : Crates) (app : App) (socketId channel : String)
    (userId : Option String) : List Action → Prop
  | [] => False
  | .message sender text _ :: earlier =>
      (sender = socketId ∧ SubscribesTo crates app socketId text channel userId) ∨
        (¬ (sender = socketId ∧ Leaves crates text channel) ∧
          Granted crates app socketId channel userId earlier)
  | .accept _ other :: earlier =>
      other ≠ socketId ∧ Granted crates app socketId channel userId earlier
  | .close other _ :: earlier =>
      other ≠ socketId ∧ Granted crates app socketId channel userId earlier
  | .take _ :: earlier
  | .trigger _ _ _ _ :: earlier
  | .triggerBatch _ _ _ _ :: earlier
  | .terminate _ _ _ _ :: earlier =>
      Granted crates app socketId channel userId earlier

section

variable {crates : Crates} {app : App} {socketId channel : String}
  {userId : Option String} {history : List Action}

theorem Granted.of_other {action : Action} (other : action.actor ≠ some socketId)
    (granted : Granted crates app socketId channel userId history) :
    Granted crates app socketId channel userId (action :: history) := by
  cases action with
  | accept key actor => exact ⟨fun same => other (congrArg some same), granted⟩
  | message actor text moment =>
      exact .inr ⟨fun leaves => other (congrArg some leaves.1), granted⟩
  | close actor moment => exact ⟨fun same => other (congrArg some same), granted⟩
  | take _ => exact granted
  | trigger _ _ _ _ => exact granted
  | triggerBatch _ _ _ _ => exact granted
  | terminate _ _ _ _ => exact granted

theorem Granted.by_other {action : Action} {actor : String}
    (granted : Granted crates app socketId channel userId history)
    (acts : action.actor = some actor) (different : socketId ≠ actor) :
    Granted crates app socketId channel userId (action :: history) :=
  granted.of_other fun same => different (Option.some.inj (same.symm.trans acts))

end

/-- What the connections say of channels that require a token is granted. -/
structure Permitted (crates : Crates) (app : App) (core : Core)
    (history : List Action) : Prop where
  sole : ∀ socketId known user, core.identity socketId = some (known, user) →
    known = app
  joined : ∀ socketId channel, core.Joined app.id socketId channel →
    (ChannelKind.fromName channel).requiresAuth = true →
    ∃ userId, Granted crates app socketId channel userId history
  appears : ∀ socketId channel userId, core.Appears app.id socketId channel userId →
    Granted crates app socketId channel (some userId) history

/-! What a message does to the channels and presences of the connections. -/

section

variable {crates : Crates} {conn : WsConnection} {text : String} {core next : Core}
  {app socketId channel userId : String}

theorem Core.member_of_joined (found : core.view conn.socketId = some conn.view)
    (joined : core.Joined app conn.socketId channel) :
    app = conn.app.id ∧ channel ∈ conn.subscribedChannels := by
  obtain ⟨view, again, named, member⟩ := joined
  rw [found] at again
  cases again
  exact ⟨named.symm, member⟩

theorem Core.joined_joinPresence {entering : App} {userInfo : Value}
    (lives : core.Lives entering.id socketId)
    {socket place : String} (joined : (core.joinPresence entering socketId channel
      userId userInfo).Joined app socket place) :
    core.Joined app socket place ∨
      (app = entering.id ∧ socket = socketId ∧ place = channel) := by
  have tried : (core.tryPresence entering.id socketId channel userId userInfo
      entering.maxPresenceMembersPerChannel).Lives entering.id socketId := lives
  unfold joinPresence at joined
  dsimp only at joined
  split at joined
  · rw [joined_notePresence, joined_join tried] at joined
    exact joined
  · exact .inl joined

theorem Agree.appears_joinPresence {entering : App} {userInfo : Value}
    (agree : Agree core) (lives : core.Lives entering.id socketId)
    (fresh : ¬ core.Joined entering.id socketId channel) {socket place user : String}
    (appears : (core.joinPresence entering socketId channel userId userInfo).Appears
      app socket place user) :
    core.Appears app socket place user ∨
      (app = entering.id ∧ socket = socketId ∧ place = channel ∧ user = userId) := by
  have joinedLives : ((core.tryPresence entering.id socketId channel userId userInfo
      entering.maxPresenceMembersPerChannel).join entering.id socketId channel).Lives
        entering.id socketId := Core.lives_join.mpr (show Core.Lives _ _ _ from lives)
  have absent : ∀ user, ¬ ((core.tryPresence entering.id socketId channel userId
      userInfo entering.maxPresenceMembersPerChannel).join entering.id socketId
        channel).Appears entering.id socketId channel user := by
    intro user there
    rw [Core.appears_join] at there
    exact fresh (agree.attending.attends there).1
  unfold Core.joinPresence at appears
  dsimp only at appears
  split at appears
  · rw [Core.appears_notePresence joinedLives absent, Core.appears_join] at appears
    exact appears
  · exact .inl appears

theorem joined_outcome (found : core.view conn.socketId = some conn.view)
    (outcome : Outcome crates conn text core next)
    (joined : next.Joined app socketId channel) :
    (core.Joined app socketId channel ∧
        (socketId = conn.socketId → ¬ Leaves crates text channel)) ∨
      (socketId = conn.socketId ∧
        ((ChannelKind.fromName channel).requiresAuth = true →
          ∃ userId, SubscribesTo crates conn.app conn.socketId text channel
            userId)) := by
  have lives := Core.lives_conn found
  have stays : Silent crates conn text → core.Joined app socketId channel →
      socketId = conn.socketId → ¬ Leaves crates text channel := by
    rintro silent before rfl leaves
    exact silent.remains channel leaves (Core.member_of_joined found before).2
  cases outcome with
  | kept silent => exact .inl ⟨joined, stays silent joined⟩
  | limited silent => exact .inl ⟨joined, stays silent joined⟩
  | joined silent _ _ _ authorised =>
      rcases (Core.joined_join lives).mp joined with before | ⟨_, same, rfl⟩
      · exact .inl ⟨before, stays silent before⟩
      · exact .inr ⟨same, fun needs => ⟨none, authorised needs⟩⟩
  | joinedPresence silent _ _ _ authorised =>
      rcases Core.joined_joinPresence lives joined with before | ⟨_, same, rfl⟩
      · exact .inl ⟨before, stays silent before⟩
      · exact .inr ⟨same, fun _ => ⟨_, authorised⟩⟩
  | unsubscribed _ leaves =>
      obtain ⟨before, remains⟩ := (Core.joined_unsubscribe lives).mp joined
      refine .inl ⟨before, ?_⟩
      rintro rfl left
      have sameApp := (Core.member_of_joined found before).1
      exact remains ⟨sameApp, rfl, (leaves channel).mp left⟩
  | signedIn _ left =>
      exact .inl ⟨Core.joined_signIn.mp joined, fun _ => left channel⟩

theorem appears_outcome (agree : Agree core)
    (found : core.view conn.socketId = some conn.view)
    (outcome : Outcome crates conn text core next)
    (appears : next.Appears app socketId channel userId) :
    (core.Appears app socketId channel userId ∧
        (socketId = conn.socketId → ¬ Leaves crates text channel)) ∨
      (socketId = conn.socketId ∧ channel ∉ conn.subscribedChannels ∧
        SubscribesTo crates conn.app conn.socketId text channel (some userId)) := by
  have lives := Core.lives_conn found
  have stays : Silent crates conn text → core.Appears app socketId channel userId →
      socketId = conn.socketId → ¬ Leaves crates text channel := by
    rintro silent before rfl leaves
    have joined := (agree.attending.attends before).1
    exact silent.remains channel leaves (Core.member_of_joined found joined).2
  cases outcome with
  | kept silent => exact .inl ⟨appears, stays silent appears⟩
  | limited silent => exact .inl ⟨appears, stays silent appears⟩
  | joined silent =>
      rw [Core.appears_join] at appears
      exact .inl ⟨appears, stays silent appears⟩
  | joinedPresence silent _ fresh _ authorised =>
      rcases agree.appears_joinPresence lives
        (fun joined => fresh ((Core.joined_conn found).mp joined)) appears with
        before | ⟨_, same, rfl, rfl⟩
      · exact .inl ⟨before, stays silent before⟩
      · exact .inr ⟨same, fresh, authorised⟩
  | unsubscribed _ leaves =>
      obtain ⟨before, remains⟩ := (agree.appears_unsubscribe found).mp appears
      refine .inl ⟨before, ?_⟩
      rintro rfl left
      have joined := (agree.attending.attends before).1
      exact remains ⟨(Core.member_of_joined found joined).1, rfl,
        (leaves channel).mp left⟩
  | signedIn _ left =>
      exact .inl ⟨Core.appears_signIn.mp appears, fun _ => left channel⟩

end

/-! Every step keeps what is permitted. -/

section

variable {crates : Crates} {app : App} {state next : AppState} {action : Action}
  {history : List Action}

theorem Core.Seen.ne_of_absent {core : Core} {holds : View → Prop}
    {socketId other : String} (seen : core.Seen socketId holds)
    (absent : core.view other = none) : socketId ≠ other := by
  rintro rfl
  obtain ⟨view, found, _⟩ := seen
  rw [absent] at found
  cases found

/-- An action of one socket that gives no other socket anything. -/
theorem Permitted.passed {core : Core} {actor : String}
    (permitted : Permitted crates app state.core history)
    (acts : action.actor = some actor)
    (sole : ∀ socketId known user, core.identity socketId = some (known, user) →
      known = app)
    (joined : ∀ {socketId channel}, core.Joined app.id socketId channel →
      state.core.Joined app.id socketId channel ∧ socketId ≠ actor)
    (appears : ∀ {socketId channel userId},
      core.Appears app.id socketId channel userId →
      state.core.Appears app.id socketId channel userId ∧ socketId ≠ actor) :
    Permitted crates app core (action :: history) where
  sole := sole
  joined := by
    intro socketId channel there needs
    obtain ⟨before, different⟩ := joined there
    obtain ⟨userId, granted⟩ := permitted.joined socketId channel before needs
    exact ⟨userId, granted.by_other acts different⟩
  appears := by
    intro socketId channel userId there
    obtain ⟨before, different⟩ := appears there
    exact (permitted.appears socketId channel userId before).by_other acts different

theorem findByKey_sole {key : String} {found : App}
    (named : StaticAppManager.findByKey ⟨[app]⟩ key = some found) : found = app := by
  simp only [StaticAppManager.findByKey, List.findRev?] at named
  split at named
  · exact (Option.some.inj named).symm
  · cases named

theorem Permitted.handled {conn : WsConnection} {text : String} {moment : Moment}
    {core : Core} (permitted : Permitted crates app state.core history)
    (agree : Agree state.core) (found : state.core.view conn.socketId = some conn.view)
    (outcome : Outcome crates conn text state.core core) :
    Permitted crates app core (.message conn.socketId text moment :: history) := by
  have same : conn.app = app :=
    permitted.sole conn.socketId conn.app _ (Core.identity_conn found)
  refine ⟨?_, fun socketId channel joined needs => ?_,
    fun socketId channel userId appears => ?_⟩
  · intro socketId known user identity
    rcases signin_outcome outcome with ⟨kept, _⟩ | ⟨userId, _, rfl⟩
    · rw [kept] at identity
      exact permitted.sole socketId known user identity
    · rw [Core.identity_signIn] at identity
      split at identity
      · obtain ⟨⟨other, before⟩, stored, changed⟩ := Option.map_eq_some_iff.mp identity
        cases changed
        exact permitted.sole socketId known before stored
      · exact permitted.sole socketId known user identity
  · rcases joined_outcome found outcome joined with ⟨before, stays⟩ | ⟨rfl, subscribes⟩
    · obtain ⟨userId, granted⟩ := permitted.joined socketId channel before needs
      exact ⟨userId, .inr ⟨fun leaves => stays leaves.1.symm leaves.2, granted⟩⟩
    · obtain ⟨userId, authorised⟩ := subscribes needs
      exact ⟨userId, .inl ⟨rfl, same ▸ authorised⟩⟩
  · rcases appears_outcome agree found outcome appears with
      ⟨before, stays⟩ | ⟨rfl, _, authorised⟩
    · have granted := permitted.appears socketId channel userId before
      exact .inr ⟨fun leaves => stays leaves.1.symm leaves.2, granted⟩
    · exact .inl ⟨rfl, same ▸ authorised⟩

theorem Permitted.step (permitted : Permitted crates app state.core history)
    (agree : Agree state.core) (apps : state.appManager = ⟨[app]⟩)
    (stepped : step crates state action = some next) :
    Permitted crates app next.core (action :: history) := by
  have change := change_step stepped
  generalize next.core = core at change
  cases change with
  | kept quiet =>
      have other : ∀ socketId, action.actor ≠ some socketId := by
        intro socketId
        rw [quiet]
        exact fun same => nomatch same
      refine ⟨permitted.sole, fun socketId channel joined needs => ?_, ?_⟩
      · obtain ⟨userId, granted⟩ := permitted.joined socketId channel joined needs
        exact ⟨userId, granted.of_other (other socketId)⟩
      · exact fun socketId channel userId appears =>
          (permitted.appears socketId channel userId appears).of_other (other socketId)
  | @refused key other _ absent _ =>
      have unknown : state.core.view other = none :=
        congrArg (Option.map WsConnection.view) absent
      exact permitted.passed rfl permitted.sole
        (fun joined => ⟨joined, joined.ne_of_absent unknown⟩)
        fun appears => ⟨appears, appears.ne_of_absent unknown⟩
  | @entered key other entering absent found added =>
      have unknown : state.core.view other = none :=
        congrArg (Option.map WsConnection.view) absent
      refine permitted.passed rfl ?_ (fun joined => ?_) fun appears => ?_
      · intro socketId known user identity
        rw [Core.identity_enter] at identity
        split at identity
        · cases identity
          rw [apps] at found
          exact findByKey_sole found
        · exact permitted.sole socketId known user identity
      · rw [Core.joined_enter unknown] at joined
        exact ⟨joined, joined.ne_of_absent unknown⟩
      · rw [Core.appears_enter unknown] at appears
        exact ⟨appears, appears.ne_of_absent unknown⟩
  | handled stored outcome =>
      obtain ⟨rfl, found⟩ := agree.found stored
      exact permitted.handled agree found outcome
  | @closed _ moment conn stored =>
      obtain ⟨rfl, found⟩ := agree.found stored
      refine permitted.passed rfl (fun socketId known user identity => ?_)
        (Core.seen_closed moment.order).mp (Core.seen_closed moment.order).mp
      rw [Core.identity_closed] at identity
      split at identity
      · cases identity
      · exact permitted.sole socketId known user identity

/-! Frames. -/

/-- A frame that names a channel which requires a token may go to the sockets
that are granted the channel. -/
def MayGet (crates : Crates) (app : App) (history : List Action) (socketId : String)
    (frame : ServerMessage) : Prop :=
  ∀ channel, frame.channel = some channel →
    (ChannelKind.fromName channel).requiresAuth = true →
    ∃ userId, Granted crates app socketId channel userId history

theorem mayGet_of_plain {socketId : String} {frame : ServerMessage}
    (plain : frame.channel = none) : MayGet crates app history socketId frame := by
  intro channel named
  rw [plain] at named
  cases named

theorem Permitted.entitled (permitted : Permitted crates app state.core history)
    (agree : Agree state.core) {except : Option String}
    (others : ∀ socketId, some socketId ≠ except → action.actor ≠ some socketId) :
    Entitled (MayGet crates app (action :: history)) app.id except state.adapter where
  handled := agree.registered.handled
  allowed := by
    intro socketId channel frame there different named other named' needs
    rw [named] at named'
    cases named'
    obtain ⟨userId, granted⟩ := permitted.joined socketId channel
      (agree.enrolled.subscribed.mp there) needs
    exact ⟨userId, granted.of_other (others socketId different)⟩

theorem findById_sole {id : String} {found : App}
    (named : StaticAppManager.findById ⟨[app]⟩ id = some found) : id = app.id := by
  obtain ⟨member, sameId⟩ := StaticAppManager.mem_of_findById named
  rw [← sameId, List.mem_singleton.mp member]

theorem Permitted.grows_perform {after : AppState}
    (permitted : Permitted crates app state.core history) (agree : Agree state.core)
    (apps : state.appManager = ⟨[app]⟩) (fits : CacheFits app.id state.cache)
    (performed : perform crates state action = some after) :
    Grows (MayGet crates app (action :: history)) app.id state after := by
  have everyone : action.actor = none → Entitled (MayGet crates app
      (action :: history)) app.id none state.adapter := fun quiet =>
    permitted.entitled agree fun socketId _ => by
      rw [quiet]
      exact fun same => nomatch same
  cases action with
  | accept key socketId =>
      simp only [perform] at performed
      split at performed
      · cases performed
      · rename_i absent
        cases performed
        exact grows_accept state (Finmap.lookup_eq_none.mpr absent)
  | message socketId text moment =>
      simp only [perform, Option.map_eq_some_iff] at performed
      obtain ⟨conn, stored, rfl⟩ := performed
      obtain ⟨rfl, found⟩ := agree.found stored
      have same : conn.app = app :=
        permitted.sole conn.socketId conn.app _ (Core.identity_conn found)
      subst same
      refine (response_onMessage crates moment state conn text).grows ?_ fits
        (fun frame plain => mayGet_of_plain plain) ?_
      · exact permitted.entitled agree fun other different actor =>
          different actor.symm
      · intro channel userId frame authorised named other named' needs
        rw [named] at named'
        cases named'
        exact ⟨userId, .inl ⟨rfl, authorised needs⟩⟩
  | close socketId moment =>
      simp only [perform, Option.map_eq_some_iff] at performed
      obtain ⟨conn, stored, rfl⟩ := performed
      obtain ⟨rfl, found⟩ := agree.found stored
      have same : conn.app = app :=
        permitted.sole conn.socketId conn.app _ (Core.identity_conn found)
      subst same
      exact grows_onClose state (permitted.entitled agree
        fun other different actor => different actor.symm)
  | take socketId =>
      cases performed
      exact grows_take state socketId
  | trigger appId params body moment =>
      cases performed
      cases found : state.appManager.findById appId with
      | none =>
          rw [trigger_unknown crates params body found]
          exact .refl state
      | some known =>
          rw [apps] at found
          have same := findById_sole found
          subst same
          exact grows_trigger crates state params body (everyone rfl)
  | triggerBatch appId params body moment =>
      cases performed
      cases found : state.appManager.findById appId with
      | none =>
          rw [triggerBatch_unknown crates params body found]
          exact .refl state
      | some known =>
          rw [apps] at found
          have same := findById_sole found
          subst same
          exact grows_triggerBatch crates state params body (everyone rfl)
  | terminate appId userId params moment =>
      cases performed
      exact grows_terminate crates state appId userId params
        fun socketId frame plain => mayGet_of_plain plain

/-- What holds of every state of a node with one app. -/
structure Lawful (crates : Crates) (app : App) (state : AppState)
    (history : List Action) : Prop where
  agree : Agree state.core
  permitted : Permitted crates app state.core history
  apps : state.appManager = ⟨[app]⟩
  fits : CacheFits app.id state.cache

theorem lawful_new (cacheTtl : Nat) :
    Lawful crates app (.new [app] cacheTtl) [] where
  agree := agree_new
  permitted := by
    constructor
    · intro socketId known user identity
      cases identity
    · rintro socketId channel ⟨view, found, _⟩
      cases found
    · rintro socketId channel userId ⟨view, found, _⟩
      cases found
  apps := rfl
  fits := fun _ _ stored => nomatch stored

theorem Lawful.step (lawful : Lawful crates app state history)
    (stepped : step crates state action = some next) :
    Lawful crates app next (action :: history) := by
  obtain ⟨after, performed, rfl⟩ := Option.map_eq_some_iff.mp stepped
  have grows := lawful.permitted.grows_perform lawful.agree lawful.apps lawful.fits
    performed
  have settled : (settle after action).appManager = after.appManager ∧
      (settle after action).cache = after.cache := by
    unfold settle
    split
    · exact ⟨rfl, rfl⟩
    · exact ⟨rfl, rfl⟩
  refine ⟨lawful.agree.step stepped,
    lawful.permitted.step lawful.agree lawful.apps stepped, ?_, ?_⟩
  · rw [settled.1, grows.apps, lawful.apps]
  · rw [settled.2]
    exact grows.cached lawful.fits

end

section

variable (crates : Crates) (app : App) (cacheTtl : Nat) {actions : List Action}
  {state : AppState}

theorem lawful_of_reached
    (reached : (system crates [app] cacheTtl).run actions = some state) :
    Lawful crates app state actions.reverse :=
  @System.invariant_history _ _ (system crates [app] cacheTtl) (fun _ _ => True)
    (Lawful crates app) (lawful_new cacheTtl)
    (fun lawful _ stepped => lawful.step stepped) actions state reached
    (System.meets_true _ _ _)

/-- Without a token that verifies, which is `Auth.channelToken` and no other, no socket is
a member of a channel that requires one, nobody is present as another user, and no frame
of such a channel goes out. -/
theorem only_authorised
    (reached : (system crates [app] cacheTtl).run actions = some state) :
    (∀ appId socketId channel,
        socketId ∈ (state.adapter.ns appId).channels.members channel →
        (ChannelKind.fromName channel).requiresAuth = true →
        ∃ userId, Granted crates app socketId channel userId actions.reverse) ∧
      (∀ appId socketId channel userId,
        socketId ∈ (state.adapter.ns appId).presenceSockets channel userId →
        Granted crates app socketId channel (some userId) actions.reverse) ∧
      ∀ action after, perform crates state action = some after → ∀ socketId,
        ∃ new, framesTo after socketId = framesTo state socketId ++ new ∧
          ∀ frame ∈ new, ∀ channel, frame.channel = some channel →
            (ChannelKind.fromName channel).requiresAuth = true →
            ∃ userId,
              Granted crates app socketId channel userId
                (action :: actions.reverse) := by
  have lawful := lawful_of_reached crates app cacheTtl reached
  have sameApp : ∀ {appId socketId} {holds : View → Prop}, state.core.Seen socketId
      (fun view => view.app.id = appId ∧ holds view) → appId = app.id := by
    rintro appId socketId holds ⟨view, found, named, _⟩
    have known : state.core.identity socketId = some (view.app, view.userId) := by
      rw [Core.identity, found]
      rfl
    rw [← named, lawful.permitted.sole socketId view.app view.userId known]
  refine ⟨fun appId socketId channel member needs => ?_,
    fun appId socketId channel userId there => ?_, ?_⟩
  · have joined := lawful.agree.enrolled.subscribed.mp member
    have same := sameApp joined
    subst same
    exact lawful.permitted.joined socketId channel joined needs
  · have appears := lawful.agree.attending.present.mp there
    have same := sameApp appears
    subst same
    exact lawful.permitted.appears socketId channel userId appears
  · intro action after performed socketId
    exact (lawful.permitted.grows_perform lawful.agree lawful.apps lawful.fits
      performed).frames socketId

theorem only_authorised_joined :
    ∃ state, (system Sample.crates [App.sample] 60).run Sample.joining = some state ∧
      "1.1" ∈ (state.adapter.ns "app").presenceSockets "presence-room" "ann" ∧
      Granted Sample.crates App.sample "1.1" "presence-room" (some "ann")
        Sample.joining.reverse := by
  have ends : (((system Sample.crates [App.sample] 60).run Sample.joining).filter
      fun state => "1.1" ∈ (state.adapter.ns "app").presenceSockets "presence-room"
        "ann").isSome = true := by
    decide +kernel
  obtain ⟨state, found⟩ := Option.isSome_iff_exists.mp ends
  obtain ⟨reached, present⟩ := Option.filter_eq_some_iff.mp found
  have there := of_decide_eq_true present
  exact ⟨state, reached, there, (only_authorised Sample.crates App.sample 60
    reached).2.1 "app" "1.1" "presence-room" "ann" there⟩

end

end RushSocket.Server
