import RushSocket.Server.Authorisation
import RushSocket.Server.Recipients
import RushSocket.Server.Rejection

namespace RushSocket.Server

open Adapter Data Protocol Transition Websocket

/-! The user under which a socket is in a presence channel. -/

def Core.AppearsAs (core : Core) (app : App) (socketId channel userId : String) :
    Prop :=
  core.Seen socketId fun view => view.app = app ∧
    ∃ userInfo, view.presence.lookup channel = some (userId, userInfo)

def Core.Attended (core : Core) : Prop :=
  ∀ appId socketId channel, core.Joined appId socketId channel →
    (ChannelKind.fromName channel).isPresence = true →
    ∃ userId, core.Appears appId socketId channel userId

section

variable {crates : Crates} {conn : WsConnection} {text : String} {core next : Core}
  {app : App} {socketId channel userId : String}

theorem Core.AppearsAs.appears (there : core.AppearsAs app socketId channel userId) :
    core.Appears app.id socketId channel userId := by
  obtain ⟨view, found, rfl, stored⟩ := there
  exact ⟨view, found, rfl, stored⟩

theorem Core.AppearsAs.identity (there : core.AppearsAs app socketId channel userId) :
    ∃ user, core.identity socketId = some (app, user) := by
  obtain ⟨view, found, rfl, _⟩ := there
  rw [Core.identity, found]
  exact ⟨view.userId, rfl⟩

theorem Core.Appears.of_identity {user : Option String}
    (there : core.Appears app.id socketId channel userId)
    (known : core.identity socketId = some (app, user)) :
    core.AppearsAs app socketId channel userId := by
  obtain ⟨view, found, _, stored⟩ := there
  refine ⟨view, found, ?_, stored⟩
  rw [Core.identity, found] at known
  exact congrArg Prod.fst (Option.some.inj known)

theorem identity_outcome {user : Option String}
    (outcome : Outcome crates conn text core next)
    (known : next.identity socketId = some (app, user)) :
    ∃ before, core.identity socketId = some (app, before) := by
  rcases signin_outcome outcome with ⟨kept, _⟩ | ⟨userId, _, rfl⟩
  · rw [kept] at known
    exact ⟨user, known⟩
  · rw [Core.identity_signIn] at known
    split at known
    · obtain ⟨⟨other, before⟩, stored, changed⟩ := Option.map_eq_some_iff.mp known
      cases changed
      exact ⟨before, stored⟩
    · exact ⟨user, known⟩

theorem appearsAs_outcome (agree : Agree core)
    (found : core.view conn.socketId = some conn.view)
    (outcome : Outcome crates conn text core next)
    (there : next.AppearsAs app socketId channel userId) :
    core.AppearsAs app socketId channel userId ∨
      (socketId = conn.socketId ∧ conn.app = app ∧
        channel ∉ conn.subscribedChannels ∧
        SubscribesTo crates app socketId text channel (some userId)) := by
  obtain ⟨user, known⟩ := there.identity
  obtain ⟨before, knownBefore⟩ := identity_outcome outcome known
  rcases appears_outcome agree found outcome there.appears with
    ⟨earlier, _⟩ | ⟨rfl, fresh, authorised⟩
  · exact .inl (earlier.of_identity knownBefore)
  · rw [Core.identity_conn found] at knownBefore
    have same : conn.app = app := congrArg Prod.fst (Option.some.inj knownBefore)
    exact .inr ⟨rfl, same, fresh, same ▸ authorised⟩

theorem Core.Attended.joinPresence {userInfo : Value} (attended : core.Attended)
    (agree : Agree core) (lives : core.Lives app.id socketId)
    (fresh : ¬ core.Joined app.id socketId channel) :
    (core.joinPresence app socketId channel userId userInfo).Attended := by
  intro appId socket place joined presence
  cases outcome : (core.adapter.tryAddPresenceMember app.id channel socketId userId
      userInfo app.maxPresenceMembersPerChannel).2.isOk with
  | false =>
      rw [Core.joinPresence_of_error outcome] at joined ⊢
      exact attended appId socket place joined presence
  | true =>
      have enters : ((core.tryPresence app.id socketId channel userId userInfo
          app.maxPresenceMembersPerChannel).join app.id socketId channel).Lives
            app.id socketId := Core.lives_join.mpr (show Core.Lives _ _ _ from lives)
      have absent : ∀ user, ¬ ((core.tryPresence app.id socketId channel userId
          userInfo app.maxPresenceMembersPerChannel).join app.id socketId
            channel).Appears app.id socketId channel user := by
        intro user there
        rw [Core.appears_join] at there
        exact fresh (agree.attending.attends there).1
      have tried : (core.tryPresence app.id socketId channel userId userInfo
          app.maxPresenceMembersPerChannel).Lives app.id socketId := lives
      rw [Core.joinPresence_of_ok outcome] at joined ⊢
      rw [Core.joined_notePresence, Core.joined_join tried] at joined
      simp only [Core.appears_notePresence enters absent, Core.appears_join]
      rcases joined with before | ⟨rfl, rfl, rfl⟩
      · obtain ⟨user, there⟩ := attended appId socket place before presence
        exact ⟨user, .inl there⟩
      · exact ⟨userId, .inr ⟨rfl, rfl, rfl, rfl⟩⟩

theorem Core.Attended.outcome (attended : core.Attended) (agree : Agree core)
    (found : core.view conn.socketId = some conn.view)
    (outcome : Outcome crates conn text core next) : next.Attended := by
  have lives := Core.lives_conn found
  cases outcome with
  | kept => exact attended
  | limited => exact attended
  | joined _ _ _ plain =>
      intro appId socket place joined presence
      simp only [Core.appears_join]
      rcases (Core.joined_join lives).mp joined with before | ⟨_, _, rfl⟩
      · exact attended appId socket place before presence
      · rw [plain] at presence
        cases presence
  | joinedPresence _ _ fresh =>
      exact attended.joinPresence agree lives
        fun joined => fresh ((Core.joined_conn found).mp joined)
  | unsubscribed =>
      intro appId socket place joined presence
      obtain ⟨before, remains⟩ := (Core.joined_unsubscribe lives).mp joined
      obtain ⟨user, there⟩ := attended appId socket place before presence
      exact ⟨user, (agree.appears_unsubscribe found).mpr ⟨there, remains⟩⟩
  | signedIn =>
      intro appId socket place joined presence
      obtain ⟨user, there⟩ :=
        attended appId socket place (Core.joined_signIn.mp joined) presence
      exact ⟨user, Core.appears_signIn.mpr there⟩

end

section

variable {crates : Crates} {apps : List App} {cacheTtl : Nat} {state next : AppState}
  {action : Action} {actions : List Action} {app : App}
  {socketId channel userId : String}

theorem Core.Attended.step (attended : state.core.Attended) (agree : Agree state.core)
    (stepped : step crates state action = some next) : next.core.Attended := by
  have change := change_step stepped
  generalize next.core = core at change
  cases change with
  | kept => exact attended
  | refused => exact attended
  | @entered key other entering absent =>
      have unknown : state.core.view other = none :=
        congrArg (Option.map WsConnection.view) absent
      intro appId socket place joined presence
      obtain ⟨user, there⟩ := attended appId socket place
        ((Core.joined_enter unknown).mp joined) presence
      exact ⟨user, (Core.appears_enter unknown).mpr there⟩
  | handled stored outcome => exact attended.outcome agree (agree.found stored).2 outcome
  | @closed _ moment conn stored =>
      obtain ⟨rfl, _⟩ := agree.found stored
      intro appId socket place joined presence
      obtain ⟨before, other⟩ := (Core.seen_closed moment.order).mp joined
      obtain ⟨user, there⟩ := attended appId socket place before presence
      exact ⟨user, (Core.seen_closed moment.order).mpr ⟨there, other⟩⟩

theorem attended_of_reached
    (reached : (system crates apps cacheTtl).run actions = some state) :
    state.core.Attended := by
  have both : Agree state.core ∧ state.core.Attended := by
    refine @System.invariant_of_every_step _ _ (system crates apps cacheTtl)
      (fun state => Agree state.core ∧ state.core.Attended) ⟨agree_new, ?_⟩ ?_ _ _
        reached
    · rintro appId socket place ⟨view, found, _⟩
      cases found
    · exact fun holds stepped =>
        ⟨holds.1.step stepped, holds.2.step holds.1 stepped⟩
  exact both.2

/-- The user of a presence channel has been there, or the step is the accepted
subscription. -/
theorem appearsAs_step (agree : Agree state.core)
    (stepped : step crates state action = some next)
    (there : next.core.AppearsAs app socketId channel userId) :
    state.core.AppearsAs app socketId channel userId ∨
      ∃ text moment conn, action = .message socketId text moment ∧
        state.connections.lookup socketId = some conn ∧ conn.app = app ∧
        channel ∉ conn.subscribedChannels ∧
        SubscribesTo crates app socketId text channel (some userId) := by
  have change := change_step stepped
  generalize next.core = core at change there
  cases change with
  | kept => exact .inl there
  | refused => exact .inl there
  | @entered key other entering absent =>
      have unknown : state.core.view other = none :=
        congrArg (Option.map WsConnection.view) absent
      rcases (Core.seen_enter unknown).mp there with before | ⟨_, _, userInfo, stored⟩
      · exact .inl before
      · cases stored
  | @handled sender text moment conn core stored outcome =>
      obtain ⟨rfl, found⟩ := agree.found stored
      rcases appearsAs_outcome agree found outcome there with
        before | ⟨rfl, same, fresh, authorised⟩
      · exact .inl before
      · exact .inr ⟨text, moment, conn, rfl, stored, same, fresh, authorised⟩
  | @closed _ moment conn stored =>
      obtain ⟨rfl, _⟩ := agree.found stored
      exact .inl ((Core.seen_closed moment.order).mp there).1

end

def InChannel (state : AppState) (socketId channel : String) : Prop :=
  ∃ conn, state.connections.lookup socketId = some conn ∧
    channel ∈ conn.subscribedChannels

/-- The message by which the socket has subscribed to the channel, while it was
not in it: its channel data is verified and names the user.  The socket has been
in the channel ever since. -/
def SubscribedAs (crates : Crates) (apps : List App) (cacheTtl : Nat)
    (actions : List Action) (app : App) (socketId channel userId : String) : Prop :=
  ∃ before text moment after earlier conn,
    actions = before ++ .message socketId text moment :: after ∧
      (system crates apps cacheTtl).run before = some earlier ∧
      earlier.connections.lookup socketId = some conn ∧ conn.app = app ∧
      channel ∉ conn.subscribedChannels ∧
      SubscribesTo crates app socketId text channel (some userId) ∧
      ∀ more, more <+: after → ∃ later,
        (system crates apps cacheTtl).run
            (before ++ .message socketId text moment :: more) = some later ∧
          InChannel later socketId channel

section

variable {crates : Crates} {apps : List App} {cacheTtl : Nat} {state : AppState}
  {actions : List Action} {app : App} {socketId channel userId : String}

theorem Agree.inChannel_of_appearsAs (agree : Agree state.core)
    (there : state.core.AppearsAs app socketId channel userId) :
    InChannel state socketId channel := by
  obtain ⟨view, viewed, _, member⟩ := (agree.attending.attends there.appears).1
  obtain ⟨conn, stored, rfl⟩ := Option.map_eq_some_iff.mp viewed
  exact ⟨conn, stored, member⟩

theorem SubscribedAs.extend {action : Action}
    (subscribed : SubscribedAs crates apps cacheTtl actions app socketId channel userId)
    (reached : (system crates apps cacheTtl).run (actions ++ [action]) = some state)
    (inChannel : InChannel state socketId channel) :
    SubscribedAs crates apps cacheTtl (actions ++ [action]) app socketId channel
      userId := by
  obtain ⟨before, text, moment, after, earlier, conn, rfl, start, stored, same, fresh,
    authorised, stays⟩ := subscribed
  refine ⟨before, text, moment, after ++ [action], earlier, conn, by simp, start, stored,
    same, fresh, authorised, ?_⟩
  intro more initial
  rcases List.prefix_concat_iff.mp initial with rfl | shorter
  · refine ⟨state, ?_, inChannel⟩
    rw [← reached]
    simp
  · exact stays more shorter

/-- A socket is in a presence channel as the user of the channel data that was
verified when it subscribed. -/
theorem subscribedAs_of_reached
    (reached : (system crates apps cacheTtl).run actions = some state)
    (there : state.core.AppearsAs app socketId channel userId) :
    SubscribedAs crates apps cacheTtl actions app socketId channel userId := by
  induction actions using List.reverseRecOn generalizing state with
  | nil =>
      cases reached
      obtain ⟨view, found, _⟩ := there
      cases found
  | append_singleton actions action induction =>
      have agree := agree_of_reached reached
      have whole := reached
      rw [System.run, System.runFrom_append] at whole
      obtain ⟨middle, early, last⟩ := Option.bind_eq_some_iff.mp whole
      obtain ⟨after, stepped, ended⟩ := (System.runFrom_cons_eq_some _).mp last
      cases ended
      have inChannel := agree.inChannel_of_appearsAs there
      rcases appearsAs_step (agree_of_reached early) stepped there with
        before | ⟨text, moment, conn, rfl, stored, same, fresh, authorised⟩
      · exact (induction early before).extend reached inChannel
      · refine ⟨actions, text, moment, [], middle, conn, rfl, early, stored, same, fresh,
          authorised, ?_⟩
        intro more initial
        rw [List.prefix_nil.mp initial]
        exact ⟨state, reached, inChannel⟩

end

/-! A client event is refused or forwarded. -/

section

variable (moment : Moment) (state : AppState) (conn : WsConnection)
  (msg : ClientMessage)

/-- An error to the sender, before or after the rate limiter has seen the event. -/
def Refuses (after : AppState) : Prop :=
  ∃ limiter message code,
    after = (state.setRateLimiter limiter).send conn.socketId (.error message code)

/-- The checks are passed and the event goes to the others in the channel. -/
structure Forwards (channel : String) (after : AppState) : Prop where
  named : msg.channel = some channel
  member : channel ∈ conn.subscribedChannels
  enabled : conn.app.clientEventMode ≠ "none"
  present : conn.app.clientEventMode = "members" →
    (ChannelKind.fromName channel).isPresence = true
  forwarded : after = ClientEvent.forward moment
    (ClientEvent.counted moment state conn) conn channel msg

variable {moment state conn msg}

theorem refuses_refuse (message : String) (code : UInt16) :
    Refuses state conn (ClientEvent.refuse state conn message code) :=
  ⟨state.rateLimiter, message, some code, rfl⟩

theorem refuses_refuse_counted (message : String) (code : UInt16) :
    Refuses state conn (ClientEvent.refuse (ClientEvent.counted moment state conn) conn
      message code) :=
  ⟨_, message, some code, rfl⟩

theorem handle_cases :
    Refuses state conn (ClientEvent.handle moment state conn msg) ∨
      ∃ channel, Forwards moment state conn msg channel
        (ClientEvent.handle moment state conn msg) := by
  unfold ClientEvent.handle
  split
  · exact .inl (refuses_refuse _ _)
  · rename_i enabled
    split
    · exact .inl (refuses_refuse _ _)
    · rename_i channel named
      split
      · exact .inl (refuses_refuse _ _)
      · rename_i member
        split
        · exact .inl (refuses_refuse _ _)
        · rename_i present
          dsimp only
          split
          · exact .inl (refuses_refuse_counted _ _)
          · unfold ClientEvent.checkAndForward
            split
            · exact .inl (refuses_refuse_counted _ _)
            · split
              · exact .inl (refuses_refuse_counted _ _)
              · split
                · exact .inl (refuses_refuse_counted _ _)
                · refine .inr ⟨channel, named, ?_, enabled, ?_, rfl⟩
                  · simpa [WsConnection.isSubscribed] using member
                  · intro members
                    simp only [ClientEvent.isMembersOnly, members, decide_true,
                      Bool.true_and, Bool.or_eq_true, Bool.not_eq_true',
                      not_or, Bool.not_eq_false] at present
                    exact present.1

theorem Refuses.framesTo_other {after : AppState} (refuses : Refuses state conn after)
    {receiver : String} (different : receiver ≠ conn.socketId) :
    framesTo after receiver = framesTo state receiver := by
  obtain ⟨limiter, message, code, rfl⟩ := refuses
  unfold framesTo AppState.send AppState.changeConn
  rw [Table.lookup_modify, if_neg different]
  rfl

theorem Refuses.endsInError {after : AppState} (refuses : Refuses state conn after)
    (room : Connections.HasRoom state.connections conn.socketId) :
    EndsInError conn.socketId state after := by
  obtain ⟨limiter, message, code, rfl⟩ := refuses
  refine ⟨[], .error message code, ?_, message, code, rfl⟩
  have sent := @Connections.enqueued_send _ _ _ state.connections _
    (ServerMessage.error message code) room conn.socketId
  rw [if_pos rfl] at sent
  rw [List.append_nil]
  exact sent

end

section

variable {crates : Crates} {apps : List App} {cacheTtl : Nat} {state after : AppState}
  {actions : List Action} {conn : WsConnection} {moment : Moment}
  {msg : ClientMessage} {channel : String}

theorem Forwards.framesTo (forwards : Forwards moment state conn msg channel after)
    (agree : Agree state.core)
    (room : ∀ key ∈ state.connections.keys,
      Connections.HasRoom state.connections key) (receiver : String) :
    Server.framesTo after receiver =
      Server.framesTo state receiver ++
        if receiver ∈ (state.adapter.ns conn.app.id).channels.members channel ∧
            receiver ≠ conn.socketId then
          [.channelEvent msg.event channel msg.data
            ((conn.getPresence channel).map Prod.fst)]
        else [] := by
  -- neither the rate limiter nor the webhook touches a connection
  have sent := @Handled.framesTo_sendToChannel moment
    ((ClientEvent.counted moment state conn).notify conn.app.id
      (.clientEvent channel msg.event msg.data conn.socketId
        ((conn.getPresence channel).map Prod.fst)))
    conn.app.id channel
    (.channelEvent msg.event channel msg.data ((conn.getPresence channel).map Prod.fst))
    (some conn.socketId) (agree.handled conn.app.id) (fun _ => agree.connected) room
    receiver
  simp only [ne_eq, Option.some.injEq] at sent
  rw [forwards.forwarded]
  exact sent

theorem userId_of_reached
    (reached : (system crates apps cacheTtl).run actions = some state)
    (stored : state.connections.lookup conn.socketId = some conn)
    (member : channel ∈ conn.subscribedChannels) :
    ((ChannelKind.fromName channel).isPresence = false →
        conn.getPresence channel = none) ∧
      ((ChannelKind.fromName channel).isPresence = true →
        ∃ userId, (conn.getPresence channel).map Prod.fst = some userId ∧
          SubscribedAs crates apps cacheTtl actions conn.app conn.socketId channel
            userId) := by
  have agree := agree_of_reached reached
  have found := (agree.found stored).2
  have there : ∀ {userId userInfo}, conn.getPresence channel = some (userId, userInfo) →
      state.core.AppearsAs conn.app conn.socketId channel userId :=
    fun present => ⟨conn.view, found, rfl, _, present⟩
  constructor
  · intro plain
    cases present : conn.getPresence channel with
    | none => rfl
    | some shown =>
        have attends := agree.attending.attends (there present).appears
        rw [plain] at attends
        cases attends.2
  · intro presence
    obtain ⟨userId, view, again, _, userInfo, present⟩ := attended_of_reached reached
      conn.app.id conn.socketId channel ((Core.joined_conn found).mpr member) presence
    rw [found] at again
    cases again
    have shown : conn.getPresence channel = some (userId, userInfo) := present
    exact ⟨userId, by rw [shown]; rfl, subscribedAs_of_reached reached (there shown)⟩

/-- A client event that is not answered with an error goes from a socket of the
channel to just the others there, under the user id with which the sender has
subscribed. -/
theorem client_event_relayed (crates : Crates) (apps : List App) (cacheTtl : Nat)
    {actions : List Action} {state : AppState}
    (reached : (system crates apps cacheTtl).run actions = some state)
    (room : ∀ key ∈ state.connections.keys, Connections.HasRoom state.connections key)
    (socketId : String) (conn : WsConnection)
    (stored : state.connections.lookup socketId = some conn) (moment : Moment)
    (msg : ClientMessage) :
    (¬ EndsInError socketId state (ClientEvent.handle moment state conn msg) →
        ∃ channel userId, msg.channel = some channel ∧
          channel ∈ conn.subscribedChannels ∧
          (∀ receiver,
            Server.framesTo (ClientEvent.handle moment state conn msg) receiver =
              Server.framesTo state receiver ++
                if receiver ∈
                    (state.adapter.ns conn.app.id).channels.members channel ∧
                  receiver ≠ socketId then
                  [.channelEvent msg.event channel msg.data userId]
                else []) ∧
          ((ChannelKind.fromName channel).isPresence = true → ∃ user,
            userId = some user ∧ SubscribedAs crates apps cacheTtl actions conn.app
              socketId channel user) ∧
          ((ChannelKind.fromName channel).isPresence = false → userId = none)) ∧
      (EndsInError socketId state (ClientEvent.handle moment state conn msg) →
        ∀ receiver, receiver ≠ socketId →
          Server.framesTo (ClientEvent.handle moment state conn msg) receiver =
            Server.framesTo state receiver) ∧
      (conn.app.clientEventMode = "none" →
        EndsInError socketId state (ClientEvent.handle moment state conn msg)) ∧
      (conn.app.clientEventMode = "members" →
        (∀ channel, msg.channel = some channel →
          (ChannelKind.fromName channel).isPresence = false) →
        EndsInError socketId state (ClientEvent.handle moment state conn msg)) := by
  have agree := agree_of_reached reached
  obtain ⟨rfl, found⟩ := agree.found stored
  have roomy := room conn.socketId (Table.mem_keys_iff.mpr ⟨conn, stored⟩)
  rcases @handle_cases moment state conn msg with refuses | ⟨channel, forwards⟩
  · have errs := refuses.endsInError roomy
    exact ⟨fun accepted => absurd errs accepted,
      fun _ receiver different => refuses.framesTo_other different, fun _ => errs,
      fun _ _ => errs⟩
  · have frames := forwards.framesTo agree room
    have plain : ¬ EndsInError conn.socketId state
        (ClientEvent.handle moment state conn msg) := by
      rintro ⟨sent, frame, ends, _⟩
      rw [frames, if_neg fun meant => meant.2 rfl] at ends
      simp at ends
    refine ⟨fun _ => ?_, fun errs => absurd errs plain,
      fun disabled => absurd disabled forwards.enabled, fun members outside => ?_⟩
    · obtain ⟨absent, present⟩ := userId_of_reached reached stored forwards.member
      refine ⟨channel, (conn.getPresence channel).map Prod.fst, forwards.named,
        forwards.member, frames, present, fun public_ => ?_⟩
      rw [absent public_]
      rfl
    · have presence := forwards.present members
      rw [outside channel forwards.named] at presence
      cases presence

def typing : ClientMessage where
  event := "client-typing"
  data := .ofJson .null
  channel := some "presence-room"

/-- Of the two in the room one sends the event and the other gets it. -/
theorem client_event_relayed_joined :
    ∃ state conn,
      (system Sample.roomCrates [App.sample] 60).run Sample.meeting = some state ∧
        state.connections.lookup "1.1" = some conn ∧
        ¬ EndsInError "1.1" state
          (ClientEvent.handle Sample.moment state conn typing) ∧
        framesTo (ClientEvent.handle Sample.moment state conn typing) "2.2" =
          framesTo state "2.2" ++ [.channelEvent "client-typing" "presence-room"
            (.ofJson .null) (some "ann")] ∧
        SubscribedAs Sample.roomCrates [App.sample] 60 Sample.meeting conn.app "1.1"
          "presence-room" "ann" := by
  have ends : (((system Sample.roomCrates [App.sample] 60).run Sample.meeting).bind
      fun state => (state.connections.lookup "1.1").filter fun conn =>
        (∀ key ∈ state.connections.keys, Connections.HasRoom state.connections key) ∧
          framesTo (ClientEvent.handle Sample.moment state conn typing) "1.1" =
            framesTo state "1.1" ∧
          "2.2" ∈ (state.adapter.ns conn.app.id).channels.members "presence-room" ∧
          framesTo (ClientEvent.handle Sample.moment state conn typing) "2.2" =
            framesTo state "2.2" ++ [.channelEvent "client-typing" "presence-room"
              (.ofJson .null) (some "ann")]).isSome = true := by
    decide +kernel
  obtain ⟨conn, found⟩ := Option.isSome_iff_exists.mp ends
  obtain ⟨state, reached, found⟩ := Option.bind_eq_some_iff.mp found
  obtain ⟨stored, holds⟩ := Option.filter_eq_some_iff.mp found
  obtain ⟨room, silent, member, delivered⟩ := of_decide_eq_true holds
  have accepted : ¬ EndsInError "1.1" state
      (ClientEvent.handle Sample.moment state conn typing) := by
    rintro ⟨sent, frame, last, _⟩
    rw [silent] at last
    simp at last
  obtain ⟨channel, userId, named, _, frames, present, _⟩ := (client_event_relayed
    Sample.roomCrates [App.sample] 60 reached room "1.1" conn stored Sample.moment
    typing).1 accepted
  cases named
  obtain ⟨user, rfl, subscribed⟩ := present (by decide)
  have relayed := frames "2.2"
  rw [if_pos ⟨member, by decide⟩] at relayed
  have event := (List.singleton_inj.mp
    (List.append_cancel_left (delivered.symm.trans relayed))).symm
  have user_eq : user = "ann" := Option.some.inj (congrArg ServerMessage.userId event)
  rw [user_eq] at subscribed
  exact ⟨state, conn, reached, stored, accepted, delivered, subscribed⟩

end

end RushSocket.Server
