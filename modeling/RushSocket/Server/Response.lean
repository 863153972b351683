import RushSocket.Websocket.Lifecycle

namespace RushSocket.Server

open Adapter Data Protocol Websocket

/-! What a message of a connection can lead to.  The checks of the handlers are
gone through once, here; later modules take the cases. -/

def Names (crates : Crates) (msg : ClientMessage) (channel : String) : Prop :=
  ∃ data, extractData crates msg = some data ∧
    stringField data "channel" = some channel

/-- A subscription with the token that the secret of the app makes: for a presence
channel the token signs channel data for this user, for any other channel none. -/
def Authorises (crates : Crates) (app : App) (socketId : String)
    (msg : ClientMessage) (channel : String) (userId : Option String) : Prop :=
  let token := Auth.channelToken crates.sign app.key app.secret socketId channel
  ∃ data, extractData crates msg = some data ∧
    stringField data "channel" = some channel ∧
    match userId with
    | none => (ChannelKind.fromName channel).isPresence = false ∧
        stringField data "auth" = some (token none)
    | some userId => (ChannelKind.fromName channel).isPresence = true ∧
        ∃ channelDataText channelData,
          stringField data "channel_data" = some channelDataText ∧
          stringField data "auth" = some (token (some channelDataText)) ∧
          crates.readValue channelDataText = some channelData ∧
          idField channelData "user_id" = some userId

/-- A signin for this user with the token that the secret of the app makes. -/
def SignsIn (crates : Crates) (app : App) (socketId : String) (msg : ClientMessage)
    (userId : String) : Prop :=
  app.enableUserAuthentication = true ∧
    ∃ data userDataText userData, extractData crates msg = some data ∧
      stringField data "user_data" = some userDataText ∧
      stringField data "auth" = some (Auth.signinToken crates.sign app.key app.secret
        socketId userDataText) ∧
      crates.readValue userDataText = some userData ∧
      idField userData "id" = some userId

/-- A text that is a message of this event. -/
def Sends (crates : Crates) (text event : String) (holds : ClientMessage → Prop) :
    Prop :=
  ∃ msg, crates.readMessage text = some msg ∧ msg.event = event ∧ holds msg

def SubscribesTo (crates : Crates) (app : App) (socketId text channel : String)
    (userId : Option String) : Prop :=
  Sends crates text "pusher:subscribe" fun msg =>
    Authorises crates app socketId msg channel userId

def SignsInAs (crates : Crates) (app : App) (socketId text userId : String) : Prop :=
  Sends crates text "pusher:signin" fun msg => SignsIn crates app socketId msg userId

def Leaves (crates : Crates) (text channel : String) : Prop :=
  Sends crates text "pusher:unsubscribe" fun msg => Names crates msg channel

/-- A text that neither signs its sender in nor takes it out of a channel. -/
structure Silent (crates : Crates) (conn : WsConnection) (text : String) : Prop where
  unsigned : ∀ userId, ¬ SignsInAs crates conn.app conn.socketId text userId
  remains : ∀ channel, Leaves crates text channel → channel ∉ conn.subscribedChannels

/-- The state after a message. -/
inductive Response (crates : Crates) (moment : Moment) (conn : WsConnection)
    (text : String) (state : AppState) : AppState → Prop where
  | ignored (silent : Silent crates conn text) :
      Response crates moment conn text state state
  | replied {frame : ServerMessage} (plain : frame.channel = none)
      (silent : Silent crates conn text) :
      Response crates moment conn text state (state.send conn.socketId frame)
  | joined {channel : String} {authenticated : Bool}
      (silent : Silent crates conn text) (left : ¬ Leaves crates text channel)
      (fresh : channel ∉ conn.subscribedChannels)
      (plain : (ChannelKind.fromName channel).isPresence = false)
      (authorised : (ChannelKind.fromName channel).requiresAuth = true →
        SubscribesTo crates conn.app conn.socketId text channel none) :
      Response crates moment conn text state
        (Subscribe.joinChannel moment state conn channel authenticated)
  | joinedPresence {channel userId : String} {userInfo : Value}
      (silent : Silent crates conn text) (left : ¬ Leaves crates text channel)
      (fresh : channel ∉ conn.subscribedChannels)
      (presence : (ChannelKind.fromName channel).isPresence = true)
      (authorised :
        SubscribesTo crates conn.app conn.socketId text channel (some userId)) :
      Response crates moment conn text state
        (Subscribe.joinPresence moment state conn channel userId userInfo)
  | unsubscribed {channel : String}
      (unsigned : ∀ userId, ¬ SignsInAs crates conn.app conn.socketId text userId)
      (leaves : ∀ other, Leaves crates text other ↔ other = channel)
      (member : channel ∈ conn.subscribedChannels) :
      Response crates moment conn text state
        (Unsubscribe.leave moment state conn channel)
  | signedIn {userId userDataText : String} {userData : Value}
      (signsIn : SignsInAs crates conn.app conn.socketId text userId)
      (left : ∀ channel, ¬ Leaves crates text channel) :
      Response crates moment conn text state
        (Signin.accept state conn userId userDataText userData)
  | refused {frame : ServerMessage} (plain : frame.channel = none)
      (silent : Silent crates conn text) :
      Response crates moment conn text state
        ((ClientEvent.counted moment state conn).send conn.socketId frame)
  | forwarded {msg : ClientMessage} {channel : String}
      (silent : Silent crates conn text) (member : channel ∈ conn.subscribedChannels) :
      Response crates moment conn text state
        (ClientEvent.forward moment (ClientEvent.counted moment state conn) conn
          channel msg)

section

variable {crates : Crates} {moment : Moment} {conn : WsConnection} {text : String}
  {state : AppState} {msg : ClientMessage} {channel : String} {data : Value}

theorem Sends.event {event : String} {holds : ClientMessage → Prop}
    (sent : Sends crates text event holds)
    (read : crates.readMessage text = some msg) : msg.event = event ∧ holds msg := by
  obtain ⟨other, again, rest⟩ := sent
  rw [read] at again
  cases again
  exact rest

theorem silent_of_event (read : crates.readMessage text = some msg)
    (notSignin : msg.event ≠ "pusher:signin")
    (notUnsubscribe : msg.event ≠ "pusher:unsubscribe") :
    Silent crates conn text where
  unsigned _ signsIn := notSignin (signsIn.event read).1
  remains _ leaves := absurd (leaves.event read).1 notUnsubscribe

theorem silent_of_unreadable (unreadable : crates.readMessage text = none) :
    Silent crates conn text := by
  constructor
  · rintro userId ⟨msg, read, _⟩
    rw [unreadable] at read
    cases read
  · rintro channel ⟨msg, read, _⟩
    rw [unreadable] at read
    cases read

theorem Names.unique {other : String} (names : Names crates msg channel)
    (again : Names crates msg other) : other = channel := by
  obtain ⟨data, extracted, given⟩ := names
  obtain ⟨data', extracted', given'⟩ := again
  rw [extracted] at extracted'
  cases extracted'
  rw [given] at given'
  exact (Option.some.inj given').symm

section

variable (read : crates.readMessage text = some msg)
  (event : msg.event = "pusher:subscribe")

include read event

theorem silent_of_subscribe : Silent crates conn text :=
  silent_of_event read (by rw [event]; decide) (by rw [event]; decide)

theorem not_leaves_of_subscribe : ¬ Leaves crates text channel := by
  intro leaves
  have same := (leaves.event read).1
  rw [event] at same
  exact absurd same (by decide)

theorem response_refuse_subscribe (message : String) :
    Response crates moment conn text state (Subscribe.refuse state conn message) :=
  .replied rfl (silent_of_subscribe read event)

theorem response_public (authenticated : Bool)
    (fresh : channel ∉ conn.subscribedChannels)
    (plain : (ChannelKind.fromName channel).requiresAuth = false) :
    Response crates moment conn text state
      (Subscribe.joinChannel moment state conn channel authenticated) := by
  refine .joined (silent_of_subscribe read event) (not_leaves_of_subscribe read event)
    fresh (Bool.or_eq_false_iff.mp plain).2 fun needs => ?_
  rw [plain] at needs
  cases needs

theorem response_private (extracted : extractData crates msg = some data)
    (named : stringField data "channel" = some channel)
    (fresh : channel ∉ conn.subscribedChannels)
    (plain : (ChannelKind.fromName channel).isPresence = false) :
    Response crates moment conn text state
      (Subscribe.subscribePrivate crates moment state conn channel data) := by
  unfold Subscribe.subscribePrivate
  split
  · exact response_refuse_subscribe read event _
  · rename_i auth authGiven
    split
    · exact response_refuse_subscribe read event _
    · rename_i verified
      refine .joined (silent_of_subscribe read event)
        (not_leaves_of_subscribe read event) fresh plain fun _ => ?_
      have token := Auth.verifyChannelAuth_iff.mp (by simpa using verified)
      rw [token] at authGiven
      exact ⟨msg, read, event, data, extracted, named, plain, authGiven⟩

theorem response_presence (extracted : extractData crates msg = some data)
    (named : stringField data "channel" = some channel)
    (fresh : channel ∉ conn.subscribedChannels)
    (presence : (ChannelKind.fromName channel).isPresence = true) :
    Response crates moment conn text state
      (Subscribe.subscribePresence crates moment state conn channel data) := by
  unfold Subscribe.subscribePresence
  split
  · exact response_refuse_subscribe read event _
  · rename_i auth authGiven
    split
    · exact response_refuse_subscribe read event _
    · rename_i channelDataText channelDataGiven
      split
      · exact response_refuse_subscribe read event _
      · rename_i verified
        split
        · exact response_refuse_subscribe read event _
        · rename_i channelData readData
          split
          · exact response_refuse_subscribe read event _
          · rename_i userId given
            split
            · exact response_refuse_subscribe read event _
            · refine .joinedPresence (silent_of_subscribe read event)
                (not_leaves_of_subscribe read event) fresh presence ?_
              have token := Auth.verifyChannelAuth_iff.mp (by simpa using verified)
              rw [token] at authGiven
              exact ⟨msg, read, event, data, extracted, named, presence, channelDataText,
                channelData, channelDataGiven, authGiven, readData, given⟩

theorem response_subscribe :
    Response crates moment conn text state
      (Subscribe.handle crates moment state conn msg) := by
  unfold Subscribe.handle
  split
  · exact response_refuse_subscribe read event _
  · rename_i data extracted
    split
    · exact response_refuse_subscribe read event _
    · rename_i channel named
      split
      · exact response_refuse_subscribe read event _
      · split
        · exact .ignored (silent_of_subscribe read event)
        · rename_i notSubscribed
          have fresh : channel ∉ conn.subscribedChannels := by
            simpa [WsConnection.isSubscribed] using notSubscribed
          split <;> rename_i kind
          · exact response_public read event false fresh (by rw [kind]; rfl)
          · exact response_public read event false fresh (by rw [kind]; rfl)
          · exact response_private read event extracted named fresh (by rw [kind]; rfl)
          · exact response_private read event extracted named fresh (by rw [kind]; rfl)
          · exact response_private read event extracted named fresh (by rw [kind]; rfl)
          · exact response_private read event extracted named fresh (by rw [kind]; rfl)
          · exact response_presence read event extracted named fresh
              (by rw [kind]; rfl)
          · exact response_presence read event extracted named fresh
              (by rw [kind]; rfl)

end

theorem response_unsubscribe (read : crates.readMessage text = some msg)
    (event : msg.event = "pusher:unsubscribe") :
    Response crates moment conn text state
      (Unsubscribe.handle crates moment state conn msg) := by
  have unsigned : ∀ userId,
      ¬ SignsInAs crates conn.app conn.socketId text userId := by
    intro userId signsIn
    have same := (signsIn.event read).1
    rw [event] at same
    exact absurd same (by decide)
  unfold Unsubscribe.handle
  split
  · rename_i extracted
    refine .ignored ⟨unsigned, fun channel leaves => ?_⟩
    obtain ⟨data, again, _⟩ := (leaves.event read).2
    rw [extracted] at again
    cases again
  · rename_i data extracted
    split
    · rename_i unnamed
      refine .ignored ⟨unsigned, fun channel leaves => ?_⟩
      obtain ⟨other, again, named⟩ := (leaves.event read).2
      rw [extracted] at again
      cases again
      rw [unnamed] at named
      cases named
    · rename_i channel named
      have names : Names crates msg channel := ⟨data, extracted, named⟩
      split
      · rename_i notSubscribed
        refine .ignored ⟨unsigned, fun other leaves => ?_⟩
        rw [names.unique (leaves.event read).2]
        simpa [WsConnection.isSubscribed] using notSubscribed
      · rename_i subscribed
        refine .unsubscribed unsigned (fun other => ⟨fun leaves => ?_, ?_⟩) ?_
        · exact names.unique (leaves.event read).2
        · rintro rfl
          exact ⟨msg, read, event, names⟩
        · simpa [WsConnection.isSubscribed] using subscribed

theorem response_signin (read : crates.readMessage text = some msg)
    (event : msg.event = "pusher:signin") :
    Response crates moment conn text state (Signin.handle crates state conn msg) := by
  have left : ∀ channel, ¬ Leaves crates text channel := by
    intro channel leaves
    have same := (leaves.event read).1
    rw [event] at same
    exact absurd same (by decide)
  have refused : ∀ message, (∀ userId,
      ¬ SignsIn crates conn.app conn.socketId msg userId) →
      Response crates moment conn text state (Signin.refuse state conn message) :=
    fun message unsigned => .replied rfl
      ⟨fun userId signsIn => unsigned userId (signsIn.event read).2,
        fun channel leaves => absurd leaves (left channel)⟩
  unfold Signin.handle
  split
  · exact refused _ (by simp_all [SignsIn])
  · rename_i enabled
    split
    · exact refused _ (by simp_all [SignsIn])
    · rename_i data extracted
      split
      · exact refused _ (by simp_all [SignsIn])
      · rename_i auth authGiven
        split
        · exact refused _ (by simp_all [SignsIn])
        · rename_i userDataText userDataGiven
          split
          · rename_i unverified
            have wrong : auth ≠ Auth.signinToken crates.sign conn.app.key conn.app.secret
                conn.socketId userDataText := by
              intro same
              have verified := Auth.verifySigninAuth_iff.mpr same
              simp [verified] at unverified
            exact refused _ (by simp_all [SignsIn])
          · rename_i verified
            have token := Auth.verifySigninAuth_iff.mp (by simpa using verified)
            split
            · exact refused _ (by simp_all [SignsIn])
            · rename_i userData readData
              split
              · exact refused _ (by simp_all [SignsIn])
              · rename_i userId given
                refine .signedIn ⟨msg, read, event, ?_⟩ left
                rw [token] at authGiven
                exact ⟨by simpa using enabled, data, userDataText, userData, extracted,
                  userDataGiven, authGiven, readData, given⟩

theorem response_clientEvent (silent : Silent crates conn text) :
    Response crates moment conn text state
      (ClientEvent.handle moment state conn msg) := by
  unfold ClientEvent.handle
  split
  · exact .replied rfl silent
  · split
    · exact .replied rfl silent
    · rename_i channel given
      split
      · exact .replied rfl silent
      · rename_i subscribed
        split
        · exact .replied rfl silent
        · dsimp only
          split
          · exact .refused rfl silent
          · unfold ClientEvent.checkAndForward
            split
            · exact .refused rfl silent
            · split
              · exact .refused rfl silent
              · split
                · exact .refused rfl silent
                · refine .forwarded silent ?_
                  simpa [WsConnection.isSubscribed] using subscribed

theorem response_onMessage (crates : Crates) (moment : Moment) (state : AppState)
    (conn : WsConnection) (text : String) :
    Response crates moment conn text state
      (onMessage crates moment state conn text) := by
  unfold onMessage
  split
  · rename_i unreadable
    exact .replied rfl (silent_of_unreadable unreadable)
  · rename_i msg read
    split
    · rename_i ping
      exact .replied rfl
        (silent_of_event read (by rw [ping]; decide) (by rw [ping]; decide))
    · split
      · rename_i event
        exact response_subscribe read event
      · split
        · rename_i event
          exact response_unsubscribe read event
        · rename_i notUnsubscribe
          split
          · rename_i event
            exact response_signin read event
          · rename_i notSignin
            have silent : Silent crates conn text :=
              silent_of_event read notSignin notUnsubscribe
            split
            · exact response_clientEvent silent
            · exact .replied rfl silent

end

end RushSocket.Server
