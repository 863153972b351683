import RushSocket.Http.Reads
import RushSocket.Server.Replay

namespace RushSocket

open Adapter Data Http Protocol Server Transition Websocket

namespace Server

/-! What the routes that read answer.  The connections of an app, each with its
own record of where it is subscribed and as whom, make a directory of the app;
the routes answer what the directory says. -/

/-- Who is where in an app.  It is open once a connection has tried to enter. -/
structure Directory where
  opened : Bool
  sockets : Finset String
  subscribers : String → Finset String
  occupied : Finset String
  users : String → Finset String

inductive ReadRoute where
  | channels
  | channel (channelName : String)
  | users (channelName : String)
  | connections
  deriving DecidableEq

namespace ReadRoute

def target (appId : String) : ReadRoute → Target
  | .channels => .channels appId
  | .channel channelName => .channel appId channelName
  | .users channelName => .channelUsers appId channelName
  | .connections => .connections appId

def handle (crates : Crates) (moment : Moment) (state : AppState)
    (limiter : ReadLimiter) (appId : String) (params : Params) :
    ReadRoute → ReadLimiter × HttpResponse
  | .channels => listChannels crates moment state limiter appId params
  | .channel channelName =>
      getChannel crates moment state limiter appId channelName params
  | .users channelName =>
      getUsers crates moment state limiter appId channelName params
  | .connections => getConnections crates moment state limiter appId params

end ReadRoute

namespace Directory

def counts (directory : Directory) (info : Option String) (channel : String) :
    List (String × Json) :=
  (if wants info "subscription_count" then
    [("subscription_count",
      Json.ofU64 (.ofNat (directory.subscribers channel).card))]
  else []) ++
  (if wants info "user_count" && (ChannelKind.fromName channel).isPresence then
    [("user_count", Json.ofU64 (.ofNat (directory.users channel).card))]
  else [])

def listing (directory : Directory) (order : HashOrder) (params : Params) : Json :=
  .object [("channels", .object
    (((order.list directory.occupied).filter (keepsChannel params)).map
      fun channel => (channel,
        .object (directory.counts (params.get? "info") channel))))]

def entry (directory : Directory) (channelName : String) : Json :=
  .object ([("occupied", .bool (channelName ∈ directory.occupied)),
      ("subscription_count",
        Json.ofU64 (.ofNat (directory.subscribers channelName).card))] ++
    if directory.opened && (ChannelKind.fromName channelName).isPresence then
      [("user_count",
        Json.ofU64 (.ofNat (directory.users channelName).card))]
    else [])

def roll (directory : Directory) (order : HashOrder) (channelName : String) : Json :=
  .object [("users", .array ((order.list (directory.users channelName)).map
    fun userId => .object [("id", .string userId)]))]

def answer (directory : Directory) (order : HashOrder) (params : Params) :
    ReadRoute → Except HttpError Json
  | .channels =>
      if wants (params.get? "info") "user_count" && !filtersPresence params then
        .error userCountRefused
      else .ok (directory.listing order params)
  | .channel channelName => .ok (directory.entry channelName)
  | .users channelName =>
      if (ChannelKind.fromName channelName).isPresence then
        .ok (directory.roll order channelName)
      else .error ⟨400, "Not a presence channel"⟩
  | .connections =>
      .ok (.object [("connections",
        Json.ofU64 (.ofNat directory.sockets.card))])

end Directory

end Server

namespace AppState

/-- What is read from each connection of an app. -/
def gather (state : AppState) (appId : String)
    (read : WsConnection → Finset String) : Finset String :=
  state.connections.keys.biUnion fun socketId =>
    match state.connections.lookup socketId with
    | some conn => if conn.app.id = appId then read conn else ∅
    | none => ∅

theorem mem_gather {state : AppState} {appId element : String}
    {read : WsConnection → Finset String} :
    element ∈ state.gather appId read ↔
      ∃ socketId conn, state.connections.lookup socketId = some conn ∧
        conn.app.id = appId ∧ element ∈ read conn := by
  rw [gather, Finset.mem_biUnion]
  refine exists_congr fun socketId => ?_
  rw [Table.mem_keys_iff]
  cases found : state.connections.lookup socketId with
  | none => simp
  | some conn =>
      by_cases named : conn.app.id = appId
      · simp [named]
      · simp [named]

def directory (state : AppState) (appId : String) : Directory where
  opened := appId ∈ state.adapter.namespaces
  sockets := state.gather appId fun conn => {conn.socketId}
  subscribers channel := state.gather appId fun conn =>
    if channel ∈ conn.subscribedChannels then {conn.socketId} else ∅
  occupied := state.gather appId fun conn => conn.subscribedChannels
  users channel := state.gather appId fun conn =>
    ((conn.presence.lookup channel).map fun member => {member.1}).getD ∅

end AppState

namespace Server

section

variable {crates : Crates} {apps : List App} {cacheTtl : Nat} {state : AppState}
  {actions : List Action} {appId socketId channel userId element : String}

/-! The directory and the relations that the records of the connections make. -/

theorem seen_iff {holds : View → Prop} :
    state.core.Seen socketId holds ↔
      ∃ conn, state.connections.lookup socketId = some conn ∧ holds conn.view := by
  constructor
  · rintro ⟨view, viewed, held⟩
    obtain ⟨conn, found, rfl⟩ := Option.map_eq_some_iff.mp viewed
    exact ⟨conn, found, held⟩
  · rintro ⟨conn, found, held⟩
    exact ⟨conn.view, congrArg (Option.map WsConnection.view) found, held⟩

theorem lives_iff :
    state.core.Lives appId socketId ↔
      ∃ conn, state.connections.lookup socketId = some conn ∧ conn.app.id = appId :=
  seen_iff

theorem joined_iff :
    state.core.Joined appId socketId channel ↔
      ∃ conn, state.connections.lookup socketId = some conn ∧ conn.app.id = appId ∧
        channel ∈ conn.subscribedChannels :=
  seen_iff

theorem appears_iff :
    state.core.Appears appId socketId channel userId ↔
      ∃ conn, state.connections.lookup socketId = some conn ∧ conn.app.id = appId ∧
        ∃ userInfo, conn.presence.lookup channel = some (userId, userInfo) :=
  seen_iff

/-- What a connection tells under its own id is told by the one that is stored
under this id. -/
theorem mem_gather_self (agree : Agree state.core) {holds : WsConnection → Bool} :
    element ∈ state.gather appId
        (fun conn => if holds conn then {conn.socketId} else ∅) ↔
      ∃ conn, state.connections.lookup element = some conn ∧ conn.app.id = appId ∧
        holds conn = true := by
  rw [AppState.mem_gather]
  constructor
  · rintro ⟨socketId, conn, found, named, told⟩
    split at told
    · rename_i held
      obtain ⟨rfl, _⟩ := agree.found found
      rw [Finset.mem_singleton.mp told]
      exact ⟨conn, found, named, held⟩
    · exact absurd told (Finset.notMem_empty _)
  · rintro ⟨conn, found, named, held⟩
    refine ⟨element, conn, found, named, ?_⟩
    rw [if_pos held, (agree.found found).1]
    exact Finset.mem_singleton_self element

theorem mem_sockets (agree : Agree state.core) :
    socketId ∈ (state.directory appId).sockets ↔ state.core.Lives appId socketId := by
  have single := @mem_gather_self state appId socketId agree fun _ => true
  simp only [if_true, and_true] at single
  exact single.trans lives_iff.symm

theorem mem_subscribers (agree : Agree state.core) :
    socketId ∈ (state.directory appId).subscribers channel ↔
      state.core.Joined appId socketId channel := by
  have single := @mem_gather_self state appId socketId agree
    fun conn => channel ∈ conn.subscribedChannels
  simp only [decide_eq_true_eq] at single
  exact single.trans joined_iff.symm

theorem mem_occupied :
    channel ∈ (state.directory appId).occupied ↔
      ∃ socketId, state.core.Joined appId socketId channel := by
  refine AppState.mem_gather.trans (exists_congr fun socketId => ?_)
  exact joined_iff.symm

theorem mem_users :
    userId ∈ (state.directory appId).users channel ↔
      ∃ socketId, state.core.Appears appId socketId channel userId := by
  refine AppState.mem_gather.trans (exists_congr fun socketId => ?_)
  refine Iff.trans ?_ appears_iff.symm
  refine exists_congr fun conn => and_congr_right fun _ => and_congr_right fun _ => ?_
  cases stored : conn.presence.lookup channel with
  | none => simp
  | some member =>
      obtain ⟨user, info⟩ := member
      simp [eq_comm]

end

/-! No user is left in the presence data without a socket. -/

def Manned (ns : Namespace) : Prop :=
  ∀ channel userId member,
    (ns.presenceOf channel).lookup userId = some member → member.2 ≠ ∅

section

variable {ns : Namespace} {socketId channel userId : String} {userInfo : Value}

theorem Manned.tryAddPresenceMember (manned : Manned ns) (maxMembers : Nat) :
    Manned (ns.tryAddPresenceMember channel socketId userId userInfo
      maxMembers).1 := by
  intro place user member found
  simp only [Namespace.tryAddPresenceMember] at found
  split at found
  · rw [Namespace.presenceOf_put] at found
    split at found
    · exact manned channel user member found
    · exact manned place user member found
  · rw [Namespace.presenceOf_put] at found
    split at found
    · rw [Namespace.member_joinPresence] at found
      split at found
      · cases found
        exact Finset.insert_ne_empty _ _
      · exact manned channel user member found
    · exact manned place user member found

theorem Manned.removePresenceMember (manned : Manned ns) :
    Manned (ns.removePresenceMember channel socketId userId).1 := by
  intro place user member found
  rw [Namespace.presenceOf_removePresenceMember] at found
  split at found
  · rw [Namespace.member_dropPresence] at found
    split at found
    · exact of_decide_eq_true (Option.filter_eq_some_iff.mp found).2
    · exact manned channel user member found
  · exact manned place user member found

theorem Manned.mem_keys (manned : Manned ns) :
    userId ∈ (ns.presenceOf channel).keys ↔
      ∃ socketId, socketId ∈ ns.presenceSockets channel userId := by
  rw [Table.mem_keys_iff, Namespace.presenceSockets]
  cases found : (ns.presenceOf channel).lookup userId with
  | none => simp
  | some member =>
      refine iff_of_true ⟨member, rfl⟩ ?_
      exact Finset.nonempty_iff_ne_empty.mpr (manned channel userId member found)

end

def AllManned (adapter : LocalAdapter) : Prop := ∀ appId, Manned (adapter.ns appId)

section

variable {adapter after : LocalAdapter} {core next : Core} {conn : WsConnection}
  {appId socketId channel userId : String} {userInfo : Value}

theorem AllManned.keeps (manned : AllManned adapter)
    (keeps : LocalAdapter.Keeps Namespace.presence adapter after) :
    AllManned after := by
  intro appId place user member found
  refine manned appId place user member ?_
  rw [Namespace.presenceOf, ← keeps appId]
  exact found

theorem AllManned.tryAddPresenceMember (manned : AllManned adapter)
    (maxMembers : Nat) :
    AllManned (adapter.tryAddPresenceMember appId channel socketId userId userInfo
      maxMembers).1 := by
  intro app
  rw [LocalAdapter.ns_tryAddPresenceMember]
  split
  · exact (manned appId).tryAddPresenceMember maxMembers
  · exact manned app

theorem AllManned.removePresenceMember (manned : AllManned adapter) :
    AllManned (adapter.removePresenceMember appId channel socketId userId).1 := by
  intro app
  rw [(LocalAdapter.ns_removePresenceMember adapter appId channel socketId userId
    app).1]
  split
  · exact (manned appId).removePresenceMember
  · exact manned app

theorem AllManned.withdraw (manned : AllManned core.adapter) :
    AllManned (core.withdraw conn channel).adapter := by
  unfold Core.withdraw
  split
  · split
    · exact manned.removePresenceMember
    · exact manned
  · exact manned

theorem AllManned.removeFromChannel (manned : AllManned adapter) :
    AllManned (adapter.removeFromChannel appId socketId channel).1 :=
  manned.keeps (LocalAdapter.keeps_removeFromChannel fun _ _ _ => rfl)

theorem AllManned.joinPresence {app : App} (manned : AllManned core.adapter) :
    AllManned (core.joinPresence app socketId channel userId userInfo).adapter := by
  have tried : AllManned (core.tryPresence app.id socketId channel userId userInfo
      app.maxPresenceMembersPerChannel).adapter := manned.tryAddPresenceMember _
  unfold Core.joinPresence
  dsimp only
  split
  · exact tried.keeps (LocalAdapter.keeps_addToChannel fun _ _ _ => rfl)
  · exact tried

theorem AllManned.unsubscribe (manned : AllManned core.adapter) :
    AllManned (core.unsubscribe conn channel).adapter := by
  have forgotten : AllManned (core.forget conn channel).adapter := by
    unfold Core.forget
    split <;> exact manned
  exact forgotten.withdraw.removeFromChannel

theorem AllManned.closeChannels (manned : AllManned core.adapter)
    (channels : List String) :
    AllManned (core.closeChannels conn channels).adapter := by
  induction channels generalizing core with
  | nil => exact manned
  | cons channel rest induction =>
      exact @induction (core.closeChannel conn channel) manned.withdraw.removeFromChannel

theorem AllManned.close (manned : AllManned core.adapter) (order : HashOrder) :
    AllManned (core.close order conn).adapter := by
  have left := @AllManned.closeChannels core conn manned
    (order.list conn.subscribedChannels)
  have forgotten : AllManned ((core.closeChannels conn
      (order.list conn.subscribedChannels)).forgetUser conn).adapter :=
    left.keeps (keeps_forgetUser fun _ _ => rfl)
  refine forgotten.keeps fun app => ?_
  change Namespace.presence ((LocalAdapter.removeSocket order _ _ _).1.ns app) = _
  rw [LocalAdapter.ns_removeSocket]
  split
  · rename_i same
    obtain ⟨channels, count, shape, _⟩ := Namespace.removeSocket_fst order
      (((core.closeChannels conn (order.list conn.subscribedChannels)).forgetUser
        conn).adapter.ns conn.app.id) conn.socketId
    rw [shape, same]
  · rfl

theorem AllManned.outcome {crates : Crates} {text : String}
    (manned : AllManned core.adapter) (outcome : Outcome crates conn text core next) :
    AllManned next.adapter := by
  cases outcome with
  | kept => exact manned
  | limited => exact manned
  | joined => exact manned.keeps (LocalAdapter.keeps_addToChannel fun _ _ _ => rfl)
  | joinedPresence => exact manned.joinPresence
  | unsubscribed => exact manned.unsubscribe
  | signedIn => exact manned.keeps (LocalAdapter.keeps_addUser fun _ _ => rfl)

end

section

variable {crates : Crates} {apps : List App} {cacheTtl : Nat}
  {state next : AppState} {action : Action}

theorem AllManned.step (manned : AllManned state.adapter)
    (stepped : step crates state action = some next) : AllManned next.adapter := by
  have change := change_step stepped
  change AllManned next.core.adapter
  generalize next.core = core at change
  cases change with
  | kept => exact manned
  | refused absent same =>
      exact manned.keeps fun appId => congrArg Namespace.presence (same appId)
  | @entered key socketId app absent found added =>
      refine manned.keeps fun appId => ?_
      change Namespace.presence ((state.adapter.tryAddSocket app.id _ _).1.ns appId) = _
      rw [LocalAdapter.ns_tryAddSocket, added]
      split
      · rename_i same
        rw [same]
        rfl
      · rfl
  | handled stored outcome => exact @AllManned.outcome state.core core _ _ _ manned outcome
  | @closed socketId moment conn stored =>
      change AllManned (state.core.close moment.order conn).adapter
      exact @AllManned.close state.core conn manned moment.order

theorem manned_of_reached {actions : List Action}
    (reached : (system crates apps cacheTtl).run actions = some state) :
    AllManned state.adapter := by
  refine @System.invariant_of_every_step _ _ (system crates apps cacheTtl)
    (fun state => AllManned state.adapter) ?_ (fun manned stepped =>
      manned.step stepped) _ _ reached
  intro appId place user member found
  cases found

/-! The answers. -/

section

variable {appId : String}

theorem getConnectionCount_eq_card (agree : Agree state.core) :
    state.adapter.getConnectionCount appId = (state.directory appId).sockets.card := by
  have same : (state.adapter.ns appId).sockets.keys =
      (state.directory appId).sockets := by
    ext socketId
    rw [mem_sockets agree, ← agree.registered.registered]
    exact Finmap.mem_keys
  rw [LocalAdapter.getConnectionCount_eq, ← same]
  exact agree.registered.counted

theorem members_eq_subscribers (agree : Agree state.core) (channel : String) :
    (state.adapter.ns appId).channels.members channel =
      (state.directory appId).subscribers channel := by
  ext socketId
  rw [mem_subscribers agree]
  exact agree.enrolled.subscribed

theorem getChannelSocketCount_eq_card (agree : Agree state.core) (channel : String) :
    state.adapter.getChannelSocketCount appId channel =
      ((state.directory appId).subscribers channel).card := by
  rw [LocalAdapter.getChannelSocketCount_eq, members_eq_subscribers agree]

/-- A channel is stored when it has a subscriber. -/
theorem keys_eq_occupied (agree : Agree state.core) (described : Described state) :
    (state.adapter.ns appId).channels.keys = (state.directory appId).occupied := by
  ext channel
  rw [(described.tidy appId).mem_keys_iff, mem_occupied,
    ← Finset.nonempty_iff_ne_empty]
  exact exists_congr fun socketId => agree.enrolled.subscribed

theorem keys_eq_users (agree : Agree state.core) (manned : AllManned state.adapter)
    (channel : String) :
    ((state.adapter.ns appId).presenceOf channel).keys =
      (state.directory appId).users channel := by
  ext userId
  rw [(manned appId).mem_keys, mem_users]
  exact exists_congr fun socketId => agree.attending.present

theorem getPresenceUserCount_eq_card (agree : Agree state.core)
    (manned : AllManned state.adapter) (channel : String) :
    state.adapter.getPresenceUserCount appId channel =
      ((state.directory appId).users channel).card := by
  have stored : state.adapter.getPresenceUserCount appId channel =
      ((state.adapter.ns appId).presenceOf channel).size := by
    unfold LocalAdapter.getPresenceUserCount LocalAdapter.ns
    cases state.adapter.namespaces.lookup appId <;> rfl
  rw [stored, Table.size, keys_eq_users agree manned]

theorem channelInfo_eq_counts (agree : Agree state.core)
    (manned : AllManned state.adapter) (info : Option String) (channel : String) :
    channelInfo state appId info channel =
      (state.directory appId).counts info channel := by
  rw [channelInfo, Directory.counts, getChannelSocketCount_eq_card agree,
    getPresenceUserCount_eq_card agree manned]

theorem getChannelInfo_eq (agree : Agree state.core)
    (manned : AllManned state.adapter) (channel : String) :
    state.adapter.getChannelInfo appId channel =
      { occupied := channel ∈ (state.directory appId).occupied
        subscriptionCount := ((state.directory appId).subscribers channel).card
        userCount :=
          if (state.directory appId).opened &&
              (ChannelKind.fromName channel).isPresence then
            some ((state.directory appId).users channel).card
          else none } := by
  have occupied : channel ∈ (state.directory appId).occupied ↔
      0 < ((state.directory appId).subscribers channel).card := by
    rw [mem_occupied, Finset.card_pos]
    exact exists_congr fun socketId => (mem_subscribers agree).symm
  have count := @getChannelSocketCount_eq_card state appId agree channel
  have users := @getPresenceUserCount_eq_card state appId agree manned channel
  have opened : (state.directory appId).opened =
      decide (appId ∈ state.adapter.namespaces) := rfl
  simp only [occupied, ← count, ← users, opened, LocalAdapter.getChannelInfo,
    LocalAdapter.getChannelSocketCount, LocalAdapter.getPresenceUserCount]
  cases found : state.adapter.namespaces.lookup appId with
  | none => simp [Finmap.mem_iff, found]
  | some ns => simp [Finmap.mem_iff, found]

theorem opened_of_socket (agree : Agree state.core)
    (inhabited : (state.directory appId).sockets.Nonempty) :
    (state.directory appId).opened = true := by
  obtain ⟨socketId, member⟩ := inhabited
  rw [mem_sockets agree, ← agree.registered.registered] at member
  change decide (appId ∈ state.adapter.namespaces) = true
  rw [decide_eq_true_iff, Finmap.mem_iff]
  change socketId ∈ (LocalAdapter.ns state.adapter appId).sockets at member
  rw [LocalAdapter.ns] at member
  cases found : state.adapter.namespaces.lookup appId with
  | none =>
      rw [found] at member
      exact absurd member Finmap.notMem_empty
  | some ns => exact ⟨ns, rfl⟩

end

/-- A request that reads is answered with what the connections of the app
themselves have, when it is let through. -/
theorem reads_report_connections (crates : Crates) (apps : List App) (cacheTtl : Nat)
    {actions : List Action} {state : AppState}
    (reached : (system crates apps cacheTtl).run actions = some state)
    (moment : Moment) (limiter : ReadLimiter) (appId : String) (params : Params)
    (route : ReadRoute) :
    route.handle crates moment state limiter appId params =
        (match authoriseRead crates moment state limiter (route.target appId)
          params with
        | (counted, .error refused) => (counted, .failed refused)
        | (counted, .ok _) =>
            (counted, respond
              ((state.directory appId).answer moment.order params route))) ∧
      ((state.directory appId).sockets.Nonempty →
        (state.directory appId).opened = true) := by
  have agree := agree_of_reached reached
  have described := described_of_reached reached
  have manned := manned_of_reached reached
  refine ⟨?_, opened_of_socket agree⟩
  cases route with
  | channels =>
      simp only [ReadRoute.handle, ReadRoute.target, listChannels]
      generalize authoriseRead crates moment state limiter
        (.channels appId) params = authorised
      obtain ⟨counted, outcome⟩ := authorised
      cases outcome with
      | error refused => rfl
      | ok app =>
          simp only [LocalAdapter.getChannels_eq, keys_eq_occupied agree described,
            channelInfo_eq_counts agree manned, Directory.answer, Directory.listing]
          split <;> rfl
  | channel channelName =>
      simp only [ReadRoute.handle, ReadRoute.target, getChannel]
      generalize authoriseRead crates moment state limiter
        (.channel appId channelName) params = authorised
      obtain ⟨counted, outcome⟩ := authorised
      cases outcome with
      | error refused => rfl
      | ok app =>
          simp only [getChannelInfo_eq agree manned, Directory.answer, Directory.entry]
          split <;> rfl
  | users channelName =>
      simp only [ReadRoute.handle, ReadRoute.target, getUsers]
      generalize authoriseRead crates moment state limiter
        (.channelUsers appId channelName) params = authorised
      obtain ⟨counted, outcome⟩ := authorised
      cases outcome with
      | error refused => rfl
      | ok app =>
          have listed : (state.adapter.getPresenceMembers appId channelName).keys =
              (state.directory appId).users channelName := by
            rw [LocalAdapter.getPresenceMembers_eq, Namespace.getPresenceMembers,
              Table.keys_mapValues, keys_eq_users agree manned]
          simp only [listed, Directory.answer, Directory.roll]
          cases (ChannelKind.fromName channelName).isPresence <;> rfl
  | connections =>
      simp only [ReadRoute.handle, ReadRoute.target, getConnections]
      generalize authoriseRead crates moment state limiter
        (.connections appId) params = authorised
      obtain ⟨counted, outcome⟩ := authorised
      cases outcome with
      | error refused => rfl
      | ok app =>
          simp only [getConnectionCount_eq_card agree, Directory.answer]
          rfl

end

namespace Sample

def listingSignature : String × String :=
  ("GET\n/apps/app/channels\n" ++
    "auth_key=app-key&auth_timestamp=1700000000&auth_version=1.0&" ++
    "filter_by_prefix=presence-&info=subscription_count,user_count",
  "f33d60ec4603ee9218cff0c8150ecdd684b4aa412a0c2d7adca432de2f89acc8")

def readCrates : Crates :=
  { crates with
    sign := fun secret text =>
      if secret = "app-secret" then
        (((listingSignature :: signatures).find? fun entry => entry.1 = text).map
          Prod.snd).getD ""
      else "" }

def listingParams : Params where
  entries := [("auth_key", "app-key"), ("auth_signature", listingSignature.2),
    ("auth_timestamp", "1700000000"), ("auth_version", "1.0"),
    ("filter_by_prefix", "presence-"), ("info", "subscription_count,user_count")]
  sorted := by decide

def readLimiter : ReadLimiter where
  maxReadReqPerSec _ := -1
  readLimiters := ∅

end Sample

theorem reads_report_joined :
    ∃ state, (system Sample.readCrates [App.sample] 60).run Sample.joining =
        some state ∧
      (state.directory "app").users "presence-room" = {"ann"} ∧
      (ReadRoute.channels.handle Sample.readCrates Sample.moment state
          Sample.readLimiter "app" Sample.listingParams).2 =
        .ok ((state.directory "app").listing .ascending Sample.listingParams) := by
  have ends : (((system Sample.readCrates [App.sample] 60).run Sample.joining).filter
      fun state => (state.directory "app").users "presence-room" = {"ann"} ∧
        (authoriseRead Sample.readCrates Sample.moment state Sample.readLimiter
          (.channels "app") Sample.listingParams).2 = .ok App.sample).isSome = true := by
    decide +kernel
  obtain ⟨state, found⟩ := Option.isSome_iff_exists.mp ends
  obtain ⟨reached, holds⟩ := Option.filter_eq_some_iff.mp found
  obtain ⟨users, authorised⟩ := of_decide_eq_true holds
  refine ⟨state, reached, users, ?_⟩
  have report := (reads_report_connections Sample.readCrates [App.sample] 60 reached
    Sample.moment Sample.readLimiter "app" Sample.listingParams .channels).1
  rw [report, ReadRoute.target]
  generalize authoriseRead Sample.readCrates Sample.moment state Sample.readLimiter
    (.channels "app") Sample.listingParams = outcome at authorised
  obtain ⟨counted, outcome⟩ := outcome
  cases authorised
  rfl

end Server

end RushSocket
