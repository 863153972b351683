import RushSocket.Server.Identity

namespace RushSocket.Server

open Adapter Data Protocol Transition Websocket

/-! Who a connection is signed in as, by its own record, by the index of the
adapter and by the messages it has sent. -/

/-- The most recent successful signin of the socket, in a history whose latest
action comes first, was as this user. -/
def LatestSignin (crates : Crates) (app : App) (socketId userId : String) :
    List Action → Prop
  | [] => False
  | .message sender text _ :: earlier =>
      (sender = socketId ∧ SignsInAs crates app socketId text userId) ∨
        (¬ (sender = socketId ∧ ∃ other, SignsInAs crates app socketId text other) ∧
          LatestSignin crates app socketId userId earlier)
  | .accept _ other :: earlier =>
      other ≠ socketId ∧ LatestSignin crates app socketId userId earlier
  | .close other _ :: earlier =>
      other ≠ socketId ∧ LatestSignin crates app socketId userId earlier
  | .take _ :: earlier
  | .trigger _ _ _ _ :: earlier
  | .triggerBatch _ _ _ _ :: earlier
  | .terminate _ _ _ _ :: earlier => LatestSignin crates app socketId userId earlier

section

variable {crates : Crates} {app : App} {socketId userId : String}
  {history : List Action}

theorem latestSignin_other {action : Action} (other : action.actor ≠ some socketId) :
    LatestSignin crates app socketId userId (action :: history) ↔
      LatestSignin crates app socketId userId history := by
  cases action with
  | accept key actor =>
      exact and_iff_right fun same => other (congrArg some same)
  | message actor text moment =>
      have different : actor ≠ socketId := fun same => other (congrArg some same)
      simp [LatestSignin, different]
  | close actor moment => exact and_iff_right fun same => other (congrArg some same)
  | take _ => rfl
  | trigger _ _ _ _ => rfl
  | triggerBatch _ _ _ _ => rfl
  | terminate _ _ _ _ => rfl

theorem latestSignin_by_other {action : Action} {actor : String}
    (acts : action.actor = some actor) (different : socketId ≠ actor) :
    LatestSignin crates app socketId userId (action :: history) ↔
      LatestSignin crates app socketId userId history :=
  latestSignin_other fun same => different (Option.some.inj (same.symm.trans acts))

theorem latestSignin_unsigned {text : String} {moment : Moment}
    (unsigned : ∀ other, ¬ SignsInAs crates app socketId text other) :
    LatestSignin crates app socketId userId
        (.message socketId text moment :: history) ↔
      LatestSignin crates app socketId userId history := by
  simp [LatestSignin, unsigned]

theorem latestSignin_signed {text signed : String} {moment : Moment}
    (signsIn : SignsInAs crates app socketId text signed) :
    LatestSignin crates app socketId userId
        (.message socketId text moment :: history) ↔ userId = signed := by
  constructor
  · rintro (⟨_, again⟩ | ⟨unsigned, _⟩)
    · exact signsIn.unique again
    · exact absurd ⟨rfl, signed, signsIn⟩ unsigned
  · rintro rfl
    exact .inl ⟨rfl, signsIn⟩

end

/-! The record of a connection is that of its latest signin. -/

section

variable {crates : Crates} {apps : List App} {cacheTtl : Nat}
  {state next : AppState} {action : Action} {history : List Action}

def Dated (crates : Crates) (core : Core) (history : List Action) : Prop :=
  ∀ socketId app user, core.identity socketId = some (app, user) →
    ∀ userId, user = some userId ↔ LatestSignin crates app socketId userId history

theorem Dated.step (dated : Dated crates state.core history)
    (agree : Agree state.core) (stepped : step crates state action = some next) :
    Dated crates next.core (action :: history) := by
  have change := change_step stepped
  generalize next.core = core at change
  intro socketId app user known userId
  cases change with
  | kept quiet =>
      rw [latestSignin_other (by rw [quiet]; exact fun same => nomatch same)]
      exact dated _ _ _ known userId
  | @refused key other adapter absent same =>
      have different : socketId ≠ other := by
        rintro rfl
        have unknown : state.core.identity socketId = none :=
          congrArg (fun conn => (Option.map WsConnection.view conn).map _) absent
        cases unknown.symm.trans known
      rw [latestSignin_by_other rfl different]
      exact dated _ _ _ known userId
  | @entered key other entering absent found added =>
      rw [Core.identity_enter] at known
      split at known
      · rename_i same
        cases known
        exact iff_of_false (fun none_ => nomatch none_) fun latest => latest.1 same.symm
      · rename_i different
        rw [latestSignin_by_other rfl different]
        exact dated _ _ _ known userId
  | @handled sender text moment conn _ stored outcome =>
      obtain ⟨rfl, found⟩ := agree.found stored
      have before := Core.identity_conn found
      rcases signin_outcome outcome with ⟨kept, _, unsigned⟩ | ⟨signed, signsIn, rfl⟩
      · rw [kept] at known
        by_cases same : socketId = conn.socketId
        · subst same
          cases before.symm.trans known
          rw [latestSignin_unsigned unsigned]
          exact dated _ _ _ before userId
        · rw [latestSignin_by_other rfl same]
          exact dated _ _ _ known userId
      · rw [Core.identity_signIn] at known
        split at known
        · rename_i same
          subst same
          rw [before] at known
          cases known
          rw [latestSignin_signed signsIn, Option.some.injEq]
          exact eq_comm
        · rename_i different
          rw [latestSignin_by_other rfl different]
          exact dated _ _ _ known userId
  | @closed other moment conn stored =>
      obtain ⟨rfl, found⟩ := agree.found stored
      rw [Core.identity_closed] at known
      split at known
      · cases known
      · rename_i different
        rw [latestSignin_by_other rfl different]
        exact dated _ _ _ known userId

end

/-! The index of the adapter. -/

/-- A signin of a connection that has signed in before is as the same user. -/
def KeepsUser (crates : Crates) (state : AppState) : Action → Prop
  | .message socketId text _ => ∀ conn user userId,
      state.connections.lookup socketId = some conn → conn.user = some user →
      SignsInAs crates conn.app socketId text userId → userId = user.id
  | _ => True

def Exact (core : Core) : Prop :=
  ∀ appId socketId userId, core.adapter.SignedIn appId socketId userId ↔
    core.Identified appId socketId userId

section

variable {core next : Core} {conn : WsConnection} {socketId userId : String}

theorem Exact.transfer (exact_ : Exact core)
    (keeps : LocalAdapter.Keeps Namespace.users core.adapter next.adapter)
    (same : next.identity = core.identity) : Exact next := by
  intro appId socketId userId
  rw [keeps.signedIn, Core.Identified, same]
  exact exact_ appId socketId userId

theorem Core.identified_conn (found : core.view conn.socketId = some conn.view)
    (appId : String) :
    core.Identified appId conn.socketId userId ↔
      conn.app.id = appId ∧ ∃ user, conn.user = some user ∧ user.id = userId := by
  rw [Identified, identity_conn found]
  constructor
  · rintro ⟨app, known, named⟩
    obtain ⟨rfl, signed⟩ := Prod.mk.inj (Option.some.inj known)
    exact ⟨named, Option.map_eq_some_iff.mp signed⟩
  · rintro ⟨named, user, signed, rfl⟩
    exact ⟨conn.app, by rw [signed]; rfl, named⟩

theorem Exact.signIn (exact_ : Exact core)
    (found : core.view conn.socketId = some conn.view)
    (keeps : ∀ user, conn.user = some user → userId = user.id) :
    Exact (core.signIn conn.app.id conn.socketId userId) := by
  intro app socket user
  refine LocalAdapter.signedIn_addUser.trans ?_
  rw [exact_]
  by_cases same : socket = conn.socketId
  · subst same
    rw [Core.identified_conn found, Core.Identified, Core.identity_signIn, if_pos rfl,
      Core.identity_conn found]
    constructor
    · rintro (⟨named, stored, signed, rfl⟩ | ⟨named, _, rfl⟩)
      · exact ⟨conn.app, by rw [keeps stored signed]; rfl, named⟩
      · exact ⟨conn.app, rfl, named.symm⟩
    · rintro ⟨other, known, named⟩
      obtain ⟨rfl, signed⟩ := Prod.mk.inj (Option.some.inj known)
      exact .inr ⟨named.symm, rfl, (Option.some.inj signed).symm⟩
  · rw [Core.Identified, Core.Identified, Core.identity_signIn, if_neg same]
    exact or_iff_left fun new => same new.2.1

/-- The end of a connection takes its user out of the index, as long as the
index has it under no other user. -/
theorem Agree.exact_close (agree : Agree core) (exact_ : Exact core)
    (found : core.view conn.socketId = some conn.view) (order : HashOrder) :
    Exact ((core.close order conn).vanish conn.socketId) := by
  intro app socket user
  have left : (core.closeChannels conn
      (order.list conn.subscribedChannels)).adapter.SignedIn app socket user ↔
      core.Identified app socket user :=
    (keeps_closeChannels (fun _ _ _ _ => rfl) core _).signedIn.trans
      (exact_ app socket user)
  refine (LocalAdapter.Keeps.signedIn (LocalAdapter.keeps_removeSocket_idle
    (agree.idle found order) fun _ _ _ _ => rfl)).trans ?_
  have after : ((core.close order conn).vanish conn.socketId).Identified app socket
      user ↔ core.Identified app socket user ∧ socket ≠ conn.socketId := by
    rw [Core.Identified, Core.identity_closed]
    split
    · rename_i same
      simp [same]
    · rename_i different
      exact (and_iff_left different).symm
  rw [after]
  by_cases same : socket = conn.socketId
  · subst same
    refine iff_of_false ?_ fun both => both.2 rfl
    unfold Core.forgetUser
    cases signed : conn.user with
    | none =>
        rw [left, Core.identified_conn found]
        rintro ⟨_, stored, known, _⟩
        rw [signed] at known
        cases known
    | some stored =>
        refine fun remains => ?_
        obtain ⟨before, removed⟩ := LocalAdapter.signedIn_removeUser.mp remains
        rw [left, Core.identified_conn found] at before
        obtain ⟨named, other, known, rfl⟩ := before
        rw [signed] at known
        cases known
        exact removed ⟨named.symm, rfl, rfl⟩
  · rw [and_iff_left same, ← left]
    unfold Core.forgetUser
    split
    · exact LocalAdapter.signedIn_removeUser.trans
        (and_iff_left fun removed => same removed.2.1)
    · rfl

theorem Exact.enter {app : App} (exact_ : Exact core)
    (absent : core.view socketId = none)
    (added : ((core.adapter.ns app.id).tryAddSocket ⟨socketId⟩
      app.maxConnections).1 = (core.adapter.ns app.id).addSocket ⟨socketId⟩) :
    Exact (core.enter app socketId) := by
  intro appId socket user
  have keeps : LocalAdapter.Keeps Namespace.users core.adapter
      (core.enter app socketId).adapter := by
    intro appId
    refine (congrArg Namespace.users
      (LocalAdapter.ns_tryAddSocket core.adapter app.id _ _ appId)).trans ?_
    split
    · rename_i same
      rw [added, same]
      rfl
    · rfl
  rw [keeps.signedIn, exact_, Core.Identified, Core.Identified, Core.identity_enter]
  split
  · rename_i same
    subst same
    have unknown : core.identity socket = none := by rw [Core.identity, absent]; rfl
    rw [unknown]
    refine iff_of_false ?_ ?_
    · rintro ⟨_, known, _⟩
      cases known
    · rintro ⟨_, known, _⟩
      cases known
  · rfl

theorem Exact.step {crates : Crates} {state next : AppState} {action : Action}
    (exact_ : Exact state.core) (agree : Agree state.core)
    (keepsUser : KeepsUser crates state action)
    (stepped : step crates state action = some next) : Exact next.core := by
  have change := change_step stepped
  generalize next.core = core at change
  cases change with
  | kept => exact exact_
  | @refused _ _ adapter _ same =>
      have keeps : LocalAdapter.Keeps Namespace.users state.adapter adapter :=
        fun appId => congrArg _ (same appId)
      exact exact_.transfer keeps rfl
  | entered absent found added =>
      exact exact_.enter (congrArg (Option.map WsConnection.view) absent) added
  | @handled socketId text moment conn _ stored outcome =>
      obtain ⟨rfl, found⟩ := agree.found stored
      rcases signin_outcome outcome with ⟨same, keeps, _⟩ | ⟨userId, signsIn, rfl⟩
      · exact exact_.transfer keeps same
      · exact exact_.signIn found fun user signed =>
          keepsUser conn user userId stored signed signsIn
  | @closed socketId moment conn stored =>
      obtain ⟨rfl, found⟩ := agree.found stored
      exact agree.exact_close exact_ found moment.order

end

/-! Termination. -/

section

variable {state : AppState} {conn : WsConnection} {socketId : String}

theorem lookup_changeConn (state : AppState) (other socketId : String)
    (change : WsConnection → WsConnection) :
    (state.changeConn other change).connections.lookup socketId =
      if socketId = other then (state.connections.lookup socketId).map change
      else state.connections.lookup socketId := by
  rw [AppState.changeConn, Table.lookup_modify]
  split
  · rename_i same
    rw [same]
  · rfl

/-- Of a list of handles exactly the connections with these handles get marked. -/
theorem marked_of_handles (frame : ServerMessage) (handles : List ConnHandle)
    (stored : state.connections.lookup socketId = some conn) :
    ∃ marked, (handles.foldl (fun state handle =>
        state.changeConn handle.socketId fun stored => stored.terminate frame)
          state).connections.lookup socketId = some marked ∧
      (marked.forceClose = true ↔
        conn.forceClose = true ∨ ∃ handle ∈ handles, handle.socketId = socketId) := by
  induction handles generalizing state conn with
  | nil => exact ⟨conn, stored, by simp⟩
  | cons handle rest induction =>
      by_cases same : socketId = handle.socketId
      · have changed := lookup_changeConn state handle.socketId socketId
          fun stored => stored.terminate frame
        rw [if_pos same, stored] at changed
        obtain ⟨marked, found, flag⟩ := induction changed
        refine ⟨marked, found, flag.trans ?_⟩
        simp [WsConnection.terminate, same]
      · have changed := lookup_changeConn state handle.socketId socketId
          fun stored => stored.terminate frame
        rw [if_neg same, stored] at changed
        obtain ⟨marked, found, flag⟩ := induction changed
        refine ⟨marked, found, flag.trans ?_⟩
        simp [Ne.symm same]

theorem Agree.mem_getSocketsForUser {appId userId : String} (agree : Agree state.core)
    (exact_ : Exact state.core) (order : HashOrder)
    (found : state.core.view conn.socketId = some conn.view) :
    (∃ handle ∈ state.adapter.getSocketsForUser order appId userId,
      handle.socketId = conn.socketId) ↔
      state.core.Identified appId conn.socketId userId := by
  rw [LocalAdapter.getSocketsForUser_eq, ← exact_]
  simp only [Namespace.getSocketsForUser, List.mem_filterMap, order.mem_list]
  constructor
  · rintro ⟨handle, ⟨socketId, member, known⟩, same⟩
    rw [← same, agree.registered.handled known]
    exact member
  · intro signedIn
    have lives : conn.socketId ∈ (state.adapter.ns appId).sockets := by
      obtain ⟨named, _⟩ := (Core.identified_conn found appId).mp
        ((exact_ _ _ _).mp signedIn)
      subst named
      exact agree.registered.registered.mpr (Core.lives_conn found)
    obtain ⟨handle, known⟩ := Finmap.mem_iff.mp lives
    exact ⟨handle, ⟨conn.socketId, signedIn, known⟩, agree.registered.handled known⟩

end

theorem Dated.identified {crates : Crates} {state : AppState}
    {history : List Action} (dated : Dated crates state.core history)
    (appId socketId userId : String) :
    state.core.Identified appId socketId userId ↔
      ∃ conn, state.connections.lookup socketId = some conn ∧ conn.app.id = appId ∧
        LatestSignin crates conn.app socketId userId history := by
  constructor
  · rintro ⟨app, known, named⟩
    have latest := (dated _ _ _ known userId).mp rfl
    simp only [Core.identity, AppState.core, Option.map_eq_some_iff] at known
    obtain ⟨_, ⟨conn, stored, rfl⟩, same⟩ := known
    obtain ⟨rfl, _⟩ := Prod.mk.inj same
    exact ⟨conn, stored, named, latest⟩
  · rintro ⟨conn, stored, named, latest⟩
    have known : state.core.identity socketId =
        some (conn.app, conn.user.map UserInfo.id) := by
      simp [Core.identity, AppState.core, stored, WsConnection.view]
    have signed := (dated _ _ _ known userId).mpr latest
    exact ⟨conn.app, by rw [known, signed], named⟩

section

variable (crates : Crates) (apps : List App) (cacheTtl : Nat)
  {actions : List Action} {state : AppState}

theorem dated_of_reached
    (reached : (system crates apps cacheTtl).run actions = some state) :
    Agree state.core ∧ Dated crates state.core actions.reverse := by
  refine @System.invariant_history _ _ (system crates apps cacheTtl)
    (fun _ _ => True)
    (fun state history => Agree state.core ∧ Dated crates state.core history)
    ⟨agree_new, fun _ _ _ known => nomatch known⟩ ?_ actions state reached
    (System.meets_true _ _ _)
  intro state history action next holds _ stepped
  exact ⟨holds.1.step stepped, holds.2.step holds.1 stepped⟩

theorem exact_of_reached
    (reached : (system crates apps cacheTtl).run actions = some state)
    (guarded : (system crates apps cacheTtl).Guarded (KeepsUser crates) actions) :
    Exact state.core := by
  have exactNew : Exact (AppState.new apps cacheTtl).core := by
    intro appId socketId userId
    refine iff_of_false (Finset.notMem_empty socketId) ?_
    rintro ⟨app, known, _⟩
    cases known
  refine (@System.invariant _ _ (system crates apps cacheTtl) (KeepsUser crates)
    (fun state => Agree state.core ∧ Exact state.core) ⟨agree_new, exactNew⟩ ?_ actions
    state reached guarded).2
  intro state action next holds keepsUser stepped
  exact ⟨holds.1.step stepped, holds.2.step holds.1 keepsUser stepped⟩

/-- In a run in which no connection changes its user the index is exact. -/
theorem user_index_exact
    (reached : (system crates apps cacheTtl).run actions = some state)
    (guarded : (system crates apps cacheTtl).Guarded (KeepsUser crates) actions) :
    (∀ appId socketId userId,
        socketId ∈ (state.adapter.ns appId).users.members userId ↔
          ∃ conn, state.connections.lookup socketId = some conn ∧
            conn.app.id = appId ∧
            LatestSignin crates conn.app socketId userId actions.reverse) ∧
      (∀ moment appId userId socketId conn,
        state.connections.lookup socketId = some conn →
        ∃ marked, (state.terminateUserConnections moment appId
            userId).connections.lookup socketId = some marked ∧
          (marked.forceClose = true ↔ conn.forceClose = true ∨
            (conn.app.id = appId ∧
              LatestSignin crates conn.app socketId userId actions.reverse))) ∧
      ∀ socketId conn moment closed,
        state.connections.lookup socketId = some conn →
        step crates state (.close socketId moment) = some closed →
        ∀ appId userId, socketId ∉ (closed.adapter.ns appId).users.members userId := by
  obtain ⟨agree, dated⟩ := dated_of_reached crates apps cacheTtl reached
  have exact_ := exact_of_reached crates apps cacheTtl reached guarded
  refine ⟨fun appId socketId userId => ?_, ?_, ?_⟩
  · exact (exact_ appId socketId userId).trans (dated.identified appId socketId userId)
  · intro moment appId userId socketId conn stored
    obtain ⟨marked, after, flag⟩ := marked_of_handles
      (.error "Connection terminated by server" (some 4009))
      (state.adapter.getSocketsForUser moment.order appId userId) stored
    refine ⟨marked, after, flag.trans (or_congr_right ?_)⟩
    obtain ⟨rfl, found⟩ := agree.found stored
    rw [agree.mem_getSocketsForUser exact_ moment.order found, dated.identified]
    constructor
    · rintro ⟨other, again, named, latest⟩
      rw [stored] at again
      cases again
      exact ⟨named, latest⟩
    · exact fun holds => ⟨conn, stored, holds⟩
  · intro socketId conn moment closed stored stepped appId userId member
    have keepsUser : KeepsUser crates state (.close socketId moment) := trivial
    have closedExact := exact_.step agree keepsUser stepped
    obtain ⟨app, known, _⟩ := (closedExact appId socketId userId).mp member
    simp only [step, perform, stored, Option.map_some, Option.some.injEq] at stepped
    subst stepped
    have gone : (settle (onClose moment state conn)
        (.close socketId moment)).connections.lookup socketId = none :=
      Finmap.lookup_erase _ _
    simp [Core.identity, AppState.core, gone] at known

end

theorem user_index_exact_once :
    ∃ state conn, (system Sample.crates [App.sample] 60).run Sample.signingIn =
        some state ∧
      state.connections.lookup "1.1" = some conn ∧
      "1.1" ∈ (state.adapter.ns "app").users.members "ann" ∧
      LatestSignin Sample.crates conn.app "1.1" "ann" Sample.signingIn.reverse := by
  have ends : (((system Sample.crates [App.sample] 60).run Sample.signingIn).filter
      fun state => "1.1" ∈ (state.adapter.ns "app").users.members "ann").isSome =
        true := by
    decide +kernel
  obtain ⟨state, found⟩ := Option.isSome_iff_exists.mp ends
  obtain ⟨reached, member⟩ := Option.filter_eq_some_iff.mp found
  have member := of_decide_eq_true member
  have guarded : (system Sample.crates [App.sample] 60).Guarded
      (KeepsUser Sample.crates) Sample.signingIn := by
    refine ⟨trivial, fun next stepped => ⟨?_, fun _ _ => trivial⟩⟩
    have fresh : ((step Sample.crates (.new [App.sample] 60)
        (.accept "app-key" "1.1")).bind fun state =>
          (state.connections.lookup "1.1").bind WsConnection.user).isNone = true := by
      decide +kernel
    intro conn user userId stored signed
    change step Sample.crates (.new [App.sample] 60) (.accept "app-key" "1.1") =
      some next at stepped
    rw [stepped, Option.bind_some, stored, Option.bind_some, signed] at fresh
    cases fresh
  obtain ⟨conn, stored, _, latest⟩ := ((user_index_exact Sample.crates [App.sample] 60
    reached guarded).1 "app" "1.1" "ann").mp member
  exact ⟨state, conn, reached, stored, member, latest⟩

theorem earlier_user_remains :
    ∃ state conn, (system Sample.crates [App.sample] 60).run Sample.changingUser =
        some state ∧
      state.connections.lookup "1.1" = some conn ∧
      "1.1" ∈ (state.adapter.ns "app").users.members "ann" ∧
      ¬ LatestSignin Sample.crates conn.app "1.1" "ann" Sample.changingUser.reverse ∧
      ∃ closed, step Sample.crates state (.close "1.1" Sample.moment) = some closed ∧
        "1.1" ∈ (closed.adapter.ns "app").users.members "ann" := by
  have ends : (((system Sample.crates [App.sample] 60).run Sample.changingUser).bind
      fun state => (state.connections.lookup "1.1").filter fun conn =>
        "1.1" ∈ (state.adapter.ns "app").users.members "ann" ∧
          conn.user.map UserInfo.id = some "bob" ∧
          "1.1" ∈ ((onClose Sample.moment state conn).adapter.ns
            "app").users.members "ann").isSome = true := by
    decide +kernel
  obtain ⟨conn, found⟩ := Option.isSome_iff_exists.mp ends
  obtain ⟨state, reached, found⟩ := Option.bind_eq_some_iff.mp found
  obtain ⟨stored, holds⟩ := Option.filter_eq_some_iff.mp found
  obtain ⟨member, signed, remains⟩ := of_decide_eq_true holds
  refine ⟨state, conn, reached, stored, member, ?_, ?_⟩
  · have known : state.core.identity "1.1" =
        some (conn.app, conn.user.map UserInfo.id) := by
      simp [Core.identity, AppState.core, stored, WsConnection.view]
    rw [← (dated_of_reached Sample.crates [App.sample] 60 reached).2 _ _ _ known,
      signed]
    decide
  · refine ⟨settle (onClose Sample.moment state conn) (.close "1.1" Sample.moment),
      ?_, remains⟩
    rw [step, perform, stored]
    rfl

end RushSocket.Server
