import RushSocket.Server.Outcome
import RushSocket.Transition.System

namespace RushSocket

open Adapter Data Protocol Server Transition Websocket

namespace AppState

/-- A new connection.  It is refused when no app has the key, when the app is
disabled and when the app has no room. -/
def accept (state : AppState) (key socketId : String) : AppState :=
  match state.appManager.findByKey key with
  | none => state
  | some app =>
      if !app.enabled then state
      else
        let (adapter, added) :=
          state.adapter.tryAddSocket app.id ⟨socketId⟩ app.maxConnections
        let reserved := state.setAdapter adapter
        if added then
          { reserved with
            connections := reserved.connections.insert socketId (.new socketId app) }
        else reserved

def take (state : AppState) (socketId : String) : AppState :=
  state.changeConn socketId fun conn =>
    match conn.tx.recv with
    | some (_, tx) => { conn with tx }
    | none => conn

/-- The last reference to a connection is dropped. -/
def drop (state : AppState) (socketId : String) : AppState :=
  { state with connections := state.connections.erase socketId }

end AppState

namespace Server

/-! The node as a transition system.  Messages, requests and disconnects are
handled one after another, in any order. -/

inductive Action where
  | accept (key socketId : String)
  | message (socketId text : String) (moment : Moment)
  | close (socketId : String) (moment : Moment)
  | take (socketId : String)
  | trigger (appId : String) (params : Http.Params) (body : List UInt8)
      (moment : Moment)
  | triggerBatch (appId : String) (params : Http.Params) (body : List UInt8)
      (moment : Moment)
  | terminate (appId userId : String) (params : Http.Params) (moment : Moment)

/-- The connection that an action is about: the others only see its effects. -/
def Action.actor : Action → Option String
  | .accept _ socketId => some socketId
  | .message socketId _ _ => some socketId
  | .close socketId _ => some socketId
  | _ => none

/-- The handling of an action.  A socket id is given to one connection at a
time. -/
def perform (crates : Crates) (state : AppState) : Action → Option AppState
  | .accept key socketId =>
      if socketId ∈ state.connections then none else some (state.accept key socketId)
  | .message socketId text moment =>
      (state.connections.lookup socketId).map fun conn =>
        onMessage crates moment state conn text
  | .close socketId moment =>
      (state.connections.lookup socketId).map fun conn => onClose moment state conn
  | .take socketId => some (state.take socketId)
  | .trigger appId params body moment =>
      some (Http.trigger crates moment state appId params body).1
  | .triggerBatch appId params body moment =>
      some (Http.triggerBatch crates moment state appId params body).1
  | .terminate appId userId params moment =>
      some (Http.terminate crates moment state appId userId params).1

/-- A connection that has been closed is gone. -/
def settle (state : AppState) : Action → AppState
  | .close socketId _ => state.drop socketId
  | _ => state

def step (crates : Crates) (state : AppState) (action : Action) : Option AppState :=
  (perform crates state action).map fun after => settle after action

def system (crates : Crates) (apps : List App) (cacheTtl : Nat) :
    System AppState Action where
  start := .new apps cacheTtl
  step := step crates

/-! What a step does to the core. -/

namespace Core

def enter (core : Core) (app : App) (socketId : String) : Core where
  adapter := (core.adapter.tryAddSocket app.id ⟨socketId⟩ app.maxConnections).1
  view other :=
    if other = socketId then some (WsConnection.new socketId app).view
    else core.view other
  clientLimiters := core.clientLimiters

def vanish (core : Core) (socketId : String) : Core where
  adapter := core.adapter
  view other := if other = socketId then none else core.view other
  clientLimiters := core.clientLimiters

end Core

theorem core_drop (state : AppState) (socketId : String) :
    (state.drop socketId).core = state.core.vanish socketId := by
  have views : (fun other =>
      (Finmap.lookup other (state.connections.erase socketId)).map
        WsConnection.view) =
      fun other => if other = socketId then none else state.core.view other := by
    funext other
    rw [Table.lookup_drop]
    split <;> rfl
  rw [AppState.core, AppState.drop, views]
  rfl

theorem core_take (state : AppState) (socketId : String) :
    (state.take socketId).core = state.core := by
  rw [AppState.take, AppState.core_changeConn state socketId id, Core.change_id]
  intro conn
  cases conn.tx.recv with
  | none => rfl
  | some taken => rfl

theorem core_insert_conn (state : AppState) (app : App) (socketId : String) :
    AppState.core { state.setAdapter (state.adapter.tryAddSocket app.id ⟨socketId⟩
        app.maxConnections).1 with
      connections := state.connections.insert socketId (.new socketId app) } =
      state.core.enter app socketId := by
  have views : (fun other =>
      (Finmap.lookup other
        (state.connections.insert socketId (.new socketId app))).map
        WsConnection.view) =
      fun other => if other = socketId then some (WsConnection.new socketId app).view
        else state.core.view other := by
    funext other
    rw [Table.lookup_put]
    split <;> rfl
  rw [Core.enter, ← views]
  rfl

/-- What a step does to the core. -/
inductive Change (crates : Crates) (state : AppState) : Action → Core → Prop where
  | kept {action : Action} (quiet : action.actor = none) :
      Change crates state action state.core
  | refused {key socketId : String} {adapter : LocalAdapter}
      (absent : state.connections.lookup socketId = none)
      (same : ∀ appId, adapter.ns appId = state.adapter.ns appId) :
      Change crates state (.accept key socketId) (state.core.setAdapter adapter)
  | entered {key socketId : String} {app : App}
      (absent : state.connections.lookup socketId = none)
      (found : state.appManager.findByKey key = some app)
      (added : ((state.adapter.ns app.id).tryAddSocket ⟨socketId⟩
        app.maxConnections).1 = (state.adapter.ns app.id).addSocket ⟨socketId⟩) :
      Change crates state (.accept key socketId) (state.core.enter app socketId)
  | handled {socketId text : String} {moment : Moment} {conn : WsConnection}
      {next : Core} (found : state.connections.lookup socketId = some conn)
      (outcome : Outcome crates conn text state.core next) :
      Change crates state (.message socketId text moment) next
  | closed {socketId : String} {moment : Moment} {conn : WsConnection}
      (found : state.connections.lookup socketId = some conn) :
      Change crates state (.close socketId moment)
        ((state.core.close moment.order conn).vanish socketId)

theorem Change.of_same {crates : Crates} {state : AppState} {action : Action}
    {core : Core} (same : core = state.core) (quiet : action.actor = none) :
    Change crates state action core := by
  rw [same]
  exact .kept quiet

theorem change_accept {crates : Crates} {state : AppState} {key socketId : String}
    (absent : state.connections.lookup socketId = none) :
    Change crates state (.accept key socketId) (state.accept key socketId).core := by
  unfold AppState.accept
  split
  · exact .refused absent fun _ => rfl
  · rename_i app found
    split
    · exact .refused absent fun _ => rfl
    · have outcome := (state.adapter.ns app.id).tryAddSocket_cases ⟨socketId⟩
        app.maxConnections
      have flag : (state.adapter.tryAddSocket app.id ⟨socketId⟩
          app.maxConnections).2 = ((state.adapter.ns app.id).tryAddSocket ⟨socketId⟩
            app.maxConnections).2 := rfl
      dsimp only
      split
      · rename_i added
        rw [flag] at added
        rcases outcome with entered | refused
        · have after := core_insert_conn state app socketId
          exact after ▸ .entered absent found (congrArg Prod.fst entered)
        · rw [refused] at added
          cases added
      · rename_i notAdded
        rw [flag] at notAdded
        rcases outcome with entered | refused
        · rw [entered] at notAdded
          exact absurd rfl notAdded
        · refine .refused absent fun appId => ?_
          change (state.adapter.tryAddSocket app.id ⟨socketId⟩
            app.maxConnections).1.ns appId = _
          rw [LocalAdapter.ns_tryAddSocket, refused]
          split
          · rename_i same
            rw [same]
          · rfl

theorem change_step {crates : Crates} {state next : AppState} {action : Action}
    (stepped : step crates state action = some next) :
    Change crates state action next.core := by
  simp only [step, Option.map_eq_some_iff] at stepped
  obtain ⟨after, performed, rfl⟩ := stepped
  cases action with
  | accept key socketId =>
      simp only [perform] at performed
      split at performed
      · cases performed
      · rename_i absent
        cases performed
        exact change_accept (Finmap.lookup_eq_none.mpr absent)
  | message socketId text moment =>
      simp only [perform, Option.map_eq_some_iff] at performed
      obtain ⟨conn, found, rfl⟩ := performed
      exact .handled found (response_onMessage crates moment state conn text).outcome
  | close socketId moment =>
      simp only [perform, Option.map_eq_some_iff] at performed
      obtain ⟨conn, found, rfl⟩ := performed
      rw [settle, core_drop, core_onClose]
      exact .closed found
  | take socketId =>
      cases performed
      exact .of_same (core_take state socketId) rfl
  | trigger appId params body moment =>
      cases performed
      exact .of_same (core_trigger crates moment state appId params body) rfl
  | triggerBatch appId params body moment =>
      cases performed
      exact .of_same (core_triggerBatch crates moment state appId params body) rfl
  | terminate appId userId params moment =>
      cases performed
      exact .of_same (core_terminate crates moment state appId userId params) rfl

/-! A node with one app, and tokens that the secret of the app signs. -/

namespace Sample

def userData (user : String) : String := "\x7b\"user_id\":\"" ++ user ++ "\"\x7d"

def annRoom : String := userData "ann"

def annUser : String := "\x7b\"id\":\"ann\"\x7d"

def bobUser : String := "\x7b\"id\":\"bob\"\x7d"

def signatures : List (String × String) :=
  [("1.1:presence-room:" ++ annRoom,
    "68fda7b4e88ffe24b022cf4a886e133785c87f7ddc51921217def3bcbcdc41a3"),
  ("1.1::user::" ++ annUser,
    "f63ec546cb751f3cf2f66cd5b3cd731a8594fd0372a4b69e4cd6f75282448a19"),
  ("1.1::user::" ++ bobUser,
    "928bdb8824f78692502be4d6f9de3b978fa8e93061e266df061f41960bb27ce7")]

def documents : List (String × Value) :=
  [(annRoom, .ofJson (.object [("user_id", .string "ann")])),
  (annUser, .ofJson (.object [("id", .string "ann")])),
  (bobUser, .ofJson (.object [("id", .string "bob")]))]

def message (event : String) (fields : List (String × String)) : ClientMessage where
  event := event
  data := .ofJson (.object (fields.map fun field => (field.1, .string field.2)))
  channel := none

def joinAs (user channel signature : String) : ClientMessage :=
  message "pusher:subscribe"
    [("auth", "app-key:" ++ signature), ("channel", channel),
      ("channel_data", userData user)]

def joinRoom : ClientMessage :=
  joinAs "ann" "presence-room"
    "68fda7b4e88ffe24b022cf4a886e133785c87f7ddc51921217def3bcbcdc41a3"

def signInAnn : ClientMessage :=
  message "pusher:signin"
    [("auth", "app-key:f63ec546cb751f3cf2f66cd5b3cd731a8594fd0372a4b69e4cd6f75282448a19"),
      ("user_data", annUser)]

def signInBob : ClientMessage :=
  message "pusher:signin"
    [("auth", "app-key:928bdb8824f78692502be4d6f9de3b978fa8e93061e266df061f41960bb27ce7"),
      ("user_data", bobUser)]

def text (msg : ClientMessage) : String :=
  (Json.object [("data", msg.data.json), ("event", .string msg.event)]).print

def crates : Crates where
  sign secret text :=
    if secret = "app-secret" then
      ((signatures.find? fun entry => entry.1 = text).map Prod.snd).getD ""
    else ""
  bodyMd5 _ := ""
  readValue text := (documents.find? fun entry => entry.1 = text).map Prod.snd
  readMessage sent :=
    [joinRoom, signInAnn, signInBob].find? fun msg => text msg = sent
  readTrigger _ := .error ""
  readBatch _ := .error ""

def moment : Moment where
  now := 1700000000
  withinRate := true
  order := .ascending
  recipientOrder _ := .ascending

def joining : List Action :=
  [.accept "app-key" "1.1", .message "1.1" (text joinRoom) moment]

def signingIn : List Action :=
  [.accept "app-key" "1.1", .message "1.1" (text signInAnn) moment]

def changingUser : List Action :=
  signingIn ++ [.message "1.1" (text signInBob) moment]

/-! Two connections in the same two rooms. -/

def roomSignatures : List (String × String) :=
  [("1.1:presence-lounge:" ++ userData "ann",
    "652e0ddd6f291cff752021d5af10a78e6eba567c851ab5c68f137e8ed02381d0"),
  ("1.1:presence-room:" ++ userData "ann",
    "68fda7b4e88ffe24b022cf4a886e133785c87f7ddc51921217def3bcbcdc41a3"),
  ("2.2:presence-lounge:" ++ userData "bob",
    "8adeabd6756364a7cb9615ce65cfdf176a695642fad511ab3f8f03977a816860"),
  ("2.2:presence-room:" ++ userData "bob",
    "84503265f67d789ce972076ad825539a932b121d9bec1c13f1357b19e29a689f")]

def joins : List (String × ClientMessage) :=
  [("1.1", joinAs "ann" "presence-lounge"
    "652e0ddd6f291cff752021d5af10a78e6eba567c851ab5c68f137e8ed02381d0"),
  ("1.1", joinAs "ann" "presence-room"
    "68fda7b4e88ffe24b022cf4a886e133785c87f7ddc51921217def3bcbcdc41a3"),
  ("2.2", joinAs "bob" "presence-lounge"
    "8adeabd6756364a7cb9615ce65cfdf176a695642fad511ab3f8f03977a816860"),
  ("2.2", joinAs "bob" "presence-room"
    "84503265f67d789ce972076ad825539a932b121d9bec1c13f1357b19e29a689f")]

def ping : ClientMessage := message "pusher:ping" []

def roomCrates : Crates where
  sign secret text :=
    if secret = "app-secret" then Auth.signTable roomSignatures text else "x" ++ text
  bodyMd5 _ := ""
  readValue text := (["ann", "bob"].find? fun user => userData user = text).map
    fun user => .ofJson (.object [("user_id", .string user)])
  readMessage sent := (ping :: joins.map Prod.snd).find? fun msg => text msg = sent
  readTrigger _ := .error ""
  readBatch _ := .error ""

def meeting : List Action :=
  [.accept "app-key" "1.1", .accept "app-key" "2.2"] ++
    joins.map fun join => .message join.1 (text join.2) moment

end Sample

end Server

end RushSocket
