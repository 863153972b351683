import RushSocket.Http.Events

namespace RushSocket.Http

open Data

/-! The routes of the API.  Every handler signs a path that it builds from the
decoded parameters, so a parameter with a slash in it reads like several. -/

inductive Target where
  | events (appId : String)
  | batchEvents (appId : String)
  | channels (appId : String)
  | channel (appId channelName : String)
  | channelUsers (appId channelName : String)
  | connections (appId : String)
  | terminate (appId userId : String)
  deriving DecidableEq

namespace Target

def method : Target → String
  | .events _ | .batchEvents _ | .terminate _ _ => "POST"
  | .channels _ | .channel _ _ | .channelUsers _ _ | .connections _ => "GET"

def appId : Target → String
  | .events appId | .batchEvents appId | .channels appId | .channel appId _
  | .channelUsers appId _ | .connections appId | .terminate appId _ => appId

def params : Target → List String
  | .events appId | .batchEvents appId | .channels appId | .connections appId => [appId]
  | .channel appId channelName | .channelUsers appId channelName =>
      [appId, channelName]
  | .terminate appId userId => [appId, userId]

/-- The path that the handler of the route signs. -/
def path : Target → String
  | .events appId => "/apps/" ++ appId ++ "/events"
  | .batchEvents appId => "/apps/" ++ appId ++ "/batch_events"
  | .channels appId => "/apps/" ++ appId ++ "/channels"
  | .channel appId channelName => "/apps/" ++ appId ++ "/channels/" ++ channelName
  | .channelUsers appId channelName =>
      "/apps/" ++ appId ++ "/channels/" ++ channelName ++ "/users"
  | .connections appId => "/apps/" ++ appId ++ "/connections"
  | .terminate appId userId =>
      "/apps/" ++ appId ++ "/users/" ++ userId ++ "/terminate_connections"

/-- The part of the path after the app. -/
def tail : Target → String
  | .events _ => "/events"
  | .batchEvents _ => "/batch_events"
  | .channels _ => "/channels"
  | .channel _ channelName => "/channels/" ++ channelName
  | .channelUsers _ channelName => "/channels/" ++ channelName ++ "/users"
  | .connections _ => "/connections"
  | .terminate _ userId => "/users/" ++ userId ++ "/terminate_connections"

def segment : Target → String
  | .events _ => "/events"
  | .batchEvents _ => "/batch_events"
  | .channels _ | .channel _ _ | .channelUsers _ _ => "/channels"
  | .connections _ => "/connections"
  | .terminate _ _ => "/users"

def remainder : Target → String
  | .events _ | .batchEvents _ | .channels _ | .connections _ => ""
  | .channel _ channelName => "/" ++ channelName
  | .channelUsers _ channelName => "/" ++ channelName ++ "/users"
  | .terminate _ userId => "/" ++ userId ++ "/terminate_connections"

theorem path_eq (target : Target) :
    target.path = "/apps/" ++ target.appId ++ target.tail := by
  cases target with
  | events => rfl
  | batchEvents => rfl
  | channels => rfl
  | channel => simp [path, appId, tail, String.append_assoc]
  | channelUsers => simp [path, appId, tail, String.append_assoc]
  | connections => rfl
  | terminate => simp [path, appId, tail, String.append_assoc]

end Target

def checkTarget (sign : String → String → String) (appManager : StaticAppManager)
    (target : Target) (params : Params) : Except HttpError App :=
  match appManager.findById target.appId with
  | none => .error ⟨404, "App not found"⟩
  | some app =>
      match params.get? "auth_signature" with
      | none => .error ⟨401, "Missing auth_signature"⟩
      | some authSignature =>
          if !verifyHttpSignature sign app.secret target.method target.path params
              authSignature then
            .error ⟨401, "Invalid signature"⟩
          else .ok app

theorem terminate_eq (crates : Crates) (moment : Moment) (state : AppState)
    (appId userId : String) (params : Params) :
    terminate crates moment state appId userId params =
      match checkTarget crates.sign state.appManager (.terminate appId userId)
          params with
      | .error refused => (state, .failed refused)
      | .ok _ => (state.terminateUserConnections moment appId userId, .empty) := by
  unfold terminate checkTarget
  simp only [Target.appId]
  cases state.appManager.findById appId with
  | none => rfl
  | some app =>
      cases params.get? "auth_signature" with
      | none => rfl
      | some authSignature =>
          cases verified : verifyHttpSignature crates.sign app.secret
              (Target.terminate appId userId).method
              (Target.terminate appId userId).path params authSignature with
          | false =>
              simp only [Target.method, Target.path] at verified
              simp [Target.method, Target.path, verified]
          | true =>
              simp only [Target.method, Target.path] at verified
              simp [Target.method, Target.path, verified]

def Route.target (appId : String) : Route → Target
  | .events => .events appId
  | .batchEvents => .batchEvents appId

theorem checkTarget_of_authorise {crates : Crates} {moment : Moment}
    {state after : AppState} {appId : String} {route : Route} {params : Params}
    {body : List UInt8} {app : App}
    (passed : authorise crates moment state appId route params body =
      (after, .ok app)) :
    checkTarget crates.sign state.appManager (route.target appId) params = .ok app := by
  have named : (route.target appId).appId = appId := by cases route <;> rfl
  have posted : (route.target appId).method = "POST" := by cases route <;> rfl
  have signed : (route.target appId).path = route.path appId := by cases route <;> rfl
  unfold authorise at passed
  unfold checkTarget
  rw [named]
  cases found : state.appManager.findById appId with
  | none => simp [found] at passed
  | some stored =>
      rw [found] at passed
      dsimp only at passed ⊢
      cases checked : checkSigned crates.sign crates.bodyMd5 appId stored.secret route
          params body with
      | error refused => simp [checked] at passed
      | ok passes =>
          obtain ⟨given, _⟩ := checkSigned_ok_iff.mp checked
          rw [given, posted, signed]
          dsimp only
          rw [verifyHttpSignature_iff.mpr rfl]
          rw [checked] at passed
          dsimp only at passed
          split at passed
          · cases passed
            rfl
          · cases passed

/-! What one signature is accepted for. -/

/-- Two different requests that sign one text: a channel whose name ends like the
path of the users, or an app whose id reads on into the path of another app.  What is
left over of that id, `front`, is empty or begins with a slash. -/
inductive Confusable : Target → Target → Prop where
  | users (appId channelName : String) :
      Confusable (.channel appId (channelName ++ "/users"))
        (.channelUsers appId channelName)
  | channels {appId front named : String} (fits : "/" ++ named = front ++ "/channels") :
      Confusable (.channels (appId ++ "/channels" ++ front)) (.channel appId named)
  | channel {appId front named channelName : String}
      (fits : "/" ++ named = front ++ "/channels/" ++ channelName) :
      Confusable (.channel (appId ++ "/channels" ++ front) channelName)
        (.channel appId named)
  | usersOfChannel {appId front named channelName : String}
      (fits : "/" ++ named = front ++ "/channels/" ++ channelName ++ "/users") :
      Confusable (.channelUsers (appId ++ "/channels" ++ front) channelName)
        (.channel appId named)
  | connections {appId front named : String}
      (fits : "/" ++ named = front ++ "/connections") :
      Confusable (.connections (appId ++ "/channels" ++ front)) (.channel appId named)
  | channelOfUsers {appId front named channelName : String}
      (fits : "/" ++ named ++ "/users" = front ++ "/channels/" ++ channelName) :
      Confusable (.channel (appId ++ "/channels" ++ front) channelName)
        (.channelUsers appId named)
  | channelUsers {appId front named channelName : String}
      (fits : "/" ++ named = front ++ "/channels/" ++ channelName) :
      Confusable (.channelUsers (appId ++ "/channels" ++ front) channelName)
        (.channelUsers appId named)
  | terminate {appId front named userId : String}
      (fits : "/" ++ named = front ++ "/users/" ++ userId) :
      Confusable (.terminate (appId ++ "/users" ++ front) userId)
        (.terminate appId named)

/-- The app of one request goes on where that of another ends, and so does the rest
of the path the other way round. -/
structure ReadsOn (first second : Target) (more : String) : Prop where
  nonempty : more ≠ ""
  method : first.method = second.method
  app : first.appId = second.appId ++ more
  rest : second.tail = more ++ first.tail

theorem Target.tail_eq (target : Target) :
    target.tail = target.segment ++ target.remainder := by
  cases target <;> simp [tail, segment, remainder, ← String.toList_inj]

theorem Target.segment_eq (target : Target) :
    ∃ word, target.segment.toList = '/' :: word ∧ '/' ∉ word := by
  cases target <;> simp [segment]

theorem Target.tail_head (target : Target) : target.tail.toList.head? = some '/' := by
  cases target <;> simp [Target.tail]

theorem Target.tail_ne_empty (target : Target) : target.tail ≠ "" := by
  intro empty
  have slash := target.tail_head
  rw [empty] at slash
  cases slash

section

variable {first second : Target} {more : String}

/-- What the longer id goes on with begins with the next segment of the other path. -/
theorem ReadsOn.front (readsOn : ReadsOn first second more) :
    ∃ front, more = second.segment ++ front ∧ second.remainder = front ++ first.tail := by
  obtain ⟨word, segment, plain⟩ := second.segment_eq
  obtain ⟨others, slash⟩ := List.head?_eq_some_iff.mp first.tail_head
  have rest := congrArg String.toList (second.tail_eq.symm.trans readsOn.rest)
  rw [String.toList_append, String.toList_append] at rest
  rcases List.append_eq_append_iff.mp rest with
    ⟨front, longer, remains⟩ | ⟨middle, shorter, overlaps⟩
  · refine ⟨String.ofList front, ?_, ?_⟩
    · rw [← String.toList_inj, longer, String.toList_append, String.toList_ofList]
    · rw [← String.toList_inj, remains, String.toList_append, String.toList_ofList]
  · cases middle with
    | nil =>
        rw [List.append_nil] at shorter
        refine ⟨"", ?_, ?_⟩
        · rw [String.append_empty, ← String.toList_inj, shorter]
        · rw [String.empty_append, ← String.toList_inj, overlaps, List.nil_append]
    | cons char rest =>
        rw [slash, List.cons_append] at overlaps
        obtain ⟨rfl, _⟩ := List.cons.inj overlaps
        -- a second slash in the segment
        cases start : more.toList with
        | nil => exact absurd (String.toList_inj.mp start) readsOn.nonempty
        | cons head inner =>
            rw [segment, start, List.cons_append] at shorter
            refine absurd ?_ plain
            rw [(List.cons.inj shorter).2]
            exact List.mem_append_right _ List.mem_cons_self

theorem ReadsOn.confusable (readsOn : ReadsOn first second more) :
    Confusable first second := by
  obtain ⟨front, rfl, fits⟩ := readsOn.front
  have method := readsOn.method
  have app := readsOn.app
  rw [← String.append_assoc] at app
  cases second with
  | events | batchEvents | channels | connections =>
      have none := String.append_eq_empty_iff.mp fits.symm
      exact absurd none.2 first.tail_ne_empty
  | channel appId named =>
      cases first with
      | events | batchEvents | terminate => simp [Target.method] at method
      | channels longer =>
          change longer = _ at app
          subst app
          exact .channels fits
      | channel longer channelName =>
          change longer = _ at app
          subst app
          apply Confusable.channel
          simpa [Target.remainder, Target.tail, String.append_assoc] using fits
      | channelUsers longer channelName =>
          change longer = _ at app
          subst app
          apply Confusable.usersOfChannel
          simpa [Target.remainder, Target.tail, String.append_assoc] using fits
      | connections longer =>
          change longer = _ at app
          subst app
          exact .connections fits
  | channelUsers appId named =>
      cases first with
      | events | batchEvents | terminate => simp [Target.method] at method
      | channels longer | connections longer =>
          -- the last segments differ
          have chars := congrArg (fun text => text.toList.reverse) fits
          simp [Target.remainder, Target.tail] at chars
      | channel longer channelName =>
          change longer = _ at app
          subst app
          apply Confusable.channelOfUsers
          simpa [Target.remainder, Target.tail, String.append_assoc] using fits
      | channelUsers longer channelName =>
          change longer = _ at app
          subst app
          apply Confusable.channelUsers
          apply (String.append_left_inj "/users").mp
          simpa [Target.remainder, Target.tail, String.append_assoc] using fits
  | terminate appId named =>
      cases first with
      | channels | channel | channelUsers | connections => simp [Target.method] at method
      | events longer | batchEvents longer =>
          have chars := congrArg (fun text => text.toList.reverse) fits
          simp [Target.remainder, Target.tail] at chars
      | terminate longer userId =>
          change longer = _ at app
          subst app
          apply Confusable.terminate
          apply (String.append_left_inj "/terminate_connections").mp
          simpa [Target.remainder, Target.tail, String.append_assoc] using fits

theorem readsOn_of_front {front : String} (method : first.method = second.method)
    (app : first.appId = second.appId ++ second.segment ++ front)
    (fits : second.remainder = front ++ first.tail) :
    ReadsOn first second (second.segment ++ front) where
  nonempty := by
    obtain ⟨word, segment, _⟩ := second.segment_eq
    rw [ne_eq, ← String.toList_inj, String.toList_append, segment]
    exact List.cons_ne_nil _ _
  method := method
  app := by rw [app, String.append_assoc]
  rest := by rw [second.tail_eq, fits, String.append_assoc]

theorem Confusable.readsOn (confusable : Confusable first second) :
    (∃ appId channelName, first = .channel appId (channelName ++ "/users") ∧
        second = .channelUsers appId channelName) ∨
      ∃ more, ReadsOn first second more := by
  cases confusable with
  | users appId channelName => exact .inl ⟨appId, channelName, rfl, rfl⟩
  | channels fits | connections fits => exact .inr ⟨_, readsOn_of_front rfl rfl fits⟩
  | channel fits | usersOfChannel fits | channelOfUsers fits =>
      refine .inr ⟨_, readsOn_of_front rfl rfl ?_⟩
      simpa [Target.remainder, Target.tail, String.append_assoc] using fits
  | channelUsers fits | terminate fits =>
      refine .inr ⟨_, readsOn_of_front rfl rfl ?_⟩
      simp only [Target.remainder, Target.tail]
      rw [fits]
      simp only [String.append_assoc]

theorem Confusable.sound (confusable : Confusable first second) :
    first.method = second.method ∧ first.path = second.path ∧ first ≠ second := by
  rcases confusable.readsOn with ⟨appId, channelName, rfl, rfl⟩ | ⟨more, readsOn⟩
  · refine ⟨rfl, ?_, ?_⟩
    · simp [Target.path, String.append_assoc]
    · intro same
      cases same
  · refine ⟨readsOn.method, ?_, ?_⟩
    · rw [Target.path_eq, Target.path_eq, readsOn.app, readsOn.rest]
      simp [String.append_assoc]
    · rintro rfl
      have same := congrArg String.toList readsOn.app
      rw [String.toList_append] at same
      exact readsOn.nonempty (String.toList_inj.mp (List.append_right_eq_self.mp same.symm))

end

/-- After the same app, the paths of two requests of one method differ unless
one is a channel that ends in `/users`. -/
theorem Target.eq_of_tail {first second : Target}
    (method : first.method = second.method) (app : first.appId = second.appId)
    (tail : first.tail = second.tail) :
    first = second ∨ Confusable first second ∨ Confusable second first := by
  have chars := congrArg String.toList tail
  cases first <;> cases second <;>
    simp [Target.method, Target.tail, Target.appId] at method app chars <;> subst app
  case channel.channelUsers appId longer channelName =>
      have same : longer = channelName ++ "/users" := by
        rw [← String.toList_inj, String.toList_append]
        exact chars
      exact .inr (.inl (same ▸ .users appId channelName))
  case channelUsers.channel appId channelName longer =>
      have same : longer = channelName ++ "/users" := by
        rw [← String.toList_inj, String.toList_append]
        exact chars.symm
      exact .inr (.inr (same ▸ .users appId channelName))
  all_goals
    left
    simp_all [String.toList_inj]

/-- Two requests of one method have one path when they are the same or
confusable. -/
theorem Target.path_eq_iff {first second : Target}
    (method : first.method = second.method) :
    first.path = second.path ↔
      first = second ∨ Confusable first second ∨ Confusable second first := by
  constructor
  · intro path
    have longer : ∀ {longer shorter : Target} {more : List Char},
        longer.method = shorter.method →
        longer.appId.toList = shorter.appId.toList ++ more →
        shorter.tail.toList = more ++ longer.tail.toList →
        longer = shorter ∨ Confusable longer shorter ∨ Confusable shorter longer := by
      intro longer shorter more method app tail
      cases more with
      | nil =>
          refine Target.eq_of_tail method (String.toList_inj.mp ?_)
            (String.toList_inj.mp tail.symm)
          rw [app, List.append_nil]
      | cons char rest =>
          have readsOn : ReadsOn longer shorter (String.ofList (char :: rest)) := by
            refine ⟨?_, method, ?_, ?_⟩
            · intro empty
              have none := congrArg String.toList empty
              simp at none
            · rw [← String.toList_inj, String.toList_append, String.toList_ofList, app]
            · rw [← String.toList_inj, String.toList_append, String.toList_ofList, tail]
          exact .inr (.inl readsOn.confusable)
    rw [Target.path_eq, Target.path_eq, ← String.toList_inj] at path
    simp only [String.toList_append, List.append_assoc] at path
    rcases List.append_eq_append_iff.mp (List.append_cancel_left path) with
      ⟨more, app, tail⟩ | ⟨more, app, tail⟩
    · rcases longer method.symm app tail with same | confusable | confusable
      · exact .inl same.symm
      · exact .inr (.inr confusable)
      · exact .inr (.inl confusable)
    · exact longer method app tail
  · rintro (same | confusable | confusable)
    · rw [same]
    · exact confusable.sound.2.1
    · exact confusable.sound.2.1.symm

theorem Target.appId_mem_params (target : Target) : target.appId ∈ target.params := by
  cases target <;> simp [Target.appId, Target.params]

/-- Without a slash in a parameter nothing is confused. -/
theorem Confusable.slash {first second : Target} (confusable : Confusable first second) :
    ∃ param ∈ first.params, '/' ∈ param.toList := by
  rcases confusable.readsOn with ⟨appId, channelName, rfl, rfl⟩ | ⟨more, readsOn⟩
  · exact ⟨channelName ++ "/users", by simp [Target.params], by simp⟩
  · refine ⟨first.appId, first.appId_mem_params, ?_⟩
    obtain ⟨front, rfl, _⟩ := readsOn.front
    obtain ⟨word, segment, _⟩ := second.segment_eq
    rw [readsOn.app, String.toList_append, String.toList_append, segment]
    exact List.mem_append_right _ List.mem_cons_self

theorem Target.method_cases (target : Target) :
    target.method = "GET" ∨ target.method = "POST" := by
  cases target with
  | events | batchEvents | terminate => exact .inr rfl
  | channels | channel | channelUsers | connections => exact .inl rfl

theorem Target.text_eq_iff {first second : Target} {query : String} :
    first.method ++ "\n" ++ first.path ++ "\n" ++ query =
        second.method ++ "\n" ++ second.path ++ "\n" ++ query ↔
      first.method = second.method ∧ first.path = second.path := by
  constructor
  · intro text
    rw [← String.toList_inj] at text
    simp only [String.toList_append] at text
    have lead := List.append_cancel_right (List.append_cancel_right text)
    have method : first.method = second.method := by
      have initial := congrArg List.head? lead
      rcases first.method_cases with get | post
      · rcases second.method_cases with getToo | post
        · rw [get, getToo]
        · rw [get, post] at initial
          simp at initial
      · rcases second.method_cases with get | postToo
        · rw [post, get] at initial
          simp at initial
        · rw [post, postToo]
    rw [method] at lead
    exact ⟨method, String.toList_inj.mp (List.append_cancel_left lead)⟩
  · rintro ⟨method, path⟩
    rw [method, path]

theorem same_or_confusable {sign : String → String → String} {secret : String}
    (injective : Function.Injective (sign secret)) {first second : Target} {params : Params}
    {signature : String}
    (verified :
      verifyHttpSignature sign secret first.method first.path params signature = true)
    (again :
      verifyHttpSignature sign secret second.method second.path params signature = true) :
    first = second ∨ Confusable first second ∨ Confusable second first := by
  rw [verifyHttpSignature_eq_true] at verified again
  obtain ⟨method, path⟩ :=
    Target.text_eq_iff.mp (injective (verified.trans again.symm))
  exact (Target.path_eq_iff method).mp path

/-- A signature is good for one request only, unless the other request is
confusable with it. -/
theorem signature_exact (sign : String → String → String) (secret : String)
    (injective : Function.Injective (sign secret)) (first second : Target)
    (params : Params) :
    (∀ signature,
      verifyHttpSignature sign secret first.method first.path params signature =
          true →
        verifyHttpSignature sign secret second.method second.path params signature =
          true → first = second) ↔
      ¬ (Confusable first second ∨ Confusable second first) := by
  constructor
  · intro separate confusable
    have same : first.method = second.method ∧ first.path = second.path ∧
        first ≠ second := by
      rcases confusable with confusable | confusable
      · exact confusable.sound
      · obtain ⟨method, path, different⟩ := confusable.sound
        exact ⟨method.symm, path.symm, different.symm⟩
    obtain ⟨method, path, different⟩ := same
    have accepted := verifyHttpSignature_eq_true.mpr
      (Eq.refl (sign secret (second.method ++ "\n" ++ second.path ++ "\n" ++
        params.queryString)))
    refine different (separate _ ?_ accepted)
    rw [method, path]
    exact accepted
  · intro plain signature verified again
    exact (same_or_confusable injective verified again).resolve_right plain

/-- No signature is good for two requests whose parameters have no slash. -/
theorem signature_exact_plain {sign : String → String → String} {secret : String}
    {first second : Target} {params : Params} (injective : Function.Injective (sign secret))
    (plain : ∀ param ∈ first.params ++ second.params, '/' ∉ param.toList)
    {signature : String}
    (verified :
      verifyHttpSignature sign secret first.method first.path params signature = true)
    (again :
      verifyHttpSignature sign secret second.method second.path params signature = true) :
    first = second := by
  rcases same_or_confusable injective verified again with same | confusable | confusable
  · exact same
  · obtain ⟨param, member, slash⟩ := confusable.slash
    exact absurd slash (plain param (List.mem_append_left _ member))
  · obtain ⟨param, member, slash⟩ := confusable.slash
    exact absurd slash (plain param (List.mem_append_right _ member))

def roomUsersText : String :=
  "GET\n/apps/app/channels/presence-room/users\n" ++
    "auth_key=app-key&auth_timestamp=1700000000&auth_version=1.0"

def roomUsersSignature : String :=
  "f05a939321d417c5907922dd818f4f51e77a74d32ee3bba42c197ef9204ec773"

def roomSign (_secret : String) : String → String :=
  Auth.signTable [(roomUsersText, roomUsersSignature)]

theorem roomSign_injective (secret : String) : Function.Injective (roomSign secret) :=
  Auth.signTable_injective (by decide) (by decide)

def roomParams : Params where
  entries := [("auth_key", "app-key"), ("auth_signature", roomUsersSignature),
    ("auth_timestamp", "1700000000"), ("auth_version", "1.0")]
  sorted := by decide

theorem signature_exact_room :
    verifyHttpSignature roomSign "app-secret" "GET"
        "/apps/app/channels/presence-room/users" roomParams roomUsersSignature =
          true ∧
      ((∀ signature,
        verifyHttpSignature roomSign "app-secret" "GET"
            "/apps/app/channels/presence-room/users" roomParams signature = true →
          verifyHttpSignature roomSign "app-secret" "GET" "/apps/app/connections"
            roomParams signature = true →
          Target.channelUsers "app" "presence-room" = .connections "app") ↔
        ¬ (Confusable (.channelUsers "app" "presence-room") (.connections "app") ∨
          Confusable (.connections "app") (.channelUsers "app" "presence-room"))) :=
  ⟨by decide, signature_exact roomSign "app-secret" (roomSign_injective "app-secret")
    (.channelUsers "app" "presence-room") (.connections "app") roomParams⟩

/-- The signature for the users of a room is one for a channel of that name. -/
theorem room_confused :
    Function.Injective (roomSign "app-secret") ∧
      verifyHttpSignature roomSign "app-secret"
        (Target.channelUsers "app" "presence-room").method
        (Target.channelUsers "app" "presence-room").path roomParams
        roomUsersSignature = true ∧
      verifyHttpSignature roomSign "app-secret"
        (Target.channel "app" "presence-room/users").method
        (Target.channel "app" "presence-room/users").path roomParams
        roomUsersSignature = true ∧
      Target.channelUsers "app" "presence-room" ≠ .channel "app" "presence-room/users" :=
  ⟨roomSign_injective "app-secret", by decide, by decide, by decide⟩

end RushSocket.Http
