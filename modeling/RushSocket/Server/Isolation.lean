import RushSocket.Server.Determinism
import RushSocket.Server.Ledger

namespace RushSocket.Server

open Adapter Data Protocol Transition Websocket

/-! The apps share one cache.  A key joins the app and the channel with a colon,
so an event of an app can get the key of a channel of an app whose id goes on
after a colon. -/

/-- The event has the key of a cache channel that one can subscribe to in some
app with a longer id. -/
def mixes (apps : List App) (stored : Stored) : Bool :=
  apps.any fun app => app.enableCacheChannels &&
    (Text.strip app.id (stored.appId ++ ":")).any fun front =>
      (Text.strip stored.channel (front ++ ":")).any fun channel =>
        isValidChannelName channel && (ChannelKind.fromName channel).isCache

/-- A request that is signed with the secret of the app and sends the frame to
the channel. -/
def Publishes (crates : Crates) (app : App) (channel : String) (frame : ServerMessage) :
    Action → Prop
  | .trigger appId params body _ =>
      appId = app.id ∧
        Http.checkSigned crates.sign crates.bodyMd5 app.id app.secret .events params
          body = .ok () ∧
        ∃ request channels, crates.readTrigger body = .ok request ∧
          Http.checkTrigger app request = .ok channels ∧ channel ∈ channels ∧
          frame = .channelEvent request.name channel (ServerMessage.text request.data)
            none
  | .triggerBatch appId params body _ =>
      appId = app.id ∧
        Http.checkSigned crates.sign crates.bodyMd5 app.id app.secret .batchEvents
          params body = .ok () ∧
        ∃ batch, crates.readBatch body = .ok batch ∧ Http.checkBatch app batch = .ok () ∧
          ∃ event ∈ batch, event.channel = channel ∧
            frame = .channelEvent event.name channel (ServerMessage.text event.data) none
  | _ => False

def replayed (moment : Moment) (state : AppState) (conn : WsConnection)
    (channel : String) : Option ServerMessage :=
  if conn.app.enableCacheChannels then
    state.cache.get moment.now (cacheKey conn.app.id channel)
  else none

def sendCached (state : AppState) (conn : WsConnection) (channel : String) :
    Option ServerMessage → AppState
  | some frame => state.send conn.socketId frame
  | none =>
      if conn.app.enableCacheChannels then
        (state.send conn.socketId (.cacheMiss channel)).notify conn.app.id
          (.cacheMiss channel)
      else state

/-- The handler sends the connection this frame out of the cache, or finds none. -/
structure ReplaysAs (moment : Moment) (state : AppState) (conn : WsConnection)
    (channel : String) (cached : Option ServerMessage) : Prop where
  found : replayed moment state conn channel = cached
  sent : Subscribe.replayCache moment state conn channel =
    sendCached state conn channel cached

theorem replaysAs_of_replayed {moment : Moment} {state : AppState} {conn : WsConnection}
    {channel : String} {cached : Option ServerMessage}
    (found : replayed moment state conn channel = cached) :
    ReplaysAs moment state conn channel cached where
  found := found
  sent := by
    rw [← found]
    unfold Subscribe.replayCache replayed sendCached
    cases conn.app.enableCacheChannels with
    | true => rfl
    | false => rfl

section

variable {crates : Crates} {apps : List App} {app : App} {cacheTtl : Nat}
  {appId channel other : String} {stored : Stored} {action : Action}

theorem cacheKey_cases (plain : ':' ∉ channel.toList)
    (same : cacheKey appId other = cacheKey app.id channel) :
    (appId = app.id ∧ other = channel) ∨
      ∃ front, app.id = appId ++ ":" ++ front ∧ other = front ++ ":" ++ channel := by
  simp only [cacheKey, ← String.toList_inj, String.toList_append, List.append_assoc]
    at same
  have joined : app.id.toList ++ ':' :: channel.toList =
      appId.toList ++ ':' :: other.toList := (List.append_cancel_left same).symm
  rcases Text.append_mark_cases plain joined with
    ⟨apps, channels⟩ | ⟨front, apps, channels⟩
  · exact .inl ⟨(String.toList_inj.mp apps).symm, (String.toList_inj.mp channels).symm⟩
  · refine .inr ⟨String.ofList front, ?_, ?_⟩
    · simp [← String.toList_inj, apps]
    · simp [← String.toList_inj, channels]

theorem eq_of_key (configured : app ∈ apps) (enabled : app.enableCacheChannels = true)
    (valid : isValidChannelName channel = true)
    (cached : (ChannelKind.fromName channel).isCache = true)
    (unmixed : mixes apps stored = false)
    (same : stored.key = cacheKey app.id channel) :
    stored.appId = app.id ∧ stored.channel = channel := by
  rcases cacheKey_cases (colon_notMem_channel valid) same with own | ⟨front, longer, rest⟩
  · exact own
  · have mixed : mixes apps stored = true := by
      simp only [mixes, List.any_eq_true, Bool.and_eq_true, Option.any_eq_true]
      exact ⟨app, configured, enabled, front, Text.strip_eq_some_iff.mpr longer, channel,
        Text.strip_eq_some_iff.mpr rest, valid, cached⟩
    rw [mixed] at unmixed
    cases unmixed

theorem findById_of_mem
    (distinct : apps.Pairwise fun first second => first.id ≠ second.id) {found : App}
    (configured : app ∈ apps)
    (named : StaticAppManager.findById ⟨apps⟩ app.id = some found) : found = app := by
  obtain ⟨member, sameId⟩ := StaticAppManager.mem_of_findById named
  have symmetric : Std.Symm fun first second : App => first.id ≠ second.id :=
    ⟨fun _ _ => Ne.symm⟩
  by_contra different
  exact distinct.forall member configured different sameId

theorem signed_of_authorised {moment : Moment} {route : Http.Route}
    {params : Http.Params} {body : List UInt8} {found : App}
    (distinct : apps.Pairwise fun first second => first.id ≠ second.id)
    (configured : app ∈ apps)
    (passed : authorised crates moment ⟨apps⟩ app.id route params body = some found) :
    found = app ∧ Http.checkSigned crates.sign crates.bodyMd5 app.id app.secret route
      params body = .ok () := by
  obtain ⟨named, checked⟩ := Option.filter_eq_some_iff.mp passed
  have same := findById_of_mem distinct configured named
  subst same
  refine ⟨rfl, ?_⟩
  rw [Bool.and_eq_true] at checked
  cases outcome : Http.checkSigned crates.sign crates.bodyMd5 found.id found.secret route
      params body with
  | error refused =>
      rw [outcome] at checked
      cases checked.1
  | ok passes => rfl

theorem eq_of_storedEvent {moment : Moment} {name data : String}
    (member : stored ∈ storedEvent moment cacheTtl app appId name data channel) :
    stored.appId = appId ∧ stored.channel = channel ∧
      stored.entry.value = .channelEvent name channel (ServerMessage.text data) none := by
  unfold storedEvent at member
  split at member
  · rw [List.mem_singleton.mp member]
    exact ⟨rfl, rfl, rfl⟩
  · cases member

theorem publishes_of_stored
    (distinct : apps.Pairwise fun first second => first.id ≠ second.id)
    (configured : app ∈ apps) (member : stored ∈ storedBy crates ⟨apps⟩ cacheTtl action)
    (owner : stored.appId = app.id) :
    Publishes crates app stored.channel stored.entry.value action := by
  cases action with
  | trigger appId params body moment =>
      simp only [storedBy, storedByTrigger] at member
      cases passed : authorised crates moment ⟨apps⟩ appId .events params body with
      | none => simp [passed] at member
      | some found =>
          rw [passed] at member
          dsimp only at member
          cases read : crates.readTrigger body with
          | error reason => simp [read] at member
          | ok request =>
              rw [read] at member
              dsimp only at member
              cases checked : Http.checkTrigger found request with
              | error refused => simp [checked] at member
              | ok channels =>
                  rw [checked] at member
                  obtain ⟨channel, listed, there⟩ := List.mem_flatMap.mp member
                  obtain ⟨ownerToo, named, frame⟩ := eq_of_storedEvent there
                  rw [ownerToo] at owner
                  subst owner
                  obtain ⟨rfl, signed⟩ := signed_of_authorised distinct configured passed
                  rw [named]
                  exact ⟨rfl, signed, request, channels, read, checked, listed, frame⟩
  | triggerBatch appId params body moment =>
      simp only [storedBy, storedByBatch] at member
      cases passed : authorised crates moment ⟨apps⟩ appId .batchEvents params body with
      | none => simp [passed] at member
      | some found =>
          rw [passed] at member
          dsimp only at member
          cases read : crates.readBatch body with
          | error reason => simp [read] at member
          | ok batch =>
              rw [read] at member
              dsimp only at member
              cases checked : Http.checkBatch found batch with
              | error refused => simp [checked] at member
              | ok passes =>
                  rw [checked] at member
                  obtain ⟨event, listed, there⟩ := List.mem_flatMap.mp member
                  obtain ⟨ownerToo, named, frame⟩ := eq_of_storedEvent there
                  rw [ownerToo] at owner
                  subst owner
                  obtain ⟨rfl, signed⟩ := signed_of_authorised distinct configured passed
                  rw [named]
                  exact ⟨rfl, signed, batch, read, checked, event, listed, rfl, frame⟩
  | accept | message | close | take | terminate => cases member

theorem lookup_store_congr {ledger twin : Ledger} {key : String}
    (same : ledger.cache.store.lookup key = twin.cache.store.lookup key)
    (events : List Stored) :
    (ledger.store events).cache.store.lookup key =
      (twin.store events).cache.store.lookup key := by
  induction events using List.reverseRecOn with
  | nil => exact same
  | append_singleton events last induction =>
      rw [Ledger.store_append, Ledger.store_append]
      change Finmap.lookup key ((ledger.store events).cache.store.insert _ _) =
        Finmap.lookup key ((twin.store events).cache.store.insert _ _)
      rw [Table.lookup_put, Table.lookup_put, induction]

theorem lookup_store_of_ne {ledger : Ledger} {key : String} {events : List Stored}
    (others : ∀ stored ∈ events, stored.key ≠ key) :
    (ledger.store events).cache.store.lookup key = ledger.cache.store.lookup key := by
  induction events using List.reverseRecOn with
  | nil => rfl
  | append_singleton events last induction =>
      have different := others last (by simp)
      rw [Ledger.store_append]
      change Finmap.lookup key ((ledger.store events).cache.store.insert _ _) = _
      rw [Table.lookup_put, if_neg different.symm]
      exact induction fun stored member => others stored (List.mem_append_left _ member)

end

/-! Runs with and without the requests of other apps and channels. -/

def Action.isTrigger : Action → Bool
  | .trigger .. | .triggerBatch .. => true
  | _ => false

/-- Requests count for a channel when they store something for it. -/
def concerns (crates : Crates) (apps : List App) (cacheTtl : Nat)
    (appId channel : String) (action : Action) : Bool :=
  !action.isTrigger || (storedBy crates ⟨apps⟩ cacheTtl action).any fun stored =>
    stored.appId = appId && stored.channel = channel

/-- No event of the step mixes with a channel of another app. -/
def Unmixed (crates : Crates) (apps : List App) (cacheTtl : Nat) (_ : AppState)
    (action : Action) : Prop :=
  ∀ stored ∈ storedBy crates ⟨apps⟩ cacheTtl action, mixes apps stored = false

instance (crates : Crates) (apps : List App) (cacheTtl : Nat) (state : AppState)
    (action : Action) : Decidable (Unmixed crates apps cacheTtl state action) :=
  inferInstanceAs (Decidable (∀ stored ∈ storedBy crates ⟨apps⟩ cacheTtl action, _))

structure Alike (apps : List App) (cacheTtl : Nat) (keys : Set String)
    (state twin : AppState) : Prop where
  core : state.core = twin.core
  manager : state.appManager = ⟨apps⟩
  managerToo : twin.appManager = ⟨apps⟩
  ttl : state.cacheTtl = cacheTtl
  ttlToo : twin.cacheTtl = cacheTtl
  entry : ∀ key ∈ keys,
    state.cache.store.lookup key = twin.cache.store.lookup key

section

variable {crates : Crates} {apps : List App} {app : App} {cacheTtl : Nat}
  {keys : Set String} {channel : String} {stored : Stored} {action : Action}
  {state twin next : AppState}

theorem cache_step (key : String) (stepped : step crates state action = some next) :
    next.appManager = state.appManager ∧ next.cacheTtl = state.cacheTtl ∧
      next.cache.store.lookup key =
        (state.ledger.store (storedBy crates state.appManager state.cacheTtl
          action)).cache.store.lookup key := by
  obtain ⟨appId, events, ledger⟩ := ledger_step stepped
  refine ⟨congrArg Ledger.appManager ledger, congrArg Ledger.cacheTtl ledger, ?_⟩
  exact congrArg (fun ledger => ledger.cache.store.lookup key) ledger

theorem Alike.kept (alike : Alike apps cacheTtl keys state twin)
    (stepped : step crates state action = some next) :
    ∃ twinNext, step crates twin action = some twinNext ∧
      Alike apps cacheTtl keys next twinNext := by
  obtain ⟨twinNext, steppedToo, core⟩ :=
    step_congr alike.core (alike.manager.trans alike.managerToo.symm) stepped
  have cache := fun key => cache_step key stepped
  have cacheToo := fun key => cache_step key steppedToo
  refine ⟨twinNext, steppedToo, core, (cache "").1.trans alike.manager,
    (cacheToo "").1.trans alike.managerToo, (cache "").2.1.trans alike.ttl,
    (cacheToo "").2.1.trans alike.ttlToo, fun key member => ?_⟩
  rw [(cache key).2.2, (cacheToo key).2.2, alike.manager, alike.managerToo, alike.ttl,
    alike.ttlToo]
  exact @lookup_store_congr state.ledger twin.ledger key (alike.entry key member) _

theorem core_of_trigger (trigger : action.isTrigger = true)
    (stepped : step crates state action = some next) : next.core = state.core := by
  cases action with
  | trigger appId params body moment =>
      cases stepped
      exact core_trigger crates moment state appId params body
  | triggerBatch appId params body moment =>
      cases stepped
      exact core_triggerBatch crates moment state appId params body
  | accept | message | close | take | terminate => cases trigger

/-- A request that stores nothing under the keys can be left out. -/
theorem Alike.dropped (alike : Alike apps cacheTtl keys state twin)
    (trigger : action.isTrigger = true)
    (others : ∀ stored ∈ storedBy crates ⟨apps⟩ cacheTtl action, stored.key ∉ keys)
    (stepped : step crates state action = some next) :
    Alike apps cacheTtl keys next twin := by
  have cache := fun key => cache_step key stepped
  refine ⟨(core_of_trigger trigger stepped).trans alike.core,
    (cache "").1.trans alike.manager, alike.managerToo, (cache "").2.1.trans alike.ttl,
    alike.ttlToo, fun key member => ?_⟩
  rw [(cache key).2.2, alike.manager, alike.ttl, lookup_store_of_ne]
  · exact alike.entry key member
  · rintro stored listed rfl
    exact others stored listed member

theorem stored_of_reached {actions : List Action}
    (reached : (system crates apps cacheTtl).run actions = some state)
    {key : String} {entry : CacheEntry}
    (found : state.cache.store.lookup key = some entry) :
    ∃ action ∈ actions, ∃ stored ∈ storedBy crates ⟨apps⟩ cacheTtl action,
      stored.key = key ∧ stored.entry = entry := by
  have invariant := @System.invariant_history _ _ (system crates apps cacheTtl)
    (fun _ _ => True)
    (fun state history => state.appManager = ⟨apps⟩ ∧ state.cacheTtl = cacheTtl ∧
      ∀ entry, state.cache.store.lookup key = some entry →
        ∃ action ∈ history, ∃ stored ∈ storedBy crates ⟨apps⟩ cacheTtl action,
          stored.key = key ∧ stored.entry = entry)
    ⟨rfl, rfl, fun _ found => nomatch found⟩ ?_ actions state reached
    ((system crates apps cacheTtl).meets_true _ _)
  · obtain ⟨action, member, rest⟩ := invariant.2.2 entry found
    exact ⟨action, List.mem_reverse.mp member, rest⟩
  · intro before history action next holds _ stepped
    obtain ⟨manager, ttl, known⟩ := holds
    obtain ⟨managerToo, ttlToo, stores⟩ := cache_step key stepped
    refine ⟨managerToo.trans manager, ttlToo.trans ttl, fun entry found => ?_⟩
    rw [stores, manager, ttl] at found
    rcases Ledger.lookup_store found with ⟨stored, member, same⟩ | earlier
    · exact ⟨action, List.mem_cons_self, stored, member, same⟩
    · obtain ⟨earlierAction, member, rest⟩ := known entry earlier
      exact ⟨earlierAction, List.mem_cons_of_mem _ member, rest⟩

end

/-- What a subscriber of a channel gets from the cache has been sent to this
channel by a request signed with the secret of its app, and the requests that
concern no such channel make no difference to it. -/
theorem replays_isolated (crates : Crates) (apps : List App) (cacheTtl : Nat)
    (distinct : apps.Pairwise fun first second => first.id ≠ second.id)
    {actions : List Action} {state : AppState}
    (reached : (system crates apps cacheTtl).run actions = some state)
    (guarded : (system crates apps cacheTtl).Guarded (Unmixed crates apps cacheTtl)
      actions)
    {app : App} (configured : app ∈ apps) {channel : String}
    (valid : isValidChannelName channel = true)
    (cached : (ChannelKind.fromName channel).isCache = true) :
    ∃ twin,
      (system crates apps cacheTtl).run
          (actions.filter (concerns crates apps cacheTtl app.id channel)) = some twin ∧
        ∀ conn moment, conn.app = app → ∃ cached,
          ReplaysAs moment state conn channel cached ∧
          ReplaysAs moment twin conn channel cached ∧
          ∀ frame ∈ cached,
            ∃ action ∈ actions, Publishes crates app channel frame action := by
  have unmixed : ∀ action ∈ actions,
      ∀ stored ∈ storedBy crates ⟨apps⟩ cacheTtl action, mixes apps stored = false := by
    intro action member
    obtain ⟨_, allowed⟩ :=
      (system crates apps cacheTtl).allowed_of_guarded reached guarded member
    exact allowed
  have published : ∀ conn moment frame, conn.app = app →
      replayed moment state conn channel = some frame →
        ∃ action ∈ actions, Publishes crates app channel frame action := by
    rintro conn moment frame rfl found
    unfold replayed at found
    split at found
    · rename_i enabled
      obtain ⟨entry, stored, rfl⟩ := MemoryCache.entry_of_get found
      obtain ⟨action, member, event, listed, key, rfl⟩ := stored_of_reached reached stored
      obtain ⟨owner, named⟩ := eq_of_key configured enabled valid cached
        (unmixed action member event listed) key
      refine ⟨action, member, ?_⟩
      rw [← named]
      exact publishes_of_stored distinct configured listed owner
    · cases found
  let keys : Set String :=
    {key | app.enableCacheChannels = true ∧ key = cacheKey app.id channel}
  have dropped : ∀ {before beforeToo action next},
      Alike apps cacheTtl keys before beforeToo →
      Unmixed crates apps cacheTtl before action →
      concerns crates apps cacheTtl app.id channel action = false →
      step crates before action = some next →
      Alike apps cacheTtl keys next beforeToo := by
    intro before beforeToo action next alike allowed ignored stepped
    rw [concerns, Bool.or_eq_false_iff, Bool.not_eq_false'] at ignored
    refine alike.dropped ignored.1 ?_ stepped
    rintro event listed ⟨enabled, key⟩
    obtain ⟨owner, named⟩ := eq_of_key configured enabled valid cached
      (allowed event listed) key
    have counts := List.any_eq_false.mp ignored.2 event listed
    simp [owner, named] at counts
  obtain ⟨twin, reachedToo, alike⟩ := @System.run_filter _ _
    (system crates apps cacheTtl) (Unmixed crates apps cacheTtl)
    (concerns crates apps cacheTtl app.id channel) (Alike apps cacheTtl keys)
    ⟨rfl, rfl, rfl, rfl, rfl, fun _ _ => rfl⟩
    (fun alike _ _ stepped => alike.kept stepped) dropped _ _ reached guarded
  have same : ∀ conn moment, conn.app = app →
      replayed moment twin conn channel = replayed moment state conn channel := by
    rintro conn moment rfl
    unfold replayed
    split
    · rename_i enabled
      rw [MemoryCache.get, MemoryCache.get, alike.entry _ ⟨enabled, rfl⟩]
    · rfl
  refine ⟨twin, reachedToo, fun conn moment owner => ?_⟩
  exact ⟨_, replaysAs_of_replayed rfl, replaysAs_of_replayed (same conn moment owner),
    fun frame found => published conn moment frame owner found⟩

/-! Two apps, the id of one going on where that of the other ends. -/

namespace Sample

def shortApp : App :=
  { App.sample with id := "b", key := "b-key", secret := "b-secret" }

def longApp : App :=
  { App.sample with id := "b:cache-x", key := "long-key", secret := "long-secret" }

def bytes (text : String) : List UInt8 :=
  text.toList.map fun char => UInt8.ofNat char.toNat

def eventBody (channel : String) : List UInt8 :=
  bytes ("\x7b\"name\":\"e\",\"data\":\"d\",\"channel\":\"" ++ channel ++ "\"\x7d")

def eventRequest (channel : String) : TriggerRequest where
  name := "e"
  data := "d"
  channels := none
  channel := some channel
  socketId := none
  info := none

def shortSignature : String :=
  "88911b7bb76737b55baf5a37d9356a3c07a3caec946d339d7f277610e73e850a"

def subscribeTo (channel : String) : ClientMessage :=
  message "pusher:subscribe" [("channel", channel)]

def sharedCrates : Crates where
  sign secret text :=
    if secret = "b-secret" then
      Auth.signTable [("POST\n/apps/b/events\n" ++
        "auth_key=b-key&auth_timestamp=1700000000&auth_version=1.0",
        shortSignature)] text
    else "x" ++ text
  bodyMd5 _ := ""
  readValue _ := none
  readMessage sent :=
    [subscribeTo "cache-y", subscribeTo "cache-room"].find? fun msg => text msg = sent
  readTrigger body :=
    match ["cache-x:cache-y", "cache-room"].find? fun channel =>
        eventBody channel = body with
    | some channel => .ok (eventRequest channel)
    | none => .error ""
  readBatch _ := .error ""

def shortParams : Http.Params where
  entries := [("auth_key", "b-key"), ("auth_signature", shortSignature),
    ("auth_timestamp", "1700000000"), ("auth_version", "1.0")]
  sorted := by decide

def sharing (sentTo key channel : String) : List Action :=
  [.accept key "1.1", .trigger "b" shortParams (eventBody sentTo) moment,
    .message "1.1" (text (subscribeTo channel)) moment]

end Sample

def sentTo (state : AppState) (socketId : String) : Option (List ServerMessage) :=
  (state.connections.lookup socketId).map fun conn => conn.tx.enqueued

theorem replays_isolated_room :
    ∃ state twin frame,
      (system Sample.sharedCrates [Sample.shortApp, Sample.longApp] 60).run
          (Sample.sharing "cache-room" "b-key" "cache-room") = some state ∧
        (system Sample.sharedCrates [Sample.shortApp, Sample.longApp] 60).run
            ((Sample.sharing "cache-room" "b-key" "cache-room").filter
              (concerns Sample.sharedCrates [Sample.shortApp, Sample.longApp] 60
                Sample.shortApp.id "cache-room")) = some twin ∧
        ReplaysAs Sample.moment state (.new "1.1" Sample.shortApp) "cache-room"
          (some frame) ∧
        ReplaysAs Sample.moment twin (.new "1.1" Sample.shortApp) "cache-room"
          (some frame) ∧
        ∃ action ∈ Sample.sharing "cache-room" "b-key" "cache-room",
          Publishes Sample.sharedCrates Sample.shortApp "cache-room" frame action := by
  have ends : (((system Sample.sharedCrates [Sample.shortApp, Sample.longApp] 60).run
      (Sample.sharing "cache-room" "b-key" "cache-room")).bind fun state =>
        (replayed Sample.moment state (.new "1.1" Sample.shortApp)
          "cache-room").map fun frame => (state, frame)).isSome = true := by
    decide +kernel
  obtain ⟨both, found⟩ := Option.isSome_iff_exists.mp ends
  obtain ⟨state, reached, found⟩ := Option.bind_eq_some_iff.mp found
  obtain ⟨frame, finds, rfl⟩ := Option.map_eq_some_iff.mp found
  have configured : Sample.shortApp ∈ [Sample.shortApp, Sample.longApp] :=
    List.mem_cons_self
  have valid : isValidChannelName "cache-room" = true := by decide
  obtain ⟨twin, reachedToo, isolated⟩ := replays_isolated Sample.sharedCrates
    [Sample.shortApp, Sample.longApp] 60 (by decide) reached (by decide +kernel)
    configured valid (by decide)
  obtain ⟨cached, replays, replaysToo, published⟩ :=
    isolated (.new "1.1" Sample.shortApp) Sample.moment rfl
  have same : cached = some frame := replays.found.symm.trans finds
  rw [same] at replays replaysToo published
  exact ⟨state, twin, frame, reached, reachedToo, replays, replaysToo, published frame rfl⟩

/-- A subscriber of the long app gets the event of the short one. -/
theorem cache_shared :
    ((system Sample.sharedCrates [Sample.shortApp, Sample.longApp] 60).run
        (Sample.sharing "cache-x:cache-y" "long-key" "cache-y")).bind
          (sentTo · "1.1") =
      some [.subscriptionSucceeded "cache-y",
        .channelEvent "e" "cache-x:cache-y" (ServerMessage.text "d") none] ∧
    ((system Sample.sharedCrates [Sample.shortApp, Sample.longApp] 60).run
        ((Sample.sharing "cache-x:cache-y" "long-key" "cache-y").filter
          (concerns Sample.sharedCrates [Sample.shortApp, Sample.longApp] 60
            "b:cache-x" "cache-y"))).bind (sentTo · "1.1") =
      some [.subscriptionSucceeded "cache-y", .cacheMiss "cache-y"] ∧
    ∀ frame, ∀ action ∈ Sample.sharing "cache-x:cache-y" "long-key" "cache-y",
      ¬ Publishes Sample.sharedCrates Sample.longApp "cache-y" frame action := by
  refine ⟨by decide +kernel, by decide +kernel, ?_⟩
  intro frame action member published
  simp only [Sample.sharing, List.mem_cons, List.not_mem_nil, or_false] at member
  rcases member with rfl | rfl | rfl
  · exact published
  · exact absurd published.1 (by decide)
  · exact published

end RushSocket.Server
