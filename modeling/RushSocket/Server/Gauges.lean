import Mathlib.Tactic.Abel
import RushSocket.Adapter.Local
import RushSocket.App
import RushSocket.Metrics.Updates
import RushSocket.Transition.Contributions

namespace RushSocket.Server.Gauges

open Adapter Data Transition Metrics

/-! The gauges of a server under its connections.  A connection is a task: it is
let in, counted, sends its first frame, serves, and is taken out and counted
again.  The registry of the app and every `fetch_add` are steps of their own. -/

structure Node where
  adapter : LocalAdapter
  metrics : Metrics

/-- Where a task is between two counts. -/
inductive Stage where
  | greet
  | greeted
  | serve
  | leave
  | gone
  deriving DecidableEq

inductive Point where
  | admission
  | counting (rest : List Update) (next : Stage)
  | stage (current : Stage)
  deriving DecidableEq

inductive Outcome where
  | refused
  | served
  deriving DecidableEq

/-- What a task meets at a step: the size of a message, and what it does next. -/
inductive Event where
  | proceed (order : HashOrder)
  | received (bytes : UInt64)
  | sent (bytes : UInt64)
  | broken

/-- The task of a connection.  What its handlers do to channels and presence
reaches neither the registry nor the counters. -/
def advance (node : Node) (socketId : String) (app : App) :
    Point → Event → Option (Node × Progress Point Outcome)
  | .admission, .proceed _ =>
      let (adapter, added) :=
        node.adapter.tryAddSocket app.id ⟨socketId⟩ app.maxConnections
      some ({ node with adapter },
        if added then .running (.counting onConnect .greet) else .finished .refused)
  | .counting (update :: rest) next, .proceed _ =>
      some ({ node with metrics := update.apply app.id node.metrics },
        .running (.counting rest next))
  | .counting [] next, .proceed _ => some (node, .running (.stage next))
  | .stage .greet, .sent bytes =>
      some (node, .running (.counting (onWsMessageSent bytes) .greeted))
  | .stage .greeted, .proceed _ => some (node, .running (.stage .serve))
  | .stage .greeted, .broken => some (node, .running (.stage .leave))
  | .stage .serve, .received bytes =>
      some (node, .running (.counting (onWsMessageReceived bytes) .serve))
  | .stage .serve, .sent bytes =>
      some (node, .running (.counting (onWsMessageSent bytes) .serve))
  | .stage .serve, .broken => some (node, .running (.stage .leave))
  | .stage .leave, .proceed order =>
      some ({ node with
          adapter := (node.adapter.removeSocket order app.id socketId).1 },
        .running (.counting onDisconnect .gone))
  | .stage .gone, .proceed _ => some (node, .finished .served)
  | _, _ => none

def code : Code Node String App Point Event Outcome where
  enter _ := .admission
  advance := advance

abbrev State := Calls Node String App Point Outcome

/-- A socket id is given to one connection at a time. -/
def system : System State (CallAction String App Event) :=
  Calls.system code (fun _ _ _ => true) ⟨.new, {}⟩

/-! Where the tasks can be. -/

namespace Point

/-- What is left to count belongs to what comes next. -/
def WellFormed : Point → Prop
  | .counting rest .greet => rest <:+ onConnect
  | .counting rest .greeted => ∃ bytes, rest <:+ onWsMessageSent bytes
  | .counting rest .serve =>
      ∃ bytes, rest <:+ onWsMessageSent bytes ∨ rest <:+ onWsMessageReceived bytes
  | .counting rest .gone => rest <:+ onDisconnect
  | .counting _ .leave => False
  | _ => True

def opened : Point → Bool
  | .admission => false
  | .counting rest .greet => .openApp ∉ rest
  | _ => true

def registered : Point → Bool
  | .admission => false
  | .counting _ .gone => false
  | .stage .gone => false
  | _ => true

def settled : Point → Bool
  | .counting _ _ => false
  | _ => true

end Point

/-! What the tasks add up to. -/

/-- A quantity of the counters that every update changes by a fixed amount, and
that a message as a whole leaves as it is. -/
structure Gauge where
  value : Metrics → UInt64
  delta : App → Update → UInt64
  fresh : value {} = 0
  applied : ∀ {metrics app update}, Update.Finds metrics app.id update →
    value (update.apply app.id metrics) = value metrics + delta app update
  even : ∀ app bytes, ((onWsMessageSent bytes).map (delta app)).sum = 0 ∧
    ((onWsMessageReceived bytes).map (delta app)).sum = 0

namespace Gauge

variable (gauge : Gauge) (app : App)

def adds (updates : List Update) : UInt64 := (updates.map (gauge.delta app)).sum

/-- What a task has added when nothing is half counted. -/
def reached : Stage → UInt64
  | .gone => gauge.adds app onConnect + gauge.adds app onDisconnect
  | _ => gauge.adds app onConnect

def share : Point → UInt64
  | .admission => 0
  | .counting rest next => gauge.reached app next - gauge.adds app rest
  | .stage current => gauge.reached app current

def left (done : Finished String App Outcome) : UInt64 :=
  match done.result with
  | .refused => 0
  | .served => gauge.reached done.operation .gone

end Gauge

/-! What a step does. -/

/-- The steps that change nothing but where the task is. -/
inductive Quiet : Point → Point → Prop where
  | counted (next : Stage) : Quiet (.counting [] next) (.stage next)
  | greeting (bytes : UInt64) :
      Quiet (.stage .greet) (.counting (onWsMessageSent bytes) .greeted)
  | serving : Quiet (.stage .greeted) (.stage .serve)
  | unheard : Quiet (.stage .greeted) (.stage .leave)
  | receiving (bytes : UInt64) :
      Quiet (.stage .serve) (.counting (onWsMessageReceived bytes) .serve)
  | sending (bytes : UInt64) :
      Quiet (.stage .serve) (.counting (onWsMessageSent bytes) .serve)
  | broken : Quiet (.stage .serve) (.stage .leave)

inductive Move (node : Node) (socketId : String) (app : App) :
    Point → Node → Progress Point Outcome → Prop where
  | admitted {adapter : LocalAdapter}
      (entered : ∀ appId, adapter.ns appId =
        if appId = app.id then (node.adapter.ns app.id).addSocket ⟨socketId⟩
        else node.adapter.ns appId) :
      Move node socketId app .admission { node with adapter }
        (.running (.counting onConnect .greet))
  | refused {adapter : LocalAdapter}
      (same : ∀ appId, adapter.ns appId = node.adapter.ns appId) :
      Move node socketId app .admission { node with adapter } (.finished .refused)
  | updated (update : Update) (rest : List Update) (next : Stage) :
      Move node socketId app (.counting (update :: rest) next)
        { node with metrics := update.apply app.id node.metrics }
        (.running (.counting rest next))
  | moved {before after : Point} (quiet : Quiet before after) :
      Move node socketId app before node (.running after)
  | removed (order : HashOrder) :
      Move node socketId app (.stage .leave)
        { node with
          adapter := (node.adapter.removeSocket order app.id socketId).1 }
        (.running (.counting onDisconnect .gone))
  | finished : Move node socketId app (.stage .gone) node (.finished .served)

section

variable {node after : Node} {socketId : String} {app : App} {point : Point}
  {event : Event} {progress : Progress Point Outcome}

theorem move_admission (order : HashOrder)
    (advanced : advance node socketId app .admission (.proceed order) =
      some (after, progress)) : Move node socketId app .admission after progress := by
  have outcome := (node.adapter.ns app.id).tryAddSocket_cases ⟨socketId⟩
    app.maxConnections
  have flag : (node.adapter.tryAddSocket app.id ⟨socketId⟩ app.maxConnections).2 =
      ((node.adapter.ns app.id).tryAddSocket ⟨socketId⟩ app.maxConnections).2 := rfl
  have spaces := node.adapter.ns_tryAddSocket app.id ⟨socketId⟩ app.maxConnections
  simp only [advance, Option.some.injEq, Prod.mk.injEq] at advanced
  obtain ⟨rfl, rfl⟩ := advanced
  rcases outcome with added | refused
  · rw [flag, added]
    refine .admitted fun appId => ?_
    rw [spaces, added]
  · rw [flag, refused]
    refine .refused fun appId => ?_
    rw [spaces, refused]
    split
    · rename_i same
      rw [same]
    · rfl

theorem move_of_advance
    (advanced : advance node socketId app point event = some (after, progress)) :
    Move node socketId app point after progress := by
  unfold advance at advanced
  split at advanced
  · rename_i order
    exact move_admission order advanced
  · cases advanced
    exact .updated _ _ _
  · cases advanced
    exact .moved (.counted _)
  · cases advanced
    exact .moved (.greeting _)
  · cases advanced
    exact .moved .serving
  · cases advanced
    exact .moved .unheard
  · cases advanced
    exact .moved (.receiving _)
  · cases advanced
    exact .moved (.sending _)
  · cases advanced
    exact .moved .broken
  · cases advanced
    exact .removed _
  · cases advanced
    exact .finished
  · cases advanced

end

/-! Where the tasks are, and what the registry and the counters have of them. -/

structure Coherent (state : State) : Prop where
  wellFormed : ∀ {socketId app point},
    state.calls.lookup socketId = some (app, point) → point.WellFormed
  opened : ∀ {socketId app point},
    state.calls.lookup socketId = some (app, point) → point.opened = true →
      app.id ∈ state.shared.metrics.perApp
  seated : ∀ {appId socketId},
    socketId ∈ (state.shared.adapter.ns appId).sockets ↔
      ∃ app point, state.calls.lookup socketId = some (app, point) ∧
        app.id = appId ∧ point.registered = true
  counted : ∀ {appId}, (state.shared.adapter.ns appId).connectionCount =
    (state.shared.adapter.ns appId).sockets.size
  vacant : ∀ {appId}, (state.shared.adapter.ns appId).socketChannels = ∅

theorem Quiet.wellFormed {before after : Point} (quiet : Quiet before after) :
    after.WellFormed := by
  cases quiet with
  | counted next => trivial
  | greeting bytes => exact ⟨bytes, List.suffix_rfl⟩
  | serving => trivial
  | unheard => trivial
  | receiving bytes => exact ⟨bytes, .inr List.suffix_rfl⟩
  | sending bytes => exact ⟨bytes, .inl List.suffix_rfl⟩
  | broken => trivial

theorem Quiet.registered {before after : Point} (quiet : Quiet before after) :
    after.registered = before.registered := by
  cases quiet with
  | counted next => cases next <;> rfl
  | greeting | serving | unheard | receiving | sending | broken => rfl

theorem Quiet.opened {before after : Point} (quiet : Quiet before after)
    (opened : after.opened = true) : before.opened = true := by
  cases quiet with
  | counted next => cases next <;> rfl
  | greeting | serving | unheard | receiving | sending | broken => rfl

section

variable {node after : Node} {socketId : String} {app : App} {point next : Point}
  {progress : Progress Point Outcome}

theorem Move.wellFormed (formed : point.WellFormed)
    (move : Move node socketId app point after (.running next)) : next.WellFormed := by
  cases move with
  | admitted entered => exact List.suffix_rfl
  | updated update rest stage =>
      have tail : rest <:+ update :: rest := List.suffix_cons update rest
      cases stage with
      | greet => exact tail.trans formed
      | greeted => exact formed.imp fun _ within => tail.trans within
      | serve =>
          obtain ⟨bytes, sending | receiving⟩ := formed
          · exact ⟨bytes, .inl (tail.trans sending)⟩
          · exact ⟨bytes, .inr (tail.trans receiving)⟩
      | leave => exact formed
      | gone => exact tail.trans formed
  | moved quiet => exact quiet.wellFormed
  | removed order => exact List.suffix_rfl

theorem Move.keeps_perApp (move : Move node socketId app point after progress)
    {appId : String} (member : appId ∈ node.metrics.perApp) :
    appId ∈ after.metrics.perApp := by
  cases move with
  | updated update rest stage => exact Counter.mem_perApp_apply member
  | admitted | refused | moved | removed | finished => exact member

theorem Move.opened (move : Move node socketId app point after (.running next))
    (known : point.opened = true → app.id ∈ node.metrics.perApp)
    (opened : next.opened = true) : app.id ∈ after.metrics.perApp := by
  cases move with
  | admitted entered => cases opened
  | updated update rest stage =>
      by_cases opens : update = .openApp
      · rw [opens]
        exact Counter.mem_perApp_open
      · refine Counter.mem_perApp_apply (known ?_)
        cases stage with
        | greet => simpa [Point.opened, Ne.symm opens] using opened
        | greeted | serve | leave | gone => rfl
  | moved quiet => exact known (quiet.opened opened)
  | removed order => exact known rfl

/-- A task that is not registered yet, or not any more, is in no registry. -/
theorem Coherent.unseated {state : State} (coherent : Coherent state)
    (found : ∀ app point, state.calls.lookup socketId = some (app, point) →
      point.registered = false) (appId : String) :
    socketId ∉ (state.shared.adapter.ns appId).sockets := by
  intro member
  obtain ⟨app, point, stored, _, registered⟩ := coherent.seated.mp member
  rw [found app point stored] at registered
  cases registered

def Seat (app : App) (progress : Progress Point Outcome) (appId : String) : Prop :=
  ∃ other next, progress.call app = some (other, next) ∧ other.id = appId ∧
    next.registered = true

theorem seat_running (appId : String) :
    Seat app (.running next) appId ↔ app.id = appId ∧ next.registered = true := by
  constructor
  · rintro ⟨_, _, running, named, registered⟩
    cases running
    exact ⟨named, registered⟩
  · rintro ⟨named, registered⟩
    exact ⟨app, next, rfl, named, registered⟩

theorem seat_finished (result : Outcome) (appId : String) :
    ¬ Seat app (.finished result) appId := by
  rintro ⟨_, _, running, _⟩
  cases running

/-- What a step has to do to the registries. -/
structure Reseats (node after : Node) (socketId : String) (app : App)
    (progress : Progress Point Outcome) : Prop where
  own : ∀ appId, socketId ∈ (after.adapter.ns appId).sockets ↔ Seat app progress appId
  others : ∀ {appId other}, other ≠ socketId →
    (other ∈ (after.adapter.ns appId).sockets ↔
      other ∈ (node.adapter.ns appId).sockets)
  counted : ∀ appId, (after.adapter.ns appId).connectionCount =
    (after.adapter.ns appId).sockets.size
  vacant : ∀ appId, (after.adapter.ns appId).socketChannels = ∅

theorem Coherent.settle {state : State} (coherent : Coherent state)
    (found : state.calls.lookup socketId = some (app, point))
    (move : Move state.shared socketId app point after progress)
    (reseats : Reseats state.shared after socketId app progress) :
    Coherent (state.settle socketId app after progress) where
  wellFormed := by
    intro other theirs place stored
    rw [Calls.lookup_settle] at stored
    split at stored
    · cases progress with
      | running next =>
          cases stored
          exact move.wellFormed (coherent.wellFormed found)
      | finished result => cases stored
    · exact coherent.wellFormed stored
  opened := by
    intro other theirs place stored opened
    rw [Calls.settle_shared]
    rw [Calls.lookup_settle] at stored
    split at stored
    · cases progress with
      | running next =>
          cases stored
          exact move.opened (coherent.opened found) opened
      | finished result => cases stored
    · exact move.keeps_perApp (coherent.opened stored opened)
  seated := by
    intro appId other
    rw [Calls.settle_shared, Calls.lookup_settle]
    split
    · rename_i same
      subst same
      exact reseats.own appId
    · rename_i different
      rw [reseats.others different]
      exact coherent.seated
  counted := by
    intro appId
    rw [Calls.settle_shared]
    exact reseats.counted appId
  vacant := by
    intro appId
    rw [Calls.settle_shared]
    exact reseats.vacant appId

theorem Coherent.reseats_same {state : State} (coherent : Coherent state)
    (found : state.calls.lookup socketId = some (app, point))
    (spaces : ∀ appId, after.adapter.ns appId = state.shared.adapter.ns appId)
    (alike : ∀ appId, Seat app progress appId ↔
      app.id = appId ∧ point.registered = true) :
    Reseats state.shared after socketId app progress where
  own := by
    intro appId
    rw [spaces, coherent.seated, alike, found]
    constructor
    · rintro ⟨_, _, stored, named, registered⟩
      cases stored
      exact ⟨named, registered⟩
    · rintro ⟨named, registered⟩
      exact ⟨app, point, rfl, named, registered⟩
  others := by
    intro appId other different
    rw [spaces]
  counted := by
    intro appId
    rw [spaces]
    exact coherent.counted
  vacant := by
    intro appId
    rw [spaces]
    exact coherent.vacant

theorem Coherent.reseats_admitted {state : State} {adapter : LocalAdapter}
    (coherent : Coherent state)
    (found : state.calls.lookup socketId = some (app, .admission))
    (entered : ∀ appId, adapter.ns appId =
      if appId = app.id then (state.shared.adapter.ns app.id).addSocket ⟨socketId⟩
      else state.shared.adapter.ns appId) :
    Reseats state.shared { state.shared with adapter } socketId app
      (.running (.counting onConnect .greet)) := by
  have unseated : ∀ appId, socketId ∉ (state.shared.adapter.ns appId).sockets := by
    refine coherent.unseated fun other place stored => ?_
    rw [found] at stored
    cases stored
    rfl
  constructor
  · intro appId
    rw [seat_running]
    change socketId ∈ (adapter.ns appId).sockets ↔ _
    rw [entered]
    split
    · rename_i same
      refine iff_of_true ?_ ⟨same.symm, rfl⟩
      exact Finmap.mem_insert.mpr (.inl rfl)
    · rename_i different
      exact iff_of_false (unseated appId) fun seat => different seat.1.symm
  · intro appId other different
    change other ∈ (adapter.ns appId).sockets ↔ _
    rw [entered]
    split
    · rename_i same
      rw [same]
      exact Finmap.mem_insert.trans (or_iff_right different)
    · rfl
  · intro appId
    change (adapter.ns appId).connectionCount = (adapter.ns appId).sockets.size
    rw [entered]
    split
    · rw [Namespace.addSocket, Table.size_put (unseated app.id), coherent.counted]
    · exact coherent.counted
  · intro appId
    change (adapter.ns appId).socketChannels = ∅
    rw [entered]
    split
    · exact coherent.vacant
    · exact coherent.vacant

theorem Coherent.reseats_removed {state : State} (coherent : Coherent state)
    (found : state.calls.lookup socketId = some (app, .stage .leave))
    (order : HashOrder) :
    Reseats state.shared
      { state.shared with
        adapter := (state.shared.adapter.removeSocket order app.id socketId).1 }
      socketId app (.running (.counting onDisconnect .gone)) := by
  have seat : ∀ appId, socketId ∈ (state.shared.adapter.ns appId).sockets ↔
      app.id = appId := by
    intro appId
    rw [coherent.seated, found]
    constructor
    · rintro ⟨_, _, stored, named, _⟩
      cases stored
      exact named
    · exact fun named => ⟨app, _, rfl, named, rfl⟩
  have space : ∀ appId, (state.shared.adapter.removeSocket order app.id socketId).1.ns
      appId =
        if appId = app.id then
          { state.shared.adapter.ns app.id with
            sockets := (state.shared.adapter.ns app.id).sockets.erase socketId
            connectionCount := (state.shared.adapter.ns app.id).connectionCount - 1
            socketChannels := ∅ }
        else state.shared.adapter.ns appId := by
    intro appId
    have none_ : (state.shared.adapter.ns app.id).socketChannels.members socketId =
        ∅ := by
      rw [coherent.vacant]
      rfl
    rw [LocalAdapter.ns_removeSocket, Namespace.removeSocket_of_no_channels order _ none_,
      if_pos ((seat app.id).mpr rfl), coherent.vacant,
      Table.drop_absent (Finmap.lookup_empty socketId)]
  constructor
  · intro appId
    rw [seat_running]
    refine iff_of_false ?_ fun seat => absurd seat.2 Bool.false_ne_true
    change socketId ∉ ((state.shared.adapter.removeSocket order app.id socketId).1.ns
      appId).sockets
    rw [space]
    split
    · exact fun member => (Finmap.mem_erase.mp member).1 rfl
    · rename_i different
      exact fun member => different ((seat appId).mp member).symm
  · intro appId other different
    change other ∈ ((state.shared.adapter.removeSocket order app.id socketId).1.ns
      appId).sockets ↔ _
    rw [space]
    split
    · rename_i same
      rw [same]
      exact Finmap.mem_erase.trans (and_iff_right different)
    · rfl
  · intro appId
    change ((state.shared.adapter.removeSocket order app.id socketId).1.ns
      appId).connectionCount = ((state.shared.adapter.removeSocket order app.id
        socketId).1.ns appId).sockets.size
    rw [space]
    split
    · dsimp only
      rw [Table.size_drop ((seat app.id).mpr rfl), coherent.counted]
    · exact coherent.counted
  · intro appId
    change ((state.shared.adapter.removeSocket order app.id socketId).1.ns
      appId).socketChannels = ∅
    rw [space]
    split
    · rfl
    · exact coherent.vacant

theorem Coherent.reseats {state : State} (coherent : Coherent state)
    (found : state.calls.lookup socketId = some (app, point))
    (move : Move state.shared socketId app point after progress) :
    Reseats state.shared after socketId app progress := by
  cases move with
  | admitted entered => exact coherent.reseats_admitted found entered
  | refused same =>
      refine coherent.reseats_same found same fun appId => ?_
      exact iff_of_false (seat_finished .refused appId)
        fun seat => absurd seat.2 Bool.false_ne_true
  | updated update rest stage =>
      refine coherent.reseats_same found (fun _ => rfl) fun appId => ?_
      rw [seat_running]
      cases stage <;> rfl
  | moved quiet =>
      refine coherent.reseats_same found (fun _ => rfl) fun appId => ?_
      rw [seat_running, quiet.registered]
  | removed order => exact coherent.reseats_removed found order
  | finished =>
      refine coherent.reseats_same found (fun _ => rfl) fun appId => ?_
      exact iff_of_false (seat_finished .served appId)
        fun seat => absurd seat.2 Bool.false_ne_true

end

/-! Every step changes a gauge by what it changes the share of its task. -/

section

variable {gauge : Gauge} {state : State} {after : Node} {socketId : String} {app : App}
  {point : Point} {progress : Progress Point Outcome}

theorem adds_cons (update : Update) (rest : List Update) :
    gauge.adds app (update :: rest) = gauge.delta app update + gauge.adds app rest :=
  rfl

theorem Quiet.share {before after : Point} (quiet : Quiet before after) :
    gauge.share app after = gauge.share app before := by
  have nothing : gauge.adds app [] = 0 := rfl
  cases quiet with
  | counted next => exact (sub_zero _).symm
  | greeting bytes =>
      have even : gauge.adds app (onWsMessageSent bytes) = 0 := (gauge.even app bytes).1
      simp only [Gauge.share, even, sub_zero]
      rfl
  | serving => rfl
  | unheard => rfl
  | receiving bytes =>
      have even : gauge.adds app (onWsMessageReceived bytes) = 0 :=
        (gauge.even app bytes).2
      simp only [Gauge.share, even, sub_zero]
  | sending bytes =>
      have even : gauge.adds app (onWsMessageSent bytes) = 0 := (gauge.even app bytes).1
      simp only [Gauge.share, even, sub_zero]
  | broken => rfl

theorem opened_of_reachesApp {update : Update} {rest : List Update} {next : Stage}
    (formed : (Point.counting (update :: rest) next).WellFormed)
    (reaches : update.reachesApp = true) :
    (Point.counting (update :: rest) next).opened = true := by
  cases next with
  | greet =>
      have within : update :: rest <:+ onConnect := formed
      simp only [onConnect, List.suffix_cons_iff, List.cons.injEq, List.suffix_nil]
        at within
      rcases within with ⟨rfl, rfl⟩ | ⟨rfl, rfl⟩ | ⟨rfl, rfl⟩ | ⟨rfl, rfl⟩ |
        ⟨rfl, rfl⟩ | none_
      · cases reaches
      · cases reaches
      · cases reaches
      · rfl
      · rfl
      · cases none_
  | greeted | serve | leave | gone => rfl

theorem Coherent.share_moves (coherent : Coherent state)
    (found : state.calls.lookup socketId = some (app, point))
    (move : Move state.shared socketId app point after progress) :
    gauge.value after.metrics + gauge.share app point =
      gauge.value state.shared.metrics +
        Calls.shareOf gauge.share gauge.left socketId app progress := by
  cases move with
  | admitted entered =>
      change _ = _ + (gauge.adds app onConnect - gauge.adds app onConnect)
      rw [sub_self]
      rfl
  | refused same => rfl
  | updated update rest next =>
      have finds : update.Finds state.shared.metrics app.id := fun reaches =>
        coherent.opened found
          (opened_of_reachesApp (coherent.wellFormed found) reaches)
      change gauge.value (update.apply app.id state.shared.metrics) +
        (gauge.reached app next - gauge.adds app (update :: rest)) = _ +
          (gauge.reached app next - gauge.adds app rest)
      rw [gauge.applied finds, adds_cons]
      abel
  | moved quiet => exact congrArg (_ + ·) quiet.share.symm
  | removed order =>
      change _ + gauge.adds app onConnect = _ + (gauge.adds app onConnect +
        gauge.adds app onDisconnect - gauge.adds app onDisconnect)
      rw [add_sub_cancel_right]
  | finished => rfl

end

/-- The tasks are coherent, and every gauge is what they have added. -/
structure Tracked (state : State) : Prop where
  coherent : Coherent state
  accounted : ∀ gauge : Gauge,
    Calls.Accounted (fun node : Node => gauge.value node.metrics) gauge.share gauge.left
      state

theorem coherent_start :
    Coherent { shared := ⟨.new, {}⟩, calls := ∅, log := [] } where
  wellFormed := by
    intro socketId app point stored
    cases stored
  opened := by
    intro socketId app point stored
    cases stored
  seated := by
    intro appId socketId
    refine iff_of_false Finmap.notMem_empty ?_
    rintro ⟨app, point, stored, _⟩
    cases stored
  counted := rfl
  vacant := rfl

theorem Coherent.begin {state : State} {socketId : String} {app : App}
    (coherent : Coherent state) (absent : state.calls.lookup socketId = none) :
    Coherent { state with calls := state.calls.insert socketId (app, .admission) } where
  wellFormed := by
    intro other theirs point stored
    rw [Table.lookup_put] at stored
    split at stored
    · cases stored
      trivial
    · exact coherent.wellFormed stored
  opened := by
    intro other theirs point stored opened
    rw [Table.lookup_put] at stored
    split at stored
    · cases stored
      cases opened
    · exact coherent.opened stored opened
  seated := by
    intro appId other
    refine coherent.seated.trans ?_
    rw [Table.lookup_put]
    split
    · rename_i same
      subst same
      rw [absent]
      constructor
      · rintro ⟨_, _, stored, _⟩
        cases stored
      · rintro ⟨_, _, stored, _, registered⟩
        cases stored
        cases registered
    · rfl
  counted := coherent.counted
  vacant := coherent.vacant

theorem tracked_start : Tracked { shared := ⟨.new, {}⟩, calls := ∅, log := [] } where
  coherent := coherent_start
  accounted gauge := Calls.accounted_start gauge.fresh

theorem tracked_of_reached {actions : List (CallAction String App Event)}
    {state : State} (reached : system.run actions = some state) : Tracked state := by
  refine Calls.invariant tracked_start ?_ ?_ reached (system.meets_true _ actions)
  · intro state socketId app tracked absent _
    exact ⟨tracked.coherent.begin absent,
      fun gauge => (tracked.accounted gauge).begin absent rfl⟩
  · intro state socketId app point event after progress tracked found _ advanced
    have move := move_of_advance advanced
    exact ⟨tracked.coherent.settle found move (tracked.coherent.reseats found move),
      fun gauge => (tracked.accounted gauge).settle found
        (tracked.coherent.share_moves found move)⟩

/-! The counters of connections, over the server and for one app. -/

namespace Gauge

/-- What a counter of the server has, when messages leave it alone. -/
def total (counter : Counter)
    (plain : ∀ bytes, ((onWsMessageSent bytes).map counter.totalDelta).sum = 0 ∧
      ((onWsMessageReceived bytes).map counter.totalDelta).sum = 0) : Gauge where
  value := counter.total
  delta _ := counter.totalDelta
  fresh := counter.empty
  applied _ := Counter.total_apply
  even _ := plain

def part (counter : Counter) (appId : String)
    (plain : ∀ bytes, ((onWsMessageSent bytes).map counter.partDelta).sum = 0 ∧
      ((onWsMessageReceived bytes).map counter.partDelta).sum = 0) : Gauge where
  value := counter.inPart appId
  delta app update := if appId = app.id then counter.partDelta update else 0
  fresh := rfl
  applied := Counter.inPart_apply
  even app bytes := by
    by_cases same : appId = app.id
    · simpa [same] using plain bytes
    · simp [same]

def connected : Gauge := .total .connected (by
  simp [onWsMessageSent, onWsMessageReceived, Counter.connected])

def connectedApp (appId : String) : Gauge := .part .connected appId (by
  simp [onWsMessageSent, onWsMessageReceived, Counter.connected])

/-- By how much a counter of the server exceeds those of the apps together. -/
def gap (counter : Counter) : Gauge where
  value metrics := counter.total metrics - counter.parts metrics
  delta _ update := counter.totalDelta update - counter.partDelta update
  fresh := by
    rw [counter.empty]
    exact sub_self (0 : UInt64)
  applied finds := by
    rw [Counter.total_apply, Counter.parts_apply finds]
    abel
  even _ := counter.even

/-- The connections that are open and that are over against all there have been. -/
def balance : Gauge where
  value metrics := metrics.connected.toUInt64 + metrics.totalDisconnections -
    metrics.totalConnections
  delta _ update := Counter.connected.totalDelta update +
    Counter.disconnections.totalDelta update - Counter.connections.totalDelta update
  fresh := rfl
  applied {metrics app update} _ := by
    have open_ : (update.apply app.id metrics).connected.toUInt64 = _ :=
      @Counter.total_apply .connected metrics update app.id
    have ended : (update.apply app.id metrics).totalDisconnections = _ :=
      @Counter.total_apply .disconnections metrics update app.id
    have all : (update.apply app.id metrics).totalConnections = _ :=
      @Counter.total_apply .connections metrics update app.id
    rw [open_, ended, all]
    simp only [Counter.connected, Counter.disconnections, Counter.connections]
    abel
  even app bytes := by
    simp [onWsMessageSent, onWsMessageReceived, Counter.connected,
      Counter.disconnections, Counter.connections]

end Gauge

/-! How far a gauge of connections is behind the registry. -/

namespace Point

def rest : Point → List Update
  | .counting rest _ => rest
  | _ => []

end Point

def pending (matched : App → Bool) (update : Update) (state : State) : Nat :=
  state.calls.count fun call => matched call.1 && update ∈ call.2.rest

def seats (matched : App → Bool) (state : State) : Nat :=
  state.calls.count fun call => matched call.1 && call.2.registered

/-- One update puts the gauge up by one as a connection is counted, another puts
it down again. -/
structure Swing (delta : Update → UInt64) (up down : Update) : Prop where
  rises : ∀ rest, rest <:+ onConnect →
    (rest.map delta).sum = (if up ∈ rest then 1 else 0) ∧ down ∉ rest
  falls : ∀ rest, rest <:+ onDisconnect →
    (rest.map delta).sum = -(if down ∈ rest then 1 else 0) ∧ up ∉ rest
  sends : ∀ bytes rest, rest <:+ onWsMessageSent bytes →
    (rest.map delta).sum = 0 ∧ up ∉ rest ∧ down ∉ rest
  receives : ∀ bytes rest, rest <:+ onWsMessageReceived bytes →
    (rest.map delta).sum = 0 ∧ up ∉ rest ∧ down ∉ rest
  counted : (onConnect.map delta).sum = 1 ∧ (onDisconnect.map delta).sum = -1

theorem swing_connected : Swing Counter.connected.totalDelta .connect .disconnect where
  rises rest within := by
    simp only [onConnect, List.suffix_cons_iff, List.suffix_nil] at within
    rcases within with rfl | rfl | rfl | rfl | rfl | rfl <;> decide
  falls rest within := by
    simp only [onDisconnect, List.suffix_cons_iff, List.suffix_nil] at within
    rcases within with rfl | rfl | rfl | rfl | rfl <;> decide
  sends bytes rest within := by
    simp only [onWsMessageSent, List.suffix_cons_iff, List.suffix_nil] at within
    rcases within with rfl | rfl | rfl | rfl <;> simp [Counter.connected]
  receives bytes rest within := by
    simp only [onWsMessageReceived, List.suffix_cons_iff, List.suffix_nil] at within
    rcases within with rfl | rfl | rfl | rfl <;> simp [Counter.connected]
  counted := by decide

theorem swing_connectedApp :
    Swing Counter.connected.partDelta .connectApp .disconnectApp where
  rises rest within := by
    simp only [onConnect, List.suffix_cons_iff, List.suffix_nil] at within
    rcases within with rfl | rfl | rfl | rfl | rfl | rfl <;> decide
  falls rest within := by
    simp only [onDisconnect, List.suffix_cons_iff, List.suffix_nil] at within
    rcases within with rfl | rfl | rfl | rfl | rfl <;> decide
  sends bytes rest within := by
    simp only [onWsMessageSent, List.suffix_cons_iff, List.suffix_nil] at within
    rcases within with rfl | rfl | rfl | rfl <;> simp [Counter.connected]
  receives bytes rest within := by
    simp only [onWsMessageReceived, List.suffix_cons_iff, List.suffix_nil] at within
    rcases within with rfl | rfl | rfl | rfl <;> simp [Counter.connected]
  counted := by decide

section

variable {gauge : Gauge} {matched : App → Bool} {delta : Update → UInt64}
  {up down : Update} {app : App} {point : Point} {state : State}

theorem adds_matched
    (reads : ∀ app update, gauge.delta app update =
      if matched app then delta update else 0) (updates : List Update) :
    gauge.adds app updates = if matched app then (updates.map delta).sum else 0 := by
  have pointwise : gauge.delta app = fun update =>
      if matched app then delta update else 0 := funext (reads app)
  rw [Gauge.adds, pointwise]
  split
  · rfl
  · simp

def bit (holds : Bool) : UInt64 := if holds then 1 else 0

/-- A task that is registered and not counted is yet to count up; one that is
counted and not registered is yet to count down. -/
theorem Swing.share (swing : Swing delta up down)
    (reads : ∀ app update, gauge.delta app update =
      if matched app then delta update else 0) (formed : point.WellFormed) :
    gauge.share app point + bit (matched app && up ∈ point.rest) =
      bit (matched app && point.registered) + bit (matched app && down ∈ point.rest) := by
  have adds := fun updates => @adds_matched gauge matched delta app reads updates
  cases mine : matched app with
  | false =>
      have nothing : gauge.share app point = 0 := by
        simp only [mine, Bool.false_eq_true, if_false] at adds
        cases point with
        | admission => rfl
        | counting rest next =>
            rw [Gauge.share, adds]
            cases next <;> simp [Gauge.reached, adds]
        | stage current =>
            rw [Gauge.share]
            cases current <;> simp [Gauge.reached, adds]
      rw [nothing]
      rfl
  | true =>
      simp only [mine, if_true] at adds
      obtain ⟨one, minus⟩ := swing.counted
      cases point with
      | admission => rfl
      | stage current =>
          rw [Gauge.share]
          cases current <;> simp [Gauge.reached, adds, one, minus, bit, Point.registered,
            Point.rest]
      | counting rest next =>
          rw [Gauge.share, adds]
          cases next with
          | greet =>
              obtain ⟨sum, absent⟩ := swing.rises rest formed
              by_cases waits : up ∈ rest
              · simp [Gauge.reached, adds, one, bit, Point.registered, Point.rest, sum,
                  absent, waits]
              · simp [Gauge.reached, adds, one, bit, Point.registered, Point.rest, sum,
                  absent, waits]
          | greeted =>
              obtain ⟨bytes, within⟩ := formed
              obtain ⟨sum, absent, absentToo⟩ := swing.sends bytes rest within
              simp [Gauge.reached, adds, one, bit, Point.registered, Point.rest, sum,
                absent, absentToo]
          | serve =>
              obtain ⟨bytes, sending | receiving⟩ := formed
              · obtain ⟨sum, absent, absentToo⟩ := swing.sends bytes rest sending
                simp [Gauge.reached, adds, one, bit, Point.registered, Point.rest, sum,
                  absent, absentToo]
              · obtain ⟨sum, absent, absentToo⟩ := swing.receives bytes rest receiving
                simp [Gauge.reached, adds, one, bit, Point.registered, Point.rest, sum,
                  absent, absentToo]
          | leave => exact formed.elim
          | gone =>
              obtain ⟨sum, absent⟩ := swing.falls rest formed
              by_cases waits : down ∈ rest
              · simp [Gauge.reached, adds, one, minus, bit, Point.registered, Point.rest,
                  sum, absent, waits]
              · simp [Gauge.reached, adds, one, minus, bit, Point.registered, Point.rest,
                  sum, absent, waits]

theorem sum_bit (holds : App × Point → Bool) :
    (state.calls.sum fun call => bit (holds call)) =
      UInt64.ofNat (state.calls.count holds) := by
  have ones : ∀ number : Nat, number • (1 : UInt64) = UInt64.ofNat number := by
    intro number
    induction number with
    | zero => rfl
    | succ number induction =>
        rw [succ_nsmul, induction]
        exact (UInt64.ofNat_add number 1).symm
  exact (Table.sum_ite_eq_count state.calls holds 1).trans (ones _)

/-- The gauge is what the registry has, but for the tasks in the middle of their
counts. -/
theorem Tracked.behind (tracked : Tracked state) (swing : Swing delta up down)
    (reads : ∀ app update, gauge.delta app update =
      if matched app then delta update else 0) :
    gauge.value state.shared.metrics + .ofNat (pending matched up state) =
      .ofNat (seats matched state) + .ofNat (pending matched down state) := by
  have finished : (state.log.map gauge.left).sum = 0 := by
    have nothing : ∀ done : Finished String App Outcome, gauge.left done = 0 := by
      intro done
      have adds := @adds_matched gauge matched delta done.operation reads
      rw [Gauge.left]
      cases done.result with
      | refused => rfl
      | served =>
          simp only [Gauge.reached, adds, swing.counted]
          split <;> rfl
    rw [List.sum_eq_zero]
    simpa using fun done _ => nothing done
  have value : gauge.value state.shared.metrics =
      state.calls.sum fun call => gauge.share call.1 call.2 := by
    have accounted := tracked.accounted gauge
    rw [Calls.Accounted, Calls.contributed, finished, add_zero] at accounted
    exact accounted
  rw [value, pending, seats, pending, ← sum_bit, ← sum_bit, ← sum_bit,
    ← Table.sum_add, ← Table.sum_add]
  refine Table.sum_congr fun socketId call stored => ?_
  exact swing.share reads (tracked.coherent.wellFormed stored)

end

/-! The registry in numbers. -/

def owner (state : State) (socketId : String) : String :=
  ((state.calls.lookup socketId).map fun call => call.1.id).getD ""

section

variable {state : State} {socketId : String}

theorem mem_seats {matched : App → Bool} :
    socketId ∈ (state.calls.keys.filter fun socketId =>
        (state.calls.lookup socketId).any fun call =>
          matched call.1 && call.2.registered) ↔
      ∃ app point, state.calls.lookup socketId = some (app, point) ∧
        matched app = true ∧ point.registered = true := by
  rw [Table.mem_counted]
  cases state.calls.lookup socketId with
  | none => simp
  | some call =>
      obtain ⟨app, point⟩ := call
      rw [Option.any_some, Bool.and_eq_true]
      constructor
      · exact fun both => ⟨app, point, rfl, both⟩
      · rintro ⟨_, _, stored, both⟩
        cases stored
        exact both

theorem Coherent.seats_app (coherent : Coherent state) (appId : String) :
    seats (fun app => appId = app.id) state =
      state.shared.adapter.getConnectionCount appId := by
  have same : (state.shared.adapter.ns appId).sockets.keys =
      state.calls.keys.filter fun socketId =>
        (state.calls.lookup socketId).any fun call =>
          decide (appId = call.1.id) && call.2.registered := by
    ext socketId
    rw [Finmap.mem_keys, coherent.seated,
      @mem_seats state socketId fun app => decide (appId = app.id)]
    refine exists_congr fun app => exists_congr fun point => ?_
    rw [decide_eq_true_iff, @eq_comm _ appId]
  rw [LocalAdapter.getConnectionCount_eq, coherent.counted, Table.size, same]
  rfl

/-- Every registered socket is one of the sockets of its app. -/
theorem Coherent.owner_known (coherent : Coherent state)
    (member : socketId ∈ (state.calls.keys.filter fun socketId =>
      (state.calls.lookup socketId).any fun call => true && call.2.registered)) :
    owner state socketId ∈ state.shared.adapter.namespaces.keys := by
  obtain ⟨app, point, stored, _, registered⟩ :=
    (@mem_seats state socketId fun _ => true).mp member
  have seated := coherent.seated.mpr ⟨app, point, stored, rfl, registered⟩
  rw [owner, stored]
  change app.id ∈ _
  rw [LocalAdapter.ns] at seated
  rw [Table.mem_keys_iff]
  cases found : state.shared.adapter.namespaces.lookup app.id with
  | none =>
      rw [found] at seated
      exact absurd seated Finmap.notMem_empty
  | some ns => exact ⟨ns, rfl⟩

theorem Coherent.seats_all (coherent : Coherent state) :
    seats (fun _ => true) state =
      ∑ appId ∈ state.shared.adapter.namespaces.keys,
        state.shared.adapter.getConnectionCount appId := by
  refine (Finset.card_eq_sum_card_fiberwise fun socketId member =>
    coherent.owner_known member).trans (Finset.sum_congr rfl fun appId _ => ?_)
  rw [← coherent.seats_app appId]
  refine congrArg Finset.card ?_
  ext socketId
  rw [Finset.mem_filter, @mem_seats state socketId fun _ => true,
    @mem_seats state socketId fun app => decide (appId = app.id)]
  constructor
  · rintro ⟨⟨app, point, stored, _, registered⟩, owned⟩
    rw [owner, stored] at owned
    exact ⟨app, point, stored, decide_eq_true owned.symm, registered⟩
  · rintro ⟨app, point, stored, named, registered⟩
    refine ⟨⟨app, point, stored, rfl, registered⟩, ?_⟩
    rw [owner, stored]
    exact (of_decide_eq_true named).symm

end

/-! The results. -/

theorem toUInt64_injective : Function.Injective Int64.toUInt64 := by
  intro first second same
  rw [← first.toInt64_toUInt64, same, second.toInt64_toUInt64]

section

variable {state : State} {actions : List (CallAction String App Event)}

def sockets (state : State) : Nat :=
  ∑ appId ∈ state.shared.adapter.namespaces.keys,
    state.shared.adapter.getConnectionCount appId

theorem Tracked.connected_behind (tracked : Tracked state) :
    state.shared.metrics.connected + .ofNat (pending (fun _ => true) .connect state) =
      .ofNat (sockets state) + .ofNat (pending (fun _ => true) .disconnect state) := by
  have behind := @Tracked.behind .connected (fun _ => true) _ _ _ state tracked
    swing_connected fun app update => rfl
  rw [tracked.coherent.seats_all] at behind
  refine toUInt64_injective ?_
  simp only [Int64.toUInt64_add, Int64.toUInt64_ofNat']
  exact behind

theorem Tracked.connectedApp_behind (tracked : Tracked state) (appId : String) :
    state.shared.metrics.getConnectedForApp appId +
        .ofNat (pending (fun app => appId = app.id) .connectApp state) =
      .ofNat (state.shared.adapter.getConnectionCount appId) +
        .ofNat (pending (fun app => appId = app.id) .disconnectApp state) := by
  have behind := @Tracked.behind (.connectedApp appId) (fun app => appId = app.id) _ _ _
    state tracked swing_connectedApp fun app update => by
      simp only [Gauge.connectedApp, Gauge.part, decide_eq_true_eq]
  rw [tracked.coherent.seats_app] at behind
  have read : (state.shared.metrics.getConnectedForApp appId).toUInt64 =
      Counter.connected.inPart appId state.shared.metrics := by
    rw [getConnectedForApp, Counter.inPart]
    cases state.shared.metrics.perApp.lookup appId <;> rfl
  refine toUInt64_injective ?_
  simp only [Int64.toUInt64_add, Int64.toUInt64_ofNat', read]
  exact behind

/-- At every moment the gauges of connections, that of the server and that of
each app, are the sockets in the registry but for the tasks that are between the
registry and their `fetch_add`. -/
theorem gauges_track (reached : system.run actions = some state) :
    state.shared.metrics.connected + .ofNat (pending (fun _ => true) .connect state) =
        .ofNat (sockets state) + .ofNat (pending (fun _ => true) .disconnect state) ∧
      ∀ appId, state.shared.metrics.getConnectedForApp appId +
          .ofNat (pending (fun app => appId = app.id) .connectApp state) =
        .ofNat (state.shared.adapter.getConnectionCount appId) +
          .ofNat (pending (fun app => appId = app.id) .disconnectApp state) :=
  have tracked := tracked_of_reached reached
  ⟨tracked.connected_behind, tracked.connectedApp_behind⟩

/-- No task is in the middle of a count. -/
def Settled (state : State) : Prop :=
  ∀ socketId app point, state.calls.lookup socketId = some (app, point) →
    point.settled = true

theorem Settled.pending (settled : Settled state) (matched : App → Bool)
    (update : Update) : pending matched update state = 0 := by
  rw [Gauges.pending, Table.count, Finset.card_eq_zero, Finset.eq_empty_iff_forall_notMem]
  intro socketId member
  rw [Table.mem_counted] at member
  cases stored : state.calls.lookup socketId with
  | none => simp [stored] at member
  | some call =>
      obtain ⟨app, point⟩ := call
      have idle := settled socketId app point stored
      cases point with
      | counting rest next => cases idle
      | admission | stage => simp [stored, Point.rest] at member

/-- A gauge that a connection as a whole leaves as it is reads zero then. -/
theorem Tracked.even {gauge : Gauge} (tracked : Tracked state) (settled : Settled state)
    (balanced : ∀ app, gauge.adds app onConnect = 0 ∧ gauge.adds app onDisconnect = 0) :
    gauge.value state.shared.metrics = 0 := by
  have reached : ∀ app stage, gauge.reached app stage = 0 := by
    intro app stage
    cases stage <;> simp [Gauge.reached, balanced app]
  have finished : (state.log.map gauge.left).sum = 0 := by
    apply List.sum_eq_zero
    intro added member
    obtain ⟨done, _, rfl⟩ := List.mem_map.mp member
    rw [Gauge.left]
    cases done.result with
    | refused => rfl
    | served => exact reached _ _
  have running : (state.calls.sum fun call => gauge.share call.1 call.2) =
      state.calls.sum fun _ => (0 : UInt64) := by
    refine Table.sum_congr fun socketId call stored => ?_
    obtain ⟨app, point⟩ := call
    have idle := settled socketId app point stored
    cases point with
    | admission => rfl
    | counting rest next => cases idle
    | stage current => exact reached app current
  have accounted := tracked.accounted gauge
  rw [Calls.Accounted, Calls.contributed, finished, running, add_zero] at accounted
  refine accounted.trans (Finset.sum_eq_zero fun socketId _ => ?_)
  cases state.calls.lookup socketId <;> rfl

theorem balance_adds (app : App) :
    Gauge.balance.adds app onConnect = 0 ∧ Gauge.balance.adds app onDisconnect = 0 := by
  simp [Gauge.adds, Gauge.balance, onConnect, onDisconnect, Counter.connected,
    Counter.disconnections, Counter.connections]

theorem Tracked.parts_eq_total (tracked : Tracked state) (settled : Settled state)
    (counter : Counter) :
    counter.total state.shared.metrics = counter.parts state.shared.metrics :=
  sub_eq_zero.mp (@Tracked.even state (.gap counter) tracked settled
    fun _ => counter.balanced)

/-- When no task is in the middle of a count, the gauges are the sockets in the
registry, the connections opened are those open and those over, and each counter
of the server is the sum of the same counter over the apps. -/
theorem counters_add_up (reached : system.run actions = some state)
    (settled : Settled state) :
    let metrics := state.shared.metrics
    metrics.connected = .ofNat (sockets state) ∧
      (∀ appId, metrics.getConnectedForApp appId =
        .ofNat (state.shared.adapter.getConnectionCount appId)) ∧
      metrics.connected.toUInt64 + metrics.totalDisconnections =
        metrics.totalConnections ∧
      metrics.connected.toUInt64 =
        metrics.perApp.sum (fun app => app.connected.toUInt64) ∧
      metrics.totalConnections = metrics.perApp.sum AppMetrics.totalConnections ∧
      metrics.totalDisconnections = metrics.perApp.sum AppMetrics.totalDisconnections ∧
      metrics.wsMessagesReceived = metrics.perApp.sum AppMetrics.wsMessagesReceived ∧
      metrics.wsMessagesSent = metrics.perApp.sum AppMetrics.wsMessagesSent := by
  have tracked := tracked_of_reached reached
  have server := tracked.connected_behind
  have apps := tracked.connectedApp_behind
  have zero : Int64.ofNat 0 = 0 := rfl
  simp only [settled.pending, zero, Int64.add_zero] at server apps
  refine ⟨server, apps, ?_, tracked.parts_eq_total settled .connected,
    tracked.parts_eq_total settled .connections,
    tracked.parts_eq_total settled .disconnections,
    tracked.parts_eq_total settled .received, tracked.parts_eq_total settled .sent⟩
  exact sub_eq_zero.mp (@Tracked.even state .balance tracked settled balance_adds)

/-! A connection that is let in and counted, and a second one before its count. -/

def sampleApp : App :=
  { App.sample with clientEventMode := "all", maxConnections := 5 }

def proceeding (socketId : String) (steps : Nat) :
    List (CallAction String App Event) :=
  .replicate steps (.advance socketId (.proceed .ascending))

def counting : List (CallAction String App Event) :=
  .begin "1.1" sampleApp :: proceeding "1.1" 7

def entering : List (CallAction String App Event) :=
  counting ++ .begin "2.2" sampleApp :: proceeding "2.2" 1

theorem gauges_track_entering :
    ∃ state, system.run entering = some state ∧
      state.shared.metrics.connected = 1 ∧ sockets state = 2 ∧
      state.shared.metrics.connected +
          .ofNat (pending (fun _ => true) .connect state) =
        .ofNat (sockets state) +
          .ofNat (pending (fun _ => true) .disconnect state) := by
  have ends : ((system.run entering).filter fun state =>
      state.shared.metrics.connected = 1 ∧ sockets state = 2).isSome = true := by
    decide +kernel
  obtain ⟨state, found⟩ := Option.isSome_iff_exists.mp ends
  obtain ⟨reached, holds⟩ := Option.filter_eq_some_iff.mp found
  obtain ⟨one, two⟩ := of_decide_eq_true holds
  exact ⟨state, reached, one, two, (gauges_track reached).1⟩

theorem counters_add_up_counting :
    ∃ state, system.run counting = some state ∧ sockets state = 1 ∧
      state.shared.metrics.connected = .ofNat (sockets state) := by
  have ends : ((system.run counting).filter fun state =>
      sockets state = 1 ∧
        state.calls.lookup "1.1" = some (sampleApp, .stage .greet) ∧
        state.calls.keys = {"1.1"}).isSome = true := by
    decide +kernel
  obtain ⟨state, found⟩ := Option.isSome_iff_exists.mp ends
  obtain ⟨reached, holds⟩ := Option.filter_eq_some_iff.mp found
  obtain ⟨one, greeting, alone⟩ := of_decide_eq_true holds
  have settled : Settled state := by
    intro socketId app point stored
    have member : socketId ∈ state.calls.keys :=
      Table.mem_keys_iff.mpr ⟨(app, point), stored⟩
    rw [alone, Finset.mem_singleton] at member
    rw [member, greeting] at stored
    cases stored
    rfl
  exact ⟨state, reached, one, (counters_add_up reached settled).1⟩

end

end RushSocket.Server.Gauges
