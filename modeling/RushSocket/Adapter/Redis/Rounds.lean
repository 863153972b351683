import RushSocket.Adapter.Redis.Heartbeats
import Mathlib.Data.Set.Basic

namespace RushSocket.Adapter.Redis.Heartbeats

open Data Stats Transition

/-! What a round of the heartbeat records. -/

/-- At some moment of the period the local adapter of the node was so. -/
def Was (past : Set State) (nodeId : String) (since last : Nat)
    (holds : LocalAdapter → Prop) : Prop :=
  ∃ state ∈ past, since ≤ state.shared.now ∧ state.shared.now ≤ last ∧
    ∃ node, state.shared.nodes.lookup nodeId = some node ∧ holds node.locals

structure AppRecorded (past : Set State) (nodeId : String) (since last : Nat)
    (appId : String) (app : Value) : Prop where
  connections : Was past nodeId since last fun locals =>
    locals.getConnectionCount appId = ((app.index "connections").asU64).getD 0
  sockets : ∀ channel, Was past nodeId since last fun locals =>
    locals.getChannelSocketCount appId channel =
      (((app.index "channels").get? channel).bind Value.asU64).getD 0
  channels : ∀ channel, Was past nodeId since last fun locals =>
    channel ∈ (locals.ns appId).channels.keys ↔ channel ∈ (app.index "channels").keys

structure Recorded (past : Set State) (nodeId : String) (since last : Nat)
    (stats : Value) : Prop where
  connections : ∀ appId, Was past nodeId since last fun locals =>
    locals.getConnectionCount appId = (reportedConnections appId stats).getD 0
  sockets : ∀ appId channel, Was past nodeId since last fun locals =>
    locals.getChannelSocketCount appId channel =
      (reportedSockets appId channel stats).getD 0
  channels : ∀ appId channel, Was past nodeId since last fun locals =>
    channel ∈ (locals.ns appId).channels.keys ↔ channel ∈ reportedChannels appId stats

/-- A value that is read back from its text, and how deep it is. -/
def Plain (bound : Nat) (value : Value) : Prop :=
  (∀ readFloat, value.json.reread readFloat = some value.json) ∧
    value.json.depth ≤ bound

section

variable {past later : Set State} {nodeId : String} {since last until_ : Nat}
  {holds other : LocalAdapter → Prop}

theorem Was.mono (was : Was past nodeId since last holds) (grown : past ⊆ later)
    (longer : last ≤ until_) (weaker : ∀ locals, holds locals → other locals) :
    Was later nodeId since until_ other := by
  obtain ⟨state, member, after, before, node, found, held⟩ := was
  exact ⟨state, grown member, after, before.trans longer, node, found,
    weaker _ held⟩

theorem Was.extend (was : Was past nodeId since last holds) (grown : past ⊆ later)
    (longer : last ≤ until_) : Was later nodeId since until_ holds :=
  was.mono grown longer fun _ held => held

theorem Was.imp (was : Was past nodeId since last holds)
    (weaker : ∀ locals, holds locals → other locals) :
    Was past nodeId since last other :=
  was.mono subset_rfl (Nat.le_refl last) weaker

theorem Was.now {state : State} {node : Node} (present : state ∈ past)
    (begun : since ≤ state.shared.now)
    (found : state.shared.nodes.lookup nodeId = some node) (held : holds node.locals) :
    Was past nodeId since state.shared.now holds :=
  ⟨state, present, begun, Nat.le_refl _, node, found, held⟩

theorem AppRecorded.extend {appId : String} {app : Value}
    (recorded : AppRecorded past nodeId since last appId app) (grown : past ⊆ later)
    (longer : last ≤ until_) : AppRecorded later nodeId since until_ appId app where
  connections := recorded.connections.extend grown longer
  sockets channel := (recorded.sockets channel).extend grown longer
  channels channel := (recorded.channels channel).extend grown longer

theorem Recorded.extend {stats : Value}
    (recorded : Recorded past nodeId since last stats) (grown : past ⊆ later)
    (longer : last ≤ until_) : Recorded later nodeId since until_ stats where
  connections appId := (recorded.connections appId).extend grown longer
  sockets appId channel := (recorded.sockets appId channel).extend grown longer
  channels appId channel := (recorded.channels appId channel).extend grown longer

end

/-! A round. -/

section

variable {connections : Value} {counts : List (String × Value)}

theorem nodup_appStats :
    ([("connections", connections), ("channels", Value.object counts)].map
      Prod.fst).Nodup := by
  simp

@[simp] theorem index_appStats_connections :
    (appStats connections counts).index "connections" = connections := by
  rw [Value.index, appStats, (Value.get?_object_eq_some_iff nodup_appStats).mpr
    List.mem_cons_self]
  rfl

@[simp] theorem index_appStats_channels :
    (appStats connections counts).index "channels" = .object counts := by
  rw [Value.index, appStats, (Value.get?_object_eq_some_iff nodup_appStats).mpr
    (List.mem_cons_of_mem _ List.mem_cons_self)]
  rfl

end

theorem Plain.object {fields : List (String × Value)} {bound : Nat}
    (nodup : (fields.map Prod.fst).Nodup)
    (plain : ∀ field ∈ fields, Plain bound field.2) :
    Plain (bound + 1) (.object fields) := by
  constructor
  · intro readFloat
    apply Value.reread_object nodup
    intro field member
    exact (plain field member).1 readFloat
  · apply Value.depth_object nodup
    intro field member
    exact (plain field member).2

theorem Plain.number (count : Number) (natural : ∃ bits fits, count = .natural bits fits) :
    Plain 0 (.number count) := by
  obtain ⟨bits, fits, rfl⟩ := natural
  exact ⟨fun _ => rfl, Nat.le_refl 0⟩

theorem Plain.weaken {value : Value} {bound larger : Nat} (plain : Plain bound value)
    (le : bound ≤ larger) : Plain larger value :=
  ⟨plain.1, plain.2.trans le⟩

/-- The apps that a round has done and those that are left. -/
structure Gathering (past : Set State) (nodeId : String) (started now : Nat)
    (apps : List (String × Value)) (left : List String) : Prop where
  begun : started ≤ now
  nodup : (apps.map Prod.fst ++ left).Nodup
  listed : Was past nodeId started now fun locals =>
    ∀ appId, appId ∈ locals.namespaces ↔ appId ∈ apps.map Prod.fst ++ left
  recorded : ∀ app ∈ apps, AppRecorded past nodeId started now app.1 app.2
  plain : ∀ app ∈ apps, Plain 2 app.2

structure Counting (past : Set State) (nodeId : String) (started now : Nat)
    (appId : String) (counts : List (String × Value)) (left : List String) : Prop where
  nodup : (counts.map Prod.fst ++ left).Nodup
  listed : Was past nodeId started now fun locals =>
    ∀ channel, channel ∈ (locals.ns appId).channels.keys ↔
      channel ∈ counts.map Prod.fst ++ left
  recorded : ∀ count ∈ counts, Was past nodeId started now fun locals =>
    locals.getChannelSocketCount appId count.1 = (count.2.asU64).getD 0
  plain : ∀ count ∈ counts, Plain 0 count.2

structure Connected (past : Set State) (nodeId : String) (started now : Nat)
    (appId : String) (connections : Value) : Prop where
  recorded : Was past nodeId started now fun locals =>
    locals.getConnectionCount appId = (connections.asU64).getD 0
  plain : Plain 0 connections

section

variable {past later : Set State} {nodeId appId : String} {started now until_ : Nat}
  {apps counts : List (String × Value)} {left : List String} {connections : Value}

theorem Gathering.extend (gathering : Gathering past nodeId started now apps left)
    (grown : past ⊆ later) (longer : now ≤ until_) :
    Gathering later nodeId started until_ apps left where
  begun := gathering.begun.trans longer
  nodup := gathering.nodup
  listed := gathering.listed.extend grown longer
  recorded app member := (gathering.recorded app member).extend grown longer
  plain := gathering.plain

theorem Counting.extend (counting : Counting past nodeId started now appId counts left)
    (grown : past ⊆ later) (longer : now ≤ until_) :
    Counting later nodeId started until_ appId counts left where
  nodup := counting.nodup
  listed := counting.listed.extend grown longer
  recorded count member := (counting.recorded count member).extend grown longer
  plain := counting.plain

theorem Connected.extend (connected : Connected past nodeId started now appId connections)
    (grown : past ⊆ later) (longer : now ≤ until_) :
    Connected later nodeId started until_ appId connections where
  recorded := connected.recorded.extend grown longer
  plain := connected.plain

theorem Counting.appRecorded
    (counting : Counting past nodeId started now appId counts [])
    (connected : Connected past nodeId started now appId connections) :
    AppRecorded past nodeId started now appId (appStats connections counts) where
  connections := by
    rw [index_appStats_connections]
    exact connected.recorded
  sockets := by
    intro channel
    have nodup : (counts.map Prod.fst).Nodup := by
      simpa using counting.nodup
    rw [index_appStats_channels]
    cases found : (Value.object counts).get? channel with
    | some count =>
        exact counting.recorded _ ((Value.get?_object_eq_some_iff nodup).mp found)
    | none =>
        have absent : channel ∉ counts.map Prod.fst := by
          intro member
          obtain ⟨count, listed, rfl⟩ := List.mem_map.mp member
          have stored := (Value.get?_object_eq_some_iff nodup).mpr listed
          rw [found] at stored
          cases stored
        apply counting.listed.imp
        intro locals listed
        have unlisted : channel ∉ locals.getChannels .ascending appId := by
          rw [mem_getChannels, listed, List.append_nil]
          exact absent
        rw [getChannelSocketCount_of_unlisted unlisted]
        rfl
  channels := by
    intro channel
    have nodup : (counts.map Prod.fst).Nodup := by
      simpa using counting.nodup
    rw [index_appStats_channels]
    apply counting.listed.imp
    intro locals listed
    rw [listed, Value.mem_keys_object nodup, List.append_nil]

theorem Counting.plain_appStats
    (counting : Counting past nodeId started now appId counts [])
    (connected : Connected past nodeId started now appId connections) :
    Plain 2 (appStats connections counts) := by
  apply Plain.object nodup_appStats
  intro field member
  simp only [List.mem_cons, List.not_mem_nil, or_false] at member
  rcases member with rfl | rfl
  · exact connected.plain.weaken (by omega)
  · exact Plain.object (by simpa using counting.nodup) counting.plain

theorem Gathering.stats (gathering : Gathering past nodeId started now apps []) :
    Recorded past nodeId started now (.object apps) ∧ Plain 3 (.object apps) := by
  have nodup : (apps.map Prod.fst).Nodup := by
    simpa using gathering.nodup
  have done : ∀ appId, (∃ app, (Value.object apps).get? appId = some app ∧
        AppRecorded past nodeId started now appId app) ∨
      (Value.object apps).get? appId = none ∧
        Was past nodeId started now fun locals => appId ∉ locals.namespaces := by
    intro appId
    cases found : (Value.object apps).get? appId with
    | some app =>
        have member := (Value.get?_object_eq_some_iff nodup).mp found
        exact .inl ⟨app, rfl, gathering.recorded _ member⟩
    | none =>
        refine .inr ⟨rfl, gathering.listed.imp ?_⟩
        intro locals listed member
        rw [listed, List.append_nil] at member
        obtain ⟨app, listed, rfl⟩ := List.mem_map.mp member
        have stored := (Value.get?_object_eq_some_iff nodup).mpr listed
        rw [found] at stored
        cases stored
  refine ⟨⟨?_, ?_, ?_⟩, Plain.object nodup gathering.plain⟩
  · intro appId
    rcases done appId with ⟨app, found, recorded⟩ | ⟨missing, absent⟩
    · rw [reportedConnections, found]
      exact recorded.connections
    · rw [reportedConnections, missing]
      apply absent.imp
      intro locals absent
      rw [LocalAdapter.getConnectionCount, Finmap.lookup_eq_none.mpr absent]
      rfl
  · intro appId channel
    rcases done appId with ⟨app, found, recorded⟩ | ⟨missing, absent⟩
    · rw [reportedSockets, found]
      exact recorded.sockets channel
    · rw [reportedSockets, missing]
      apply absent.imp
      intro locals absent
      rw [LocalAdapter.getChannelSocketCount, Finmap.lookup_eq_none.mpr absent]
      rfl
  · intro appId channel
    rcases done appId with ⟨app, found, recorded⟩ | ⟨missing, absent⟩
    · rw [reportedChannels, found]
      exact recorded.channels channel
    · rw [reportedChannels, missing]
      apply absent.imp
      intro locals absent
      rw [ns_of_absent absent]
      simp [Namespace.new]

end

end RushSocket.Adapter.Redis.Heartbeats
