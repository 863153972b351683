import RushSocket.Adapter.Membership
import RushSocket.Adapter.Redis.PresenceStore
import RushSocket.Adapter.Redis.PubSub
import RushSocket.Data.Json.Object
import Mathlib.Algebra.Order.BigOperators.Group.Finset

namespace RushSocket.Adapter.Redis

open Data Protocol

/-- The peers that are heard of, the stale ones being forgotten. -/
def RedisPubSub.getKnownNodeIds (order : HashOrder) (pubsub : RedisPubSub) (now : Nat) :
    RedisPubSub × List String :=
  (pubsub.pruneNodes now, order.list (pubsub.pruneNodes now).knownNodes.keys)

namespace Stats

/-! The counts that every node writes to Redis, and the reads that add them up. -/

def nodeStatsKey (keyPrefix nodeId : String) : String :=
  keyPrefix ++ ":node_stats:" ++ nodeId

theorem nodeStatsKey_inj {keyPrefix first second : String} :
    nodeStatsKey keyPrefix first = nodeStatsKey keyPrefix second ↔ first = second := by
  simp [nodeStatsKey]

structure Store where
  strings : Table String String
  presence : Hashes String
  presenceSockets : Hashes Int

/-- MGET.  A command that fails has no reply. -/
def Store.mget (store : Store) (failing : Bool) (keys : List String) :
    Option (List (Option String)) :=
  if failing then none else some (keys.map fun key => store.strings.lookup key)

/-- A node, whose counts are machine words. -/
structure Node where
  locals : LocalAdapter
  pubsub : RedisPubSub
  connectionsFit : ∀ appId, locals.getConnectionCount appId < 2 ^ 64
  socketsFit : ∀ appId channel, locals.getChannelSocketCount appId channel < 2 ^ 64

namespace Node

section

variable (order : HashOrder) (node : Node)

def channelStats (appId : String) : Value :=
  .tabulate (node.locals.getChannels order appId) fun channel =>
    .number (.natural _ (node.socketsFit appId channel))

def appStats (appId : String) : Value :=
  .object
    [("connections", .number (.natural _ (node.connectionsFit appId))),
      ("channels", node.channelStats order appId)]

def collectLocalStats : Value :=
  .tabulate (node.locals.getAppIds order) (node.appStats order)

end

section

variable (readFloat : DecimalText → Option DecimalText) (keyPrefix : String)
  (order : HashOrder) (store : Store) (now : Nat) (failing : Bool)
  (fails : Command → Bool) (node : Node)

def readRemoteStats : Node × List Value :=
  let (pubsub, nodeIds) := node.pubsub.getKnownNodeIds order now
  let pruned := { node with pubsub }
  if nodeIds = [] then (pruned, [])
  else
    match store.mget failing (nodeIds.map (nodeStatsKey keyPrefix)) with
    | some values =>
        (pruned, values.filterMap fun value => value.bind (Value.ofText readFloat))
    | none => (pruned, [])

def getConnectionCount (appId : String) : Node × Nat :=
  let (read, remoteStats) :=
    node.readRemoteStats readFloat keyPrefix order store now failing
  let remoteCount := ((remoteStats.filterMap fun stats => stats.get? appId).filterMap
    fun app => (app.index "connections").asU64).sum
  (read, node.locals.getConnectionCount appId + remoteCount)

def getChannels (appId : String) : Node × List String :=
  let (read, remoteStats) :=
    node.readRemoteStats readFloat keyPrefix order store now failing
  let remoteChannels := (remoteStats.filterMap fun stats => stats.get? appId).flatMap
    fun app => (app.index "channels").keys
  (read,
    order.list (node.locals.getChannels order appId ++ remoteChannels).toFinset)

def getChannelSocketCount (appId channel : String) : Node × Nat :=
  let (read, remoteStats) :=
    node.readRemoteStats readFloat keyPrefix order store now failing
  let remoteCount := ((remoteStats.filterMap fun stats => stats.get? appId).filterMap
    fun app => ((app.index "channels").get? channel).bind Value.asU64).sum
  (read, node.locals.getChannelSocketCount appId channel + remoteCount)

def redisAdapter : RedisAdapter where
  locals := node.locals
  presence := store.presence
  presenceSockets := store.presenceSockets

def getChannelInfo (appId channel : String) : Node × ChannelInfo :=
  let (read, subscriptionCount) :=
    node.getChannelSocketCount readFloat keyPrefix order store now failing appId channel
  let userCount :=
    if (ChannelKind.fromName channel).isPresence then
      some ((read.redisAdapter store).getPresenceUserCount keyPrefix appId fails channel)
    else none
  (read, { occupied := subscriptionCount > 0, subscriptionCount, userCount })

end

end Node

/-! What a reader finds in the stats of a node. -/

variable {readFloat : DecimalText → Option DecimalText} {keyPrefix : String}
  {order : HashOrder} {node : Node} {appId channel : String}

structure Describes (stats : Value) (locals : LocalAdapter) : Prop where
  connections : ∀ appId,
    (((stats.get? appId).bind fun app => (app.index "connections").asU64).getD 0) =
      locals.getConnectionCount appId
  sockets : ∀ appId channel,
    (((stats.get? appId).bind fun app =>
        ((app.index "channels").get? channel).bind Value.asU64).getD 0) =
      locals.getChannelSocketCount appId channel
  channels : ∀ appId channel,
    (∃ app, stats.get? appId = some app ∧ channel ∈ (app.index "channels").keys) ↔
      channel ∈ (locals.ns appId).channels.keys

theorem nodup_appFields (appId : String) :
    ([("connections", Value.number (.natural _ (node.connectionsFit appId))),
      ("channels", node.channelStats order appId)].map Prod.fst).Nodup := by
  simp

theorem index_connections (appId : String) :
    (node.appStats order appId).index "connections" =
      .number (.natural _ (node.connectionsFit appId)) := by
  rw [Value.index, Node.appStats,
    (Value.get?_object_eq_some_iff (nodup_appFields appId)).mpr List.mem_cons_self]
  rfl

theorem index_channels (appId : String) :
    (node.appStats order appId).index "channels" = node.channelStats order appId := by
  rw [Value.index, Node.appStats,
    (Value.get?_object_eq_some_iff (nodup_appFields appId)).mpr
      (List.mem_cons_of_mem _ List.mem_cons_self)]
  rfl

theorem get?_collectLocalStats (appId : String) :
    (node.collectLocalStats order).get? appId =
      if appId ∈ node.locals.namespaces then some (node.appStats order appId)
      else none := by
  rw [Node.collectLocalStats, LocalAdapter.getAppIds,
    Value.get?_tabulate (order.nodup _)]
  simp only [order.mem_list, Finmap.mem_keys]

theorem nodup_getChannels (locals : LocalAdapter) (appId : String) :
    (locals.getChannels order appId).Nodup := by
  rw [LocalAdapter.getChannels_eq]
  exact order.nodup _

theorem mem_getChannels {locals : LocalAdapter} :
    channel ∈ locals.getChannels order appId ↔
      channel ∈ (locals.ns appId).channels.keys := by
  rw [LocalAdapter.getChannels_eq, order.mem_list]

/-- A channel that is not listed has no sockets. -/
theorem getChannelSocketCount_of_unlisted {locals : LocalAdapter}
    (unlisted : channel ∉ locals.getChannels order appId) :
    locals.getChannelSocketCount appId channel = 0 := by
  rw [LocalAdapter.getChannelSocketCount_eq, Finset.card_eq_zero]
  apply Table.members_of_none
  rw [mem_getChannels, Table.mem_keys_iff] at unlisted
  cases found : (locals.ns appId).channels.lookup channel with
  | none => rfl
  | some stored => exact absurd ⟨stored, found⟩ unlisted

theorem ns_of_absent {locals : LocalAdapter} (absent : appId ∉ locals.namespaces) :
    locals.ns appId = .new := by
  rw [LocalAdapter.ns, Finmap.lookup_eq_none.mpr absent]
  rfl

theorem describes_collectLocalStats :
    Describes (node.collectLocalStats order) node.locals where
  connections := by
    intro appId
    rw [get?_collectLocalStats]
    split
    · rw [Option.bind_some, index_connections]
      simp
    · rename_i absent
      rw [LocalAdapter.getConnectionCount, Finmap.lookup_eq_none.mpr absent]
      rfl
  sockets := by
    intro appId channel
    rw [get?_collectLocalStats]
    split
    · rw [Option.bind_some, index_channels, Node.channelStats,
        Value.get?_tabulate (nodup_getChannels _ _)]
      split
      · simp
      · rename_i unlisted
        exact (getChannelSocketCount_of_unlisted unlisted).symm
    · rename_i absent
      rw [LocalAdapter.getChannelSocketCount, Finmap.lookup_eq_none.mpr absent]
      rfl
  channels := by
    intro appId channel
    rw [get?_collectLocalStats]
    split
    · simp only [Option.some.injEq, exists_eq_left', index_channels, Node.channelStats,
        Value.mem_keys_tabulate (nodup_getChannels _ _), mem_getChannels]
    · rename_i absent
      rw [ns_of_absent absent]
      simp [Namespace.new]

/-! The text of the stats. -/

theorem reread_channelStats (appId : String) :
    (node.channelStats order appId).json.reread readFloat =
      some (node.channelStats order appId).json := by
  apply Value.reread_tabulate (nodup_getChannels _ _)
  intro channel
  rfl

theorem reread_appStats (appId : String) :
    (node.appStats order appId).json.reread readFloat =
      some (node.appStats order appId).json := by
  apply Value.reread_object (nodup_appFields appId)
  intro field member
  simp only [List.mem_cons, List.not_mem_nil, or_false] at member
  rcases member with rfl | rfl
  · rfl
  · exact reread_channelStats appId

theorem depth_appStats (appId : String) :
    (node.appStats order appId).json.depth ≤ 2 := by
  apply Value.depth_object (nodup_appFields appId)
  intro field member
  simp only [List.mem_cons, List.not_mem_nil, or_false] at member
  rcases member with rfl | rfl
  · exact Nat.zero_le 1
  · apply Value.depth_tabulate (nodup_getChannels _ _)
    intro channel
    exact Nat.le_refl 0

theorem ofText_collectLocalStats :
    Value.ofText readFloat (node.collectLocalStats order).json.print =
      some (node.collectLocalStats order) := by
  have shallow : (node.collectLocalStats order).json.depth ≤ 3 :=
    Value.depth_tabulate (order.nodup _) depth_appStats
  apply Value.ofText_print
  · exact Value.reread_tabulate (order.nodup _) reread_appStats
  · exact shallow.trans (by decide)

/-! A cluster whose stats are up to date. -/

/-- The text at the key of every node tells its state, and every node has heard
of just the others lately. -/
structure Synced (keyPrefix : String) (nodes : Table String Node) (store : Store)
    (now : String → Nat) : Prop where
  written : ∀ nodeId node, nodes.lookup nodeId = some node →
    ∃ order, store.strings.lookup (nodeStatsKey keyPrefix nodeId) =
      some (node.collectLocalStats order).json.print
  known : ∀ nodeId node, nodes.lookup nodeId = some node →
    node.pubsub.knownNodes.keys = nodes.keys.erase nodeId
  fresh : ∀ nodeId node peer lastSeen, nodes.lookup nodeId = some node →
    node.pubsub.knownNodes.lookup peer = some lastSeen →
    now nodeId - lastSeen < RedisPubSub.staleThreshold

def localsOf (nodes : Table String Node) (nodeId : String) : LocalAdapter :=
  ((nodes.lookup nodeId).map Node.locals).getD .new

/-- Some node has a subscriber of the channel. -/
def Subscribed (nodes : Table String Node) (appId channel : String) : Prop :=
  ∃ peer ∈ nodes.keys, ((localsOf nodes peer).ns appId).channels.members channel ≠ ∅

/-- No node keeps an empty set, as it does for a moment when a channel loses its
last subscriber. -/
def Settled (nodes : Table String Node) (appId : String) : Prop :=
  ∀ peer ∈ nodes.keys, ∀ channel,
    ((localsOf nodes peer).ns appId).channels.lookup channel ≠ some ∅

def statsAt (readFloat : DecimalText → Option DecimalText) (keyPrefix : String)
    (store : Store) (nodeId : String) : Option Value :=
  (store.strings.lookup (nodeStatsKey keyPrefix nodeId)).bind (Value.ofText readFloat)

variable {nodes : Table String Node} {store : Store} {now : String → Nat}
  {nodeId : String}

theorem localsOf_of_lookup (found : nodes.lookup nodeId = some node) :
    localsOf nodes nodeId = node.locals := by
  simp [localsOf, found]

namespace Synced

variable (synced : Synced keyPrefix nodes store now)
include synced

theorem statsAt {peer : String} (member : peer ∈ nodes.keys) :
    ∃ stats, Stats.statsAt readFloat keyPrefix store peer = some stats ∧
      Describes stats (localsOf nodes peer) := by
  obtain ⟨node, found⟩ := Table.mem_keys_iff.mp member
  obtain ⟨order, written⟩ := synced.written peer node found
  refine ⟨node.collectLocalStats order, ?_, ?_⟩
  · rw [Stats.statsAt, written]
    exact ofText_collectLocalStats
  · rw [localsOf_of_lookup found]
    exact describes_collectLocalStats

section

variable (found : nodes.lookup nodeId = some node)
include found

theorem getKnownNodeIds :
    (node.pubsub.getKnownNodeIds order (now nodeId)).2 =
      order.list (nodes.keys.erase nodeId) := by
  have kept : (node.pubsub.pruneNodes (now nodeId)).knownNodes =
      node.pubsub.knownNodes := by
    apply Finmap.ext_lookup
    intro peer
    rw [RedisPubSub.pruneNodes, Table.lookup_retain]
    cases heard : node.pubsub.knownNodes.lookup peer with
    | none => rfl
    | some lastSeen =>
        simp [synced.fresh nodeId node peer lastSeen found heard]
  rw [RedisPubSub.getKnownNodeIds, kept, synced.known nodeId node found]

theorem readRemoteStats :
    (node.readRemoteStats readFloat keyPrefix order store (now nodeId) false).2 =
      (order.list (nodes.keys.erase nodeId)).filterMap
        (Stats.statsAt readFloat keyPrefix store) := by
  have ids : (node.pubsub.getKnownNodeIds order (now nodeId)).2 = _ :=
    synced.getKnownNodeIds found
  simp only [Node.readRemoteStats, ids, Store.mget, Bool.false_eq_true, if_false]
  split
  · rename_i alone
    rw [alone]
    rfl
  · rw [List.map_map, List.filterMap_map]
    rfl

theorem sum_remote {measure : Value → Option Nat} {value : LocalAdapter → Nat}
    (read : ∀ {stats locals}, Describes stats locals →
      (measure stats).getD 0 = value locals) :
    value node.locals +
        ((node.readRemoteStats readFloat keyPrefix order store (now nodeId)
          false).2.filterMap measure).sum =
      ∑ peer ∈ nodes.keys, value (localsOf nodes peer) := by
  have member : nodeId ∈ nodes.keys := Table.mem_keys_iff.mpr ⟨node, found⟩
  have remote : ∀ peers : List String, (∀ peer ∈ peers, peer ∈ nodes.keys) →
      ((peers.filterMap (Stats.statsAt readFloat keyPrefix store)).filterMap
          measure).sum =
        (peers.map fun peer => value (localsOf nodes peer)).sum := by
    intro peers
    induction peers with
    | nil => exact fun _ => rfl
    | cons peer rest induction =>
        intro listed
        obtain ⟨stats, stored, describes⟩ :
            ∃ stats, Stats.statsAt readFloat keyPrefix store peer = some stats ∧ _ :=
          synced.statsAt (listed peer List.mem_cons_self)
        have later := induction fun other member =>
          listed other (List.mem_cons_of_mem _ member)
        rw [List.filterMap_cons_some stored, List.map_cons, List.sum_cons, ← later,
          ← read describes, List.filterMap_cons]
        cases measure stats <;> simp
  have distinct := order.nodup (nodes.keys.erase nodeId)
  have elements : (order.list (nodes.keys.erase nodeId)).toFinset =
      nodes.keys.erase nodeId := by
    ext peer
    rw [List.mem_toFinset, order.mem_list]
  rw [synced.readRemoteStats found, remote _ fun peer listed =>
      Finset.mem_of_mem_erase (order.mem_list.mp listed),
    ← List.sum_toFinset _ distinct, elements, ← localsOf_of_lookup found,
    Finset.add_sum_erase nodes.keys (fun peer => value (localsOf nodes peer)) member]

theorem getConnectionCount (appId : String) :
    (node.getConnectionCount readFloat keyPrefix order store (now nodeId) false
        appId).2 =
      ∑ peer ∈ nodes.keys, (localsOf nodes peer).getConnectionCount appId := by
  simp only [Node.getConnectionCount, List.filterMap_filterMap]
  exact synced.sum_remote found fun describes => describes.connections appId

theorem getChannelSocketCount (appId channel : String) :
    (node.getChannelSocketCount readFloat keyPrefix order store (now nodeId) false
        appId channel).2 =
      ∑ peer ∈ nodes.keys, (localsOf nodes peer).getChannelSocketCount appId channel := by
  simp only [Node.getChannelSocketCount, List.filterMap_filterMap]
  exact synced.sum_remote found fun describes => describes.sockets appId channel

theorem mem_getChannels (appId channel : String) :
    channel ∈ (node.getChannels readFloat keyPrefix order store (now nodeId) false
        appId).2 ↔
      ∃ peer ∈ nodes.keys,
        channel ∈ ((localsOf nodes peer).ns appId).channels.keys := by
  simp only [Node.getChannels, synced.readRemoteStats found, order.mem_list,
    List.mem_toFinset, List.mem_append, Stats.mem_getChannels, List.mem_flatMap,
    List.mem_filterMap, Finset.mem_erase]
  constructor
  · rintro (own | ⟨app, ⟨stats, ⟨peer, ⟨_, member⟩, stored⟩, found⟩, listed⟩)
    · rw [← localsOf_of_lookup found] at own
      exact ⟨nodeId, Table.mem_keys_iff.mpr ⟨node, found⟩, own⟩
    · obtain ⟨known, same, describes⟩ :
          ∃ stats, Stats.statsAt readFloat keyPrefix store peer = some stats ∧ _ :=
        synced.statsAt member
      rw [stored, Option.some.injEq] at same
      subst same
      exact ⟨peer, member, (describes.channels appId channel).mp ⟨app, found, listed⟩⟩
  · rintro ⟨peer, member, listed⟩
    by_cases own : peer = nodeId
    · subst own
      rw [localsOf_of_lookup found] at listed
      exact .inl listed
    · obtain ⟨stats, stored, describes⟩ :
          ∃ stats, Stats.statsAt readFloat keyPrefix store peer = some stats ∧ _ :=
        synced.statsAt member
      obtain ⟨app, found, key⟩ := (describes.channels appId channel).mpr listed
      exact .inr ⟨app, ⟨stats, ⟨peer, ⟨own, member⟩, stored⟩, found⟩, key⟩

theorem occupied_iff (fails : Command → Bool) (appId channel : String) :
    (node.getChannelInfo readFloat keyPrefix order store (now nodeId) false fails
        appId channel).2.occupied = true ↔
      Subscribed nodes appId channel := by
  simp only [Node.getChannelInfo, decide_eq_true_eq,
    synced.getChannelSocketCount found, gt_iff_lt, Finset.sum_pos_iff,
    LocalAdapter.getChannelSocketCount_eq, Finset.card_pos, Subscribed,
    Finset.nonempty_iff_ne_empty]

end

end Synced

theorem Settled.subscribed_iff (settled : Settled nodes appId) :
    (∃ peer ∈ nodes.keys, channel ∈ ((localsOf nodes peer).ns appId).channels.keys) ↔
      Subscribed nodes appId channel := by
  refine exists_congr fun peer => and_congr_right fun member => ?_
  rw [Table.mem_keys_iff]
  cases found : ((localsOf nodes peer).ns appId).channels.lookup channel with
  | none => simp [Table.members_of_none found]
  | some stored =>
      rw [Table.members_of_lookup found]
      refine iff_of_true ⟨stored, rfl⟩ ?_
      rintro rfl
      exact settled peer member channel found

/-- Every node reads the sums of the local counts and the union of the local
channels.  While no node is between the two steps of a removal, these are the
channels with a subscriber. -/
theorem reads_as_union (readFloat : DecimalText → Option DecimalText)
    (keyPrefix : String) (order : HashOrder) (fails : Command → Bool)
    (nodes : Table String Node) (store : Store) (now : String → Nat)
    (synced : Synced keyPrefix nodes store now) (nodeId : String) (node : Node)
    (found : nodes.lookup nodeId = some node) (appId channel : String) :
    (node.getConnectionCount readFloat keyPrefix order store (now nodeId) false
          appId).2 =
        ∑ peer ∈ nodes.keys, (localsOf nodes peer).getConnectionCount appId ∧
      (node.getChannelSocketCount readFloat keyPrefix order store (now nodeId) false
          appId channel).2 =
        ∑ peer ∈ nodes.keys, (localsOf nodes peer).getChannelSocketCount appId channel ∧
      (node.getChannels readFloat keyPrefix order store (now nodeId) false
          appId).2.Nodup ∧
      (channel ∈ (node.getChannels readFloat keyPrefix order store (now nodeId) false
          appId).2 ↔
        ∃ peer ∈ nodes.keys, channel ∈ (localsOf nodes peer).getChannels order appId) ∧
      (Settled nodes appId →
        (channel ∈ (node.getChannels readFloat keyPrefix order store (now nodeId) false
            appId).2 ↔
          Subscribed nodes appId channel)) ∧
      ((node.getChannelInfo readFloat keyPrefix order store (now nodeId) false fails
          appId channel).2.occupied = true ↔
        Subscribed nodes appId channel) := by
  have listed : channel ∈ (node.getChannels readFloat keyPrefix order store (now nodeId)
      false appId).2 ↔ _ :=
    synced.mem_getChannels found appId channel
  refine ⟨synced.getConnectionCount found appId,
    synced.getChannelSocketCount found appId channel, order.nodup _, ?_, ?_,
    synced.occupied_iff found fails appId channel⟩
  · simp only [mem_getChannels]
    exact listed
  · intro settled
    exact listed.trans settled.subscribed_iff

/-! Two nodes that know each other. -/

section Sample

def hosting (ns : Namespace) (peer : String) (connections : ns.connectionCount < 2 ^ 64)
    (sockets : ∀ channel, (ns.channels.members channel).card < 2 ^ 64) : Node where
  locals := (LocalAdapter.new.createWith "app" fun _ => (ns, ())).1
  pubsub := ⟨∅, Finmap.singleton peer 0⟩
  connectionsFit := by
    intro appId
    rw [LocalAdapter.getConnectionCount_eq, LocalAdapter.ns_createWith]
    split
    · exact connections
    · exact Nat.two_pow_pos 64
  socketsFit := by
    intro appId channel
    rw [LocalAdapter.getChannelSocketCount_eq, LocalAdapter.ns_createWith]
    split
    · exact sockets channel
    · exact Nat.two_pow_pos 64

theorem ns_hosting {ns : Namespace} {peer : String} (connections sockets) :
    (hosting ns peer connections sockets).locals.ns appId =
      if appId = "app" then ns else .new :=
  LocalAdapter.ns_createWith .new "app" appId fun _ => (ns, ())

def idle : Node := hosting .new "b" (Nat.two_pow_pos 64) fun _ => Nat.two_pow_pos 64

def pair (second : Node) : Table String Node :=
  (Finmap.singleton "a" idle).insert "b" second

def heartbeats (second : Node) : Store where
  strings :=
    (Finmap.singleton (nodeStatsKey "rs" "a")
      (idle.collectLocalStats .ascending).json.print).insert (nodeStatsKey "rs" "b")
        (second.collectLocalStats .ascending).json.print
  presence := ∅
  presenceSockets := ∅

theorem lookup_pair {second : Node} (found : (pair second).lookup nodeId = some node) :
    nodeId = "a" ∧ node = idle ∨ nodeId = "b" ∧ node = second := by
  rw [pair, Table.lookup_put] at found
  split at found
  · rename_i same
    exact .inr ⟨same, (Option.some.inj found).symm⟩
  · have same : nodeId = "a" := by
      have present := Finmap.mem_of_lookup_eq_some found
      exact Finmap.mem_singleton _ _ _ |>.mp present
    subst same
    rw [Finmap.lookup_singleton_eq] at found
    exact .inl ⟨rfl, (Option.some.inj found).symm⟩

theorem synced_pair {second : Node} (peers : second.pubsub.knownNodes =
      Finmap.singleton "a" 0) :
    Synced "rs" (pair second) (heartbeats second) fun _ => 0 where
  written := by
    intro nodeId node found
    refine ⟨.ascending, ?_⟩
    rcases lookup_pair found with ⟨rfl, rfl⟩ | ⟨rfl, rfl⟩
    · rw [heartbeats, Table.lookup_put, if_neg (by decide), Finmap.lookup_singleton_eq]
    · rw [heartbeats, Table.lookup_put, if_pos rfl]
  known := by
    intro nodeId node found
    rw [pair, Table.keys_put]
    rcases lookup_pair found with ⟨rfl, rfl⟩ | ⟨rfl, rfl⟩
    · decide
    · rw [peers]
      decide
  fresh := by
    intro nodeId node peer lastSeen _ _
    rw [Nat.zero_sub]
    decide

def joined : Namespace :=
  ((Membership.registered ["1.1"]).addToChannel "1.1" "room").1

def leaving : Namespace := (joined.dropMember "1.1" "room").1

theorem members_joined (channel : String) :
    joined.channels.members channel ⊆ {"1.1"} := by
  rw [joined, Namespace.members_addToChannel]
  split
  · decide
  · exact Finset.empty_subset _

theorem members_leaving (channel : String) :
    leaving.channels.members channel ⊆ {"1.1"} := by
  rw [leaving, Namespace.dropMember_fst]
  intro socketId member
  exact members_joined channel (Table.mem_members_discard.mp member).1

def subscribing : Node :=
  hosting joined "a" (by decide) fun channel =>
    (Finset.card_le_card (members_joined channel)).trans_lt (by decide)

def unsubscribing : Node :=
  hosting leaving "a" (by decide) fun channel =>
    (Finset.card_le_card (members_leaving channel)).trans_lt (by decide)

theorem lookup_first (second : Node) : (pair second).lookup "a" = some idle := by
  rw [pair, Table.lookup_put, if_neg (by decide), Finmap.lookup_singleton_eq]

theorem settled_pair : Settled (pair subscribing) "app" := by
  intro peer member channel empty
  obtain ⟨node, found⟩ := Table.mem_keys_iff.mp member
  rw [localsOf_of_lookup found] at empty
  rcases lookup_pair found with ⟨rfl, rfl⟩ | ⟨rfl, rfl⟩
  · have quiet : idle.locals.ns "app" = .new := ns_hosting _ _
    rw [quiet] at empty
    simp [Namespace.new] at empty
  · have occupied : subscribing.locals.ns "app" = joined := ns_hosting _ _
    rw [occupied, joined, Namespace.addToChannel, Namespace.insertMember,
      Table.lookup_enroll] at empty
    split at empty
    · simp at empty
    · simp [Membership.registered, Namespace.addSocket, Namespace.new] at empty

theorem reads_as_union_pair :
    (idle.getConnectionCount some "rs" .ascending (heartbeats subscribing) 0 false
        "app").2 = 1 ∧
      (idle.getChannelSocketCount some "rs" .ascending (heartbeats subscribing) 0 false
        "app" "room").2 = 1 ∧
      "room" ∈ (idle.getChannels some "rs" .ascending (heartbeats subscribing) 0 false
        "app").2 ∧
      (idle.getChannelInfo some "rs" .ascending (heartbeats subscribing) 0 false
        (fun _ => false) "app" "room").2.occupied = true := by
  obtain ⟨connections, sockets, _, _, listed, occupied⟩ :=
    reads_as_union some "rs" .ascending (fun _ => false) (pair subscribing)
      (heartbeats subscribing) (fun _ => 0) (synced_pair rfl) "a" idle
      (lookup_first subscribing) "app" "room"
  have subscribed : Subscribed (pair subscribing) "app" "room" :=
    ⟨"b", by decide, by decide⟩
  exact ⟨connections.trans (by decide), sockets.trans (by decide),
    (listed settled_pair).mpr subscribed, occupied.mpr subscribed⟩

def stopped : List Membership.Action :=
  [.begin "1.1" (.addToChannel "room"), .advance "1.1" .proceed,
    .advance "1.1" .proceed, .begin "1.1" (.removeFromChannel "room"),
    .advance "1.1" .proceed]

/-- While the last subscriber is being removed, the other node lists the channel. -/
theorem emptied_channel_listed :
    (∃ final, (Membership.system ["1.1"]).run stopped = some final ∧
        final.shared = leaving) ∧
      Synced "rs" (pair unsubscribing) (heartbeats unsubscribing) (fun _ => 0) ∧
      (pair unsubscribing).lookup "a" = some idle ∧
      "room" ∈ (idle.getChannels some "rs" .ascending (heartbeats unsubscribing) 0 false
        "app").2 ∧
      ¬ Subscribed (pair unsubscribing) "app" "room" := by
  have synced : Synced "rs" (pair unsubscribing) (heartbeats unsubscribing) fun _ => 0 :=
    synced_pair rfl
  refine ⟨⟨_, rfl, rfl⟩, synced, lookup_first unsubscribing, ?_, ?_⟩
  · rw [synced.mem_getChannels (lookup_first unsubscribing)]
    exact ⟨"b", by decide, by decide⟩
  · unfold Subscribed
    decide

end Sample

end Stats

end RushSocket.Adapter.Redis
