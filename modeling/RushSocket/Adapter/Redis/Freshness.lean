import RushSocket.Adapter.Redis.Books
import RushSocket.Adapter.Redis.Rounds
import RushSocket.Transition.Visits

namespace RushSocket.Adapter.Redis.Heartbeats

open Data Stats Transition

/-! How old the counts can be that a read adds up. -/

/-! Runs. -/

structure Since (earlier state : State) : Prop where
  clock : earlier.shared.now ≤ state.shared.now
  log : ∃ newer, state.log = newer ++ earlier.log ∧
    (∀ nodeId, ∀ dated ∈ hearings nodeId newer, earlier.shared.now ≤ dated.1) ∧
    ∀ dated ∈ beats newer, earlier.shared.now ≤ dated.1

structure Asked (past : Set State) (nodeId : String) (query : Query) (asked last : Nat)
    (own : Answer) : Prop where
  begun : asked ≤ last
  own : Was past nodeId asked asked fun locals => ∃ order, own = query.ask order locals

def Knows (state : State) (nodeId : String) (nodeIds : List String) : Prop :=
  ∀ peer, peer ∈ nodeIds ↔
    TimedMap.remembered (hearings nodeId state.log) state.shared.now peer = some ()

/-- What a call has found out by the point that it is at. -/
def Underway (past : Set State) (now : Nat) : Operation → Point → Prop
  | .heartbeat nodeId, .connections round =>
      Gathering past nodeId round.started now round.apps (round.appId :: round.rest)
  | .heartbeat nodeId, .channels round connections =>
      Gathering past nodeId round.started now round.apps (round.appId :: round.rest) ∧
        Connected past nodeId round.started now round.appId connections
  | .heartbeat nodeId, .sockets round connections counts channel left =>
      (Gathering past nodeId round.started now round.apps (round.appId :: round.rest) ∧
        Connected past nodeId round.started now round.appId connections) ∧
          Counting past nodeId round.started now round.appId counts (channel :: left)
  | .heartbeat nodeId, .writing started stats =>
      started ≤ now ∧ Recorded past nodeId started now stats ∧ Plain 3 stats
  | .read nodeId query, .knowing asked own => Asked past nodeId query asked now own
  | .read nodeId query, .fetching asked own nodeIds =>
      Asked past nodeId query asked now own ∧
        nodeIds.Nodup ∧ ∃ knew ∈ past, asked ≤ knew.shared.now ∧
          knew.shared.now ≤ now ∧ Knows knew nodeId nodeIds
  | _, _ => True

/-- The stats that a read has added up are those that were there in one state, of the
peers that the node knew in another. -/
structure Gathered (past : Set State) (nodeId : String) (query : Query)
    (asked moment : Nat) (replied : Bool) (answer own : Answer)
    (shares : List (String × Beat)) : Prop where
  began : Asked past nodeId query asked moment own
  answer : ∃ order, answer = query.addUp order (shares.map fun share => share.2.stats) own
  once : (shares.map Prod.fst).Nodup
  found : ∃ knew ∈ past, ∃ fetched ∈ past, asked ≤ knew.shared.now ∧
    knew.shared.now ≤ moment ∧ fetched.shared.now = moment ∧
    (∀ share ∈ shares,
      TimedMap.remembered (hearings nodeId knew.log) knew.shared.now share.1 = some () ∧
        TimedMap.remembered (beats fetched.log) moment share.1 = some share.2) ∧
    (replied = true → ∀ peer beat,
      TimedMap.remembered (hearings nodeId knew.log) knew.shared.now peer = some () →
        TimedMap.remembered (beats fetched.log) moment peer = some beat →
          peer ∈ shares.map Prod.fst)
  recorded : ∀ share ∈ shares,
    Recorded past share.1 share.2.started share.2.written share.2.stats

structure Inv (keyPrefix : String) (state : State) (past : Set State) : Prop where
  since : ∀ earlier ∈ past, Since earlier state
  books : Books keyPrefix state.shared state.log
  booked : ∀ earlier ∈ past, Books keyPrefix earlier.shared earlier.log
  recorded : ∀ moment peer beat lifetime,
    (moment, TimedMap.Call.set peer beat lifetime) ∈ beats state.log →
      (moment = beat.written ∧ lifetime = statsLifetime) ∧
        Recorded past peer beat.started beat.written beat.stats ∧ Plain 3 beat.stats
  calls : ∀ caller operation point,
    state.calls.lookup caller = some (operation, point) →
      Underway past state.shared.now operation point
  answers : ∀ call ∈ state.log, ∀ nodeId query asked moment replied answer,
    call.operation = .read nodeId query →
      call.result = .answered asked moment replied answer →
        ∃ own shares, Gathered past nodeId query asked moment replied answer own shares

theorem Since.refl (state : State) : Since state state where
  clock := Nat.le_refl _
  log := ⟨[], rfl, fun _ => nofun, nofun⟩

theorem Since.trans {first second third : State} (left : Since first second)
    (right : Since second third) : Since first third where
  clock := left.clock.trans right.clock
  log := by
    obtain ⟨newer, whole, heard, written⟩ := left.log
    obtain ⟨newest, total, hears, writes⟩ := right.log
    refine ⟨newest ++ newer, by rw [total, whole, List.append_assoc], ?_, ?_⟩
    · intro nodeId dated member
      rw [hearings, List.filterMap_append, List.mem_append] at member
      cases member with
      | inl later => exact left.clock.trans (hears nodeId dated later)
      | inr earlier => exact heard nodeId dated earlier
    · intro dated member
      rw [beats, List.filterMap_append, List.mem_append] at member
      cases member with
      | inl later => exact left.clock.trans (writes dated later)
      | inr earlier => exact written dated earlier

section

variable {past later : Set State} {nodeId : String} {query : Query}
  {asked moment now until_ : Nat}

theorem Asked.extend {own : Answer} (found : Asked past nodeId query asked now own)
    (grown : past ⊆ later) (longer : now ≤ until_) :
    Asked later nodeId query asked until_ own where
  begun := found.begun.trans longer
  own := found.own.extend grown (Nat.le_refl asked)

theorem Underway.extend {operation : Operation} {point : Point}
    (underway : Underway past now operation point) (grown : past ⊆ later)
    (longer : now ≤ until_) : Underway later until_ operation point := by
  unfold Underway at underway ⊢
  split at underway
  · exact underway.extend grown longer
  · exact ⟨underway.1.extend grown longer, underway.2.extend grown longer⟩
  · exact ⟨⟨underway.1.1.extend grown longer, underway.1.2.extend grown longer⟩,
      underway.2.extend grown longer⟩
  · exact ⟨underway.1.trans longer, underway.2.1.extend grown longer, underway.2.2⟩
  · exact underway.extend grown longer
  · obtain ⟨found, nodup, knew, member, after, before, knows⟩ := underway
    exact ⟨found.extend grown longer, nodup, knew, grown member, after,
      before.trans longer, knows⟩
  · trivial

theorem Gathered.extend {replied : Bool} {answer own : Answer}
    {shares : List (String × Beat)}
    (gathered : Gathered past nodeId query asked moment replied answer own shares)
    (grown : past ⊆ later) :
    Gathered later nodeId query asked moment replied answer own shares where
  began := gathered.began.extend grown (Nat.le_refl moment)
  answer := gathered.answer
  once := gathered.once
  found := by
    obtain ⟨knew, member, fetched, present, rest⟩ := gathered.found
    exact ⟨knew, grown member, fetched, grown present, rest⟩
  recorded share member :=
    (gathered.recorded share member).extend grown (Nat.le_refl _)

end

namespace Inv

variable {keyPrefix : String} {state : State} {past : Set State} {caller : Nat}
  {operation : Operation} {shared : Shared}

theorem start (nodes : Table String Node) :
    let first : State := { shared := .start nodes, calls := ∅, log := [] }
    Inv keyPrefix first {first} where
  since earlier member := by
    cases member
    exact Since.refl _
  books := Books.start nodes
  booked earlier member := by
    cases member
    exact Books.start nodes
  recorded _ _ _ _ member := nomatch member
  calls caller operation point found := by
    exact nomatch (Finmap.lookup_empty caller).symm.trans found
  answers _ member := nomatch member

theorem begin (inv : Inv keyPrefix state past) (caller : Nat) (operation : Operation) :
    let next := { state with calls := state.calls.insert caller (operation, enter operation) }
    Inv keyPrefix next (insert next past) := by
  intro next
  have grown : past ⊆ insert next past := Set.subset_insert next past
  constructor
  · intro earlier member
    cases member with
    | inl same => exact same ▸ Since.refl next
    | inr member =>
        exact ⟨(inv.since earlier member).clock, (inv.since earlier member).log⟩
  · exact inv.books
  · exact fun earlier member => member.elim (fun same => same ▸ inv.books) (inv.booked earlier)
  · intro moment peer beat lifetime member
    obtain ⟨dated, recorded, plain⟩ := inv.recorded moment peer beat lifetime member
    exact ⟨dated, recorded.extend grown (Nat.le_refl _), plain⟩
  · intro other operation' point found
    change Finmap.lookup other (state.calls.insert caller _) = _ at found
    rw [Table.lookup_put] at found
    split at found
    · cases found
      cases operation <;> trivial
    · exact (inv.calls other operation' point found).extend grown (Nat.le_refl _)
  · intro call member nodeId query asked moment replied answer reads returned
    obtain ⟨own, shares, gathered⟩ :=
      inv.answers call member nodeId query asked moment replied answer reads returned
    exact ⟨own, shares, gathered.extend grown⟩

theorem running (inv : Inv keyPrefix state past) {point : Point}
    (same : shared.now = state.shared.now) (books : Books keyPrefix shared state.log)
    (underway : Underway past state.shared.now operation point) :
    let next := state.settle caller operation shared (.running point)
    Inv keyPrefix next (insert next past) := by
  intro next
  have grown : past ⊆ insert next past := Set.subset_insert next past
  have longer : state.shared.now ≤ next.shared.now := Nat.le_of_eq same.symm
  constructor
  · intro earlier member
    cases member with
    | inl same => exact same ▸ Since.refl next
    | inr member =>
        exact ⟨(inv.since earlier member).clock.trans longer,
          (inv.since earlier member).log⟩
  · exact books
  · exact fun earlier member => member.elim (fun same => same ▸ books) (inv.booked earlier)
  · intro moment peer beat lifetime member
    obtain ⟨dated, recorded, plain⟩ := inv.recorded moment peer beat lifetime member
    exact ⟨dated, recorded.extend grown (Nat.le_refl _), plain⟩
  · intro other operation' point' found
    rw [Calls.lookup_settle] at found
    split at found
    · cases found
      exact underway.extend grown longer
    · exact (inv.calls other operation' point' found).extend grown longer
  · intro call member nodeId query asked moment replied answer reads returned
    obtain ⟨own, shares, gathered⟩ :=
      inv.answers call member nodeId query asked moment replied answer reads returned
    exact ⟨own, shares, gathered.extend grown⟩

theorem finished (inv : Inv keyPrefix state past) {result : Returned}
    (clock : state.shared.now ≤ shared.now)
    (books : Books keyPrefix shared (⟨caller, operation, result⟩ :: state.log))
    (heard : ∀ nodeId dated, hearing nodeId ⟨caller, operation, result⟩ = some dated →
      state.shared.now ≤ dated.1)
    (written : ∀ moment peer beat lifetime, beatOf ⟨caller, operation, result⟩ =
        some (moment, .set peer beat lifetime) →
      (state.shared.now ≤ moment ∧ moment = beat.written ∧ lifetime = statsLifetime) ∧
        Recorded past peer beat.started beat.written beat.stats ∧ Plain 3 beat.stats)
    (answered : ∀ nodeId query asked moment replied answer,
      operation = .read nodeId query → result = .answered asked moment replied answer →
        ∃ own shares, Gathered past nodeId query asked moment replied answer own shares) :
    let next := state.settle caller operation shared (.finished result)
    Inv keyPrefix next (insert next past) := by
  intro next
  have grown : past ⊆ insert next past := Set.subset_insert next past
  have step : Since state next := by
    refine ⟨clock, [⟨caller, operation, result⟩], rfl, ?_, ?_⟩
    · intro nodeId dated member
      obtain ⟨call, listed, found⟩ := List.mem_filterMap.mp member
      cases List.mem_singleton.mp listed
      exact heard nodeId dated found
    · intro dated member
      obtain ⟨call, listed, found⟩ := List.mem_filterMap.mp member
      cases List.mem_singleton.mp listed
      obtain ⟨moment, change⟩ := dated
      cases change with
      | set peer beat lifetime => exact (written moment peer beat lifetime found).1.1
      | forget peer =>
          unfold beatOf at found
          split at found <;> cases found
  constructor
  · intro earlier member
    cases member with
    | inl same => exact same ▸ Since.refl next
    | inr member => exact (inv.since earlier member).trans step
  · exact books
  · exact fun earlier member => member.elim (fun same => same ▸ books) (inv.booked earlier)
  · intro moment peer beat lifetime member
    obtain ⟨call, listed, found⟩ := List.mem_filterMap.mp member
    cases List.mem_cons.mp listed with
    | inl same =>
        cases same
        obtain ⟨dated, recorded, plain⟩ := written moment peer beat lifetime found
        exact ⟨dated.2, recorded.extend grown (Nat.le_refl _), plain⟩
    | inr earlier =>
        obtain ⟨dated, recorded, plain⟩ := inv.recorded moment peer beat lifetime
          (List.mem_filterMap.mpr ⟨call, earlier, found⟩)
        exact ⟨dated, recorded.extend grown (Nat.le_refl _), plain⟩
  · intro other operation' point' found
    rw [Calls.lookup_settle] at found
    split at found
    · cases found
    · exact (inv.calls other operation' point' found).extend grown clock
  · intro call member nodeId query asked moment replied answer reads returned
    cases List.mem_cons.mp member with
    | inl same =>
        cases same
        obtain ⟨own, shares, gathered⟩ :=
          answered nodeId query asked moment replied answer reads returned
        exact ⟨own, shares, gathered.extend grown⟩
    | inr earlier =>
        obtain ⟨own, shares, gathered⟩ :=
          inv.answers call earlier nodeId query asked moment replied answer reads returned
        exact ⟨own, shares, gathered.extend grown⟩

end Inv

/-! The steps of a round. -/

section

variable {past : Set State} {nodeId : String} {now : Nat}

theorem underway_visit {started : Nat} {apps : List (String × Value)}
    {rest : List String} (gathering : Gathering past nodeId started now apps rest) :
    Underway past now (.heartbeat nodeId) (visit started apps rest) := by
  cases rest with
  | nil => exact ⟨gathering.begun, gathering.stats⟩
  | cons appId rest => exact gathering

theorem underway_tally {round : Round} {connections : Value}
    {counts : List (String × Value)} {left : List String}
    (gathering : Gathering past nodeId round.started now round.apps
      (round.appId :: round.rest))
    (connected : Connected past nodeId round.started now round.appId connections)
    (counting : Counting past nodeId round.started now round.appId counts left) :
    Underway past now (.heartbeat nodeId) (tally round connections counts left) := by
  cases left with
  | cons channel left => exact ⟨⟨gathering, connected⟩, counting⟩
  | nil =>
      have moved : (round.apps ++
            [(round.appId, appStats connections counts)]).map Prod.fst ++ round.rest =
          round.apps.map Prod.fst ++ round.appId :: round.rest := by
        simp
      apply underway_visit
      constructor
      · exact gathering.begun
      · rw [moved]
        exact gathering.nodup
      · rw [moved]
        exact gathering.listed
      · intro app member
        cases List.mem_append.mp member with
        | inl earlier => exact gathering.recorded app earlier
        | inr last =>
            cases List.mem_singleton.mp last
            exact counting.appRecorded connected
      · intro app member
        cases List.mem_append.mp member with
        | inl earlier => exact gathering.plain app earlier
        | inr last =>
            cases List.mem_singleton.mp last
            exact counting.plain_appStats connected

theorem underway_collect {state : State} {node : Node} {order : HashOrder}
    {point next : Point} (present : state ∈ past)
    (found : state.shared.nodes.lookup nodeId = some node)
    (underway : Underway past state.shared.now (.heartbeat nodeId) point)
    (collected : collect node order state.shared.now point = some next) :
    Underway past state.shared.now (.heartbeat nodeId) next := by
  unfold collect at collected
  split at collected
  · cases collected
    apply underway_visit
    constructor
    · exact Nat.le_refl _
    · exact order.nodup _
    · apply Was.now present (Nat.le_refl _) found
      intro appId
      rw [List.map_nil, List.nil_append, LocalAdapter.getAppIds, order.mem_list,
        Finmap.mem_keys]
    · intro _ member
      cases member
    · intro _ member
      cases member
  · cases collected
    refine ⟨underway, ?_, Plain.number _ ⟨_, _, rfl⟩⟩
    apply Was.now present underway.begun found
    rw [Value.asU64_number, Number.asU64_natural]
    rfl
  · cases collected
    apply underway_tally underway.1 underway.2
    constructor
    · exact nodup_getChannels _ _
    · apply Was.now present underway.1.begun found
      intro channel
      exact mem_getChannels.symm
    · intro _ member
      cases member
    · intro _ member
      cases member
  · rename_i round connections counts channel left
    cases collected
    obtain ⟨⟨gathering, connected⟩, counting⟩ := underway
    have moved (count : Value) :
        (counts ++ [(channel, count)]).map Prod.fst ++ left =
          counts.map Prod.fst ++ channel :: left := by
      simp
    apply underway_tally gathering connected
    constructor
    · rw [moved]
      exact counting.nodup
    · rw [moved]
      exact counting.listed
    · intro count member
      cases List.mem_append.mp member with
      | inl earlier => exact counting.recorded count earlier
      | inr last =>
          cases List.mem_singleton.mp last
          apply Was.now present gathering.begun found
          rw [Value.asU64_number, Number.asU64_natural]
          rfl
    · intro count member
      cases List.mem_append.mp member with
      | inl earlier => exact counting.plain count earlier
      | inr last =>
          cases List.mem_singleton.mp last
          exact Plain.number _ ⟨_, _, rfl⟩
  · cases collected

end

namespace Inv

variable {readFloat : DecimalText → Option DecimalText} {keyPrefix : String}
  {state : State} {past : Set State} {caller : Nat} {nodeId : String} {point : Point}
  {choice : Choice} {shared : Shared} {progress : Progress Point Returned}

theorem finished_silent (inv : Inv keyPrefix state past) {operation : Operation}
    {result : Returned} (clock : state.shared.now ≤ shared.now)
    (books : Books keyPrefix shared state.log)
    (silent : Silent ⟨caller, operation, result⟩)
    (answered : ∀ nodeId query asked moment replied answer,
      operation = .read nodeId query → result = .answered asked moment replied answer →
        ∃ own shares, Gathered past nodeId query asked moment replied answer own shares) :
    let next := state.settle caller operation shared (.finished result)
    Inv keyPrefix next (insert next past) := by
  apply inv.finished clock (books.silent silent)
  · intro nodeId dated found
    rw [silent.1 nodeId] at found
    cases found
  · intro moment peer beat lifetime found
    rw [silent.2] at found
    cases found
  · exact answered

theorem beat (inv : Inv keyPrefix state past) (present : state ∈ past)
    (underway : Underway past state.shared.now (.heartbeat nodeId) point)
    (stepped : beat keyPrefix state.shared nodeId choice point =
      some (shared, progress)) :
    let next := state.settle caller (.heartbeat nodeId) shared progress
    Inv keyPrefix next (insert next past) := by
  unfold Heartbeats.beat at stepped
  split at stepped
  · rename_i started stats
    cases stepped
    cases failing : choice.failing with
    | true =>
        apply inv.finished_silent (Nat.le_refl _) inv.books ⟨fun _ => rfl, rfl⟩
        intro _ _ _ _ _ _ reads
        cases reads
    | false =>
        refine inv.finished ?_ (inv.books.beaten caller nodeId started stats) ?_ ?_ ?_
        · exact Nat.le_refl _
        · intro _ _ found
          cases found
        · intro moment peer written lifetime found
          cases found
          exact ⟨⟨Nat.le_refl _, rfl, rfl⟩, underway.2⟩
        · intro _ _ _ _ _ _ reads
          cases reads
  · obtain ⟨next, collected, moved⟩ := Option.map_eq_some_iff.mp stepped
    obtain ⟨node, found, collected⟩ := Option.bind_eq_some_iff.mp collected
    cases moved
    exact inv.running rfl inv.books (underway_collect present found underway collected)

theorem knows (inv : Inv keyPrefix state past) {node : Node}
    (found : state.shared.nodes.lookup nodeId = some node) (order : HashOrder) :
    Knows state nodeId
      (node.pubsub.getKnownNodeIds order state.shared.now).2 := by
  intro peer
  rw [← inv.books.known nodeId node found _ (Nat.le_refl _),
    RedisPubSub.getKnownNodeIds, order.mem_list, Table.mem_keys_iff,
    RedisPubSub.pruneNodes]
  simp only [Table.lookup_retain, Option.filter_eq_some_iff, decide_eq_true_eq]

def latest (state : State) (peer : String) : Option (String × Beat) :=
  (TimedMap.remembered (beats state.log) state.shared.now peer).map fun beat =>
    (peer, beat)

theorem latest_recorded (inv : Inv keyPrefix state past) {peer : String}
    {share : String × Beat} (found : latest state peer = some share) :
    share.1 = peer ∧
      TimedMap.remembered (beats state.log) state.shared.now share.1 = some share.2 ∧
      Recorded past share.1 share.2.started share.2.written share.2.stats ∧
        Plain 3 share.2.stats := by
  obtain ⟨beat, remembered, rfl⟩ := Option.map_eq_some_iff.mp found
  obtain ⟨later, moment, lifetime, earlier, whole, _⟩ :=
    TimedMap.remembered_eq_some.mp remembered
  have member : (moment, TimedMap.Call.set peer beat lifetime) ∈ beats state.log := by
    rw [whole]
    exact List.mem_append_right later List.mem_cons_self
  exact ⟨rfl, remembered, (inv.recorded moment peer beat lifetime member).2⟩

/-- What MGET finds is read back. -/
theorem fetched (inv : Inv keyPrefix state past) (nodeIds : List String) :
    ((nodeIds.map (nodeStatsKey keyPrefix)).map state.shared.get).filterMap
        (fun value => value.bind (Value.ofText readFloat)) =
      (nodeIds.filterMap (latest state)).map fun share => share.2.stats := by
  rw [List.map_map, List.filterMap_map, List.map_filterMap]
  apply List.filterMap_congr
  intro peer _
  have stored : state.shared.get (nodeStatsKey keyPrefix peer) = _ :=
    inv.books.stored peer state.shared.now
  simp only [Function.comp_apply, stored]
  cases found : TimedMap.remembered (beats state.log) state.shared.now peer with
  | none => rw [latest, found]; rfl
  | some beat =>
      have share : latest state peer = some (peer, beat) := by
        rw [latest, found]
        rfl
      obtain ⟨_, _, _, plain⟩ := inv.latest_recorded share
      rw [share, Option.map_some, Option.bind_some, Option.map_some]
      apply Value.ofText_print (plain.1 readFloat)
      exact plain.2.trans (by decide)

theorem fst_latest {nodeIds : List String} :
    (nodeIds.filterMap (latest state)).map Prod.fst =
      nodeIds.filter fun peer =>
        (TimedMap.remembered (beats state.log) state.shared.now peer).isSome := by
  induction nodeIds with
  | nil => rfl
  | cons peer nodeIds induction =>
      rw [List.filterMap_cons, List.filter_cons, latest]
      cases TimedMap.remembered (beats state.log) state.shared.now peer with
      | none => exact induction
      | some beat => exact congrArg (peer :: ·) induction

theorem gathered (inv : Inv keyPrefix state past) (present : state ∈ past)
    {query : Query} {asked : Nat} {own : Answer} {nodeIds : List String}
    (began : Asked past nodeId query asked state.shared.now own)
    (nodup : nodeIds.Nodup)
    (knew : ∃ knew ∈ past, asked ≤ knew.shared.now ∧
      knew.shared.now ≤ state.shared.now ∧ Knows knew nodeId nodeIds)
    (order : HashOrder) :
    Gathered past nodeId query asked state.shared.now true
      (query.addUp order
        ((nodeIds.filterMap (latest state)).map fun share => share.2.stats) own) own
      (nodeIds.filterMap (latest state)) where
  began := began
  answer := ⟨order, rfl⟩
  once := by
    rw [fst_latest]
    exact nodup.filter _
  found := by
    obtain ⟨knew, member, after, before, knows⟩ := knew
    refine ⟨knew, member, state, present, after, before, rfl, ?_, ?_⟩
    · intro share listed
      obtain ⟨peer, known, found⟩ := List.mem_filterMap.mp listed
      obtain ⟨same, remembered, _⟩ := inv.latest_recorded found
      rw [← same] at known
      exact ⟨(knows share.1).mp known, remembered⟩
    · intro _ peer beat heard written
      rw [fst_latest, List.mem_filter, written]
      exact ⟨(knows peer).mpr heard, rfl⟩
  recorded share listed := by
    obtain ⟨peer, _, found⟩ := List.mem_filterMap.mp listed
    exact (inv.latest_recorded found).2.2.1

theorem gathered_alone (present : state ∈ past) {query : Query} {asked : Nat}
    {own : Answer} (began : Asked past nodeId query asked state.shared.now own)
    (order : HashOrder) :
    Gathered past nodeId query asked state.shared.now false (query.addUp order [] own)
      own [] where
  began := began
  answer := ⟨order, rfl⟩
  once := List.nodup_nil
  found := ⟨state, present, state, present, began.begun, Nat.le_refl _, rfl, nofun, nofun⟩
  recorded := nofun

theorem read (inv : Inv keyPrefix state past) (present : state ∈ past) {query : Query}
    (underway : Underway past state.shared.now (.read nodeId query) point)
    (stepped : read readFloat keyPrefix state.shared nodeId query choice point =
      some (shared, progress)) :
    let next := state.settle caller (.read nodeId query) shared progress
    Inv keyPrefix next (insert next past) := by
  unfold Heartbeats.read at stepped
  split at stepped
  · obtain ⟨node, found, moved⟩ := Option.map_eq_some_iff.mp stepped
    cases moved
    apply inv.running rfl inv.books
    exact ⟨Nat.le_refl _, Was.now present (Nat.le_refl _) found ⟨choice.order, rfl⟩⟩
  · rename_i asked own
    obtain ⟨node, found, moved⟩ := Option.map_eq_some_iff.mp stepped
    have knows := inv.knows found choice.order
    have nodup : (node.pubsub.getKnownNodeIds choice.order state.shared.now).2.Nodup :=
      choice.order.nodup _
    have knew : ∃ knew ∈ past, asked ≤ knew.shared.now ∧
        knew.shared.now ≤ state.shared.now ∧ Knows knew nodeId
          (node.pubsub.getKnownNodeIds choice.order state.shared.now).2 :=
      ⟨state, present, underway.begun, Nat.le_refl _, knows⟩
    dsimp only at moved
    split at moved
    · rename_i alone
      cases moved
      refine inv.finished_silent ?_ (inv.books.pruned found) ⟨fun _ => rfl, rfl⟩ ?_
      · exact Nat.le_refl _
      intro _ _ _ _ _ _ reads returned
      cases reads
      cases returned
      rw [alone] at nodup knew
      exact ⟨own, _, inv.gathered present underway nodup knew choice.order⟩
    · cases moved
      exact inv.running rfl (inv.books.pruned found) ⟨underway, nodup, knew⟩
  · rename_i asked own nodeIds
    obtain ⟨began, nodup, knew⟩ := underway
    cases stepped
    apply inv.finished_silent (Nat.le_refl _) inv.books ⟨fun _ => rfl, rfl⟩
    intro _ _ _ _ _ _ reads returned
    cases reads
    cases returned
    cases failing : choice.failing with
    | true => exact ⟨own, [], gathered_alone present began choice.order⟩
    | false =>
        refine ⟨own, nodeIds.filterMap (latest state), ?_⟩
        have values : state.shared.mget false (nodeIds.map (nodeStatsKey keyPrefix)) =
          some ((nodeIds.map (nodeStatsKey keyPrefix)).map state.shared.get) := rfl
        rw [values, Option.getD_some, inv.fetched nodeIds]
        exact inv.gathered present began nodup knew choice.order
  · cases stepped

theorem advance (inv : Inv keyPrefix state past) (present : state ∈ past)
    {operation : Operation}
    (found : state.calls.lookup caller = some (operation, point))
    (stepped : advance readFloat keyPrefix state.shared caller operation point choice =
      some (shared, progress)) :
    let next := state.settle caller operation shared progress
    Inv keyPrefix next (insert next past) := by
  have underway := inv.calls caller operation point found
  unfold Heartbeats.advance at stepped
  split at stepped
  · rename_i elapsed
    cases stepped
    refine inv.finished_silent ?_ (inv.books.pass elapsed) ⟨fun _ => rfl, rfl⟩ ?_
    · exact Nat.le_add_right _ _
    intro _ _ _ _ _ _ reads
    cases reads
  · rename_i nodeId node
    cases stepped
    refine inv.finished_silent ?_ (inv.books.change nodeId node) ⟨fun _ => rfl, rfl⟩ ?_
    · exact Nat.le_refl _
    intro _ _ _ _ _ _ reads
    cases reads
  · rename_i nodeId senderNode
    split at stepped
    · cases stepped
      apply inv.finished_silent (Nat.le_refl _) inv.books ⟨fun _ => rfl, rfl⟩
      intro _ _ _ _ _ _ reads
      cases reads
    · rename_i apart
      obtain ⟨node, present, moved⟩ := Option.map_eq_some_iff.mp stepped
      cases moved
      refine inv.finished ?_ (inv.books.heard present apart caller) ?_ ?_ ?_
      · exact Nat.le_refl _
      · intro other dated heard
        simp only [hearing] at heard
        split at heard
        · cases heard
          exact Nat.le_refl _
        · cases heard
      · intro _ _ _ _ written
        cases written
      · intro _ _ _ _ _ _ reads
        cases reads
  · exact inv.beat present underway stepped
  · exact inv.read present underway stepped
  · cases stepped

end Inv

theorem inv_of_reached {readFloat : DecimalText → Option DecimalText} {keyPrefix : String}
    {nodes : Table String Node} {actions : List (CallAction Nat Operation Choice)}
    {final : State}
    (reached : (system readFloat keyPrefix nodes).run actions = some final) :
    Inv keyPrefix final ((system readFloat keyPrefix nodes).Visited actions) := by
  apply Calls.invariant_visited _ _ _ reached
  · exact Inv.start nodes
  · intro state past caller operation inv _ _ _
    exact inv.begin caller operation
  · intro state past caller operation point choice shared progress inv present found
      stepped
    exact inv.advance present found stepped

/-! How recent a read is. -/

/-- Stats that a read has used: whose, when the node has last heard of that peer, and
the round that wrote them. -/
structure Share where
  peer : String
  heard : Nat
  started : Nat
  written : Nat
  stats : Value

structure Recent (log : Log) (nodeId : String) (asked moment : Nat) (share : Share) :
    Prop where
  other : share.peer ≠ nodeId
  heard : ∃ caller, ⟨caller, .hear nodeId share.peer, .heard share.heard⟩ ∈ log
  known : share.heard ≤ moment ∧ asked < share.heard + RedisPubSub.staleThreshold
  written : ∃ caller, ⟨caller, .heartbeat share.peer,
    .beaten share.started share.written share.stats false⟩ ∈ log
  lasting : share.written ≤ moment ∧ moment < share.written + statsLifetime

/-- Before the read the node has heard of the peer, and the peer has written its stats,
neither of them too long ago when the read is answered. -/
structure Available (log : Log) (nodeId : String) (asked moment : Nat) (peer : String) :
    Prop where
  heard : ∃ caller heard, ⟨caller, .hear nodeId peer, .heard heard⟩ ∈ log ∧
    heard < asked ∧ moment < heard + RedisPubSub.staleThreshold
  written : ∃ caller started written stats,
    ⟨caller, .heartbeat peer, .beaten started written stats false⟩ ∈ log ∧
      written < asked ∧ moment < written + statsLifetime

theorem mem_hearings {nodeId peer : String} {log : Log} {moment : Nat}
    {call : TimedMap.Call String Unit} (member : (moment, call) ∈ hearings nodeId log)
    (named : call.key = peer) :
    ∃ caller, ⟨caller, .hear nodeId peer, .heard moment⟩ ∈ log ∧
      call = .set peer () RedisPubSub.staleThreshold := by
  obtain ⟨⟨caller, operation, result⟩, listed, found⟩ := List.mem_filterMap.mp member
  unfold hearing at found
  split at found
  · rename_i first second
    dsimp only at first second
    split at found
    · rename_i same
      cases found
      change _ = peer at named
      subst same named first second
      exact ⟨caller, listed, rfl⟩
    · cases found
  · cases found

theorem mem_beats {peer : String} {log : Log} {moment lifetime : Nat} {beat : Beat}
    (member : (moment, TimedMap.Call.set peer beat lifetime) ∈ beats log) :
    ∃ caller, ⟨caller, .heartbeat peer,
        .beaten beat.started beat.written beat.stats false⟩ ∈ log ∧
      moment = beat.written ∧ lifetime = statsLifetime := by
  obtain ⟨⟨caller, operation, result⟩, listed, found⟩ := List.mem_filterMap.mp member
  unfold beatOf at found
  split at found
  · rename_i first second
    dsimp only at first second
    cases found
    subst first second
    exact ⟨caller, listed, rfl, rfl⟩
  · cases found

namespace Inv

variable {keyPrefix : String} {state : State} {past : Set State}

theorem log_of_past (inv : Inv keyPrefix state past) {earlier : State}
    (passed : earlier ∈ past) : ∃ newer, state.log = newer ++ earlier.log ∧
      (∀ nodeId, ∀ dated ∈ hearings nodeId newer, earlier.shared.now ≤ dated.1) ∧
      ∀ dated ∈ beats newer, earlier.shared.now ≤ dated.1 :=
  (inv.since earlier passed).log

theorem heard_of_knew (inv : Inv keyPrefix state past) {knew : State}
    (passed : knew ∈ past) {nodeId peer : String}
    (remembered : TimedMap.remembered (hearings nodeId knew.log) knew.shared.now peer =
      some ()) :
    ∃ heard, (∃ caller, ⟨caller, .hear nodeId peer, .heard heard⟩ ∈ state.log) ∧
      peer ≠ nodeId ∧ heard ≤ knew.shared.now ∧
        knew.shared.now < heard + RedisPubSub.staleThreshold := by
  obtain ⟨later, heard, lifetime, earlier, whole, _, lately⟩ :=
    TimedMap.remembered_eq_some.mp remembered
  have member : (heard, TimedMap.Call.set peer () lifetime) ∈ hearings nodeId knew.log := by
    rw [whole]
    exact List.mem_append_right later List.mem_cons_self
  have books := inv.booked knew passed
  obtain ⟨caller, logged, same⟩ := mem_hearings member rfl
  obtain ⟨newer, total, _⟩ := inv.log_of_past passed
  cases same
  refine ⟨heard, ⟨caller, ?_⟩, books.others nodeId _ member,
    (books.hearingsDated nodeId).2 _ member, lately⟩
  rw [total]
  exact List.mem_append_right newer logged

theorem knew_of_heard (inv : Inv keyPrefix state past) {knew : State}
    (passed : knew ∈ past) {caller : Nat} {nodeId peer : String} {heard : Nat}
    (logged : ⟨caller, .hear nodeId peer, .heard heard⟩ ∈ state.log)
    (before : heard < knew.shared.now)
    (lately : knew.shared.now < heard + RedisPubSub.staleThreshold) :
    TimedMap.remembered (hearings nodeId knew.log) knew.shared.now peer = some () := by
  obtain ⟨newer, total, heardLater, _⟩ := inv.log_of_past passed
  have earlier : (heard, TimedMap.Call.set peer () RedisPubSub.staleThreshold) ∈
      hearings nodeId knew.log := by
    rw [total, List.mem_append] at logged
    have told : hearing nodeId ⟨caller, .hear nodeId peer, .heard heard⟩ =
        some (heard, .set peer () RedisPubSub.staleThreshold) := if_pos rfl
    cases logged with
    | inl late =>
        have after := heardLater nodeId _ (List.mem_filterMap.mpr ⟨_, late, told⟩)
        dsimp only at after
        omega
    | inr early => exact List.mem_filterMap.mpr ⟨_, early, told⟩
  have uniform : ∀ dated ∈ hearings nodeId knew.log, ∃ key value,
      dated.2 = .set key value RedisPubSub.staleThreshold := by
    intro dated member
    obtain ⟨_, _, same⟩ := mem_hearings member rfl
    exact ⟨_, _, same⟩
  exact (TimedMap.exists_remembered_of_mem
    ((inv.booked knew passed).hearingsDated nodeId).1 uniform earlier lately).elim
      fun _ found => found

theorem fetched_of_written (inv : Inv keyPrefix state past) {fetched : State}
    (passed : fetched ∈ past) {caller started written : Nat} {peer : String}
    {stats : Value}
    (logged : ⟨caller, .heartbeat peer, .beaten started written stats false⟩ ∈ state.log)
    (before : written < fetched.shared.now)
    (lasting : fetched.shared.now < written + statsLifetime) :
    ∃ beat, TimedMap.remembered (beats fetched.log) fetched.shared.now peer =
      some beat := by
  obtain ⟨newer, total, _, writtenLater⟩ := inv.log_of_past passed
  have told : beatOf ⟨caller, .heartbeat peer, .beaten started written stats false⟩ =
      some (written, .set peer ⟨started, written, stats⟩ statsLifetime) := rfl
  have earlier : (written, TimedMap.Call.set peer ⟨started, written, stats⟩
      statsLifetime) ∈ beats fetched.log := by
    rw [total, List.mem_append] at logged
    cases logged with
    | inl late =>
        have after := writtenLater _ (List.mem_filterMap.mpr ⟨_, late, told⟩)
        dsimp only at after
        omega
    | inr early => exact List.mem_filterMap.mpr ⟨_, early, told⟩
  apply TimedMap.exists_remembered_of_mem (inv.booked fetched passed).beatsDated.1 _
    earlier lasting
  intro dated member
  obtain ⟨call, _, found⟩ := List.mem_filterMap.mp member
  unfold beatOf at found
  split at found
  · cases found
    exact ⟨_, _, rfl⟩
  · cases found

/-- A read adds up recent stats, of each peer once, and leaves out no peer whose stats
were available. -/
theorem shares (inv : Inv keyPrefix state past) {caller : Nat} {nodeId : String}
    {query : Query} {asked moment : Nat} {replied : Bool} {answer : Answer}
    (finished : ⟨caller, .read nodeId query, .answered asked moment replied answer⟩ ∈
      state.log) :
    ∃ (own : Answer) (shares : List Share) (order : HashOrder),
      Asked past nodeId query asked moment own ∧
      answer = query.addUp order (shares.map Share.stats) own ∧
      (shares.map Share.peer).Nodup ∧
      (∀ share ∈ shares, Recent state.log nodeId asked moment share ∧
        Recorded past share.peer share.started share.written share.stats) ∧
      (replied = true → ∀ peer, Available state.log nodeId asked moment peer →
        peer ∈ shares.map Share.peer) := by
  obtain ⟨own, shares, gathered⟩ :=
    inv.answers _ finished nodeId query asked moment replied answer rfl rfl
  obtain ⟨knew, knewPassed, fetched, fetchedPassed, after, before, fetchedNow, each,
    complete⟩ := gathered.found
  obtain ⟨order, added⟩ := gathered.answer
  have heard : ∀ share : String × Beat, ∃ heard, share ∈ shares →
      (∃ caller, ⟨caller, .hear nodeId share.1, .heard heard⟩ ∈ state.log) ∧
        share.1 ≠ nodeId ∧ heard ≤ knew.shared.now ∧
          knew.shared.now < heard + RedisPubSub.staleThreshold := by
    intro share
    rcases Classical.em (share ∈ shares) with member | absent
    · obtain ⟨heard, facts⟩ := inv.heard_of_knew knewPassed (each share member).1
      exact ⟨heard, fun _ => facts⟩
    · exact ⟨0, fun member => absurd member absent⟩
  choose heardAt facts using heard
  let detail (share : String × Beat) : Share :=
    { peer := share.1, heard := heardAt share, started := share.2.started
      written := share.2.written, stats := share.2.stats }
  have peers : (shares.map detail).map Share.peer = shares.map Prod.fst := by
    rw [List.map_map]
    rfl
  refine ⟨own, shares.map detail, order, gathered.began, ?_, ?_, ?_, ?_⟩
  · rw [added, List.map_map]
    rfl
  · rw [peers]
    exact gathered.once
  · intro share member
    obtain ⟨kept, listed, rfl⟩ := List.mem_map.mp member
    obtain ⟨logged, other, heardBefore, lately⟩ := facts kept listed
    obtain ⟨later, written, lifetime, earlier, whole, _, lasting⟩ :=
      TimedMap.remembered_eq_some.mp (each kept listed).2
    have stored : (written, TimedMap.Call.set kept.1 kept.2 lifetime) ∈
        beats fetched.log := by
      rw [whole]
      exact List.mem_append_right later List.mem_cons_self
    obtain ⟨newer, total, _⟩ := inv.log_of_past fetchedPassed
    obtain ⟨writer, wrote, rfl, rfl⟩ := mem_beats stored
    have writtenBefore := (inv.booked fetched fetchedPassed).beatsDated.2 _ stored
    rw [fetchedNow] at writtenBefore
    refine ⟨⟨other, logged, ⟨heardBefore.trans before, after.trans_lt lately⟩,
      ⟨writer, ?_⟩, writtenBefore, lasting⟩, gathered.recorded kept listed⟩
    rw [total]
    exact List.mem_append_right newer wrote
  · intro hasReplied peer available
    obtain ⟨hearer, heard, heardLogged, heardBefore, heardLately⟩ := available.heard
    obtain ⟨writer, started, written, stats, wrote, writtenBefore, lasting⟩ :=
      available.written
    obtain ⟨beat, found⟩ := inv.fetched_of_written fetchedPassed wrote (by omega)
      (by omega)
    rw [fetchedNow] at found
    rw [peers]
    exact complete hasReplied peer beat
      (inv.knew_of_heard knewPassed heardLogged (by omega) (by omega)) found

end Inv

section

variable {readFloat : DecimalText → Option DecimalText} {keyPrefix : String}
  {nodes : Table String Node} {actions : List (CallAction Nat Operation Choice)}
  {final : State}

def Query.count : Query → Option ((LocalAdapter → Nat) × (Value → Option Nat))
  | .getConnectionCount appId =>
      some (fun locals => locals.getConnectionCount appId, reportedConnections appId)
  | .getChannelSocketCount appId channel =>
      some (fun locals => locals.getChannelSocketCount appId channel,
        reportedSockets appId channel)
  | .getChannels _ => none

theorem sum_filterMap (read : Value → Option Nat) (values : List Value) :
    (values.filterMap read).sum = (values.map fun value => (read value).getD 0).sum := by
  induction values with
  | nil => rfl
  | cons value values induction =>
      rw [List.map_cons, List.sum_cons, List.filterMap_cons, ← induction]
      cases read value with
      | none => exact (Nat.zero_add _).symm
      | some count => rfl

/-- A cluster-wide count is the node's own count when the read began, and of each of
certain other nodes once a count that was right during one round of its heartbeat, which
wrote it less than 15 seconds before; the node has heard of them all in the last minute,
and they include every node whose stats were available. -/
theorem counts_recent
    (reached : (system readFloat keyPrefix nodes).run actions = some final)
    {caller : Nat} {nodeId : String} {query : Query} {asked moment : Nat} {replied : Bool}
    {answer : Answer} {count : LocalAdapter → Nat} {reported : Value → Option Nat}
    (counts : query.count = some (count, reported))
    (finished : ⟨caller, .read nodeId query, .answered asked moment replied answer⟩ ∈
      final.log) :
    let visited := (system readFloat keyPrefix nodes).Visited actions
    ∃ own, ∃ shares : List (Share × Nat),
      answer = .count (own + (shares.map Prod.snd).sum) ∧
      Was visited nodeId asked asked (fun locals => count locals = own) ∧
      (shares.map fun share => share.1.peer).Nodup ∧
      (∀ share ∈ shares, Recent final.log nodeId asked moment share.1 ∧
        Was visited share.1.peer share.1.started share.1.written
          (fun locals => count locals = share.2)) ∧
      (replied = true → ∀ peer, Available final.log nodeId asked moment peer →
        ∃ share ∈ shares, share.1.peer = peer) := by
  intro visited
  obtain ⟨own, shares, order, began, added, once, each, complete⟩ :=
    (inv_of_reached reached).shares finished
  have right : ∀ share ∈ shares, Was visited share.peer share.started share.written
      (fun locals => count locals = (reported share.stats).getD 0) := by
    intro share member
    have recorded := (each share member).2
    cases query with
    | getConnectionCount appId =>
        cases counts
        exact recorded.connections appId
    | getChannelSocketCount appId channel =>
        cases counts
        exact recorded.sockets appId channel
    | getChannels appId => cases counts
  have told : ∃ total, own = .count total ∧
      Was visited nodeId asked asked (fun locals => count locals = total) ∧
      answer = .count (total + ((shares.map Share.stats).filterMap reported).sum) := by
    obtain ⟨state, passed, after, before, node, found, asking, same⟩ := began.own
    cases query with
    | getConnectionCount appId =>
        cases counts
        cases same
        exact ⟨_, rfl, ⟨state, passed, after, before, node, found, rfl⟩, added⟩
    | getChannelSocketCount appId channel =>
        cases counts
        cases same
        exact ⟨_, rfl, ⟨state, passed, after, before, node, found, rfl⟩, added⟩
    | getChannels appId => cases counts
  obtain ⟨total, _, first, whole⟩ := told
  refine ⟨total, shares.map fun share => (share, (reported share.stats).getD 0), ?_, first,
    ?_, ?_, ?_⟩
  · rw [whole, sum_filterMap, List.map_map, List.map_map]
    rfl
  · rw [List.map_map]
    exact once
  · intro share member
    obtain ⟨kept, listed, rfl⟩ := List.mem_map.mp member
    exact ⟨(each kept listed).1, right kept listed⟩
  · intro hasReplied peer available
    obtain ⟨share, listed, same⟩ :=
      List.mem_map.mp (complete hasReplied peer available)
    exact ⟨_, List.mem_map_of_mem listed, same⟩

/-- The cluster-wide list of channels has those that the node listed when the read began
and those that certain other nodes listed during one round of their heartbeats. -/
theorem channels_recent
    (reached : (system readFloat keyPrefix nodes).run actions = some final)
    {caller : Nat} {nodeId appId : String} {asked moment : Nat} {replied : Bool}
    {answer : Answer}
    (finished : ⟨caller, .read nodeId (.getChannels appId),
      .answered asked moment replied answer⟩ ∈ final.log) :
    let visited := (system readFloat keyPrefix nodes).Visited actions
    ∃ (channels own : List String) (shares : List (Share × List String)),
      answer = .channels channels ∧ channels.Nodup ∧
      (∀ channel, channel ∈ channels ↔
        channel ∈ own ∨ ∃ share ∈ shares, channel ∈ share.2) ∧
      Was visited nodeId asked asked (fun locals =>
        ∀ channel, channel ∈ own ↔ channel ∈ (locals.ns appId).channels.keys) ∧
      (shares.map fun share => share.1.peer).Nodup ∧
      (∀ share ∈ shares, Recent final.log nodeId asked moment share.1 ∧
        ∀ channel, Was visited share.1.peer share.1.started share.1.written
          (fun locals => channel ∈ share.2 ↔ channel ∈ (locals.ns appId).channels.keys)) ∧
      (replied = true → ∀ peer, Available final.log nodeId asked moment peer →
        ∃ share ∈ shares, share.1.peer = peer) := by
  intro visited
  obtain ⟨own, shares, order, began, added, once, each, complete⟩ :=
    (inv_of_reached reached).shares finished
  obtain ⟨state, passed, after, before, node, found, asking, rfl⟩ := began.own
  refine ⟨_, node.locals.getChannels asking appId,
    shares.map fun share => (share, reportedChannels appId share.stats), added,
    order.nodup _, ?_, ?_, ?_, ?_, ?_⟩
  · intro channel
    rw [order.mem_list, List.mem_toFinset, List.mem_append]
    apply or_congr_right
    simp only [List.mem_flatMap, List.mem_map, exists_exists_and_eq_and]
  · exact ⟨state, passed, after, before, node, found, fun _ => mem_getChannels⟩
  · rw [List.map_map]
    exact once
  · intro share member
    obtain ⟨kept, listed, rfl⟩ := List.mem_map.mp member
    refine ⟨(each kept listed).1, fun channel => ?_⟩
    exact ((each kept listed).2.channels appId channel).imp fun _ => Iff.symm
  · intro hasReplied peer available
    obtain ⟨share, listed, same⟩ :=
      List.mem_map.mp (complete hasReplied peer available)
    exact ⟨_, List.mem_map_of_mem listed, same⟩

end

/-! A node that has written its stats is read by another a second later. -/

def listing : Choice := { order := .ascending, failing := false }

def beating (query : Query) : List (CallAction Nat Operation Choice) :=
  [.begin 1 (.heartbeat "b"), .advance 1 listing, .advance 1 listing, .advance 1 listing,
    .advance 1 listing, .advance 1 listing, .begin 2 (.hear "a" "b"), .advance 2 listing,
    .begin 3 (.pass 1000000000), .advance 3 listing, .begin 4 (.read "a" query),
    .advance 4 listing, .advance 4 listing, .advance 4 listing]

structure Beaten (query : Query) (final : State) : Prop where
  answered : ∃ answer, ⟨4, .read "a" query,
    .answered 1000000000 1000000000 true answer⟩ ∈ final.log
  heard : ⟨2, .hear "a" "b", .heard 0⟩ ∈ final.log
  written : ∃ stats, ⟨1, .heartbeat "b", .beaten 0 0 stats false⟩ ∈ final.log

theorem reached_beating (query : Query) :
    ∃ final, (system some "rs" (pair subscribing)).run (beating query) = some final ∧
      Beaten query final :=
  ⟨_, rfl, ⟨_, List.mem_cons_self⟩,
    List.mem_cons_of_mem _ (List.mem_cons_of_mem _ List.mem_cons_self),
    _, List.mem_cons_of_mem _ (List.mem_cons_of_mem _
      (List.mem_cons_of_mem _ List.mem_cons_self))⟩

theorem Beaten.available {query : Query} {final : State} (beaten : Beaten query final) :
    Available final.log "a" 1000000000 1000000000 "b" := by
  obtain ⟨stats, written⟩ := beaten.written
  constructor
  · exact ⟨2, 0, beaten.heard, by decide, by decide⟩
  · exact ⟨1, 0, 0, stats, written, by decide, by decide⟩

theorem counts_recent_beating :
    let query := .getChannelSocketCount "app" "room"
    ∃ final, (system some "rs" (pair subscribing)).run (beating query) = some final ∧
      ∃ answer own, ∃ shares : List (Share × Nat),
        ⟨4, .read "a" query, .answered 1000000000 1000000000 true answer⟩ ∈ final.log ∧
        answer = Answer.count (own + (shares.map Prod.snd).sum) ∧
        ∃ share ∈ shares, share.1.peer = "b" := by
  intro query
  obtain ⟨final, reached, beaten⟩ := reached_beating query
  obtain ⟨answer, finished⟩ := beaten.answered
  obtain ⟨own, shares, added, _, _, _, complete⟩ := counts_recent reached rfl finished
  exact ⟨final, reached, answer, own, shares, finished, added,
    complete rfl "b" beaten.available⟩

theorem channels_recent_beating :
    let query := .getChannels "app"
    ∃ final, (system some "rs" (pair subscribing)).run (beating query) = some final ∧
      ∃ (channels own : List String) (shares : List (Share × List String)),
        ⟨4, .read "a" query, .answered 1000000000 1000000000 true (.channels channels)⟩ ∈
          final.log ∧
        (∀ channel, channel ∈ channels ↔
          channel ∈ own ∨ ∃ share ∈ shares, channel ∈ share.2) ∧
        ∃ share ∈ shares, share.1.peer = "b" := by
  intro query
  obtain ⟨final, reached, beaten⟩ := reached_beating query
  obtain ⟨answer, finished⟩ := beaten.answered
  obtain ⟨channels, own, shares, same, _, union, _, _, _, complete⟩ :=
    channels_recent reached finished
  rw [same] at finished
  exact ⟨final, reached, channels, own, shares, finished, union,
    complete rfl "b" beaten.available⟩

end RushSocket.Adapter.Redis.Heartbeats
