import RushSocket.Adapter.Redis.Requests

namespace RushSocket.Adapter.Redis.Requests

open Data Transition

/-! What a call has to do with the tables, by where it stands. -/

def Point.requestId? : Point → Option String
  | .counting requestId | .inserting requestId _ | .publishing requestId
  | .waiting requestId | .removing requestId _ | .tallying requestId => some requestId
  | .drawing | .looking | .pushing | .recording => none

def Point.held? : Point → Option String
  | .publishing requestId | .waiting requestId | .removing requestId _ => some requestId
  | .drawing | .counting _ | .inserting _ _ | .tallying _ | .looking | .pushing
  | .recording => none

/-- The id of an entry that the call is yet to insert. -/
def Point.early? : Point → Option String
  | .counting requestId | .inserting requestId _ => some requestId
  | .drawing | .publishing _ | .waiting _ | .removing _ _ | .tallying _ | .looking
  | .pushing | .recording => none

def Returned.requestId? : Returned → Option String
  | .responses requestId _ | .peers requestId _ => some requestId
  | .handled _ | .recorded => none

abbrev Call := Option (Operation × Point)

def idOf (call : Call) : Option String := call.bind fun call => call.2.requestId?

def entryOf (call : Call) : Option String := call.bind fun call => call.2.held?

def earlyOf (call : Call) : Option String := call.bind fun call => call.2.early?

def pushingOf : Call → Option Response
  | some (.handleResponse response, .pushing) => some response
  | _ => none

def pushed? (done : Finished Nat Operation Returned) : Option Response :=
  match done.operation, done.result with
  | .handleResponse response, .handled true => some response
  | _, _ => none

abbrev Log := List (Finished Nat Operation Returned)

/-- The answers to a request that handlers have put into its entry, in order. -/
def pushedTo (requestId : String) (log : Log) : List ResponsePayload :=
  payloadsFor requestId (log.filterMap pushed?).reverse

def resultId (progress : Progress Point Returned) : Option String :=
  match progress with
  | .running point => point.requestId?
  | .finished result => result.requestId?

/-! Everything that a step can do. -/

inductive Effect (shared : Shared) (operation : Operation) (point : Point) :
    Shared → Progress Point Returned → Prop
  | draws (requestId : String) (next : Point) (fresh : requestId ∉ shared.issued)
      (idle : point.requestId? = none) (drawn : next.early? = some requestId) :
      Effect shared operation point (shared.issue requestId) (.running next)
  | inserts (requestId : String) (expectedCount : Nat)
      (early : point.early? = some requestId) :
      Effect shared operation point (shared.insertPending requestId expectedCount)
        (.running (.publishing requestId))
  | removes (requestId : String) (progress : Progress Point Returned)
      (held : point.held? = some requestId) (same : resultId progress = some requestId)
      (let_go : entryOf (progress.call operation) = none)
      (late : earlyOf (progress.call operation) = none) :
      Effect shared operation point (shared.removePending requestId) progress
  | pushes (response : Response) (handling : operation = .handleResponse response)
      (found : point = .pushing) :
      Effect shared operation point (shared.push response) (.finished (.handled true))
  | idles (after : Shared) (progress : Progress Point Returned)
      (issued : after.issued = shared.issued)
      (pending : after.pubsub.pending = shared.pubsub.pending)
      (removed : after.removed = shared.removed)
      (sameId : resultId progress = point.requestId?)
      (sameEntry : entryOf (progress.call operation) = point.held?)
      (sameEarly : ∀ requestId, earlyOf (progress.call operation) = some requestId →
        point.early? = some requestId)
      (finds : ∀ response, pushingOf (progress.call operation) = some response →
        response.requestId ∈ shared.pubsub.pending)
      (quiet : ∀ caller, ∀ result, progress = .finished result →
        pushed? ⟨caller, operation, result⟩ = none) :
      Effect shared operation point after progress

/-- The publish of a `request` is to fail. -/
def failsToPublish : Call → Choice → Bool
  | some (.request, .publishing _), .publishes false => true
  | _, _ => false

def Publishes (state : State) : Action → Prop
  | .begin _ _ => True
  | .advance caller choice => failsToPublish (state.calls.lookup caller) choice = false

instance (state : State) : (action : Action) → Decidable (Publishes state action)
  | .begin _ _ => .isTrue trivial
  | .advance caller choice =>
      inferInstanceAs (Decidable (failsToPublish (state.calls.lookup caller) choice = false))

section

variable {shared after : Shared} {caller : Nat} {operation : Operation} {point : Point}
  {choice : Choice} {progress : Progress Point Returned}

theorem Point.of_early {requestId : String} (early : point.early? = some requestId) :
    point.requestId? = some requestId ∧ point.held? = none := by
  cases point with
  | counting _ | inserting _ _ => exact ⟨early, rfl⟩
  | drawing | publishing _ | waiting _ | removing _ _ | tallying _ | looking | pushing
  | recording => exact nomatch early

theorem Point.of_entry {requestId : String} (held : point.held? = some requestId) :
    point.requestId? = some requestId ∧ point.early? = none := by
  cases point with
  | publishing _ | waiting _ | removing _ _ => exact ⟨held, rfl⟩
  | drawing | counting _ | inserting _ _ | tallying _ | looking | pushing | recording =>
      exact nomatch held

theorem Effect.goes_on {next : Point} (sameId : next.requestId? = point.requestId?)
    (sameEntry : next.held? = point.held?)
    (sameEarly : ∀ requestId, next.early? = some requestId → point.early? = some requestId)
    (pubsub : after.pubsub.pending = shared.pubsub.pending)
    (issued : after.issued = shared.issued) (removed : after.removed = shared.removed)
    (finds : next ≠ .pushing) :
    Effect shared operation point after (.running next) := by
  refine .idles after _ issued pubsub removed sameId sameEntry sameEarly ?_ ?_
  · intro response pushing
    unfold pushingOf Progress.call at pushing
    split at pushing
    · rename_i same
      cases same
      exact absurd rfl finds
    · cases pushing
  · exact fun _ _ running => nomatch running

theorem effect_of_advance
    (publishes : failsToPublish (some (operation, point)) choice = false)
    (advanced : advance shared caller operation point choice = some (after, progress)) :
    Effect shared operation point after progress := by
  unfold advance at advanced
  split at advanced
  · -- a request draws its id
    split at advanced
    · cases advanced
    · rename_i fresh
      cases advanced
      exact .draws _ _ fresh rfl rfl
  · split at advanced
    · cases advanced
    · rename_i fresh
      cases advanced
      exact .draws _ _ fresh rfl rfl
  · -- the peers are counted
    cases advanced
    split
    · exact .idles _ _ rfl rfl rfl rfl rfl (fun _ none_ => nomatch none_)
        (fun _ none_ => nomatch none_) (fun _ _ same => by cases same; rfl)
    · exact .goes_on rfl rfl (fun _ early => early) rfl rfl rfl nofun
  · cases advanced
    exact .inserts _ _ rfl
  · cases advanced
    exact .inserts _ _ rfl
  · -- a publish that fails is excluded for a request
    rename_i published
    cases published with
    | true =>
        cases advanced
        exact .goes_on rfl rfl (fun _ none_ => nomatch none_) rfl rfl rfl nofun
    | false => exact nomatch publishes
  · rename_i published
    cases advanced
    split
    · exact .goes_on rfl rfl (fun _ none_ => nomatch none_) rfl rfl rfl nofun
    · exact .goes_on rfl rfl (fun _ none_ => nomatch none_) rfl rfl rfl nofun
  · cases advanced
    exact .goes_on rfl rfl (fun _ none_ => nomatch none_) rfl rfl rfl nofun
  · cases advanced
    exact .goes_on rfl rfl (fun _ none_ => nomatch none_) rfl rfl rfl nofun
  · -- the three ways to remove the entry
    cases advanced
    exact .removes _ _ rfl rfl rfl rfl
  · cases advanced
    exact .removes _ _ rfl rfl rfl rfl
  · cases advanced
    exact .removes _ _ rfl rfl rfl rfl
  · cases advanced
    exact .idles _ _ rfl rfl rfl rfl rfl (fun _ none_ => nomatch none_)
      (fun _ none_ => nomatch none_) (fun _ _ same => by cases same; rfl)
  · -- a handler looks for the entry
    cases advanced
    split
    · rename_i found
      exact .idles _ _ rfl rfl rfl rfl rfl (fun _ none_ => nomatch none_)
        (fun _ same => by cases same; exact found) (fun _ _ running => nomatch running)
    · exact .idles _ _ rfl rfl rfl rfl rfl (fun _ none_ => nomatch none_)
        (fun _ none_ => nomatch none_) (fun _ _ same => by cases same; rfl)
  · cases advanced
    exact .pushes _ rfl rfl
  · cases advanced
    exact .idles _ _ rfl rfl rfl rfl rfl (fun _ none_ => nomatch none_)
      (fun _ none_ => nomatch none_) (fun _ _ same => by cases same; rfl)
  · cases advanced

end

/-! The tables after a step. -/

section

variable {shared after : Shared} {requestId other : String} {response : Response}

def Known (shared : Shared) (requestId : String) : Prop :=
  requestId ∈ shared.pubsub.pending ∨ requestId ∈ shared.removed

theorem mem_pending_insertPending {expectedCount : Nat} :
    other ∈ (shared.insertPending requestId expectedCount).pubsub.pending ↔
      other = requestId ∨ other ∈ shared.pubsub.pending :=
  Finmap.mem_insert

theorem mem_pending_removePending :
    other ∈ (shared.removePending requestId).pubsub.pending ↔
      other ≠ requestId ∧ other ∈ shared.pubsub.pending :=
  Finmap.mem_erase

theorem mem_modify {table : Table String PendingState}
    {change : PendingState → PendingState} :
    other ∈ table.modify requestId change ↔ other ∈ table := by
  rw [← Finmap.mem_keys, Table.keys_modify, Finmap.mem_keys]

theorem mem_pending_push :
    other ∈ (shared.push response).pubsub.pending ↔ other ∈ shared.pubsub.pending :=
  mem_modify

theorem mem_removed_push :
    other ∈ (shared.push response).removed ↔ other ∈ shared.removed :=
  mem_modify

theorem mem_removed_removePending (present : requestId ∈ shared.pubsub.pending) :
    other ∈ (shared.removePending requestId).removed ↔
      other = requestId ∨ other ∈ shared.removed := by
  obtain ⟨state, found⟩ := Finmap.mem_iff.mp present
  simp only [Shared.removePending, found]
  exact Finmap.mem_insert

end

/-- The ids of calls in progress are theirs alone, and not those of finished calls. -/
structure Distinct (state : State) : Prop where
  unique : ∀ {caller other requestId}, idOf (state.calls.lookup caller) = some requestId →
    idOf (state.calls.lookup other) = some requestId → caller = other
  issued : ∀ {caller requestId}, idOf (state.calls.lookup caller) = some requestId →
    requestId ∈ state.shared.issued
  retired : ∀ {done requestId}, done ∈ state.log → done.result.requestId? = some requestId →
    requestId ∈ state.shared.issued ∧
      ∀ caller, idOf (state.calls.lookup caller) ≠ some requestId

section

variable {state : State} {shared after : Shared} {caller other : Nat}
  {operation : Operation} {point : Point} {progress : Progress Point Returned}
  {requestId : String}

theorem idOf_call (progress : Progress Point Returned)
    (known : idOf (progress.call operation) = some requestId) :
    resultId progress = some requestId := by
  cases progress with
  | running next => exact known
  | finished result => exact nomatch known

theorem mem_log_settle {done : Finished Nat Operation Returned}
    (member : done ∈ (state.settle caller operation after progress).log) :
    done ∈ state.log ∨ ∃ result, progress = .finished result ∧
      done = ⟨caller, operation, result⟩ := by
  cases progress with
  | running next => exact .inl member
  | finished result =>
      rcases List.mem_cons.mp member with same | old
      · exact .inr ⟨result, rfl, same⟩
      · exact .inl old

theorem Effect.id_law (effect : Effect shared operation point after progress)
    (issued : ∀ requestId, point.requestId? = some requestId → requestId ∈ shared.issued) :
    shared.issued ⊆ after.issued ∧ ∀ requestId, resultId progress = some requestId →
      requestId ∈ after.issued ∧
        (point.requestId? = some requestId ∨ requestId ∉ shared.issued) := by
  cases effect with
  | draws requestId next fresh idle drawn =>
      refine ⟨Finset.subset_insert _ _, fun other named => ?_⟩
      cases (Point.of_early drawn).1.symm.trans named
      exact ⟨Finset.mem_insert_self _ _, .inr fresh⟩
  | inserts requestId expectedCount early =>
      have own := (Point.of_early early).1
      refine ⟨Finset.Subset.refl _, fun other named => ?_⟩
      cases named
      exact ⟨issued requestId own, .inl own⟩
  | removes requestId progress held same let_go late =>
      have own := (Point.of_entry held).1
      refine ⟨Finset.Subset.refl _, fun other named => ?_⟩
      cases same.symm.trans named
      exact ⟨issued requestId own, .inl own⟩
  | pushes response handling found =>
      exact ⟨Finset.Subset.refl _, fun _ named => nomatch named⟩
  | idles after progress same pending removed sameId =>
      refine ⟨same ▸ Finset.Subset.refl _, fun requestId named => ?_⟩
      have own := sameId.symm.trans named
      exact ⟨same ▸ issued requestId own, .inl own⟩

theorem Distinct.settle (distinct : Distinct state)
    (found : state.calls.lookup caller = some (operation, point))
    (effect : Effect state.shared operation point after progress) :
    Distinct (state.settle caller operation after progress) := by
  have own : ∀ requestId, point.requestId? = some requestId →
      idOf (state.calls.lookup caller) = some requestId := by
    intro requestId named
    rw [found]
    exact named
  obtain ⟨more, law⟩ := effect.id_law fun requestId named => distinct.issued (own _ named)
  have apart : ∀ {requestId other}, other ≠ caller → resultId progress = some requestId →
      idOf (state.calls.lookup other) ≠ some requestId := by
    intro requestId other different result named
    rcases (law requestId result).2 with kept | fresh
    · exact different (distinct.unique named (own _ kept))
    · exact fresh (distinct.issued named)
  refine ⟨?_, ?_, ?_⟩
  · intro first second requestId known knownToo
    rw [Calls.lookup_settle] at known knownToo
    split at known
    · rename_i isFirst
      split at knownToo
      · rename_i isSecond
        exact isFirst.trans isSecond.symm
      · rename_i different
        exact absurd knownToo (apart different (idOf_call progress known))
    · rename_i different
      split at knownToo
      · exact absurd known (apart different (idOf_call progress knownToo))
      · exact distinct.unique known knownToo
  · intro caller' requestId known
    rw [Calls.lookup_settle] at known
    rw [Calls.settle_shared]
    split at known
    · exact (law requestId (idOf_call progress known)).1
    · exact more (distinct.issued known)
  · intro done requestId member named
    rw [Calls.settle_shared]
    rcases mem_log_settle member with old | ⟨result, rfl, rfl⟩
    · obtain ⟨issued, gone⟩ := distinct.retired old named
      refine ⟨more issued, fun other known => ?_⟩
      rw [Calls.lookup_settle] at known
      split at known
      · rcases (law requestId (idOf_call progress known)).2 with kept | fresh
        · exact gone caller (own _ kept)
        · exact fresh issued
      · exact gone other known
    · refine ⟨(law requestId named).1, fun other known => ?_⟩
      rw [Calls.lookup_settle] at known
      split at known
      · exact nomatch known
      · rename_i different
        exact apart different named known

/-! The entries are those of the calls in progress. -/

theorem Point.held?_eq_none (idle : point.requestId? = none) : point.held? = none := by
  cases held : point.held? with
  | none => rfl
  | some requestId => exact nomatch idle.symm.trans (Point.of_entry held).1

theorem Effect.pending_law (effect : Effect shared operation point after progress)
    (present : ∀ requestId, point.held? = some requestId →
      requestId ∈ shared.pubsub.pending) (requestId : String) :
    requestId ∈ after.pubsub.pending ↔
      (requestId ∈ shared.pubsub.pending ∧ point.held? ≠ some requestId) ∨
        entryOf (progress.call operation) = some requestId := by
  cases effect with
  | draws drawnId next fresh idle drawn =>
      have before := Point.held?_eq_none idle
      have later : entryOf (Progress.call operation
          (.running next : Progress Point Returned)) = none := (Point.of_early drawn).2
      rw [before, later]
      simp [Shared.issue]
  | inserts inserted expectedCount early =>
      rw [mem_pending_insertPending, (Point.of_early early).2]
      simp [entryOf, Progress.call, Point.held?, or_comm, eq_comm]
  | removes removed progress held same let_go late =>
      rw [mem_pending_removePending, held, let_go]
      simp [and_comm, eq_comm]
  | pushes response handling found =>
      rw [mem_pending_push, found]
      simp [Point.held?, entryOf, Progress.call]
  | idles after progress issued pending removed sameId sameEntry =>
      rw [pending, sameEntry]
      constructor
      · intro member
        cases held : decide (point.held? = some requestId) with
        | true => exact .inr (of_decide_eq_true held)
        | false => exact .inl ⟨member, of_decide_eq_false held⟩
      · rintro (⟨member, _⟩ | held)
        · exact member
        · exact present requestId held

theorem idOf_of_entryOf {call : Call} (held : entryOf call = some requestId) :
    idOf call = some requestId := by
  obtain ⟨⟨operation, point⟩, known, entry⟩ := Option.bind_eq_some_iff.mp held
  rw [known]
  exact (Point.of_entry entry).1

/-- Every entry is that of a call in progress, and these have all their entries. -/
def Held (state : State) : Prop :=
  ∀ requestId, requestId ∈ state.shared.pubsub.pending ↔
    ∃ caller, entryOf (state.calls.lookup caller) = some requestId

theorem Held.settle (held : Held state) (distinct : Distinct state)
    (found : state.calls.lookup caller = some (operation, point))
    (effect : Effect state.shared operation point after progress) :
    Held (state.settle caller operation after progress) := by
  have own : entryOf (state.calls.lookup caller) = point.held? := by
    rw [found]
    rfl
  have law := effect.pending_law fun requestId entry =>
    (held requestId).mpr ⟨caller, own.trans entry⟩
  intro requestId
  rw [Calls.settle_shared, law]
  constructor
  · rintro (⟨member, others⟩ | mine)
    · obtain ⟨other, entry⟩ := (held requestId).mp member
      have different : other ≠ caller := by
        rintro rfl
        exact others (own.symm.trans entry)
      exact ⟨other, by rw [Calls.lookup_settle, if_neg different, entry]⟩
    · exact ⟨caller, by rw [Calls.lookup_settle, if_pos rfl, mine]⟩
  · rintro ⟨other, entry⟩
    rw [Calls.lookup_settle] at entry
    split at entry
    · exact .inr entry
    · rename_i different
      refine .inl ⟨(held requestId).mpr ⟨other, entry⟩, fun mine => different ?_⟩
      exact distinct.unique (idOf_of_entryOf entry) (idOf_of_entryOf (own.trans mine))

/-! What is in the entries. -/

theorem Effect.known_law (effect : Effect shared operation point after progress)
    (present : ∀ requestId, point.held? = some requestId →
      requestId ∈ shared.pubsub.pending) (requestId : String) :
    (Known shared requestId → Known after requestId) ∧
      (Known after requestId → Known shared requestId ∨
        point.early? = some requestId ∧ progress = .running (.publishing requestId)) := by
  cases effect with
  | draws drawnId next fresh idle drawn => exact ⟨id, .inl⟩
  | inserts inserted expectedCount early =>
      unfold Known
      rw [mem_pending_insertPending]
      refine ⟨Or.imp_left .inr, ?_⟩
      rintro ((rfl | member) | member)
      · exact .inr ⟨early, rfl⟩
      · exact .inl (.inl member)
      · exact .inl (.inr member)
  | removes removed progress held same let_go late =>
      have member := present removed held
      unfold Known
      rw [mem_pending_removePending, mem_removed_removePending member]
      constructor
      · rintro (there | there)
        · cases own : decide (requestId = removed) with
          | true => exact .inr (.inl (of_decide_eq_true own))
          | false => exact .inl ⟨of_decide_eq_false own, there⟩
        · exact .inr (.inr there)
      · rintro (there | rfl | there)
        · exact .inl (.inl there.2)
        · exact .inl (.inl member)
        · exact .inl (.inr there)
  | pushes response handling found =>
      unfold Known
      rw [mem_pending_push, mem_removed_push]
      exact ⟨id, .inl⟩
  | idles after progress issued pending removed =>
      unfold Known
      rw [pending, removed]
      exact ⟨id, .inl⟩

theorem Effect.early_law (effect : Effect shared operation point after progress)
    (early : earlyOf (progress.call operation) = some requestId) :
    point.early? = some requestId ∨ requestId ∉ shared.issued := by
  cases effect with
  | draws drawnId next fresh idle drawn =>
      cases drawn.symm.trans early
      exact .inr fresh
  | inserts inserted expectedCount before => exact nomatch early
  | removes removed progress held same let_go late => exact nomatch late.symm.trans early
  | pushes response handling found => exact nomatch early
  | idles after progress issued pending removed sameId sameEntry sameEarly =>
      exact .inl (sameEarly requestId early)

theorem pushingOf_eq_some {response : Response}
    (pushing : pushingOf (progress.call operation) = some response) :
    operation = .handleResponse response ∧ progress = .running .pushing := by
  cases progress with
  | finished result => exact nomatch pushing
  | running next =>
      unfold pushingOf Progress.call at pushing
      split at pushing
      · rename_i same
        cases same
        cases pushing
        exact ⟨rfl, rfl⟩
      · cases pushing

theorem Effect.pushing_law {response : Response}
    (effect : Effect shared operation point after progress)
    (pushing : pushingOf (progress.call operation) = some response) :
    response.requestId ∈ shared.pubsub.pending := by
  have running := (pushingOf_eq_some pushing).2
  cases effect with
  | draws drawnId next fresh idle drawn =>
      cases running
      exact nomatch drawn
  | inserts inserted expectedCount early => exact nomatch running
  | removes removed progress held same let_go late =>
      cases running
      exact nomatch same
  | pushes response handling found => exact nomatch running
  | idles after progress issued pending removed sameId sameEntry sameEarly finds =>
      exact finds response pushing

theorem pushed?_eq_some {done : Finished Nat Operation Returned} {response : Response}
    (pushed : pushed? done = some response) :
    done.operation = .handleResponse response ∧ done.result = .handled true := by
  unfold pushed? at pushed
  split at pushed
  · rename_i handling handled
    cases pushed
    exact ⟨handling, handled⟩
  · cases pushed

theorem pushed?_eq_none {result : Returned} (named : result.requestId? = some requestId) :
    pushed? ⟨caller, operation, result⟩ = none := by
  refine Option.eq_none_iff_forall_ne_some.mpr fun response pushed => ?_
  have handled : result = .handled true := (pushed?_eq_some pushed).2
  rw [handled] at named
  exact nomatch named

/-- What a step adds to the answers that were put into entries. -/
theorem Effect.pushed_law (effect : Effect shared operation point after progress)
    (caller : Nat) {result : Returned} (finished : progress = .finished result) :
    pushed? ⟨caller, operation, result⟩ = none ∨
      ∃ response, pushed? ⟨caller, operation, result⟩ = some response ∧
        pushingOf (some (operation, point)) = some response ∧
          after = shared.push response := by
  cases effect with
  | draws drawnId next fresh idle drawn => exact nomatch finished
  | inserts inserted expectedCount early => exact nomatch finished
  | removes removed progress held same let_go late =>
      rw [finished] at same
      exact .inl (pushed?_eq_none same)
  | pushes response handling found =>
      cases finished
      exact .inr ⟨response, by rw [handling]; rfl, by rw [handling, found]; rfl, rfl⟩
  | idles after progress issued pending removed sameId sameEntry sameEarly finds quiet =>
      exact .inl (quiet caller result finished)

structure Kept (state : State) : Prop where
  known : ∀ {requestId}, Known state.shared requestId → requestId ∈ state.shared.issued
  early : ∀ {caller requestId}, earlyOf (state.calls.lookup caller) = some requestId →
    ¬ Known state.shared requestId
  finds : ∀ {caller response}, pushingOf (state.calls.lookup caller) = some response →
    Known state.shared response.requestId
  answered : ∀ {done response}, done ∈ state.log → pushed? done = some response →
    Known state.shared response.requestId

theorem idOf_of_earlyOf {call : Call} (early : earlyOf call = some requestId) :
    idOf call = some requestId := by
  obtain ⟨⟨operation, point⟩, known, before⟩ := Option.bind_eq_some_iff.mp early
  rw [known]
  exact (Point.of_early before).1

theorem Kept.settle (kept : Kept state) (held : Held state) (distinct : Distinct state)
    (found : state.calls.lookup caller = some (operation, point))
    (effect : Effect state.shared operation point after progress) :
    Kept (state.settle caller operation after progress) := by
  have ownEntry : entryOf (state.calls.lookup caller) = point.held? := by
    rw [found]
    rfl
  have ownEarly : earlyOf (state.calls.lookup caller) = point.early? := by
    rw [found]
    rfl
  have law := effect.known_law fun requestId entry =>
    (held requestId).mpr ⟨caller, ownEntry.trans entry⟩
  have more := (effect.id_law fun requestId named =>
    @Distinct.issued _ distinct caller _ (by rw [found]; exact named)).1
  refine ⟨?_, ?_, ?_, ?_⟩
  · intro requestId known
    rw [Calls.settle_shared] at known ⊢
    rcases (law requestId).2 known with before | ⟨early, _⟩
    · exact more (kept.known before)
    · exact more (distinct.issued (idOf_of_earlyOf (ownEarly.trans early)))
  · intro other requestId early known
    rw [Calls.lookup_settle] at early
    rw [Calls.settle_shared] at known
    split at early
    · rcases (law requestId).2 known with before | ⟨_, publishing⟩
      · rcases effect.early_law early with own | fresh
        · exact kept.early (ownEarly.trans own) before
        · exact fresh (kept.known before)
      · rw [publishing] at early
        exact nomatch early
    · rename_i different
      rcases (law requestId).2 known with before | ⟨own, _⟩
      · exact kept.early early before
      · exact different (distinct.unique (idOf_of_earlyOf early)
          (idOf_of_earlyOf (ownEarly.trans own)))
  · intro other response pushing
    rw [Calls.lookup_settle] at pushing
    rw [Calls.settle_shared]
    split at pushing
    · exact (law _).1 (.inl (effect.pushing_law pushing))
    · exact (law _).1 (kept.finds pushing)
  · intro done response member pushed
    rw [Calls.settle_shared]
    rcases mem_log_settle member with old | ⟨result, finished, rfl⟩
    · exact (law _).1 (kept.answered old pushed)
    · rcases effect.pushed_law caller finished with nothing | ⟨sent, same, pushing, _⟩
      · exact nomatch nothing.symm.trans pushed
      · cases same.symm.trans pushed
        exact (law _).1 (kept.finds (by rw [found]; exact pushing))

theorem pushedTo_cons (done : Finished Nat Operation Returned) (log : Log) :
    pushedTo requestId (done :: log) =
      pushedTo requestId log ++ payloadsFor requestId (pushed? done).toList := by
  unfold pushedTo payloadsFor
  cases pushed : pushed? done with
  | none => rw [List.filterMap_cons_none pushed, Option.toList, List.filter_nil,
      List.map_nil, List.append_nil]
  | some response => rw [List.filterMap_cons_some pushed, List.reverse_cons,
      List.filter_append, List.map_append, Option.toList]

theorem pushedTo_eq_nil {log : Log} (none_ : ∀ done ∈ log, ∀ response,
    pushed? done = some response → response.requestId ≠ requestId) :
    pushedTo requestId log = [] := by
  induction log with
  | nil => rfl
  | cons done rest induction =>
      rw [pushedTo_cons, induction fun other member =>
        none_ other (List.mem_cons_of_mem done member), List.nil_append]
      cases pushed : pushed? done with
      | none => rfl
      | some response =>
          have other := none_ done List.mem_cons_self response pushed
          simp [payloadsFor, other]

/-- An entry has exactly the answers that handlers have put into it. -/
def Filled (state : State) : Prop :=
  ∀ requestId entry, state.shared.pubsub.pending.lookup requestId = some entry →
    ∃ expectedCount, entry =
      (PendingState.new expectedCount).pushAll (pushedTo requestId state.log)

theorem pushedTo_settle (quiet : ∀ result, progress = .finished result →
      pushed? ⟨caller, operation, result⟩ = none) :
    pushedTo requestId (state.settle caller operation after progress).log =
      pushedTo requestId state.log := by
  cases progress with
  | running next => rfl
  | finished result =>
      change pushedTo requestId (_ :: state.log) = _
      rw [pushedTo_cons, quiet result rfl]
      exact List.append_nil _

theorem Filled.settle (filled : Filled state) (kept : Kept state)
    (found : state.calls.lookup caller = some (operation, point))
    (effect : Effect state.shared operation point after progress) :
    Filled (state.settle caller operation after progress) := by
  intro requestId entry stored
  rw [Calls.settle_shared] at stored
  cases effect with
  | draws drawnId next fresh idle drawn => exact filled requestId entry stored
  | inserts inserted expectedCount early =>
      change (state.shared.pubsub.pending.insert inserted _).lookup requestId = _ at stored
      rw [Table.lookup_put] at stored
      split at stored
      · rename_i same
        cases stored
        have unknown : ¬ Known state.shared requestId := by
          rw [same]
          exact kept.early (by rw [found]; exact early)
        have nothing : pushedTo requestId state.log = [] :=
          pushedTo_eq_nil fun done member response pushed own =>
            unknown (own ▸ kept.answered member pushed)
        refine ⟨expectedCount, ?_⟩
        change _ = PendingState.pushAll _ (pushedTo requestId state.log)
        rw [nothing]
        rfl
      · exact filled requestId entry stored
  | removes removed progress held same let_go late =>
      change (state.shared.pubsub.pending.erase removed).lookup requestId = _ at stored
      rw [Table.lookup_drop] at stored
      split at stored
      · cases stored
      · have quiet : ∀ result, progress = .finished result →
            pushed? ⟨caller, operation, result⟩ = none := by
          rintro result rfl
          exact pushed?_eq_none same
        rw [pushedTo_settle quiet]
        exact filled requestId entry stored
  | pushes response handling pushing =>
      change (state.shared.pubsub.pending.modify response.requestId _).lookup requestId = _
        at stored
      change ∃ expectedCount, entry = PendingState.pushAll _
        (pushedTo requestId (⟨caller, operation, .handled true⟩ :: state.log))
      rw [handling, pushedTo_cons]
      change ∃ expectedCount, entry = PendingState.pushAll _
        (pushedTo requestId state.log ++ payloadsFor requestId [response])
      rw [Table.lookup_modify] at stored
      split at stored
      · rename_i same
        obtain ⟨before, present, rfl⟩ := Option.map_eq_some_iff.mp stored
        obtain ⟨expectedCount, rfl⟩ := filled response.requestId before present
        refine ⟨expectedCount, ?_⟩
        have own : payloadsFor requestId [response] = [response.payload] := by
          simp [payloadsFor, same]
        rw [own, PendingState.pushAll_append, same]
        rfl
      · rename_i different
        have other : payloadsFor requestId [response] = [] := by
          simp [payloadsFor, Ne.symm different]
        rw [other, List.append_nil]
        exact filled requestId entry stored
  | idles after progress issued pending removed sameId sameEntry sameEarly finds quiet =>
      rw [pending] at stored
      rw [pushedTo_settle (quiet caller)]
      exact filled requestId entry stored

/-! Whole runs. -/

structure Inv (state : State) : Prop where
  distinct : Distinct state
  held : Held state
  kept : Kept state
  filled : Filled state

theorem read_begun {α : Type} {read : Call → Option α} (idle : read none = none)
    (entering : ∀ operation, read (some (operation, enter operation)) = none)
    (absent : state.calls.lookup caller = none) (operation : Operation) (other : Nat) :
    read (Finmap.lookup other (state.calls.insert caller (operation, enter operation))) =
      read (state.calls.lookup other) := by
  rw [Table.lookup_put]
  split
  · rename_i same
    rw [entering, same, absent, idle]
  · rfl

theorem Inv.begin (inv : Inv state) (absent : state.calls.lookup caller = none) :
    Inv { state with calls := state.calls.insert caller (operation, enter operation) } := by
  have ids := @read_begun state caller _ idOf rfl
    (fun operation => by cases operation <;> rfl) absent operation
  have entries := @read_begun state caller _ entryOf rfl
    (fun operation => by cases operation <;> rfl) absent operation
  have earlies := @read_begun state caller _ earlyOf rfl
    (fun operation => by cases operation <;> rfl) absent operation
  have handlers := @read_begun state caller _ pushingOf rfl
    (fun operation => by cases operation <;> rfl) absent operation
  refine ⟨⟨?_, ?_, ?_⟩, fun requestId => ?_, ⟨inv.kept.known, ?_, ?_, inv.kept.answered⟩,
    inv.filled⟩
  · intro first second requestId known knownToo
    exact inv.distinct.unique ((ids first).symm.trans known)
      ((ids second).symm.trans knownToo)
  · intro other requestId known
    exact inv.distinct.issued ((ids other).symm.trans known)
  · intro done requestId member named
    obtain ⟨issued, gone⟩ := inv.distinct.retired member named
    exact ⟨issued, fun other known => gone other ((ids other).symm.trans known)⟩
  · refine (inv.held requestId).trans (exists_congr fun other => ?_)
    rw [entries other]
  · intro other requestId early
    exact inv.kept.early ((earlies other).symm.trans early)
  · intro other response pushing
    exact inv.kept.finds ((handlers other).symm.trans pushing)

theorem Inv.start (knownNodes : Table String Nat) :
    Inv { shared := .start knownNodes, calls := ∅, log := [] } where
  distinct := ⟨nofun, nofun, nofun⟩
  held requestId := by
    constructor
    · exact fun member => absurd member Finmap.notMem_empty
    · rintro ⟨caller, entry⟩
      exact nomatch entry
  kept := by
    have unknown : ∀ requestId, ¬ Known (.start knownNodes) requestId := by
      rintro requestId (member | member)
      · exact Finmap.notMem_empty member
      · exact Finmap.notMem_empty member
    exact ⟨fun known => absurd known (unknown _), nofun, nofun, nofun⟩
  filled _ _ := nofun

end

theorem Inv.of_run {knownNodes : Table String Nat} {actions : List Action} {final : State}
    (reached : (system knownNodes).run actions = some final)
    (guarded : (system knownNodes).Guarded Publishes actions) : Inv final := by
  refine Calls.invariant (Inv.start knownNodes) ?_ ?_ reached guarded
  · intro state caller operation inv absent _
    exact inv.begin absent
  · intro state caller operation point choice after progress inv found publishes advanced
    have effect : Effect state.shared operation point after progress :=
      @effect_of_advance _ _ caller _ _ _ _ (found ▸ publishes) advanced
    exact ⟨inv.distinct.settle found effect, inv.held.settle inv.distinct found effect,
      inv.kept.settle inv.held inv.distinct found effect,
      inv.filled.settle inv.kept found effect⟩

/-- When no publish of a `request` fails, in every interleaving, a call that has returned
has left no entry, and the entry of every call in progress is there, with what handlers
have put into it and nothing else. -/
theorem calls_clean_up {knownNodes : Table String Nat} {actions : List Action}
    {final : State} (reached : (system knownNodes).run actions = some final)
    (guarded : (system knownNodes).Guarded Publishes actions) :
    (∀ done ∈ final.log, ∀ requestId, done.result.requestId? = some requestId →
      requestId ∉ final.shared.pubsub.pending) ∧
    ∀ caller operation point requestId,
      final.calls.lookup caller = some (operation, point) →
        point.held? = some requestId →
          ∃ expectedCount, final.shared.pubsub.pending.lookup requestId =
            some ((PendingState.new expectedCount).pushAll
              (pushedTo requestId final.log)) := by
  have inv := Inv.of_run reached guarded
  constructor
  · intro done member requestId named there
    obtain ⟨caller, entry⟩ := (inv.held requestId).mp there
    exact (inv.distinct.retired member named).2 caller (idOf_of_entryOf entry)
  · intro caller operation point requestId found held
    have entry : entryOf (final.calls.lookup caller) = some requestId := by
      rw [found]
      exact held
    obtain ⟨stored, present⟩ :=
      Finmap.mem_iff.mp ((inv.held requestId).mpr ⟨caller, entry⟩)
    obtain ⟨expectedCount, rfl⟩ := inv.filled requestId stored present
    exact ⟨expectedCount, present⟩

def opening : List Action :=
  [.begin 0 (.recordPeer "other" 0), .advance 0 .proceed, .begin 1 .request,
    .advance 1 (.uuid "a"), .advance 1 (.instant 1), .advance 1 .proceed]

def answering : List Action :=
  opening ++ [.advance 1 (.publishes true), .begin 2 .discoverPeers, .advance 2 (.uuid "b"),
    .advance 2 .proceed, .advance 2 (.publishes true),
    .begin 3 (.handleResponse ⟨"a", "other", .ack⟩), .advance 3 .proceed,
    .advance 3 .proceed, .advance 1 .proceed, .advance 1 .proceed,
    .begin 4 (.handleResponse ⟨"a", "other", .ack⟩), .advance 4 .proceed,
    .begin 5 (.handleResponse ⟨"b", "other", .ack⟩), .advance 5 .proceed,
    .advance 5 .proceed]

theorem calls_clean_up_applies :
    ∃ final, (system ∅).run answering = some final ∧
      "a" ∉ final.shared.pubsub.pending ∧ "b" ∈ final.shared.pubsub.pending := by
  obtain ⟨returned, inProgress⟩ := @calls_clean_up ∅ answering _ rfl (by decide)
  obtain ⟨_, present⟩ := inProgress 2 .discoverPeers (.waiting "b") "b" rfl rfl
  refine ⟨_, rfl, returned ⟨1, .request, .responses "a" (.ok [.ack])⟩ ?_ "a" rfl,
    Finmap.mem_of_lookup_eq_some present⟩
  -- the log has the answers of `5` and of `4` before it
  exact List.mem_cons_of_mem _ (List.mem_cons_of_mem _ List.mem_cons_self)

/-- A request whose publish fails returns and leaves its entry. -/
theorem calls_clean_up_counterexample :
    ∃ final, (system ∅).run (opening ++ [.advance 1 (.publishes false)]) = some final ∧
      (∃ done ∈ final.log, done.result.requestId? = some "a") ∧
      "a" ∈ final.shared.pubsub.pending := by
  refine ⟨_, rfl, ⟨_, List.mem_cons_self, rfl⟩, ?_⟩
  decide

end RushSocket.Adapter.Redis.Requests
