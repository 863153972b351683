import RushSocket.Adapter.Membership

namespace RushSocket.Adapter.Admission

open Data Transition

/-! Concurrent admissions and removals of connections on one namespace.  The
counter and the map are updated in separate steps, in opposite orders by the
two calls; a removal runs the steps it has beside the membership calls. -/

inductive Operation where
  | tryAddSocket
  | removeSocket
  deriving DecidableEq

inductive Point where
  | add
  | increment
  | load
  | exchange (current : Nat)
  | insert
  | remove (point : Membership.Point)
  deriving DecidableEq

/-- The weak exchange may fail although the counter has the expected value. -/
inductive Choice where
  | proceed
  | failSpuriously
  | remove (choice : Membership.Choice)
  deriving DecidableEq

inductive Returned where
  | admitted (accepted : Bool)
  | removed (returned : Membership.Returned)
  deriving DecidableEq

section

variable (limit : Int)

def enter : Operation → Point
  | .tryAddSocket => if limit < 0 then .add else .load
  | .removeSocket => .remove (Membership.enter .removeSocket)

def removal : Progress Membership.Point Membership.Returned → Progress Point Returned
  | .running point => .running (.remove point)
  | .finished returned => .finished (.removed returned)

def insertSocket (ns : Namespace) (socketId : String) : Namespace :=
  { ns with sockets := ns.sockets.insert socketId ⟨socketId⟩ }

def setCount (ns : Namespace) (connectionCount : Nat) : Namespace :=
  { ns with connectionCount }

def advance (ns : Namespace) (socketId : String) :
    Operation → Point → Choice → Option (Namespace × Progress Point Returned)
  | .tryAddSocket, .add, .proceed =>
      some (insertSocket ns socketId, .running .increment)
  | .tryAddSocket, .increment, .proceed =>
      some (setCount ns (ns.connectionCount + 1), .finished (.admitted true))
  | .tryAddSocket, .load, .proceed =>
      some (ns,
        if ns.connectionCount ≥ limit.toNat then .finished (.admitted false)
        else .running (.exchange ns.connectionCount))
  | .tryAddSocket, .exchange current, .proceed =>
      some (if ns.connectionCount = current then
        (setCount ns (current + 1), .running .insert)
      else (ns, .running .load))
  | .tryAddSocket, .exchange _, .failSpuriously => some (ns, .running .load)
  | .tryAddSocket, .insert, .proceed =>
      some (insertSocket ns socketId, .finished (.admitted true))
  | .removeSocket, .remove point, .remove choice =>
      (Membership.advance ns socketId .removeSocket point choice).map
        fun (after, progress) => (after, removal progress)
  | _, _, _ => none

def code : Code Namespace String Operation Point Choice Returned where
  enter := enter limit
  advance := advance limit

end

abbrev State := Calls Namespace String Operation Point Returned
abbrev Action := CallAction String Operation Choice

def admitted : List (Finished String Operation Returned) → String → Bool
  | [], _ => false
  | done :: earlier, socketId =>
      if done.caller = socketId then done.result = .admitted true
      else admitted earlier socketId

/-- Socket ids are distinct: an id that is admitted is not admitted again. -/
def permits (log : List (Finished String Operation Returned)) (socketId : String) :
    Operation → Bool
  | .tryAddSocket => !admitted log socketId
  | .removeSocket => true

def system (limit : Int) : System State Action :=
  Calls.system (code limit) permits .new

/-- A call between its two updates: the counter is one ahead of the map. -/
def pending (call : Operation × Point) : Bool :=
  call = (.tryAddSocket, .insert) || call = (.removeSocket, .remove .uncount)

def reserves (limit : Nat) : Point → Prop
  | .load | .insert => True
  | .exchange current => current < limit
  | _ => False

structure Inv (limit : Nat) (state : State) : Prop where
  counted : state.shared.connectionCount =
    state.shared.sockets.size + state.calls.count pending
  limited : state.shared.connectionCount ≤ limit
  stored : ∀ socketId ∈ state.shared.sockets,
    admitted state.log socketId = true ∧
      ∀ point, state.calls.lookup socketId = some (.removeSocket, point) →
        point = .remove .take
  reserving : ∀ socketId point,
    state.calls.lookup socketId = some (.tryAddSocket, point) →
      admitted state.log socketId = false ∧ reserves limit point

variable {limit : Nat} {state : State} {caller : String} {operation : Operation}
  {point : Point} {ns : Namespace} {progress : Progress Point Returned}

theorem admitted_settle_other {socketId : String} (different : socketId ≠ caller) :
    admitted (state.settle caller operation ns progress).log socketId =
      admitted state.log socketId := by
  cases progress with
  | running point => rfl
  | finished returned => simp [Calls.settle, admitted, Ne.symm different]

def admittedAfter (admitted : Bool) : Progress Point Returned → Bool
  | .running _ => admitted
  | .finished returned => returned = .admitted true

theorem admitted_settle_self :
    admitted (state.settle caller operation ns progress).log caller =
      admittedAfter (admitted state.log caller) progress := by
  cases progress with
  | running point => rfl
  | finished returned => simp [Calls.settle, admitted, admittedAfter]

def weight (call : Option (Operation × Point)) : Nat :=
  if call.any pending then 1 else 0

/-- A step keeps the invariant when the counter, the map and the two updates of
the caller stay in balance, and only the caller enters the map. -/
theorem Inv.settle (inv : Inv limit state)
    (found : state.calls.lookup caller = some (operation, point))
    (balanced : ns.connectionCount + state.shared.sockets.size +
        weight (some (operation, point)) =
      state.shared.connectionCount + ns.sockets.size +
        weight (progress.call operation))
    (limited : ns.connectionCount ≤ limit)
    (others : ∀ socketId ∈ ns.sockets, socketId ≠ caller →
      socketId ∈ state.shared.sockets)
    (own : caller ∈ ns.sockets →
      admittedAfter (admitted state.log caller) progress = true ∧
        ∀ next, progress.call operation = some (.removeSocket, next) →
          next = .remove .take)
    (reserving : ∀ next, progress.call operation = some (.tryAddSocket, next) →
      reserves limit next) :
    Inv limit (state.settle caller operation ns progress) where
  counted := by
    have before := inv.counted
    rw [Table.count_drop state.calls caller, found] at before
    rw [Calls.settle_shared, Calls.count_settle]
    simp only [weight] at balanced
    omega
  limited := by
    rw [Calls.settle_shared]
    exact limited
  stored := by
    intro socketId member
    rw [Calls.settle_shared] at member
    rw [Calls.lookup_settle]
    by_cases same : socketId = caller
    · subst same
      rw [if_pos rfl, admitted_settle_self]
      exact own member
    · rw [if_neg same, admitted_settle_other same]
      exact inv.stored socketId (others socketId member same)
  reserving := by
    intro socketId next calling
    rw [Calls.lookup_settle] at calling
    by_cases same : socketId = caller
    · subst same
      rw [if_pos rfl] at calling
      refine ⟨?_, reserving next calling⟩
      rw [admitted_settle_self]
      cases progress with
      | running moved =>
          cases calling
          exact (inv.reserving socketId point found).1
      | finished returned => cases calling
    · rw [if_neg same] at calling
      rw [admitted_settle_other same]
      exact inv.reserving socketId next calling

theorem Inv.absent (inv : Inv limit state)
    (found : state.calls.lookup caller = some (.tryAddSocket, point)) :
    caller ∉ state.shared.sockets := by
  intro member
  have admitted := (inv.stored caller member).1
  rw [(inv.reserving caller point found).1] at admitted
  cases admitted

/-! The steps of an admission. -/

theorem Inv.idle (inv : Inv limit state)
    (found : state.calls.lookup caller = some (.tryAddSocket, point))
    (unweighed : weight (some (.tryAddSocket, point)) =
      weight (progress.call Operation.tryAddSocket))
    (reserving : ∀ next,
      progress.call Operation.tryAddSocket = some (.tryAddSocket, next) →
        reserves limit next) :
    Inv limit (state.settle caller .tryAddSocket state.shared progress) := by
  refine inv.settle found ?_ inv.limited (fun _ member _ => member) ?_ reserving
  · rw [unweighed]
  · intro member
    exact absurd member (inv.absent found)

theorem Inv.load (inv : Inv limit state)
    (found : state.calls.lookup caller = some (.tryAddSocket, .load)) :
    Inv limit (state.settle caller .tryAddSocket state.shared
      (if state.shared.connectionCount ≥ (limit : Int).toNat then
        .finished (.admitted false)
      else .running (.exchange state.shared.connectionCount))) := by
  split
  · exact inv.idle found rfl (by simp [Progress.call])
  · rename_i room
    refine inv.idle found rfl ?_
    intro next calling
    cases calling
    simpa [reserves] using room

theorem Inv.exchange {current : Nat} (inv : Inv limit state)
    (found : state.calls.lookup caller = some (.tryAddSocket, .exchange current))
    (same : state.shared.connectionCount = current) :
    Inv limit (state.settle caller .tryAddSocket
      (setCount state.shared (current + 1)) (.running .insert)) := by
  have room : current < limit := (inv.reserving caller _ found).2
  refine inv.settle found ?_ room (fun _ member _ => member) ?_ ?_
  · simp [setCount, weight, pending, Progress.call]
    omega
  · intro member
    exact absurd member (inv.absent found)
  · intro next calling
    cases calling
    trivial

theorem Inv.insert (inv : Inv limit state)
    (found : state.calls.lookup caller = some (.tryAddSocket, .insert)) :
    Inv limit (state.settle caller .tryAddSocket (insertSocket state.shared caller)
      (.finished (.admitted true))) := by
  refine inv.settle found ?_ inv.limited ?_ ?_ (by simp [Progress.call])
  · simp only [insertSocket]
    rw [Table.size_put (inv.absent found)]
    simp [weight, pending, Progress.call]
    omega
  · intro socketId member different
    rw [insertSocket, Finmap.mem_insert] at member
    exact member.resolve_left different
  · intro _
    exact ⟨rfl, by simp [Progress.call]⟩

/-! The steps of a removal. -/

theorem Inv.take (inv : Inv limit state)
    (found : state.calls.lookup caller = some (.removeSocket, .remove .take)) :
    Inv limit (state.settle caller .removeSocket (state.shared.takeSocket caller).1
      (removal (.running (if (state.shared.takeSocket caller).2 then .uncount
        else .takeReverse)))) := by
  refine inv.settle found ?_ inv.limited ?_ ?_ ?_
  · simp only [Namespace.takeSocket]
    by_cases registered : caller ∈ state.shared.sockets
    · have positive := Table.size_pos registered
      rw [Table.size_drop registered]
      simp [registered, removal, weight, pending, Progress.call]
      omega
    · rw [Table.drop_absent (Finmap.lookup_eq_none.mpr registered)]
      simp [registered, removal, weight, pending, Progress.call]
  · intro socketId member _
    rw [Namespace.takeSocket, Finmap.mem_erase] at member
    exact member.2
  · intro member
    rw [Namespace.takeSocket, Finmap.mem_erase] at member
    exact absurd rfl member.1
  · intro next calling
    cases (state.shared.takeSocket caller).2 <;> cases calling

theorem Inv.uncount (inv : Inv limit state)
    (found : state.calls.lookup caller = some (.removeSocket, .remove .uncount)) :
    Inv limit (state.settle caller .removeSocket state.shared.uncountSocket
      (removal (.running .takeReverse))) := by
  have positive : 0 < state.calls.count pending := Table.count_pos found rfl
  have counted := inv.counted
  refine inv.settle found ?_ ?_ (fun _ member _ => member) ?_ ?_
  · simp [Namespace.uncountSocket, removal, weight, pending, Progress.call]
    omega
  · exact (Nat.sub_le _ _).trans inv.limited
  · intro member
    have waiting := (inv.stored caller member).2 _ found
    cases waiting
  · intro next calling
    cases calling

theorem removal_frame {point : Membership.Point} {choice : Membership.Choice}
    {after : Namespace} {moved : Progress Membership.Point Membership.Returned}
    (untaken : point ≠ .take) (counted : point ≠ .uncount)
    (advanced : Membership.advance ns caller .removeSocket point choice =
      some (after, moved)) :
    after.sockets = ns.sockets ∧ after.connectionCount = ns.connectionCount ∧
      ∀ next, moved = .running next → next ≠ .take ∧ next ≠ .uncount := by
  unfold Membership.advance at advanced
  split at advanced
  · contradiction
  · contradiction
  · contradiction
  · contradiction
  · contradiction
  · exact absurd rfl untaken
  · exact absurd rfl counted
  · cases advanced
    exact ⟨rfl, rfl, by simp⟩
  · split at advanced
    · simp only [Option.some.injEq, Prod.mk.injEq] at advanced
      obtain ⟨dropped, moved⟩ := advanced
      rw [Namespace.dropMember_fst] at dropped
      subst dropped moved
      refine ⟨rfl, rfl, ?_⟩
      intro next moved
      split at moved <;> cases moved <;> simp
    · cases advanced
  · split at advanced
    · cases advanced
      exact ⟨rfl, rfl, by simp⟩
    · cases advanced
  · cases advanced
    exact ⟨rfl, rfl, by simp⟩
  · cases advanced

theorem Inv.cleanUp {point : Membership.Point} {choice : Membership.Choice}
    {moved : Progress Membership.Point Membership.Returned} (inv : Inv limit state)
    (found : state.calls.lookup caller = some (.removeSocket, .remove point))
    (untaken : point ≠ .take) (counted : point ≠ .uncount)
    (advanced : Membership.advance state.shared caller .removeSocket point choice =
      some (ns, moved)) :
    Inv limit (state.settle caller .removeSocket ns (removal moved)) := by
  obtain ⟨sockets, count, later⟩ := removal_frame untaken counted advanced
  refine inv.settle found ?_ ?_ ?_ ?_ ?_
  · rw [sockets, count]
    have before : weight (some (.removeSocket, .remove point)) = 0 := by
      simp [weight, pending, counted]
    have after : weight ((removal moved).call Operation.removeSocket) = 0 := by
      cases moved with
      | running next =>
          simp [weight, pending, removal, Progress.call, (later next rfl).2]
      | finished returned => rfl
    omega
  · rw [count]
    exact inv.limited
  · intro socketId member _
    rw [sockets] at member
    exact member
  · intro member
    rw [sockets] at member
    have waiting := (inv.stored caller member).2 _ found
    cases waiting
    exact absurd rfl untaken
  · intro next calling
    cases moved <;> cases calling

theorem Inv.advance {choice : Choice} (inv : Inv limit state)
    (found : state.calls.lookup caller = some (operation, point))
    (advanced : Admission.advance limit state.shared caller operation point choice =
      some (ns, progress)) :
    Inv limit (state.settle caller operation ns progress) := by
  unfold Admission.advance at advanced
  split at advanced
  · exact (inv.reserving caller _ found).2.elim
  · exact (inv.reserving caller _ found).2.elim
  · cases advanced
    exact inv.load found
  · rename_i current
    split at advanced
    · rename_i same
      cases advanced
      exact inv.exchange found same
    · cases advanced
      exact inv.idle found rfl (by simp [Progress.call, reserves])
  · cases advanced
    exact inv.idle found rfl (by simp [Progress.call, reserves])
  · cases advanced
    exact inv.insert found
  · rename_i step choice
    obtain ⟨⟨after, moved⟩, stepped, same⟩ := Option.map_eq_some_iff.mp advanced
    cases same
    by_cases untaken : step = .take
    · subst untaken
      cases choice with
      | proceed =>
          cases stepped
          exact inv.take found
      | visit channel => cases stepped
    · by_cases counted : step = .uncount
      · subst counted
        cases choice with
        | proceed =>
            cases stepped
            exact inv.uncount found
        | visit channel => cases stepped
      · exact inv.cleanUp found untaken counted stepped
  · cases advanced

theorem enter_tryAddSocket : enter (limit : Int) .tryAddSocket = .load := by
  simp only [enter, Int.natCast_nonneg, not_lt.mpr, if_false]

theorem Inv.begin (inv : Inv limit state)
    (absent : state.calls.lookup caller = none)
    (permitted : permits state.log caller operation = true) :
    Inv limit { state with
      calls := state.calls.insert caller (operation, enter limit operation) } where
  counted := by
    have before := inv.counted
    rw [Table.count_drop state.calls caller, absent] at before
    have light : pending (operation, enter limit operation) = false := by
      cases operation with
      | tryAddSocket => rw [enter_tryAddSocket]; rfl
      | removeSocket => rfl
    simp only [Table.count_put, light]
    simpa using before
  limited := inv.limited
  stored := by
    intro socketId member
    refine ⟨(inv.stored socketId member).1, ?_⟩
    intro next calling
    rw [Table.lookup_put] at calling
    split at calling
    · cases operation <;> cases calling
      rfl
    · exact (inv.stored socketId member).2 next calling
  reserving := by
    intro socketId next calling
    rw [Table.lookup_put] at calling
    split at calling
    · rename_i same
      subst same
      cases operation with
      | tryAddSocket =>
          rw [enter_tryAddSocket] at calling
          cases calling
          exact ⟨by simpa [permits] using permitted, trivial⟩
      | removeSocket => cases calling
    · exact inv.reserving socketId next calling

theorem Inv.of_run {actions : List Action} {final : State}
    (reached : (system limit).run actions = some final) : Inv limit final := by
  refine Calls.invariant ?_ ?_ ?_ reached ((system limit).meets_true _ actions)
  · exact {
      counted := by
        rw [Table.count_empty]
        rfl
      limited := Nat.zero_le limit
      stored := by
        intro socketId member
        cases Finmap.notMem_empty member
      reserving := by simp }
  · intro state caller operation inv absent permitted
    exact inv.begin absent permitted
  · intro state caller operation point choice ns progress inv found _ advanced
    exact inv.advance found advanced

/-- An admission is refused only by a step that has read a full counter. -/
theorem refused_full {choice : Choice}
    (advanced : Admission.advance limit state.shared caller operation point choice =
      some (ns, progress))
    (logged : (state.settle caller operation ns progress).log =
      ⟨caller, .tryAddSocket, .admitted false⟩ :: state.log) :
    limit ≤ state.shared.connectionCount := by
  cases progress with
  | running next => exact absurd logged.symm (List.cons_ne_self _ _)
  | finished returned =>
      simp only [Calls.settle, List.cons.injEq, Finished.mk.injEq, true_and,
        and_true] at logged
      obtain ⟨rfl, rfl⟩ := logged
      unfold Admission.advance at advanced
      split at advanced
      · cases advanced
      · cases advanced
      · split at advanced
        · rename_i full
          simpa using full
        · cases advanced
      · split at advanced <;> cases advanced
      · cases advanced
      · cases advanced
      · contradiction
      · cases advanced

/-- The counter stays between the size of the map and the limit, is positive
whenever it is about to be decremented, agrees with the map while no call is in
progress, and has reached the limit whenever an admission is refused. -/
theorem admission_exact (limit : Nat) (actions : List Action) (final : State)
    (reached : (system limit).run actions = some final) :
    (final.shared.sockets.size ≤ final.shared.connectionCount ∧
      final.shared.connectionCount ≤ limit) ∧
    (∀ caller, final.calls.lookup caller = some (.removeSocket, .remove .uncount) →
      0 < final.shared.connectionCount) ∧
    (final.Quiet → final.shared.connectionCount = final.shared.sockets.size) ∧
    ∀ caller choice next,
      (system limit).step final (.advance caller choice) = some next →
        next.log = ⟨caller, .tryAddSocket, .admitted false⟩ :: final.log →
          limit ≤ final.shared.connectionCount := by
  have inv := Inv.of_run reached
  have counted := inv.counted
  refine ⟨⟨by omega, inv.limited⟩, ?_, ?_, ?_⟩
  · intro caller found
    have positive : 0 < final.calls.count pending := Table.count_pos found rfl
    omega
  · intro quiet
    rw [quiet] at counted
    simpa using counted
  · intro caller choice next stepped logged
    have forward : Calls.step (code limit) permits final (.advance caller choice) =
        some next := stepped
    obtain ⟨operation, point, ns, progress, found, advanced, rfl⟩ :=
      Calls.step_advance forward
    exact refused_full advanced logged

/-- Two sockets want the last slot and both read it as free. -/
def contended : List Action :=
  [.begin "1.1" .tryAddSocket, .begin "2.2" .tryAddSocket,
    .advance "1.1" .proceed, .advance "2.2" .proceed, .advance "1.1" .proceed,
    .advance "2.2" .proceed, .advance "1.1" .proceed, .advance "2.2" .proceed]

theorem admission_contended :
    ∃ final, (system (1 : Nat)).run contended = some final ∧
      final.log = [⟨"2.2", .tryAddSocket, .admitted false⟩,
        ⟨"1.1", .tryAddSocket, .admitted true⟩] ∧
      final.shared.sockets.size ≤ final.shared.connectionCount ∧
      final.shared.connectionCount ≤ 1 :=
  ⟨_, rfl, rfl, (admission_exact 1 contended _ rfl).1⟩

end RushSocket.Adapter.Admission
