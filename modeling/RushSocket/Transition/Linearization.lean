import RushSocket.Transition.Calls

namespace RushSocket.Transition

open Data

/-! Concurrent calls that take effect in one of their steps.  That step decides
what the call will return; the steps after it only clean up.  Beside the object
runs the list of the calls in the order in which they take effect, the latest
first. -/

def own {Caller Operation Result : Type v} [DecidableEq Caller] (caller : Caller)
    (log : List (Finished Caller Operation Result)) :
    List (Finished Caller Operation Result) :=
  log.filter (·.caller = caller)

theorem own_cons {Caller Operation Result : Type v} [DecidableEq Caller]
    (caller : Caller) (done : Finished Caller Operation Result)
    (log : List (Finished Caller Operation Result)) :
    own caller (done :: log) =
      if done.caller = caller then done :: own caller log else own caller log := by
  simp only [own, List.filter_cons, decide_eq_true_eq]

theorem mem_own {Caller Operation Result : Type v} [DecidableEq Caller]
    {caller : Caller} {done : Finished Caller Operation Result}
    {log : List (Finished Caller Operation Result)} :
    done ∈ own caller log ↔ done ∈ log ∧ done.caller = caller := by
  simp only [own, List.mem_filter, decide_eq_true_eq]

structure Traced (Object : Type u) (Caller Operation Result : Type v) where
  object : Object
  effects : List (Finished Caller Operation Result)

namespace Code

variable {Object : Type u} {Caller Operation Point Choice Result : Type v}
  (code : Code Object Caller Operation Point Choice Result)
  (decided : Point → Option Result)

/-- What the call is going to return after a step, once that is decided. -/
def outcome : Progress Point Result → Option Result
  | .running point => decided point
  | .finished result => some result

def record (effects : List (Finished Caller Operation Result)) (caller : Caller)
    (operation : Operation) (point : Point) (progress : Progress Point Result) :
    List (Finished Caller Operation Result) :=
  match decided point, outcome decided progress with
  | none, some result => ⟨caller, operation, result⟩ :: effects
  | _, _ => effects

def traced :
    Code (Traced Object Caller Operation Result) Caller Operation Point Choice Result where
  enter := code.enter
  advance shared caller operation point choice :=
    (code.advance shared.object caller operation point choice).map
      fun (object, progress) =>
        ({ object
           effects := record decided shared.effects caller operation point progress },
          progress)

/-- A call is undecided when it begins, and returns what was decided. -/
structure Decides : Prop where
  undecided : ∀ operation, decided (code.enter operation) = none
  kept : ∀ {object caller operation point choice after progress result},
    decided point = some result →
    code.advance object caller operation point choice = some (after, progress) →
    outcome decided progress = some result

end Code

namespace Linearization

variable {Object : Type u} {Caller Operation Point Choice Result : Type v}
  [DecidableEq Caller] {code : Code Object Caller Operation Point Choice Result}
  {decided : Point → Option Result}
  {permits : List (Finished Caller Operation Result) → Caller → Operation → Bool}

abbrev State (Object : Type u) (Caller Operation Point Result : Type v) :=
  Calls (Traced Object Caller Operation Result) Caller Operation Point Result

def system (code : Code Object Caller Operation Point Choice Result)
    (decided : Point → Option Result)
    (permits : List (Finished Caller Operation Result) → Caller → Operation → Bool)
    (start : Object) :
    System (State Object Caller Operation Point Result)
      (CallAction Caller Operation Choice) :=
  Calls.system (code.traced decided) permits { object := start, effects := [] }

/-- The discipline of a caller looks at its own calls only. -/
def Local (permits : List (Finished Caller Operation Result) → Caller → Operation →
    Bool) : Prop :=
  ∀ {first second caller}, own caller first = own caller second →
    permits first caller = permits second caller

def pending (decided : Point → Option Result) (caller : Caller)
    (call : Option (Operation × Point)) : List (Finished Caller Operation Result) :=
  (call.bind fun (operation, point) =>
    (decided point).map fun result => ⟨caller, operation, result⟩).toList

structure Inv (decided : Point → Option Result)
    (permits : List (Finished Caller Operation Result) → Caller → Operation → Bool)
    (state : State Object Caller Operation Point Result) : Prop where
  own_ : ∀ caller, own caller state.shared.effects =
    pending decided caller (state.calls.lookup caller) ++ own caller state.log
  permitted : ∀ caller operation point,
    state.calls.lookup caller = some (operation, point) → decided point = none →
      permits state.log caller operation = true

variable {state : State Object Caller Operation Point Result} {caller : Caller}
  {operation : Operation} {point : Point}

theorem Inv.begin (inv : Inv decided permits state)
    (undecided : decided (code.enter operation) = none)
    (absent : state.calls.lookup caller = none)
    (permitted : permits state.log caller operation = true) :
    Inv decided permits { state with
      calls := state.calls.insert caller (operation, code.enter operation) } where
  own_ := by
    intro other
    rw [inv.own_, Table.lookup_put]
    split
    · rename_i same
      rw [same, absent]
      simp [pending, undecided]
    · rfl
  permitted := by
    intro other begun next found open_
    rw [Table.lookup_put] at found
    split at found
    · rename_i same
      cases found
      rw [same]
      exact permitted
    · exact inv.permitted other begun next found open_

theorem Inv.own_record (inv : Inv decided permits state)
    (found : state.calls.lookup caller = some (operation, point))
    {progress : Progress Point Result}
    (kept : ∀ {result}, decided point = some result →
      Code.outcome decided progress = some result) :
    own caller (Code.record decided state.shared.effects caller operation point
        progress) =
      ((Code.outcome decided progress).map fun result =>
        ⟨caller, operation, result⟩).toList ++ own caller state.log := by
  have before := inv.own_ caller
  simp only [found, pending, Option.bind_some] at before
  unfold Code.record
  cases settled : decided point with
  | some result =>
      rw [settled] at before
      rw [kept settled]
      exact before
  | none =>
      rw [settled] at before
      cases Code.outcome decided progress with
      | none => exact before
      | some result =>
          rw [own_cons, if_pos rfl, before]
          rfl

theorem own_record_other (effects : List (Finished Caller Operation Result))
    {other : Caller} (different : other ≠ caller) (progress : Progress Point Result) :
    own other (Code.record decided effects caller operation point progress) =
      own other effects := by
  unfold Code.record
  split
  · rw [own_cons, if_neg (Ne.symm different)]
  · rfl

theorem own_settle_other {other : Caller} (different : other ≠ caller)
    (shared : Traced Object Caller Operation Result)
    (progress : Progress Point Result) :
    own other (state.settle caller operation shared progress).log =
      own other state.log := by
  cases progress with
  | running next => rfl
  | finished result => rw [Calls.settle, own_cons, if_neg (Ne.symm different)]

theorem Inv.settle (inv : Inv decided permits state) (local_ : Local permits)
    (found : state.calls.lookup caller = some (operation, point))
    {progress : Progress Point Result} (after : Object)
    (kept : ∀ {result}, decided point = some result →
      Code.outcome decided progress = some result) :
    Inv decided permits (state.settle caller operation
      { object := after
        effects := Code.record decided state.shared.effects caller operation point
          progress } progress) where
  own_ := by
    intro other
    rw [Calls.settle_shared, Calls.lookup_settle]
    by_cases same : other = caller
    · subst same
      rw [if_pos rfl, inv.own_record found kept]
      cases progress with
      | running next => rfl
      | finished result =>
          rw [Calls.settle, own_cons, if_pos rfl]
          rfl
    · rw [if_neg same, own_record_other _ same, own_settle_other same]
      exact inv.own_ other
  permitted := by
    intro other begun next calling open_
    rw [Calls.lookup_settle] at calling
    by_cases same : other = caller
    · subst same
      rw [if_pos rfl] at calling
      cases progress with
      | finished result => cases calling
      | running moved =>
          cases calling
          refine inv.permitted other _ point found ?_
          cases settled : decided point with
          | none => rfl
          | some result => exact absurd ((kept settled).symm.trans open_) nofun
    · rw [if_neg same] at calling
      rw [local_ (own_settle_other same _ progress)]
      exact inv.permitted other begun next calling open_

/-- A call that takes effect is permitted by the effects before it. -/
theorem Inv.permits_effects (inv : Inv decided permits state) (local_ : Local permits)
    (found : state.calls.lookup caller = some (operation, point))
    (open_ : decided point = none) :
    permits state.shared.effects caller operation = true := by
  have same := inv.own_ caller
  simp only [found, pending, Option.bind_some, open_, Option.map_none] at same
  rw [local_ same]
  exact inv.permitted caller operation point found open_

/-- The rule for calls that take effect in one step: what is true of the object
and the effects is kept when a permitted call takes effect, and by the steps that
decide nothing. -/
theorem of_run {start : Object}
    {allowed : State Object Caller Operation Point Result →
      CallAction Caller Operation Choice → Prop}
    {Alike : Object → List (Finished Caller Operation Result) → Prop}
    (decides : code.Decides decided) (local_ : Local permits)
    (atStart : Alike start [])
    (effect : ∀ {object effects caller operation point choice after progress result},
      Alike object effects → permits effects caller operation = true →
        decided point = none →
        code.advance object caller operation point choice = some (after, progress) →
        Code.outcome decided progress = some result →
        Alike after (⟨caller, operation, result⟩ :: effects))
    (silent : ∀ {state : State Object Caller Operation Point Result}
      {caller operation point choice after progress},
      Alike state.shared.object state.shared.effects →
        allowed state (.advance caller choice) →
        state.calls.lookup caller = some (operation, point) →
        code.advance state.shared.object caller operation point choice =
          some (after, progress) →
        (decided point ≠ none ∨ Code.outcome decided progress = none) →
        Alike after state.shared.effects)
    {actions : List (CallAction Caller Operation Choice)}
    {final : State Object Caller Operation Point Result}
    (reached : (system code decided permits start).run actions = some final)
    (guarded : (system code decided permits start).Guarded allowed actions) :
    Alike final.shared.object final.shared.effects ∧
      (final.Quiet → ∀ caller, own caller final.shared.effects = own caller final.log) := by
  have holds : Alike final.shared.object final.shared.effects ∧
      Inv decided permits final := by
    refine @Calls.invariant _ _ _ _ _ _ _ _ _ _ allowed
      (fun state => Alike state.shared.object state.shared.effects ∧
        Inv decided permits state) ?_ ?_ ?_ _ _ reached guarded
    · exact ⟨atStart, fun _ => rfl, by simp⟩
    · intro state caller operation holds absent permitted
      exact ⟨holds.1, holds.2.begin (decides.undecided operation) absent permitted⟩
    · intro state caller operation point choice shared progress holds found permitted
        advanced
      obtain ⟨⟨after, moved⟩, stepped, same⟩ := Option.map_eq_some_iff.mp advanced
      cases same
      refine ⟨?_, holds.2.settle local_ found after fun settled =>
        decides.kept settled stepped⟩
      rw [Calls.settle_shared, Code.record]
      split
      · rename_i result open_ settled
        exact effect holds.1 (holds.2.permits_effects local_ found open_) open_ stepped
          settled
      · rename_i passive
        refine silent holds.1 permitted found stepped ?_
        by_contra both
        rw [not_or, not_not] at both
        obtain ⟨result, settled⟩ := Option.ne_none_iff_exists'.mp both.2
        exact passive result both.1 settled
  refine ⟨holds.1, fun quiet caller => ?_⟩
  have same := holds.2.own_ caller
  rwa [quiet.lookup] at same

end Linearization

end RushSocket.Transition
