import RushSocket.Cache
import RushSocket.Data.TimedMap
import RushSocket.Transition.System

namespace RushSocket

open Data Transition TimedMap

/-! The cache, its cleanup task and the clock.  The cleanup task may come to any
entry at any moment. -/

/-- A cache in use.  The last two fields only record the calls that change a key,
the latest first, and what `get` has returned. -/
structure CacheInUse (Stored : Type) where
  now : Nat
  cache : MemoryCache Stored
  calls : History String Stored
  answers : List (Option Stored)

namespace CacheInUse

variable {Stored : Type}

inductive Action (Stored : Type)
  | wait (elapsed : Nat)
  | get (key : String)
  | set (key : String) (value : Stored) (ttl : Nat)
  | forget (key : String)
  | sweep (key : String)

def Action.isSweep : Action Stored → Bool
  | .sweep _ => true
  | .wait _ | .get _ | .set _ _ _ | .forget _ => false

def perform (state : CacheInUse Stored) : Action Stored → CacheInUse Stored
  | .wait elapsed => { state with now := state.now + elapsed }
  | .get key => { state with answers := state.answers ++ [state.cache.get state.now key] }
  | .set key value ttl =>
      { state with
        cache := state.cache.set state.now key value ttl
        calls := (state.now, .set key value ttl) :: state.calls }
  | .forget key =>
      { state with
        cache := state.cache.forget key
        calls := (state.now, .forget key) :: state.calls }
  | .sweep key => { state with cache := state.cache.sweep state.now key }

def system (Stored : Type) (start : Nat) : System (CacheInUse Stored) (Action Stored) where
  start := { now := start, cache := .new, calls := [], answers := [] }
  step state action := some (state.perform action)

variable {state twin next : CacheInUse Stored}

/-- From now on the cache answers as the calls tell. -/
def Tells (state : CacheInUse Stored) : Prop :=
  ∀ moment key, state.now ≤ moment →
    state.cache.get moment key = remembered state.calls moment key

theorem get_sweep (cache : MemoryCache Stored) (swept : String) {now moment : Nat}
    (later : now ≤ moment) (key : String) :
    (cache.sweep now swept).get moment key = cache.get moment key := by
  unfold MemoryCache.sweep
  split
  · rename_i entry stored
    split
    · rfl
    · rename_i expired
      unfold MemoryCache.get
      rw [Table.lookup_drop]
      split
      · rename_i same
        rw [same, stored, Option.bind_none, Option.bind_some, if_neg]
        exact fun fresh => expired (Nat.lt_of_le_of_lt later fresh)
      · rfl
  · rfl

theorem get_forget (cache : MemoryCache Stored) (forgotten : String) (moment : Nat)
    (key : String) :
    (cache.forget forgotten).get moment key =
      if key = forgotten then none else cache.get moment key := by
  unfold MemoryCache.get MemoryCache.forget
  rw [Table.lookup_drop]
  split
  · rfl
  · rfl

theorem get_set (cache : MemoryCache Stored) (now moment ttl : Nat) (written key : String)
    (value : Stored) :
    (cache.set now written value ttl).get moment key =
      if key = written then if moment < now + ttl then some value else none
      else cache.get moment key := by
  unfold MemoryCache.get MemoryCache.set
  rw [Table.lookup_put]
  split
  · rfl
  · rfl

theorem Tells.perform (tells : state.Tells) (action : Action Stored) :
    (state.perform action).Tells := by
  intro moment key later
  cases action with
  | wait elapsed => exact tells moment key ((Nat.le_add_right _ _).trans later)
  | get read => exact tells moment key later
  | set written value ttl =>
      refine (get_set state.cache state.now moment ttl written key value).trans ?_
      change _ = remembered ((state.now, .set written value ttl) :: state.calls) moment key
      split
      · rename_i same
        rw [same, remembered_set]
      · rename_i other
        rw [remembered_cons_of_ne fun same => other same.symm]
        exact tells moment key later
  | forget forgotten =>
      refine (get_forget state.cache forgotten moment key).trans ?_
      change _ = remembered ((state.now, .forget forgotten) :: state.calls) moment key
      split
      · rename_i same
        rw [same, remembered_forget]
      · rename_i other
        rw [remembered_cons_of_ne fun same => other same.symm]
        exact tells moment key later
  | sweep swept =>
      exact (get_sweep state.cache swept later key).trans (tells moment key later)

theorem tells_start (start : Nat) : (system Stored start).start.Tells := by
  intro moment key _
  simp [system, MemoryCache.get, MemoryCache.new, remembered]

theorem tells_of_run {start : Nat} {actions : List (Action Stored)}
    {final : CacheInUse Stored} (reached : (system Stored start).run actions = some final) :
    final.Tells := by
  refine (system Stored start).invariant_of_every_step (tells_start start)
    (fun {_ action _} tells stepped => ?_) reached
  cases stepped
  exact tells.perform action

structure Alike (state twin : CacheInUse Stored) : Prop where
  now : state.now = twin.now
  calls : state.calls = twin.calls
  answers : state.answers = twin.answers
  tells : state.Tells
  twinTells : twin.Tells

theorem Alike.perform (alike : Alike state twin) (action : Action Stored) :
    Alike (state.perform action) (twin.perform action) := by
  have tells := alike.tells.perform action
  have twinTells := alike.twinTells.perform action
  cases action with
  | wait elapsed =>
      exact ⟨congrArg (· + elapsed) alike.now, alike.calls, alike.answers, tells, twinTells⟩
  | get key =>
      have answer : state.cache.get state.now key = twin.cache.get twin.now key := by
        rw [alike.tells _ key (Nat.le_refl _), alike.twinTells _ key (Nat.le_refl _),
          alike.now, alike.calls]
      refine ⟨alike.now, alike.calls, ?_, tells, twinTells⟩
      change state.answers ++ [_] = twin.answers ++ [_]
      rw [alike.answers, answer]
  | set key value ttl =>
      refine ⟨alike.now, ?_, alike.answers, tells, twinTells⟩
      change _ :: state.calls = _ :: twin.calls
      rw [alike.now, alike.calls]
  | forget key =>
      refine ⟨alike.now, ?_, alike.answers, tells, twinTells⟩
      change _ :: state.calls = _ :: twin.calls
      rw [alike.now, alike.calls]
  | sweep key => exact ⟨alike.now, alike.calls, alike.answers, tells, twinTells⟩

/-- A run without its sweeps gives the same answers. -/
theorem answers_filter {start : Nat} {actions : List (Action Stored)}
    {final : CacheInUse Stored} (reached : (system Stored start).run actions = some final) :
    ∃ unswept,
      (system Stored start).run (actions.filter fun action => !action.isSweep) =
          some unswept ∧
        final.answers = unswept.answers := by
  have same : Alike (system Stored start).start (system Stored start).start :=
    ⟨rfl, rfl, rfl, tells_start start, tells_start start⟩
  obtain ⟨unswept, reachedToo, alike⟩ :=
    @System.run_filter _ _ (system Stored start) (fun _ _ => True)
      (fun action => !action.isSweep) Alike same
      (fun {state twin action next} alike _ _ stepped => by
        cases stepped
        exact ⟨_, rfl, alike.perform action⟩)
      (fun {state twin action next} alike _ swept stepped => by
        cases stepped
        cases action with
        | sweep key =>
            exact ⟨alike.now, alike.calls, alike.answers, alike.tells.perform _,
              alike.twinTells⟩
        | wait _ | get _ | set _ _ _ | forget _ => cases swept)
      _ _ reached ((system Stored start).meets_true _ actions)
  exact ⟨unswept, reachedToo, alike.answers⟩

/-- The cache is a map with expiry, and its sweeps are invisible. -/
theorem get_iff_holds {start : Nat} {actions : List (Action Stored)}
    {final : CacheInUse Stored} (reached : (system Stored start).run actions = some final) :
    (∀ key value, final.cache.get final.now key = some value ↔
      Holds final.calls final.now key value) ∧
    (∀ {others other}, (system Stored start).run others = some other →
      (others.filter fun action => !action.isSweep) =
        (actions.filter fun action => !action.isSweep) →
      other.answers = final.answers) := by
  refine ⟨fun key value => ?_, fun {others other} reachedToo same => ?_⟩
  · rw [tells_of_run reached final.now key (Nat.le_refl _)]
    exact remembered_eq_some
  · obtain ⟨unswept, bare, answers⟩ := answers_filter reached
    obtain ⟨unsweptToo, bareToo, answersToo⟩ := answers_filter reachedToo
    rw [same, bare] at bareToo
    cases bareToo
    exact answersToo.trans answers.symm

/-- An entry is read at the last instant of its life and not at the next one,
whether or not it has been swept. -/
theorem get_iff_holds_applies :
    let actions : List (Action String) :=
      [.set "a" "first" 9, .wait 9, .get "a", .set "a" "second" 5, .wait 4, .get "a",
        .sweep "a", .wait 1, .get "a", .sweep "a"]
    ∃ final, (system String 0).run actions = some final ∧
      final.answers = [none, some "second", none] ∧
      ∀ value, ¬ Holds final.calls final.now "a" value := by
  intro actions
  obtain ⟨final, reached⟩ : ∃ final, (system String 0).run actions = some final :=
    ⟨_, rfl⟩
  have shown : ((system String 0).run actions).map
      (fun state => (state.answers, state.cache.get state.now "a")) =
        some ([none, some "second", none], none) := by
    decide
  rw [reached, Option.map_some, Option.some_inj, Prod.mk.injEq] at shown
  refine ⟨final, reached, shown.1, fun value holds => ?_⟩
  exact nomatch shown.2.symm.trans (((get_iff_holds reached).1 "a" value).mpr holds)

end CacheInUse

end RushSocket
