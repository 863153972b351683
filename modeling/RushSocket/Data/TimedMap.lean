import Mathlib.Data.List.Basic

namespace RushSocket.Data

/-! Maps whose entries have a lifetime, told by the history of their calls: what
a key holds is decided by the latest call that names it. -/

namespace TimedMap

inductive Call (κ : Type u) (ν : Type v)
  | set (key : κ) (value : ν) (lifetime : Nat)
  | forget (key : κ)
  deriving DecidableEq

def Call.key {κ : Type u} {ν : Type v} : Call κ ν → κ
  | .set key _ _ => key
  | .forget key => key

/-- The calls with their instants, the latest first. -/
abbrev History (κ : Type u) (ν : Type v) := List (Nat × Call κ ν)

variable {κ : Type u} {ν : Type v} [DecidableEq κ]

def remembered : History κ ν → Nat → κ → Option ν
  | [], _, _ => none
  | (moment, call) :: earlier, now, key =>
      if call.key = key then
        match call with
        | .set _ value lifetime => if now < moment + lifetime then some value else none
        | .forget _ => none
      else remembered earlier now key

/-- The latest call that names the key is a `set`, and its lifetime is not over. -/
def Holds (history : History κ ν) (now : Nat) (key : κ) (value : ν) : Prop :=
  ∃ later moment lifetime earlier,
    history = later ++ (moment, .set key value lifetime) :: earlier ∧
      (∀ dated ∈ later, dated.2.key ≠ key) ∧ now < moment + lifetime

theorem remembered_cons_of_ne {call : Call κ ν} {key : κ} (other : call.key ≠ key)
    (moment now : Nat) (earlier : History κ ν) :
    remembered ((moment, call) :: earlier) now key = remembered earlier now key :=
  if_neg other

theorem remembered_set (history : History κ ν) (moment now lifetime : Nat) (key : κ)
    (value : ν) :
    remembered ((moment, .set key value lifetime) :: history) now key =
      if now < moment + lifetime then some value else none :=
  if_pos rfl

theorem remembered_forget (history : History κ ν) (moment now : Nat) (key : κ) :
    remembered ((moment, .forget key) :: history) now key = none :=
  if_pos rfl

theorem remembered_eq_some {history : History κ ν} {now : Nat} {key : κ} {value : ν} :
    remembered history now key = some value ↔ Holds history now key value := by
  induction history with
  | nil =>
      refine ⟨nofun, fun ⟨later, moment, lifetime, earlier, whole, _⟩ => ?_⟩
      exact absurd whole.symm (by simp)
  | cons dated history induction =>
      obtain ⟨moment, call⟩ := dated
      cases same : decide (call.key = key) with
      | false =>
          have other := of_decide_eq_false same
          rw [remembered_cons_of_ne other, induction]
          constructor
          · rintro ⟨later, instant, lifetime, earlier, rfl, none, within⟩
            refine ⟨(moment, call) :: later, instant, lifetime, earlier, rfl, ?_, within⟩
            exact List.forall_mem_cons.mpr ⟨other, none⟩
          · rintro ⟨later, instant, lifetime, earlier, whole, none, within⟩
            cases later with
            | nil =>
                cases whole
                exact absurd rfl other
            | cons head later =>
                cases whole
                exact ⟨later, instant, lifetime, earlier, rfl,
                  (List.forall_mem_cons.mp none).2, within⟩
      | true =>
          have named : call.key = key := of_decide_eq_true same
          constructor
          · intro held
            cases call with
            | forget other =>
                change other = key at named
                subst named
                exact nomatch (remembered_forget history moment now other).symm.trans held
            | set other stored lifetime =>
                change other = key at named
                subst named
                rw [remembered_set] at held
                split at held
                · rename_i within
                  cases held
                  exact ⟨[], moment, lifetime, history, rfl, nofun, within⟩
                · cases held
          · rintro ⟨later, instant, lifetime, earlier, whole, none, within⟩
            cases later with
            | nil =>
                rw [whole, List.nil_append, remembered_set, if_pos within]
            | cons head later =>
                cases whole
                exact absurd named (List.forall_mem_cons.mp none).1

/-- The instants go back, and none is past the given one. -/
def Dated (history : History κ ν) (now : Nat) : Prop :=
  history.Pairwise (fun later earlier => earlier.1 ≤ later.1) ∧
    ∀ dated ∈ history, dated.1 ≤ now

omit [DecidableEq κ] in
theorem Dated.cons {history : History κ ν} {now : Nat} (dated : Dated history now)
    (call : Call κ ν) : Dated ((now, call) :: history) now :=
  ⟨List.pairwise_cons.mpr dated.symm, List.forall_mem_cons.mpr ⟨Nat.le_refl now, dated.2⟩⟩

theorem exists_remembered_of_mem {history : History κ ν} {lifetime : Nat}
    (ordered : history.Pairwise fun later earlier => earlier.1 ≤ later.1)
    (uniform : ∀ dated ∈ history, ∃ key value, dated.2 = .set key value lifetime)
    {moment now : Nat} {key : κ} {value : ν}
    (member : (moment, .set key value lifetime) ∈ history)
    (lately : now < moment + lifetime) :
    ∃ latest, remembered history now key = some latest := by
  induction history with
  | nil => cases member
  | cons dated history induction =>
      obtain ⟨instant, call⟩ := dated
      obtain ⟨other, stored, rfl⟩ := uniform _ List.mem_cons_self
      rw [List.pairwise_cons] at ordered
      cases same : decide (other = key) with
      | true =>
          cases of_decide_eq_true same
          have fresh : now < instant + lifetime := by
            cases List.mem_cons.mp member with
            | inl whole =>
                cases whole
                exact lately
            | inr earlier =>
                have before := ordered.1 _ earlier
                dsimp only at before
                omega
          exact ⟨stored, by rw [remembered_set, if_pos fresh]⟩
      | false =>
          have apart : other ≠ key := of_decide_eq_false same
          have earlier : (moment, .set key value lifetime) ∈ history := by
            cases List.mem_cons.mp member with
            | inl whole =>
                cases whole
                exact absurd rfl apart
            | inr earlier => exact earlier
          rw [remembered_cons_of_ne (by exact apart)]
          exact induction ordered.2
            (fun dated listed => uniform dated (List.mem_cons_of_mem _ listed)) earlier

end TimedMap

end RushSocket.Data
