import RushSocket.Data.Table
import RushSocket.RateLimit

namespace RushSocket.RateLimit

open Data

/-! The quotas that the limiters are made with. -/

/-- A cast keeps the lower half of the word. -/
def asU32 (value : Int64) : UInt32 := value.toUInt64.toUInt32

/-- Cells a second, one at least. -/
structure Quota where
  perSecond : UInt32
  positive : perSecond ≠ 0
  deriving DecidableEq

def Quota.new (perSecond : UInt32) : Option Quota :=
  if positive : perSecond ≠ 0 then some ⟨perSecond, positive⟩ else none

/-- The limiter of a key, made where there is none, or no limiter for an unlimited rate.
There is no result where a quota is unwrapped that is not one. -/
def getOrCreate (map : Table String Quota) (key : String) (maxPerSec : Int64) :
    Option (Table String Quota × Option Quota) :=
  if maxPerSec ≤ 0 then some (map, none)
  else
    match map.lookup key with
    | some limiter => some (map, some limiter)
    | none =>
        (Quota.new (asU32 maxPerSec)).map fun quota => (map.insert key quota, some quota)

variable {map after : Table String Quota} {key : String} {maxPerSec : Int64}
  {limiter : Option Quota}

theorem keys_getOrCreate (made : getOrCreate map key maxPerSec = some (after, limiter)) :
    after.keys = LocalRateLimiter.getOrCreate map.keys key maxPerSec.toInt := by
  unfold getOrCreate at made
  unfold LocalRateLimiter.getOrCreate
  have limited : maxPerSec.toInt ≤ 0 ↔ maxPerSec ≤ 0 := by
    rw [Int64.le_iff_toInt_le, Int64.toInt_zero]
  split at made
  · rename_i unlimited
    cases made
    rw [if_pos (limited.mpr unlimited)]
  · rename_i positive
    rw [if_neg (mt limited.mp positive)]
    split at made
    · rename_i stored found
      cases made
      exact (Finset.insert_eq_of_mem (Table.mem_keys_iff.mpr ⟨stored, found⟩)).symm
    · obtain ⟨quota, _, same⟩ := Option.map_eq_some_iff.mp made
      cases same
      exact Table.keys_put map key quota

theorem toNat_asU32 (positive : 0 ≤ maxPerSec) :
    ((asU32 maxPerSec).toNat : Int) = maxPerSec.toInt % 2 ^ 32 := by
  have nonneg : 0 ≤ maxPerSec.toInt := by
    rwa [Int64.le_iff_toInt_le, Int64.toInt_zero] at positive
  have magnitude : (maxPerSec.toInt.toNat : Int) = maxPerSec.toInt :=
    Int.toNat_of_nonneg nonneg
  rw [asU32, UInt64.toNat_toUInt32, Int64.toNat_toUInt64_of_le positive,
    Int64.toNatClampNeg, Int.natCast_mod, magnitude]
  rfl

/-- The call returns, and a limiter that it makes has the rate asked for, or the highest
there is. -/
def QuotaHonoured (map : Table String Quota) (key : String) (maxPerSec : Int64) : Prop :=
  ∃ after limiter, getOrCreate map key maxPerSec = some (after, limiter) ∧
    (0 < maxPerSec → map.lookup key = none → ∃ quota, limiter = some quota ∧
      (quota.perSecond.toNat : Int) = min maxPerSec.toInt (2 ^ 32 - 1))

theorem quotaHonoured_of_kept (kept : maxPerSec ≤ 0 ∨ key ∈ map) :
    QuotaHonoured map key maxPerSec := by
  unfold QuotaHonoured getOrCreate
  rcases kept with unlimited | present
  · rw [if_pos unlimited]
    exact ⟨_, _, rfl, fun positive => absurd unlimited (Int64.not_le.mpr positive)⟩
  · obtain ⟨stored, found⟩ := Finmap.mem_iff.mp present
    rw [found]
    split
    · exact ⟨_, _, rfl, fun _ absent => nomatch absent⟩
    · exact ⟨_, _, rfl, fun _ absent => nomatch absent⟩

theorem getOrCreate_fresh (positive : 0 < maxPerSec) (fresh : map.lookup key = none) :
    getOrCreate map key maxPerSec =
      (Quota.new (asU32 maxPerSec)).map fun quota => (map.insert key quota, some quota) := by
  rw [getOrCreate, if_neg (Int64.not_le.mpr positive), fresh]

theorem quotaHonoured_fresh (positive : 0 < maxPerSec) (fresh : map.lookup key = none) :
    QuotaHonoured map key maxPerSec ↔ asU32 maxPerSec ≠ 0 ∧
      ((asU32 maxPerSec).toNat : Int) = min maxPerSec.toInt (2 ^ 32 - 1) := by
  unfold QuotaHonoured
  rw [getOrCreate_fresh positive fresh, Quota.new]
  constructor
  · rintro ⟨after, limiter, made, honoured⟩
    split at made
    · rename_i nonzero
      cases made
      obtain ⟨quota, same, rate⟩ := honoured positive fresh
      cases same
      exact ⟨nonzero, rate⟩
    · cases made
  · rintro ⟨nonzero, rate⟩
    rw [dif_pos nonzero]
    exact ⟨_, _, rfl, fun _ _ => ⟨_, rfl, rate⟩⟩

theorem quotaHonoured_iff :
    QuotaHonoured map key maxPerSec ↔
      maxPerSec ≤ 0 ∨ key ∈ map ∨ maxPerSec.toInt < 2 ^ 32 ∨
        maxPerSec.toInt % 2 ^ 32 = 2 ^ 32 - 1 := by
  cases sign : decide (maxPerSec ≤ 0) with
  | true =>
      have unlimited := of_decide_eq_true sign
      exact iff_of_true (quotaHonoured_of_kept (.inl unlimited)) (.inl unlimited)
  | false =>
      have limited := of_decide_eq_false sign
      have positive := Int64.not_le.mp limited
      cases fresh : map.lookup key with
      | some stored =>
          have present : key ∈ map := Finmap.mem_of_lookup_eq_some fresh
          exact iff_of_true (quotaHonoured_of_kept (.inr present)) (.inr (.inl present))
      | none =>
          have absent : key ∉ map := Finmap.lookup_eq_none.mp fresh
          have cast := toNat_asU32 (Int64.le_of_lt positive)
          have above : 0 < maxPerSec.toInt := by
            rwa [Int64.lt_iff_toInt_lt, Int64.toInt_zero] at positive
          have zero : asU32 maxPerSec = 0 ↔ ((asU32 maxPerSec).toNat : Int) = 0 := by
            rw [Int.natCast_eq_zero, ← UInt32.toNat_inj]
            rfl
          rw [quotaHonoured_fresh positive fresh, ne_eq, zero, cast]
          simp only [limited, absent, false_or]
          omega

end RushSocket.RateLimit
