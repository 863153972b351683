import Mathlib.Algebra.BigOperators.Group.Finset.Basic
import RushSocket.Data.Table

namespace RushSocket.Data.Table

/-! Sums over the values of a table. -/

variable {κ : Type u} {ν : Type v} {M : Type w} [DecidableEq κ] [AddCommMonoid M]

def sum (table : Table κ ν) (weigh : ν → M) : M :=
  ∑ key ∈ table.keys, ((table.lookup key).map weigh).getD 0

@[simp] theorem sum_empty (weigh : ν → M) : sum (∅ : Table κ ν) weigh = 0 := rfl

theorem sum_drop (table : Table κ ν) (key : κ) (weigh : ν → M) :
    table.sum weigh =
      ((table.lookup key).map weigh).getD 0 + sum (table.erase key) weigh := by
  have rest : sum (table.erase key) weigh =
      ∑ other ∈ table.keys.erase key, ((table.lookup other).map weigh).getD 0 := by
    rw [sum, keys_drop]
    refine Finset.sum_congr rfl fun other member => ?_
    rw [lookup_drop, if_neg (Finset.ne_of_mem_erase member)]
  rw [rest]
  by_cases present : key ∈ table.keys
  · exact (Finset.add_sum_erase table.keys _ present).symm
  · have absent : table.lookup key = none := by
      rwa [Finmap.mem_keys, ← Finmap.lookup_eq_none] at present
    rw [absent, Finset.erase_eq_of_notMem present, sum]
    exact (zero_add _).symm

theorem sum_put (table : Table κ ν) (key : κ) (value : ν) (weigh : ν → M) :
    sum (table.insert key value) weigh =
      weigh value + sum (table.erase key) weigh := by
  rw [sum_drop (table.insert key value) key, drop_put, Finmap.lookup_insert]
  rfl

theorem sum_put_absent {table : Table κ ν} {key : κ}
    (absent : table.lookup key = none) (value : ν) (weigh : ν → M) :
    sum (table.insert key value) weigh = weigh value + table.sum weigh := by
  rw [sum_put, drop_absent absent]

theorem sum_add (table : Table κ ν) (first second : ν → M) :
    (table.sum fun value => first value + second value) =
      table.sum first + table.sum second := by
  rw [sum, sum, sum, ← Finset.sum_add_distrib]
  refine Finset.sum_congr rfl fun key _ => ?_
  cases table.lookup key with
  | none => exact (add_zero 0).symm
  | some value => rfl

theorem sum_congr {table : Table κ ν} {first second : ν → M}
    (same : ∀ key value, table.lookup key = some value → first value = second value) :
    table.sum first = table.sum second := by
  refine Finset.sum_congr rfl fun key _ => ?_
  cases found : table.lookup key with
  | none => rfl
  | some value => exact congrArg (fun weight => (some weight).getD 0) (same key value found)

theorem sum_ite_eq_count (table : Table κ ν) (holds : ν → Bool) (one : M) :
    (table.sum fun value => if holds value then one else 0) =
      table.count holds • one := by
  rw [count, ← Finset.sum_const, Finset.sum_filter]
  refine Finset.sum_congr rfl fun key _ => ?_
  cases table.lookup key with
  | none => rfl
  | some value => rfl

end RushSocket.Data.Table
