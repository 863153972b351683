import Mathlib.Data.Finset.Basic
import Mathlib.Data.List.Sort
import Mathlib.Data.String.Basic

namespace RushSocket.Data

/-- The order in which a hash set lists its elements: any list of exactly
these elements, each once. -/
structure HashOrder where
  list : Finset String → List String
  nodup : ∀ stored, (list stored).Nodup
  mem_list : ∀ {stored element}, element ∈ list stored ↔ element ∈ stored

namespace HashOrder

@[simp] theorem list_empty (order : HashOrder) : order.list ∅ = [] := by
  rw [List.eq_nil_iff_forall_not_mem]
  intro element member
  exact absurd (order.mem_list.mp member) (Finset.notMem_empty element)

theorem list_singleton (order : HashOrder) (element : String) :
    order.list {element} = [element] := by
  refine List.perm_singleton.mp ?_
  rw [List.perm_ext_iff_of_nodup (order.nodup _) (List.nodup_singleton element)]
  intro other
  rw [order.mem_list, Finset.mem_singleton, List.mem_singleton]

theorem insertionSort_eq_of_perm {left right : List String}
    (permuted : left.Perm right) :
    left.insertionSort (· ≤ ·) = right.insertionSort (· ≤ ·) := by
  have sortedPerm : (left.insertionSort (· ≤ ·)).Perm
      (right.insertionSort (· ≤ ·)) :=
    (List.perm_insertionSort _ left).trans
      (permuted.trans (List.perm_insertionSort _ right).symm)
  exact sortedPerm.eq_of_pairwise' (List.pairwise_insertionSort _ left)
    (List.pairwise_insertionSort _ right)

def ascending : HashOrder where
  list stored :=
    Quot.lift (List.insertionSort (· ≤ ·))
      (fun _ _ permuted => insertionSort_eq_of_perm permuted) stored.val
  nodup stored := by
    obtain ⟨elements, nodup⟩ := stored
    induction elements using Quot.ind with
    | mk elements =>
        exact (List.perm_insertionSort _ elements).nodup_iff.mpr nodup
  mem_list {stored element} := by
    obtain ⟨elements, nodup⟩ := stored
    induction elements using Quot.ind with
    | mk elements => exact (List.perm_insertionSort _ elements).mem_iff

example : ascending.list {"b", "c", "a"} = ["a", "b", "c"] := by decide

end HashOrder

end RushSocket.Data
