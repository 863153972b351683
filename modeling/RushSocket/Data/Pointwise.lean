import Mathlib.Algebra.Ring.Int.Defs
import Mathlib.Algebra.Order.BigOperators.Group.List
import Mathlib.Data.List.Perm.Basic
import Mathlib.Logic.OpClass

namespace RushSocket.Data

/-! Partial functions under an operation on their values: where one side has
nothing, the other side counts. -/

section

variable {κ : Type u} {α : Type v} {β : Type w} {op : α → α → α}

def pointwise (op : α → α → α) (left right : κ → Option α) : κ → Option α := fun key =>
  Option.merge op (left key) (right key)

instance [Std.Commutative op] : Std.Commutative (pointwise (κ := κ) op) :=
  ⟨fun _ _ => funext fun _ => Std.Commutative.comm _ _⟩

instance [Std.Associative op] : Std.Associative (pointwise (κ := κ) op) :=
  ⟨fun _ _ _ => funext fun _ => Std.Associative.assoc _ _ _⟩

/-- A reading that goes along with the operation goes along with the merge. -/
theorem merge_bind {combine : β → β → β} {read : α → Option β}
    (reads : ∀ x y, read (op x y) = Option.merge combine (read x) (read y))
    (x y : Option α) :
    (Option.merge op x y).bind read = Option.merge combine (x.bind read) (y.bind read) := by
  cases x with
  | none =>
      cases y with
      | none => rfl
      | some y => exact Option.merge_none_left.symm
  | some x =>
      cases y with
      | none => exact Option.merge_none_right.symm
      | some y => exact reads x y

end

/-- The sum of the values that are there, when there is one. -/
def total (values : List (Option Int)) : Option Int :=
  if values.filterMap id = [] then none else some (values.filterMap id).sum

theorem merge_total (value : Option Int) (values : List (Option Int)) :
    Option.merge (· + ·) value (total values) = total (value :: values) := by
  unfold total
  cases value with
  | none => exact Option.merge_none_left
  | some value =>
      have kept : (some value :: values).filterMap id = value :: values.filterMap id := rfl
      rw [kept, if_neg (List.cons_ne_nil _ _)]
      split
      · rename_i empty
        rw [empty]
        simp
      · rw [List.sum_cons]
        rfl

theorem foldl_merge_eq_total (values : List (Option Int)) (value : Option Int) :
    values.foldl (Option.merge (· + ·)) value = total (value :: values) := by
  induction values generalizing value with
  | nil => cases value <;> simp [total]
  | cons next rest induction =>
      rw [List.foldl_cons, induction, ← merge_total, ← merge_total, ← merge_total]
      exact Std.Associative.assoc value next (total rest)

end RushSocket.Data
