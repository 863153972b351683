import Mathlib.Data.Finset.Basic

namespace RushSocket.Data

/-! Messages on their way, for each receiver in the order in which they were sent. -/

abbrev Mailboxes (Node : Type u) (Message : Type v) := Node → List Message

namespace Mailboxes

variable {Node : Type u} {Message : Type v} [DecidableEq Node]

/-- The message is put behind those that the receivers have waiting. -/
def deliver (boxes : Mailboxes Node Message) (receivers : Finset Node)
    (message : Message) : Mailboxes Node Message := fun node =>
  if node ∈ receivers then boxes node ++ [message] else boxes node

def legible {Letter : Type w} (boxes : Mailboxes Node Message)
    (read : Message → Option Letter) (node : Node) : List Letter :=
  (boxes node).filterMap read

variable {Letter : Type w} {boxes : Mailboxes Node Message}
  {read : Message → Option Letter} {receivers : Finset Node} {message : Message}
  {node other : Node}

theorem legible_deliver :
    (boxes.deliver receivers message).legible read node =
      boxes.legible read node ++
        if node ∈ receivers then (read message).toList else [] := by
  unfold legible deliver
  split
  · rw [List.filterMap_append]
    congr 1
  · exact (List.append_nil _).symm

theorem countP_legible_deliver_le (holds : Letter → Bool) :
    ((boxes.deliver receivers message).legible read node).countP holds ≤
      (boxes.legible read node).countP holds + (read message).toList.countP holds := by
  rw [legible_deliver, List.countP_append]
  apply Nat.add_le_add_left
  split
  · exact Nat.le_refl _
  · exact Nat.zero_le _

theorem mem_legible_deliver {letter : Letter}
    (member : letter ∈ (boxes.deliver receivers message).legible read node) :
    letter ∈ boxes.legible read node ∨ node ∈ receivers ∧ read message = some letter := by
  rw [legible_deliver, List.mem_append] at member
  apply member.imp_right
  intro delivered
  split at delivered
  · rename_i receives
    exact ⟨receives, Option.mem_toList.mp delivered⟩
  · cases delivered

theorem legible_update (left : List Message) :
    Mailboxes.legible (Function.update boxes node left) read other =
      if other = node then left.filterMap read else boxes.legible read other := by
  unfold legible
  rw [Function.update_apply]
  split <;> rfl

end Mailboxes

end RushSocket.Data
