import RushSocket.Data.Json.Number

namespace RushSocket.Websocket

open Data

/-! Socket ids: two numbers with a dot between them. -/

def generate (first second : Nat) : String := toString first ++ "." ++ toString second

def isDigits (chars : List Char) : Bool := chars ≠ [] && chars.all Char.isDigit

def IsSocketId (socketId : String) : Prop :=
  ∃ first second, socketId.toList = first ++ '.' :: second ∧ isDigits first = true ∧
    isDigits second = true

theorem isDigits_toString (value : Nat) : isDigits (toString value).toList = true := by
  have plain := isPlainDigits_toDigits value
  simp only [isPlainDigits, Bool.and_eq_true] at plain
  rw [isDigits, Bool.and_eq_true, Nat.toString_eq_ofList_toDigits, String.toList_ofList]
  exact plain.1

theorem isSocketId_generate (first second : Nat) :
    IsSocketId (generate first second) := by
  refine ⟨(toString first).toList, (toString second).toList, ?_,
    isDigits_toString first, isDigits_toString second⟩
  simp [generate]

theorem IsSocketId.mem {socketId : String} (valid : IsSocketId socketId) {char : Char}
    (member : char ∈ socketId.toList) : char.isDigit = true ∨ char = '.' := by
  obtain ⟨first, second, shape, digits, digitsToo⟩ := valid
  simp only [isDigits, Bool.and_eq_true, List.all_eq_true] at digits digitsToo
  rw [shape, List.mem_append, List.mem_cons] at member
  rcases member with early | dot | late
  · exact .inl (digits.2 char early)
  · exact .inr dot
  · exact .inl (digitsToo.2 char late)

theorem IsSocketId.head {socketId : String} (valid : IsSocketId socketId) :
    ∃ char rest, socketId.toList = char :: rest ∧ char.isDigit = true := by
  obtain ⟨first, second, shape, digits, _⟩ := valid
  simp only [isDigits, Bool.and_eq_true, List.all_eq_true] at digits
  cases first with
  | nil => exact absurd digits.1 (by decide)
  | cons char rest =>
      exact ⟨char, rest ++ '.' :: second, shape, digits.2 char List.mem_cons_self⟩

end RushSocket.Websocket
