import Mathlib.Data.List.DropRight
import Mathlib.Data.List.Infix
import Mathlib.Data.String.Basic

namespace RushSocket.Data.Text

/-! Leading parts of texts, read on their characters. -/

def startsWith (text lead : String) : Bool := lead.toList.isPrefixOf text.toList

def strip (text lead : String) : Option String :=
  if startsWith text lead then
    some (String.ofList (text.toList.drop lead.toList.length))
  else none

theorem strip_eq_some_iff {text lead rest : String} :
    strip text lead = some rest ↔ text = lead ++ rest := by
  unfold strip startsWith
  constructor
  · intro stripped
    split at stripped
    · rename_i leads
      obtain ⟨tail, shape⟩ := List.isPrefixOf_iff_prefix.mp leads
      cases stripped
      apply String.toList_inj.mp
      rw [String.toList_append, String.toList_ofList, ← shape]
      simp
    · cases stripped
  · rintro rfl
    simp [String.toList_append]

/-- The characters of the Unicode property White_Space. -/
def isWhiteSpace (char : Char) : Bool :=
  let code := char.toNat
  (0x9 ≤ code && code ≤ 0xD) || code = 0x20 || code = 0x85 || code = 0xA0 ||
    code = 0x1680 || (0x2000 ≤ code && code ≤ 0x200A) || code = 0x2028 ||
    code = 0x2029 || code = 0x202F || code = 0x205F || code = 0x3000

def trim (chars : List Char) : List Char :=
  (chars.dropWhile isWhiteSpace).rdropWhile isWhiteSpace

def hasItem (text item : String) : Bool :=
  (text.toList.splitOn ',').any fun part => trim part = item.toList

/-! Texts around a mark. -/

theorem append_mark_inj {α : Type u} {mark : α} {first second rest other : List α}
    (plain : mark ∉ first) (plainToo : mark ∉ second)
    (equal : first ++ mark :: rest = second ++ mark :: other) :
    first = second ∧ rest = other := by
  induction first generalizing second with
  | nil =>
      cases second with
      | nil =>
          cases equal
          exact ⟨rfl, rfl⟩
      | cons head tail =>
          rw [List.nil_append, List.cons_append, List.cons.injEq] at equal
          exact absurd (equal.1 ▸ List.mem_cons_self) plainToo
  | cons head tail induction =>
      cases second with
      | nil =>
          rw [List.nil_append, List.cons_append, List.cons.injEq] at equal
          exact absurd (equal.1 ▸ List.mem_cons_self) plain
      | cons otherHead otherTail =>
          rw [List.cons_append, List.cons_append, List.cons.injEq] at equal
          obtain ⟨rfl, equal⟩ := equal
          obtain ⟨rfl, rfl⟩ := induction (fun member =>
            plain (List.mem_cons_of_mem _ member)) (fun member =>
            plainToo (List.mem_cons_of_mem _ member)) equal
          exact ⟨rfl, rfl⟩

/-- When nothing after the mark of the first has a mark, the cut of the second is
that of the first or an earlier one. -/
theorem append_mark_cases {α : Type u} {mark : α} {first second rest other : List α}
    (plain : mark ∉ rest) (equal : first ++ mark :: rest = second ++ mark :: other) :
    (first = second ∧ rest = other) ∨
      ∃ front, first = second ++ mark :: front ∧ other = front ++ mark :: rest := by
  rcases List.append_eq_append_iff.mp equal with ⟨more, longer, tail⟩ | ⟨more, longer, tail⟩
  · cases more with
    | nil =>
        rw [List.append_nil] at longer
        exact .inl ⟨longer.symm, (List.cons.inj tail).2⟩
    | cons char front =>
        -- a later cut would leave a mark in the rest of the first
        refine absurd ?_ plain
        rw [(List.cons.inj tail).2]
        exact List.mem_append_right _ List.mem_cons_self
  · cases more with
    | nil =>
        rw [List.append_nil] at longer
        exact .inl ⟨longer, (List.cons.inj tail).2.symm⟩
    | cons char front =>
        obtain ⟨same, tail⟩ := List.cons.inj tail
        rw [← same] at longer
        exact .inr ⟨front, longer, tail⟩

theorem exists_late_mark {α : Type u} [DecidableEq α] {mark : α} {text : List α}
    (several : 2 ≤ text.count mark) :
    ∃ first rest, text = first ++ mark :: rest ∧ mark ∈ first := by
  have member : mark ∈ text := List.count_pos_iff.mp (by omega)
  obtain ⟨before, after, rfl, plain⟩ := List.eq_append_cons_of_mem member
  rw [List.count_append, List.count_cons_self, List.count_eq_zero.mpr plain]
    at several
  have again : mark ∈ after := List.count_pos_iff.mp (by omega)
  obtain ⟨middle, rest, rfl⟩ := List.append_of_mem again
  exact ⟨before ++ mark :: middle, rest, by simp, by simp⟩

theorem length_le_count_intercalate {α : Type u} [DecidableEq α] {mark : α}
    (separator : List α) {texts : List (List α)}
    (marked : ∀ text ∈ texts, mark ∈ text) :
    texts.length ≤ (separator.intercalate texts).count mark := by
  induction texts with
  | nil => exact Nat.zero_le _
  | cons text rest induction =>
      have here : 1 ≤ text.count mark :=
        List.count_pos_iff.mpr (marked text List.mem_cons_self)
      have there := induction fun other member =>
        marked other (List.mem_cons_of_mem _ member)
      cases rest with
      | nil => simpa using here
      | cons next rest =>
          rw [List.intercalate_cons_cons, List.count_append, List.count_append]
          simp only [List.length_cons] at there ⊢
          omega

end RushSocket.Data.Text
