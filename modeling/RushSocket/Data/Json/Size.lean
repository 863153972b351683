import RushSocket.Data.Json.Text
import Mathlib.Data.String.Basic

namespace RushSocket.Data.Json

/-! The size of a document in bytes, and how much of it are escapes. -/

def isEscaped (char : Char) : Bool :=
  char = '"' || char = '\\' || char.toNat < 32

def isPlainText (text : String) : Bool := text.toList.all fun char => !isEscaped char

def isPlain : Json → Bool
  | .null | .bool _ | .number _ => true
  | .string value => isPlainText value
  | .array items => plainItems items
  | .object fields => plainFields fields
where
  plainItems : List Json → Bool
    | [] => true
    | item :: rest => item.isPlain && plainItems rest
  plainFields : List (String × Json) → Bool
    | [] => true
    | (key, value) :: rest => isPlainText key && value.isPlain && plainFields rest

def textSize (tokens : List Token) : Nat := String.utf8Len (tokens.flatMap Token.text)

theorem utf8ByteSize_print (json : Json) : json.print.utf8ByteSize = textSize json.tokens :=
  String.utf8ByteSize_ofList _

theorem textSize_nil : textSize [] = 0 := rfl

theorem textSize_cons (token : Token) (rest : List Token) :
    textSize (token :: rest) = String.utf8Len token.text + textSize rest := by
  rw [textSize, List.flatMap_cons, String.utf8Len_append]
  rfl

theorem textSize_append (first second : List Token) :
    textSize (first ++ second) = textSize first + textSize second := by
  rw [textSize, List.flatMap_append, String.utf8Len_append]
  rfl

def Token.isMark : Token → Bool
  | .openArray | .closeArray | .openObject | .closeObject | .comma | .colon => true
  | .null | .bool _ | .number _ | .string _ => false

theorem utf8Len_mark {token : Token} (mark : token.isMark = true) :
    String.utf8Len token.text = 1 := by
  cases token with
  | openArray | closeArray | openObject | closeObject | comma | colon => rfl
  | null | bool _ | number _ | string _ => exact nomatch mark

theorem textSize_token (token : Token) : textSize [token] = String.utf8Len token.text := by
  rw [textSize, List.flatMap_singleton]

theorem textSize_array (item : Json) (rest : List Json) :
    textSize (array (item :: rest)).tokens =
      2 + textSize item.tokens + textSize (tokens.tailItems rest) := by
  simp only [tokens, List.cons_append, textSize_cons, textSize_append, textSize_nil]
  rw [@utf8Len_mark .openArray rfl, @utf8Len_mark .closeArray rfl]
  omega

theorem textSize_tailItems (item : Json) (rest : List Json) :
    textSize (tokens.tailItems (item :: rest)) =
      1 + textSize item.tokens + textSize (tokens.tailItems rest) := by
  simp only [tokens.tailItems, List.cons_append, textSize_cons, textSize_append]
  rw [utf8Len_mark rfl, Nat.add_assoc]

def fieldSize (key : String) (value : Json) : Nat :=
  String.utf8Len (Token.string key).text + 1 + textSize value.tokens

theorem textSize_object (key : String) (value : Json) (rest : List (String × Json)) :
    textSize (object ((key, value) :: rest)).tokens =
      2 + fieldSize key value + textSize (tokens.tailFields rest) := by
  simp only [tokens, List.cons_append, textSize_cons, textSize_append, textSize_nil,
    fieldSize]
  rw [@utf8Len_mark .openObject rfl, @utf8Len_mark .colon rfl,
    @utf8Len_mark .closeObject rfl]
  omega

theorem textSize_tailFields (key : String) (value : Json) (rest : List (String × Json)) :
    textSize (tokens.tailFields ((key, value) :: rest)) =
      1 + fieldSize key value + textSize (tokens.tailFields rest) := by
  simp only [tokens.tailFields, List.cons_append, textSize_cons, textSize_append, fieldSize]
  rw [@utf8Len_mark .comma rfl, @utf8Len_mark .colon rfl]
  omega

/-! A size and what it grows to when up to six bytes are written for each. -/

structure Brackets (least size : Nat) (plain : Bool) : Prop where
  lower : least ≤ size
  upper : size ≤ 6 * least
  same : least = size ↔ plain = true

namespace Brackets

theorem refl (size : Nat) : Brackets size size true where
  lower := le_rfl
  upper := by omega
  same := by simp

theorem add {least size least' size' : Nat} {plain plain' : Bool}
    (first : Brackets least size plain) (second : Brackets least' size' plain') :
    Brackets (least + least') (size + size') (plain && plain') where
  lower := Nat.add_le_add first.lower second.lower
  upper := by
    have left := first.upper
    have right := second.upper
    omega
  same := by
    have left := first.lower
    have right := second.lower
    rw [Bool.and_eq_true, ← first.same, ← second.same]
    omega

end Brackets

theorem utf8Size_of_toNat_lt {char : Char} (ascii : char.toNat < 128) :
    char.utf8Size = 1 := by
  have small : char.val ≤ 0x7F := UInt32.le_iff_toNat_le.mpr (Nat.le_of_lt_succ ascii)
  exact if_pos small

theorem toNat_lt_of_isEscaped {char : Char} (escaped : isEscaped char = true) :
    char.toNat < 128 := by
  simp only [isEscaped, Bool.or_eq_true, decide_eq_true_eq] at escaped
  rcases escaped with (rfl | rfl) | control
  · decide
  · decide
  · omega

theorem utf8Size_hexDigit {value : Nat} (digit : value < 16) :
    (hexDigit value).utf8Size = 1 := by
  interval_cases value <;> decide

theorem utf8Len_escapeChar {char : Char} (escaped : isEscaped char = true) :
    2 ≤ String.utf8Len (escapeChar char) ∧ String.utf8Len (escapeChar char) ≤ 6 := by
  have two : ∀ letter : Char, letter.utf8Size = 1 →
      2 ≤ String.utf8Len ['\\', letter] ∧ String.utf8Len ['\\', letter] ≤ 6 := by
    intro letter one
    have slash : '\\'.utf8Size = 1 := rfl
    simp [one, slash]
  unfold escapeChar
  iterate 7
    split
    · exact two _ rfl
  split
  · rename_i control
    have high := utf8Size_hexDigit (show char.toNat / 16 < 16 by omega)
    have low := utf8Size_hexDigit (show char.toNat % 16 < 16 by omega)
    have slash : '\\'.utf8Size = 1 := rfl
    have letter : 'u'.utf8Size = 1 := rfl
    have zero : '0'.utf8Size = 1 := rfl
    simp [high, low, slash, letter, zero]
  · simp_all [isEscaped]

theorem escapeChar_of_plain {char : Char} (plain : isEscaped char = false) :
    escapeChar char = [char] := by
  simp only [isEscaped, Bool.or_eq_false_iff, decide_eq_false_iff_not] at plain
  obtain ⟨⟨quote, slash⟩, printable⟩ := plain
  have different : ∀ control < 32, char.toNat ≠ control := by
    intro control below same
    omega
  simp [escapeChar, quote, slash, different, printable]

theorem brackets_escapeChar (char : Char) :
    Brackets char.utf8Size (String.utf8Len (escapeChar char)) (!isEscaped char) := by
  cases escaped : isEscaped char with
  | false =>
      rw [escapeChar_of_plain escaped]
      have one : String.utf8Len [char] = char.utf8Size := Nat.zero_add _
      rw [one]
      exact .refl _
  | true =>
      rw [utf8Size_of_toNat_lt (toNat_lt_of_isEscaped escaped)]
      obtain ⟨two, six⟩ := utf8Len_escapeChar escaped
      refine ⟨by omega, six, ?_⟩
      simp only [Bool.not_true, Bool.false_eq_true, iff_false]
      omega

theorem brackets_flatMap_escapeChar (chars : List Char) :
    Brackets (String.utf8Len chars) (String.utf8Len (chars.flatMap escapeChar))
      (chars.all fun char => !isEscaped char) := by
  induction chars with
  | nil => exact .refl 0
  | cons char rest induction =>
      have sized := induction.add (brackets_escapeChar char)
      simpa [Bool.and_comm, Nat.add_comm] using sized

theorem brackets_string (value : String) :
    Brackets (value.utf8ByteSize + 2) (String.utf8Len (Token.string value).text)
      (isPlainText value) := by
  have sized := (brackets_flatMap_escapeChar value.toList).add (.refl 2)
  have least : String.utf8Len value.toList = value.utf8ByteSize := by
    rw [← String.utf8ByteSize_ofList, String.ofList_toList]
  have quote : '"'.utf8Size = 1 := rfl
  have size : String.utf8Len (Token.string value).text =
      String.utf8Len (value.toList.flatMap escapeChar) + 2 := by
    simp [Token.text, quote]
  rw [least, Bool.and_true] at sized
  rw [size]
  exact sized

theorem toNat_lt_of_isNumberChar {char : Char} (number : isNumberChar char = true) :
    char.toNat < 128 := by
  simp only [isNumberChar, Bool.or_eq_true, decide_eq_true_eq] at number
  rcases number with ((((digit | rfl) | rfl) | rfl) | rfl) | rfl
  · simp only [Char.isDigit, Bool.and_eq_true, decide_eq_true_eq] at digit
    have upper : char.toNat ≤ 57 := UInt32.le_iff_toNat_le.mp digit.2
    omega
  all_goals decide

theorem utf8Len_of_ascii {chars : List Char} (ascii : ∀ char ∈ chars, char.toNat < 128) :
    String.utf8Len chars = chars.length := by
  induction chars with
  | nil => rfl
  | cons char rest induction =>
      rw [String.utf8Len_cons, List.length_cons,
        utf8Size_of_toNat_lt (ascii char List.mem_cons_self),
        induction fun other member => ascii other (List.mem_cons_of_mem char member)]

theorem utf8Len_number (number : Number) :
    String.utf8Len (Token.number number).text = number.print.length :=
  utf8Len_of_ascii fun char member =>
    toNat_lt_of_isNumberChar (number.isNumberChar_of_mem_print char member)

end RushSocket.Data.Json
