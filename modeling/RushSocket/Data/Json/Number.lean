import Mathlib.Data.List.TakeWhile
import Mathlib.Tactic.IntervalCases

namespace RushSocket.Data

/-! Number texts of JSON.  A number is an integer of 64 bits, signed or
unsigned, or any other number text, which is kept by its characters. -/

def isNumberChar (char : Char) : Bool :=
  char.isDigit || char = '-' || char = '+' || char = '.' || char = 'e' ||
    char = 'E'

/-- At least one digit, and no leading zero unless it is the only digit. -/
def isPlainDigits (digits : List Char) : Bool :=
  digits ≠ [] && digits.all Char.isDigit &&
    (digits.head? ≠ some '0' || digits.length = 1)

def readNatural (digits : List Char) : Option Nat :=
  if isPlainDigits digits then some (Nat.ofDigitChars 10 digits 0) else none

/-- The text `-0` is not read as an integer: it denotes a signed zero. -/
def readInteger : List Char → Option Int
  | '-' :: digits =>
      (readNatural digits).bind fun magnitude =>
        if magnitude = 0 then none else some (-(magnitude : Int))
  | digits => (readNatural digits).map Int.ofNat

def printInteger : Int → List Char
  | .ofNat magnitude => Nat.toDigits 10 magnitude
  | .negSucc magnitude => '-' :: Nat.toDigits 10 (magnitude + 1)

def inIntegerRange (value : Int) : Bool :=
  -2 ^ 63 ≤ value && value < 2 ^ 64

def isExponentTail : List Char → Bool
  | [] => true
  | mark :: rest =>
      let digits := match rest with
        | '+' :: digits => digits
        | '-' :: digits => digits
        | digits => digits
      (mark = 'e' || mark = 'E') && digits ≠ [] && digits.all Char.isDigit

def isFractionTail : List Char → Bool
  | '.' :: rest =>
      rest.takeWhile Char.isDigit ≠ [] &&
        isExponentTail (rest.dropWhile Char.isDigit)
  | rest => isExponentTail rest

def isUnsignedNumberText (chars : List Char) : Bool :=
  isPlainDigits (chars.takeWhile Char.isDigit) &&
    isFractionTail (chars.dropWhile Char.isDigit)

def isNumberText : List Char → Bool
  | '-' :: rest => isUnsignedNumberText rest
  | chars => isUnsignedNumberText chars

/-- A number text that no 64-bit integer has. -/
structure DecimalText where
  chars : List Char
  grammar : isNumberText chars = true
  notInteger : (readInteger chars).any inIntegerRange = false
  deriving DecidableEq

inductive Number where
  | integer (value : Int) (inRange : inIntegerRange value = true)
  | decimal (text : DecimalText)
  deriving DecidableEq

namespace Number

def natural (value : Nat) (bound : value < 2 ^ 64) : Number :=
  .integer value (by
    simp only [inIntegerRange, Bool.and_eq_true, decide_eq_true_eq]
    omega)

def ofU64 (value : UInt64) : Number := natural value.toNat value.toNat_lt

def asI64 : Number → Option Int
  | .integer value _ => if value < 2 ^ 63 then some value else none
  | .decimal _ => none

def asU64 : Number → Option Nat
  | .integer value _ => if 0 ≤ value then some value.toNat else none
  | .decimal _ => none

@[simp] theorem asU64_natural (value : Nat) (bound : value < 2 ^ 64) :
    (natural value bound).asU64 = some value := by
  simp [natural, asU64]

@[simp] theorem asU64_ofU64 (value : UInt64) : (ofU64 value).asU64 = some value.toNat :=
  asU64_natural value.toNat value.toNat_lt

def print : Number → List Char
  | .integer value _ => printInteger value
  | .decimal text => text.chars

def readDecimal (chars : List Char) : Option Number :=
  if text : isNumberText chars = true ∧
      (readInteger chars).any inIntegerRange = false then
    some (.decimal ⟨chars, text.1, text.2⟩)
  else none

def read (chars : List Char) : Option Number :=
  match readInteger chars with
  | some value =>
      if inRange : inIntegerRange value = true then
        some (.integer value inRange)
      else readDecimal chars
  | none => readDecimal chars

end Number

theorem head?_toDigits_ne_zero {value : Nat} (positive : 0 < value) :
    (Nat.toDigits 10 value).head? ≠ some '0' := by
  induction value using Nat.strong_induction_on with
  | h value induction =>
      by_cases small : value < 10
      · rw [Nat.toDigits_of_lt_base small]
        simp only [List.head?_cons, ne_eq, Option.some.injEq]
        interval_cases value <;> decide
      · have leading := induction (value / 10) (by omega) (by omega)
        rw [Nat.toDigits_of_base_le (by omega) (by omega), List.head?_append]
        cases digits : (Nat.toDigits 10 (value / 10)).head? with
        | none => simp at digits
        | some first => simpa [digits] using leading

theorem isPlainDigits_toDigits (value : Nat) :
    isPlainDigits (Nat.toDigits 10 value) = true := by
  have digits : (Nat.toDigits 10 value).all Char.isDigit = true :=
    List.all_eq_true.mpr fun char member =>
      Nat.isDigit_of_mem_toDigits (by decide) (by decide) member
  rcases Nat.eq_zero_or_pos value with zero | positive
  · subst zero
    decide
  · simp [isPlainDigits, digits, head?_toDigits_ne_zero positive]

theorem readNatural_toDigits (value : Nat) :
    readNatural (Nat.toDigits 10 value) = some value := by
  simp [readNatural, isPlainDigits_toDigits, Nat.ofDigitChars_ten_toDigits]

theorem head?_toDigits_ne_minus (value : Nat) :
    (Nat.toDigits 10 value).head? ≠ some '-' := by
  intro minus
  have digit := Nat.isDigit_of_mem_toDigits (b := 10) (n := value)
    (by decide) (by decide) (List.mem_of_mem_head? minus)
  exact absurd digit (by decide)

theorem readInteger_of_head_ne_minus {chars : List Char}
    (notMinus : chars.head? ≠ some '-') :
    readInteger chars = (readNatural chars).map Int.ofNat := by
  unfold readInteger
  split
  · exact absurd rfl notMinus
  · rfl

theorem readInteger_printInteger (value : Int) :
    readInteger (printInteger value) = some value := by
  cases value with
  | ofNat magnitude =>
      simp only [printInteger]
      rw [readInteger_of_head_ne_minus (head?_toDigits_ne_minus magnitude),
        readNatural_toDigits]
      rfl
  | negSucc magnitude =>
      simp only [printInteger, readInteger, readNatural_toDigits,
        Option.bind_some, Nat.add_eq_zero_iff, one_ne_zero, and_false, if_false]
      rfl

/-- A number is read back from its text. -/
theorem Number.read_print (number : Number) :
    Number.read number.print = some number := by
  cases number with
  | integer value inRange =>
      simp [print, read, readInteger_printInteger, inRange]
  | decimal text =>
      have asDecimal : readDecimal text.chars = some (.decimal text) := by
        simp [readDecimal, text.grammar, text.notInteger]
      have notInteger := text.notInteger
      simp only [print, read]
      cases found : readInteger text.chars with
      | none => exact asDecimal
      | some value =>
          rw [found] at notInteger
          simp only [Option.any_some] at notInteger
          simpa [notInteger] using asDecimal

/-! Every character of a number text belongs to the number alphabet. -/

theorem isNumberChar_of_isDigit {char : Char} (digit : char.isDigit = true) :
    isNumberChar char = true := by
  simp [isNumberChar, digit]

theorem isNumberChar_of_isExponentTail {chars : List Char}
    (tail : isExponentTail chars = true) :
    ∀ char ∈ chars, isNumberChar char = true := by
  cases chars with
  | nil => simp
  | cons mark rest =>
      simp only [isExponentTail, Bool.and_eq_true, Bool.or_eq_true,
        decide_eq_true_eq] at tail
      obtain ⟨⟨marked, _⟩, digits⟩ := tail
      have markNumber : isNumberChar mark = true := by
        rcases marked with rfl | rfl <;> decide
      have restNumber : ∀ char ∈ rest, isNumberChar char = true := by
        split at digits
        · intro char member
          rcases List.mem_cons.mp member with rfl | inDigits
          · decide
          · exact isNumberChar_of_isDigit (List.all_eq_true.mp digits char inDigits)
        · intro char member
          rcases List.mem_cons.mp member with rfl | inDigits
          · decide
          · exact isNumberChar_of_isDigit (List.all_eq_true.mp digits char inDigits)
        · intro char member
          exact isNumberChar_of_isDigit (List.all_eq_true.mp digits char member)
      intro char member
      rcases List.mem_cons.mp member with rfl | inRest
      · exact markNumber
      · exact restNumber char inRest

theorem mem_takeWhile_or_dropWhile {chars : List Char} {char : Char}
    (member : char ∈ chars) :
    char.isDigit = true ∨ char ∈ chars.dropWhile Char.isDigit := by
  rw [← List.takeWhile_append_dropWhile (p := Char.isDigit) (l := chars),
    List.mem_append] at member
  exact member.imp_left fun inDigits => List.mem_takeWhile_imp inDigits

theorem isNumberChar_of_isFractionTail {chars : List Char}
    (tail : isFractionTail chars = true) :
    ∀ char ∈ chars, isNumberChar char = true := by
  unfold isFractionTail at tail
  split at tail
  · simp only [Bool.and_eq_true] at tail
    intro char member
    rcases List.mem_cons.mp member with rfl | inRest
    · decide
    · rcases mem_takeWhile_or_dropWhile inRest with digit | inTail
      · exact isNumberChar_of_isDigit digit
      · exact isNumberChar_of_isExponentTail tail.2 char inTail
  · exact isNumberChar_of_isExponentTail tail

theorem isNumberChar_of_isUnsignedNumberText {chars : List Char}
    (text : isUnsignedNumberText chars = true) :
    ∀ char ∈ chars, isNumberChar char = true := by
  simp only [isUnsignedNumberText, Bool.and_eq_true] at text
  intro char member
  rcases mem_takeWhile_or_dropWhile member with digit | inTail
  · exact isNumberChar_of_isDigit digit
  · exact isNumberChar_of_isFractionTail text.2 char inTail

theorem Number.isNumberChar_of_mem_print (number : Number) :
    ∀ char ∈ number.print, isNumberChar char = true := by
  have ofDigits : ∀ magnitude, ∀ char ∈ Nat.toDigits 10 magnitude,
      isNumberChar char = true := fun magnitude char member =>
    isNumberChar_of_isDigit
      (Nat.isDigit_of_mem_toDigits (by decide) (by decide) member)
  cases number with
  | integer value _ =>
      cases value with
      | ofNat magnitude => exact ofDigits magnitude
      | negSucc magnitude =>
          intro char member
          rcases List.mem_cons.mp member with rfl | inDigits
          · decide
          · exact ofDigits _ char inDigits
  | decimal text =>
      have grammar := text.grammar
      unfold isNumberText at grammar
      simp only [print]
      split at grammar
      · rename_i rest shape
        rw [shape]
        intro char member
        rcases List.mem_cons.mp member with rfl | inRest
        · decide
        · exact isNumberChar_of_isUnsignedNumberText grammar char inRest
      · exact isNumberChar_of_isUnsignedNumberText grammar

theorem Number.print_ne_nil (number : Number) : number.print ≠ [] := by
  cases number with
  | integer value _ =>
      cases value <;> simp [print, printInteger]
  | decimal text =>
      intro empty
      have grammar := text.grammar
      simp only [print] at empty
      rw [empty] at grammar
      exact absurd grammar (by decide)

end RushSocket.Data
