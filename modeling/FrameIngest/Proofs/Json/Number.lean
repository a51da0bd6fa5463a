import Mathlib
import FrameIngest.Json.Node
import FrameIngest.Json.Print

namespace FrameIngest.Json

/-- What may stand after a value in a text without blanks: nothing, a comma, or a bracket. -/
def EndsValue (rest : List Char) : Prop :=
  ∀ c, rest.head? = some c → c = ',' ∨ c = ']' ∨ c = '\x7d'

/-- Whether a number is whole. -/
def Number.IsWhole : Number → Prop
  | .integer _ => True
  | .float _ => False

/-- Whether a number is one of 64 bits if it is whole: from -2^63 to below 2^64. -/
def Number.Fits : Number → Prop
  | .integer value => -2 ^ 63 ≤ value ∧ value < 2 ^ 64
  | .float _ => True

namespace Numeral

/-- The decimal digits of a number. -/
def digitsOf (value : Nat) : List Nat :=
  (Decimal.natural value).map digitValue

/-- A whole number as it is written. -/
def ofInt (value : Int) : Numeral where
  negative := value < 0
  whole := digitsOf value.natAbs
  fraction := none
  exponent := none

theorem ofDigits_digitsOf (value : Nat) : ofDigits (digitsOf value) = value := by
  have same := @Nat.ofDigitChars_ten_toDigits value
  rw [Nat.ofDigitChars_eq_foldl] at same
  rw [ofDigits, digitsOf, List.foldl_map]
  simp only [Nat.mul_comm 10] at same
  exact same

theorem le_foldl_digits (significand : Nat) (digits : List Nat) :
    significand ≤ digits.foldl (fun value digit => value * 10 + digit) significand := by
  induction digits generalizing significand with
  | nil => exact Nat.le_refl significand
  | cons digit digits ih =>
    have later := ih (significand * 10 + digit)
    rw [List.foldl_cons]
    omega

/-- Digits of a number of 64 bits are all absorbed. -/
theorem absorb_eq {significand : Nat} {digits : List Nat}
    (small : digits.foldl (fun value digit => value * 10 + digit) significand < UInt64.size) :
    absorb significand digits =
      (digits.foldl (fun value digit => value * 10 + digit) significand, []) := by
  induction digits generalizing significand with
  | nil => rfl
  | cons digit digits ih =>
    rw [List.foldl_cons] at small ⊢
    have first := le_foldl_digits (significand * 10 + digit) digits
    rw [absorb, if_pos (by omega), ih small]

/-- What is absorbed has 64 bits. -/
theorem absorb_lt {significand : Nat} (small : significand < UInt64.size) (digits : List Nat) :
    (absorb significand digits).1 < UInt64.size := by
  induction digits generalizing significand with
  | nil => exact small
  | cons digit digits ih =>
    rw [absorb]
    split
    · rename_i fits
      exact ih fits
    · exact small

/-- A written number of 64 bits has its value. -/
theorem value_ofInt {value : Int} (fits : -2 ^ 63 ≤ value ∧ value < 2 ^ 64) :
    (ofInt value).value = .ok (.integer value) := by
  have size : UInt64.size = 2 ^ 64 := by decide
  have absorbed : absorb 0 (digitsOf value.natAbs) = (value.natAbs, []) := by
    have digits := ofDigits_digitsOf value.natAbs
    rw [ofDigits] at digits
    rw [absorb_eq (by rw [digits]; omega), digits]
  simp only [Numeral.value, ofInt, absorbed, wholeValue]
  by_cases negative : value < 0
  · have some_digits : ¬(value.natAbs = 0 ∨ 0x8000000000000000 < value.natAbs) := by omega
    have same : -(value.natAbs : Int) = value := by omega
    rw [if_neg (by simpa using negative), if_neg some_digits, same]
  · have same : (value.natAbs : Int) = value := by omega
    rw [if_pos (by simpa using negative), same]

theorem scaledValue_ne_integer (negative : Bool) (significand : Nat) (power : Int)
    (exponent : Option (Bool × List Nat)) (value : Int) :
    scaledValue negative significand power exponent ≠ .ok (.integer value) := by
  have finished (exponent : Int) :
      scaledValue.finish negative significand exponent ≠ .ok (.integer value) := by
    rw [scaledValue.finish]
    split <;> simp [signed]
  cases exponent with
  | none => exact finished power
  | some written =>
    rw [scaledValue]
    split
    · split <;> simp [signed]
    · exact finished _

/-- A whole number that is read has 64 bits. -/
theorem value_fits {numeral : Numeral} {number : Number}
    (read : numeral.value = .ok number) : number.Fits := by
  cases number with
  | float bits => trivial
  | integer value =>
    have size : UInt64.size = 2 ^ 64 := by decide
    have absorbed := absorb_lt (by decide : 0 < UInt64.size) numeral.whole
    rw [Numeral.value] at read
    generalize absorb 0 numeral.whole = digits at read absorbed
    obtain ⟨significand, skipped⟩ := digits
    simp only at read absorbed
    split at read
    · rw [Except.ok.injEq, wholeValue] at read
      split at read
      · cases read
        exact ⟨by omega, by omega⟩
      split at read
      · rw [signed] at read
        cases read
      · cases read
        exact ⟨by omega, by omega⟩
    · exact (scaledValue_ne_integer _ _ _ _ _ read).elim
    · exact (scaledValue_ne_integer _ _ _ _ _ read).elim

/-- Digits begin with a zero only where there is no other digit. -/
theorem digitsOf_cases (value : Nat) :
    digitsOf value = [0] ∨ ∃ digit rest, digitsOf value = (digit + 1) :: rest := by
  induction value using Nat.strong_induction_on with
  | _ value ih =>
    by_cases small : value < 10
    · have one : digitsOf value = [value] := by
        rw [digitsOf, Decimal.natural, Nat.toDigits_of_lt_base small]
        exact congrArg (· :: []) (Nat.toNat_digitChar_sub_48_of_lt_ten small)
      rw [one]
      cases value with
      | zero => exact Or.inl rfl
      | succ digit => exact Or.inr ⟨digit, [], rfl⟩
    · have more : digitsOf value =
          digitsOf (value / 10) ++ [digitValue (Nat.digitChar (value % 10))] := by
        rw [digitsOf, digitsOf, Decimal.natural, Decimal.natural,
          Nat.toDigits_of_base_le (by decide) (by omega), List.map_append]
        rfl
      rcases ih (value / 10) (by omega) with zero | ⟨digit, rest, digits⟩
      · have nothing := ofDigits_digitsOf (value / 10)
        rw [zero] at nothing
        change 0 = _ at nothing
        omega
      · exact Or.inr ⟨digit, _, by rw [more, digits, List.cons_append]⟩

end Numeral

theorem isDigit_of_mem_natural {value : Nat} {c : Char} (member : c ∈ Decimal.natural value) :
    c.isDigit = true :=
  Nat.isDigit_of_mem_toDigits (by decide) (by decide) member

theorem isDigit_of_endsValue {rest : List Char} (ends : EndsValue rest) {c : Char}
    (first : rest.head? = some c) : c.isDigit = false := by
  rcases ends c first with rfl | rfl | rfl <;> rfl

/-- The reader finds the end of written digits. -/
theorem readDigits_natural (value : Nat) {rest : List Char} (ends : EndsValue rest) :
    readDigits (Decimal.natural value ++ rest) = (Numeral.digitsOf value, rest) := by
  have digits : ∀ c ∈ Decimal.natural value, c.isDigit = true := fun _ => isDigit_of_mem_natural
  have none_after : rest.takeWhile Char.isDigit = [] ∧ rest.dropWhile Char.isDigit = rest := by
    cases rest with
    | nil => exact ⟨rfl, rfl⟩
    | cons c rest =>
      have noDigit := isDigit_of_endsValue ends rfl
      exact ⟨List.takeWhile_cons_of_neg (by simp [noDigit]),
        List.dropWhile_cons_of_neg (by simp [noDigit])⟩
  rw [readDigits, List.takeWhile_append_of_pos digits, List.dropWhile_append_of_pos digits,
    none_after.1, none_after.2, List.append_nil, Numeral.digitsOf]

namespace Node

theorem readFraction_endsValue (negative : Bool) (whole : List Nat) {rest : List Char}
    (ends : EndsValue rest) :
    readFraction negative whole rest = (.number ⟨negative, whole, none, none⟩, rest) := by
  cases rest with
  | nil => rfl
  | cons c rest => rcases ends c rfl with rfl | rfl | rfl <;> rfl

/-- Digits are read as the number that they write. -/
theorem readNumber_natural (negative : Bool) (value : Nat) {rest : List Char}
    (ends : EndsValue rest) :
    readNumber negative (Decimal.natural value ++ rest) =
      (.number ⟨negative, Numeral.digitsOf value, none, none⟩, rest) := by
  rw [readNumber, readDigits_natural value ends]
  rcases Numeral.digitsOf_cases value with digits | ⟨digit, more, digits⟩
  · rw [digits]
    exact readFraction_endsValue negative [0] ends
  · rw [digits]
    exact readFraction_endsValue negative ((digit + 1) :: more) ends

end Node

end FrameIngest.Json
