import Mathlib
import FrameIngest.Json.Literal
import FrameIngest.Json.Print

namespace FrameIngest.Json

/-- Whether a character is written as a UTF-16 unit: control characters without a short escape. -/
def isWrittenAsUnit (c : Char) : Bool :=
  c.toNat < 0x20 ∧ c ≠ '\x08' ∧ c ≠ '\x0c' ∧ c ≠ '\n' ∧ c ≠ '\r' ∧ c ≠ '\t'

/-- What a written character is read as. -/
def Piece.ofChar (c : Char) : Piece :=
  if isWrittenAsUnit c then .unit c.toNat else .char c

namespace Literal

/-- A written string. -/
def ofString (text : String) : Literal :=
  ⟨text.toList.map Piece.ofChar, none⟩

theorem exists_hexUnit {value : Nat} (small : value < 0x20) :
    ∃ a b c d, Decimal.padLeft 4 '0' (Decimal.hexadecimal value) = [a, b, c, d] ∧
      hexUnit? a b c d = some value := by
  have digits : ∀ value < 0x20, Decimal.padLeft 4 '0' (Decimal.hexadecimal value) =
        ['0', '0', Nat.digitChar (value / 16), Nat.digitChar (value % 16)] ∧
      hexUnit? '0' '0' (Nat.digitChar (value / 16)) (Nat.digitChar (value % 16)) =
        some value := by
    decide
  exact ⟨_, _, _, _, digits value small⟩

theorem read_escapeChar (c : Char) (rest : List Char) :
    read (escapeChar c ++ rest) = cons (.ofChar c) (read rest) := by
  unfold escapeChar
  split
  · subst c; rfl
  split
  · subst c; rfl
  split
  · subst c; rfl
  split
  · subst c; rfl
  split
  · subst c; rfl
  split
  · subst c; rfl
  split
  · subst c; rfl
  rename_i notQuote notSlash notBack notFeed notLine notReturn notTab
  split
  · rename_i control
    obtain ⟨first, second, third, fourth, digits, unit⟩ := exists_hexUnit control
    have escaped : isWrittenAsUnit c = true :=
      decide_eq_true ⟨control, notBack, notFeed, notLine, notReturn, notTab⟩
    rw [digits, Piece.ofChar, if_pos escaped]
    simp only [List.cons_append, List.nil_append, read, unit]
  · rename_i plain
    have unescaped : ¬isWrittenAsUnit c = true := fun escaped =>
      plain (of_decide_eq_true escaped).1
    rw [Piece.ofChar, if_neg unescaped, List.cons_append, List.nil_append, read.eq_def]
    -- The cases of the reader but the last begin with a quote or a backslash.
    split <;> simp_all

/-- The reader finds the end of a written string. -/
theorem read_written (text : String) (rest : List Char) :
    read (text.toList.flatMap escapeChar ++ '"' :: rest) = (ofString text, rest) := by
  rw [ofString]
  induction text.toList with
  | nil => rfl
  | cons c text ih =>
    rw [List.flatMap_cons, List.append_assoc, read_escapeChar, ih]
    rfl

/-- A unit below the surrogates is a character of its own, whatever comes after it. -/
theorem charsOf_unit {value : Nat} (low : value < 0xd800) (pieces : List Piece)
    (fault : Option Fault) :
    charsOf (.unit value :: pieces) fault = (Char.ofNat value :: ·) <$> charsOf pieces fault := by
  have notHigh : isHighSurrogate value = false := by
    simp only [isHighSurrogate, decide_eq_false_iff_not]
    omega
  have notLow : isLowSurrogate value = false := by
    simp only [isLowSurrogate, decide_eq_false_iff_not]
    omega
  cases pieces with
  | nil => simp [charsOf, notHigh, notLow]
  | cons next pieces => cases next <;> simp [charsOf, notHigh, notLow]

theorem charsOf_ofChar (text : List Char) : charsOf (text.map Piece.ofChar) none = .ok text := by
  induction text with
  | nil => rfl
  | cons c text ih =>
    rw [List.map_cons, Piece.ofChar]
    split
    · rename_i escaped
      have control : c.toNat < 0x20 := (of_decide_eq_true escaped).1
      rw [charsOf_unit (by omega), ih, Char.ofNat_toNat]
      rfl
    · rw [charsOf, ih]
      rfl

/-- A written string stands for itself. -/
theorem text_ofString (text : String) : (ofString text).text = .ok text := by
  rw [Literal.text, ofString, charsOf_ofChar]
  exact congrArg Except.ok String.ofList_toList

end Literal

end FrameIngest.Json
