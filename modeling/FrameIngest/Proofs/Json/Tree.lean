import Mathlib
import FrameIngest.Proofs.Json.Literal
import FrameIngest.Proofs.Json.Value

namespace FrameIngest.Json

mutual

/-- The tree of a written value. A number that is not whole has the tree of its decimal. -/
def Node.ofValue : Value → Node
  | .null => .word .null
  | .bool true => .word .true
  | .bool false => .word .false
  | .number (.integer value) => .number (.ofInt value)
  | .number (.float bits) => (Node.read 1 (Decimal.float bits)).1
  | .string text => .string (.ofString text)
  | .array items => .array (Items.ofValues items)
  | .object members => .object (Members.ofMembers members)

def Items.ofValues : List Value → Items
  | [] => .close
  | item :: items => .item (Node.ofValue item) (Items.ofValues items)

def Members.ofMembers : List (String × Value) → Members
  | [] => .close
  | (key, value) :: members =>
    .member (.ofString key) (Node.ofValue value) (Members.ofMembers members)

end

/-- Only null has the tree of the word null, if all numbers are whole. -/
theorem Node.ofValue_ne_null {value : Value} (whole : value.IsWhole) (notNull : value ≠ .null) :
    ofValue value ≠ .word .null := by
  intro same
  cases value with
  | null => exact notNull rfl
  | bool value => cases value <;> cases same
  | number value =>
    cases value with
    | integer => cases same
    | float => exact whole _ (.self _)
  | string => cases same
  | array => cases same
  | object => cases same

/-- What begins a value: neither a blank nor a closing bracket. -/
def BeginsValue (c : Char) : Prop :=
  isBlank c = false ∧ c ≠ ']'

theorem beginsValue_of_isDigit {c : Char} (digit : c.isDigit = true) : BeginsValue c := by
  have other : ∀ d : Char, d.isDigit = false → c ≠ d := by
    rintro d noDigit rfl
    exact absurd (digit.symm.trans noDigit) (by decide)
  refine ⟨?_, other ']' rfl⟩
  simp only [isBlank, decide_eq_false_iff_not, not_or]
  exact ⟨other ' ' rfl, other '\t' rfl, other '\n' rfl, other '\r' rfl⟩

theorem skipBlanks_cons {c : Char} (shown : isBlank c = false) (rest : List Char) :
    skipBlanks (c :: rest) = c :: rest :=
  List.dropWhile_cons_of_neg (by simp [shown])

theorem exists_digit_of_natural (value : Nat) :
    ∃ c digits, Decimal.natural value = c :: digits ∧ c.isDigit = true := by
  have written : Decimal.natural value ≠ [] := Nat.toDigits_ne_nil
  obtain ⟨c, digits, same⟩ := List.exists_cons_of_ne_nil written
  exact ⟨c, digits, same, isDigit_of_mem_natural (same ▸ List.mem_cons_self)⟩

namespace Value

/-- A written value begins with a character of its own. -/
theorem exists_first {value : Value} (whole : value.IsWhole) :
    ∃ c text, value.chars = c :: text ∧ BeginsValue c := by
  cases value with
  | null => exact ⟨_, _, rfl, by decide, by decide⟩
  | bool value => cases value <;> exact ⟨_, _, rfl, by decide, by decide⟩
  | number value =>
    cases value with
    | float => exact (whole _ (.self _)).elim
    | integer value =>
      cases value with
      | negSucc value => exact ⟨_, _, rfl, by decide, by decide⟩
      | ofNat value =>
        obtain ⟨c, digits, same, digit⟩ := exists_digit_of_natural value
        exact ⟨c, digits, same, beginsValue_of_isDigit digit⟩
  | string text => exact ⟨_, _, rfl, by decide, by decide⟩
  | array items => cases items <;> exact ⟨_, _, rfl, by decide, by decide⟩
  | object members => cases members <;> exact ⟨_, _, rfl, by decide, by decide⟩

end Value

namespace Node

/-- The reader finds the end of a written value, if something ends it. Of the fuel a character takes
at most three steps. -/
def FindsEnd (value : Value) : Prop :=
  ∀ ⦃rest⦄, EndsValue rest → ∀ fuel, 3 * value.chars.length ≤ fuel →
    read fuel (value.chars ++ rest) = (ofValue value, rest)

theorem read_digit {c : Char} (digit : c.isDigit = true) (fuel : Nat) (rest : List Char) :
    read (fuel + 1) (c :: rest) = readNumber false (c :: rest) := by
  rw [read, skipBlanks_cons (beginsValue_of_isDigit digit).1]
  -- No digit is a letter, quote, bracket or sign.
  split
  case h_1 same => cases same
  case h_9 same =>
    cases same
    exact if_pos digit
  all_goals
    rename_i same
    cases same
    exact absurd digit (by decide)

theorem findsEnd_integer (value : Int) : FindsEnd (.number (.integer value)) := by
  intro rest ends fuel enough
  rw [Value.chars, Number.print] at enough ⊢
  cases value with
  | negSucc value =>
    obtain ⟨fuel, rfl⟩ : ∃ more, fuel = more + 1 := by
      rw [Decimal.whole, List.length_cons] at enough
      exact Nat.exists_eq_succ_of_ne_zero (by omega)
    rw [Decimal.whole, List.cons_append, read, skipBlanks_cons (by decide)]
    have negative : Numeral.ofInt (.negSucc value) =
        ⟨true, Numeral.digitsOf (value + 1), none, none⟩ := by
      rw [Numeral.ofInt, decide_eq_true (Int.negSucc_lt_zero value), Int.natAbs_negSucc]
    rw [ofValue, negative]
    exact readNumber_natural true (value + 1) ends
  | ofNat value =>
    obtain ⟨c, digits, same, digit⟩ := exists_digit_of_natural value
    obtain ⟨fuel, rfl⟩ : ∃ more, fuel = more + 1 := by
      rw [Decimal.whole, same, List.length_cons] at enough
      exact Nat.exists_eq_succ_of_ne_zero (by omega)
    have number := readNumber_natural false value ends
    rw [Decimal.whole]
    rw [same, List.cons_append] at number ⊢
    rw [read_digit digit]
    exact number

/-- What begins a value behind an opening bracket begins an item. -/
theorem readItems_of_beginsValue {c : Char} (begins : BeginsValue c) (fuel : Nat)
    (rest : List Char) : readItems (fuel + 1) (c :: rest) = readItem fuel (c :: rest) := by
  rw [readItems, skipBlanks_cons begins.1]
  split
  case h_1 same => cases same
  case h_2 same =>
    cases same
    exact absurd rfl begins.2
  case h_3 => rfl

/-- What begins a value behind a comma begins an item. -/
theorem readMoreItems_of_beginsValue {c : Char} (begins : BeginsValue c) (fuel : Nat)
    (rest : List Char) :
    readMoreItems (fuel + 1) (',' :: c :: rest) = readItem fuel (c :: rest) := by
  rw [readMoreItems, skipBlanks_cons (by decide)]
  simp only [skipBlanks_cons begins.1]
  split
  case h_1 same => cases same
  case h_2 same =>
    cases same
    exact absurd rfl begins.2
  case h_3 => rfl

/-- An item stands behind the opening bracket of an array or behind a comma. -/
theorem readItem_written {item : Value} (found : FindsEnd item) {items : List Value}
    {rest : List Char} (fuel : Nat)
    (more : ∀ fuel, 3 * (Value.charsOfItems items).length ≤ fuel →
      readMoreItems fuel (Value.charsOfItems items ++ rest) = (.ofValues items, rest))
    (enough : 3 * item.chars.length + 3 * (Value.charsOfItems items).length < fuel) :
    readItem fuel (item.chars ++ Value.charsOfItems items ++ rest) =
      (.ofValues (item :: items), rest) := by
  have ends : EndsValue (Value.charsOfItems items ++ rest) := by
    intro c first
    cases items <;> cases first <;> simp
  obtain ⟨fuel, rfl⟩ : ∃ less, fuel = less + 1 := Nat.exists_eq_succ_of_ne_zero (by omega)
  rw [readItem, List.append_assoc, found ends fuel (by omega)]
  simp only [more fuel (by omega), Items.ofValues]

/-- The reader finds the end of the items after the first one. -/
theorem readMoreItems_written {items : List Value} (found : ∀ item ∈ items, FindsEnd item)
    (whole : ∀ item ∈ items, item.IsWhole) (rest : List Char) (fuel : Nat)
    (enough : 3 * (Value.charsOfItems items).length ≤ fuel) :
    readMoreItems fuel (Value.charsOfItems items ++ rest) = (.ofValues items, rest) := by
  induction items generalizing fuel with
  | nil =>
    rw [Value.charsOfItems, List.length_singleton] at enough
    obtain ⟨fuel, rfl⟩ : ∃ less, fuel = less + 1 := Nat.exists_eq_succ_of_ne_zero (by omega)
    rfl
  | cons item items ih =>
    obtain ⟨c, text, first, begins⟩ := Value.exists_first (whole item List.mem_cons_self)
    have more := ih (fun item member => found item (List.mem_cons_of_mem _ member))
      fun item member => whole item (List.mem_cons_of_mem _ member)
    rw [Value.charsOfItems, List.length_cons, List.length_append] at enough
    obtain ⟨fuel, rfl⟩ : ∃ less, fuel = less + 1 := Nat.exists_eq_succ_of_ne_zero (by omega)
    have step := readItem_written (found item List.mem_cons_self) fuel more (by omega)
    rw [Value.charsOfItems, List.cons_append]
    rw [first, List.cons_append, List.cons_append] at step ⊢
    rw [readMoreItems_of_beginsValue begins, step]

/-- A member stands behind the opening brace of an object or behind a comma. -/
theorem readMember_written (key : String) {value : Value} (found : FindsEnd value)
    {members : List (String × Value)} {rest : List Char} (fuel : Nat)
    (more : ∀ fuel, 3 * (Value.charsOfMembers members).length ≤ fuel →
      readMoreMembers fuel (Value.charsOfMembers members ++ rest) = (.ofMembers members, rest))
    (enough : 3 * value.chars.length + 3 * (Value.charsOfMembers members).length < fuel) :
    readMember fuel
        (printString key ++ ':' :: (value.chars ++ Value.charsOfMembers members) ++ rest) =
      (.ofMembers ((key, value) :: members), rest) := by
  have ends : EndsValue (Value.charsOfMembers members ++ rest) := by
    intro c first
    cases members <;> cases first <;> simp
  obtain ⟨fuel, rfl⟩ : ∃ less, fuel = less + 1 := Nat.exists_eq_succ_of_ne_zero (by omega)
  simp only [printString, List.cons_append, List.append_assoc, List.nil_append, readMember,
    Literal.read_written, skipBlanks_cons (by decide : isBlank ':' = false),
    found ends fuel (by omega), more fuel (by omega), Members.ofMembers]

/-- The reader finds the end of the members after the first one. -/
theorem readMoreMembers_written {members : List (String × Value)}
    (found : ∀ member ∈ members, FindsEnd member.2) (rest : List Char) (fuel : Nat)
    (enough : 3 * (Value.charsOfMembers members).length ≤ fuel) :
    readMoreMembers fuel (Value.charsOfMembers members ++ rest) = (.ofMembers members, rest) := by
  induction members generalizing fuel with
  | nil =>
    rw [Value.charsOfMembers, List.length_singleton] at enough
    obtain ⟨fuel, rfl⟩ : ∃ less, fuel = less + 1 := Nat.exists_eq_succ_of_ne_zero (by omega)
    rfl
  | cons member members ih =>
    have more := ih fun member isMember => found member (List.mem_cons_of_mem _ isMember)
    rw [Value.charsOfMembers, List.length_cons, List.length_append, List.length_cons,
      List.length_append] at enough
    obtain ⟨fuel, rfl⟩ : ∃ less, fuel = less + 1 := Nat.exists_eq_succ_of_ne_zero (by omega)
    have step := readMember_written member.1 (found member List.mem_cons_self) fuel more
      (by omega)
    rw [Value.charsOfMembers, List.cons_append, readMoreMembers, skipBlanks_cons (by decide)]
    exact step

theorem findsEnd_array {items : List Value} (found : ∀ item ∈ items, FindsEnd item)
    (whole : ∀ item ∈ items, item.IsWhole) : FindsEnd (.array items) := by
  intro rest ends fuel enough
  cases items with
  | nil =>
    rw [Value.chars, List.length_cons, List.length_singleton] at enough
    obtain ⟨fuel, rfl⟩ : ∃ less, fuel = less + 2 := Nat.exists_eq_add_of_le' (by omega)
    rfl
  | cons item items =>
    rw [Value.chars, List.length_cons, List.length_append] at enough
    obtain ⟨fuel, rfl⟩ : ∃ less, fuel = less + 2 := Nat.exists_eq_add_of_le' (by omega)
    obtain ⟨c, text, first, begins⟩ := Value.exists_first (whole item List.mem_cons_self)
    have inArray := readItem_written (found item List.mem_cons_self) fuel
      (readMoreItems_written (fun item member => found item (List.mem_cons_of_mem _ member))
        (fun item member => whole item (List.mem_cons_of_mem _ member)) rest) (by omega)
    rw [Value.chars, List.cons_append, read, skipBlanks_cons (by decide)]
    rw [first, List.cons_append, List.cons_append] at inArray ⊢
    simp only [readItems_of_beginsValue begins, inArray, ofValue]

theorem findsEnd_object {members : List (String × Value)}
    (found : ∀ member ∈ members, FindsEnd member.2) : FindsEnd (.object members) := by
  intro rest ends fuel enough
  cases members with
  | nil =>
    rw [Value.chars, List.length_cons, List.length_singleton] at enough
    obtain ⟨fuel, rfl⟩ : ∃ less, fuel = less + 2 := Nat.exists_eq_add_of_le' (by omega)
    rfl
  | cons member members =>
    rw [Value.chars, List.length_cons, List.length_append, List.length_cons,
      List.length_append] at enough
    obtain ⟨fuel, rfl⟩ : ∃ less, fuel = less + 2 := Nat.exists_eq_add_of_le' (by omega)
    have inObject := readMember_written member.1 (found member List.mem_cons_self) fuel
      (readMoreMembers_written
        (fun member isMember => found member (List.mem_cons_of_mem _ isMember)) rest) (by omega)
    have first : readMembers (fuel + 1) (printString member.1 ++
          ':' :: (member.2.chars ++ Value.charsOfMembers members) ++ rest) =
        readMember fuel (printString member.1 ++
          ':' :: (member.2.chars ++ Value.charsOfMembers members) ++ rest) := by
      rw [printString, List.cons_append, List.cons_append, readMembers,
        skipBlanks_cons (by decide)]
      rfl
    rw [Value.chars, List.cons_append, read, skipBlanks_cons (by decide)]
    simp only [first, inObject, ofValue]

/-- The reader finds the end of every written value. -/
theorem findsEnd {value : Value} (whole : value.IsWhole) : FindsEnd value := by
  induction value using Value.partsInduction with
  | null =>
    intro rest ends fuel enough
    obtain ⟨fuel, rfl⟩ : ∃ less, fuel = less + 12 := Nat.exists_eq_add_of_le' enough
    rfl
  | bool value =>
    intro rest ends fuel enough
    cases value with
    | false =>
      obtain ⟨fuel, rfl⟩ : ∃ less, fuel = less + 15 := Nat.exists_eq_add_of_le' enough
      rfl
    | true =>
      obtain ⟨fuel, rfl⟩ : ∃ less, fuel = less + 12 := Nat.exists_eq_add_of_le' enough
      rfl
  | number value =>
    cases value with
    | integer value => exact findsEnd_integer value
    | float => exact (whole _ (.self _)).elim
  | string text =>
    intro rest ends fuel enough
    rw [Value.chars, printString, List.length_cons] at enough
    obtain ⟨fuel, rfl⟩ : ∃ less, fuel = less + 1 := Nat.exists_eq_succ_of_ne_zero (by omega)
    rw [Value.chars, printString, List.cons_append, List.append_assoc, read,
      skipBlanks_cons (by decide)]
    simp only [List.cons_append, List.nil_append, Literal.read_written, ofValue]
  | array items ih =>
    have parts : ∀ item ∈ items, item.IsWhole := Value.eachNumber_array.1 whole
    exact findsEnd_array (fun item member => ih item member (parts item member)) parts
  | object members ih =>
    have parts : ∀ member ∈ members, member.2.IsWhole := Value.eachNumber_object.1 whole
    exact findsEnd_object fun member isMember => ih member isMember (parts member isMember)

end Node

/-- The text of a value is read to its end, as the tree of the value. -/
theorem Document.ofChars_chars {value : Value} (whole : value.IsWhole) :
    ofChars value.chars = ⟨.ofValue value, []⟩ := by
  have ends : EndsValue [] := by
    intro c first
    cases first
  have found := Node.findsEnd whole ends (3 * value.chars.length + 1) (by omega)
  rw [List.append_nil] at found
  rw [ofChars, found]
  rfl

end FrameIngest.Json
