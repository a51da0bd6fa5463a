import Mathlib
import FrameIngest.Json.Record
import FrameIngest.Proofs.Json.Reading

namespace FrameIngest.Json

variable {α : Type}

namespace Reader

/-- What is written as `value` is read as `result` where `depth` brackets may still be open. -/
def Reads (reader : Reader α) (depth : Nat) (value : Value) (result : α) : Prop :=
  ∀ ⦃reading⦄, depth ≤ reading.depth → reader reading (Node.ofValue value) = .ok result

theorem Reads.mono {reader : Reader α} {depth more : Nat} {value : Value} {result : α}
    (reads : reader.Reads depth value result) (deeper : depth ≤ more) :
    reader.Reads more value result :=
  fun _ enough => reads (deeper.trans enough)

theorem reads_integer {least greatest value : Int} (expected : String)
    (bounds : least ≤ value ∧ value ≤ greatest) (fits : -2 ^ 63 ≤ value ∧ value < 2 ^ 64) :
    (integer least greatest expected).Reads 0 (.int value) value := by
  intro reading _
  simp only [Value.int, Node.ofValue, integer, Numeral.value_ofInt fits]
  exact if_pos bounds

theorem reads_natural {bound value : Nat} (expected : String) (small : value < bound)
    (fits : bound ≤ 2 ^ 64) : (natural bound expected).Reads 0 (.nat value) value := by
  intro reading deep
  have read : integer 0 (bound - 1) expected reading (Node.ofValue (.int value)) =
      .ok (value : Int) :=
    reads_integer expected ⟨by omega, by omega⟩ ⟨by omega, by omega⟩ deep
  exact map_eq_ok_iff.2 ⟨value, read, rfl⟩

theorem reads_short (value : UInt32) : short.Reads 0 (.nat value.toNat) value := by
  intro reading deep
  have read := reads_natural "u32" value.toNat_lt (by decide) deep
  exact map_eq_ok_iff.2 ⟨value.toNat, read, UInt32.ofNat_toNat⟩

theorem reads_word (value : UInt64) : word.Reads 0 (.nat value.toNat) value := by
  intro reading deep
  have read := reads_natural "u64" value.toNat_lt (by decide) deep
  exact map_eq_ok_iff.2 ⟨value.toNat, read, UInt64.ofNat_toNat⟩

theorem reads_size (value : UInt64) : size.Reads 0 (.nat value.toNat) value := by
  intro reading deep
  have read := reads_natural "usize" value.toNat_lt (by decide) deep
  exact map_eq_ok_iff.2 ⟨value.toNat, read, UInt64.ofNat_toNat⟩

theorem reads_long (value : Int64) : long.Reads 0 (.int value.toInt) value := by
  intro reading deep
  have least : Int64.minValue.toInt ≤ value.toInt := value.minValue_le_toInt
  have greatest : value.toInt ≤ Int64.maxValue.toInt := value.toInt_le
  have read : (integer Int64.minValue.toInt Int64.maxValue.toInt "i64").Reads 0
      (.int value.toInt) value.toInt :=
    reads_integer "i64" ⟨least, greatest⟩ ⟨value.le_toInt, by have := value.toInt_lt; omega⟩
  exact map_eq_ok_iff.2 ⟨value.toInt, read deep, Int64.ofInt_toInt value⟩

theorem reads_boolean (value : Bool) : boolean.Reads 0 (.bool value) value := by
  intro reading _
  cases value <;> rfl

theorem reads_stringAs (expected text : String) :
    (stringAs expected).Reads 0 (.string text) text := by
  intro reading _
  rw [Node.ofValue, stringAs, Literal.text_ofString]
  rfl

theorem reads_string (text : String) : string.Reads 0 (.string text) text :=
  reads_stringAs "a string" text

/-- A value that is read as null is written as null. -/
theorem reads_optional {reader : Reader α} {depth : Nat} {value : Value} {result : α}
    (reads : reader.Reads depth value result) (notNull : Node.ofValue value ≠ .word .null) :
    (optional reader).Reads depth value (some result) := by
  intro reading deep
  rw [optional.eq_def]
  split
  · rename_i null
    exact absurd null notNull
  · exact map_eq_ok_iff.2 ⟨result, reads deep, rfl⟩

theorem reads_list {reader : Reader α} {depth : Nat} {toValue : α → Value} {results : List α}
    (reads : ∀ result ∈ results, reader.Reads depth (toValue result) result) :
    (list reader).Reads (depth + 1) (.array (results.map toValue)) results := by
  intro reading deep
  have each : ∀ inside : Reading, depth ≤ inside.depth →
      itemsWith reader inside (Items.ofValues (results.map toValue)) = .ok results := by
    intro inside enough
    induction results with
    | nil => rfl
    | cons result results ih =>
      rw [List.map_cons, Items.ofValues, itemsWith, reads result List.mem_cons_self enough,
        ih fun result member => reads result (List.mem_cons_of_mem _ member)]
      rfl
  obtain ⟨entered, enough⟩ := Reading.enter_of_lt deep
  rw [Node.ofValue, list, entered]
  exact each reading.inner enough

theorem reads_pair {reader : Reader α} {depth : Nat} {first second : Value} {left right : α}
    (readFirst : reader.Reads depth first left) (readSecond : reader.Reads depth second right) :
    (pair reader).Reads (depth + 1) (.array [first, second]) (left, right) := by
  intro reading deep
  obtain ⟨entered, inside⟩ := Reading.enter_of_lt deep
  rw [Node.ofValue, pair, entered]
  simp only [Items.ofValues, Items.next?, bind, Except.bind, readFirst inside, readSecond inside,
    Items.surplus]
  rfl

theorem reads_variant {variants : List (String × α)} {name : String} {variant : α}
    (named : variantNamed variants name = .ok variant) :
    (Reader.variant variants).Reads 0 (.string name) variant := by
  intro reading _
  rw [Node.ofValue, Reader.variant, Literal.text_ofString]
  exact named

theorem reads_tag {variants : List (String × α)} {name : String} {variant : α}
    (named : variantNamed variants name = .ok variant) :
    (Reader.tag variants).Reads 0 (.string name) variant := by
  intro reading deep
  rw [Reader.tag, reads_stringAs _ name deep]
  exact named

theorem reads_any {value : Value} (whole : value.IsWhole) (fits : value.Fits)
    (ordered : value.IsOrdered) : any.Reads value.depth value value := by
  intro reading deep
  exact map_eq_ok_iff.2 ⟨value, Node.value_ofValue whole fits deep, Value.canonical_eq ordered⟩

theorem reads_null (reader : Reader α) : (optional reader).Reads 0 .null none :=
  fun _ _ => rfl

/-- Metadata that is read is in canonical form, not null, and no deeper than brackets may be
open. -/
theorem bounds_of_optional_any {reading : Reading} {node : Node} {value : Value}
    (read : optional any reading node = .ok (some value)) :
    value ≠ .null ∧ value.IsOrdered ∧ value.Fits ∧ value.depth ≤ reading.depth := by
  rw [optional.eq_def] at read
  split at read
  · cases read
  · rename_i notNull
    obtain ⟨_, readAny, same⟩ := map_eq_ok_iff.1 read
    cases same
    obtain ⟨written, readValue, rfl⟩ := map_eq_ok_iff.1 readAny
    obtain ⟨depth, fits⟩ := Node.value_bounds node readValue
    refine ⟨fun null => ?_, Value.isOrdered_canonical written, ?_, ?_⟩
    · rw [Value.canonical_eq_null null] at readValue
      exact notNull (Node.eq_null_of_value readValue)
    · exact fun number within => fits number (Value.isPartOf_of_canonical within)
    · exact (Value.depth_canonical_le written).trans depth

end Reader

/-- The text of a value is read as what the value is read as. -/
theorem decode_print {reader : Reader α} {value : Value} {result : α} (whole : value.IsWhole)
    (reads : reader.Reads Reading.start.depth value result) :
    decode reader value.print = .ok result := by
  rw [decode, Value.print, String.toList_ofList, Document.ofChars_chars whole, Document.decode,
    reads (Nat.le_refl _)]
  rfl

/-- What is decoded is what the reader reads from some tree. -/
theorem exists_node_of_decode {reader : Reader α} {text : String} {result : α}
    (decoded : decode reader text = .ok result) : ∃ node, reader .start node = .ok result := by
  obtain ⟨value, read, rest⟩ := bind_eq_ok_iff.1 decoded
  refine ⟨_, read.trans ?_⟩
  split at rest
  · exact rest
  · cases rest

end FrameIngest.Json
