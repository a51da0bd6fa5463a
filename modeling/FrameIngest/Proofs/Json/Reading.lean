import Mathlib
import FrameIngest.Json.Decode
import FrameIngest.Proofs.Json.Tree

namespace FrameIngest.Json

theorem bind_eq_ok_iff {ε α β : Type} {first : Except ε α} {next : α → Except ε β} {result : β} :
    (first >>= next) = .ok result ↔ ∃ value, first = .ok value ∧ next value = .ok result := by
  cases first with
  | error fault =>
    constructor
    · nofun
    · rintro ⟨value, same, -⟩
      cases same
  | ok value =>
    constructor
    · exact fun same => ⟨value, rfl, same⟩
    · rintro ⟨_, same, after⟩
      cases same
      exact after

theorem map_eq_ok_iff {ε α β : Type} {read : Except ε α} {f : α → β} {result : β} :
    f <$> read = .ok result ↔ ∃ value, read = .ok value ∧ f value = result := by
  cases read with
  | error fault =>
    constructor
    · nofun
    · rintro ⟨value, same, -⟩
      cases same
  | ok value =>
    constructor
    · exact fun same => ⟨value, rfl, Except.ok.inj same⟩
    · rintro ⟨_, same, rfl⟩
      cases same
      rfl

theorem mapError_eq_ok_iff {ε δ α : Type} {read : Except ε α} {f : ε → δ} {value : α} :
    read.mapError f = .ok value ↔ read = .ok value := by
  cases read with
  | error => exact ⟨nofun, nofun⟩
  | ok =>
    constructor
    · exact fun same => congrArg _ (Except.ok.inj same)
    · exact fun same => congrArg _ (Except.ok.inj same)

namespace Reading

/-- The reading inside of one more bracket. -/
def inner (reading : Reading) : Reading :=
  { reading with depth := reading.depth - 1 }

theorem enter_eq_ok_iff {reading inside : Reading} :
    reading.enter = .ok inside ↔ 0 < reading.depth ∧ inside = reading.inner := by
  obtain ⟨depth, again⟩ := reading
  cases depth with
  | zero => simp [enter]
  | succ depth => simp [enter, inner, eq_comm]

theorem enter_of_lt {reading : Reading} {depth : Nat} (deep : depth < reading.depth) :
    reading.enter = .ok reading.inner ∧ depth ≤ reading.inner.depth :=
  ⟨enter_eq_ok_iff.2 ⟨Nat.zero_lt_of_lt deep, rfl⟩, Nat.le_sub_one_of_lt deep⟩

end Reading

namespace Node

theorem items_values_ofValues {reading : Reading} {items : List Value}
    (each : ∀ item ∈ items, (ofValue item).value reading = .ok item) :
    (Items.ofValues items).values reading = .ok items := by
  induction items with
  | nil => rfl
  | cons item items ih =>
    rw [Items.ofValues, Items.values, each item List.mem_cons_self,
      ih fun item member => each item (List.mem_cons_of_mem _ member)]
    rfl

theorem members_values_ofMembers {reading : Reading} {members : List (String × Value)}
    (each : ∀ member ∈ members, (ofValue member.2).value reading = .ok member.2) :
    (Members.ofMembers members).values reading = .ok members := by
  induction members with
  | nil => rfl
  | cons member members ih =>
    rw [Members.ofMembers, Members.values, Literal.text_ofString, each member List.mem_cons_self,
      ih fun member isMember => each member (List.mem_cons_of_mem _ isMember)]
    rfl

/-- The tree of a value is read as the value. -/
theorem value_ofValue {value : Value} (whole : value.IsWhole) (fits : value.Fits)
    {reading : Reading} (deep : value.depth ≤ reading.depth) :
    (ofValue value).value reading = .ok value := by
  induction value using Value.partsInduction generalizing reading with
  | null => rfl
  | bool value => cases value <;> rfl
  | number value =>
    cases value with
    | integer value =>
      rw [ofValue, Node.value, Numeral.value_ofInt (Value.eachNumber_number.1 fits)]
      rfl
    | float => exact (whole _ (.self _)).elim
  | string text =>
    rw [ofValue, Node.value, Literal.text_ofString]
    rfl
  | array items ih =>
    rw [Value.depth] at deep
    obtain ⟨entered, inside⟩ := Reading.enter_of_lt deep
    have shallow := Value.depthOfItems_le_iff.1 inside
    have each : ∀ item ∈ items, (ofValue item).value reading.inner = .ok item :=
      fun item member => ih item member (Value.eachNumber_array.1 whole item member)
        (Value.eachNumber_array.1 fits item member) (shallow item member)
    rw [ofValue, Node.value, entered]
    exact map_eq_ok_iff.2 ⟨items, items_values_ofValues each, rfl⟩
  | object members ih =>
    rw [Value.depth] at deep
    obtain ⟨entered, inside⟩ := Reading.enter_of_lt deep
    have shallow := Value.depthOfMembers_le_iff.1 inside
    have each : ∀ member ∈ members, (ofValue member.2).value reading.inner = .ok member.2 :=
      fun member isMember => ih member isMember (Value.eachNumber_object.1 whole member isMember)
        (Value.eachNumber_object.1 fits member isMember) (shallow member isMember)
    rw [ofValue, Node.value, entered]
    exact map_eq_ok_iff.2 ⟨members, members_values_ofMembers each, rfl⟩

/-- Only the word null is read as null. -/
theorem eq_null_of_value {reading : Reading} {node : Node} (read : node.value reading = .ok .null) :
    node = .word .null := by
  cases node with
  | word named => cases named <;> cases read; rfl
  | number =>
    obtain ⟨_, -, same⟩ := map_eq_ok_iff.1 read
    cases same
  | string =>
    obtain ⟨_, -, same⟩ := map_eq_ok_iff.1 read
    cases same
  | array =>
    obtain ⟨_, -, inside⟩ := bind_eq_ok_iff.1 read
    obtain ⟨_, -, same⟩ := map_eq_ok_iff.1 inside
    cases same
  | object =>
    obtain ⟨_, -, inside⟩ := bind_eq_ok_iff.1 read
    obtain ⟨_, -, same⟩ := map_eq_ok_iff.1 inside
    cases same
  | brokenWord => cases read
  | brokenNumber => cases read
  | missing => cases read

mutual

/-- What is read lies no deeper than brackets may be open, and its whole numbers have 64 bits. -/
theorem value_bounds {reading : Reading} {value : Value} : ∀ node : Node,
    node.value reading = .ok value → value.depth ≤ reading.depth ∧ value.Fits
  | .word named, read => by
    cases named <;> cases read <;> simp [Value.depth, Value.Fits]
  | .number numeral, read => by
    obtain ⟨number, readNumber, rfl⟩ := map_eq_ok_iff.1 read
    have fits := Numeral.value_fits (mapError_eq_ok_iff.1 readNumber)
    exact ⟨Nat.zero_le _, Value.eachNumber_number.2 fits⟩
  | .string literal, read => by
    obtain ⟨text, -, rfl⟩ := map_eq_ok_iff.1 read
    exact ⟨Nat.zero_le _, Value.eachNumber_string text⟩
  | .array items, read => by
    obtain ⟨inside, entered, readInside⟩ := bind_eq_ok_iff.1 read
    obtain ⟨values, readValues, rfl⟩ := map_eq_ok_iff.1 readInside
    obtain ⟨bracket, rfl⟩ := Reading.enter_eq_ok_iff.1 entered
    have bounds := items_values_bounds items readValues
    have shallow : Value.depthOfItems values ≤ reading.depth - 1 :=
      Value.depthOfItems_le_iff.2 fun value member => (bounds value member).1
    rw [Value.depth]
    exact ⟨by omega, Value.eachNumber_array.2 fun value member => (bounds value member).2⟩
  | .object members, read => by
    obtain ⟨inside, entered, readInside⟩ := bind_eq_ok_iff.1 read
    obtain ⟨values, readValues, rfl⟩ := map_eq_ok_iff.1 readInside
    obtain ⟨bracket, rfl⟩ := Reading.enter_eq_ok_iff.1 entered
    have bounds := members_values_bounds members readValues
    have shallow : Value.depthOfMembers values ≤ reading.depth - 1 :=
      Value.depthOfMembers_le_iff.2 fun member isMember => (bounds member isMember).1
    rw [Value.depth]
    exact ⟨by omega, Value.eachNumber_object.2 fun member isMember => (bounds member isMember).2⟩

theorem items_values_bounds {reading : Reading} {values : List Value} : ∀ items : Items,
    items.values reading = .ok values →
      ∀ value ∈ values, value.depth ≤ reading.depth ∧ value.Fits
  | .close, read => by
    cases read
    nofun
  | .item node rest, read => by
    obtain ⟨first, readFirst, read⟩ := bind_eq_ok_iff.1 read
    obtain ⟨more, readMore, read⟩ := bind_eq_ok_iff.1 read
    cases read
    exact List.forall_mem_cons.2
      ⟨value_bounds node readFirst, items_values_bounds rest readMore⟩

theorem members_values_bounds {reading : Reading} {values : List (String × Value)} :
    ∀ members : Members, members.values reading = .ok values →
      ∀ member ∈ values, member.2.depth ≤ reading.depth ∧ member.2.Fits
  | .close, read => by
    cases read
    nofun
  | .member key node rest, read => by
    obtain ⟨name, -, read⟩ := bind_eq_ok_iff.1 read
    obtain ⟨first, readFirst, read⟩ := bind_eq_ok_iff.1 read
    obtain ⟨more, readMore, read⟩ := bind_eq_ok_iff.1 read
    cases read
    exact List.forall_mem_cons.2
      ⟨value_bounds node readFirst, members_values_bounds rest readMore⟩
  | .bareKey key fault, read => by
    obtain ⟨name, -, read⟩ := bind_eq_ok_iff.1 read
    cases read

end

end Node

end FrameIngest.Json
