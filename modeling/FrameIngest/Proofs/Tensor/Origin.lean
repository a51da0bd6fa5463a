import Mathlib
import FrameIngest.Proofs.DataType
import FrameIngest.Proofs.Tensor.RowMajor

namespace FrameIngest.Tensor

/-- Tensors of numbers, truth values, cells or records, views of them, and the same elements seen as
another type where they may be. -/
inductive IsSafe : Tensor → Prop
  | numbers (element : Element) (values : List Nat) : IsSafe (.ofNumbers element values)
  | bools (values : List Bool) : IsSafe (.ofBools values)
  | cells (cells : List Cell) : IsSafe (.ofCells cells)
  | view {source tensor : Tensor} {shape : List Nat} {strides : List Int} : IsSafe source →
      source.view shape strides = .ok tensor → IsSafe tensor
  | records {bytes : Array UInt8} {width stride rows : Nat} {type : DataType} {tensor : Tensor} :
      ofRecords bytes width stride rows type = .ok tensor → IsSafe tensor
  | retag {source tensor : Tensor} {type : DataType} : IsSafe source →
      source.retag type = .ok tensor → IsSafe tensor

/-- A tensor with a type that suits its elements: cells are dynamic strings and nothing else is, and
plain data has the width of its type unless it is fixed strings. -/
structure Tagged (tensor : Tensor) : Prop where
  objects : tensor.holdsObjects = tensor.type.isDynamicString
  width : tensor.type.isDynamicString = false →
    tensor.type.isFixedString = true ∨ tensor.type.fixedWidth? = some tensor.width

variable {source tensor : Tensor}

theorem view_eq {shape : List Nat} {strides : List Int}
    (seen : source.view shape strides = .ok tensor) :
    tensor.memory = source.memory ∧ tensor.type = source.type ∧ tensor.width = source.width := by
  unfold view at seen
  split at seen
  · rename_i size shape stride strides
    cases bytes : byteStrides source.width (stride :: strides) with
    | error e =>
      rw [bytes] at seen
      cases seen
    | ok strides =>
      simp only [bytes, bind, Except.bind, pure, Except.pure] at seen
      split at seen
      · cases seen
        exact ⟨rfl, rfl, rfl⟩
      · cases seen
  · cases seen

theorem holdsObjects_of_memory (same : tensor.memory = source.memory) :
    tensor.holdsObjects = source.holdsObjects := by
  rw [holdsObjects, holdsObjects, same]

theorem ofRecords_eq {bytes : Array UInt8} {width stride rows : Nat} {type : DataType}
    (made : ofRecords bytes width stride rows type = .ok tensor) :
    tensor.holdsObjects = false ∧ tensor.type.isFixedString = true := by
  unfold ofRecords recordsWithin at made
  split at made
  · cases made
  · rename_i fixed
    split_ifs at made
    cases made
    exact ⟨rfl, by simpa using fixed⟩

section Records

variable {overflow : Overflow} {bytes : Array UInt8} {width stride rows : Nat} {type : DataType}

/-- The extent is looked at only for records of fixed strings that do not overlap. -/
theorem recordsWithin_congr (refused : (!type.isFixedString || stride < width) = true)
    (extent other : Nat) : recordsWithin extent bytes width stride rows type =
      recordsWithin other bytes width stride rows type := by
  unfold recordsWithin
  rcases Bool.or_eq_true .. ▸ refused with other | short
  · rw [if_pos other, if_pos other]
  · simp only [if_pos (of_decide_eq_true short)]

theorem extentOf_records (rows stride width : Nat) :
    extentOf width [⟨rows, stride⟩] = if rows = 0 then 0 else (rows - 1) * stride + width := by
  simp [extentOf]

theorem extentWord_stops_eq_none (some_rows : rows ≠ 0)
    (beyond : UInt64.size ≤ (rows - 1) * stride + width) :
    extentWord .stops width [⟨rows, stride⟩] = none := by
  rw [extentWord, if_neg (by simpa using some_rows), List.mapM_cons, List.mapM_nil]
  by_cases reach : (rows - 1) * stride < UInt64.size
  · have sum : Overflow.stops.sum [(rows - 1) * stride] = some ((rows - 1) * stride) :=
      Overflow.sum_eq_some reach
    simp only [bind, Option.bind, pure, Overflow.mul_eq_some reach, sum, Overflow.add,
      Overflow.stops_fit_eq_none beyond]
  · simp only [bind, Option.bind, Overflow.mul,
      Overflow.stops_fit_eq_none (Nat.not_lt.1 reach)]

/-- Records are made in machine words as they are without end, as long as their extent fits. -/
theorem ofRecordsWord_eq_some (fits : (rows - 1) * stride + width < UInt64.size) :
    ofRecordsWord overflow bytes width stride rows type =
      some (ofRecords bytes width stride rows type) := by
  unfold ofRecordsWord ofRecords
  split
  · rename_i refused
    rw [recordsWithin_congr refused]
  · have word : extentOf width [⟨rows, stride⟩] < UInt64.size := by
      rw [extentOf_records]
      split
      · decide
      · exact fits
    rw [extentWord_eq_some word, Option.map_some]

/-- A build that checks its sums stops exactly at records whose extent does not fit. -/
theorem ofRecordsWord_stops_eq_none_iff :
    ofRecordsWord .stops bytes width stride rows type = none ↔
      (type.isFixedString = true ∧ width ≤ stride) ∧ rows ≠ 0 ∧
        UInt64.size ≤ (rows - 1) * stride + width := by
  constructor
  · intro stopped
    refine ⟨?_, ?_, Nat.not_lt.1 fun fits => ?_⟩
    · unfold ofRecordsWord at stopped
      split at stopped
      · cases stopped
      · rename_i made
        simpa using made
    · rintro rfl
      unfold ofRecordsWord at stopped
      split at stopped <;> cases stopped
    · rw [ofRecordsWord_eq_some fits] at stopped
      cases stopped
  · rintro ⟨⟨fixed, wide⟩, some_rows, beyond⟩
    rw [ofRecordsWord, if_neg (by simpa [fixed] using wide),
      extentWord_stops_eq_none some_rows beyond, Option.map_none]

end Records

theorem retag_eq {type : DataType} (seen : source.retag type = .ok tensor) :
    tensor = { source with type } ∧ source.accepts type = true := by
  unfold retag at seen
  split at seen
  · rename_i accepted
    exact ⟨(Except.ok.inj seen).symm, accepted⟩
  · cases seen

theorem tagged_ofNumbers (element : Element) (values : List Nat) :
    (ofNumbers element values).Tagged where
  objects := by cases element <;> rfl
  width _ := by cases element <;> exact Or.inr rfl

theorem Tagged.view (tagged : source.Tagged) {shape : List Nat} {strides : List Int}
    (seen : source.view shape strides = .ok tensor) : tensor.Tagged := by
  obtain ⟨memory, type, width⟩ := view_eq seen
  refine ⟨?_, ?_⟩
  · rw [holdsObjects_of_memory memory, type]
    exact tagged.objects
  · rw [type, width]
    exact tagged.width

/-- Elements are seen as another type only where that suits them. -/
theorem tagged_retag {type : DataType} (seen : source.retag type = .ok tensor) :
    tensor.Tagged := by
  obtain ⟨rfl, accepted⟩ := retag_eq seen
  unfold accepts at accepted
  cases held : source.holdsObjects with
  | true =>
    rw [held, if_pos rfl] at accepted
    refine ⟨held.trans accepted.symm, fun plain => ?_⟩
    rw [accepted] at plain
    cases plain
  | false =>
    rw [held, if_neg Bool.false_ne_true] at accepted
    rcases Bool.or_eq_true .. ▸ accepted with fixed | known
    · have pooled : type.isDynamicString = false := by
        simp [DataType.isDynamicString, DataType.isFixedString_iff.1 fixed]
      exact ⟨held.trans pooled.symm, fun _ => Or.inl fixed⟩
    · simp only [Bool.and_eq_true, decide_eq_true_eq, Bool.not_eq_true'] at known
      exact ⟨held.trans known.2.symm, fun _ => Or.inr known.1⟩

theorem IsSafe.tagged (safe : tensor.IsSafe) : tensor.Tagged := by
  induction safe with
  | numbers element values => exact tagged_ofNumbers element values
  | bools values => exact ⟨rfl, fun _ => Or.inr rfl⟩
  | cells cells => exact ⟨rfl, nofun⟩
  | view _ seen tagged => exact tagged.view seen
  | records made =>
    obtain ⟨plain, fixed⟩ := ofRecords_eq made
    refine ⟨plain.trans ?_, fun _ => Or.inl fixed⟩
    simp [DataType.isDynamicString, DataType.isFixedString_iff.1 fixed]
  | retag _ seen => exact tagged_retag seen

/-- Elements of a number type have its width. -/
theorem Tagged.element_width (tagged : tensor.Tagged) {element : Element}
    (elements : tensor.type.element? = some element) : element.width = tensor.width := by
  rcases tagged.width (DataType.isDynamicString_of_element? elements) with fixed | known
  · rw [DataType.element?_eq_none_iff.2 (.inl fixed)] at elements
    cases elements
  · rw [DataType.fixedWidth?_of_element? elements] at known
    exact Option.some.inj known

end FrameIngest.Tensor
