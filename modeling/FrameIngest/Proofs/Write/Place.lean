import Mathlib
import FrameIngest.Proofs.Column
import FrameIngest.Proofs.DataType
import FrameIngest.Proofs.Write.Check

namespace FrameIngest

namespace ColumnWrite

variable {write : ColumnWrite} {segment : Segment} {column written : Column} {element : Element}

/-- The bytes of each row to write. -/
def rowValues (write : ColumnWrite) : List (List UInt8) :=
  (List.range' write.firstRow write.rows).map write.tensor.rowBytes

/-- The number in a row to write. -/
def number (write : ColumnWrite) (row : Nat) : Nat :=
  LittleEndian.ofBytes (write.tensor.rowBytes (write.firstRow + row))

/-- Whether a sparse column keeps a value. -/
def keeps (element : Element) (value : List UInt8) : Bool :=
  !element.isMissing (LittleEndian.ofBytes value)

/-- What a write puts in the place of a column of values of one width. -/
inductive Places (write : ColumnWrite) (column : Column) : Column → Prop
  | borrowed {element : Element} : write.type.element? = some element → write.sparsify = false →
      write.tensor.isPacked element.width = true →
      Places write column (column.attach write.rowValues.flatten write.rows)
  | copied {element : Element} : write.type.element? = some element → write.sparsify = false →
      write.tensor.isPacked element.width = false →
      (write.rows ≠ 0 → element.width = write.tensor.width) →
      Places write column (column.keep ⟨write.rowValues.flatten⟩ write.rows)
  | sparse {element : Element} : write.type.element? = some element → write.sparsify = true →
      (write.rows ≠ 0 → element.width = write.tensor.width) →
      Places write column (column.keepSparse ⟨(write.rowValues.filter (keeps element)).flatten⟩
        (write.rowValues.map (keeps element)))
  | records : write.type.isFixedString = true →
      Places write column
        (column.keepRecords write.tensor.width ⟨write.rowValues.flatten⟩ write.rows)
  | counted : write.type.isEmpty = true → Places write column (column.setRows write.rows)

@[simp] theorem length_rowValues (write : ColumnWrite) : write.rowValues.length = write.rows := by
  rw [rowValues, List.length_map, List.length_range']

theorem getElem?_rowValues {row : Nat} (within : row < write.rows) :
    write.rowValues[row]? = some (write.tensor.rowBytes (write.firstRow + row)) := by
  rw [rowValues, List.getElem?_map, List.getElem?_range' within, Nat.one_mul]
  rfl

theorem length_of_mem_rowValues (plain : write.tensor.holdsObjects = false) {value : List UInt8}
    (member : value ∈ write.rowValues) : value.length = write.tensor.width := by
  obtain ⟨row, _, rfl⟩ := List.mem_map.1 member
  exact Tensor.length_rowBytes plain row

theorem Fits.plain (fits : write.Fits segment column)
    (pooled : write.type.isDynamicString = false) : write.tensor.holdsObjects = false := by
  by_contra held
  have objects := fits.objects (by simpa using held)
  rw [pooled] at objects
  cases objects

theorem elements_cases (fits : write.Fits segment column)
    (elements : write.type.element? = some element) :
    ((write.rows ≠ 0 → element.width = write.tensor.width) ∧
      write.tensor.elements element write.firstRow write.rows = .ok write.rowValues) ∨
    ((write.rows ≠ 0 ∧ element.width ≠ write.tensor.width) ∧
      write.tensor.elements element write.firstRow write.rows =
        .error (.schemaMismatch (.elementWidth element write.tensor.width write.tensor.type))) := by
  have plain := fits.plain (DataType.isDynamicString_of_element? elements)
  by_cases same : write.rows ≠ 0 → element.width = write.tensor.width
  · exact Or.inl ⟨same, Tensor.elements_eq fits.vector fits.inside plain same⟩
  · have misfit := Classical.not_imp.1 same
    exact Or.inr ⟨misfit,
      Tensor.elements_eq_error fits.vector fits.inside misfit.1 (Or.inr misfit.2)⟩

/-- Numbers are put in place, unless there are some of a wrong width. -/
theorem numbers_cases (fits : write.Fits segment column)
    (elements : write.type.element? = some element) :
    (∃ written, write.Places column written ∧ write.numbers element column = .ok written) ∨
      (write.rows ≠ 0 ∧ element.width ≠ write.tensor.width) ∧ write.numbers element column =
        .error (.schemaMismatch (.elementWidth element write.tensor.width write.tensor.type)) := by
  have plain := fits.plain (DataType.isDynamicString_of_element? elements)
  have values := elements_cases fits elements
  unfold numbers
  cases asked : write.sparsify with
  | true =>
    rw [if_pos rfl, ColumnWrite.sparse]
    rcases values with ⟨same, read⟩ | ⟨misfit, read⟩
    · rw [read]
      exact Or.inl ⟨_, .sparse elements asked same, rfl⟩
    · rw [read]
      exact Or.inr ⟨misfit, rfl⟩
  | false =>
    rw [if_neg Bool.false_ne_true, dense]
    cases packed : write.tensor.isPacked element.width with
    | true =>
      obtain ⟨same, _⟩ := (Tensor.isPacked_iff fits.vector).1 packed
      rw [if_pos rfl, Tensor.contiguousBytes_eq fits.vector fits.inside plain (same ▸ packed)]
      exact Or.inl ⟨_, .borrowed elements asked packed, rfl⟩
    | false =>
      rw [if_neg Bool.false_ne_true, Tensor.flatten]
      rcases values with ⟨same, read⟩ | ⟨misfit, read⟩
      · rw [read]
        exact Or.inl ⟨_, .copied elements asked packed same, rfl⟩
      · rw [read]
        exact Or.inr ⟨misfit, rfl⟩

theorem records_eq (fits : write.Fits segment column)
    (pooled : write.type.isDynamicString = false) :
    write.records column =
      .ok (column.keepRecords write.tensor.width ⟨write.rowValues.flatten⟩ write.rows) := by
  have plain := fits.plain pooled
  have inside := fits.inside
  unfold ColumnWrite.records
  by_cases narrow : write.tensor.width = 0
  · have nothing : write.rowValues.flatten = [] := by
      rw [List.flatten_eq_nil_iff]
      intro value member
      exact List.length_eq_zero_iff.1 ((length_of_mem_rowValues plain member).trans narrow)
    rw [if_pos narrow, nothing, narrow]
    rfl
  · have read : ((List.range write.rows).mapM fun row =>
          write.tensor.recordAt (write.firstRow + row)) =
        .ok ((List.range write.rows).map fun row =>
          write.tensor.rowBytes (write.firstRow + row)) := by
      apply mapM_eq_pure
      intro row member
      have within := List.mem_range.1 member
      exact Tensor.recordAt_eq fits.vector (by omega) plain
    rw [if_neg narrow, read, rowValues, List.range'_eq_map_range, List.map_map]
    rfl

namespace Places

variable (places : write.Places column written)
include places

theorem type_eq : written.type = column.type := by
  cases places <;> rfl

theorem rows_eq : written.rows = write.rows := by
  cases places with
  | sparse => simp [Column.keepSparse]
  | _ => rfl

/-- Numbers have the width of their tensor, and they are put in place without those that are
missing, or all of them are. The width of the column stays that of its type. -/
theorem of_numbers (elements : write.type.element? = some element) :
    (write.rows ≠ 0 → element.width = write.tensor.width) ∧ written.width = column.width ∧
      ((write.sparsify = true ∧ written =
          column.keepSparse ⟨(write.rowValues.filter (keeps element)).flatten⟩
            (write.rowValues.map (keeps element))) ∨
        (write.sparsify = false ∧ written.presence = none ∧
          written.bytes = write.rowValues.flatten)) := by
  cases places with
  | borrowed stored dense packed =>
    cases Option.some.inj (stored.symm.trans elements)
    exact ⟨fun _ => Tensor.width_eq_of_isPacked packed, rfl, Or.inr ⟨dense, rfl, rfl⟩⟩
  | copied stored dense _ same =>
    cases Option.some.inj (stored.symm.trans elements)
    exact ⟨same, rfl, Or.inr ⟨dense, rfl, rfl⟩⟩
  | sparse stored asked same =>
    cases Option.some.inj (stored.symm.trans elements)
    exact ⟨same, rfl, Or.inl ⟨asked, rfl⟩⟩
  | records fixed =>
    rw [DataType.element?_eq_none_iff.2 (.inl fixed)] at elements
    cases elements
  | counted empty =>
    rw [DataType.element?_eq_none_iff.2 (.inr (.inr empty))] at elements
    cases elements

theorem width_eq (elements : write.type.element? = some element) :
    written.width = column.width :=
  (places.of_numbers elements).2.1

theorem width_fits (elements : write.type.element? = some element) (some_rows : write.rows ≠ 0) :
    element.width = write.tensor.width :=
  (places.of_numbers elements).1 some_rows

/-- A row that was written is read back; a sparse column leaves out what is missing. -/
theorem valueAt_eq (elements : write.type.element? = some element)
    (plain : write.tensor.holdsObjects = false) (width : column.width = element.width)
    {row : Nat} (within : row < write.rows) :
    written.valueAt element row =
      .ok (if write.sparsify && element.isMissing (write.number row) then none
        else some (write.number row)) := by
  have found := getElem?_rowValues within
  have same := places.width_fits elements (by omega)
  have even : ∀ value ∈ write.rowValues, value.length = element.width :=
    fun value member => (length_of_mem_rowValues plain member).trans same.symm
  have rows := places.rows_eq.trans (length_rowValues write).symm
  obtain ⟨_, kept, ⟨asked, rfl⟩ | ⟨dense, presence, bytes⟩⟩ := places.of_numbers elements
  · rw [Column.valueAt_sparse (kept.trans width) rfl rfl even rows found, asked]
    unfold keeps number
    cases element.isMissing (LittleEndian.ofBytes
      (write.tensor.rowBytes (write.firstRow + row))) <;> rfl
  · rw [Column.valueAt_dense (kept.trans width) presence bytes even rows found, dense]
    rfl

theorem recordAt_eq (fixed : write.type.isFixedString = true) (stored : column.type = write.type)
    (plain : write.tensor.holdsObjects = false) {row : Nat} (within : row < write.rows) :
    written.recordAt row = .ok (write.tensor.rowBytes (write.firstRow + row)) := by
  have found := getElem?_rowValues within
  have type : written.type.isFixedString = true := by rw [places.type_eq, stored, fixed]
  have numberless := DataType.element?_eq_none_iff.2 (.inl fixed)
  cases places with
  | borrowed elements =>
    rw [numberless] at elements
    cases elements
  | copied elements =>
    rw [numberless] at elements
    cases elements
  | sparse elements =>
    rw [numberless] at elements
    cases elements
  | records =>
    exact Column.recordAt_eq type rfl (fun value member => length_of_mem_rowValues plain member)
      (length_rowValues write).symm found
  | counted empty =>
    rw [DataType.isEmpty_iff, DataType.isFixedString_iff.1 fixed] at empty
    cases empty

end Places

end ColumnWrite

end FrameIngest
