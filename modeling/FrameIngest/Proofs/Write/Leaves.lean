import Mathlib
import FrameIngest.Proofs.Write.Place
import FrameIngest.Proofs.Write.Pooling

namespace FrameIngest

open StringPool

/-- A column whose width is that of its type, unless it depends on the data. -/
def Column.HasWidth (column : Column) : Prop :=
  ∀ width, column.type.fixedWidth? = some width → column.width = width

/-- What a write that reached its end leaves in its column, among the strings of a pool. -/
inductive ColumnWrite.Leaves (write : ColumnWrite) (contents : List (List UInt8)) : Column → Prop
  | placed {before column : Column} : before.type = write.type → before.HasWidth →
      write.tensor.holdsObjects = false → write.Places before column → Leaves write contents column
  | pooled {before : Column} {offsets : List Nat} : before.type = write.type →
      write.type.isDynamicString = true →
      List.Forall₂ (Cell.StoredAs write.encoding contents) write.rowCells offsets →
      Leaves write contents (write.offsetColumn before offsets)

theorem ColumnWrite.Leaves.append {write : ColumnWrite} {contents : List (List UInt8)}
    {column : Column} (leaves : write.Leaves contents column) (added : List (List UInt8)) :
    write.Leaves (contents ++ added) column := by
  cases leaves with
  | placed stored width plain places => exact .placed stored width plain places
  | pooled stored pooled offsets =>
    exact .pooled stored pooled (offsets.imp fun _ _ stored => stored.append added)

theorem ColumnWrite.Places.hasWidth {write : ColumnWrite} {column written : Column}
    (places : write.Places column written) (stored : column.type = write.type)
    (width : column.HasWidth) : written.HasWidth := by
  intro expected known
  rw [places.type_eq] at known
  cases places with
  | records fixed =>
    simp [DataType.fixedWidth?, stored, DataType.isFixedString_iff.1 fixed] at known
  | _ => exact width expected known

theorem ColumnWrite.offsetColumn_hasWidth {write : ColumnWrite} {column : Column}
    (stored : column.type = write.type) (pooled : write.type.isDynamicString = true)
    (offsets : List Nat) : (write.offsetColumn column offsets).HasWidth := by
  intro expected known
  change column.type.fixedWidth? = some expected at known
  simp only [DataType.fixedWidth?, stored, DataType.isDynamicString_iff.1 pooled,
    Option.some.injEq] at known
  exact known

namespace ColumnWrite

variable {write : ColumnWrite} {contents : List (List UInt8)} {column : Column}

theorem Leaves.type_eq (leaves : write.Leaves contents column) : column.type = write.type := by
  cases leaves with
  | placed stored _ _ places => rw [places.type_eq, stored]
  | pooled stored => exact stored

theorem Leaves.rows_eq (leaves : write.Leaves contents column) : column.rows = write.rows := by
  cases leaves with
  | placed _ _ _ places => exact places.rows_eq
  | pooled => rfl

/-- A row of numbers is read back; a sparse column leaves out what is missing. -/
theorem Leaves.valueAt_eq (leaves : write.Leaves contents column) {element : Element}
    (elements : write.type.element? = some element) {row : Nat} (within : row < write.rows) :
    column.valueAt element row =
      .ok (if write.sparsify && element.isMissing (write.number row) then none
        else some (write.number row)) := by
  cases leaves with
  | placed stored width plain places =>
    have known := DataType.fixedWidth?_of_element? elements
    rw [← stored] at known
    exact places.valueAt_eq elements plain (width _ known) within
  | pooled _ dynamic =>
    rw [DataType.element?_eq_none_iff.2 (.inr (.inl dynamic))] at elements
    cases elements

theorem Leaves.recordAt_eq (leaves : write.Leaves contents column)
    (fixed : write.type.isFixedString = true) {row : Nat} (within : row < write.rows) :
    column.recordAt row = .ok (write.tensor.rowBytes (write.firstRow + row)) := by
  cases leaves with
  | placed stored _ plain places => exact places.recordAt_eq fixed stored plain within
  | pooled _ dynamic =>
    rw [DataType.isDynamicString_iff, DataType.isFixedString_iff.1 fixed] at dynamic
    cases dynamic

theorem not_places_of_dynamic {before : Column} (dynamic : write.type.isDynamicString = true) :
    ¬write.Places before column := by
  have numberless := DataType.element?_eq_none_iff.2 (.inr (.inl dynamic))
  have layout := DataType.isDynamicString_iff.1 dynamic
  intro places
  cases places with
  | borrowed elements | copied elements | sparse elements =>
    rw [numberless] at elements
    cases elements
  | records fixed =>
    rw [DataType.isFixedString_iff, layout] at fixed
    cases fixed
  | counted empty =>
    rw [DataType.isEmpty_iff, layout] at empty
    cases empty

/-- The rows behind the offsets that are known hold zeros. -/
theorem bytes_offsetColumn (write : ColumnWrite) (column : Column) (offsets : List Nat) :
    (write.offsetColumn column offsets).bytes =
      ((offsets ++ List.replicate (write.rows - offsets.length) 0).map
        (LittleEndian.toBytes stringOffsetWidth)).flatten := by
  have zero : LittleEndian.toBytes stringOffsetWidth 0 = List.replicate stringOffsetWidth 0 := rfl
  rw [List.map_append, List.flatten_append, List.map_replicate, zero,
    List.flatten_replicate_replicate, ← List.flatMap_def]
  rfl

theorem valueAt_offsetColumn {offsets : List Nat} (most : offsets.length ≤ write.rows) {row : Nat}
    (within : row < write.rows) :
    (write.offsetColumn column offsets).valueAt Element.u64 row =
      .ok (some (offsets.getD row 0 % 256 ^ stringOffsetWidth)) := by
  have even : ∀ value ∈ (offsets ++ List.replicate (write.rows - offsets.length) 0).map
      (LittleEndian.toBytes stringOffsetWidth), value.length = Element.u64.width := by
    intro value member
    obtain ⟨stored, _, rfl⟩ := List.mem_map.1 member
    exact LittleEndian.length_toBytes ..
  have total : (offsets ++ List.replicate (write.rows - offsets.length) 0).length = write.rows := by
    rw [List.length_append, List.length_replicate]
    omega
  have stored : (offsets ++ List.replicate (write.rows - offsets.length) 0)[row]? =
      some (offsets.getD row 0) := by
    rw [List.getElem?_append, List.getD_eq_getElem?_getD]
    split
    · rename_i known
      rw [List.getElem?_eq_getElem known, Option.getD_some]
    · rename_i unknown
      rw [List.getElem?_eq_none (Nat.le_of_not_lt unknown),
        List.getElem?_replicate_of_lt (by omega), Option.getD_none]
  rw [Column.valueAt_dense rfl rfl (write.bytes_offsetColumn column offsets) even
      (by rw [List.length_map, total]; rfl) (by rw [List.getElem?_map, stored, Option.map_some]),
    LittleEndian.ofBytes_toBytes_eq_mod]

theorem offsetColumn_valueAt {offsets : List Nat} (whole : offsets.length = write.rows) {row : Nat}
    {offset : Nat} (found : offsets[row]? = some offset)
    (fits : offset < 256 ^ stringOffsetWidth) :
    (write.offsetColumn column offsets).valueAt Element.u64 row = .ok (some offset) := by
  obtain ⟨within, _⟩ := List.getElem?_eq_some_iff.1 found
  rw [valueAt_offsetColumn whole.le (whole ▸ within), List.getD_eq_getElem?_getD, found,
    Option.getD_some, Nat.mod_eq_of_lt fits]

/-- Every row of a string column has the offset of the cell that was written there. -/
theorem Leaves.exists_offset (leaves : write.Leaves contents column)
    (dynamic : column.type.isDynamicString = true) (small : totalSize contents < nanOffset)
    {row : Nat} (within : row < column.rows) :
    ∃ offset, (write.tensor.rowCell (write.firstRow + row)).StoredAs write.encoding contents
      offset ∧ column.valueAt Element.u64 row = .ok (some offset) := by
  rw [leaves.type_eq] at dynamic
  rw [leaves.rows_eq] at within
  cases leaves with
  | placed _ _ _ places => exact absurd places (not_places_of_dynamic dynamic)
  | @pooled before offsets _ _ stored =>
    have whole : offsets.length = write.rows := by rw [← stored.length_eq, length_rowCells]
    obtain ⟨offset, found, cell⟩ := exists_getElem?_of_forall₂ stored (getElem?_rowCells within)
    exact ⟨offset, cell, offsetColumn_valueAt whole found (cell.offset_lt small)⟩

end ColumnWrite

end FrameIngest
