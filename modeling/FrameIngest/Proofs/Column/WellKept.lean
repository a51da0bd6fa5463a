import Mathlib
import FrameIngest.Proofs.Write.Outcome
import FrameIngest.Proofs.Write.Leaves

namespace FrameIngest

theorem count_take_lt {presence : List Bool} {row : Nat} (present : presence[row]? = some true) :
    (presence.take row).count true < presence.count true := by
  have split : presence = presence.take row ++ true :: presence.drop (row + 1) := by
    obtain ⟨within, here⟩ := List.getElem?_eq_some_iff.1 present
    rw [← here, List.getElem_cons_drop, List.take_append_drop]
  rw [congrArg (List.count true) split, List.count_append, List.count_cons_self]
  omega

theorem DataType.isNumeric_or_isBool_of_element? {type : DataType} {element : Element}
    (elements : type.element? = some element) : type.isNumeric = true ∨ type.isBool = true := by
  rcases element?_eq_some_iff.1 elements with numeric | ⟨bool, _⟩
  · exact Or.inl (by rw [isNumeric, numeric])
  · exact Or.inr (decide_eq_true bool)

namespace Column

/-- A column whose storage suits its type and its rows. Only numbers and truth values are borrowed
and only floats are sparse; the bytes are those of the rows, or of the rows that are present; and a
column without storage has no rows, unless it needs none. -/
structure WellKept (column : Column) : Prop where
  borrowed : column.isExternal = true → column.type.isNumeric = true ∨ column.type.isBool = true
  sparse : column.isSparse = true → column.type.isFloat = true
  full : column.presence = none → column.bytes.length = column.rows * column.width
  present : ∀ presence, column.presence = some presence →
    presence.length = column.rows ∧ column.bytes.length = presence.count true * column.width
  unallocated : column.isAllocated = false → column.type.isEmpty = false → column.rows = 0
  width : column.HasWidth

theorem ofType_wellKept (type : DataType) : (ofType type).WellKept where
  borrowed := nofun
  sparse := nofun
  full _ := (Nat.zero_mul _).symm
  present := nofun
  unallocated _ _ := rfl
  width expected known := by
    change type.fixedWidth?.getD 0 = expected
    rw [ofType] at known
    rw [known, Option.getD_some]

variable {column : Column} {element : PlainType} {row : Nat}

theorem isFloat_eq_false_of_isFixedString {type : DataType} (fixed : type.isFixedString = true) :
    type.isFloat = false := by
  simp [DataType.isFloat, DataType.isFixedString_iff.1 fixed]

namespace WellKept

variable (kept : column.WellKept)
include kept

/-- A column of strings of either kind leaves out no row. -/
theorem presence_eq_none (exact : column.type.isFloat = false) : column.presence = none := by
  cases held : column.presence with
  | none => rfl
  | some presence =>
    have float := kept.sparse (by rw [isSparse, held]; rfl)
    rw [exact] at float
    cases float

theorem count_stored_eq (width : element.width = column.width) :
    column.stored.count element =
      .ok (match column.presence with
        | none => column.rows
        | some presence => presence.count true) := by
  have size (values : Nat) (bytes : column.bytes.length = values * column.width) :
      column.stored.count element = .ok values := by
    have length : column.stored.size = values * element.width := by
      rw [width]
      exact bytes
    simp only [Buffer.count, length, Nat.mul_mod_left, if_true,
      Nat.mul_div_cancel _ element.width_pos]
  cases held : column.presence with
  | none => exact size _ (kept.full held)
  | some presence => exact size _ (kept.present presence held).2

/-- Every row has a value or is absent. -/
theorem valueAt_isOk (inside : row < column.rows) (width : element.width = column.width) :
    ∃ value, column.valueAt element row = .ok value := by
  have counted := kept.count_stored_eq width
  simp only [valueAt, checkRow, inside, if_true, checkWidth, width, ne_eq, not_true_eq_false,
    if_false, bind, Except.bind, pure, Except.pure]
  cases held : column.presence with
  | none =>
    rw [held] at counted
    simp only [indexOf, held, counted, inside, if_true]
    exact ⟨_, rfl⟩
  | some presence =>
    rw [held] at counted
    have within : row < presence.length := by
      rw [(kept.present presence held).1]
      exact inside
    simp only [indexOf, held, counted]
    cases here : presence.getD row false with
    | false => exact ⟨none, rfl⟩
    | true =>
      rw [List.getD_eq_getElem?_getD, List.getElem?_eq_getElem within, Option.getD_some] at here
      have found : presence[row]? = some true := by rw [List.getElem?_eq_getElem within, here]
      simp only [if_true, count_take_lt found]
      exact ⟨_, rfl⟩

theorem valueAt_error {e : IngestError} (failed : column.valueAt element row = .error e) :
    e = .outOfBounds (.columnRow row column.rows) ∨
      e = .schemaMismatch (.columnWidth column.type column.width element) := by
  by_cases inside : row < column.rows
  · by_cases width : element.width = column.width
    · obtain ⟨value, found⟩ := kept.valueAt_isOk inside width
      rw [found] at failed
      cases failed
    · simp only [valueAt, checkRow, inside, if_true, checkWidth, ne_eq, width, not_false_eq_true,
        bind, Except.bind, Except.error.injEq] at failed
      exact Or.inr failed.symm
  · simp only [valueAt, checkRow, inside, if_false, bind, Except.bind,
      Except.error.injEq] at failed
    exact Or.inl failed.symm

/-- The bytes reach as far as every record. -/
theorem record_inside (fixed : column.type.isFixedString = true) (inside : row < column.rows) :
    row * column.width + column.width ≤ column.bytes.length := by
  have dense := kept.presence_eq_none (isFloat_eq_false_of_isFixedString fixed)
  rw [kept.full dense, ← Nat.succ_mul]
  exact Nat.mul_le_mul_right _ inside

end WellKept

theorem recordAt_error {e : IngestError} (failed : column.recordAt row = .error e) :
    e = .schemaMismatch (.notFixedString column.type) ∨
      e = .outOfBounds (.columnRow row column.rows) := by
  unfold recordAt checkRow at failed
  split at failed
  · cases failed
    exact Or.inl rfl
  · split at failed
    · cases failed
    · cases failed
      exact Or.inr rfl

end Column

namespace ColumnWrite

variable {write : ColumnWrite} {segment : Segment} {column written : Column} {element : Element}

theorem length_rowValues_flatten (plain : write.tensor.holdsObjects = false) :
    write.rowValues.flatten.length = write.rows * write.tensor.width := by
  rw [length_flatten_even fun value member => length_of_mem_rowValues plain member,
    length_rowValues]

theorem length_filter_rowValues_flatten (plain : write.tensor.holdsObjects = false)
    (keeps : List UInt8 → Bool) :
    (write.rowValues.filter keeps).flatten.length =
      (write.rowValues.map keeps).count true * write.tensor.width := by
  rw [length_flatten_even fun value member =>
    length_of_mem_rowValues plain (List.mem_filter.1 member).1, List.count, List.countP_map,
    List.countP_eq_length_filter]
  have same : (fun present => present == true) ∘ keeps = keeps := by
    funext value
    simp
  rw [same]

/-- Bytes of rows that have the width of the column, or of no rows. -/
theorem rows_mul_width_eq (fits : write.rows ≠ 0 → element.width = write.tensor.width)
    (width : column.width = element.width) :
    write.rows * write.tensor.width = write.rows * column.width := by
  by_cases nothing : write.rows = 0
  · rw [nothing, Nat.zero_mul, Nat.zero_mul]
  · rw [width, fits nothing]

/-- A column that is put in place is well kept. -/
theorem Places.wellKept (places : write.Places column written) (fits : write.Fits segment column)
    (pooled : write.type.isDynamicString = false) (width : column.HasWidth) : written.WellKept := by
  have plain := fits.plain pooled
  have known {element : Element} (elements : write.type.element? = some element) :
      column.width = element.width :=
    width _ (fits.stored ▸ DataType.fixedWidth?_of_element? elements)
  have sameWidth {element : Element} (elements : write.type.element? = some element) :=
    places.width_fits elements
  have writtenWidth := places.hasWidth fits.stored width
  cases places with
  | @borrowed element elements =>
    refine ⟨fun _ => ?_, nofun, fun _ => ?_, nofun, nofun, writtenWidth⟩
    · exact DataType.isNumeric_or_isBool_of_element? (fits.stored ▸ elements)
    · exact (length_rowValues_flatten plain).trans
        (rows_mul_width_eq (sameWidth elements) (known elements))
  | @copied element elements =>
    refine ⟨nofun, nofun, fun _ => ?_, nofun, nofun, writtenWidth⟩
    exact (length_rowValues_flatten plain).trans
      (rows_mul_width_eq (sameWidth elements) (known elements))
  | @sparse element elements asked =>
    refine ⟨nofun, fun _ => ?_, nofun, ?_, nofun, writtenWidth⟩
    · exact fits.stored ▸ fits.sparse asked
    · rintro _ ⟨⟩
      refine ⟨rfl, (length_filter_rowValues_flatten plain (keeps element)).trans ?_⟩
      by_cases nothing : write.rows = 0
      · have none_kept : write.rowValues = [] :=
          List.length_eq_zero_iff.1 ((length_rowValues write).trans nothing)
        simp [none_kept]
      · rw [← sameWidth elements nothing, ← known elements]
        rfl
  | records fixed =>
    exact ⟨nofun, nofun, fun _ => length_rowValues_flatten plain, nofun, nofun, writtenWidth⟩
  | counted empty =>
    refine ⟨nofun, nofun, fun _ => ?_, nofun, fun _ full => ?_, writtenWidth⟩
    · have nothing : column.width = 0 := by
        refine width 0 ?_
        rw [DataType.fixedWidth?, fits.stored, DataType.isEmpty_iff.1 empty]
      change 0 = write.rows * column.width
      rw [nothing, Nat.mul_zero]
    · change column.type.isEmpty = false at full
      rw [fits.stored, empty] at full
      cases full

/-- A column of offsets is well kept, however far the cells were pooled. -/
theorem offsetColumn_wellKept (stored : column.type = write.type)
    (pooled : write.type.isDynamicString = true) {offsets : List Nat}
    (bound : offsets.length ≤ write.rows) : (write.offsetColumn column offsets).WellKept := by
  refine ⟨nofun, nofun, fun _ => ?_, nofun, nofun, offsetColumn_hasWidth stored pooled offsets⟩
  change (offsets.flatMap (LittleEndian.toBytes stringOffsetWidth) ++
    List.replicate ((write.rows - offsets.length) * stringOffsetWidth) 0).length =
      write.rows * stringOffsetWidth
  rw [List.length_append, LittleEndian.length_flatMap_toBytes, List.length_replicate,
    ← Nat.add_mul, Nat.add_sub_cancel' bound]

end ColumnWrite

end FrameIngest
