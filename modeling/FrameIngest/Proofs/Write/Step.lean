import Mathlib
import FrameIngest.Proofs.Write.Place
import FrameIngest.Proofs.Write.Pooling

namespace FrameIngest

namespace ColumnWrite

/-- The pooling of the cells to write. -/
def pooling (write : ColumnWrite) (segment : Segment) (lock : DecodeLock) : Pooling :=
  poolCells write.encoding (write.rowCells.map .ok) (segment.pool.getD .empty) lock

theorem pooling_reflects (write : ColumnWrite) {segment : Segment} {contents : List (List UInt8)}
    (stores : (segment.pool.getD .empty).Stores contents) (lock : DecodeLock) :
    (write.pooling segment lock).Reflects write.encoding contents write.rowCells :=
  poolCells_reflects stores write.encoding write.rowCells lock

theorem pooling_ending_of_rows_eq_zero (write : ColumnWrite) {segment : Segment}
    {lock : DecodeLock} (nothing : write.rows = 0) :
    (write.pooling segment lock).ending = .ok none := by
  rw [pooling, rowCells, nothing]
  rfl

/-- A segment with the offsets of a string column and the pool that they point to. -/
def pooledInto (write : ColumnWrite) (segment : Segment) (column : Column) (offsets : List Nat)
    (pool : StringPool) : Segment :=
  { segment.setColumn write.column (write.offsetColumn column offsets) with pool := some pool }

/-- Whether a write with this outcome stopped when its column was in place already: at a cell that
could not be encoded, or at packed plain data under a string type. -/
def breaksOff (write : ColumnWrite) : Except IngestError (Option EncodingError) → Bool
  | .ok none => false
  | .ok (some _) => true
  | .error (.unsupportedType (.plainCells _)) => write.poolsPlainData
  | .error _ => false

/-- What a write does to a segment, with its outcome and the segment after it. -/
inductive Step (write : ColumnWrite) (segment : Segment) :
    Except IngestError (Option EncodingError) → Segment → Prop
  /-- It is rejected before anything is changed. -/
  | rejected {e : IngestError} : write.breaksOff (.error e) = false →
      Step write segment (.error e) segment
  /-- It puts a column of values in place. -/
  | placed {column written : Column} : write.Fits segment column → write.Agrees segment →
      write.type.isDynamicString = false → write.Places column written →
      Step write segment (.ok none)
        { segment.setColumn write.column written with rows := write.rows }
  /-- It pools all of its cells. -/
  | pooled {column : Column} {lock : DecodeLock} : write.Fits segment column →
      write.Agrees segment → write.type.isDynamicString = true →
      (write.pooling segment lock).ending = .ok none →
      Step write segment (.ok none)
        { write.pooledInto segment column (write.pooling segment lock).offsets
            (write.pooling segment lock).pool with rows := write.rows }
  /-- It pools the cells before one that cannot be encoded. -/
  | stopped {column : Column} {lock : DecodeLock} {reason : EncodingFailure} :
      write.Fits segment column → write.Agrees segment → write.type.isDynamicString = true →
      (write.pooling segment lock).ending = .ok (some reason) →
      Step write segment (.ok (some ⟨(write.pooling segment lock).offsets.length, reason⟩))
        (write.pooledInto segment column (write.pooling segment lock).offsets
          (write.pooling segment lock).pool)
  /-- It finds plain data where its cells should be. -/
  | emptied {column : Column} : write.Fits segment column → write.Agrees segment →
      write.poolsPlainData = true →
      Step write segment (.error (.unsupportedType (.plainCells write.tensor.type)))
        (write.pooledInto segment column [] (segment.pool.getD .empty))

variable {write : ColumnWrite} {segment : Segment} {column : Column} {lock : DecodeLock}

theorem breaksOff_of_check {e : IngestError} (failed : write.check segment = .error e) :
    write.breaksOff (.error e) = false := by
  cases found : segment.columns[write.column]? with
  | none =>
    rw [check_eq_error found] at failed
    cases failed
    rfl
  | some column =>
    rw [check_eq found] at failed
    split_ifs at failed
    · cases failed
      rfl
    · cases failed
      rfl
    · cases failed
      rfl
    · cases failed
      rfl
    · unfold Tensor.checkRows Segment.checkRows at failed
      split_ifs at failed <;> cases failed <;> rfl

theorem strings_eq (cells : write.cells = .ok (write.rowCells.map .ok)) :
    write.strings segment lock column =
      ⟨(write.pooling segment lock).ending.map fun failure =>
          failure.map fun reason => ⟨(write.pooling segment lock).offsets.length, reason⟩,
        write.pooledInto segment column (write.pooling segment lock).offsets
          (write.pooling segment lock).pool,
        (write.pooling segment lock).lock.release⟩ := by
  rw [strings, cells]
  rfl

/-- Plain data under a string type ends a write at its first row. -/
theorem strings_plain (fits : write.Fits segment column)
    (pooled : write.type.isDynamicString = true) (plain : write.tensor.holdsObjects = false)
    (some_rows : write.rows ≠ 0) :
    (write.strings segment lock column).outcome =
        .error (.unsupportedType (.plainCells write.tensor.type)) ∧
      (write.strings segment lock column).segment =
        if write.poolsPlainData then
          write.pooledInto segment column [] (segment.pool.getD .empty)
        else segment := by
  have read := cells_plain fits pooled plain some_rows
  split at read
  · rename_i packed
    obtain ⟨rest, read⟩ := read
    rw [if_pos packed, strings, read]
    exact ⟨rfl, rfl⟩
  · rename_i strided
    rw [if_neg strided, strings, read]
    exact ⟨rfl, rfl⟩

/-- After the checks the write does what the type of the column says. -/
theorem write_eq (fits : write.Fits segment column) (agrees : write.Agrees segment) :
    segment.write lock write =
      match (write.dispatch segment lock column).outcome with
      | .ok none => { write.dispatch segment lock column with
          segment := { (write.dispatch segment lock column).segment with rows := write.rows } }
      | _ => write.dispatch segment lock column := by
  have passed : write.check segment = .ok () := check_eq_ok_iff.2 ⟨column, fits, agrees⟩
  have found := Segment.column_eq_ok_iff.2 fits.found
  cases outcome : (write.dispatch segment lock column).outcome with
  | error e => simp only [Segment.write, passed, found, outcome]
  | ok failure => cases failure <;> simp only [Segment.write, passed, found, outcome]

/-- The check of the tag passes wherever numbers are sent to the code for their type. -/
theorem tagged_eq {tag : StaticTag} (same : tag.type = write.type) :
    write.tagged tag segment lock column =
      write.place segment lock (write.numbers tag.element column) :=
  if_neg fun differs => differs same

theorem dispatch_numbers {element : Element} (elements : write.type.element? = some element) :
    write.dispatch segment lock column =
      write.place segment lock (write.numbers element column) := by
  unfold dispatch
  rcases DataType.element?_eq_some_iff.1 elements with numeric | ⟨bool, rfl⟩
  · rw [numeric]
    exact tagged_eq rfl
  · rw [bool]
    exact tagged_eq (DataType.type_of_layout_bool bool)

/-- All but pooled strings are put in place at once. -/
theorem exists_dispatch_eq_place (pooled : write.type.isDynamicString = false)
    (column : Column) : ∃ written, ∀ segment lock,
      write.dispatch segment lock column = write.place segment lock written := by
  cases layout : write.type.layout with
  | numeric tag => exact ⟨_, fun _ _ => dispatch_numbers (DataType.element?_of_numeric layout)⟩
  | bool => exact ⟨_, fun _ _ => dispatch_numbers (DataType.element?_of_bool layout)⟩
  | fixedString => exact ⟨_, fun _ _ => by rw [dispatch, layout]⟩
  | dynamicString =>
    rw [DataType.isDynamicString_iff.2 layout] at pooled
    cases pooled
  | empty => exact ⟨_, fun _ _ => by rw [dispatch, layout]⟩

theorem write_step_placed {written : Column} (fits : write.Fits segment column)
    (agrees : write.Agrees segment) (pooled : write.type.isDynamicString = false)
    (places : write.Places column written)
    (dispatched : write.dispatch segment lock column = write.place segment lock (.ok written)) :
    write.Step segment (segment.write lock write).outcome (segment.write lock write).segment := by
  rw [write_eq fits agrees, dispatched]
  exact .placed fits agrees pooled places

theorem write_step_numbers {element : Element} (fits : write.Fits segment column)
    (agrees : write.Agrees segment) (elements : write.type.element? = some element) :
    write.Step segment (segment.write lock write).outcome (segment.write lock write).segment := by
  have dispatched : write.dispatch segment lock column =
      write.place segment lock (write.numbers element column) := dispatch_numbers elements
  rcases numbers_cases fits elements with ⟨written, places, kept⟩ | ⟨_, failed⟩
  · rw [kept] at dispatched
    exact write_step_placed fits agrees (DataType.isDynamicString_of_element? elements) places
      dispatched
  · rw [write_eq fits agrees, dispatched, failed]
    exact .rejected rfl

theorem dispatch_strings (pooled : write.type.isDynamicString = true) :
    write.dispatch segment lock column = write.strings segment lock column := by
  rw [dispatch, DataType.isDynamicString_iff.1 pooled]

theorem isDynamicString_of_poolsPlainData (plain : write.poolsPlainData = true) :
    write.type.isDynamicString = true := by
  simp only [poolsPlainData, Bool.and_eq_true] at plain
  exact plain.1.1.1

/-- Packed plain data under a string type is found after the column was emptied. -/
theorem write_emptied (fits : write.Fits segment column) (agrees : write.Agrees segment)
    (plain : write.poolsPlainData = true) :
    (segment.write lock write).outcome =
        .error (.unsupportedType (.plainCells write.tensor.type)) ∧
      (segment.write lock write).segment =
        write.pooledInto segment column [] (segment.pool.getD .empty) := by
  have pooled := isDynamicString_of_poolsPlainData plain
  have asked := plain
  simp only [poolsPlainData, Bool.and_eq_true, Bool.not_eq_true', bne_iff_ne] at asked
  have ends := @strings_plain write segment column lock fits pooled asked.1.1.2 asked.2
  rw [if_pos plain] at ends
  rw [write_eq fits agrees, dispatch_strings pooled]
  simp only [ends.1]
  exact ⟨trivial, ends.2⟩

theorem write_step_strings (fits : write.Fits segment column) (agrees : write.Agrees segment)
    (pooled : write.type.isDynamicString = true) :
    write.Step segment (segment.write lock write).outcome (segment.write lock write).segment := by
  by_cases readable : write.tensor.holdsObjects = true ∨ write.rows = 0
  · have cells : write.cells = .ok (write.rowCells.map .ok) := by
      rcases readable with objects | nothing
      · exact cells_objects fits objects
      · rw [cells_nil fits nothing, rowCells, nothing]
        rfl
    obtain ⟨failure, ended⟩ := exists_ending write.encoding write.rowCells
      (segment.pool.getD .empty) lock
    rw [write_eq fits agrees, dispatch_strings pooled, strings_eq cells, pooling, ended]
    cases failure with
    | none => exact .pooled fits agrees pooled ended
    | some reason => exact .stopped fits agrees pooled ended
  · obtain ⟨objects, some_rows⟩ := not_or.1 readable
    have plain : write.tensor.holdsObjects = false := by simpa using objects
    cases packed : write.poolsPlainData with
    | true =>
      have ends := @write_emptied write segment column lock fits agrees packed
      rw [ends.1, ends.2]
      exact .emptied fits agrees packed
    | false =>
      have ends := @strings_plain write segment column lock fits pooled plain some_rows
      rw [packed, if_neg Bool.false_ne_true] at ends
      rw [write_eq fits agrees, dispatch_strings pooled]
      simp only [ends.1, ends.2]
      exact .rejected packed

/-- Everything that a write can do. -/
theorem write_step (segment : Segment) (lock : DecodeLock) (write : ColumnWrite) :
    write.Step segment (segment.write lock write).outcome (segment.write lock write).segment := by
  cases checked : write.check segment with
  | error e =>
    have failed : segment.write lock write = ⟨.error e, segment, lock⟩ := by
      simp only [Segment.write, checked]
    rw [failed]
    exact .rejected (breaksOff_of_check checked)
  | ok =>
    obtain ⟨column, fits, agrees⟩ := check_eq_ok_iff.1 checked
    cases layout : write.type.layout with
    | numeric tag =>
      exact write_step_numbers fits agrees (DataType.element?_of_numeric layout)
    | bool =>
      exact write_step_numbers fits agrees (DataType.element?_of_bool layout)
    | fixedString =>
      have pooled : write.type.isDynamicString = false := by simp [DataType.isDynamicString, layout]
      have fixed := DataType.isFixedString_iff.2 layout
      refine write_step_placed fits agrees pooled (.records fixed) ?_
      rw [dispatch, layout, records_eq fits pooled]
    | dynamicString =>
      exact write_step_strings fits agrees (DataType.isDynamicString_iff.2 layout)
    | empty =>
      have pooled : write.type.isDynamicString = false := by simp [DataType.isDynamicString, layout]
      refine write_step_placed fits agrees pooled (.counted (DataType.isEmpty_iff.2 layout)) ?_
      rw [dispatch, layout]

variable {after : Segment} {outcome : Except IngestError (Option EncodingError)}

/-- No write changes the type of a column. -/
theorem Step.types (step : write.Step segment outcome after) :
    after.columns.map Column.type = segment.columns.map Column.type := by
  have replaced {column written : Column} (fits : write.Fits segment column)
      (same : written.type = column.type) :
      (segment.columns.set write.column written).map Column.type =
        segment.columns.map Column.type := by
    obtain ⟨within, rfl⟩ := List.getElem?_eq_some_iff.1 fits.found
    have kept := @List.set_getElem_self _ (segment.columns.map Column.type) write.column
      (by simpa using within)
    rw [List.getElem_map] at kept
    rw [List.map_set, same, kept]
  cases step with
  | rejected => rfl
  | placed fits _ _ places => exact replaced fits places.type_eq
  | pooled fits | stopped fits | emptied fits => exact replaced fits rfl

theorem Step.rows_of_ok (step : write.Step segment (.ok none) after) :
    after.rows = write.rows := by
  cases step <;> rfl

end ColumnWrite

end FrameIngest
