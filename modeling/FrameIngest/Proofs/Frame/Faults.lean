import Mathlib
import FrameIngest.Proofs.Frame.Fidelity
import FrameIngest.Proofs.Tensor.Origin
import FrameIngest.Proofs.Write.Outcome

namespace FrameIngest

namespace InputFrame

variable {frame : InputFrame} {config : Config} {slice : Slice} {lock : DecodeLock}
  {field : SchemaField} {tensor : Tensor} {column : Nat}

/-- The field of a column and the tensor that is given for it. -/
structure ColumnIs (frame : InputFrame) (column : Nat) (field : SchemaField) (tensor : Tensor) :
    Prop where
  named : frame.schema.fields[column]? = some field
  given : frame.tensors[column]? = some tensor

/-- Whether a row of a tensor has an encoding in the column of a field. -/
def Encodes (field : SchemaField) (tensor : Tensor) (row : Nat) : Prop :=
  ∃ encoded, (tensor.rowCell row).encode field.type.encoding = .ok encoded

/-- What is reported of a column that is the one at `place` in its slice, when some rows of the
stream are written: a tensor of another type, or of more than one dimension, or else the first of
the rows that cannot be encoded. That row counts from the first of the frame. -/
inductive Fault (frame : InputFrame) (rows : RowRange) (place column : Nat) : IngestError → Prop
  | type {field : SchemaField} {tensor : Tensor} : frame.ColumnIs column field tensor →
      tensor.type ≠ field.type →
      Fault frame rows place column
        (.schemaMismatch (.columnTypes place field.type field.type tensor.type))
  | rank {field : SchemaField} {tensor : Tensor} : frame.ColumnIs column field tensor →
      tensor.type = field.type → tensor.rank ≠ 1 →
      Fault frame rows place column (.unsupportedType (.rank tensor.rank field.type))
  | cell {field : SchemaField} {tensor : Tensor} {row : Nat} {reason : EncodingFailure} :
      frame.ColumnIs column field tensor → tensor.type = field.type → tensor.rank = 1 →
      field.type.isDynamicString = true → rows.contains (frame.offset + row) = true →
      (tensor.rowCell row).encode field.type.encoding = .error reason →
      (∀ earlier < row, rows.contains (frame.offset + earlier) = true →
        Encodes field tensor earlier) →
      Fault frame rows place column (.stringEncoding field.name row reason)

/-- A column that has no fault in a slice. -/
def Clean (frame : InputFrame) (slice : Slice) (column : Nat) : Prop :=
  ∀ e, ¬frame.Fault slice.rows (column - slice.columns.start) column e

/-- A column that can be written however it is sliced. -/
structure Sound (frame : InputFrame) (field : SchemaField) (tensor : Tensor) : Prop where
  tagged : tensor.type = field.type
  vector : tensor.rank = 1
  cells : field.type.isDynamicString = true → ∀ row < frame.rows, Encodes field tensor row

theorem ColumnIs.eq (isColumn : frame.ColumnIs column field tensor) {other : SchemaField}
    {twin : Tensor} (also : frame.ColumnIs column other twin) : other = field ∧ twin = tensor :=
  ⟨Option.some.inj (also.named.symm.trans isColumn.named),
    Option.some.inj (also.given.symm.trans isColumn.given)⟩

theorem not_encodes_iff {row : Nat} : ¬Encodes field tensor row ↔
    ∃ reason, (tensor.rowCell row).encode field.type.encoding = .error reason := by
  unfold Encodes
  cases (tensor.rowCell row).encode field.type.encoding <;> simp

namespace Fault

variable {rows : RowRange} {place : Nat} {e other : IngestError}

/-- A column reports one thing. -/
theorem unique (fault : frame.Fault rows place column e)
    (also : frame.Fault rows place column other) : e = other := by
  cases fault with
  | type isColumn differs =>
    cases also with
    | type twin => obtain ⟨rfl, rfl⟩ := isColumn.eq twin; rfl
    | rank twin tagged =>
      obtain ⟨rfl, rfl⟩ := isColumn.eq twin
      exact absurd tagged differs
    | cell twin tagged =>
      obtain ⟨rfl, rfl⟩ := isColumn.eq twin
      exact absurd tagged differs
  | rank isColumn tagged spread =>
    cases also with
    | type twin differs =>
      obtain ⟨rfl, rfl⟩ := isColumn.eq twin
      exact absurd tagged differs
    | rank twin => obtain ⟨rfl, rfl⟩ := isColumn.eq twin; rfl
    | cell twin _ vector =>
      obtain ⟨rfl, rfl⟩ := isColumn.eq twin
      exact absurd vector spread
  | @cell field tensor row reason isColumn tagged vector _ inside fails before =>
    cases also with
    | type twin differs =>
      obtain ⟨rfl, rfl⟩ := isColumn.eq twin
      exact absurd tagged differs
    | rank twin _ spread =>
      obtain ⟨rfl, rfl⟩ := isColumn.eq twin
      exact absurd vector spread
    | @cell _ _ again cause twin _ _ _ alsoInside alsoFails alsoBefore =>
      obtain ⟨rfl, rfl⟩ := isColumn.eq twin
      rcases Nat.lt_trichotomy row again with less | rfl | more
      · exact absurd (alsoBefore row less inside) (not_encodes_iff.2 ⟨reason, fails⟩)
      · rw [fails] at alsoFails
        cases alsoFails
        rfl
      · exact absurd (before again more alsoInside) (not_encodes_iff.2 ⟨cause, alsoFails⟩)

/-- Rows of which one cannot be encoded have a first such row. -/
theorem exists_of_cell (isColumn : frame.ColumnIs column field tensor)
    (tagged : tensor.type = field.type) (vector : tensor.rank = 1)
    (pooled : field.type.isDynamicString = true) {row : Nat}
    (inside : rows.contains (frame.offset + row) = true) (fails : ¬Encodes field tensor row) :
    ∃ e, frame.Fault rows place column e := by
  classical
  have some_row : ∃ row, rows.contains (frame.offset + row) = true ∧ ¬Encodes field tensor row :=
    ⟨row, inside, fails⟩
  obtain ⟨reason, cause⟩ := not_encodes_iff.1 (Nat.find_spec some_row).2
  refine ⟨_, .cell isColumn tagged vector pooled (Nat.find_spec some_row).1 cause ?_⟩
  intro earlier below inRows
  by_contra alsoFails
  exact Nat.find_min some_row below ⟨inRows, alsoFails⟩

end Fault

/-- A column of the right type and one dimension has no fault in rows that can all be encoded. -/
theorem not_fault {rows : RowRange} {place : Nat} {e : IngestError}
    (isColumn : frame.ColumnIs column field tensor) (tagged : tensor.type = field.type)
    (vector : tensor.rank = 1)
    (cells : field.type.isDynamicString = true →
      ∀ row, rows.contains (frame.offset + row) = true → Encodes field tensor row) :
    ¬frame.Fault rows place column e := by
  intro fault
  cases fault with
  | type twin differs =>
    obtain ⟨rfl, rfl⟩ := isColumn.eq twin
    exact differs tagged
  | rank twin _ spread =>
    obtain ⟨rfl, rfl⟩ := isColumn.eq twin
    exact spread vector
  | @cell _ _ row reason twin _ _ pooled inside fails =>
    obtain ⟨rfl, rfl⟩ := isColumn.eq twin
    exact not_encodes_iff.2 ⟨reason, fails⟩ (cells pooled row inside)

/-- The column of a slice without faults is of the right type and one dimension, and its rows in the
slice can be encoded. -/
theorem encodes_of_clean {slice : Slice} (isColumn : frame.ColumnIs column field tensor)
    (clean : frame.Clean slice column) :
    tensor.type = field.type ∧ tensor.rank = 1 ∧ (field.type.isDynamicString = true →
      ∀ row, slice.rows.contains (frame.offset + row) = true → Encodes field tensor row) := by
  have tagged : tensor.type = field.type := by
    by_contra differs
    exact clean _ (.type isColumn differs)
  have vector : tensor.rank = 1 := by
    by_contra spread
    exact clean _ (.rank isColumn tagged spread)
  refine ⟨tagged, vector, fun pooled row inRows => ?_⟩
  by_contra fails
  obtain ⟨e, fault⟩ := Fault.exists_of_cell isColumn tagged vector pooled inRows fails
  exact clean e fault

theorem Sound.not_fault (sound : frame.Sound field tensor)
    (isColumn : frame.ColumnIs column field tensor) {rows : RowRange} {place : Nat}
    {e : IngestError} (below : rows.stop ≤ frame.offset + frame.rows) :
    ¬frame.Fault rows place column e := by
  refine InputFrame.not_fault isColumn sound.tagged sound.vector fun pooled row inside => ?_
  have within := (RowRange.contains_iff.1 inside).2
  exact sound.cells pooled row (by omega)

/-- A slice of rows and columns that the frame has. -/
structure Within (frame : InputFrame) (slice : Slice) : Prop where
  from_offset : frame.offset ≤ slice.rows.start
  some_rows : slice.rows.start < slice.rows.stop
  to_end : slice.rows.stop ≤ frame.offset + frame.rows
  some_columns : slice.columns.start < slice.columns.stop
  to_last : slice.columns.stop ≤ frame.schema.fields.length

/-- A segment with the column types of a slice and with no rows but those of the slice. -/
structure Ready (frame : InputFrame) (slice : Slice) (segment : Segment) : Prop where
  types : segment.columns.map Column.type =
    ((frame.schema.fields.take slice.columns.stop).drop slice.columns.start).map SchemaField.type
  rows : segment.rows = 0 ∨ segment.rows = slice.rows.span

variable {segment : Segment}

theorem Ready.column_at (ready : frame.Ready slice segment)
    (isColumn : frame.ColumnIs column field tensor)
    (inside : slice.columns.contains column = true) :
    ∃ stored, segment.columns[column - slice.columns.start]? = some stored ∧
      stored.type = field.type := by
  obtain ⟨from_start, below⟩ := ColumnRange.contains_iff.1 inside
  have place : slice.columns.start + (column - slice.columns.start) = column := by omega
  have types := congrArg (·[column - slice.columns.start]?) ready.types
  simp only [List.getElem?_map, List.getElem?_drop, place, List.getElem?_take, below, if_true,
    isColumn.named, Option.map_some, Option.map_eq_some_iff] at types
  exact types

/-- The segment of a slice before its first write. -/
theorem Within.exists_ready (within : frame.Within slice) :
    ∃ schema, frame.schema.subset slice.columns.start slice.columns.stop = .ok schema ∧
      frame.Ready slice (.ofSchema schema) := by
  have some_columns := within.some_columns
  have to_last := within.to_last
  refine ⟨_, if_neg (by omega), ?_, Or.inl rfl⟩
  simp [Segment.ofSchema, Column.ofType, Function.comp_def]

theorem Ready.next (ready : frame.Ready slice segment) {write : ColumnWrite}
    (rows : write.rows = slice.rows.span) {after : Segment}
    (step : write.Step segment (.ok none) after) : frame.Ready slice after :=
  ⟨step.types.trans ready.types, Or.inr (step.rows_of_ok.trans rows)⟩

/-- A row of the frame that lies in a slice is one of the rows to write. -/
theorem exists_sliceRow (from_offset : frame.offset ≤ slice.rows.start) {row : Nat}
    (inRows : slice.rows.contains (frame.offset + row) = true) :
    ∃ place < slice.rows.span, slice.rows.start - frame.offset + place = row := by
  have bounds := RowRange.contains_iff.1 inRows
  refine ⟨frame.offset + row - slice.rows.start, ?_, by omega⟩
  unfold RowRange.span
  omega

theorem encodes_of_firstFailure? (from_offset : frame.offset ≤ slice.rows.start)
    (none_fails : field.type.encoding.firstFailure?
      (frame.sliceWrite config slice column field tensor).rowCells = none) {row : Nat}
    (inRows : slice.rows.contains (frame.offset + row) = true) : Encodes field tensor row := by
  obtain ⟨place, below, rfl⟩ := exists_sliceRow from_offset inRows
  exact ColumnWrite.firstFailure?_rowCells_eq_none_iff.1 none_fails place below

theorem first_of_firstFailure? (from_offset : frame.offset ≤ slice.rows.start)
    {failure : EncodingError} (first : field.type.encoding.firstFailure?
      (frame.sliceWrite config slice column field tensor).rowCells = some failure) :
    slice.rows.contains (frame.offset + (slice.rows.start - frame.offset + failure.row)) = true ∧
      (tensor.rowCell (slice.rows.start - frame.offset + failure.row)).encode
        field.type.encoding = .error failure.reason ∧
      ∀ earlier < slice.rows.start - frame.offset + failure.row,
        slice.rows.contains (frame.offset + earlier) = true → Encodes field tensor earlier := by
  obtain ⟨⟨below, fails⟩, before⟩ := ColumnWrite.firstFailure?_rowCells_eq_some_iff.1 first
  change failure.row < slice.rows.stop - slice.rows.start at below
  refine ⟨RowRange.contains_iff.2 (by omega), fails, fun earlier less inRows => ?_⟩
  obtain ⟨place, _, rfl⟩ := exists_sliceRow from_offset inRows
  exact before place (by omega)

/-- The write of a column of a slice succeeds if the column has no fault there, and reports its
fault if it has one. -/
theorem sliceWrite_reports (tagged : tensor.Tagged) (rows : tensor.rows = frame.rows)
    (isColumn : frame.ColumnIs column field tensor) (within : frame.Within slice)
    (inside : slice.columns.contains column = true) (ready : frame.Ready slice segment)
    (floats : config.sparsifyFloats = true → field.type.isFloat = true) :
    frame.Clean slice column ∧
        (segment.write lock (frame.sliceWrite config slice column field tensor)).outcome =
          .ok none ∨
      ∃ e, frame.Fault slice.rows (column - slice.columns.start) column e ∧
        ((segment.write lock (frame.sliceWrite config slice column field tensor)).outcome =
            .error e ∨
          ∃ failure,
            (segment.write lock (frame.sliceWrite config slice column field tensor)).outcome =
              .ok (some failure) ∧
            failure.inFrame field.name (slice.rows.start - frame.offset) = e) := by
  obtain ⟨stored, found, typed⟩ := ready.column_at isColumn inside
  have from_offset := within.from_offset
  have span : slice.rows.start - frame.offset + slice.rows.span ≤ tensor.rows := by
    have to_end := within.to_end
    have some_rows := within.some_rows
    unfold RowRange.span
    omega
  have agrees : (frame.sliceWrite config slice column field tensor).Agrees segment :=
    ready.rows.imp_right Eq.symm
  rw [@ColumnWrite.write_outcome_of_tagged (frame.sliceWrite config slice column field tensor)
    segment stored lock tagged found typed floats span agrees]
  split_ifs with differs spread pooled
  · exact Or.inr ⟨_, .type isColumn differs, Or.inl rfl⟩
  · exact Or.inr ⟨_, .rank isColumn (not_not.1 differs) spread, Or.inl rfl⟩
  · cases first : (frame.sliceWrite config slice column field tensor).encoding.firstFailure?
        (frame.sliceWrite config slice column field tensor).rowCells with
    | none =>
      exact Or.inl ⟨fun e => not_fault isColumn (not_not.1 differs) (not_not.1 spread) fun _ _ =>
        encodes_of_firstFailure? from_offset first, rfl⟩
    | some failure =>
      obtain ⟨inRows, fails, before⟩ := first_of_firstFailure? from_offset first
      exact Or.inr ⟨_, .cell isColumn (not_not.1 differs) (not_not.1 spread) pooled inRows fails
        before, Or.inr ⟨failure, rfl, rfl⟩⟩
  · refine Or.inl ⟨fun e => not_fault isColumn (not_not.1 differs) (not_not.1 spread) ?_, rfl⟩
    intro dynamic
    exact absurd dynamic pooled

end InputFrame

end FrameIngest
