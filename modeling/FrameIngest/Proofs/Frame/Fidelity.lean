import Mathlib
import FrameIngest.Proofs.Frame.WordWrite
import FrameIngest.Proofs.Segment.RowCounts
import FrameIngest.Proofs.Segment.Strings

namespace FrameIngest

/-- The encoding that a string type asks for. -/
def DataType.encoding (type : DataType) : StringEncoding :=
  if type.isUtf8 then .utf8 else .ascii

/-- The number in a row of a tensor of one dimension. -/
def Tensor.rowNumber (tensor : Tensor) (row : Nat) : Nat :=
  LittleEndian.ofBytes (tensor.rowBytes row)

/-- A row of a column that reads as the row `source` of a tensor: numbers as they are, or as nothing
where a sparse column leaves out what is missing; records byte for byte; strings as the content of
their cells, or as nothing where that is missing or a NaN. Strings are read back as long as the pool
ends before the offsets that stand for no string. -/
structure Segment.ReadsAs (segment : Segment) (position row : Nat) (type : DataType)
    (tensor : Tensor) (source : Nat) (sparsify : Bool) : Prop where
  numbers : ∀ element, type.element? = some element →
    ∃ column, segment.columns[position]? = some column ∧ column.valueAt element row =
      .ok (if sparsify && element.isMissing (tensor.rowNumber source) then none
        else some (tensor.rowNumber source))
  records : type.isFixedString = true →
    ∃ column, segment.columns[position]? = some column ∧
      column.recordAt row = .ok (tensor.rowBytes source)
  strings : type.isDynamicString = true →
    (∀ pool, segment.pool = some pool → pool.byteSize < nanOffset) →
    segment.stringAt position row = .ok ((tensor.rowCell source).content? type.encoding) ∧
      ((tensor.rowCell source).content? type.encoding = none ↔
        tensor.rowCell source = .none ∨ tensor.rowCell source = .nan)

/-- The rows of the latest write of a column are read back, if it reached its end. -/
theorem Segment.Reach.readsAs {schema : Schema} {past : List Attempt} {segment : Segment}
    (reach : Reach schema past segment) {position row : Nat} {write : ColumnWrite}
    (isLatest : latest past position = some ⟨write, .ok none⟩) (within : row < write.rows) :
    segment.ReadsAs position row write.type write.tensor (write.firstRow + row)
      write.sparsify := by
  obtain ⟨contents, holds⟩ := reach.holds
  obtain ⟨column, found, leaves⟩ := holds.kept position _ isLatest rfl
  refine ⟨?_, ?_, ?_⟩
  · intro element elements
    exact ⟨column, found, leaves.valueAt_eq elements within⟩
  · intro fixed
    exact ⟨column, found, leaves.recordAt_eq fixed within⟩
  · intro dynamic small
    rw [← leaves.type_eq] at dynamic
    rw [← leaves.rows_eq] at within
    obtain ⟨offset, stored, value⟩ :=
      leaves.exists_offset dynamic (totalSize_lt holds.stores small) within
    exact ⟨stringAt_eq holds.stores small found dynamic stored value, stored.content?_eq_none_iff⟩

namespace InputFrame

/-- A frame with a tensor for each field of its schema, which may start at any row of its stream. -/
def IsBuilt (frame : InputFrame) : Prop :=
  ofTensors frame.schema frame.tensors frame.normalization =
    .ok { frame with userMetadata := none, offset := 0, bucketizeDynamic := false }

variable {frame : InputFrame} {config : Config}

theorem IsBuilt.length_eq (built : frame.IsBuilt) :
    frame.tensors.length = frame.schema.fields.length := by
  by_contra differs
  rw [IsBuilt, ofTensors, if_pos differs] at built
  cases built

theorem rows_of_checkTensors {rows : Nat} {fields : List SchemaField} {tensors : List Tensor}
    (length : tensors.length = fields.length)
    (checked : checkTensors rows fields tensors = .ok ()) :
    ∀ tensor ∈ tensors, tensor.rows = rows := by
  induction tensors generalizing fields with
  | nil => nofun
  | cons first tensors ih =>
    cases fields with
    | nil => cases length
    | cons field fields =>
      rw [checkTensors] at checked
      split at checked
      · cases checked
      · rename_i same
        rw [List.forall_mem_cons]
        exact ⟨by simpa using same, ih (Nat.succ.inj length) checked⟩

theorem IsBuilt.rows_eq (built : frame.IsBuilt) : ∀ tensor ∈ frame.tensors,
    tensor.rows = frame.rows := by
  have length := built.length_eq
  unfold IsBuilt ofTensors at built
  rw [if_neg (not_not.2 length)] at built
  cases checked : checkTensors ((frame.tensors.head?.map Tensor.rows).getD 0)
      frame.schema.fields frame.tensors with
  | error e =>
    simp only [checked, bind, Except.bind] at built
    cases built
  | ok =>
    simp only [checked, bind, Except.bind, pure, Except.pure, Except.ok.injEq] at built
    have counted : (frame.tensors.head?.map Tensor.rows).getD 0 = frame.rows :=
      congrArg InputFrame.rows built
    rw [← counted]
    exact rows_of_checkTensors length checked

theorem Wrote.rows_eq {entry : SliceEntry} (wrote : frame.Wrote config entry)
    (some_rows : entry.slice.rows.start < entry.slice.rows.stop)
    (some_columns : entry.slice.columns.start < entry.slice.columns.stop) :
    ∃ segment, entry.segment = some segment ∧ segment.rows = entry.slice.rows.span := by
  obtain ⟨segment, schema, past, held, reach, columns⟩ := wrote
  obtain ⟨field, tensor, _, _, isLatest⟩ := columns _ (Nat.le_refl _) some_columns
  have span : entry.slice.rows.span ≠ 0 := by
    unfold RowRange.span
    omega
  exact ⟨segment, held, (reach.counts.completed _ _ isLatest rfl span).symm⟩

theorem Wrote.readsAs {entry : SliceEntry} (wrote : frame.Wrote config entry)
    (behind : frame.offset ≤ entry.slice.rows.start) {row column : Nat}
    (inside : entry.slice.contains (frame.offset + row) column = true) :
    ∃ segment field tensor, entry.segment = some segment ∧
      frame.schema.fields[column]? = some field ∧ frame.tensors[column]? = some tensor ∧
      segment.ReadsAs (column - entry.slice.columns.start)
        (frame.offset + row - entry.slice.rows.start) field.type tensor row
        config.sparsifyFloats := by
  obtain ⟨segment, schema, past, held, reach, columns⟩ := wrote
  obtain ⟨⟨from_start, before_stop⟩, from_left, before_right⟩ := Slice.contains_iff.1 inside
  obtain ⟨field, tensor, named, given, isLatest⟩ := columns column from_left before_right
  have within : frame.offset + row - entry.slice.rows.start < entry.slice.rows.span := by
    unfold RowRange.span
    omega
  have reads := reach.readsAs isLatest within
  have source : entry.slice.rows.start - frame.offset +
      (frame.offset + row - entry.slice.rows.start) = row := by omega
  simp only [sliceWrite, source] at reads
  exact ⟨segment, field, tensor, held, named, given, reads⟩

/-- Every cell of a frame that was written lies in exactly one slice and is read back from the
segment there, and every segment has the rows of its slice. A frame that fits into the machine words
is written alike in them. -/
theorem write_reads_back {lock : DecodeLock} {context : FrameContext} (built : frame.IsBuilt)
    (written : (frame.write config lock).1 = .ok context) :
    (∀ row < frame.rows, ∀ column < frame.schema.fields.length,
      ∃ (index : Nat) (entry : SliceEntry) (segment : Segment) (field : SchemaField)
        (tensor : Tensor),
        context.entries[index]? = some entry ∧
        entry.slice.contains (frame.offset + row) column = true ∧
        (∀ (place : Nat) (other : SliceEntry), context.entries[place]? = some other →
          other.slice.contains (frame.offset + row) column = true → place = index) ∧
        entry.segment = some segment ∧ frame.schema.fields[column]? = some field ∧
        frame.tensors[column]? = some tensor ∧
        segment.ReadsAs (column - entry.slice.columns.start)
          (frame.offset + row - entry.slice.rows.start) field.type tensor row
          config.sparsifyFloats) ∧
    (∀ entry ∈ context.entries,
      ∃ segment, entry.segment = some segment ∧ segment.rows = entry.slice.rows.span) ∧
    (frame.FitsWords config → ∀ overflow,
      frame.writeWord overflow config lock = some (frame.write config lock)) := by
  obtain ⟨cuts, wrote⟩ := write_eq_ok written
  obtain ⟨whole, rows, columns⟩ := slices_eq cuts
  have bounds : ∀ entry ∈ context.entries,
      (frame.offset ≤ entry.slice.rows.start ∧ entry.slice.rows.start < entry.slice.rows.stop) ∧
        entry.slice.columns.start < entry.slice.columns.stop := by
    intro entry member
    have inCut : entry.slice ∈ context.slices := List.mem_map_of_mem member
    rw [whole] at inCut
    exact ⟨rows.bounds (mem_cut inCut).1, (columns.bounds (mem_cut inCut).2).2⟩
  refine ⟨?_, ?_, fun fits _ => writeWord_eq_some fits⟩
  · intro row row_inside column column_inside
    rw [← built.length_eq] at column_inside
    have stream_row : frame.offset ≤ frame.offset + row ∧
        frame.offset + row < frame.offset + frame.rows := by omega
    obtain ⟨index, slice, found, inside, unique⟩ :=
      cut_exists_unique rows columns stream_row ⟨Nat.zero_le column, column_inside⟩
    rw [← whole, FrameContext.slices, List.getElem?_map] at found
    obtain ⟨entry, atIndex, rfl⟩ := Option.map_eq_some_iff.1 found
    have member := List.mem_of_getElem? atIndex
    obtain ⟨segment, field, tensor, held, named, given, reads⟩ :=
      (wrote entry member).readsAs (bounds entry member).1.1 inside
    refine ⟨index, entry, segment, field, tensor, atIndex, inside, ?_, held, named, given, reads⟩
    intro place other atPlace otherInside
    refine unique place other.slice ?_ otherInside
    rw [← whole, FrameContext.slices, List.getElem?_map, atPlace, Option.map_some]
  · intro entry member
    exact (wrote entry member).rows_eq (bounds entry member).1.2 (bounds entry member).2

/-- A frame of three strings and three numbers that starts at row 7 of its stream. -/
def threeTicks : InputFrame where
  schema := ⟨"ticks", .rowCount, [⟨"symbol", .utf8Dynamic64⟩, ⟨"size", .uint8⟩]⟩
  tensors := [.ofCells [.bytes [0x78], .none, .wide [0x78]], .ofNumbers .u8 [1, 2, 3]]
  normalization := .raw
  userMetadata := none
  rows := 3
  offset := 7
  bucketizeDynamic := false

/-- Slices of two rows and one column. -/
def narrowSlices : Config :=
  { Config.default with rowsPerSegment := 2, columnsPerSegment := 1 }

theorem write_reads_back_threeTicks :
    ∃ context, (threeTicks.write narrowSlices .free).1 = .ok context ∧
      (∃ (index : Nat) (entry : SliceEntry) (segment : Segment) (field : SchemaField)
        (tensor : Tensor),
        context.entries[index]? = some entry ∧ entry.slice.contains (7 + 2) 0 = true ∧
        (∀ (place : Nat) (other : SliceEntry), context.entries[place]? = some other →
          other.slice.contains (7 + 2) 0 = true → place = index) ∧
        entry.segment = some segment ∧ threeTicks.schema.fields[0]? = some field ∧
        threeTicks.tensors[0]? = some tensor ∧
        segment.ReadsAs (0 - entry.slice.columns.start) (7 + 2 - entry.slice.rows.start)
          field.type tensor 2 false) ∧
      ∀ entry ∈ context.entries,
        ∃ segment, entry.segment = some segment ∧ segment.rows = entry.slice.rows.span := by
  have built : threeTicks.IsBuilt := rfl
  obtain ⟨context, written⟩ :
      ∃ context, (threeTicks.write narrowSlices .free).1 = .ok context := ⟨_, rfl⟩
  obtain ⟨cells, rows, _⟩ := write_reads_back built written
  exact ⟨context, written, cells 2 (by decide) 0 (by decide), rows⟩

end InputFrame

end FrameIngest
