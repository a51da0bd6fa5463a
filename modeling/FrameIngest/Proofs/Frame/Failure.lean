import Mathlib
import FrameIngest.Proofs.Frame.Faults

namespace FrameIngest

namespace InputFrame

variable {frame : InputFrame} {config : Config} {slice : Slice} {slices : List Slice}
  {e other : IngestError}

/-- A slice without faults. -/
def CleanSlice (frame : InputFrame) (slice : Slice) : Prop :=
  ∀ column, slice.columns.contains column = true → frame.Clean slice column

/-- The fault of the first faulty column of a slice. -/
def FirstFault (frame : InputFrame) (slice : Slice) (e : IngestError) : Prop :=
  ∃ column, slice.columns.contains column = true ∧
    (∀ earlier < column, slice.columns.contains earlier = true → frame.Clean slice earlier) ∧
    frame.Fault slice.rows (column - slice.columns.start) column e

/-- The first fault of the first faulty slice. -/
def FirstFaultIn (frame : InputFrame) (slices : List Slice) (e : IngestError) : Prop :=
  ∃ (index : Nat) (slice : Slice), slices[index]? = some slice ∧
    (∀ (earlier : Nat) (other : Slice), earlier < index → slices[earlier]? = some other →
      frame.CleanSlice other) ∧
    frame.FirstFault slice e

theorem FirstFault.not_clean (first : frame.FirstFault slice e) : ¬frame.CleanSlice slice := by
  obtain ⟨column, inside, _, fault⟩ := first
  exact fun clean => clean column inside e fault

theorem FirstFault.unique (first : frame.FirstFault slice e)
    (also : frame.FirstFault slice other) : e = other := by
  obtain ⟨column, inside, before, fault⟩ := first
  obtain ⟨again, alsoInside, alsoBefore, alsoFault⟩ := also
  rcases Nat.lt_trichotomy column again with less | rfl | more
  · exact absurd fault (alsoBefore column less inside e)
  · exact fault.unique alsoFault
  · exact absurd alsoFault (before again more alsoInside other)

theorem FirstFaultIn.unique (first : frame.FirstFaultIn slices e)
    (also : frame.FirstFaultIn slices other) : e = other := by
  obtain ⟨index, slice, atIndex, before, fault⟩ := first
  obtain ⟨again, twin, atAgain, alsoBefore, alsoFault⟩ := also
  rcases Nat.lt_trichotomy index again with less | rfl | more
  · exact absurd (alsoBefore index slice less atIndex) fault.not_clean
  · rw [atIndex] at atAgain
    cases atAgain
    exact fault.unique alsoFault
  · exact absurd (before again twin more atAgain) alsoFault.not_clean

theorem FirstFaultIn.cons (clean : frame.CleanSlice slice)
    (first : frame.FirstFaultIn slices e) : frame.FirstFaultIn (slice :: slices) e := by
  obtain ⟨index, faulty, atIndex, before, fault⟩ := first
  refine ⟨index + 1, faulty, by rwa [List.getElem?_cons_succ], ?_, fault⟩
  intro earlier other below atEarlier
  cases earlier with
  | zero =>
    cases atEarlier
    exact clean
  | succ earlier =>
    rw [List.getElem?_cons_succ] at atEarlier
    exact before earlier other (by omega) atEarlier

section Reports

variable (built : frame.IsBuilt) (safe : ∀ tensor ∈ frame.tensors, tensor.IsSafe)
  (floats : config.sparsifyFloats = true → ∀ field ∈ frame.schema.fields,
    field.type.isFloat = true)

theorem writeColumns_succ {column : Nat} {field : SchemaField} {tensor : Tensor}
    (isColumn : frame.ColumnIs column field tensor) (count : Nat) (segment : Segment)
    (lock : DecodeLock) {write : ColumnWrite}
    (asked : frame.sliceWrite config slice column field tensor = write) :
    frame.writeColumns config slice (slice.rows.start - frame.offset) (count + 1) column
        segment lock =
      match (segment.write lock write).outcome with
      | .error e => (.error e, (segment.write lock write).lock)
      | .ok (some failure) =>
        (.error (failure.inFrame field.name (slice.rows.start - frame.offset)),
          (segment.write lock write).lock)
      | .ok none => frame.writeColumns config slice (slice.rows.start - frame.offset) count
        (column + 1) (segment.write lock write).segment (segment.write lock write).lock := by
  subst asked
  rw [writeColumns, Schema.field_eq_ok_iff.2 isColumn.named, isColumn.given]
  rfl

include built

theorem IsBuilt.exists_column {column : Nat} (below : column < frame.schema.fields.length) :
    ∃ field tensor, frame.ColumnIs column field tensor := by
  have given : column < frame.tensors.length := built.length_eq ▸ below
  exact ⟨_, _, List.getElem?_eq_getElem below, List.getElem?_eq_getElem given⟩

omit built in
/-- The slices of a frame lie within it, as long as there are fields for their columns. -/
theorem within_of_mem (cuts : frame.slices config = .ok slices) (member : slice ∈ slices) :
    slice.columns.stop ≤ frame.tensors.length ∧
      (slice.columns.stop ≤ frame.schema.fields.length → frame.Within slice) := by
  obtain ⟨rfl, rows, columns⟩ := slices_eq cuts
  obtain ⟨inRows, inColumns⟩ := mem_cut member
  have rowBounds := rows.bounds inRows
  exact ⟨columns.le_stop inColumns, fun to_last =>
    ⟨rowBounds.1, rowBounds.2, rows.le_stop inRows, (columns.bounds inColumns).2, to_last⟩⟩

theorem within_of_slices (cuts : frame.slices config = .ok slices) :
    ∀ slice ∈ slices, frame.Within slice := by
  intro slice member
  obtain ⟨tensors, within⟩ := within_of_mem cuts member
  exact within (built.length_eq ▸ tensors)

include safe floats

/-- The columns of a slice are written up to the first one with a fault. -/
theorem writeColumns_reports (within : frame.Within slice) {count column : Nat}
    {segment : Segment} (lock : DecodeLock) (ready : frame.Ready slice segment)
    (from_start : slice.columns.start ≤ column) (to_stop : column + count = slice.columns.stop) :
    (∀ index, column ≤ index → index < slice.columns.stop → frame.Clean slice index) ∧
        (∃ final, (frame.writeColumns config slice (slice.rows.start - frame.offset) count column
          segment lock).1 = .ok final) ∨
      ∃ index e, (column ≤ index ∧ index < slice.columns.stop) ∧
        (∀ earlier, column ≤ earlier → earlier < index → frame.Clean slice earlier) ∧
        frame.Fault slice.rows (index - slice.columns.start) index e ∧
        (frame.writeColumns config slice (slice.rows.start - frame.offset) count column
          segment lock).1 = .error e := by
  induction count generalizing column segment lock with
  | zero => exact Or.inl ⟨fun index _ _ => by omega, segment, rfl⟩
  | succ count ih =>
    have to_last := within.to_last
    obtain ⟨field, tensor, isColumn⟩ := built.exists_column (by omega : column < _)
    have tensorMember := List.mem_of_getElem? isColumn.given
    have inside : slice.columns.contains column = true :=
      ColumnRange.contains_iff.2 ⟨from_start, by omega⟩
    have float asked := floats asked field (List.mem_of_getElem? isColumn.named)
    have reports := @sliceWrite_reports frame config slice lock field tensor column segment
      (safe tensor tensorMember).tagged (built.rows_eq tensor tensorMember) isColumn within inside
      ready float
    rw [writeColumns_succ isColumn count segment lock rfl]
    rcases reports with ⟨clean, reached⟩ | ⟨e, fault, reported⟩
    · have step := (frame.sliceWrite config slice column field tensor).write_step segment lock
      rw [reached] at step
      have cleanFrom (upto : Nat)
          (rest : ∀ index, column + 1 ≤ index → index < upto → frame.Clean slice index) :
          ∀ index, column ≤ index → index < upto → frame.Clean slice index := by
        intro index from_column below
        rcases Nat.eq_or_lt_of_le from_column with rfl | later
        · exact clean
        · exact rest index later below
      simp only [reached]
      rcases @ih (column + 1) _ _ (ready.next rfl step) (by omega) (by omega) with
        ⟨rest, final⟩ | ⟨index, e, bounds, before, fault, failed⟩
      · exact Or.inl ⟨cleanFrom _ rest, final⟩
      · exact Or.inr ⟨index, e, by omega, cleanFrom _ before, fault, failed⟩
    · refine Or.inr ⟨column, e, by omega, fun earlier _ _ => by omega, fault, ?_⟩
      rcases reported with failed | ⟨failure, failed, same⟩
      · simp only [failed]
      · simp only [failed, same]

theorem writeSlice_reports (within : frame.Within slice) (lock : DecodeLock) :
    frame.CleanSlice slice ∧ (∃ entry, (frame.writeSlice config slice lock).1 = .ok entry) ∨
      ∃ e, frame.FirstFault slice e ∧ (frame.writeSlice config slice lock).1 = .error e := by
  obtain ⟨schema, subset, ready⟩ := within.exists_ready
  unfold writeSlice
  simp only [subset]
  have span : slice.columns.start + slice.columns.span = slice.columns.stop := by
    have some_columns := within.some_columns
    unfold ColumnRange.span
    omega
  rcases writeColumns_reports built safe floats within lock ready (Nat.le_refl _) span with
    ⟨clean, final, written⟩ | ⟨column, e, bounds, before, fault, failed⟩
  · refine Or.inl ⟨fun column inside => ?_, _, by rw [written]; rfl⟩
    obtain ⟨from_start, below⟩ := ColumnRange.contains_iff.1 inside
    exact clean column from_start below
  · refine Or.inr ⟨e, ⟨column, ColumnRange.contains_iff.2 bounds, ?_, fault⟩, by rw [failed]; rfl⟩
    intro earlier below inside
    exact before earlier (ColumnRange.contains_iff.1 inside).1 below

/-- All slices are written, and the first faulty one decides the error. -/
theorem writeSlices_reports (within : ∀ slice ∈ slices, frame.Within slice) (lock : DecodeLock) :
    (∀ slice ∈ slices, frame.CleanSlice slice) ∧
        (∃ entries, (frame.writeSlices config slices lock).1.mapM id = .ok entries) ∨
      ∃ e, frame.FirstFaultIn slices e ∧
        (frame.writeSlices config slices lock).1.mapM id = .error e := by
  induction slices generalizing lock with
  | nil => exact Or.inl ⟨nofun, [], rfl⟩
  | cons slice slices ih =>
    rw [List.forall_mem_cons] at within
    simp only [writeSlices, List.mapM_cons, id_eq, bind, Except.bind, pure, Except.pure]
    rcases writeSlice_reports built safe floats within.1 lock with
      ⟨clean, entry, written⟩ | ⟨e, fault, failed⟩
    · simp only [written]
      rcases ih within.2 (frame.writeSlice config slice lock).2 with
        ⟨rest, entries, others⟩ | ⟨e, first, failed⟩
      · simp only [others]
        exact Or.inl ⟨List.forall_mem_cons.2 ⟨clean, rest⟩, _, rfl⟩
      · simp only [failed]
        exact Or.inr ⟨e, first.cons clean, rfl⟩
    · simp only [failed]
      exact Or.inr ⟨e, ⟨0, slice, rfl, fun _ _ below => by omega, fault⟩, rfl⟩

omit built safe in
theorem write_eq_of_floats (cuts : frame.slices config = .ok slices) (lock : DecodeLock) :
    (frame.write config lock).1 =
      ((frame.writeSlices config slices lock).1.mapM id).map frame.contextOf := by
  unfold InputFrame.write
  rw [cuts]
  cases asked : config.sparsifyFloats with
  | false => rfl
  | true =>
    have all_floats : frame.denseField? = none := by
      refine List.find?_eq_none.2 fun field member => ?_
      simp [floats asked field member]
    simp only [all_floats]

/-- A frame is written if none of its slices has a fault, and otherwise the first one is reported.
-/
theorem write_reports (cuts : frame.slices config = .ok slices) (lock : DecodeLock) :
    (∀ slice ∈ slices, frame.CleanSlice slice) ∧
        (∃ context, (frame.write config lock).1 = .ok context) ∨
      ∃ e, frame.FirstFaultIn slices e ∧ (frame.write config lock).1 = .error e := by
  rw [write_eq_of_floats floats cuts]
  rcases writeSlices_reports built safe floats (within_of_slices built cuts) lock with
    ⟨clean, entries, written⟩ | ⟨e, first, failed⟩
  · exact Or.inl ⟨clean, _, by rw [written]; rfl⟩
  · exact Or.inr ⟨e, first, by rw [failed]; rfl⟩

end Reports

/-- A frame whose numbers are written sparsely is not written at all if some field holds no floats.
-/
theorem write_eq_of_dense {field : SchemaField} (cuts : frame.slices config = .ok slices)
    (lock : DecodeLock) (asked : config.sparsifyFloats = true)
    (dense : frame.denseField? = some field) :
    (frame.write config lock).1 = .error (.sparsifyType field.type) := by
  unfold InputFrame.write
  rw [cuts, asked, dense]

section Cut

variable {column : Nat} {field : SchemaField} {tensor : Tensor}
  (cuts : frame.slices config = .ok slices)
include cuts

/-- Every cell of a frame lies in a slice. -/
theorem exists_slice (isColumn : frame.ColumnIs column field tensor) {row : Nat}
    (below : row < frame.rows) :
    ∃ slice ∈ slices, slice.rows.contains (frame.offset + row) = true ∧
      slice.columns.contains column = true := by
  obtain ⟨rfl, rows, columns⟩ := slices_eq cuts
  obtain ⟨given, _⟩ := List.getElem?_eq_some_iff.1 isColumn.given
  obtain ⟨slice, member, inside⟩ := cut_exists_mem rows columns
    (⟨Nat.le_add_right .., by omega⟩ : frame.offset ≤ frame.offset + row ∧ _)
    ⟨Nat.zero_le column, given⟩
  exact ⟨slice, member, Bool.and_eq_true_iff.1 inside⟩

/-- Whether some slice has a fault does not depend on where the slices are cut. -/
theorem clean_iff (built : frame.IsBuilt) : (∀ slice ∈ slices, frame.CleanSlice slice) ↔
    frame.rows = 0 ∨ ∀ column field tensor, frame.ColumnIs column field tensor →
      frame.Sound field tensor := by
  constructor
  · intro clean
    by_cases nothing : frame.rows = 0
    · exact Or.inl nothing
    refine Or.inr fun column field tensor isColumn => ?_
    have encodes (row : Nat) (below : row < frame.rows) : tensor.type = field.type ∧
        tensor.rank = 1 ∧ (field.type.isDynamicString = true → Encodes field tensor row) := by
      obtain ⟨slice, member, inRows, inColumns⟩ := exists_slice cuts isColumn below
      obtain ⟨tagged, vector, cells⟩ := encodes_of_clean isColumn
        (clean slice member column inColumns)
      exact ⟨tagged, vector, fun pooled => cells pooled row inRows⟩
    have first := encodes 0 (by omega)
    exact ⟨first.1, first.2.1, fun pooled row below => (encodes row below).2.2 pooled⟩
  · intro sound slice member column inside e fault
    have within := within_of_slices built cuts slice member
    have from_offset := within.from_offset
    have some_rows := within.some_rows
    have to_end := within.to_end
    rcases sound with nothing | sound
    · omega
    · obtain ⟨field, tensor, isColumn⟩ := built.exists_column
        ((ColumnRange.contains_iff.1 inside).2.trans_le within.to_last)
      exact (sound column field tensor isColumn).not_fault isColumn to_end fault

/-- A row of a column that comes before the rows of a slice lies in an earlier slice. -/
theorem exists_earlier_slice {index row : Nat} {slice : Slice}
    (atIndex : slices[index]? = some slice) (isColumn : frame.ColumnIs column field tensor)
    (below : row < frame.rows)
    (before : frame.offset + row < slice.rows.start) :
    ∃ place other, place < index ∧ slices[place]? = some other ∧
      other.rows.contains (frame.offset + row) = true ∧
      other.columns.contains column = true := by
  obtain ⟨other, member, otherRows, otherColumns⟩ := exists_slice cuts isColumn below
  obtain ⟨place, atPlace⟩ := List.getElem?_of_mem member
  refine ⟨place, other, ?_, atPlace, otherRows, otherColumns⟩
  obtain ⟨whole, rows, _⟩ := slices_eq cuts
  subst whole
  by_contra behind
  have bounds := RowRange.contains_iff.1 otherRows
  obtain ⟨indexBelow, sameSlice⟩ := List.getElem?_eq_some_iff.1 atIndex
  obtain ⟨placeBelow, sameOther⟩ := List.getElem?_eq_some_iff.1 atPlace
  rcases Nat.eq_or_lt_of_le (Nat.le_of_not_lt behind) with same | later
  · subst same
    rw [sameSlice] at sameOther
    subst sameOther
    omega
  · have ordered := List.pairwise_iff_getElem.1
      (@cut_pairwise_start_le _ _ _ (runs frame.tensors.length config.columnsPerSegment) rows)
      index place indexBelow placeBelow later
    rw [sameSlice, sameOther] at ordered
    omega

/-- What a column reports in the first slice where it has a fault is what it would report if all
rows were written at once. -/
theorem Fault.widen {index : Nat} {slice : Slice} (built : frame.IsBuilt)
    (fault : frame.Fault slice.rows (column - slice.columns.start) column e)
    (atIndex : slices[index]? = some slice) (inColumns : slice.columns.contains column = true)
    (before : ∀ (earlier : Nat) (other : Slice), earlier < index →
      slices[earlier]? = some other → frame.CleanSlice other) :
    frame.Fault ⟨frame.offset, frame.offset + frame.rows⟩ (column % config.columnsPerSegment)
      column e := by
  have member := List.mem_of_getElem? atIndex
  have within := within_of_slices built cuts slice member
  have place : column - slice.columns.start = column % config.columnsPerSegment := by
    rw [(slices_eq cuts).1] at member
    obtain ⟨from_start, below⟩ := ColumnRange.contains_iff.1 inColumns
    exact sub_start_of_mem_runs (mem_cut member).2 from_start below
  rw [place] at fault
  cases fault with
  | type isColumn differs => exact .type isColumn differs
  | rank isColumn tagged spread => exact .rank isColumn tagged spread
  | @cell field tensor row reason isColumn tagged vector pooled inRows fails first =>
    have bounds := RowRange.contains_iff.1 inRows
    have in_frame : frame.offset + row < frame.offset + frame.rows :=
      bounds.2.trans_le within.to_end
    refine .cell isColumn tagged vector pooled
      (RowRange.contains_iff.2 ⟨Nat.le_add_right .., in_frame⟩) fails fun earlier less _ => ?_
    by_cases behind : frame.offset + earlier < slice.rows.start
    · obtain ⟨place, other, less, atPlace, otherRows, otherColumns⟩ :=
        exists_earlier_slice cuts atIndex isColumn (by omega) behind
      have clean := before place other less atPlace column otherColumns
      exact (encodes_of_clean isColumn clean).2.2 pooled earlier otherRows
    · exact first earlier less (RowRange.contains_iff.2 (by omega))

end Cut

/-- A frame that can be written, with or without missing numbers left out: no field needs to be
dense if they are, and unless there are no rows, every column is of the right type and one
dimension, and all of its strings can be encoded. -/
structure Writable (frame : InputFrame) (sparsify : Bool) : Prop where
  floats : sparsify = true → ∀ field ∈ frame.schema.fields, field.type.isFloat = true
  sound : frame.rows = 0 ∨ ∀ column field tensor, frame.ColumnIs column field tensor →
    frame.Sound field tensor

theorem denseField?_eq_none_iff : frame.denseField? = none ↔
    ∀ field ∈ frame.schema.fields, field.type.isFloat = true := by
  simp [denseField?, List.find?_eq_none]

theorem write_ok_iff (built : frame.IsBuilt) (safe : ∀ tensor ∈ frame.tensors, tensor.IsSafe)
    (roomy : config.validate = .ok ()) (lock : DecodeLock) :
    (∃ context, (frame.write config lock).1 = .ok context) ↔
      frame.Writable config.sparsifyFloats := by
  obtain ⟨slices, cuts⟩ := @exists_slices frame config roomy
  by_cases floats : config.sparsifyFloats = true → ∀ field ∈ frame.schema.fields,
      field.type.isFloat = true
  · rcases write_reports built safe floats cuts lock with ⟨clean, written⟩ | ⟨e, first, failed⟩
    · exact iff_of_true written ⟨floats, (clean_iff cuts built).1 clean⟩
    · refine iff_of_false (fun ⟨context, written⟩ => ?_) fun writable => ?_
      · rw [failed] at written
        cases written
      · obtain ⟨index, slice, atIndex, _, fault⟩ := first
        exact fault.not_clean
          ((clean_iff cuts built).2 writable.sound slice (List.mem_of_getElem? atIndex))
  · obtain ⟨asked, dense⟩ := Classical.not_imp.1 floats
    cases found : frame.denseField? with
    | none => exact absurd (denseField?_eq_none_iff.1 found) dense
    | some field =>
      refine iff_of_false (fun ⟨context, written⟩ => ?_) fun writable => floats writable.floats
      rw [write_eq_of_dense cuts lock asked found] at written
      cases written

theorem write_error_iff (built : frame.IsBuilt) (safe : ∀ tensor ∈ frame.tensors, tensor.IsSafe)
    (floats : config.sparsifyFloats = true → ∀ field ∈ frame.schema.fields,
      field.type.isFloat = true)
    (cuts : frame.slices config = .ok slices) (lock : DecodeLock) :
    (frame.write config lock).1 = .error e ↔ frame.FirstFaultIn slices e := by
  rcases write_reports built safe floats cuts lock with ⟨clean, _, written⟩ | ⟨other, first, failed⟩
  · refine iff_of_false (by rw [written]; nofun) ?_
    rintro ⟨index, slice, atIndex, _, fault⟩
    exact fault.not_clean (clean slice (List.mem_of_getElem? atIndex))
  · rw [failed]
    constructor
    · intro same
      exact Except.error.inj same ▸ first
    · intro also
      rw [first.unique also]

/-- If a single column of a frame is at fault, the error does not depend on the slices, up to the
place of the column in its slice. -/
theorem write_eq_of_one_fault {column : Nat} {field : SchemaField} {tensor : Tensor}
    (built : frame.IsBuilt) (safe : ∀ tensor ∈ frame.tensors, tensor.IsSafe)
    (some_rows : frame.rows ≠ 0) (isColumn : frame.ColumnIs column field tensor)
    (unsound : ¬frame.Sound field tensor)
    (others : ∀ other field tensor, frame.ColumnIs other field tensor → other ≠ column →
      frame.Sound field tensor)
    (floats : config.sparsifyFloats = true → ∀ field ∈ frame.schema.fields,
      field.type.isFloat = true)
    (roomy : config.validate = .ok ()) (lock : DecodeLock) :
    ∃ e, frame.Fault ⟨frame.offset, frame.offset + frame.rows⟩
        (column % config.columnsPerSegment) column e ∧
      (frame.write config lock).1 = .error e := by
  obtain ⟨slices, cuts⟩ := @exists_slices frame config roomy
  rcases write_reports built safe floats cuts lock with ⟨clean, _⟩ | ⟨e, first, failed⟩
  · rcases (clean_iff cuts built).1 clean with nothing | sound
    · exact absurd nothing some_rows
    · exact absurd (sound column field tensor isColumn) unsound
  · obtain ⟨index, slice, atIndex, before, faulty, inColumns, _, fault⟩ := first
    have within := within_of_slices built cuts slice (List.mem_of_getElem? atIndex)
    have here : faulty = column := by
      by_contra elsewhere
      obtain ⟨other, twin, isOther⟩ := built.exists_column
        ((ColumnRange.contains_iff.1 inColumns).2.trans_le within.to_last)
      exact (others faulty other twin isOther elsewhere).not_fault isOther within.to_end fault
    subst here
    exact ⟨e, fault.widen cuts built atIndex inColumns before, failed⟩

/-- Whether a frame can be written does not depend on how it is sliced. If it cannot, the first
fault of the first faulty slice is reported, and if a single column is at fault, it reports what it
would if all rows were written at once. A frame that fits into the machine words is written alike in
them. -/
theorem write_or_first_fault (built : frame.IsBuilt)
    (safe : ∀ tensor ∈ frame.tensors, tensor.IsSafe) :
    (∀ (config : Config) (lock : DecodeLock), config.validate = .ok () →
      ((∃ context, (frame.write config lock).1 = .ok context) ↔
        frame.Writable config.sparsifyFloats)) ∧
    (∀ (config : Config) (lock : DecodeLock) (field : SchemaField), config.validate = .ok () →
      config.sparsifyFloats = true → frame.denseField? = some field →
      (frame.write config lock).1 = .error (.sparsifyType field.type)) ∧
    (∀ (config : Config) (lock : DecodeLock) (slices : List Slice) (e : IngestError),
      frame.slices config = .ok slices →
      (config.sparsifyFloats = true → frame.denseField? = none) →
      ((frame.write config lock).1 = .error e ↔ frame.FirstFaultIn slices e)) ∧
    (∀ (column : Nat) (field : SchemaField) (tensor : Tensor), frame.rows ≠ 0 →
      frame.ColumnIs column field tensor → ¬frame.Sound field tensor →
      (∀ other field tensor, frame.ColumnIs other field tensor → other ≠ column →
        frame.Sound field tensor) →
      ∀ (config : Config) (lock : DecodeLock), config.validate = .ok () →
        (config.sparsifyFloats = true → frame.denseField? = none) →
        ∃ e, frame.Fault ⟨frame.offset, frame.offset + frame.rows⟩
            (column % config.columnsPerSegment) column e ∧
          (frame.write config lock).1 = .error e) ∧
    ∀ (config : Config) (lock : DecodeLock), frame.FitsWords config → ∀ overflow,
      frame.writeWord overflow config lock = some (frame.write config lock) := by
  refine ⟨?_, ?_, ?_, ?_, fun _ _ fits _ => writeWord_eq_some fits⟩
  · exact fun config lock roomy => write_ok_iff built safe roomy lock
  · intro config lock field roomy asked dense
    obtain ⟨slices, cuts⟩ := @exists_slices frame config roomy
    exact write_eq_of_dense cuts lock asked dense
  · intro config lock slices e cuts floats
    exact write_error_iff built safe (fun asked => denseField?_eq_none_iff.1 (floats asked)) cuts
      lock
  · intro column field tensor some_rows isColumn unsound others config lock roomy floats
    exact write_eq_of_one_fault built safe some_rows isColumn unsound others
      (fun asked => denseField?_eq_none_iff.1 (floats asked)) roomy lock

/-- A frame that starts at row 7 of its stream and whose last symbol is not UTF-8. -/
def brokenTicks : InputFrame where
  schema := ⟨"ticks", .rowCount, [⟨"symbol", .utf8Dynamic64⟩, ⟨"size", .uint8⟩]⟩
  tensors := [.ofCells [.bytes [0x78], .none, .wide [0xe9], .bytes [0xff]],
    .ofNumbers .u8 [1, 2, 3, 4]]
  normalization := .raw
  userMetadata := none
  rows := 4
  offset := 7
  bucketizeDynamic := false

theorem brokenTicks_columnIs :
    brokenTicks.ColumnIs 0 ⟨"symbol", .utf8Dynamic64⟩
      (.ofCells [.bytes [0x78], .none, .wide [0xe9], .bytes [0xff]]) :=
  ⟨rfl, rfl⟩

theorem brokenTicks_fault (place : Nat) :
    brokenTicks.Fault ⟨7, 11⟩ place 0
      (.stringEncoding "symbol" 3 (.invalidUtf8 ⟨0, some 1⟩)) := by
  refine .cell brokenTicks_columnIs rfl rfl rfl rfl rfl fun earlier below _ => ?_
  interval_cases earlier <;> exact ⟨_, rfl⟩

theorem write_or_first_fault_brokenTicks :
    brokenTicks.IsBuilt ∧ (∀ tensor ∈ brokenTicks.tensors, tensor.IsSafe) ∧
    brokenTicks.FirstFaultIn
      [⟨⟨0, 1⟩, ⟨7, 9⟩⟩, ⟨⟨1, 2⟩, ⟨7, 9⟩⟩, ⟨⟨0, 1⟩, ⟨9, 11⟩⟩, ⟨⟨1, 2⟩, ⟨9, 11⟩⟩]
      (.stringEncoding "symbol" 3 (.invalidUtf8 ⟨0, some 1⟩)) ∧
    ∀ (config : Config) (lock : DecodeLock), config.validate = .ok () →
      config.sparsifyFloats = false → (brokenTicks.write config lock).1 =
        .error (.stringEncoding "symbol" 3 (.invalidUtf8 ⟨0, some 1⟩)) := by
  have built : brokenTicks.IsBuilt := rfl
  have safe : ∀ tensor ∈ brokenTicks.tensors, tensor.IsSafe := by
    simp only [brokenTicks, List.forall_mem_cons, List.not_mem_nil, false_imp_iff,
      implies_true, and_true]
    exact ⟨.cells _, .numbers .u8 _⟩
  obtain ⟨_, _, faults, single, _⟩ := write_or_first_fault built safe
  refine ⟨built, safe, (faults narrowSlices .free _ _ rfl nofun).1 rfl, ?_⟩
  intro config lock roomy dense
  have unsound : ¬brokenTicks.Sound ⟨"symbol", .utf8Dynamic64⟩
      (.ofCells [.bytes [0x78], .none, .wide [0xe9], .bytes [0xff]]) := fun sound =>
    sound.not_fault brokenTicks_columnIs (Nat.le_refl 11) (brokenTicks_fault 0)
  have others : ∀ other field tensor, brokenTicks.ColumnIs other field tensor → other ≠ 0 →
      brokenTicks.Sound field tensor := by
    rintro (_ | _ | other) field tensor ⟨named, given⟩ elsewhere
    · exact absurd rfl elsewhere
    · cases named
      cases given
      exact ⟨rfl, rfl, nofun⟩
    · cases named
  obtain ⟨e, fault, failed⟩ := single 0 _ _ nofun brokenTicks_columnIs unsound others config lock
    roomy (by rw [dense]; nofun)
  rw [failed, fault.unique (brokenTicks_fault _)]

end InputFrame

end FrameIngest
