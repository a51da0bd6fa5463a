import Mathlib
import FrameIngest.Proofs.Segment.Reach

namespace FrameIngest

/-- A segment with a pool whose column holds one zero offset for every row of a write. -/
def Segment.IsBlankFor (segment : Segment) (write : ColumnWrite) : Prop :=
  segment.pool.isSome = true ∧ ∃ column, segment.columns[write.column]? = some column ∧
    column.width = stringOffsetWidth ∧ column.presence = none ∧ column.rows = write.rows ∧
    column.storage = .owned (.zeroed (write.rows * stringOffsetWidth))

namespace ColumnWrite

variable {write : ColumnWrite} {segment : Segment} {column : Column}

theorem offsetColumn_nil (write : ColumnWrite) (column : Column) :
    write.offsetColumn column [] = column.keepRecords stringOffsetWidth
      (.zeroed (write.rows * stringOffsetWidth)) write.rows := by
  rw [offsetColumn, List.flatMap_nil, List.nil_append, List.length_nil, Nat.sub_zero, Buffer.zeroed]

theorem pooledInto_nil_eq_iff (found : segment.columns[write.column]? = some column) :
    write.pooledInto segment column [] (segment.pool.getD .empty) = segment ↔
      segment.IsBlankFor write := by
  obtain ⟨within, atColumn⟩ := List.getElem?_eq_some_iff.1 found
  constructor
  · intro same
    have pools := congrArg Segment.pool same
    have columns := congrArg (fun after => after.columns[write.column]?) same
    simp only [pooledInto, Segment.setColumn, List.getElem?_set_self within, found,
      offsetColumn_nil, Option.some.injEq] at pools columns
    refine ⟨by rw [← pools]; rfl, column, found, ?_⟩
    rw [← columns]
    exact ⟨rfl, rfl, rfl, rfl⟩
  · rintro ⟨pool, other, atOther, width, presence, rows, storage⟩
    cases Option.some.inj (found.symm.trans atOther)
    have kept : write.offsetColumn column [] = column := by
      rw [offsetColumn_nil, Column.keepRecords, ← storage, ← width, ← presence, ← rows]
    have columns : segment.columns.set write.column column = segment.columns := by
      rw [← atColumn, List.set_getElem_self]
    obtain ⟨known, held⟩ := Option.isSome_iff_exists.1 pool
    rw [pooledInto, kept, Segment.setColumn, columns, held, Option.getD_some, ← held]

end ColumnWrite

/-- A failed write leaves the segment as it was, unless it found packed plain data where its cells
should be. Then the column is emptied and the pool is created before the first cell is read, which
changes nothing only if an earlier such write has done the same. -/
theorem Segment.write_error_untouched_iff {segment : Segment} {lock : DecodeLock}
    {write : ColumnWrite} {e : IngestError}
    (failed : (segment.write lock write).outcome = .error e) :
    ((segment.write lock write).segment = segment ↔
      ¬(write.check segment = .ok () ∧ write.poolsPlainData = true) ∨
        segment.IsBlankFor write) ∧
    (write.check segment = .ok () → write.poolsPlainData = true →
      e = .unsupportedType (.plainCells write.tensor.type) ∧
        ∃ column, segment.columns[write.column]? = some column ∧
          (segment.write lock write).segment =
            write.pooledInto segment column [] (segment.pool.getD .empty)) := by
  by_cases empties : write.check segment = .ok () ∧ write.poolsPlainData = true
  · obtain ⟨passed, plain⟩ := empties
    obtain ⟨column, fits, agrees⟩ := ColumnWrite.check_eq_ok_iff.1 passed
    have ends := @ColumnWrite.write_emptied write segment column lock fits agrees plain
    refine ⟨?_, fun _ _ => ⟨?_, column, fits.found, ends.2⟩⟩
    · rw [ends.2, ColumnWrite.pooledInto_nil_eq_iff fits.found]
      exact ⟨Or.inr, fun either => either.resolve_left fun clean => clean ⟨passed, plain⟩⟩
    · rw [ends.1] at failed
      cases failed
      rfl
  · have step := write.write_step segment lock
    rw [failed] at step
    generalize (segment.write lock write).segment = after at step
    refine ⟨⟨fun _ => Or.inl empties, fun _ => ?_⟩,
      fun passed plain => absurd ⟨passed, plain⟩ empties⟩
    cases step with
    | rejected => rfl
    | emptied fits agrees plain =>
      exact absurd ⟨ColumnWrite.check_eq_ok_iff.2 ⟨_, fits, agrees⟩, plain⟩ empties

/-- A segment of one string column before its first write. -/
def Segment.oneString : Segment :=
  .ofSchema ⟨"ticks", .rowCount, [⟨"symbol", .utf8Dynamic64⟩]⟩

/-- The write of eight zero bytes, passed off as one string. -/
def ColumnWrite.ofZeroBytes : ColumnWrite where
  column := 0
  type := .utf8Dynamic64
  tensor := ⟨.plain #[0, 0, 0, 0, 0, 0, 0, 0], .utf8Dynamic64, 8, [⟨1, 8⟩], by simp⟩
  firstRow := 0
  rows := 1
  sparsify := false

theorem Segment.write_error_untouched_iff_zeroBytes :
    (oneString.write .free .ofZeroBytes).outcome =
        .error (.unsupportedType (.plainCells .utf8Dynamic64)) ∧
      ((oneString.write .free .ofZeroBytes).segment = oneString ↔
        ¬(ColumnWrite.ofZeroBytes.check oneString = .ok () ∧
          ColumnWrite.ofZeroBytes.poolsPlainData = true) ∨
        oneString.IsBlankFor .ofZeroBytes) :=
  ⟨rfl, (write_error_untouched_iff rfl).1⟩

/-- Not every failed write leaves the segment as it was. -/
theorem Segment.not_forall_write_error_untouched :
    ¬∀ (schema : Schema) (past : List Attempt) (segment : Segment) (lock : DecodeLock)
      (write : ColumnWrite) (memory : Memory) (type : DataType) (width : Nat)
      (shape strides : List Nat) (e : IngestError),
      Reach schema past segment →
      Tensor.ofParts memory type width shape strides = .ok write.tensor →
      (segment.write lock write).outcome = .error e →
      (segment.write lock write).segment = segment := by
  intro untouched
  have same := untouched _ [] oneString .free .ofZeroBytes (.plain #[0, 0, 0, 0, 0, 0, 0, 0])
    .utf8Dynamic64 8 [1] [8] _ .start rfl rfl
  have rows := congrArg (fun segment => segment.columns.map Column.rows) same
  exact absurd rows (by decide)

end FrameIngest
