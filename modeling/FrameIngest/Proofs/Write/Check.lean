import Mathlib
import FrameIngest.ColumnWrite
import FrameIngest.Proofs.Tensor.Rows

namespace FrameIngest

theorem Segment.column_eq_ok_iff {segment : Segment} {position : Nat} {column : Column} :
    segment.column position = .ok column ↔ segment.columns[position]? = some column := by
  unfold Segment.column
  split <;> simp_all

namespace ColumnWrite

/-- A write that suits a column of a segment: the types agree, the tensor has one dimension and
cells only for dynamic strings, only floats are written sparsely, and the rows are there. -/
structure Fits (write : ColumnWrite) (segment : Segment) (column : Column) : Prop where
  found : segment.columns[write.column]? = some column
  stored : column.type = write.type
  tagged : write.tensor.type = write.type
  vector : write.tensor.rank = 1
  objects : write.tensor.holdsObjects = true → write.type.isDynamicString = true
  sparse : write.sparsify = true → write.type.isFloat = true
  inside : write.firstRow + write.rows ≤ write.tensor.rows

/-- A write of as many rows as the segment has, if it has any. -/
def Agrees (write : ColumnWrite) (segment : Segment) : Prop :=
  segment.rows = 0 ∨ write.rows = segment.rows

variable {write : ColumnWrite} {segment : Segment} {column : Column}

theorem checkRows_eq_ok_iff : segment.checkRows write.column write.rows = .ok () ↔
    write.Agrees segment := by
  unfold Segment.checkRows Agrees
  split
  · simp only [reduceCtorEq, false_iff]
    omega
  · simp only [true_iff]
    omega

theorem check_eq (found : segment.columns[write.column]? = some column) :
    write.check segment =
      if column.type ≠ write.type ∨ write.tensor.type ≠ write.type then
        .error (.schemaMismatch
          (.columnTypes write.column column.type write.type write.tensor.type))
      else if write.tensor.rank ≠ 1 then
        .error (.unsupportedType (.rank write.tensor.rank write.type))
      else if (write.tensor.holdsObjects && !write.type.isDynamicString) = true then
        .error (.unsupportedType (.objectCells write.type))
      else if (write.sparsify && !write.type.isFloat) = true then
        .error (.sparsifyType write.type)
      else write.tensor.checkRows write.firstRow write.rows >>= fun _ =>
        segment.checkRows write.column write.rows := by
  unfold check
  rw [Segment.column_eq_ok_iff.2 found]
  split_ifs <;> simp_all [bind, Except.bind]

theorem check_eq_error (absent : segment.columns[write.column]? = none) :
    write.check segment = .error (.outOfBounds (.column write.column segment.columns.length)) := by
  simp only [check, Segment.column, absent]
  rfl

/-- For a write that fits, only its length is left to check. -/
theorem Fits.check_eq_checkRows (fits : write.Fits segment column) :
    write.check segment = segment.checkRows write.column write.rows := by
  have objects : (write.tensor.holdsObjects && !write.type.isDynamicString) = false := by
    cases held : write.tensor.holdsObjects with
    | false => rfl
    | true => simp [fits.objects held]
  have sparse : (write.sparsify && !write.type.isFloat) = false := by
    cases asked : write.sparsify with
    | false => rfl
    | true => simp [fits.sparse asked]
  rw [check_eq fits.found, Tensor.checkRows_eq_ok_iff.2 fits.inside]
  simp only [fits.stored, fits.tagged, fits.vector, objects, sparse, ne_eq, not_true_eq_false,
    or_self, if_false, Bool.false_eq_true]
  rfl

theorem check_eq_ok_iff : write.check segment = .ok () ↔
    ∃ column, write.Fits segment column ∧ write.Agrees segment := by
  constructor
  · intro passed
    cases found : segment.columns[write.column]? with
    | none =>
      rw [check_eq_error found] at passed
      cases passed
    | some column =>
      have checks := check_eq found
      rw [passed] at checks
      split_ifs at checks with types rank objects sparse
      have rows : write.tensor.checkRows write.firstRow write.rows = .ok () := by
        cases checked : write.tensor.checkRows write.firstRow write.rows with
        | ok => rfl
        | error e =>
          rw [checked] at checks
          cases checks
      rw [rows] at checks
      refine ⟨column, ⟨found, ?_, ?_, ?_, ?_, ?_, ?_⟩, checkRows_eq_ok_iff.1 checks.symm⟩
      · by_contra differs
        exact types (Or.inl differs)
      · by_contra differs
        exact types (Or.inr differs)
      · by_contra differs
        exact rank differs
      · intro held
        by_contra differs
        exact objects (by simp [held, differs])
      · intro asked
        by_contra differs
        exact sparse (by simp [asked, differs])
      · exact Tensor.checkRows_eq_ok_iff.1 rows
  · rintro ⟨column, fits, agrees⟩
    rw [fits.check_eq_checkRows, checkRows_eq_ok_iff]
    exact agrees

end ColumnWrite

end FrameIngest
