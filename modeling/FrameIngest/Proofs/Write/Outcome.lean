import Mathlib
import FrameIngest.Proofs.Tensor.Origin
import FrameIngest.Proofs.Write.Step

namespace FrameIngest

namespace StringEncoding

variable {encoding : StringEncoding} {cells : List Cell}

/-- The first of some cells that cannot be encoded. Its row counts from the first of them. -/
def firstFailure? (encoding : StringEncoding) : List Cell → Option EncodingError
  | [] => none
  | cell :: cells =>
    match cell.encode encoding with
    | .error reason => some ⟨0, reason⟩
    | .ok _ => (encoding.firstFailure? cells).map fun e => ⟨e.row + 1, e.reason⟩

theorem firstFailure?_eq_none_iff : encoding.firstFailure? cells = none ↔
    ∀ cell ∈ cells, ∃ encoded, cell.encode encoding = .ok encoded := by
  induction cells with
  | nil => simp [firstFailure?]
  | cons cell cells ih =>
    rw [firstFailure?, List.forall_mem_cons, ← ih]
    cases cell.encode encoding <;> simp

/-- The cell that is named fails, and all cells before it have an encoding. -/
theorem firstFailure?_eq_some_iff {row : Nat} {reason : EncodingFailure} :
    encoding.firstFailure? cells = some ⟨row, reason⟩ ↔
      (∃ cell, cells[row]? = some cell ∧ cell.encode encoding = .error reason) ∧
        ∀ earlier < row, ∀ cell, cells[earlier]? = some cell →
          ∃ encoded, cell.encode encoding = .ok encoded := by
  induction cells generalizing row with
  | nil => simp [firstFailure?]
  | cons cell cells ih =>
    rw [firstFailure?]
    cases encodes : cell.encode encoding with
    | error failure =>
      cases row with
      | zero => simp [encodes]
      | succ row =>
        refine iff_of_false (by simp) fun ⟨_, before⟩ => ?_
        obtain ⟨encoded, same⟩ := before 0 (Nat.succ_pos row) cell rfl
        rw [encodes] at same
        cases same
    | ok encoded =>
      cases row with
      | zero => simp [encodes]
      | succ row =>
        rw [Option.map_eq_some_iff]
        constructor
        · rintro ⟨⟨place, cause⟩, found, ⟨⟩⟩
          change encoding.firstFailure? cells = some ⟨place, cause⟩ at found
          obtain ⟨fails, before⟩ := ih.1 found
          refine ⟨by simpa using fails, fun earlier below other atOther => ?_⟩
          cases earlier with
          | zero =>
            cases atOther
            exact ⟨encoded, encodes⟩
          | succ earlier =>
            exact before earlier (Nat.lt_of_succ_lt_succ below) other (by simpa using atOther)
        · rintro ⟨fails, before⟩
          refine ⟨⟨row, reason⟩, ih.2 ⟨by simpa using fails, ?_⟩, rfl⟩
          intro earlier below other atOther
          exact before (earlier + 1) (by omega) other (by simpa using atOther)

end StringEncoding

namespace ColumnWrite

variable {write : ColumnWrite} {segment : Segment} {column : Column} {lock : DecodeLock}

theorem length_offsets_le (encoding : StringEncoding) (cells : List Cell) (pool : StringPool)
    (lock : DecodeLock) :
    (poolCells encoding (cells.map .ok) pool lock).offsets.length ≤ cells.length := by
  induction cells generalizing pool lock with
  | nil => exact Nat.le_refl 0
  | cons cell cells ih =>
    rw [List.map_cons, poolCells_cons]
    cases cell.encode encoding with
    | error reason => exact Nat.zero_le _
    | ok encoded => exact Nat.succ_le_succ (ih (stored pool encoded).2 _)

theorem firstFailure?_rowCells_eq_none_iff {encoding : StringEncoding} :
    encoding.firstFailure? write.rowCells = none ↔ ∀ row < write.rows,
      ∃ encoded, (write.tensor.rowCell (write.firstRow + row)).encode encoding = .ok encoded := by
  rw [StringEncoding.firstFailure?_eq_none_iff]
  constructor
  · intro each row within
    exact each _ (List.mem_of_getElem? (getElem?_rowCells within))
  · intro each cell member
    obtain ⟨row, atRow⟩ := List.getElem?_of_mem member
    have within : row < write.rows := by
      rw [← length_rowCells write]
      exact (List.getElem?_eq_some_iff.1 atRow).1
    rw [getElem?_rowCells within] at atRow
    exact Option.some.inj atRow ▸ each row within

theorem firstFailure?_rowCells_eq_some_iff {encoding : StringEncoding} {row : Nat}
    {reason : EncodingFailure} :
    encoding.firstFailure? write.rowCells = some ⟨row, reason⟩ ↔
      (row < write.rows ∧
        (write.tensor.rowCell (write.firstRow + row)).encode encoding = .error reason) ∧
      ∀ earlier < row, ∃ encoded,
        (write.tensor.rowCell (write.firstRow + earlier)).encode encoding = .ok encoded := by
  rw [StringEncoding.firstFailure?_eq_some_iff]
  constructor
  · rintro ⟨⟨cell, atRow, fails⟩, before⟩
    have within : row < write.rows := by
      rw [← length_rowCells write]
      exact (List.getElem?_eq_some_iff.1 atRow).1
    rw [getElem?_rowCells within] at atRow
    exact ⟨⟨within, Option.some.inj atRow ▸ fails⟩, fun earlier below =>
      before earlier below _ (getElem?_rowCells (by omega))⟩
  · rintro ⟨⟨within, fails⟩, before⟩
    refine ⟨⟨_, getElem?_rowCells within, fails⟩, fun earlier below cell atEarlier => ?_⟩
    rw [getElem?_rowCells (by omega)] at atEarlier
    exact Option.some.inj atEarlier ▸ before earlier below

/-- What a pooling reports: nothing, or the row after the last one that was pooled. -/
def Pooling.outcome (pooling : Pooling) : Except IngestError (Option EncodingError) :=
  pooling.ending.map fun failure => failure.map fun reason => ⟨pooling.offsets.length, reason⟩

theorem Pooling.outcome_after {pooling : Pooling} {failure : Option EncodingError}
    (reported : pooling.outcome = .ok failure) (offset : Nat) :
    (pooling.after offset).outcome = .ok (failure.map fun e => ⟨e.row + 1, e.reason⟩) := by
  unfold outcome at reported ⊢
  cases ended : pooling.ending with
  | error e =>
    rw [ended] at reported
    cases reported
  | ok reason =>
    rw [ended] at reported
    cases reported
    have kept : (pooling.after offset).ending = .ok reason := ended
    rw [kept]
    cases reason <;> rfl

theorem poolCells_outcome (encoding : StringEncoding) (cells : List Cell) (pool : StringPool)
    (lock : DecodeLock) :
    (poolCells encoding (cells.map .ok) pool lock).outcome =
      .ok (encoding.firstFailure? cells) := by
  induction cells generalizing pool lock with
  | nil => rfl
  | cons cell cells ih =>
    rw [List.map_cons, poolCells_cons, StringEncoding.firstFailure?]
    cases cell.encode encoding with
    | error reason => rfl
    | ok encoded => exact Pooling.outcome_after (ih (stored pool encoded).2 _) _

/-- What a write leads to once it passed its checks. Numbers must have the width of the elements
that they are read as, and strings must be cells, unless there are none. -/
def verdict (write : ColumnWrite) : Except IngestError (Option EncodingError) :=
  match write.type.element? with
  | some element =>
    if write.rows ≠ 0 ∧ element.width ≠ write.tensor.width then
      .error (.schemaMismatch (.elementWidth element write.tensor.width write.tensor.type))
    else .ok none
  | none =>
    if write.type.isDynamicString then
      if write.tensor.holdsObjects ∨ write.rows = 0 then
        .ok (write.encoding.firstFailure? write.rowCells)
      else .error (.unsupportedType (.plainCells write.tensor.type))
    else .ok none

theorem write_outcome_eq_dispatch (fits : write.Fits segment column)
    (agrees : write.Agrees segment) :
    (segment.write lock write).outcome = (write.dispatch segment lock column).outcome := by
  rw [write_eq fits agrees]
  cases reached : (write.dispatch segment lock column).outcome with
  | error e => exact reached
  | ok failure => cases failure <;> exact reached

theorem dispatch_outcome_numbers {element : Element} (fits : write.Fits segment column)
    (elements : write.type.element? = some element) :
    (write.dispatch segment lock column).outcome = write.verdict := by
  rw [dispatch_numbers elements, verdict, elements]
  rcases numbers_cases fits elements with ⟨written, places, kept⟩ | ⟨misfit, failed⟩
  · have same := places.width_fits elements
    rw [kept]
    exact (if_neg fun misfit => misfit.2 (same misfit.1)).symm
  · rw [failed]
    exact (if_pos misfit).symm

/-- The cells to write are at hand unless plain data stands in their place. -/
theorem cells_eq (fits : write.Fits segment column)
    (readable : write.tensor.holdsObjects = true ∨ write.rows = 0) :
    write.cells = .ok (write.rowCells.map .ok) := by
  rcases readable with objects | nothing
  · exact cells_objects fits objects
  · rw [cells_nil fits nothing, rowCells, nothing]
    rfl

theorem dispatch_outcome_strings (fits : write.Fits segment column)
    (pooled : write.type.isDynamicString = true) :
    (write.dispatch segment lock column).outcome = write.verdict := by
  have numberless := DataType.element?_eq_none_iff.2 (.inr (.inl pooled))
  rw [dispatch_strings pooled, verdict, numberless]
  simp only [pooled, if_true]
  split
  · rename_i readable
    rw [strings_eq (cells_eq fits readable)]
    exact poolCells_outcome ..
  · rename_i unreadable
    obtain ⟨objects, some_rows⟩ := not_or.1 unreadable
    exact (strings_plain fits pooled (by simpa using objects) some_rows).1

/-- The outcome of a write that passes its checks. -/
theorem write_outcome (fits : write.Fits segment column) (agrees : write.Agrees segment) :
    (segment.write lock write).outcome = write.verdict := by
  rw [write_outcome_eq_dispatch fits agrees]
  cases layout : write.type.layout with
  | numeric tag =>
    exact dispatch_outcome_numbers fits (DataType.element?_of_numeric layout)
  | bool =>
    exact dispatch_outcome_numbers fits (DataType.element?_of_bool layout)
  | dynamicString =>
    exact dispatch_outcome_strings fits (DataType.isDynamicString_iff.2 layout)
  | fixedString =>
    have pooled : write.type.isDynamicString = false := by simp [DataType.isDynamicString, layout]
    rw [dispatch, layout, records_eq fits pooled, verdict]
    simp [DataType.element?, layout, pooled, place]
  | empty =>
    have pooled : write.type.isDynamicString = false := by simp [DataType.isDynamicString, layout]
    rw [dispatch, layout, verdict]
    simp [DataType.element?, layout, pooled, place]

theorem place_lock (write : ColumnWrite) (segment : Segment) (lock : DecodeLock)
    (written : Except IngestError Column) : (write.place segment lock written).lock = lock := by
  cases written <;> rfl

/-- A write ends as its strategy does, and counts its rows if that reached the end. -/
theorem write_parts (fits : write.Fits segment column) (agrees : write.Agrees segment)
    (lock : DecodeLock) :
    (segment.write lock write).lock = (write.dispatch segment lock column).lock ∧
      (segment.write lock write).segment =
        { (write.dispatch segment lock column).segment with
          rows := if write.verdict matches .ok none then write.rows
            else (write.dispatch segment lock column).segment.rows } := by
  have reported := @write_outcome_eq_dispatch write segment column lock fits agrees
  rw [write_outcome fits agrees] at reported
  rw [write_eq fits agrees, ← reported]
  cases write.verdict with
  | error e => exact ⟨rfl, rfl⟩
  | ok failure => cases failure <;> exact ⟨rfl, rfl⟩

/-- A write of strings gives the lock back when it is through with its cells. -/
theorem write_lock_strings (fits : write.Fits segment column) (agrees : write.Agrees segment)
    (pooled : write.type.isDynamicString = true)
    (readable : write.tensor.holdsObjects = true ∨ write.rows = 0) (lock : DecodeLock) :
    (segment.write lock write).lock = (write.pooling segment lock).lock.release := by
  rw [(write_parts fits agrees lock).1, dispatch_strings pooled,
    strings_eq (cells_eq fits readable)]

theorem write_outcome_of_check {e : IngestError} (failed : write.check segment = .error e) :
    segment.write lock write = ⟨.error e, segment, lock⟩ := by
  simp only [Segment.write, failed]

/-- What is wrong with a write of a tensor whose type suits its elements, by the first of the checks
that it does not pass. -/
def fault? (write : ColumnWrite) (segment : Segment) : Option IngestError :=
  match segment.columns[write.column]? with
  | none => some (.outOfBounds (.column write.column segment.columns.length))
  | some column =>
    if column.type ≠ write.type ∨ write.tensor.type ≠ write.type then
      some (.schemaMismatch
        (.columnTypes write.column column.type write.type write.tensor.type))
    else if write.tensor.rank ≠ 1 then
      some (.unsupportedType (.rank write.tensor.rank write.type))
    else if write.sparsify = true ∧ write.type.isFloat = false then
      some (.sparsifyType write.type)
    else if write.tensor.rows < write.firstRow + write.rows then
      some (.outOfBounds (.tensorRows write.firstRow write.rows write.tensor.rows))
    else if segment.rows ≠ 0 ∧ write.rows ≠ segment.rows then
      some (.schemaMismatch (.segmentRows write.column write.rows segment.rows))
    else none

/-- The type of a write that passes is that of its tensor. -/
theorem tensor_type_eq (passed : write.fault? segment = none) :
    write.tensor.type = write.type := by
  unfold fault? at passed
  split at passed
  · cases passed
  · split_ifs at passed with types
    by_contra differs
    exact types (Or.inr differs)

section Tagged

variable (tagged : write.tensor.Tagged)
include tagged

theorem verdict_of_tagged (typed : write.tensor.type = write.type) :
    write.verdict = .ok (if write.type.isDynamicString then
      write.encoding.firstFailure? write.rowCells else none) := by
  unfold verdict
  cases elements : write.type.element? with
  | some element =>
    have same := tagged.element_width (typed ▸ elements)
    simp [same, DataType.isDynamicString_of_element? elements]
  | none =>
    have objects := tagged.objects
    rw [typed] at objects
    cases pooled : write.type.isDynamicString <;> simp [objects, pooled]

/-- Cells are written only where a write may have them, so the check for this always passes. -/
theorem check_of_tagged :
    write.check segment = (write.fault? segment).elim (.ok ()) .error := by
  unfold fault?
  cases found : segment.columns[write.column]? with
  | none => exact check_eq_error found
  | some column =>
    rw [check_eq found]
    by_cases types : column.type ≠ write.type ∨ write.tensor.type ≠ write.type
    · simp only [if_pos types, Option.elim_some]
    have typed : write.tensor.type = write.type := by
      by_contra differs
      exact types (Or.inr differs)
    have plain : ¬(write.tensor.holdsObjects && !write.type.isDynamicString) = true := by
      rw [tagged.objects, typed, Bool.and_not_self]
      exact Bool.false_ne_true
    rw [if_neg types, if_neg plain]
    simp only [if_neg types, Bool.and_eq_true, Bool.not_eq_true']
    split_ifs with rank sparse outside counts
    · rfl
    · rfl
    · rw [Tensor.checkRows_outside outside]
      rfl
    · rw [Tensor.checkRows_eq_ok_iff.2 (Nat.not_lt.1 outside)]
      exact if_pos counts
    · rw [Tensor.checkRows_eq_ok_iff.2 (Nat.not_lt.1 outside)]
      exact if_neg counts

/-- What a write of a tensor whose type suits its elements leads to. Past the checks only a cell can
stop it. -/
theorem write_outcome_eq_fault :
    (segment.write lock write).outcome =
      match write.fault? segment with
      | some e => .error e
      | none => .ok (if write.type.isDynamicString then
          write.encoding.firstFailure? write.rowCells else none) := by
  have checks : write.check segment = _ := check_of_tagged tagged
  cases faulty : write.fault? segment with
  | some e =>
    rw [faulty] at checks
    rw [write_outcome_of_check checks]
  | none =>
    rw [faulty] at checks
    obtain ⟨column, fits, agrees⟩ := check_eq_ok_iff.1 checks
    exact (write_outcome fits agrees).trans (verdict_of_tagged tagged (tensor_type_eq faulty))

/-- A write of rows that are there is rejected for the wrong type or for more than one dimension,
and otherwise only a cell can stop it. -/
theorem write_outcome_of_tagged (found : segment.columns[write.column]? = some column)
    (stored : column.type = write.type)
    (sparse : write.sparsify = true → write.type.isFloat = true)
    (inside : write.firstRow + write.rows ≤ write.tensor.rows) (agrees : write.Agrees segment) :
    (segment.write lock write).outcome =
      if write.tensor.type ≠ write.type then
        .error (.schemaMismatch
          (.columnTypes write.column write.type write.type write.tensor.type))
      else if write.tensor.rank ≠ 1 then
        .error (.unsupportedType (.rank write.tensor.rank write.type))
      else .ok (if write.type.isDynamicString then
        write.encoding.firstFailure? write.rowCells else none) := by
  have floats : ¬(write.sparsify = true ∧ write.type.isFloat = false) := by simpa using sparse
  have counts : ¬(segment.rows ≠ 0 ∧ write.rows ≠ segment.rows) := by
    unfold Agrees at agrees
    omega
  have fault : write.fault? segment =
      if write.tensor.type ≠ write.type then
        some (.schemaMismatch
          (.columnTypes write.column write.type write.type write.tensor.type))
      else if write.tensor.rank ≠ 1 then
        some (.unsupportedType (.rank write.tensor.rank write.type))
      else none := by
    simp only [fault?, found, stored, ne_eq, not_true_eq_false, false_or]
    rw [if_neg floats, if_neg (Nat.not_lt.2 inside), if_neg counts]
  rw [write_outcome_eq_fault tagged, fault]
  split_ifs <;> rfl

end Tagged

end ColumnWrite

end FrameIngest
