import Mathlib
import FrameIngest.Proofs.Segment.Reach
import FrameIngest.Proofs.Write.Outcome

namespace FrameIngest

open StringPool

/-- The offset of what is stored for a cell, as the index of a pool has it. -/
def EncodedCell.offsetBy (pool : StringPool) : EncodedCell → Option Nat
  | .sentinel offset => some offset
  | .content text => pool.find? text

theorem EncodedCell.offsetBy_eq {pool : StringPool} {contents : List (List UInt8)}
    (stores : pool.Stores contents) (encoded : EncodedCell) :
    encoded.offsetBy pool = encoded.offsetIn contents := by
  cases encoded with
  | sentinel => rfl
  | content text => exact stores.positions text

namespace ColumnWrite

/-- The strings of the rows before one at which a write stopped. -/
def textsBefore (write : ColumnWrite) (stop : Nat) : List (List UInt8) :=
  (write.rowCells.take stop).filterMap (Cell.content? write.encoding)

/-- A column that has the offsets of the rows before one at which a write stopped, as far as eight
bytes hold them, and zeros from that row on. -/
structure HoldsBefore (write : ColumnWrite) (stop : Nat) (pool : StringPool) (column : Column) :
    Prop where
  type : column.type = write.type
  width : column.width = stringOffsetWidth
  rows : column.rows = write.rows
  dense : column.presence = none
  written : ∀ row < stop, ∃ encoded offset,
    (write.tensor.rowCell (write.firstRow + row)).encode write.encoding = .ok encoded ∧
    encoded.offsetBy pool = some offset ∧
    column.valueAt Element.u64 row = .ok (some (offset % UInt64.size))
  zeros : ∀ row, stop ≤ row → row < write.rows → column.valueAt Element.u64 row = .ok (some 0)

variable {write : ColumnWrite} {segment : Segment} {column : Column} {lock : DecodeLock}

theorem verdict_of_objects (pooled : write.type.isDynamicString = true)
    (objects : write.tensor.holdsObjects = true) :
    write.verdict = .ok (write.encoding.firstFailure? write.rowCells) := by
  have numberless := DataType.element?_eq_none_iff.2 (.inr (.inl pooled))
  rw [verdict, numberless]
  simp only [pooled, objects, true_or, if_true]

/-- The offsets of a pooling are in its column, each in the row of its cell. -/
theorem Pooling.Reflects.holdsBefore {pooling : Pooling} {contents : List (List UInt8)}
    (reflects : pooling.Reflects write.encoding contents write.rowCells)
    (stored : column.type = write.type) :
    write.HoldsBefore pooling.offsets.length pooling.pool
      (write.offsetColumn column pooling.offsets) := by
  have taken := reflects.offsets.length_eq
  rw [List.length_take, length_rowCells] at taken
  have most : pooling.offsets.length ≤ write.rows := by omega
  refine ⟨stored, rfl, rfl, rfl, fun row below => ?_, fun row behind within => ?_⟩
  · have atRow : (write.rowCells.take pooling.offsets.length)[row]? =
        some (write.tensor.rowCell (write.firstRow + row)) := by
      rw [List.getElem?_take_of_lt below, getElem?_rowCells (by omega)]
    obtain ⟨offset, listed, encoded, encodes, found⟩ :=
      exists_getElem?_of_forall₂ reflects.offsets atRow
    refine ⟨encoded, offset, encodes, by rw [encoded.offsetBy_eq reflects.stores, found], ?_⟩
    rw [valueAt_offsetColumn most (by omega), List.getD_eq_getElem?_getD, listed,
      Option.getD_some]
    rfl
  · rw [valueAt_offsetColumn most within, List.getD_eq_getElem?_getD,
      List.getElem?_eq_none behind, Option.getD_none, Nat.zero_mod]

end ColumnWrite

namespace Segment

/-- A segment after a write of strings that stopped at a row. Only the column of the write and the
pool are changed, and the pool has the new strings of the rows before that one. -/
structure StoppedAt (segment : Segment) (write : ColumnWrite) (stop : Nat) (after : Segment) :
    Prop where
  schema : after.schema = segment.schema
  rows : after.rows = segment.rows
  others : ∀ position, position ≠ write.column →
    after.columns[position]? = segment.columns[position]?
  changed : ∃ column pool, after.columns[write.column]? = some column ∧ after.pool = some pool ∧
    write.HoldsBefore stop pool column ∧
    (segment.pool.getD .empty).Grows
      ((segment.pool.getD .empty).newStrings (write.textsBefore stop)) pool

variable {schema : Schema} {past : List Attempt} {segment : Segment} {write : ColumnWrite}

theorem Reach.stoppedAt (reach : Reach schema past segment) {column : Column}
    (fits : write.Fits segment column) (lock : DecodeLock) :
    segment.StoppedAt write (write.pooling segment lock).offsets.length
      (write.pooledInto segment column (write.pooling segment lock).offsets
        (write.pooling segment lock).pool) := by
  obtain ⟨contents, holds⟩ := reach.holds
  have reflects := write.pooling_reflects holds.stores lock
  refine ⟨rfl, rfl, fun position elsewhere => ?_, _, _, ?_, rfl, reflects.holdsBefore fits.stored,
    holds.stores.grows reflects.stores⟩
  · exact (getElem?_setColumn fits.found position).trans (if_neg (Ne.symm elsewhere))
  · exact (getElem?_setColumn fits.found write.column).trans (if_pos rfl)

/-- A write of cells that passes its checks stops exactly if one of its cells cannot be encoded, and
then at the first such row, with the reason of its cell. The rows before are written and pooled,
those from there on are zero, the rest of the segment is as it was, and nobody has the lock. -/
theorem Reach.write_stops_at_first_failure (reach : Reach schema past segment)
    (passed : write.check segment = .ok ()) (objects : write.tensor.holdsObjects = true)
    (lock : DecodeLock) :
    ((∃ e, (segment.write lock write).outcome = .ok (some e)) ↔ ∃ row < write.rows, ∃ reason,
      (write.tensor.rowCell (write.firstRow + row)).encode write.encoding = .error reason) ∧
    ∀ e, (segment.write lock write).outcome = .ok (some e) →
      ((e.row < write.rows ∧
        (write.tensor.rowCell (write.firstRow + e.row)).encode write.encoding = .error e.reason) ∧
        ∀ earlier < e.row, ∃ encoded,
          (write.tensor.rowCell (write.firstRow + earlier)).encode write.encoding =
            .ok encoded) ∧
      segment.StoppedAt write e.row (segment.write lock write).segment ∧
      (segment.write lock write).lock.held = false := by
  obtain ⟨column, fits, agrees⟩ := ColumnWrite.check_eq_ok_iff.1 passed
  have pooled := fits.objects objects
  have reported := @ColumnWrite.write_outcome write segment column lock fits agrees
  rw [ColumnWrite.verdict_of_objects pooled objects] at reported
  refine ⟨⟨?_, ?_⟩, ?_⟩
  · rintro ⟨⟨row, reason⟩, stopped⟩
    rw [reported, Except.ok.injEq] at stopped
    obtain ⟨⟨within, fails⟩, _⟩ := ColumnWrite.firstFailure?_rowCells_eq_some_iff.1 stopped
    exact ⟨row, within, reason, fails⟩
  · rintro ⟨row, within, reason, fails⟩
    rw [reported]
    cases first : write.encoding.firstFailure? write.rowCells with
    | some e => exact ⟨e, rfl⟩
    | none =>
      obtain ⟨encoded, encodes⟩ :=
        ColumnWrite.firstFailure?_rowCells_eq_none_iff.1 first row within
      rw [fails] at encodes
      cases encodes
  · intro e stopped
    have step := write.write_step segment lock
    have released := ColumnWrite.write_lock_strings fits agrees pooled (.inl objects) lock
    rw [stopped] at reported step
    refine ⟨ColumnWrite.firstFailure?_rowCells_eq_some_iff.1 (Except.ok.inj reported).symm, ?_,
      by rw [released]; rfl⟩
    generalize (segment.write lock write).segment = after at step
    cases step with
    | stopped fitted => exact reach.stoppedAt fitted _

/-- Three symbols, one of which is missing. -/
def listedSymbols : ColumnWrite where
  column := 0
  type := .utf8Dynamic64
  tensor := .ofCells [.bytes [0x78], .none, .bytes [0x79, 0x7a]]
  firstRow := 0
  rows := 3
  sparsify := false

/-- Three venues in the rows of the symbols, and one row before them. The first venue has the text
of a symbol, and the last one is not UTF-8. -/
def brokenVenues : ColumnWrite where
  column := 1
  type := .utf8Dynamic64
  tensor := .ofCells [.nan, .wide [0x78], .wide [0xe9], .bytes [0xff]]
  firstRow := 1
  rows := 3
  sparsify := false

def venueSchema : Schema :=
  ⟨"ticks", .rowCount, [⟨"symbol", .utf8Dynamic64⟩, ⟨"venue", .utf8Dynamic64⟩]⟩

/-- A segment whose symbols are written. -/
def withoutVenues : Segment :=
  ((ofSchema venueSchema).write .free listedSymbols).segment

theorem Reach.write_stops_at_first_failure_brokenVenues :
    brokenVenues.check withoutVenues = .ok () ∧
    (withoutVenues.write .free brokenVenues).outcome =
      .ok (some ⟨2, .invalidUtf8 ⟨0, some 1⟩⟩) ∧
    (withoutVenues.pool.getD .empty).newStrings (brokenVenues.textsBefore 2) = [[0xc3, 0xa9]] ∧
    withoutVenues.StoppedAt brokenVenues 2 (withoutVenues.write .free brokenVenues).segment ∧
    (withoutVenues.write .free brokenVenues).lock.held = false := by
  have reach : Reach venueSchema [⟨listedSymbols, .ok none⟩] withoutVenues :=
    .next .free listedSymbols .start
  have passed : brokenVenues.check withoutVenues = .ok () := rfl
  have stops := (reach.write_stops_at_first_failure passed rfl .free).2
    ⟨2, .invalidUtf8 ⟨0, some 1⟩⟩ rfl
  exact ⟨passed, rfl, rfl, stops.2⟩

end Segment

end FrameIngest
