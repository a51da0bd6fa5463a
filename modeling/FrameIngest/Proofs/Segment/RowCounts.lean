import Mathlib
import FrameIngest.Proofs.Segment.Reach

namespace FrameIngest

namespace Segment

/-- Every column that has rows has as many as the segment counts. -/
def RowsAgree (segment : Segment) : Prop :=
  ∀ column ∈ segment.columns, column.rows ≠ 0 → column.rows = segment.rows

/-- The counts of a segment after some writes: a column has the rows of its latest write, some if
that write broke off, and those of the segment if it reached its end. -/
structure Counts (segment : Segment) (past : List Attempt) : Prop where
  fresh : ∀ (position : Nat) (column : Column), segment.columns[position]? = some column →
    latest past position = none → column.rows = 0
  written : ∀ position attempt, latest past position = some attempt →
    ∃ column, segment.columns[position]? = some column ∧ column.rows = attempt.write.rows
  stopped : ∀ position attempt, latest past position = some attempt → attempt.brokeOff = true →
    attempt.write.rows ≠ 0
  completed : ∀ position attempt, latest past position = some attempt →
    attempt.completed = true → attempt.write.rows ≠ 0 → attempt.write.rows = segment.rows

theorem Counts.replace {segment after : Segment} {past : List Attempt} {attempt : Attempt}
    {old written : Column} (counts : segment.Counts past)
    (found : segment.columns[attempt.write.column]? = some old)
    (columns : after.columns = (segment.setColumn attempt.write.column written).columns)
    (rows : written.rows = attempt.write.rows) (agrees : attempt.write.Agrees segment)
    (changed : (attempt.completed || attempt.brokeOff) = true)
    (stops : attempt.brokeOff = true → attempt.write.rows ≠ 0)
    (total : after.rows = if attempt.completed then attempt.write.rows else segment.rows) :
    after.Counts (attempt :: past) := by
  refine ⟨?_, ?_, ?_, ?_⟩
  · intro position column atPosition none_latest
    rw [columns, getElem?_setColumn found] at atPosition
    rw [latest_cons changed] at none_latest
    split at none_latest
    · cases none_latest
    · rename_i elsewhere
      rw [if_neg elsewhere] at atPosition
      exact counts.fresh position column atPosition none_latest
  · intro position kept isLatest
    rw [columns, getElem?_setColumn found]
    rw [latest_cons changed] at isLatest
    split at isLatest
    · rename_i here
      cases isLatest
      exact ⟨written, if_pos here, rows⟩
    · rename_i elsewhere
      rw [if_neg elsewhere]
      exact counts.written position kept isLatest
  · intro position kept isLatest
    rw [latest_cons changed] at isLatest
    split at isLatest
    · cases isLatest
      exact stops
    · exact counts.stopped position kept isLatest
  · intro position kept isLatest completed some_rows
    rw [latest_cons changed] at isLatest
    split at isLatest
    · cases isLatest
      rw [total, if_pos completed]
    · have before := counts.completed position kept isLatest completed some_rows
      have same : attempt.write.rows = segment.rows := agrees.resolve_left (by omega)
      rw [total, same, ite_self, before]

theorem Counts.step {segment after : Segment} {past : List Attempt} {write : ColumnWrite}
    {outcome : Except IngestError (Option EncodingError)} (counts : segment.Counts past)
    (step : write.Step segment outcome after) : after.Counts (⟨write, outcome⟩ :: past) := by
  cases step with
  | @rejected e clean =>
    have unchanged : ∀ position, latest (⟨write, .error e⟩ :: past) position =
        latest past position := latest_cons_rejected (by rw [Attempt.brokeOff, clean]; rfl)
    constructor <;> simp only [unchanged]
    · exact counts.fresh
    · exact counts.written
    · exact counts.stopped
    · exact counts.completed
  | placed fits agrees pooled places =>
    exact counts.replace fits.found rfl places.rows_eq agrees rfl
      (fun broke => absurd broke Bool.false_ne_true) rfl
  | pooled fits agrees pooled ended =>
    exact counts.replace fits.found rfl rfl agrees rfl
      (fun broke => absurd broke Bool.false_ne_true) rfl
  | @stopped column lock reason fits agrees pooled ended =>
    refine counts.replace fits.found rfl rfl agrees rfl (fun _ nothing => ?_) rfl
    rw [write.pooling_ending_of_rows_eq_zero nothing] at ended
    cases ended
  | emptied fits agrees plain =>
    have broke : Attempt.brokeOff
        ⟨write, .error (.unsupportedType (.plainCells write.tensor.type))⟩ = true := plain
    refine counts.replace fits.found rfl rfl agrees (by rw [broke, Bool.or_true]) (fun _ => ?_) rfl
    simp only [ColumnWrite.poolsPlainData, Bool.and_eq_true, bne_iff_ne] at plain
    exact plain.2

theorem Reach.counts {schema : Schema} {past : List Attempt} {segment : Segment}
    (reach : Reach schema past segment) : segment.Counts past := by
  induction reach with
  | start =>
    have untried : ∀ position, latest [] position = none := fun _ => rfl
    constructor <;> simp only [untried, reduceCtorEq, false_implies, implies_true]
    intro position column found _
    simp only [ofSchema, List.getElem?_map, Option.map_eq_some_iff] at found
    obtain ⟨field, _, rfl⟩ := found
    rfl
  | next lock write reach ih => exact ih.step (write.write_step _ lock)

/-- A column with rows has those of the segment, unless its latest write broke off and was to have
another number of them. -/
theorem Reach.column_rows_iff {schema : Schema} {past : List Attempt} {segment : Segment}
    (reach : Reach schema past segment) {position : Nat} {column : Column}
    (found : segment.columns[position]? = some column) (some_rows : column.rows ≠ 0) :
    column.rows = segment.rows ↔ ∀ attempt, latest past position = some attempt →
      attempt.brokeOff = true → attempt.write.rows = segment.rows := by
  have counts := reach.counts
  cases isLatest : latest past position with
  | none => exact absurd (counts.fresh position column found isLatest) some_rows
  | some attempt =>
    obtain ⟨same, atPosition, rows⟩ := counts.written position attempt isLatest
    cases Option.some.inj (found.symm.trans atPosition)
    constructor
    · rintro total _ ⟨⟩ _
      rw [← rows, total]
    · intro stopped
      have changed := List.find?_some isLatest
      simp only [Attempt.reached, Bool.and_eq_true, Bool.or_eq_true] at changed
      rcases changed.2 with completed | brokeOff
      · rw [rows]
        exact counts.completed position attempt isLatest completed (by omega)
      · rw [rows]
        exact stopped attempt rfl brokeOff

theorem write_of_other_length {segment : Segment} {lock : DecodeLock} {write : ColumnWrite}
    (some_rows : segment.rows ≠ 0) (differs : write.rows ≠ segment.rows) :
    ∃ e, segment.write lock write = ⟨.error e, segment, lock⟩ ∧
      ∀ column, write.Fits segment column →
        e = .schemaMismatch (.segmentRows write.column write.rows segment.rows) := by
  cases checked : write.check segment with
  | ok =>
    obtain ⟨_, _, agrees⟩ := ColumnWrite.check_eq_ok_iff.1 checked
    rcases agrees with nothing | same
    · exact absurd nothing some_rows
    · exact absurd same differs
  | error e =>
    refine ⟨e, by simp only [Segment.write, checked], fun column fits => ?_⟩
    rw [fits.check_eq_checkRows, checkRows, if_pos ⟨some_rows, differs⟩] at checked
    cases checked
    rfl

/-- The columns of a segment agree in length exactly if each column whose latest write broke off
was to have as many rows as the segment counts. A write that breaks off sets the rows of its column
but not those of the segment. While they agree, two columns with rows have equally many, and a
write of another length is rejected. -/
theorem Reach.rowsAgree_iff {schema : Schema} {past : List Attempt} {segment : Segment}
    (reach : Reach schema past segment) :
    (segment.RowsAgree ↔ ∀ position attempt, latest past position = some attempt →
      attempt.brokeOff = true → attempt.write.rows = segment.rows) ∧
    (segment.RowsAgree → ∀ column ∈ segment.columns, column.rows ≠ 0 →
      (∀ other ∈ segment.columns, other.rows ≠ 0 → other.rows = column.rows) ∧
      ∀ lock write, write.rows ≠ column.rows →
        ∃ e, segment.write lock write = ⟨.error e, segment, lock⟩ ∧
          ∀ target, write.Fits segment target →
            e = .schemaMismatch (.segmentRows write.column write.rows segment.rows)) := by
  have counts := reach.counts
  refine ⟨⟨?_, ?_⟩, ?_⟩
  · intro agree position attempt isLatest brokeOff
    obtain ⟨column, found, rows⟩ := counts.written position attempt isLatest
    have some_rows := counts.stopped position attempt isLatest brokeOff
    rw [← rows]
    exact agree column (List.mem_of_getElem? found) (by omega)
  · intro stopped column member some_rows
    obtain ⟨position, found⟩ := List.getElem?_of_mem member
    exact (reach.column_rows_iff found some_rows).2 (stopped position)
  · intro agree column member some_rows
    have total := agree column member some_rows
    refine ⟨fun other otherMember other_rows => ?_, fun lock write differs => ?_⟩
    · rw [agree other otherMember other_rows, total]
    · exact write_of_other_length (by omega) (by omega)

/-- Two strings, the second of which is not UTF-8. -/
def twoSymbols : ColumnWrite where
  column := 0
  type := .utf8Dynamic64
  tensor := .ofCells [.bytes [0x78], .bytes [0xff]]
  firstRow := 0
  rows := 2
  sparsify := false

def threeSizes : ColumnWrite where
  column := 1
  type := .uint8
  tensor := .ofNumbers .u8 [1, 2, 3]
  firstRow := 0
  rows := 3
  sparsify := false

/-- A segment of symbols and sizes, of which the symbols were written and broke off. -/
def symbolsOnly : Segment :=
  ((ofSchema ⟨"ticks", .rowCount, [⟨"symbol", .utf8Dynamic64⟩, ⟨"size", .uint8⟩]⟩).write .free
    twoSymbols).segment

/-- The segment after the sizes were written as well. -/
def symbolsAndSizes : Segment :=
  (symbolsOnly.write .free threeSizes).segment

theorem reach_symbolsAndSizes :
    Reach ⟨"ticks", .rowCount, [⟨"symbol", .utf8Dynamic64⟩, ⟨"size", .uint8⟩]⟩
      [⟨threeSizes, .ok none⟩, ⟨twoSymbols, .ok (some ⟨1, .invalidUtf8 ⟨0, some 1⟩⟩)⟩]
      symbolsAndSizes :=
  .next .free threeSizes (.next .free twoSymbols .start)

theorem Reach.rowsAgree_iff_symbolsAndSizes :
    symbolsAndSizes.RowsAgree ↔ ∀ position attempt,
      latest [⟨threeSizes, .ok none⟩, ⟨twoSymbols, .ok (some ⟨1, .invalidUtf8 ⟨0, some 1⟩⟩)⟩]
        position = some attempt →
      attempt.brokeOff = true → attempt.write.rows = symbolsAndSizes.rows :=
  (Reach.rowsAgree_iff reach_symbolsAndSizes).1

/-- Columns may come to have different lengths. -/
theorem not_forall_rowsAgree :
    ¬∀ (schema : Schema) (past : List Attempt) (segment : Segment),
      Reach schema past segment → segment.RowsAgree := by
  intro agree
  have differ := agree _ _ _ reach_symbolsAndSizes
  have symbols : symbolsAndSizes.columns.map Column.rows = [2, 3] := by decide
  have total : symbolsAndSizes.rows = 3 := by decide
  obtain ⟨column, member, rows⟩ := List.mem_map.1 (symbols ▸ List.mem_cons_self : 2 ∈ _)
  have same := differ column member (by omega)
  omega

end Segment

end FrameIngest
