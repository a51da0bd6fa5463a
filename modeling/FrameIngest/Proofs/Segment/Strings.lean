import Mathlib
import FrameIngest.Proofs.Segment.Reach

namespace FrameIngest

open StringPool

namespace Segment

variable {segment : Segment} {contents : List (List UInt8)}

/-- The offset in a row of a string column. -/
def offsetAt (segment : Segment) (position row : Nat) : Except IngestError (Option Nat) := do
  (← segment.column position).valueAt Element.u64 row

theorem totalSize_lt (stores : (segment.pool.getD .empty).Stores contents)
    (small : ∀ pool, segment.pool = some pool → pool.byteSize < nanOffset) :
    totalSize contents < nanOffset := by
  rw [← stores.byteSize_eq]
  cases held : segment.pool with
  | none => decide
  | some pool => exact small pool held

theorem stringAt_eq (stores : (segment.pool.getD .empty).Stores contents)
    (small : ∀ pool, segment.pool = some pool → pool.byteSize < nanOffset) {position row : Nat}
    {column : Column} (found : segment.columns[position]? = some column)
    (dynamic : column.type.isDynamicString = true) {encoding : StringEncoding} {cell : Cell}
    {offset : Nat} (stored : cell.StoredAs encoding contents offset)
    (value : column.valueAt Element.u64 row = .ok (some offset)) :
    segment.stringAt position row = .ok (cell.content? encoding) := by
  have total := totalSize_lt stores small
  have limit : nanOffset < missingOffset := by decide
  simp only [stringAt, column_eq_ok_iff.2 found, bind, Except.bind, dynamic, Bool.not_true,
    Bool.false_eq_true, if_false, value]
  rcases stored.cases_of_small total with
    ⟨rfl, rfl⟩ | ⟨rfl, rfl⟩ | ⟨real, below, text, encodes, atText⟩
  · rfl
  · rfl
  · have string : isString offset = true := by
      simp only [isString, decide_eq_true_eq]
      omega
    simp only [string, Bool.not_true, Bool.false_eq_true, if_false, Cell.content?, encodes]
    cases held : segment.pool with
    | none =>
      rw [held, Option.getD_none] at stores
      rw [← stores.positions, find?_empty] at atText
      cases atText
    | some pool =>
      rw [held, Option.getD_some] at stores
      simp only [stores.view_eq atText (small pool held)]
      rfl

/-- The latest write of a column that led to no error. -/
def lastAccepted (past : List Attempt) (position : Nat) : Option Attempt :=
  past.find? fun attempt => attempt.write.column == position && attempt.outcome.isOk

/-- The cell that was last written to a row of a string column, with the encoding of the column.
The write reached its end. -/
inductive LastWrote (segment : Segment) (past : List Attempt) (position row : Nat) :
    StringEncoding → Cell → Prop
  | intro {column : Column} {attempt : Attempt} :
      segment.columns[position]? = some column → column.type.isDynamicString = true →
      row < column.rows → lastAccepted past position = some attempt →
      attempt.outcome = .ok none →
      LastWrote segment past position row attempt.write.encoding
        (attempt.write.tensor.rowCell (attempt.write.firstRow + row))

variable {schema : Schema} {past : List Attempt}

/-- A write of cells ends in no error once its column is in place. -/
theorem Reach.isOk_of_brokeOff (reach : Reach schema past segment) {attempt : Attempt}
    (member : attempt ∈ past)
    (objects : attempt.write.tensor.type.isDynamicString = true →
      attempt.write.tensor.holdsObjects = true)
    (brokeOff : attempt.brokeOff = true) : attempt.outcome.isOk = true := by
  induction reach with
  | start => cases member
  | @next past segment lock write reach ih =>
    rcases List.mem_cons.1 member with rfl | earlier
    · have step := write.write_step segment lock
      revert step brokeOff
      generalize (segment.write lock write).outcome = outcome,
        (segment.write lock write).segment = after
      intro brokeOff step
      cases step with
      | rejected clean =>
        rw [Attempt.brokeOff, clean] at brokeOff
        cases brokeOff
      | placed | pooled | stopped => rfl
      | emptied fits _ plain =>
        have held := objects (fits.tagged ▸ ColumnWrite.isDynamicString_of_poolsPlainData plain)
        simp [ColumnWrite.poolsPlainData, held] at plain
    · exact ih earlier

/-- As long as string types mean cells, the writes without an error are those that changed their
column. -/
theorem Reach.lastAccepted_eq (reach : Reach schema past segment)
    (objects : ∀ attempt ∈ past, attempt.write.tensor.type.isDynamicString = true →
      attempt.write.tensor.holdsObjects = true) (position : Nat) :
    lastAccepted past position = latest past position := by
  have same : ∀ attempt ∈ past, attempt.outcome.isOk = (attempt.completed || attempt.brokeOff) := by
    intro attempt member
    have ends := reach.isOk_of_brokeOff member (objects attempt member)
    obtain ⟨write, outcome⟩ := attempt
    cases outcome with
    | ok failure => cases failure <;> rfl
    | error e =>
      cases broke : Attempt.brokeOff ⟨write, .error e⟩ with
      | false => rfl
      | true => exact absurd (ends broke) Bool.false_ne_true
  unfold lastAccepted latest
  apply List.find?_congr
  intro attempt member
  rw [Attempt.reached, same attempt member]

/-- A row has the offset of the cell that was last written there, and reads as that cell. -/
theorem Reach.lastWrote (reach : Reach schema past segment)
    (objects : ∀ attempt ∈ past, attempt.write.tensor.type.isDynamicString = true →
      attempt.write.tensor.holdsObjects = true)
    (small : ∀ pool, segment.pool = some pool → pool.byteSize < nanOffset) :
    ∃ contents, totalSize contents < nanOffset ∧
      ∀ position row encoding cell, segment.LastWrote past position row encoding cell →
        ∃ offset, cell.StoredAs encoding contents offset ∧
          segment.offsetAt position row = .ok (some offset) ∧
          segment.stringAt position row = .ok (cell.content? encoding) := by
  obtain ⟨contents, holds⟩ := reach.holds
  have total := totalSize_lt holds.stores small
  refine ⟨contents, total, ?_⟩
  rintro position row _ _ ⟨found, dynamic, within, accepted, done⟩
  rw [reach.lastAccepted_eq objects] at accepted
  obtain ⟨column, atPosition, leaves⟩ :=
    holds.kept position _ accepted (by rw [Attempt.completed, done])
  cases Option.some.inj (found.symm.trans atPosition)
  obtain ⟨offset, stored, value⟩ := leaves.exists_offset dynamic total within
  refine ⟨offset, stored, ?_, stringAt_eq holds.stores small found dynamic stored value⟩
  rw [offsetAt, column_eq_ok_iff.2 found]
  exact value

/-- A row of a string column reads as the cell that was last written there, and as nothing if that
was missing or a NaN, whatever was written elsewhere since. Two rows have one offset exactly if
their cells stand for the same. -/
theorem Reach.strings (reach : Reach schema past segment)
    (objects : ∀ attempt ∈ past, attempt.write.tensor.type.isDynamicString = true →
      attempt.write.tensor.holdsObjects = true)
    (small : ∀ pool, segment.pool = some pool → pool.byteSize < nanOffset)
    {position row : Nat} {encoding : StringEncoding} {cell : Cell}
    (wrote : segment.LastWrote past position row encoding cell) :
    (segment.stringAt position row = .ok (cell.content? encoding) ∧
      (cell.content? encoding = none ↔ cell = .none ∨ cell = .nan)) ∧
    ∀ otherPosition otherRow other twin,
      segment.LastWrote past otherPosition otherRow other twin →
        ∃ offset twinOffset, segment.offsetAt position row = .ok (some offset) ∧
          segment.offsetAt otherPosition otherRow = .ok (some twinOffset) ∧
          (offset = twinOffset ↔ cell.SameAs encoding other twin) := by
  obtain ⟨contents, total, rows⟩ := reach.lastWrote objects small
  obtain ⟨offset, stored, atRow, read⟩ := rows _ _ _ _ wrote
  refine ⟨⟨read, stored.content?_eq_none_iff⟩, ?_⟩
  intro otherPosition otherRow other twin twinWrote
  obtain ⟨twinOffset, twinStored, atTwin, _⟩ := rows _ _ _ _ twinWrote
  exact ⟨offset, twinOffset, atRow, atTwin, stored.offset_eq_iff twinStored total⟩

/-- The write of a symbol, of a missing one, and of the first one again in the wide form. -/
def threeSymbols : ColumnWrite where
  column := 0
  type := .utf8Dynamic64
  tensor := .ofCells [.bytes [0x78], .none, .wide [0x78]]
  firstRow := 0
  rows := 3
  sparsify := false

def withSymbols : Segment :=
  ((ofSchema ⟨"ticks", .rowCount, [⟨"symbol", .utf8Dynamic64⟩]⟩).write .free threeSymbols).segment

theorem lastWrote_withSymbols {row : Nat} (within : row < 3) :
    withSymbols.LastWrote [⟨threeSymbols, .ok none⟩] 0 row .utf8
      (threeSymbols.tensor.rowCell (0 + row)) :=
  @LastWrote.intro withSymbols _ 0 row _ ⟨threeSymbols, .ok none⟩ rfl rfl within rfl rfl

theorem Reach.strings_withSymbols :
    (withSymbols.stringAt 0 0 = .ok (some [0x78]) ∧
      (Cell.content? .utf8 (.bytes [0x78]) = none ↔
        Cell.bytes [0x78] = .none ∨ Cell.bytes [0x78] = .nan)) ∧
    ∀ otherPosition otherRow other twin,
      withSymbols.LastWrote [⟨threeSymbols, .ok none⟩] otherPosition otherRow other twin →
        ∃ offset twinOffset, withSymbols.offsetAt 0 0 = .ok (some offset) ∧
          withSymbols.offsetAt otherPosition otherRow = .ok (some twinOffset) ∧
          (offset = twinOffset ↔ Cell.SameAs .utf8 other (.bytes [0x78]) twin) :=
  Reach.strings (.next .free threeSymbols .start)
    (by simp [threeSymbols, Tensor.holdsObjects, Tensor.ofCells]) (by rintro pool ⟨⟩; decide)
    (lastWrote_withSymbols (by decide : 0 < 3))

end Segment

end FrameIngest
