import Mathlib
import FrameIngest.Proofs.Cell
import FrameIngest.Proofs.StringPool.Growth
import FrameIngest.Proofs.Write.Check

namespace FrameIngest

open StringPool

namespace StringPool

/-- The strings of a pool after those of some cells were asked for. -/
def extendBy (encoding : StringEncoding) (contents : List (List UInt8)) (cells : List Cell) :
    List (List UInt8) :=
  (cells.filterMap (Cell.content? encoding)).foldl extend contents

theorem extendBy_cons (encoding : StringEncoding) (contents : List (List UInt8)) (cell : Cell)
    (cells : List Cell) : extendBy encoding contents (cell :: cells) =
      extendBy encoding (extendBy encoding contents [cell]) cells := by
  simp only [extendBy, List.filterMap_cons, List.filterMap_nil]
  cases cell.content? encoding <;> rfl

theorem exists_extendBy (encoding : StringEncoding) (contents : List (List UInt8))
    (cells : List Cell) : ∃ added, extendBy encoding contents cells = contents ++ added :=
  ⟨_, foldl_extend ..⟩

end StringPool

namespace ColumnWrite

/-- How a pooling comes from its cells: the strings of the cells that have an offset are in the
pool, and it ends with the cells or at the first that cannot be encoded. -/
structure Pooling.Reflects (pooling : Pooling) (encoding : StringEncoding)
    (contents : List (List UInt8)) (cells : List Cell) : Prop where
  stores : pooling.pool.Stores
    (extendBy encoding contents (cells.take pooling.offsets.length))
  offsets : List.Forall₂
    (Cell.StoredAs encoding (extendBy encoding contents (cells.take pooling.offsets.length)))
    (cells.take pooling.offsets.length) pooling.offsets
  ending : pooling.ending = .ok none ∧ pooling.offsets.length = cells.length ∨
    ∃ cell reason, pooling.ending = .ok (some reason) ∧
      cells[pooling.offsets.length]? = some cell ∧ cell.encode encoding = .error reason

/-- The offset that is stored for a cell, and the pool with its content. -/
def stored (pool : StringPool) : EncodedCell → Nat × StringPool
  | .sentinel offset => (offset, pool)
  | .content text => ((pool.intern text).1.offset, (pool.intern text).2)

/-- A cell is stored before the cells behind it, or ends the pooling. -/
theorem poolCells_cons (encoding : StringEncoding) (cell : Cell)
    (cells : List (Except IngestError Cell)) (pool : StringPool) (lock : DecodeLock) :
    poolCells encoding (.ok cell :: cells) pool lock =
      match cell.encode encoding with
      | .error reason =>
        ⟨[], pool, if cell.needsLock encoding then lock.hold else lock, .ok (some reason)⟩
      | .ok encoded =>
        (poolCells encoding cells (stored pool encoded).2
          (if cell.needsLock encoding then lock.hold else lock)).after (stored pool encoded).1 := by
  rw [poolCells]
  cases cell.encode encoding with
  | error reason => rfl
  | ok encoded => cases encoded <;> rfl

/-- The lock decides nothing about a pooling but the lock that is left. -/
theorem poolCells_of_lock (encoding : StringEncoding) (cells : List (Except IngestError Cell))
    (pool : StringPool) (lock held : DecodeLock) :
    poolCells encoding cells pool held =
      { poolCells encoding cells pool lock with
        lock := (poolCells encoding cells pool held).lock } := by
  induction cells generalizing pool lock held with
  | nil => rfl
  | cons first cells ih =>
    cases first with
    | error e => rfl
    | ok cell =>
      rw [poolCells_cons, poolCells_cons]
      cases cell.encode encoding with
      | error reason => rfl
      | ok encoded =>
        simp only
        rw [ih (stored pool encoded).2 (if cell.needsLock encoding then lock.hold else lock)]
        rfl

/-- Cells that are there lead to no error. -/
theorem exists_ending (encoding : StringEncoding) (cells : List Cell) (pool : StringPool)
    (lock : DecodeLock) :
    ∃ failure, (poolCells encoding (cells.map .ok) pool lock).ending = .ok failure := by
  induction cells generalizing pool lock with
  | nil => exact ⟨none, rfl⟩
  | cons cell cells ih =>
    rw [List.map_cons, poolCells_cons]
    cases cell.encode encoding with
    | error reason => exact ⟨some reason, rfl⟩
    | ok encoded => exact ih (stored pool encoded).2 _

theorem Pooling.Reflects.after {pooling : Pooling} {encoding : StringEncoding}
    {contents : List (List UInt8)} {cell : Cell} {cells : List Cell} {encoded : EncodedCell}
    {offset : Nat} (encodes : cell.encode encoding = .ok encoded)
    (found : encoded.offsetIn (extendBy encoding contents [cell]) = some offset)
    (reflects : pooling.Reflects encoding (extendBy encoding contents [cell]) cells) :
    (pooling.after offset).Reflects encoding contents (cell :: cells) := by
  obtain ⟨stores, offsets, ending⟩ := reflects
  have count : (pooling.after offset).offsets.length = pooling.offsets.length + 1 := rfl
  refine ⟨?_, ?_, ?_⟩
  · rw [count, List.take_succ_cons, extendBy_cons]
    exact stores
  · rw [count, List.take_succ_cons, extendBy_cons]
    refine List.Forall₂.cons ?_ offsets
    obtain ⟨added, same⟩ := exists_extendBy encoding (extendBy encoding contents [cell])
      (cells.take pooling.offsets.length)
    rw [same]
    exact ⟨encoded, encodes, encoded.offsetIn_append found added⟩
  · rw [count]
    rcases ending with ⟨ended, whole⟩ | ⟨stopped, reason, ended, atStop, fails⟩
    · exact Or.inl ⟨ended, by rw [whole, List.length_cons]⟩
    · exact Or.inr ⟨stopped, reason, ended, by rwa [List.getElem?_cons_succ], fails⟩

theorem poolCells_reflects {pool : StringPool} {contents : List (List UInt8)}
    (stores : pool.Stores contents) (encoding : StringEncoding) (cells : List Cell)
    (lock : DecodeLock) :
    (poolCells encoding (cells.map .ok) pool lock).Reflects encoding contents cells := by
  induction cells generalizing pool contents lock with
  | nil =>
    refine ⟨?_, ?_, Or.inl ⟨rfl, rfl⟩⟩
    · simpa [poolCells, extendBy] using stores
    · simp [poolCells]
  | cons cell cells ih =>
    rw [List.map_cons, poolCells_cons]
    cases encodes : cell.encode encoding with
    | error reason =>
      refine ⟨?_, ?_, Or.inr ⟨cell, reason, rfl, rfl, encodes⟩⟩
      · simpa [extendBy] using stores
      · simp
    | ok encoded =>
      cases encoded with
      | sentinel offset =>
        have same : extendBy encoding contents [cell] = contents := by
          simp [extendBy, Cell.content?, encodes]
        refine .after encodes rfl ?_
        rw [same]
        exact ih stores _
      | content text =>
        have same : extendBy encoding contents [cell] = extend contents text := by
          simp [extendBy, Cell.content?, encodes]
        obtain ⟨extended, found⟩ := stores.intern text
        refine .after encodes ?_ ?_ <;> rw [same]
        · exact found
        · exact ih extended _

/-- A pooling that ends with its cells has an offset for each of them. -/
theorem Pooling.Reflects.whole {pooling : Pooling} {encoding : StringEncoding}
    {contents : List (List UInt8)} {cells : List Cell}
    (reflects : pooling.Reflects encoding contents cells) (ended : pooling.ending = .ok none) :
    pooling.offsets.length = cells.length := by
  rcases reflects.ending with ⟨_, whole⟩ | ⟨_, reason, stopped, _⟩
  · exact whole
  · rw [ended] at stopped
    cases stopped

variable {write : ColumnWrite} {segment : Segment} {column : Column}

/-- The cell of each row to write. -/
def rowCells (write : ColumnWrite) : List Cell :=
  (List.range' write.firstRow write.rows).map write.tensor.rowCell

@[simp] theorem length_rowCells (write : ColumnWrite) : write.rowCells.length = write.rows := by
  rw [rowCells, List.length_map, List.length_range']

theorem getElem?_rowCells {row : Nat} (within : row < write.rows) :
    write.rowCells[row]? = some (write.tensor.rowCell (write.firstRow + row)) := by
  rw [rowCells, List.getElem?_map, List.getElem?_range' within, Nat.one_mul]
  rfl

/-- Whether plain data is found only when the column is in place already: under a string type,
packed, and with rows to read. -/
def poolsPlainData (write : ColumnWrite) : Bool :=
  write.type.isDynamicString && !write.tensor.holdsObjects &&
    write.tensor.isPacked write.tensor.width && write.rows != 0

theorem rowOffsets_eq (write : ColumnWrite) :
    write.rowOffsets =
      (List.range' write.firstRow write.rows).map (· * write.tensor.rowStride) := by
  rw [rowOffsets, List.range'_eq_map_range, List.map_map]
  rfl

theorem cells_objects (fits : write.Fits segment column)
    (objects : write.tensor.holdsObjects = true) : write.cells = .ok (write.rowCells.map .ok) := by
  unfold ColumnWrite.cells
  split
  · have each : write.rowOffsets.map write.tensor.cellAt = write.rowCells.map .ok := by
      rw [rowOffsets_eq, rowCells, List.map_map, List.map_map]
      apply List.map_congr_left
      intro row member
      have within := List.mem_range'_1.1 member
      have inside := fits.inside
      exact Tensor.cellAt_eq fits.vector (by omega) objects
    rw [each]
    rfl
  · rw [Tensor.flattenCells_eq fits.vector fits.inside objects]
    rfl

theorem cells_nil (fits : write.Fits segment column) (nothing : write.rows = 0) :
    write.cells = .ok [] := by
  unfold ColumnWrite.cells
  split
  · rw [rowOffsets_eq, nothing]
    rfl
  · have inside := Tensor.checkRows_eq_ok_iff.2 fits.inside
    rw [nothing] at inside
    simp only [Tensor.flattenCells, nothing, inside, Nat.zero_mul, if_true]
    rfl

/-- Plain data is found at once if its rows are strided, and at the first cell if not. -/
theorem cells_plain (fits : write.Fits segment column) (pooled : write.type.isDynamicString = true)
    (plain : write.tensor.holdsObjects = false) (some_rows : write.rows ≠ 0) :
    if write.poolsPlainData then
      ∃ rest, write.cells = .ok (.error (.unsupportedType (.plainCells write.tensor.type)) :: rest)
    else write.cells = .error (.unsupportedType (.plainCells write.tensor.type)) := by
  have several : (write.rows != 0) = true := by simpa using some_rows
  unfold poolsPlainData ColumnWrite.cells
  cases packed : write.tensor.isPacked write.tensor.width with
  | true =>
    obtain ⟨count, same⟩ := Nat.exists_eq_succ_of_ne_zero some_rows
    simp only [pooled, plain, several, Bool.not_false, Bool.and_self, if_true]
    rw [rowOffsets_eq, same, Nat.succ_eq_add_one, List.range'_succ, List.map_cons, List.map_cons,
      Tensor.cellAt_plain plain]
    exact ⟨_, rfl⟩
  | false =>
    simp only [pooled, plain, several, Bool.not_false, Bool.and_true, Bool.and_false,
      Bool.false_eq_true, if_false]
    rw [Tensor.flattenCells_plain fits.vector fits.inside some_rows plain]
    rfl

end ColumnWrite

end FrameIngest
