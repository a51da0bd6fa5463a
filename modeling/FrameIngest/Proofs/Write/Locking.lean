import Mathlib
import FrameIngest.Proofs.Write.Outcome

namespace FrameIngest

/-- The items up to the first that fails, and that one too. -/
def throughFirst {α : Type} (fails : α → Bool) : List α → List α
  | [] => []
  | item :: items => item :: if fails item then [] else throughFirst fails items

theorem mem_of_mem_throughFirst {α : Type} {fails : α → Bool} {items : List α} {item : α}
    (met : item ∈ throughFirst fails items) : item ∈ items := by
  induction items with
  | nil => cases met
  | cons first items ih =>
    rcases List.mem_cons.1 met with rfl | later
    · exact List.mem_cons_self
    · split at later
      · cases later
      · exact List.mem_cons_of_mem first (ih later)

/-- Whether a cell has no encoding. -/
def Cell.fails (encoding : StringEncoding) (cell : Cell) : Bool :=
  !(cell.encode encoding).isOk

theorem Cell.needsLock_ascii (cell : Cell) : cell.needsLock .ascii = false := by
  cases cell <;> rfl

theorem any_needsLock_ascii (cells : List Cell) : cells.any (Cell.needsLock .ascii) = false :=
  List.any_eq_false.2 fun cell _ => Bool.not_eq_true _ ▸ cell.needsLock_ascii

namespace ColumnWrite

/-- A write that passes its checks if its column is there, has the type that the write says, and
agrees with it in length. -/
def Suits (write : ColumnWrite) : Prop :=
  write.tensor.type = write.type ∧ write.tensor.rank = 1 ∧
    (write.tensor.holdsObjects = true → write.type.isDynamicString = true) ∧
    (write.sparsify = true → write.type.isFloat = true) ∧
    write.firstRow + write.rows ≤ write.tensor.rows

instance (write : ColumnWrite) : Decidable write.Suits :=
  inferInstanceAs (Decidable (_ ∧ _))

/-- Whether a write reaches its end. -/
def succeeds (write : ColumnWrite) : Bool :=
  decide write.Suits && write.verdict matches .ok none

/-- Whether a UTF-8 column has a wide cell outside ASCII among the rows to write, at or before the
first of them that cannot be encoded. -/
def meetsWide (write : ColumnWrite) : Bool :=
  write.type = .utf8Dynamic64 &&
    (throughFirst (Cell.fails .utf8) write.rowCells).any (Cell.needsLock .utf8)

/-- Whether a write takes the lock. -/
def takesLock (write : ColumnWrite) : Bool :=
  decide write.Suits && write.meetsWide

/-- The lock is held from the first cell on that needs it. -/
theorem poolCells_lock_eq (encoding : StringEncoding) (cells : List Cell) (pool : StringPool)
    (lock : DecodeLock) :
    (poolCells encoding (cells.map .ok) pool lock).lock =
      if (throughFirst (Cell.fails encoding) cells).any (Cell.needsLock encoding) then lock.hold
      else lock := by
  induction cells generalizing pool lock with
  | nil => rfl
  | cons cell cells ih =>
    rw [List.map_cons, poolCells_cons, throughFirst, List.any_cons, Cell.fails]
    cases cell.encode encoding with
    | error reason => simp [Except.isOk, Except.toBool]
    | ok encoded =>
      have rest := ih (stored pool encoded).2
        (if cell.needsLock encoding then lock.hold else lock)
      refine Eq.trans rest ?_
      cases cell.needsLock encoding <;> simp [Except.isOk, Except.toBool]

section Write

variable {write : ColumnWrite} {segment : Segment} {column : Column}

theorem strings_of_lock (lock held : DecodeLock) :
    (write.strings segment held column).outcome = (write.strings segment lock column).outcome ∧
      (write.strings segment held column).segment =
        (write.strings segment lock column).segment := by
  unfold strings
  cases write.cells with
  | error e => exact ⟨rfl, rfl⟩
  | ok cells =>
    simp only
    rw [poolCells_of_lock write.encoding cells _ lock held]
    exact ⟨rfl, rfl⟩

theorem place_of_lock (lock held : DecodeLock) (written : Except IngestError Column) :
    (write.place segment held written).outcome = (write.place segment lock written).outcome ∧
      (write.place segment held written).segment =
        (write.place segment lock written).segment := by
  cases written <;> exact ⟨rfl, rfl⟩

theorem dispatch_of_lock (lock held : DecodeLock) :
    (write.dispatch segment held column).outcome = (write.dispatch segment lock column).outcome ∧
      (write.dispatch segment held column).segment =
        (write.dispatch segment lock column).segment := by
  cases pooled : write.type.isDynamicString with
  | true =>
    rw [dispatch_strings pooled, dispatch_strings pooled]
    exact strings_of_lock lock held
  | false =>
    obtain ⟨written, placed⟩ := exists_dispatch_eq_place pooled column
    rw [placed, placed]
    exact place_of_lock lock held written

/-- Whoever has the lock, a write reports the same and leaves the same. -/
theorem write_of_lock (write : ColumnWrite) (segment : Segment) (lock held : DecodeLock) :
    (segment.write held write).outcome = (segment.write lock write).outcome ∧
      (segment.write held write).segment = (segment.write lock write).segment := by
  cases checked : write.check segment with
  | error e =>
    rw [write_outcome_of_check checked, write_outcome_of_check checked]
    exact ⟨rfl, rfl⟩
  | ok =>
    obtain ⟨column, fits, agrees⟩ := check_eq_ok_iff.1 checked
    have same := @dispatch_of_lock write segment column lock held
    refine ⟨?_, ?_⟩
    · rw [write_outcome fits agrees, write_outcome fits agrees]
    · rw [(write_parts fits agrees held).2, (write_parts fits agrees lock).2, same.2]

theorem suits_iff_fits (found : segment.columns[write.column]? = some column)
    (stored : column.type = write.type) : write.Suits ↔ write.Fits segment column := by
  constructor
  · rintro ⟨tagged, vector, objects, sparse, inside⟩
    exact ⟨found, stored, tagged, vector, objects, sparse, inside⟩
  · intro fits
    exact ⟨fits.tagged, fits.vector, fits.objects, fits.sparse, fits.inside⟩

theorem exists_error_of_not_suits (found : segment.columns[write.column]? = some column)
    (stored : column.type = write.type) (misfit : ¬write.Suits) (lock : DecodeLock) :
    ∃ e, segment.write lock write = ⟨.error e, segment, lock⟩ := by
  cases checked : write.check segment with
  | error e => exact ⟨e, write_outcome_of_check checked⟩
  | ok =>
    obtain ⟨other, fits, _⟩ := check_eq_ok_iff.1 checked
    cases Option.some.inj (found.symm.trans fits.found)
    exact absurd ((suits_iff_fits found stored).2 fits) misfit

/-- Which writes of a column reach their end. -/
theorem write_outcome_eq_ok_none_iff (found : segment.columns[write.column]? = some column)
    (stored : column.type = write.type) (agrees : write.Agrees segment) (lock : DecodeLock) :
    (segment.write lock write).outcome = .ok none ↔ write.succeeds = true := by
  unfold succeeds
  by_cases suits : write.Suits
  · rw [write_outcome ((suits_iff_fits found stored).1 suits) agrees, decide_eq_true suits,
      Bool.true_and]
    cases write.verdict with
    | error e => simp
    | ok failure => cases failure <;> simp
  · obtain ⟨e, failed⟩ := exists_error_of_not_suits found stored suits lock
    rw [failed, decide_eq_false suits, Bool.false_and]
    simp

/-- Plain data has no cells that need the lock. -/
theorem meetsWide_of_plain (plain : write.tensor.holdsObjects = false) :
    write.meetsWide = false := by
  obtain ⟨bytes, held⟩ := Tensor.exists_bytes plain
  have easy : ∀ cell ∈ write.rowCells, ¬cell.needsLock .utf8 = true := by
    intro cell member
    obtain ⟨row, _, rfl⟩ := List.mem_map.1 member
    simp [Tensor.rowCell, held, Cell.needsLock]
  unfold meetsWide
  rw [List.any_eq_false.2 fun cell met => easy cell (mem_of_mem_throughFirst met), Bool.and_false]

theorem meetsWide_of_not_pooled (pooled : write.type.isDynamicString = false) :
    write.meetsWide = false := by
  have other : write.type ≠ .utf8Dynamic64 := by
    intro utf8
    rw [utf8] at pooled
    cases pooled
  rw [meetsWide, decide_eq_false other, Bool.false_and]

theorem encoding_eq_utf8 (utf8 : write.type = .utf8Dynamic64) : write.encoding = .utf8 := by
  rw [ColumnWrite.encoding, utf8]
  rfl

theorem encoding_eq_ascii (pooled : write.type.isDynamicString = true)
    (other : write.type ≠ .utf8Dynamic64) : write.encoding = .ascii := by
  unfold ColumnWrite.encoding
  cases typed : write.type <;> simp_all [DataType.isDynamicString, DataType.layout,
    DataType.isUtf8]

/-- In an ASCII column no cell needs the lock. -/
theorem meetsWide_eq (pooled : write.type.isDynamicString = true) : write.meetsWide =
    (throughFirst (Cell.fails write.encoding) write.rowCells).any
      (Cell.needsLock write.encoding) := by
  by_cases utf8 : write.type = .utf8Dynamic64
  · rw [meetsWide, decide_eq_true utf8, Bool.true_and, encoding_eq_utf8 utf8]
  · rw [meetsWide, decide_eq_false utf8, Bool.false_and, encoding_eq_ascii pooled utf8,
      any_needsLock_ascii]

theorem strings_lock_of_plain (fits : write.Fits segment column)
    (pooled : write.type.isDynamicString = true) (plain : write.tensor.holdsObjects = false)
    (some_rows : write.rows ≠ 0) (taken : Nat) :
    (write.strings segment ⟨false, taken⟩ column).lock = ⟨false, taken⟩ := by
  have read := cells_plain fits pooled plain some_rows
  split at read
  · obtain ⟨rest, read⟩ := read
    rw [strings, read]
    rfl
  · rw [strings, read]

theorem dispatch_lock (fits : write.Fits segment column) (taken : Nat) :
    (write.dispatch segment ⟨false, taken⟩ column).lock =
      ⟨false, taken + write.meetsWide.toNat⟩ := by
  cases pooled : write.type.isDynamicString with
  | false =>
    obtain ⟨written, placed⟩ := exists_dispatch_eq_place pooled column
    rw [meetsWide_of_not_pooled pooled, Bool.toNat_false, Nat.add_zero, placed]
    exact place_lock ..
  | true =>
    rw [dispatch_strings pooled]
    by_cases readable : write.tensor.holdsObjects = true ∨ write.rows = 0
    · rw [strings_eq (cells_eq fits readable), pooling, poolCells_lock_eq, meetsWide_eq pooled]
      cases (throughFirst (Cell.fails write.encoding) write.rowCells).any
        (Cell.needsLock write.encoding) <;> rfl
    · obtain ⟨objects, some_rows⟩ := not_or.1 readable
      have plain : write.tensor.holdsObjects = false := by simpa using objects
      rw [strings_lock_of_plain fits pooled plain some_rows, meetsWide_of_plain plain]
      rfl

/-- A write takes a free lock at most once, and gives it back. -/
theorem write_lock_eq (found : segment.columns[write.column]? = some column)
    (stored : column.type = write.type) (agrees : write.Agrees segment) (taken : Nat) :
    (segment.write ⟨false, taken⟩ write).lock = ⟨false, taken + write.takesLock.toNat⟩ := by
  unfold takesLock
  by_cases suits : write.Suits
  · have fits := (suits_iff_fits found stored).1 suits
    rw [(write_parts fits agrees _).1, dispatch_lock fits, decide_eq_true suits, Bool.true_and]
  · obtain ⟨e, failed⟩ := exists_error_of_not_suits found stored suits ⟨false, taken⟩
    rw [failed, decide_eq_false suits, Bool.false_and]
    rfl

theorem takesLock_of_sparsify (asked : write.sparsify = true) : write.takesLock = false := by
  unfold takesLock
  by_cases suits : write.Suits
  · have float := suits.2.2.2.1 asked
    have other : write.type ≠ .utf8Dynamic64 := by
      intro utf8
      rw [utf8] at float
      cases float
    rw [meetsWide, decide_eq_false other, Bool.false_and, Bool.and_false]
  · rw [decide_eq_false suits, Bool.false_and]

end Write

/-- How often the lock is taken by writes of which the first that fails is the last. -/
def acquisitions (writes : List ColumnWrite) : Nat :=
  (throughFirst (fun write => !write.succeeds) writes).countP takesLock

theorem acquisitions_cons (write : ColumnWrite) (writes : List ColumnWrite) :
    acquisitions (write :: writes) =
      write.takesLock.toNat + if write.succeeds then acquisitions writes else 0 := by
  rw [acquisitions, throughFirst, List.countP_cons]
  cases write.succeeds <;> cases write.takesLock <;> simp [acquisitions, Nat.add_comm]

theorem acquisitions_of_sparsify {writes : List ColumnWrite}
    (asked : ∀ write ∈ writes, write.sparsify = true) : acquisitions writes = 0 := by
  refine List.countP_eq_zero.2 fun write met => ?_
  rw [takesLock_of_sparsify (asked write (mem_of_mem_throughFirst met))]
  exact Bool.false_ne_true

end ColumnWrite

end FrameIngest
