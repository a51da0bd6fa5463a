import Mathlib
import FrameIngest.Proofs.Write.Locking

namespace FrameIngest

theorem DecodeLock.hold_of_held {lock : DecodeLock} (held : lock.held = true) : lock.hold = lock :=
  if_pos held

/-- A wide cell with a code point outside ASCII. -/
def Cell.IsBeyondAscii (cell : Cell) : Prop :=
  ∃ codePoints, cell = .wide codePoints ∧ ∃ codePoint ∈ codePoints, 0x80 ≤ codePoint

theorem Cell.needsLock_utf8_iff {cell : Cell} :
    cell.needsLock .utf8 = true ↔ cell.IsBeyondAscii := by
  cases cell with
  | wide codePoints => simp [needsLock, IsBeyondAscii, isAscii]
  | _ => simp [needsLock, IsBeyondAscii]

theorem Cell.fails_eq_false_iff {encoding : StringEncoding} {cell : Cell} :
    cell.fails encoding = false ↔ ∃ encoded, cell.encode encoding = .ok encoded := by
  unfold fails
  cases cell.encode encoding <;> simp [Except.isOk, Except.toBool]

theorem any_throughFirst_iff {α : Type} {fails asked : α → Bool} {items : List α} :
    (throughFirst fails items).any asked = true ↔
      ∃ (place : Nat) (item : α), items[place]? = some item ∧ asked item = true ∧
        ∀ earlier < place, ∀ other, items[earlier]? = some other → fails other = false := by
  induction items with
  | nil => simp [throughFirst]
  | cons first items ih =>
    rw [throughFirst, List.any_cons, Bool.or_eq_true]
    constructor
    · rintro (here | later)
      · exact ⟨0, first, rfl, here, fun earlier below => absurd below (Nat.not_lt_zero earlier)⟩
      · cases failed : fails first with
        | true =>
          rw [failed] at later
          cases later
        | false =>
          rw [failed] at later
          obtain ⟨place, item, found, asks, before⟩ := ih.1 later
          refine ⟨place + 1, item, found, asks, fun earlier below other atOther => ?_⟩
          cases earlier with
          | zero =>
            cases atOther
            exact failed
          | succ earlier => exact before earlier (Nat.lt_of_succ_lt_succ below) other atOther
    · rintro ⟨place, item, found, asks, before⟩
      cases place with
      | zero =>
        cases found
        exact Or.inl asks
      | succ place =>
        have passed := before 0 (Nat.succ_pos place) first rfl
        rw [passed]
        exact Or.inr (ih.2 ⟨place, item, found, asks, fun earlier below other atOther =>
          before (earlier + 1) (Nat.succ_lt_succ below) other atOther⟩)

namespace ColumnWrite

/-- Before the first cell. -/
def Pooling.start (pool : StringPool) (lock : DecodeLock) : Pooling :=
  ⟨[], pool, lock, .ok none⟩

/-- A pooling after one more cell, unless it has come to its end. -/
def Pooling.next (encoding : StringEncoding) (pooling : Pooling) (cell : Cell) : Pooling :=
  match pooling.ending with
  | .ok none =>
    let lock := if cell.needsLock encoding then pooling.lock.hold else pooling.lock
    match cell.encode encoding with
    | .error reason => { pooling with lock, ending := .ok (some reason) }
    | .ok encoded =>
      { pooling with
        offsets := pooling.offsets ++ [(stored pooling.pool encoded).1]
        pool := (stored pooling.pool encoded).2
        lock }
  | _ => pooling

theorem Pooling.foldl_next_of_stopped {encoding : StringEncoding} {pooling : Pooling}
    {reason : EncodingFailure} (stopped : pooling.ending = .ok (some reason)) (cells : List Cell) :
    cells.foldl (Pooling.next encoding) pooling = pooling := by
  induction cells with
  | nil => rfl
  | cons cell cells ih =>
    have kept : pooling.next encoding cell = pooling := by rw [next, stopped]
    rw [List.foldl_cons, kept, ih]

/-- Pooling cells is to take them one after the other. -/
theorem foldl_next_eq (encoding : StringEncoding) (cells : List Cell) (pool : StringPool)
    (lock : DecodeLock) (offsets : List Nat) :
    cells.foldl (Pooling.next encoding) ⟨offsets, pool, lock, .ok none⟩ =
      { poolCells encoding (cells.map .ok) pool lock with
        offsets := offsets ++ (poolCells encoding (cells.map .ok) pool lock).offsets } := by
  induction cells generalizing pool lock offsets with
  | nil => simp [poolCells]
  | cons cell cells ih =>
    rw [List.foldl_cons, List.map_cons, poolCells_cons, Pooling.next]
    simp only
    cases encodes : cell.encode encoding with
    | error reason =>
      rw [Pooling.foldl_next_of_stopped rfl, List.append_nil]
    | ok encoded =>
      rw [ih]
      simp [Pooling.after]

/-- A lock that is held stays as it is. -/
theorem Pooling.next_lock_of_held {encoding : StringEncoding} {pooling : Pooling}
    (held : pooling.lock.held = true) (cell : Cell) :
    (pooling.next encoding cell).lock = pooling.lock := by
  have kept : (if cell.needsLock encoding then pooling.lock.hold else pooling.lock) =
      pooling.lock := by
    rw [DecodeLock.hold_of_held held, ite_self]
  unfold next
  split
  · simp only [kept]
    split <;> rfl
  · rfl

theorem Pooling.foldl_next_lock_of_held {encoding : StringEncoding} {pooling : Pooling}
    (held : pooling.lock.held = true) (cells : List Cell) :
    (cells.foldl (Pooling.next encoding) pooling).lock = pooling.lock := by
  induction cells generalizing pooling with
  | nil => rfl
  | cons cell cells ih =>
    have same := @next_lock_of_held encoding pooling held cell
    rw [List.foldl_cons, ih (same ▸ held), same]

/-- How far a write is after some of its cells. -/
def progress (write : ColumnWrite) (segment : Segment) (lock : DecodeLock) (count : Nat) :
    Pooling :=
  (write.rowCells.take count).foldl (Pooling.next write.encoding)
    (.start (segment.pool.getD .empty) lock)

/-- Whether one of the first cells of a write is a wide one outside ASCII that stands at or before
the first that has no UTF-8 form. -/
def DecodesIn (write : ColumnWrite) (count : Nat) : Prop :=
  ∃ row < count, (write.tensor.rowCell (write.firstRow + row)).IsBeyondAscii ∧
    ∀ earlier < row, ∃ encoded,
      (write.tensor.rowCell (write.firstRow + earlier)).encode .utf8 = .ok encoded

/-- Whether a write passes its checks and comes to a cell of a UTF-8 column that must be decoded. -/
def Decodes (write : ColumnWrite) (segment : Segment) : Prop :=
  write.check segment = .ok () ∧ write.type = .utf8Dynamic64 ∧
    write.tensor.holdsObjects = true ∧ write.DecodesIn write.rows

variable {write : ColumnWrite} {segment : Segment}

theorem progress_eq_poolCells (write : ColumnWrite) (segment : Segment) (lock : DecodeLock)
    (count : Nat) : write.progress segment lock count =
      poolCells write.encoding ((write.rowCells.take count).map .ok) (segment.pool.getD .empty)
        lock :=
  foldl_next_eq ..

theorem take_rowCells (write : ColumnWrite) : write.rowCells.take write.rows = write.rowCells :=
  List.take_of_length_le (length_rowCells write).le

/-- A write is through with its cells when it has come to the last of its rows. -/
theorem progress_rows (write : ColumnWrite) (segment : Segment) (lock : DecodeLock) :
    write.progress segment lock write.rows = write.pooling segment lock := by
  rw [progress_eq_poolCells, take_rowCells, pooling]

/-- Once the lock is held it stays as it is. -/
theorem progress_lock_of_held {lock : DecodeLock} {count later : Nat} (onward : count ≤ later)
    (held : (write.progress segment lock count).lock.held = true) :
    (write.progress segment lock later).lock = (write.progress segment lock count).lock := by
  have split : write.rowCells.take later =
      write.rowCells.take count ++ (write.rowCells.take later).drop count := by
    rw [← Nat.min_eq_left onward, ← List.take_take, Nat.min_eq_left onward, List.take_append_drop]
  rw [progress, split, List.foldl_append]
  exact Pooling.foldl_next_lock_of_held held _

theorem any_throughFirst_take_iff {count : Nat} (inside : count ≤ write.rows) :
    (throughFirst (Cell.fails .utf8) (write.rowCells.take count)).any (Cell.needsLock .utf8) =
      true ↔ write.DecodesIn count := by
  have atRow {row : Nat} (within : row < count) : (write.rowCells.take count)[row]? =
      some (write.tensor.rowCell (write.firstRow + row)) := by
    rw [List.getElem?_take_of_lt within, getElem?_rowCells (by omega)]
  rw [any_throughFirst_iff]
  constructor
  · rintro ⟨row, cell, found, asks, before⟩
    have within : row < count := by
      have bound := (List.getElem?_eq_some_iff.1 found).1
      rw [List.length_take] at bound
      omega
    cases Option.some.inj ((atRow within).symm.trans found)
    refine ⟨row, within, Cell.needsLock_utf8_iff.1 asks, fun earlier below => ?_⟩
    exact Cell.fails_eq_false_iff.1 (before earlier below _ (atRow (by omega)))
  · rintro ⟨row, within, beyond, before⟩
    refine ⟨row, _, atRow within, Cell.needsLock_utf8_iff.2 beyond, ?_⟩
    intro earlier below other atOther
    cases Option.some.inj ((atRow (by omega)).symm.trans atOther)
    exact Cell.fails_eq_false_iff.2 (before earlier below)

/-- Plain data has no wide cells. -/
theorem DecodesIn.objects {count : Nat} (decodes : write.DecodesIn count) :
    write.tensor.holdsObjects = true := by
  obtain ⟨row, _, ⟨codePoints, wide, _⟩, _⟩ := decodes
  unfold Tensor.holdsObjects
  unfold Tensor.rowCell at wide
  cases held : write.tensor.memory with
  | plain bytes =>
    rw [held] at wide
    cases wide
  | objects cells => rfl

theorem meetsWide_iff :
    write.meetsWide = true ↔ write.type = .utf8Dynamic64 ∧ write.DecodesIn write.rows := by
  rw [meetsWide, Bool.and_eq_true, decide_eq_true_eq,
    ← any_throughFirst_take_iff (Nat.le_refl write.rows), take_rowCells]

/-- The lock is held from the first cell on that has to be decoded. -/
theorem progress_lock_eq (pooled : write.type.isDynamicString = true) {taken count : Nat}
    (inside : count ≤ write.rows) :
    (write.type = .utf8Dynamic64 ∧ write.DecodesIn count →
      (write.progress segment ⟨false, taken⟩ count).lock = ⟨true, taken + 1⟩) ∧
    (¬(write.type = .utf8Dynamic64 ∧ write.DecodesIn count) →
      (write.progress segment ⟨false, taken⟩ count).lock = ⟨false, taken⟩) := by
  rw [progress_eq_poolCells, poolCells_lock_eq]
  by_cases utf8 : write.type = .utf8Dynamic64
  · rw [encoding_eq_utf8 utf8]
    refine ⟨fun decodes => ?_, fun easy => ?_⟩
    · rw [if_pos ((any_throughFirst_take_iff inside).2 decodes.2)]
      rfl
    · exact if_neg fun asked => easy ⟨utf8, (any_throughFirst_take_iff inside).1 asked⟩
  · refine ⟨fun decodes => absurd decodes.1 utf8, fun _ => if_neg ?_⟩
    rw [encoding_eq_ascii pooled utf8, any_needsLock_ascii]
    exact Bool.false_ne_true

theorem progress_lock_held_iff (pooled : write.type.isDynamicString = true) {taken count : Nat}
    (inside : count ≤ write.rows) :
    (write.progress segment ⟨false, taken⟩ count).lock.held = true ↔
      write.type = .utf8Dynamic64 ∧ write.DecodesIn count := by
  obtain ⟨holds, leaves⟩ := @progress_lock_eq write segment pooled taken count inside
  refine ⟨fun held => ?_, fun decodes => by rw [holds decodes]⟩
  by_contra easy
  rw [leaves easy] at held
  cases held

/-- A write that finds the lock free takes it once if it comes to a cell that has to be decoded, and
not at all otherwise, and gives it back. From the cell on for which it is taken, it is held to the
last. -/
theorem write_takes_lock_once (write : ColumnWrite) (segment : Segment) (taken : Nat) :
    (write.Decodes segment → (segment.write ⟨false, taken⟩ write).lock = ⟨false, taken + 1⟩) ∧
    (¬write.Decodes segment → (segment.write ⟨false, taken⟩ write).lock = ⟨false, taken⟩) ∧
    (write.check segment = .ok () → write.type.isDynamicString = true →
      write.tensor.holdsObjects = true →
      (segment.write ⟨false, taken⟩ write).lock =
        (write.progress segment ⟨false, taken⟩ write.rows).lock.release ∧
      ∀ count ≤ write.rows,
        ((write.progress segment ⟨false, taken⟩ count).lock.held = true ↔
          write.type = .utf8Dynamic64 ∧ write.DecodesIn count) ∧
        ((write.progress segment ⟨false, taken⟩ count).lock.held = true →
          ∀ later, count ≤ later →
            (write.progress segment ⟨false, taken⟩ later).lock = ⟨true, taken + 1⟩)) := by
  cases checked : write.check segment with
  | error e =>
    have failed : segment.write ⟨false, taken⟩ write = ⟨.error e, segment, ⟨false, taken⟩⟩ :=
      write_outcome_of_check checked
    refine ⟨fun decodes => ?_, fun _ => by rw [failed], nofun⟩
    rw [Decodes, checked] at decodes
    cases decodes.1
  | ok =>
    obtain ⟨column, fits, agrees⟩ := check_eq_ok_iff.1 checked
    have ends : (segment.write ⟨false, taken⟩ write).lock =
        ⟨false, taken + write.meetsWide.toNat⟩ := by
      rw [(write_parts fits agrees _).1, dispatch_lock fits]
    refine ⟨fun decodes => ?_, fun easy => ?_, fun _ pooled objects => ⟨?_, ?_⟩⟩
    · rw [ends, meetsWide_iff.2 ⟨decodes.2.1, decodes.2.2.2⟩]
      rfl
    · have none : write.meetsWide = false := by
        rw [← Bool.not_eq_true, meetsWide_iff]
        rintro ⟨utf8, decodes⟩
        exact easy ⟨checked, utf8, decodes.objects, decodes⟩
      rw [ends, none]
      rfl
    · rw [progress_rows]
      exact write_lock_strings fits agrees pooled (Or.inl objects) _
    · intro count inside
      have decodes := @progress_lock_held_iff write segment pooled taken count inside
      refine ⟨decodes, fun held later onward => ?_⟩
      rw [progress_lock_of_held onward held, (progress_lock_eq pooled inside).1 (decodes.1 held)]

/-- Four venues. The second is the first that has to be decoded, and the third is no text. -/
def surrogateVenues : ColumnWrite where
  column := 0
  type := .utf8Dynamic64
  tensor := .ofCells [.bytes [0x78], .wide [0xe9], .wide [0xd800], .wide [0xfc]]
  firstRow := 0
  rows := 4
  sparsify := false

def unwrittenVenues : Segment :=
  .ofSchema ⟨"venues", .rowCount, [⟨"venue", .utf8Dynamic64⟩]⟩

theorem write_takes_lock_once_surrogateVenues :
    surrogateVenues.Decodes unwrittenVenues ∧
    (unwrittenVenues.write ⟨false, 5⟩ surrogateVenues).lock = ⟨false, 6⟩ ∧
    (surrogateVenues.progress unwrittenVenues ⟨false, 5⟩ 1).lock.held ≠ true ∧
    (surrogateVenues.progress unwrittenVenues ⟨false, 5⟩ 2).lock.held = true ∧
    (surrogateVenues.progress unwrittenVenues ⟨false, 5⟩ 4).lock = ⟨true, 6⟩ := by
  obtain ⟨taken, _, course⟩ := write_takes_lock_once surrogateVenues unwrittenVenues 5
  have passed : surrogateVenues.check unwrittenVenues = .ok () := rfl
  have decodesIn {count : Nat} (second : 1 < count) : surrogateVenues.DecodesIn count := by
    refine ⟨1, second, ⟨[0xe9], rfl, 0xe9, List.mem_singleton_self _, by decide⟩, ?_⟩
    intro earlier below
    obtain rfl := Nat.lt_one_iff.1 below
    exact ⟨.content [0x78], rfl⟩
  have decodes : surrogateVenues.Decodes unwrittenVenues :=
    ⟨passed, rfl, rfl, decodesIn (by decide)⟩
  obtain ⟨_, held⟩ := course passed rfl rfl
  have second := (held 2 (by decide)).1.2 ⟨rfl, decodesIn (by decide)⟩
  have last := (held 2 (by decide)).2 second 4 (by decide)
  refine ⟨decodes, taken decodes, fun first => ?_, second, last⟩
  obtain ⟨row, within, ⟨codePoints, wide, _⟩, _⟩ := ((held 1 (by decide)).1.1 first).2
  obtain rfl := Nat.lt_one_iff.1 within
  cases wide

end ColumnWrite

end FrameIngest
