import Mathlib
import FrameIngest.Proofs.Segment.Reach
import FrameIngest.Proofs.Write.Outcome

namespace FrameIngest

/-- The same bytes, once in memory of the host and once in memory of the column. -/
inductive Storage.Moved : Storage → Storage → Prop
  | copied (bytes : List UInt8) : Moved (.external bytes) (.owned ⟨bytes⟩)
  | borrowed (bytes : List UInt8) : Moved (.owned ⟨bytes⟩) (.external bytes)

/-- Columns with the same content. Only the bytes of numbers and truth values without a bitmap may
be borrowed in one of them and copied in the other. -/
structure Column.ReadsAlike (column twin : Column) : Prop where
  type : twin.type = column.type
  width : twin.width = column.width
  rows : twin.rows = column.rows
  bytes : twin.bytes = column.bytes
  presence : twin.presence = column.presence
  storage : twin.storage = column.storage ∨
    column.type.element?.isSome = true ∧ column.presence = none ∧
      column.storage.Moved twin.storage

/-- Segments with the same content. -/
structure Segment.ReadsAlike (segment twin : Segment) : Prop where
  schema : twin.schema = segment.schema
  columns : List.Forall₂ Column.ReadsAlike segment.columns twin.columns
  pool : twin.pool = segment.pool
  rows : twin.rows = segment.rows

theorem Storage.Moved.symm {storage twin : Storage} (moved : storage.Moved twin) :
    twin.Moved storage := by
  cases moved with
  | copied bytes => exact .borrowed bytes
  | borrowed bytes => exact .copied bytes

theorem Storage.Moved.eq_of_moved {storage twin third : Storage} (moved : storage.Moved twin)
    (again : twin.Moved third) : third = storage := by
  cases moved <;> cases again <;> rfl

namespace Column.ReadsAlike

variable {column twin third : Column}

theorem refl (column : Column) : column.ReadsAlike column :=
  ⟨rfl, rfl, rfl, rfl, rfl, Or.inl rfl⟩

theorem symm (alike : column.ReadsAlike twin) : twin.ReadsAlike column := by
  refine ⟨alike.type.symm, alike.width.symm, alike.rows.symm, alike.bytes.symm,
    alike.presence.symm, ?_⟩
  rcases alike.storage with same | ⟨numbers, dense, moved⟩
  · exact Or.inl same.symm
  · exact Or.inr ⟨by rw [alike.type, numbers], by rw [alike.presence, dense], moved.symm⟩

theorem trans (alike : column.ReadsAlike twin) (next : twin.ReadsAlike third) :
    column.ReadsAlike third := by
  refine ⟨next.type.trans alike.type, next.width.trans alike.width, next.rows.trans alike.rows,
    next.bytes.trans alike.bytes, next.presence.trans alike.presence, ?_⟩
  rcases alike.storage with same | ⟨numbers, dense, moved⟩
  · rw [← same, ← alike.type, ← alike.presence]
    exact next.storage
  · rcases next.storage with same | ⟨_, _, again⟩
    · exact Or.inr ⟨numbers, dense, same.symm ▸ moved⟩
    · exact Or.inl (moved.eq_of_moved again)

end Column.ReadsAlike

namespace Segment.ReadsAlike

variable {segment twin : Segment}

theorem refl (segment : Segment) : segment.ReadsAlike segment :=
  ⟨rfl, List.forall₂_same.2 fun column _ => .refl column, rfl, rfl⟩

theorem column_at (alike : segment.ReadsAlike twin) {position : Nat} {column : Column}
    (found : segment.columns[position]? = some column) :
    ∃ other, twin.columns[position]? = some other ∧ column.ReadsAlike other :=
  exists_getElem?_of_forall₂ alike.columns found

theorem column_absent (alike : segment.ReadsAlike twin) {position : Nat}
    (absent : segment.columns[position]? = none) : twin.columns[position]? = none := by
  rw [List.getElem?_eq_none_iff] at absent ⊢
  rw [← alike.columns.length_eq]
  exact absent

theorem setColumn (alike : segment.ReadsAlike twin) (position : Nat) {column other : Column}
    (columns : column.ReadsAlike other) :
    (segment.setColumn position column).ReadsAlike (twin.setColumn position other) := by
  refine ⟨alike.schema, ?_, alike.pool, alike.rows⟩
  obtain ⟨length, each⟩ := List.forall₂_iff_get.1 alike.columns
  refine List.forall₂_iff_get.2 ⟨by simpa [Segment.setColumn] using length, ?_⟩
  intro index within bound
  simp only [Segment.setColumn, List.length_set, List.get_eq_getElem, List.getElem_set]
    at within bound ⊢
  split
  · exact columns
  · exact each index within bound

theorem withRows (alike : segment.ReadsAlike twin) (rows : Nat) :
    { segment with rows }.ReadsAlike { twin with rows } :=
  ⟨alike.schema, alike.columns, alike.pool, rfl⟩

theorem withPool (alike : segment.ReadsAlike twin) (pool : Option StringPool) :
    { segment with pool }.ReadsAlike { twin with pool } :=
  ⟨alike.schema, alike.columns, rfl, alike.rows⟩

end Segment.ReadsAlike

namespace ColumnWrite

/-- A write of rows that its tensor has, a tensor of one dimension with cells exactly under the
types of dynamic strings. -/
structure OfRows (write : ColumnWrite) : Prop where
  vector : write.tensor.rank = 1
  objects : write.tensor.holdsObjects = write.tensor.type.isDynamicString
  inside : write.firstRow + write.rows ≤ write.tensor.rows

theorem OfRows.cells_eq {write : ColumnWrite} {segment : Segment} {column : Column}
    (ofRows : write.OfRows) (fits : write.Fits segment column)
    (pooled : write.type.isDynamicString = true) :
    write.cells = .ok (write.rowCells.map .ok) :=
  cells_objects fits (by rw [ofRows.objects, fits.tagged, pooled])

/-- Writes that differ at most in how their rows lie in memory: in the strides and lengths of their
tensors, and in where the rows begin. -/
structure SameRows (write twin : ColumnWrite) : Prop where
  column : twin.column = write.column
  type : twin.type = write.type
  sparsify : twin.sparsify = write.sparsify
  rows : twin.rows = write.rows
  tag : twin.tensor.type = write.tensor.type
  width : twin.tensor.width = write.tensor.width
  ofRows : write.OfRows
  twinOfRows : twin.OfRows
  bytes : ∀ row < write.rows,
    twin.tensor.rowBytes (twin.firstRow + row) = write.tensor.rowBytes (write.firstRow + row)
  cells : ∀ row < write.rows,
    twin.tensor.rowCell (twin.firstRow + row) = write.tensor.rowCell (write.firstRow + row)

namespace SameRows

variable {write twin : ColumnWrite}

theorem objects (same : write.SameRows twin) :
    twin.tensor.holdsObjects = write.tensor.holdsObjects := by
  rw [same.ofRows.objects, same.twinOfRows.objects, same.tag]

theorem encoding (same : write.SameRows twin) : twin.encoding = write.encoding := by
  rw [ColumnWrite.encoding, ColumnWrite.encoding, same.type]

theorem rowValues (same : write.SameRows twin) : twin.rowValues = write.rowValues := by
  simp only [ColumnWrite.rowValues, List.range'_eq_map_range, List.map_map, same.rows]
  exact List.map_congr_left fun row member => same.bytes row (List.mem_range.1 member)

theorem rowCells (same : write.SameRows twin) : twin.rowCells = write.rowCells := by
  simp only [ColumnWrite.rowCells, List.range'_eq_map_range, List.map_map, same.rows]
  exact List.map_congr_left fun row member => same.cells row (List.mem_range.1 member)

theorem verdict (same : write.SameRows twin) : twin.verdict = write.verdict := by
  simp only [ColumnWrite.verdict, same.type, same.rows, same.width, same.tag, same.objects,
    same.encoding, same.rowCells]

variable {segment other : Segment} {column : Column}

/-- The checks before a write look at nothing that depends on the layout. -/
theorem check (same : write.SameRows twin) (alike : segment.ReadsAlike other) :
    twin.check other = write.check segment := by
  cases found : segment.columns[write.column]? with
  | none =>
    have absent := alike.column_absent found
    rw [check_eq_error found, check_eq_error (by rw [same.column]; exact absent), same.column,
      alike.columns.length_eq]
  | some column =>
    obtain ⟨stored, atTwin, columns⟩ := alike.column_at found
    rw [check_eq found, check_eq (by rw [same.column]; exact atTwin)]
    simp only [columns.type, same.type, same.tag, same.column, same.ofRows.vector,
      same.twinOfRows.vector, same.objects, same.sparsify, same.rows, alike.rows,
      Tensor.checkRows_eq_ok_iff.2 same.ofRows.inside,
      same.rows ▸ Tensor.checkRows_eq_ok_iff.2 same.twinOfRows.inside, Segment.checkRows]

theorem fits (same : write.SameRows twin) (alike : segment.ReadsAlike other)
    (fits : write.Fits segment column) :
    ∃ stored, column.ReadsAlike stored ∧ twin.Fits other stored := by
  obtain ⟨stored, atTwin, columns⟩ := alike.column_at fits.found
  refine ⟨stored, columns, by rw [same.column, atTwin], ?_, ?_, same.twinOfRows.vector, ?_, ?_,
    same.twinOfRows.inside⟩
  · rw [columns.type, fits.stored, same.type]
  · rw [same.tag, fits.tagged, same.type]
  · rw [same.objects, same.type]
    exact fits.objects
  · rw [same.sparsify, same.type]
    exact fits.sparse

theorem agrees (same : write.SameRows twin) (alike : segment.ReadsAlike other)
    (agrees : write.Agrees segment) : twin.Agrees other := by
  unfold Agrees at agrees ⊢
  rw [same.rows, alike.rows]
  exact agrees

end SameRows

variable {write twin : ColumnWrite} {segment other : Segment} {column stored written : Column}

/-- The column that a write of values of one width puts in place, with bytes of its own. -/
def image (write : ColumnWrite) (column : Column) : Column :=
  match write.type.element? with
  | some element =>
    if write.sparsify then
      column.keepSparse ⟨(write.rowValues.filter (keeps element)).flatten⟩
        (write.rowValues.map (keeps element))
    else column.keep ⟨write.rowValues.flatten⟩ write.rows
  | none =>
    if write.type.isFixedString then
      column.keepRecords write.tensor.width ⟨write.rowValues.flatten⟩ write.rows
    else column.setRows write.rows

/-- Whether numbers are packed decides no more than where their bytes are. -/
theorem Places.alike_image (places : write.Places column written)
    (typed : column.type = write.type) : (write.image column).ReadsAlike written := by
  unfold image
  cases places with
  | borrowed elements dense =>
    rw [elements, dense]
    have numbers : column.type.element?.isSome = true := by rw [typed, elements]; rfl
    exact ⟨rfl, rfl, rfl, rfl, rfl, Or.inr ⟨numbers, rfl, .borrowed _⟩⟩
  | copied elements dense =>
    rw [elements, dense]
    exact .refl _
  | sparse elements asked =>
    rw [elements, asked]
    exact .refl _
  | records fixed =>
    rw [DataType.element?_eq_none_iff.2 (.inl fixed), fixed]
    exact .refl _
  | counted empty =>
    have unfixed : write.type.isFixedString = false := by
      simp [DataType.isFixedString, DataType.isEmpty_iff.1 empty]
    rw [DataType.element?_eq_none_iff.2 (.inr (.inr empty)), unfixed]
    exact .refl _

theorem SameRows.image (same : write.SameRows twin) (columns : column.ReadsAlike stored) :
    (write.image column).ReadsAlike (twin.image stored) := by
  unfold ColumnWrite.image
  rw [same.type, same.sparsify, same.rows, same.width, same.rowValues]
  cases write.type.element? with
  | some element =>
    cases write.sparsify
    · exact ⟨columns.type, columns.width, rfl, rfl, rfl, Or.inl rfl⟩
    · exact ⟨columns.type, columns.width, rfl, rfl, rfl, Or.inl rfl⟩
  | none =>
    cases write.type.isFixedString
    · exact ⟨columns.type, columns.width, rfl, rfl, rfl, Or.inl rfl⟩
    · exact ⟨columns.type, rfl, rfl, rfl, rfl, Or.inl rfl⟩

theorem SameRows.places {placed : Column} (same : write.SameRows twin)
    (columns : column.ReadsAlike stored) (typed : column.type = write.type)
    (places : write.Places column written) (twinPlaces : twin.Places stored placed) :
    written.ReadsAlike placed := by
  have twinTyped : stored.type = twin.type := by rw [columns.type, typed, same.type]
  exact ((places.alike_image typed).symm.trans (same.image columns)).trans
    (twinPlaces.alike_image twinTyped)

theorem SameRows.pooling (same : write.SameRows twin) (alike : segment.ReadsAlike other)
    (lock held : DecodeLock) :
    (twin.pooling other held).offsets = (write.pooling segment lock).offsets ∧
      (twin.pooling other held).pool = (write.pooling segment lock).pool := by
  unfold ColumnWrite.pooling
  rw [same.encoding, same.rowCells, alike.pool, poolCells_of_lock _ _ _ lock held]
  exact ⟨rfl, rfl⟩

theorem SameRows.pooledInto (same : write.SameRows twin) (alike : segment.ReadsAlike other)
    (columns : column.ReadsAlike stored) (offsets : List Nat) (pool : StringPool) :
    (write.pooledInto segment column offsets pool).ReadsAlike
      (twin.pooledInto other stored offsets pool) := by
  have written : (write.offsetColumn column offsets).ReadsAlike
      (twin.offsetColumn stored offsets) := by
    unfold offsetColumn
    rw [same.rows]
    exact ⟨columns.type, rfl, rfl, rfl, rfl, Or.inl rfl⟩
  unfold ColumnWrite.pooledInto
  rw [same.column]
  exact (alike.setColumn write.column written).withPool (some pool)

theorem SameRows.place_numbers {element : Element} (same : write.SameRows twin)
    (alike : segment.ReadsAlike other) (columns : column.ReadsAlike stored)
    (fits : write.Fits segment column) (twinFits : twin.Fits other stored)
    (elements : write.type.element? = some element) (lock held : DecodeLock) :
    (write.place segment lock (write.numbers element column)).segment.ReadsAlike
      (twin.place other held (twin.numbers element stored)).segment := by
  have twinElements : twin.type.element? = some element := by rw [same.type, elements]
  rcases numbers_cases fits elements with ⟨written, places, kept⟩ | ⟨misfit, failed⟩
  · rcases numbers_cases twinFits twinElements with ⟨placed, twinPlaces, twinKept⟩ | ⟨misfit, _⟩
    · rw [kept, twinKept]
      have put := same.places columns fits.stored places twinPlaces
      simp only [place, same.column]
      exact alike.setColumn write.column put
    · rw [same.rows, same.width] at misfit
      exact absurd (places.width_fits elements misfit.1) misfit.2
  · rcases numbers_cases twinFits twinElements with ⟨placed, twinPlaces, _⟩ | ⟨_, twinFailed⟩
    · rw [← same.rows, ← same.width] at misfit
      exact absurd (twinPlaces.width_fits twinElements misfit.1) misfit.2
    · rw [failed, twinFailed]
      exact alike

theorem SameRows.place_written {placed : Column} (same : write.SameRows twin)
    (alike : segment.ReadsAlike other) (columns : written.ReadsAlike placed)
    (lock held : DecodeLock) :
    (write.place segment lock (.ok written)).segment.ReadsAlike
      (twin.place other held (.ok placed)).segment := by
  simp only [place, same.column]
  exact alike.setColumn write.column columns

/-- Past the checks, what a write does to a segment does not depend on the layout. -/
theorem SameRows.dispatch (same : write.SameRows twin) (alike : segment.ReadsAlike other)
    (columns : column.ReadsAlike stored) (fits : write.Fits segment column)
    (twinFits : twin.Fits other stored) (lock held : DecodeLock) :
    (write.dispatch segment lock column).segment.ReadsAlike
        (twin.dispatch other held stored).segment := by
  cases layout : write.type.layout with
  | numeric tag =>
    have elements := DataType.element?_of_numeric layout
    rw [dispatch_numbers elements, dispatch_numbers (by rw [same.type, elements])]
    exact same.place_numbers alike columns fits twinFits elements lock held
  | bool =>
    have elements := DataType.element?_of_bool layout
    rw [dispatch_numbers elements, dispatch_numbers (by rw [same.type, elements])]
    exact same.place_numbers alike columns fits twinFits elements lock held
  | fixedString =>
    have pooled : write.type.isDynamicString = false := by simp [DataType.isDynamicString, layout]
    have twinLayout : twin.type.layout = .fixedString := by rw [same.type, layout]
    rw [ColumnWrite.dispatch, layout, ColumnWrite.dispatch, twinLayout, records_eq fits pooled,
      records_eq twinFits (by rw [same.type, pooled])]
    exact same.place_written alike (same.places columns fits.stored
      (.records (DataType.isFixedString_iff.2 layout))
      (.records (DataType.isFixedString_iff.2 twinLayout))) lock held
  | dynamicString =>
    have pooled := DataType.isDynamicString_iff.2 layout
    have twinPooled : twin.type.isDynamicString = true := by rw [same.type, pooled]
    rw [dispatch_strings pooled, dispatch_strings twinPooled,
      strings_eq (same.ofRows.cells_eq fits pooled),
      strings_eq (same.twinOfRows.cells_eq twinFits twinPooled)]
    obtain ⟨offsets, pool⟩ := same.pooling alike lock held
    simp only [offsets, pool]
    exact same.pooledInto alike columns _ _
  | empty =>
    have twinLayout : twin.type.layout = .empty := by rw [same.type, layout]
    rw [ColumnWrite.dispatch, layout, ColumnWrite.dispatch, twinLayout]
    exact same.place_written alike (same.places columns fits.stored
      (.counted (DataType.isEmpty_iff.2 layout)) (.counted (DataType.isEmpty_iff.2 twinLayout)))
      lock held

/-- Only strings need the lock, and they need it as often in one layout as in the other. -/
theorem SameRows.dispatch_lock (same : write.SameRows twin) (alike : segment.ReadsAlike other)
    (fits : write.Fits segment column) (twinFits : twin.Fits other stored) (lock : DecodeLock) :
    (twin.dispatch other lock stored).lock = (write.dispatch segment lock column).lock := by
  cases pooled : write.type.isDynamicString with
  | true =>
    have twinPooled : twin.type.isDynamicString = true := by rw [same.type, pooled]
    rw [dispatch_strings pooled, dispatch_strings twinPooled]
    simp only [strings_eq (same.ofRows.cells_eq fits pooled),
      strings_eq (same.twinOfRows.cells_eq twinFits twinPooled), ColumnWrite.pooling,
      same.encoding, same.rowCells, alike.pool]
  | false =>
    have twinPooled : twin.type.isDynamicString = false := by rw [same.type, pooled]
    obtain ⟨_, placed⟩ := exists_dispatch_eq_place pooled column
    obtain ⟨_, twinPlaced⟩ := exists_dispatch_eq_place twinPooled stored
    rw [placed, twinPlaced, place_lock, place_lock]

end ColumnWrite

namespace Segment

variable {write twin : ColumnWrite} {segment other : Segment}

/-- Writes of the same rows into segments that read alike report the same and leave segments that
read alike, whoever holds the lock. -/
theorem ReadsAlike.step (alike : segment.ReadsAlike other) (same : write.SameRows twin)
    (lock held : DecodeLock) :
    (other.write held twin).outcome = (segment.write lock write).outcome ∧
      (segment.write lock write).segment.ReadsAlike (other.write held twin).segment := by
  have checks := same.check alike
  cases checked : write.check segment with
  | error e =>
    rw [checked] at checks
    rw [ColumnWrite.write_outcome_of_check checked, ColumnWrite.write_outcome_of_check checks]
    exact ⟨rfl, alike⟩
  | ok =>
    obtain ⟨column, fits, agrees⟩ := ColumnWrite.check_eq_ok_iff.1 checked
    obtain ⟨stored, columns, twinFits⟩ := same.fits alike fits
    have twinAgrees := same.agrees alike agrees
    rw [ColumnWrite.write_outcome fits agrees, ColumnWrite.write_outcome twinFits twinAgrees,
      (ColumnWrite.write_parts fits agrees lock).2,
      (ColumnWrite.write_parts twinFits twinAgrees held).2, same.verdict, same.rows]
    have written := same.dispatch alike columns fits twinFits lock held
    refine ⟨rfl, ?_⟩
    rw [written.rows]
    exact written.withRows _

theorem ReadsAlike.step_lock (alike : segment.ReadsAlike other) (same : write.SameRows twin)
    (lock : DecodeLock) : (other.write lock twin).lock = (segment.write lock write).lock := by
  have checks := same.check alike
  cases checked : write.check segment with
  | error e =>
    rw [checked] at checks
    rw [ColumnWrite.write_outcome_of_check checked, ColumnWrite.write_outcome_of_check checks]
  | ok =>
    obtain ⟨column, fits, agrees⟩ := ColumnWrite.check_eq_ok_iff.1 checked
    obtain ⟨stored, columns, twinFits⟩ := same.fits alike fits
    rw [(ColumnWrite.write_parts fits agrees lock).1,
      (ColumnWrite.write_parts twinFits (same.agrees alike agrees) lock).1]
    exact same.dispatch_lock alike fits twinFits lock

/-- Two sequences of writes of the same rows report the same all along and leave segments that read
alike. -/
theorem Reach.alike {schema : Schema} {past twins : List Attempt}
    (reach : Reach schema past segment) (twinReach : Reach schema twins other)
    (same : List.Forall₂ (fun attempt twin => attempt.write.SameRows twin.write) past twins) :
    List.Forall₂ (fun attempt twin => twin.outcome = attempt.outcome) past twins ∧
      segment.ReadsAlike other := by
  induction reach generalizing twins other with
  | start =>
    cases same
    cases twinReach
    exact ⟨.nil, .refl _⟩
  | next lock write reach ih =>
    cases same with
    | cons first rest =>
      cases twinReach with
      | next held twin twinReach =>
        obtain ⟨outcomes, alike⟩ := ih twinReach rest
        obtain ⟨outcome, after⟩ := alike.step first lock held
        exact ⟨.cons outcome outcomes, after⟩

/-- The outcome of a write, how often it takes the lock, and the content that it leaves do not
depend on how its rows lie in memory. -/
theorem write_layout (segment : Segment) (lock : DecodeLock) (same : write.SameRows twin) :
    (segment.write lock twin).outcome = (segment.write lock write).outcome ∧
      (segment.write lock twin).lock = (segment.write lock write).lock ∧
      (segment.write lock write).segment.ReadsAlike (segment.write lock twin).segment := by
  obtain ⟨outcome, after⟩ := (ReadsAlike.refl segment).step same lock lock
  exact ⟨outcome, (ReadsAlike.refl segment).step_lock same lock, after⟩

/-- Three symbols side by side, the second of which is not UTF-8. -/
def packedSymbols : ColumnWrite where
  column := 0
  type := .utf8Dynamic64
  tensor := .ofCells [.wide [0xe9], .bytes [0xff], .none]
  firstRow := 0
  rows := 3
  sparsify := false

/-- The same symbols in every other cell, from the second row on. -/
def steppedSymbols : ColumnWrite where
  column := 0
  type := .utf8Dynamic64
  tensor := {
    memory := .objects #[.nan, .nan, .wide [0xe9], .nan, .bytes [0xff], .nan, .none]
    type := .utf8Dynamic64
    width := cellWidth
    dimensions := [⟨4, 2 * cellWidth⟩]
    dimensions_ne_nil := by simp }
  firstRow := 1
  rows := 3
  sparsify := false

/-- A segment of one column of symbols. -/
def symbols : Segment :=
  .ofSchema ⟨"ticks", .rowCount, [⟨"symbol", .utf8Dynamic64⟩]⟩

theorem packedSymbols_sameRows : packedSymbols.SameRows steppedSymbols where
  column := rfl
  type := rfl
  sparsify := rfl
  rows := rfl
  tag := rfl
  width := rfl
  ofRows := ⟨rfl, by decide, by decide⟩
  twinOfRows := ⟨rfl, by decide, by decide⟩
  bytes := by decide
  cells := by decide

theorem write_layout_symbols :
    packedSymbols.SameRows steppedSymbols ∧
    (symbols.write .free steppedSymbols).outcome = .ok (some ⟨1, .invalidUtf8 ⟨0, some 1⟩⟩) ∧
    (symbols.write .free steppedSymbols).lock = ⟨false, 1⟩ ∧
    (symbols.write .free packedSymbols).segment.ReadsAlike
      (symbols.write .free steppedSymbols).segment := by
  obtain ⟨outcome, lock, alike⟩ := write_layout symbols .free packedSymbols_sameRows
  exact ⟨packedSymbols_sameRows, outcome.trans rfl, lock.trans rfl, alike⟩

end Segment

end FrameIngest
