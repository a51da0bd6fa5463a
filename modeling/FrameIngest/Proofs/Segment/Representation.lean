import Mathlib
import FrameIngest.Proofs.Column.WellKept
import FrameIngest.Proofs.Segment.Reach

namespace FrameIngest

namespace Segment

/-- A segment with well kept columns, and with a pool if a column of pooled strings has storage. -/
structure WellKept (segment : Segment) : Prop where
  columns : ∀ column ∈ segment.columns, column.WellKept
  pooled : ∀ column ∈ segment.columns, column.type.isDynamicString = true →
    column.isAllocated = true → segment.pool.isSome = true

theorem ofSchema_wellKept (schema : Schema) : (ofSchema schema).WellKept := by
  have fresh : ∀ column ∈ (ofSchema schema).columns, ∃ type, column = Column.ofType type := by
    intro column member
    obtain ⟨field, _, rfl⟩ := List.mem_map.1 member
    exact ⟨field.type, rfl⟩
  constructor
  · intro column member
    obtain ⟨type, rfl⟩ := fresh column member
    exact Column.ofType_wellKept type
  · intro column member _ allocated
    obtain ⟨type, rfl⟩ := fresh column member
    cases allocated

variable {segment after : Segment} {column : Column} {write : ColumnWrite}

/-- A write that pools cells creates the pool, so that only its own column has to be looked at. -/
theorem WellKept.pooledInto (kept : segment.WellKept) (fits : write.Fits segment column)
    (pooled : write.type.isDynamicString = true) {offsets : List Nat}
    (bound : offsets.length ≤ write.rows) (pool : StringPool) :
    (write.pooledInto segment column offsets pool).WellKept := by
  refine ⟨fun other member => ?_, fun _ _ _ _ => rfl⟩
  rcases List.mem_or_eq_of_mem_set member with old | rfl
  · exact kept.columns other old
  · exact ColumnWrite.offsetColumn_wellKept fits.stored pooled bound

theorem WellKept.withRows (kept : segment.WellKept) (rows : Nat) :
    { segment with rows }.WellKept :=
  ⟨kept.columns, kept.pooled⟩

theorem WellKept.step {outcome : Except IngestError (Option EncodingError)}
    (kept : segment.WellKept) (step : write.Step segment outcome after) : after.WellKept := by
  have bound (lock : DecodeLock) : (write.pooling segment lock).offsets.length ≤ write.rows :=
    (ColumnWrite.length_offsets_le ..).trans_eq (ColumnWrite.length_rowCells write)
  cases step with
  | rejected => exact kept
  | @placed column written fits agrees pooled places =>
    refine WellKept.withRows ⟨fun other member => ?_, fun other member dynamic allocated => ?_⟩ _
    · rcases List.mem_or_eq_of_mem_set member with old | rfl
      · exact kept.columns other old
      · exact places.wellKept fits pooled (kept.columns _ (List.mem_of_getElem? fits.found)).width
    · rcases List.mem_or_eq_of_mem_set member with old | rfl
      · exact kept.pooled other old dynamic allocated
      · rw [places.type_eq, fits.stored, pooled] at dynamic
        cases dynamic
  | pooled fits agrees pooled ended =>
    exact (kept.pooledInto fits pooled (bound _) _).withRows _
  | stopped fits agrees pooled ended => exact kept.pooledInto fits pooled (bound _) _
  | emptied fits agrees plain =>
    exact kept.pooledInto fits (ColumnWrite.isDynamicString_of_poolsPlainData plain)
      (Nat.zero_le _) _

variable {schema : Schema} {past : List Attempt}

theorem Reach.wellKept (reach : Reach schema past segment) : segment.WellKept := by
  induction reach with
  | start => exact ofSchema_wellKept schema
  | next lock write reach ih => exact ih.step (write.write_step _ lock)

end Segment

theorem StringPool.view_error {pool : StringPool} {offset : Nat} {e : IngestError}
    (failed : pool.view offset = .error e) : e.kind = .outOfBounds := by
  unfold view at failed
  split at failed
  · cases failed
    rfl
  · split at failed
    · cases failed
    · cases failed
      rfl

namespace Column

variable {column : Column} {element : PlainType} {row : Nat}

theorem inside_of_valueAt {value : Option Nat} (read : column.valueAt element row = .ok value) :
    row < column.rows := by
  by_contra outside
  simp only [valueAt, checkRow, outside, if_false, bind, Except.bind, reduceCtorEq] at read

/-- Without a bitmap no row is absent. -/
theorem valueAt_ne_none (dense : column.presence = none) :
    column.valueAt element row ≠ .ok none := by
  intro read
  simp only [valueAt, indexOf, dense, bind, Except.bind, pure, Except.pure] at read
  split at read
  · cases read
  · split at read
    · cases read
    · split at read
      · cases read
      · split at read <;> cases read

end Column

theorem Segment.WellKept.stringAt_error {segment : Segment} (kept : segment.WellKept)
    {position row : Nat} {e : IngestError} (failed : segment.stringAt position row = .error e) :
    e.kind ≠ .internal := by
  unfold stringAt at failed
  cases found : segment.columns[position]? with
  | none =>
    simp only [Segment.column, found, bind, Except.bind, Except.error.injEq] at failed
    rw [← failed]
    rintro ⟨⟩
  | some column =>
    have member := List.mem_of_getElem? found
    have columnKept := kept.columns column member
    simp only [column_eq_ok_iff.2 found, bind, Except.bind] at failed
    split at failed
    · cases failed
      rintro ⟨⟩
    · rename_i pooled
      have dynamic : column.type.isDynamicString = true := by simpa using pooled
      have layout := DataType.isDynamicString_iff.1 dynamic
      cases read : column.valueAt Element.u64 row with
      | error cause =>
        simp only [read, Except.error.injEq] at failed
        rcases columnKept.valueAt_error read with same | same <;>
        · rw [← failed, same]
          rintro ⟨⟩
      | ok value =>
        cases value with
        | none =>
          have dense := columnKept.presence_eq_none (by simp [DataType.isFloat, layout])
          exact absurd read (Column.valueAt_ne_none dense)
        | some offset =>
          simp only [read] at failed
          split at failed
          · cases failed
          · cases pool : segment.pool with
            | none =>
              -- A column with a row has storage, so the pool was created with it.
              have inside := Column.inside_of_valueAt read
              have allocated : column.isAllocated = true := by
                by_contra bare
                have nothing := columnKept.unallocated (by simpa using bare)
                  (by simp [DataType.isEmpty, layout])
                omega
              have created := kept.pooled column member dynamic allocated
              rw [pool] at created
              cases created
            | some pool' =>
              simp only [pool] at failed
              cases viewed : pool'.view offset with
              | error cause =>
                rw [viewed] at failed
                cases failed
                rw [StringPool.view_error viewed]
                rintro ⟨⟩
              | ok content =>
                rw [viewed] at failed
                cases failed

namespace ColumnWrite

variable {write : ColumnWrite} {segment : Segment} {column : Column} {lock : DecodeLock}
  {e : IngestError}

/-- The bytes that a write hands to its column, borrowed, copied or without those that are missing,
are as many as its rows need. -/
structure HandsOver (write : ColumnWrite) (column : Column) (element : Element) : Prop where
  borrowed : ∀ bytes, write.tensor.isPacked element.width = true →
    write.tensor.contiguousBytes write.firstRow write.rows = .ok bytes →
    bytes.length = write.rows * column.width
  copied : ∀ bytes, write.tensor.flatten element write.firstRow write.rows = .ok bytes →
    bytes.length = write.rows * column.width
  sparse : ∀ values, write.tensor.elements element write.firstRow write.rows = .ok values →
    (values.filter (keeps element)).flatten.length =
      (values.map (keeps element)).count true * column.width

theorem handsOver {element : Element} (fits : write.Fits segment column)
    (elements : write.type.element? = some element) (width : column.HasWidth) :
    write.HandsOver column element := by
  have plain := fits.plain (DataType.isDynamicString_of_element? elements)
  have known : column.width = element.width :=
    width _ (fits.stored ▸ DataType.fixedWidth?_of_element? elements)
  have read := elements_cases fits elements
  refine ⟨fun bytes packed borrowed => ?_, fun bytes copied => ?_, fun values listed => ?_⟩
  · obtain ⟨same, _⟩ := (Tensor.isPacked_iff fits.vector).1 packed
    rw [Tensor.contiguousBytes_eq fits.vector fits.inside plain (same ▸ packed)] at borrowed
    cases borrowed
    rw [known, same]
    exact length_rowValues_flatten plain
  · rcases read with ⟨same, read⟩ | ⟨_, failed⟩
    · rw [Tensor.flatten, read] at copied
      cases copied
      exact (length_rowValues_flatten plain).trans (rows_mul_width_eq same known)
    · rw [Tensor.flatten, failed] at copied
      cases copied
  · rcases read with ⟨same, read⟩ | ⟨_, failed⟩
    · rw [read] at listed
      cases listed
      rw [length_filter_rowValues_flatten plain]
      by_cases nothing : write.rows = 0
      · have none_listed : write.rowValues = [] :=
          List.length_eq_zero_iff.1 ((length_rowValues write).trans nothing)
        simp [none_listed]
      · rw [known, same nothing]
    · rw [failed] at listed
      cases listed

theorem check_error (failed : write.check segment = .error e) : e.kind ≠ .internal := by
  cases found : segment.columns[write.column]? with
  | none =>
    rw [check_eq_error found] at failed
    cases failed
    rintro ⟨⟩
  | some column =>
    rw [check_eq found] at failed
    unfold Tensor.checkRows Segment.checkRows at failed
    split_ifs at failed <;> cases failed <;> rintro ⟨⟩

theorem verdict_error (failed : write.verdict = .error e) : e.kind ≠ .internal := by
  unfold verdict at failed
  split at failed <;> split_ifs at failed <;> cases failed <;> rintro ⟨⟩

/-- No write meets what a correct program never reaches. -/
theorem write_error (failed : (segment.write lock write).outcome = .error e) :
    e.kind ≠ .internal := by
  cases checked : write.check segment with
  | error cause =>
    rw [write_outcome_of_check checked] at failed
    cases failed
    exact check_error checked
  | ok =>
    obtain ⟨column, fits, agrees⟩ := check_eq_ok_iff.1 checked
    rw [write_outcome fits agrees] at failed
    exact verdict_error failed

end ColumnWrite

namespace Segment

/-- In every state each column keeps the bytes of its rows in the way that its type allows, and a
column of strings with storage has a pool. So every row is found where it is looked for, writes hand
over as many bytes as their rows need, and neither a read nor a write ends in an internal error. -/
theorem Reach.kept_and_readable {schema : Schema} {past : List Attempt} {segment : Segment}
    (reach : Reach schema past segment) :
    (∀ column ∈ segment.columns, column.WellKept ∧
      (column.type.isDynamicString = true → column.isAllocated = true →
        column.width = stringOffsetWidth ∧ column.presence = none ∧ segment.pool.isSome = true)) ∧
    (∀ column ∈ segment.columns, ∀ row,
      (∀ (element : PlainType) e, column.valueAt element row = .error e → e.kind ≠ .internal) ∧
      (∀ element : PlainType, row < column.rows → element.width = column.width →
        ∃ value, column.valueAt element row = .ok value) ∧
      (∀ e, column.recordAt row = .error e → e.kind ≠ .internal) ∧
      (column.type.isFixedString = true → row < column.rows →
        row * column.width + column.width ≤ column.bytes.length)) ∧
    (∀ position row e, segment.stringAt position row = .error e → e.kind ≠ .internal) ∧
    (∀ (write : ColumnWrite) (column : Column) (element : Element), write.Fits segment column →
      write.type.element? = some element → write.HandsOver column element) ∧
    ∀ (lock : DecodeLock) (write : ColumnWrite) (e : IngestError),
      (segment.write lock write).outcome = .error e → e.kind ≠ .internal := by
  have kept := reach.wellKept
  refine ⟨fun column member => ?_, fun column member row => ?_, fun position row e => ?_, ?_, ?_⟩
  · have columnKept := kept.columns column member
    refine ⟨columnKept, fun dynamic allocated => ⟨?_, ?_, ?_⟩⟩
    · refine columnKept.width stringOffsetWidth ?_
      rw [DataType.fixedWidth?, DataType.isDynamicString_iff.1 dynamic]
    · refine columnKept.presence_eq_none ?_
      simp [DataType.isFloat, DataType.isDynamicString_iff.1 dynamic]
    · exact kept.pooled column member dynamic allocated
  · have columnKept := kept.columns column member
    refine ⟨fun element e failed => ?_, fun element => columnKept.valueAt_isOk,
      fun e failed => ?_, columnKept.record_inside⟩
    · rcases columnKept.valueAt_error failed with rfl | rfl <;> rintro ⟨⟩
    · rcases Column.recordAt_error failed with rfl | rfl <;> rintro ⟨⟩
  · exact kept.stringAt_error
  · intro write column element fits elements
    exact ColumnWrite.handsOver fits elements
      (kept.columns column (List.mem_of_getElem? fits.found)).width
  · intro lock write e
    exact ColumnWrite.write_error

/-- Three prices, the second of which is a NaN and left out. -/
def sparsePrices : ColumnWrite where
  column := 0
  type := .float32
  tensor := .ofNumbers .f32 [0x3f800000, 0x7fc00000, 0x40000000]
  firstRow := 0
  rows := 3
  sparsify := true

/-- Three symbols, the second of which is not UTF-8. -/
def brokenSymbols : ColumnWrite where
  column := 1
  type := .utf8Dynamic64
  tensor := .ofCells [.bytes [0x78], .bytes [0xff], .none]
  firstRow := 0
  rows := 3
  sparsify := false

/-- A segment with a sparse column and a column of strings that broke off. -/
def pricesAndSymbols : Segment :=
  ((((ofSchema ⟨"ticks", .rowCount, [⟨"price", .float32⟩, ⟨"symbol", .utf8Dynamic64⟩]⟩).write .free
    sparsePrices).segment).write .free brokenSymbols).segment

theorem Reach.kept_and_readable_pricesAndSymbols :
    Reach ⟨"ticks", .rowCount, [⟨"price", .float32⟩, ⟨"symbol", .utf8Dynamic64⟩]⟩
      [⟨brokenSymbols, .ok (some ⟨1, .invalidUtf8 ⟨0, some 1⟩⟩)⟩, ⟨sparsePrices, .ok none⟩]
      pricesAndSymbols ∧
    pricesAndSymbols.columns.map Column.presence = [some [true, false, true], none] ∧
    (∀ column ∈ pricesAndSymbols.columns, column.WellKept) ∧
    (∃ value, pricesAndSymbols.columns[0].valueAt Element.f32 1 = .ok value) ∧
    ∀ position row e, pricesAndSymbols.stringAt position row = .error e → e.kind ≠ .internal := by
  have reach : Reach ⟨"ticks", .rowCount, [⟨"price", .float32⟩, ⟨"symbol", .utf8Dynamic64⟩]⟩
      [⟨brokenSymbols, .ok (some ⟨1, .invalidUtf8 ⟨0, some 1⟩⟩)⟩, ⟨sparsePrices, .ok none⟩]
      pricesAndSymbols :=
    .next .free brokenSymbols (.next .free sparsePrices .start)
  obtain ⟨kept, reads, strings, _⟩ := Reach.kept_and_readable reach
  exact ⟨reach, by decide, fun column member => (kept column member).1,
    (reads _ List.mem_cons_self 1).2.1 Element.f32 (by decide) rfl, strings⟩

end Segment

end FrameIngest
