import Mathlib
import FrameIngest.Proofs.Segment.Representation

namespace FrameIngest

namespace Element

/-- The number of bits of the fraction of a floating point type. -/
def fractionBits : Element → Nat
  | f32 => 23
  | f64 => 52
  | _ => 0

/-- The number of bits of the exponent, which stand above those of the fraction. -/
def exponentBits : Element → Nat
  | f32 => 8
  | f64 => 11
  | _ => 0

/-- The bit patterns of NaNs: the bits of the exponent are all set, and some of the fraction. -/
def IsNaN (element : Element) (bits : Nat) : Prop :=
  bits / 2 ^ element.fractionBits % 2 ^ element.exponentBits = 2 ^ element.exponentBits - 1 ∧
    bits % 2 ^ element.fractionBits ≠ 0

instance (element : Element) (bits : Nat) : Decidable (element.IsNaN bits) :=
  inferInstanceAs (Decidable (_ ∧ _))

theorem isMissing_iff {element : Element} {bits : Nat} :
    element.isMissing bits = true ↔ element.IsNaN bits := by
  cases element with
  | f32 =>
    simp only [isMissing, IsNaN, fractionBits, exponentBits, decide_eq_true_eq]
    omega
  | f64 =>
    simp only [isMissing, IsNaN, fractionBits, exponentBits, decide_eq_true_eq]
    omega
  | _ => simp [isMissing, IsNaN, fractionBits, Nat.mod_one]

end Element

namespace ColumnWrite

variable {write : ColumnWrite} {segment : Segment} {column written sparse dense : Column}
  {element : Element}

/-- What columns hold after the same numbers were written to one of them without the NaNs and to the
other with them. -/
structure SparseAndDense (write : ColumnWrite) (element : Element) (sparse dense : Column) :
    Prop where
  rows : sparse.rows = write.rows ∧ dense.rows = write.rows
  presence : sparse.presence =
    some ((List.range write.rows).map fun row => decide ¬element.IsNaN (write.number row))
  /-- Only the numbers that are present are stored, in the order of their rows. -/
  stored : sparse.bytes =
    ((List.range write.rows).filter fun row => ¬element.IsNaN (write.number row)).flatMap
      fun row => write.tensor.rowBytes (write.firstRow + row)
  full : dense.presence = none ∧ dense.bytes =
    (List.range write.rows).flatMap fun row => write.tensor.rowBytes (write.firstRow + row)
  values : ∀ row < write.rows,
    dense.valueAt element row = .ok (some (write.number row)) ∧
      sparse.valueAt element row =
        if element.IsNaN (write.number row) then .ok none else dense.valueAt element row

theorem rowValues_eq_map (write : ColumnWrite) : write.rowValues =
    (List.range write.rows).map fun row => write.tensor.rowBytes (write.firstRow + row) := by
  rw [rowValues, List.range'_eq_map_range, List.map_map]
  rfl

theorem keeps_rowBytes (write : ColumnWrite) (element : Element) (row : Nat) :
    keeps element (write.tensor.rowBytes (write.firstRow + row)) =
      decide ¬element.IsNaN (write.number row) := by
  rw [keeps, Bool.eq_iff_iff, decide_eq_true_eq, ← Element.isMissing_iff, number,
    Bool.not_eq_true', Bool.not_eq_true]

theorem sparseAndDense (elements : write.type.element? = some element)
    (plain : write.tensor.holdsObjects = false) (width : column.width = element.width)
    (placed : { write with sparsify := true }.Places column sparse)
    (full : { write with sparsify := false }.Places column dense) :
    write.SparseAndDense element sparse dense := by
  have kept := (placed.of_numbers elements).2.2.resolve_right fun other => nomatch other.1
  have whole := (full.of_numbers elements).2.2.resolve_left fun other => nomatch other.1
  refine ⟨⟨placed.rows_eq, full.rows_eq⟩, ?presence, ?stored, ⟨whole.2.1, ?full⟩, ?values⟩
  case presence =>
    rw [kept.2]
    change some (write.rowValues.map (keeps element)) = _
    simp only [rowValues_eq_map, List.map_map, Function.comp_def, keeps_rowBytes]
  case stored =>
    rw [kept.2]
    change (write.rowValues.filter (keeps element)).flatten = _
    simp only [rowValues_eq_map, List.filter_map, Function.comp_def, keeps_rowBytes,
      List.flatMap_def]
  case full =>
    rw [whole.2.2, List.flatMap_def, ← rowValues_eq_map]
    rfl
  case values =>
    intro row within
    have present := placed.valueAt_eq elements plain width within
    have every := full.valueAt_eq elements plain width within
    refine ⟨every, present.trans ?_⟩
    change Except.ok (if element.isMissing (write.number row) then none
      else some (write.number row)) = _
    rw [every, apply_ite Except.ok]
    simp only [Element.isMissing_iff]
    rfl

/-- What is written to a column of numbers does not depend on what it held. -/
theorem numbers_congr {other : Column} (type : other.type = column.type)
    (width : other.width = column.width) :
    write.numbers element other = write.numbers element column := by
  obtain ⟨_, _, _, _, _⟩ := column
  obtain ⟨_, _, _, _, _⟩ := other
  cases type
  cases width
  rfl

theorem write_numbers_eq (fits : write.Fits segment column) (agrees : write.Agrees segment)
    (elements : write.type.element? = some element)
    (kept : write.numbers element column = .ok written) (lock : DecodeLock) :
    segment.write lock write =
      ⟨.ok none, { segment.setColumn write.column written with rows := write.rows }, lock⟩ := by
  rw [write_eq fits agrees, dispatch_numbers elements, kept]
  rfl

/-- Numbers of a tensor whose type suits its elements are put in place. -/
theorem exists_places (fits : write.Fits segment column) (tagged : write.tensor.Tagged)
    (elements : write.type.element? = some element) :
    ∃ written, write.Places column written ∧ write.numbers element column = .ok written := by
  rcases numbers_cases fits elements with placed | ⟨misfit, _⟩
  · exact placed
  · exact absurd (tagged.element_width (fits.tagged ▸ elements)) misfit.2

theorem Fits.withSparsify (fits : write.Fits segment column) (float : write.type.isFloat = true)
    (sparsify : Bool) : { write with sparsify }.Fits segment column :=
  ⟨fits.found, fits.stored, fits.tagged, fits.vector, fits.objects, fun _ => float, fits.inside⟩

/-- Numbers that are written over others leave what they would leave without them. -/
theorem Step.write_over {earlier : ColumnWrite} {after : Segment}
    {outcome : Except IngestError (Option EncodingError)}
    (step : earlier.Step segment outcome after) (fits : write.Fits segment column)
    (same : earlier.column = write.column) (agrees : write.Agrees segment)
    (again : write.Agrees after) (tagged : write.tensor.Tagged)
    (elements : write.type.element? = some element) (lock : DecodeLock) :
    after.write lock write = segment.write lock write := by
  have stored {old : Column} (earlierFits : earlier.Fits segment old) : old = column := by
    have found := earlierFits.found
    rw [same, fits.found] at found
    exact (Option.some.inj found).symm
  have numbers {old : Column} (earlierFits : earlier.Fits segment old) :
      earlier.type.element? = some element := by
    rw [← earlierFits.stored, stored earlierFits, fits.stored, elements]
  cases step with
  | rejected => rfl
  | @placed old first earlierFits _ _ placed =>
    obtain ⟨written, _, kept⟩ := exists_places fits tagged elements
    have width := placed.width_eq (numbers earlierFits)
    have type := placed.type_eq
    rw [stored earlierFits] at type width
    have refits : write.Fits { segment.setColumn earlier.column first with rows := earlier.rows }
        first := by
      refine ⟨?_, type.trans fits.stored, fits.tagged, fits.vector, fits.objects, fits.sparse,
        fits.inside⟩
      rw [same]
      exact (Segment.getElem?_setColumn fits.found _).trans (if_pos rfl)
    rw [write_numbers_eq refits again elements ((numbers_congr type width).trans kept),
      write_numbers_eq fits agrees elements kept]
    simp only [Segment.setColumn, same, List.set_set]
  | pooled earlierFits _ pooled | stopped earlierFits _ pooled =>
    have plain := DataType.isDynamicString_of_element? (numbers earlierFits)
    rw [pooled] at plain
    cases plain
  | emptied earlierFits _ pools =>
    have plain := DataType.isDynamicString_of_element? (numbers earlierFits)
    rw [isDynamicString_of_poolsPlainData pools] at plain
    cases plain

end ColumnWrite

namespace Segment

variable {schema : Schema} {past : List Attempt} {segment : Segment}

/-- Floats are written without their NaNs or with them. Both writes succeed and count the same
rows; the one column holds a bit per row and the numbers that are present, the other all numbers,
and they read alike except for the NaNs. Neither depends on what an earlier write, of either kind,
left in the column. -/
theorem Reach.sparse_and_dense (reach : Reach schema past segment) {write : ColumnWrite}
    {column : Column} {element : Element} (fits : write.Fits segment column)
    (agrees : write.Agrees segment) (tagged : write.tensor.Tagged)
    (elements : write.type.element? = some element) (float : element.isFloat = true) :
    (∃ sparse dense : Column, write.SparseAndDense element sparse dense ∧ ∀ lock,
      segment.write lock { write with sparsify := true } =
        ⟨.ok none, { segment.setColumn write.column sparse with rows := write.rows }, lock⟩ ∧
      segment.write lock { write with sparsify := false } =
        ⟨.ok none, { segment.setColumn write.column dense with rows := write.rows }, lock⟩) ∧
    ∀ (earlier : ColumnWrite) (held : DecodeLock), earlier.column = write.column →
      write.Agrees (segment.write held earlier).segment → ∀ lock sparsify,
        (segment.write held earlier).segment.write lock { write with sparsify } =
          segment.write lock { write with sparsify } := by
  have floats : write.type.isFloat = true := by
    rcases DataType.element?_eq_some_iff.1 elements with numeric | ⟨_, rfl⟩
    · rw [DataType.isFloat, numeric]
      exact float
    · cases float
  have kept := reach.wellKept.columns column (List.mem_of_getElem? fits.found)
  have width : column.width = element.width :=
    kept.width _ (fits.stored ▸ DataType.fixedWidth?_of_element? elements)
  have plain := fits.plain (DataType.isDynamicString_of_element? elements)
  constructor
  · have sparseFits := fits.withSparsify floats true
    have denseFits := fits.withSparsify floats false
    obtain ⟨sparse, placed, written⟩ := ColumnWrite.exists_places sparseFits tagged elements
    obtain ⟨dense, full, copied⟩ := ColumnWrite.exists_places denseFits tagged elements
    exact ⟨sparse, dense, ColumnWrite.sparseAndDense elements plain width placed full, fun lock =>
      ⟨ColumnWrite.write_numbers_eq sparseFits agrees elements written lock,
        ColumnWrite.write_numbers_eq denseFits agrees elements copied lock⟩⟩
  · intro earlier held same again lock sparsify
    exact (earlier.write_step segment held).write_over (fits.withSparsify floats sparsify) same
      agrees again tagged elements lock

/-- Every other of nine floats, without the first: a negative zero, a signaling NaN, an infinity and
a NaN with all bits set. -/
def steppedFloats : ColumnWrite where
  column := 0
  type := .float32
  tensor := {
    memory := .plain ([0, 0, 0x80000000, 0, 0x7f800001, 0, 0x7f800000, 0, 0xffffffff].flatMap
      (LittleEndian.toBytes 4)).toArray
    type := .float32
    width := 4
    dimensions := [⟨5, 8⟩]
    dimensions_ne_nil := by simp }
  firstRow := 1
  rows := 4
  sparsify := true

/-- A segment of one column of floats. -/
def floats : Segment :=
  .ofSchema ⟨"ticks", .rowCount, [⟨"price", .float32⟩]⟩

theorem Reach.sparse_and_dense_stepped :
    (∃ sparse dense : Column, steppedFloats.SparseAndDense .f32 sparse dense ∧
      sparse.presence = some [true, false, true, false] ∧
      sparse.bytes = [0, 0, 0, 0x80, 0, 0, 0x80, 0x7f] ∧
      (floats.write .free steppedFloats).outcome = .ok none) ∧
    (floats.write .free steppedFloats).segment.write .free
        { steppedFloats with sparsify := false } =
      floats.write .free { steppedFloats with sparsify := false } := by
  have fits : steppedFloats.Fits floats (Column.ofType .float32) :=
    ⟨rfl, rfl, rfl, rfl, by decide, fun _ => rfl, by decide⟩
  obtain ⟨⟨sparse, dense, columns, written⟩, untraced⟩ := Reach.sparse_and_dense .start fits
    (Or.inl rfl) ⟨rfl, fun _ => Or.inr rfl⟩ rfl rfl
  refine ⟨⟨sparse, dense, columns, ?_, ?_, ?_⟩,
    untraced steppedFloats .free rfl (Or.inr rfl) .free false⟩
  · exact columns.presence.trans (by decide)
  · exact columns.stored.trans (by decide)
  · exact congrArg WriteResult.outcome (written .free).1

end Segment

end FrameIngest
