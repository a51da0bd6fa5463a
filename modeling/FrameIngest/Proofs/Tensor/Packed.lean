import Mathlib
import FrameIngest.Proofs.Tensor.RowMajor

namespace FrameIngest.Tensor

/-- `packedSize?` with products that are words, which wrap. -/
def packedWord? (width : Nat) : List Dimension → Option Nat
  | [] => some width
  | d :: inner => do
    let size ← packedWord? width inner
    if 1 < d.size ∧ d.stride ≠ size then none else some (size * d.size % UInt64.size)

/-- `isPacked` with products that are words, which wrap. -/
def isPackedWord (tensor : Tensor) (width : Nat) : Bool :=
  width = tensor.width ∧ (packedWord? width tensor.dimensions).isSome

section Strides

variable {width total : Nat} {d : Dimension} {inner dimensions : List Dimension}

theorem packedSize?_cons_eq_some_iff :
    packedSize? width (d :: inner) = some total ↔
      ∃ size, packedSize? width inner = some size ∧ (1 < d.size → d.stride = size) ∧
        total = size * d.size := by
  rw [packedSize?]
  cases packedSize? width inner with
  | none => simp
  | some size =>
    by_cases several : 1 < d.size <;> by_cases same : d.stride = size <;>
      simp [several, same, eq_comm]

theorem prod_sizes_pos (populated : ∀ d ∈ dimensions, d.size ≠ 0) :
    0 < (dimensions.map Dimension.size).prod := by
  refine Nat.pos_of_ne_zero fun zero => ?_
  obtain ⟨d, member, none⟩ := List.mem_map.1 (List.prod_eq_zero_iff.1 zero)
  exact populated d member none

theorem eq_of_packedSize? (packed : packedSize? width dimensions = some total) :
    total = (dimensions.map Dimension.size).prod * width := by
  induction dimensions generalizing total with
  | nil =>
    rw [packedSize?, Option.some.injEq] at packed
    rw [List.map_nil, List.prod_nil, Nat.one_mul, packed]
  | cons d inner ih =>
    obtain ⟨size, inside, _, rfl⟩ := packedSize?_cons_eq_some_iff.1 packed
    rw [List.map_cons, List.prod_cons, ih inside]
    ring

/-- The stride of a single index does not matter, and every other one is the size of what lies
inside. -/
theorem mul_stride_eq {size place : Nat} (stride : 1 < d.size → d.stride = size)
    (within : place < d.size) : place * d.stride = place * size := by
  by_cases several : 1 < d.size
  · rw [stride several]
  · have only : place = 0 := by omega
    rw [only, Nat.zero_mul, Nat.zero_mul]

/-- The elements of a packed array lie back to back. -/
theorem offsetOf_of_packed (packed : packedSize? width dimensions = some total) {position : Nat}
    (within : position < (dimensions.map Dimension.size).prod) :
    offsetOf (dimensions.map Dimension.stride)
      (unravel (dimensions.map Dimension.size) position) = position * width := by
  induction dimensions generalizing total position with
  | nil =>
    have first : position = 0 := by simpa using within
    rw [first, Nat.zero_mul]
    rfl
  | cons d inner ih =>
    obtain ⟨size, inside, stride, rfl⟩ := packedSize?_cons_eq_some_iff.1 packed
    rw [List.map_cons, List.prod_cons] at within
    have positive := Nat.pos_of_lt_mul_left within
    have place := (Nat.div_lt_iff_lt_mul positive).2 within
    rw [List.map_cons, List.map_cons, unravel, offsetOf_cons, ih inside (Nat.mod_lt _ positive),
      mul_stride_eq stride place, eq_of_packedSize? inside, ← Nat.mul_assoc, ← Nat.add_mul,
      Nat.mul_comm (position / _), Nat.div_add_mod]

/-- Where elements lie back to back, the strides are those of a packed array. -/
theorem packedSize?_of_offsetOf (populated : ∀ d ∈ dimensions, d.size ≠ 0)
    (dense : ∀ position < (dimensions.map Dimension.size).prod,
      offsetOf (dimensions.map Dimension.stride)
        (unravel (dimensions.map Dimension.size) position) = position * width) :
    packedSize? width dimensions = some ((dimensions.map Dimension.size).prod * width) := by
  induction dimensions with
  | nil => rw [packedSize?, List.map_nil, List.prod_nil, Nat.one_mul]
  | cons d inner ih =>
    rw [List.forall_mem_cons] at populated
    have some_places : 0 < d.size := Nat.pos_of_ne_zero populated.1
    have positive := prod_sizes_pos populated.2
    simp only [List.map_cons, List.prod_cons, unravel, offsetOf_cons] at dense
    -- The first place of the outer dimension holds the inner dimensions as they are.
    have denseInner : ∀ position < (inner.map Dimension.size).prod,
        offsetOf (inner.map Dimension.stride)
          (unravel (inner.map Dimension.size) position) = position * width := by
      intro position within
      have here := dense position (Nat.lt_of_lt_of_le within (Nat.le_mul_of_pos_left _ some_places))
      rwa [Nat.div_eq_of_lt within, Nat.mod_eq_of_lt within, Nat.zero_mul, Nat.zero_add] at here
    refine packedSize?_cons_eq_some_iff.2 ⟨_, ih populated.2 denseInner, fun several => ?_, ?_⟩
    · -- The second place begins where the first one ends.
      have next := dense (inner.map Dimension.size).prod (lt_mul_left positive several)
      rwa [Nat.div_self positive, Nat.mod_self, denseInner 0 positive, Nat.one_mul, Nat.zero_mul,
        Nat.add_zero] at next
    · rw [List.map_cons, List.prod_cons]
      ring

/-- A packed array reaches no further than its extent. -/
theorem le_extentOf_of_packed (populated : ∀ d ∈ dimensions, d.size ≠ 0)
    (packed : packedSize? width dimensions = some total) : total ≤ extentOf width dimensions := by
  have positive := prod_sizes_pos populated
  have last : (dimensions.map Dimension.size).prod - 1 < (dimensions.map Dimension.size).prod := by
    omega
  have reach := offsetOf_add_le_extentOf (unravel_inside last) width
  rwa [offsetOf_of_packed packed last, ← Nat.succ_mul, Nat.succ_eq_add_one,
    Nat.sub_add_cancel positive, ← eq_of_packedSize? packed] at reach

/-- No product wraps where the elements lie in memory that words can address. -/
theorem packedWord?_eq (populated : ∀ d ∈ dimensions, d.size ≠ 0)
    (addressable : extentOf width dimensions < UInt64.size) :
    packedWord? width dimensions = packedSize? width dimensions := by
  induction dimensions with
  | nil => rfl
  | cons d inner ih =>
    have populatedInner := (List.forall_mem_cons.1 populated).2
    have shorter : extentOf width inner ≤ extentOf width (d :: inner) := by
      rw [extentOf_eq_foldr populated, extentOf_eq_foldr populatedInner, List.foldr_cons]
      exact Nat.le_add_left ..
    rw [packedWord?, packedSize?, ih populatedInner (Nat.lt_of_le_of_lt shorter addressable)]
    cases inside : packedSize? width inner with
    | none => rfl
    | some size =>
      simp only [Option.bind_eq_bind, Option.bind_some]
      split_ifs with misfit
      · rfl
      · have stride : 1 < d.size → d.stride = size := fun several =>
          not_not.1 fun other => misfit ⟨several, other⟩
        have whole := packedSize?_cons_eq_some_iff.2 ⟨size, inside, stride, rfl⟩
        rw [Nat.mod_eq_of_lt
          (Nat.lt_of_le_of_lt (le_extentOf_of_packed populated whole) addressable)]

end Strides

section Rows

variable {tensor : Tensor} {first count : Nat}

theorem isPacked_iff_offsetOf (populated : ∀ d ∈ tensor.dimensions, d.size ≠ 0) {width : Nat} :
    tensor.isPacked width = true ↔ width = tensor.width ∧ ∀ position < tensor.shape.prod,
      offsetOf tensor.strides (unravel tensor.shape position) = position * width := by
  rw [isPacked, decide_eq_true_iff]
  refine and_congr_right fun _ => ⟨fun packed position within => ?_, fun dense => ?_⟩
  · obtain ⟨total, packed⟩ := Option.isSome_iff_exists.1 packed
    exact offsetOf_of_packed packed within
  · rw [packedSize?_of_offsetOf populated dense]
    rfl

theorem isPackedWord_eq (populated : ∀ d ∈ tensor.dimensions, d.size ≠ 0)
    (addressable : tensor.extent < UInt64.size) (width : Nat) :
    tensor.isPackedWord width = tensor.isPacked width := by
  rw [isPackedWord, isPacked]
  by_cases same : width = tensor.width
  · rw [same, packedWord?_eq populated addressable]
  · simp [same]

/-- An element of some rows is one of the whole tensor, behind those of the rows before. -/
theorem rowIndex_eq_unravel {position : Nat} (within : position < count * tensor.rowElements) :
    tensor.rowIndex first count position =
      unravel tensor.shape (first * tensor.rowElements + position) := by
  have positive := Nat.pos_of_lt_mul_left within
  rw [shape, dimensions_eq_cons, List.map_cons, unravel, rowIndex, unravel, List.modifyHead_cons,
    ← rowElements_eq_prod, Nat.mul_comm first, Nat.mul_add_div positive, Nat.mul_add_mod]

theorem rowOffset_of_packed (packed : tensor.isPacked tensor.width = true)
    (inside : first + count ≤ tensor.rows) {position : Nat}
    (within : position < count * tensor.rowElements) :
    offsetOf tensor.strides (tensor.rowIndex first count position) =
      (first * tensor.rowElements + position) * tensor.width := by
  rw [isPacked, decide_eq_true_iff] at packed
  obtain ⟨total, packed⟩ := Option.isSome_iff_exists.1 packed.2
  have all : tensor.shape.prod = tensor.rows * tensor.rowElements := by
    rw [shape, dimensions_eq_cons, List.map_cons, List.prod_cons, rowElements_eq_prod]
    rfl
  have rows : (first + count) * tensor.rowElements ≤ tensor.rows * tensor.rowElements :=
    Nat.mul_le_mul_right _ inside
  rw [Nat.add_mul] at rows
  rw [rowIndex_eq_unravel within]
  exact offsetOf_of_packed packed (by change _ < tensor.shape.prod; omega)

/-- What lies in packed rows is what the rows hold, one element after the other. -/
theorem bytesAt_of_packed (plain : tensor.holdsObjects = false)
    (packed : tensor.isPacked tensor.width = true) (inside : first + count ≤ tensor.rows) :
    tensor.bytesAt (first * (tensor.rowElements * tensor.width))
        (count * (tensor.rowElements * tensor.width)) =
      ((tensor.rowOffsets first count).map (tensor.bytesAt · tensor.width)).flatten := by
  obtain ⟨bytes, held⟩ := exists_bytes plain
  have each : (tensor.rowOffsets first count).map (tensor.bytesAt · tensor.width) =
      (List.range (count * tensor.rowElements)).map fun place =>
        window bytes ((first * tensor.rowElements + place) * tensor.width) tensor.width := by
    rw [rowOffsets_eq_map, List.map_map]
    refine List.map_congr_left fun position member => ?_
    rw [Function.comp_apply, rowOffset_of_packed packed inside (List.mem_range.1 member), bytesAt,
      held]
  rw [each, flatten_windows, bytesAt, held, ← Nat.mul_assoc, ← Nat.mul_assoc]

/-- The rows of a packed tensor end where its extent does, or before. -/
theorem rows_inside_of_packed (packed : tensor.isPacked tensor.width = true)
    (inside : first + count ≤ tensor.rows) (some_elements : 0 < count * tensor.rowElements) :
    first * (tensor.rowElements * tensor.width) + count * (tensor.rowElements * tensor.width) ≤
      tensor.extent := by
  have last : count * tensor.rowElements - 1 < count * tensor.rowElements := by omega
  have reach := extent_of_index (rowIndex_inside inside last)
  rw [rowOffset_of_packed packed inside last, ← Nat.succ_mul] at reach
  refine Nat.le_trans (Nat.le_of_eq ?_) reach
  rw [← Nat.mul_assoc, ← Nat.mul_assoc, ← Nat.add_mul]
  congr 1
  omega

theorem contiguousBytes_of_packed (plain : tensor.holdsObjects = false)
    (packed : tensor.isPacked tensor.width = true) (inside : first + count ≤ tensor.rows) :
    tensor.contiguousBytes first count =
      .ok ((tensor.rowOffsets first count).map (tensor.bytesAt · tensor.width)).flatten := by
  have whole := bytesAt_of_packed plain packed inside
  simp only [contiguousBytes, plain, packed, Bool.not_true, Bool.or_self, Bool.false_eq_true,
    if_false, checkRows_eq_ok_iff.2 inside]
  by_cases nothing : count * (tensor.rowElements * tensor.width) = 0
  · obtain ⟨bytes, held⟩ := exists_bytes plain
    rw [nothing, bytesAt, held] at whole
    rw [← whole, nothing]
    rfl
  · have some_elements : 0 < count * tensor.rowElements :=
      Nat.pos_of_ne_zero fun zero => nothing (by rw [← Nat.mul_assoc, zero, Nat.zero_mul])
    have span := rows_inside_of_packed packed inside some_elements
    simp only [nothing, if_false, checkBytes, span, if_true, ← whole]
    rfl

end Rows

/-- The check of the strides is exact for arrays that have elements: it accepts no width but that of
the elements, and that if and only if the elements in row-major order lie back to back. Its products
may as well wrap if words can address the elements. Rows of a packed tensor of plain data, which may
be without elements, can always be read without a copy, and the bytes are those of the elements in
row-major order, as a copy into any plain type of their width has them. -/
theorem packed_exact (tensor : Tensor) :
    ((∀ d ∈ tensor.dimensions, d.size ≠ 0) → ∀ width,
      (tensor.isPacked width = true ↔ width = tensor.width ∧ ∀ position < tensor.shape.prod,
        offsetOf tensor.strides (unravel tensor.shape position) = position * width) ∧
      (tensor.extent < UInt64.size → tensor.isPackedWord width = tensor.isPacked width)) ∧
    (tensor.holdsObjects = false → tensor.isPacked tensor.width = true →
      ∀ first count, first + count ≤ tensor.rows →
        tensor.contiguousBytes first count =
          .ok ((List.range (count * tensor.rowElements)).map fun position =>
            tensor.bytesOf (tensor.rowIndex first count position)).flatten ∧
        (tensor.walk (.ok ()) (fun _ offset => tensor.bytesAt offset tensor.width) first count).map
          List.flatten = tensor.contiguousBytes first count ∧
        ∀ element : PlainType, element.width = tensor.width →
          tensor.flatten element first count = tensor.contiguousBytes first count) := by
  refine ⟨fun populated width => ⟨isPacked_iff_offsetOf populated,
    fun addressable => isPackedWord_eq populated addressable width⟩,
    fun plain packed first count inside => ?_⟩
  rw [contiguousBytes_of_packed plain packed inside]
  refine ⟨?_, ?_, fun element fits => ?_⟩
  · rw [rowOffsets_eq_map, List.map_map]
    rfl
  · rw [← copy_eq_walk, copy_of_ok inside rfl]
    rfl
  · rw [flatten, elements_eq_map inside plain fun _ => fits]
    rfl

/-- Two rows of three numbers each, with a dimension between them whose stride is never taken. -/
def looseBlock : Tensor where
  memory := .plain #[0, 0, 1, 0, 2, 0, 3, 0, 4, 0, 5, 0]
  type := .uint16
  width := 2
  dimensions := [⟨2, 6⟩, ⟨1, 999⟩, ⟨3, 2⟩]
  dimensions_ne_nil := by simp

theorem packed_exact_looseBlock :
    looseBlock.isPacked 2 = true ∧ looseBlock.isPackedWord 2 = true ∧
    looseBlock.contiguousBytes 1 1 = .ok [3, 0, 4, 0, 5, 0] ∧
    looseBlock.flatten Element.u16 1 1 = .ok [3, 0, 4, 0, 5, 0] ∧
    ¬transposedBlock.isPacked 2 = true := by
  obtain ⟨strides, rows⟩ := packed_exact looseBlock
  obtain ⟨exact_strides, wraps⟩ := strides (by decide) 2
  have packed := exact_strides.2 ⟨rfl, by decide⟩
  obtain ⟨read, _, copied⟩ := rows rfl packed 1 1 (by decide)
  have bytes : looseBlock.contiguousBytes 1 1 = .ok [3, 0, 4, 0, 5, 0] := read.trans rfl
  refine ⟨packed, (wraps (by decide)).trans packed, bytes, (copied Element.u16 rfl).trans bytes, ?_⟩
  -- The second element of the transposed block lies where the third of a packed one would.
  intro transposed
  have second := ((((packed_exact transposedBlock).1 (by decide) 2).1).1 transposed).2 1 (by decide)
  exact absurd second (by decide)

end FrameIngest.Tensor
