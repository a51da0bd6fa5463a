import Mathlib
import FrameIngest.Bytes.Buffer
import FrameIngest.Proofs.Column
import FrameIngest.Tensor.Flatten

namespace FrameIngest

/-- Where all parts have one length, a position tells the part and the place in it. -/
theorem getElem?_flatMap_even {α β : Type} {items : List α} {part : α → List β} {length : Nat}
    (even : ∀ item ∈ items, (part item).length = length) {position : Nat}
    (within : position < items.length * length) :
    (items.flatMap part)[position]? =
      items[position / length]?.bind fun item => (part item)[position % length]? := by
  induction items generalizing position with
  | nil => simp
  | cons item items ih =>
    rw [List.forall_mem_cons] at even
    have positive := Nat.pos_of_lt_mul_left within
    rw [List.flatMap_cons]
    by_cases inFirst : position < length
    · rw [List.getElem?_append_left (even.1 ▸ inFirst), Nat.div_eq_of_lt inFirst,
        Nat.mod_eq_of_lt inFirst]
      rfl
    · obtain ⟨rest, rfl⟩ : ∃ rest, position = rest + length :=
        ⟨position - length, (Nat.sub_add_cancel (Nat.not_lt.1 inFirst)).symm⟩
      rw [List.length_cons, Nat.succ_mul] at within
      rw [List.getElem?_append_right (by omega), even.1, Nat.add_sub_cancel,
        ih even.2 (by omega), Nat.add_div_right _ positive, Nat.add_mod_right]
      rfl

theorem mapM_eq_pure {α β : Type} {m : Type → Type} [Monad m] [LawfulMonad m] {step : α → m β}
    {result : α → β} {items : List α} (each : ∀ item ∈ items, step item = pure (result item)) :
    items.mapM step = pure (items.map result) := by
  induction items with
  | nil => exact List.mapM_nil
  | cons first rest ih =>
    rw [List.mapM_cons, each first (List.mem_cons_self ..),
      ih fun item member => each item (List.mem_cons_of_mem _ member), pure_bind, pure_bind,
      List.map_cons]

namespace Tensor

theorem exists_cells {tensor : Tensor} (objects : tensor.holdsObjects = true) :
    ∃ cells, tensor.memory = .objects cells := by
  unfold holdsObjects at objects
  split at objects
  · simp at objects
  · rename_i cells held
    exact ⟨cells, held⟩

theorem exists_bytes {tensor : Tensor} (plain : tensor.holdsObjects = false) :
    ∃ bytes, tensor.memory = .plain bytes := by
  unfold holdsObjects at plain
  split at plain
  · rename_i bytes held
    exact ⟨bytes, held⟩
  · simp at plain

theorem checkRows_eq_ok_iff {tensor : Tensor} {first count : Nat} :
    tensor.checkRows first count = .ok () ↔ first + count ≤ tensor.rows := by
  unfold checkRows
  split <;> simp_all

/-- The index of the element at a position in row-major order, in which the last dimension runs
fastest. -/
def unravel : (sizes : List Nat) → (position : Nat) → List Nat
  | [], _ => []
  | _ :: sizes, position => position / sizes.prod :: unravel sizes (position % sizes.prod)

/-- An index that lies in an array of these sizes. -/
def Inside (sizes index : List Nat) : Prop :=
  List.Forall₂ (· < ·) index sizes

/-- The bytes from the first element to the one at an index. -/
def offsetOf (strides index : List Nat) : Nat :=
  (List.zipWith (· * ·) index strides).sum

theorem offsetOf_cons (stride place : Nat) (strides index : List Nat) :
    offsetOf (stride :: strides) (place :: index) = place * stride + offsetOf strides index :=
  rfl

theorem unravel_inside {sizes : List Nat} {position : Nat} (within : position < sizes.prod) :
    Inside sizes (unravel sizes position) := by
  induction sizes generalizing position with
  | nil => exact .nil
  | cons size sizes ih =>
    rw [List.prod_cons] at within
    have positive := Nat.pos_of_lt_mul_left within
    exact .cons ((Nat.div_lt_iff_lt_mul positive).2 within) (ih (Nat.mod_lt _ positive))

theorem length_offsets (dimensions : List Dimension) (base : Nat) :
    (offsets dimensions base).length = (dimensions.map Dimension.size).prod := by
  induction dimensions generalizing base with
  | nil => rfl
  | cons d inner ih => simp [offsets, ih, List.length_flatMap]

/-- The offsets come in row-major order. -/
theorem getElem?_offsets {dimensions : List Dimension} (base : Nat) {position : Nat}
    (within : position < (dimensions.map Dimension.size).prod) :
    (offsets dimensions base)[position]? =
      some (base + offsetOf (dimensions.map Dimension.stride)
        (unravel (dimensions.map Dimension.size) position)) := by
  induction dimensions generalizing base position with
  | nil =>
    have first : position = 0 := by simpa using within
    rw [first]
    rfl
  | cons d inner ih =>
    rw [List.map_cons, List.prod_cons] at within
    have positive := Nat.pos_of_lt_mul_left within
    have row := (Nat.div_lt_iff_lt_mul positive).2 within
    rw [offsets, getElem?_flatMap_even (fun index _ => length_offsets inner _)
      (by rwa [List.length_range]), List.getElem?_range row, Option.bind_some,
      ih _ (Nat.mod_lt _ positive)]
    simp only [List.map_cons, unravel, offsetOf_cons, Nat.add_assoc]

theorem Inside.size_pos {sizes index : List Nat} (inside : Inside sizes index) {size : Nat}
    (member : size ∈ sizes) : 0 < size := by
  induction inside with
  | nil => cases member
  | cons below _ ih =>
    rcases List.mem_cons.1 member with rfl | later
    · exact Nat.zero_lt_of_lt below
    · exact ih later

theorem extentOf_eq_foldr {width : Nat} {dimensions : List Dimension}
    (populated : ∀ d ∈ dimensions, d.size ≠ 0) :
    extentOf width dimensions =
      dimensions.foldr (fun d reach => (d.size - 1) * d.stride + reach) width := by
  rw [extentOf, if_neg]
  simpa using populated

/-- An element of an array ends no later than the extent of the array. -/
theorem offsetOf_add_le_extentOf {dimensions : List Dimension} {index : List Nat}
    (inside : Inside (dimensions.map Dimension.size) index) (width : Nat) :
    offsetOf (dimensions.map Dimension.stride) index + width ≤ extentOf width dimensions := by
  rw [extentOf_eq_foldr fun d member => (inside.size_pos (List.mem_map_of_mem member)).ne']
  induction dimensions generalizing index with
  | nil =>
    cases inside
    exact Nat.le_of_eq (Nat.zero_add width)
  | cons d inner ih =>
    obtain _ | @⟨place, _, _, _, below, inside⟩ := inside
    have rest := ih inside
    have reach : place * d.stride ≤ (d.size - 1) * d.stride :=
      Nat.mul_le_mul_right _ (Nat.le_sub_one_of_lt below)
    rw [List.map_cons, offsetOf_cons, List.foldr_cons]
    omega

theorem le_foldr_add {terms : List Nat} {term : Nat} (member : term ∈ terms) :
    term ≤ terms.foldr (· + ·) 0 := by
  induction terms with
  | nil => cases member
  | cons first terms ih =>
    rw [List.foldr_cons]
    rcases List.mem_cons.1 member with rfl | later
    · exact Nat.le_add_right ..
    · exact (ih later).trans (Nat.le_add_left ..)

theorem extentOf_eq_add {width : Nat} {dimensions : List Dimension}
    (populated : ∀ d ∈ dimensions, d.size ≠ 0) :
    extentOf width dimensions =
      (dimensions.map fun d => (d.size - 1) * d.stride).foldr (· + ·) 0 + width := by
  rw [extentOf_eq_foldr populated]
  clear populated
  induction dimensions with
  | nil => exact (Nat.zero_add width).symm
  | cons d inner ih => rw [List.foldr_cons, ih, List.map_cons, List.foldr_cons, Nat.add_assoc]

/-- An extent that fits into a machine word is formed without any result that does not. -/
theorem extentWord_eq_some {overflow : Overflow} {width : Nat} {dimensions : List Dimension}
    (fits : extentOf width dimensions < UInt64.size) :
    extentWord overflow width dimensions = some (extentOf width dimensions) := by
  by_cases empty : dimensions.any (·.size = 0) = true
  · rw [extentWord, extentOf, if_pos empty, if_pos empty]
  have populated : ∀ d ∈ dimensions, d.size ≠ 0 := by simpa using empty
  rw [extentOf_eq_add populated] at fits ⊢
  have reaches : (dimensions.mapM fun d => overflow.mul (d.size - 1) d.stride) =
      some (dimensions.map fun d => (d.size - 1) * d.stride) := by
    refine mapM_eq_pure fun d member => Overflow.mul_eq_some ?_
    have reach := le_foldr_add (List.mem_map_of_mem (f := fun d => (d.size - 1) * d.stride) member)
    omega
  rw [extentWord, if_neg empty, reaches]
  simp only [bind, Option.bind, Overflow.sum_eq_some (by omega :
    (dimensions.map fun d => (d.size - 1) * d.stride).foldr (· + ·) 0 < UInt64.size),
    Overflow.add_eq_some fits]

/-- The element of a copy of rows at a position, by its index in the tensor. -/
def rowIndex (tensor : Tensor) (first count position : Nat) : List Nat :=
  (unravel (count :: tensor.inner.map Dimension.size) position).modifyHead (first + ·)

/-- The bytes of the element at an index. -/
def bytesOf (tensor : Tensor) (index : List Nat) : List UInt8 :=
  tensor.bytesAt (offsetOf tensor.strides index) tensor.width

/-- The cell at an index. -/
def cellOf (tensor : Tensor) (index : List Nat) : Cell :=
  match tensor.memory with
  | .plain _ => .none
  | .objects cells => cellIn cells (offsetOf tensor.strides index)

variable {tensor : Tensor} {first count : Nat} {element : PlainType}

theorem dimensions_eq_cons (tensor : Tensor) :
    tensor.dimensions = tensor.rowDimension :: tensor.inner :=
  (List.cons_head_tail tensor.dimensions_ne_nil).symm

theorem rowElements_eq_prod (tensor : Tensor) :
    tensor.rowElements = (tensor.inner.map Dimension.size).prod :=
  rfl

theorem length_rowOffsets (tensor : Tensor) (first count : Nat) :
    (tensor.rowOffsets first count).length = count * tensor.rowElements := by
  rw [rowOffsets, length_offsets, List.map_cons, List.prod_cons, rowElements_eq_prod]

/-- The offsets of rows are those of their indices, in row-major order. -/
theorem getElem?_rowOffsets {position : Nat} (within : position < count * tensor.rowElements) :
    (tensor.rowOffsets first count)[position]? =
      some (offsetOf tensor.strides (tensor.rowIndex first count position)) := by
  rw [rowOffsets, getElem?_offsets _ (by rwa [List.map_cons, List.prod_cons])]
  simp only [strides, dimensions_eq_cons, rowStride, rowIndex, unravel, offsetOf_cons,
    List.map_cons, List.modifyHead_cons, Nat.add_mul, Nat.add_assoc]

theorem rowIndex_inside (rows : first + count ≤ tensor.rows) {position : Nat}
    (within : position < count * tensor.rowElements) :
    Inside tensor.shape (tensor.rowIndex first count position) := by
  have inside : Inside (count :: tensor.inner.map Dimension.size) _ :=
    unravel_inside (by rwa [List.prod_cons])
  obtain _ | ⟨below, others⟩ := inside
  rw [shape, dimensions_eq_cons, List.map_cons]
  exact .cons (Nat.lt_of_lt_of_le (Nat.add_lt_add_left below first) rows) others

theorem extent_of_index {index : List Nat} (inside : Inside tensor.shape index) :
    offsetOf tensor.strides index + tensor.width ≤ tensor.extent :=
  offsetOf_add_le_extentOf inside tensor.width

theorem rowOffsets_eq_nil (nothing : count * tensor.rowElements = 0) :
    tensor.rowOffsets first count = [] :=
  List.length_eq_zero_iff.1 ((length_rowOffsets tensor first count).trans nothing)

theorem rowOffsets_eq_map (tensor : Tensor) (first count : Nat) :
    tensor.rowOffsets first count = (List.range (count * tensor.rowElements)).map fun position =>
      offsetOf tensor.strides (tensor.rowIndex first count position) := by
  apply List.ext_getElem?
  intro position
  by_cases within : position < count * tensor.rowElements
  · rw [getElem?_rowOffsets within, List.getElem?_map, List.getElem?_range within, Option.map_some]
  · rw [List.getElem?_eq_none (by rw [length_rowOffsets]; omega),
      List.getElem?_eq_none (by rw [List.length_map, List.length_range]; omega)]

theorem checkRows_outside (outside : tensor.rows < first + count) :
    tensor.checkRows first count =
      .error (.outOfBounds (.tensorRows first count tensor.rows)) :=
  if_neg (Nat.not_le.2 outside)

theorem checkBytes_of_mem (rows : first + count ≤ tensor.rows) {offset : Nat}
    (member : offset ∈ tensor.rowOffsets first count) :
    tensor.checkBytes offset tensor.width = .ok () := by
  obtain ⟨position, found⟩ := List.getElem?_of_mem member
  have within : position < count * tensor.rowElements := by
    rw [← length_rowOffsets tensor first count]
    exact (List.getElem?_eq_some_iff.1 found).1
  rw [getElem?_rowOffsets within] at found
  cases found
  exact if_pos (extent_of_index (rowIndex_inside rows within))

section Copy

variable {α β : Type} {check : Except IngestError β} {value : β → Nat → α}

/-- The elements of rows after one check for all of them, which is left out where there are none. -/
def copy (tensor : Tensor) (check : Except IngestError β) (value : β → Nat → α)
    (first count : Nat) : Except IngestError (List α) := do
  tensor.checkRows first count
  if count * tensor.rowElements = 0 then return []
  else
    let checked ← check
    return (tensor.rowOffsets first count).map (value checked)

/-- The elements of rows after all checks for each of them, up to the first that does not pass. -/
def walk (tensor : Tensor) (check : Except IngestError β) (value : β → Nat → α)
    (first count : Nat) : Except IngestError (List α) := do
  tensor.checkRows first count
  (tensor.rowOffsets first count).mapM fun offset => do
    let checked ← check
    tensor.checkBytes offset tensor.width
    return value checked offset

theorem copy_outside (outside : tensor.rows < first + count) :
    tensor.copy check value first count =
      .error (.outOfBounds (.tensorRows first count tensor.rows)) := by
  rw [copy, checkRows_outside outside]
  rfl

theorem copy_of_nothing (inside : first + count ≤ tensor.rows)
    (nothing : count * tensor.rowElements = 0) :
    tensor.copy check value first count = .ok [] := by
  simp only [copy, checkRows_eq_ok_iff.2 inside, nothing, if_true]
  rfl

theorem copy_of_ok (inside : first + count ≤ tensor.rows) {checked : β}
    (passed : check = .ok checked) :
    tensor.copy check value first count =
      .ok ((tensor.rowOffsets first count).map (value checked)) := by
  by_cases nothing : count * tensor.rowElements = 0
  · rw [copy_of_nothing inside nothing, rowOffsets_eq_nil nothing, List.map_nil]
  · simp only [copy, checkRows_eq_ok_iff.2 inside, nothing, if_false, passed]
    rfl

theorem copy_of_error (inside : first + count ≤ tensor.rows)
    (some_elements : count * tensor.rowElements ≠ 0) {e : IngestError} (failed : check = .error e) :
    tensor.copy check value first count = .error e := by
  simp only [copy, checkRows_eq_ok_iff.2 inside, some_elements, if_false, failed]
  rfl

/-- A copy is the same whether the elements are checked together or one by one. -/
theorem copy_eq_walk (tensor : Tensor) (check : Except IngestError β) (value : β → Nat → α)
    (first count : Nat) :
    tensor.copy check value first count = tensor.walk check value first count := by
  rcases Nat.lt_or_ge tensor.rows (first + count) with outside | inside
  · rw [copy_outside outside, walk, checkRows_outside outside]
    rfl
  simp only [walk, checkRows_eq_ok_iff.2 inside]
  by_cases nothing : count * tensor.rowElements = 0
  · rw [copy_of_nothing inside nothing, rowOffsets_eq_nil nothing]
    rfl
  cases decided : check with
  | ok checked =>
    rw [copy_of_ok inside rfl]
    refine Eq.symm (mapM_eq_pure fun offset member => ?_)
    rw [checkBytes_of_mem inside member]
    rfl
  | error e =>
    rw [copy_of_error inside nothing rfl]
    have length := length_rowOffsets tensor first count
    cases listed : tensor.rowOffsets first count with
    | nil =>
      rw [listed] at length
      exact absurd length.symm nothing
    | cons => rfl

end Copy

theorem elements_eq_copy (tensor : Tensor) (element : PlainType) (first count : Nat) :
    tensor.elements element first count = tensor.copy (tensor.checkElement element)
      (fun _ offset => tensor.bytesAt offset tensor.width) first count :=
  rfl

theorem elements_eq_map (inside : first + count ≤ tensor.rows)
    (plain : tensor.holdsObjects = false)
    (fits : count * tensor.rowElements ≠ 0 → element.width = tensor.width) :
    tensor.elements element first count =
      .ok ((tensor.rowOffsets first count).map (tensor.bytesAt · tensor.width)) := by
  rw [elements_eq_copy]
  by_cases nothing : count * tensor.rowElements = 0
  · rw [copy_of_nothing inside nothing, rowOffsets_eq_nil nothing, List.map_nil]
  · have passed : tensor.checkElement element = .ok () := by
      simp [checkElement, plain, fits nothing]
    exact copy_of_ok inside passed

/-- Elements of a wrong kind cannot be read, except none of them. -/
theorem elements_misfit (inside : first + count ≤ tensor.rows)
    (some_elements : count * tensor.rowElements ≠ 0)
    (misfit : tensor.holdsObjects = true ∨ element.width ≠ tensor.width) :
    tensor.elements element first count =
      .error (.schemaMismatch (.elementWidth element tensor.width tensor.type)) :=
  copy_of_error inside some_elements (by simp [checkElement, misfit])

theorem flattenCells_eq_map (inside : first + count ≤ tensor.rows) {cells : Array Cell}
    (held : tensor.memory = .objects cells) :
    tensor.flattenCells first count =
      .ok ((tensor.rowOffsets first count).map (cellIn cells)) :=
  copy_of_ok inside (by rw [Tensor.cells, held])

theorem flattenCells_misfit (inside : first + count ≤ tensor.rows)
    (some_elements : count * tensor.rowElements ≠ 0) (plain : tensor.holdsObjects = false) :
    tensor.flattenCells first count = .error (.unsupportedType (.plainCells tensor.type)) := by
  obtain ⟨bytes, held⟩ := exists_bytes plain
  exact copy_of_error inside some_elements (by rw [Tensor.cells, held])

theorem length_bytesOf (plain : tensor.holdsObjects = false) (index : List Nat) :
    (tensor.bytesOf index).length = tensor.width := by
  obtain ⟨bytes, held⟩ := exists_bytes plain
  simp only [bytesOf, bytesAt, held, length_window]

theorem flatten_eq (inside : first + count ≤ tensor.rows) (plain : tensor.holdsObjects = false)
    (fits : element.width = tensor.width) :
    ∃ buffer : Buffer, tensor.flatten element first count = .ok buffer.bytes ∧
      buffer.count element = .ok (count * tensor.rowElements) ∧
      ∀ position < count * tensor.rowElements,
        (buffer.bytes.drop (position * element.width)).take element.width =
          tensor.bytesOf (tensor.rowIndex first count position) := by
  let values := (List.range (count * tensor.rowElements)).map fun position =>
    tensor.bytesOf (tensor.rowIndex first count position)
  have even : ∀ value ∈ values, value.length = element.width := by
    intro value member
    obtain ⟨position, _, rfl⟩ := List.mem_map.1 member
    rw [length_bytesOf plain, fits]
  have length : values.length = count * tensor.rowElements := by
    rw [List.length_map, List.length_range]
  refine ⟨⟨values.flatten⟩, ?_, ?_, fun position within => ?_⟩
  · rw [flatten, elements_eq_map inside plain fun _ => fits, rowOffsets_eq_map, List.map_map]
    rfl
  · rw [Buffer.count, Buffer.size, length_flatten_even even, length, Nat.mul_mod_left, if_pos rfl,
      Nat.mul_div_cancel _ element.width_pos]
  · refine take_drop_flatten_even even ?_
    rw [List.getElem?_map, List.getElem?_range within, Option.map_some]

theorem getElem?_flattenCells {cells : Array Cell} (held : tensor.memory = .objects cells)
    {position : Nat} (within : position < count * tensor.rowElements) :
    ((tensor.rowOffsets first count).map (cellIn cells))[position]? =
      some (tensor.cellOf (tensor.rowIndex first count position)) := by
  rw [List.getElem?_map, getElem?_rowOffsets within, Option.map_some, cellOf, held]

/-- A copy of rows lists their elements in row-major order. It fails where the rows are not those of
the tensor, and where there are elements to copy and they are of another kind. Every element is
found in the extent of the tensor, so a check of each of them before it is read changes nothing, and
an extent that is a machine word is formed without overflow. -/
theorem flatten_row_major (tensor : Tensor) (element : PlainType) (first count : Nat) :
    (tensor.rows < first + count →
      tensor.flatten element first count =
          .error (.outOfBounds (.tensorRows first count tensor.rows)) ∧
        tensor.flattenCells first count =
          .error (.outOfBounds (.tensorRows first count tensor.rows))) ∧
    (first + count ≤ tensor.rows → count * tensor.rowElements = 0 →
      tensor.flatten element first count = .ok [] ∧
        tensor.flattenCells first count = .ok []) ∧
    (first + count ≤ tensor.rows → count * tensor.rowElements ≠ 0 →
      (tensor.holdsObjects = true ∨ element.width ≠ tensor.width →
        tensor.flatten element first count =
          .error (.schemaMismatch (.elementWidth element tensor.width tensor.type))) ∧
      (tensor.holdsObjects = false → element.width = tensor.width →
        ∃ buffer : Buffer, tensor.flatten element first count = .ok buffer.bytes ∧
          buffer.count element = .ok (count * tensor.rowElements) ∧
          ∀ position < count * tensor.rowElements,
            (buffer.bytes.drop (position * element.width)).take element.width =
              tensor.bytesOf (tensor.rowIndex first count position)) ∧
      (tensor.holdsObjects = false →
        tensor.flattenCells first count = .error (.unsupportedType (.plainCells tensor.type))) ∧
      (tensor.holdsObjects = true →
        ∃ cells, tensor.flattenCells first count = .ok cells ∧
          cells.length = count * tensor.rowElements ∧
          ∀ position < count * tensor.rowElements,
            cells[position]? = some (tensor.cellOf (tensor.rowIndex first count position)))) ∧
    (first + count ≤ tensor.rows → ∀ position < count * tensor.rowElements,
      Inside tensor.shape (tensor.rowIndex first count position)) ∧
    (∀ index, Inside tensor.shape index →
      offsetOf tensor.strides index + tensor.width ≤ tensor.extent) ∧
    tensor.elements element first count = tensor.walk (tensor.checkElement element)
      (fun _ offset => tensor.bytesAt offset tensor.width) first count ∧
    tensor.flattenCells first count = tensor.walk tensor.cells cellIn first count ∧
    (tensor.extent < UInt64.size → ∀ overflow,
      extentWord overflow tensor.width tensor.dimensions = some tensor.extent) := by
  refine ⟨fun outside => ⟨?_, copy_outside outside⟩,
    fun inside nothing => ⟨?_, copy_of_nothing inside nothing⟩,
    fun inside some_elements => ⟨fun misfit => ?_, fun plain fits => flatten_eq inside plain fits,
      flattenCells_misfit inside some_elements, fun objects => ?_⟩,
    fun inside position within => rowIndex_inside inside within,
    fun index inside => extent_of_index inside,
    copy_eq_walk .., copy_eq_walk .., fun fits _ => extentWord_eq_some fits⟩
  · rw [flatten, elements_eq_copy, copy_outside outside]
    rfl
  · rw [flatten, elements_eq_copy, copy_of_nothing inside nothing]
    rfl
  · rw [flatten, elements_misfit inside some_elements misfit]
    rfl
  · obtain ⟨cells, held⟩ := exists_cells objects
    refine ⟨_, flattenCells_eq_map inside held, ?_, fun position => getElem?_flattenCells held⟩
    rw [List.length_map, length_rowOffsets]

/-- Three rows of two numbers each, seen as two rows of three. -/
def transposedBlock : Tensor where
  memory := .plain #[0, 0, 1, 0, 2, 0, 3, 0, 4, 0, 5, 0]
  type := .uint16
  width := 2
  dimensions := [⟨2, 2⟩, ⟨3, 4⟩]
  dimensions_ne_nil := by simp

theorem flatten_row_major_transposed :
    transposedBlock.flatten Element.u16 1 2 = .error (.outOfBounds (.tensorRows 1 2 2)) ∧
    (∃ buffer : Buffer, transposedBlock.flatten Element.u16 1 1 = .ok buffer.bytes ∧
      buffer.count Element.u16 = .ok 3 ∧ ∀ position < 3,
        (buffer.bytes.drop (position * 2)).take 2 =
          transposedBlock.bytesOf (transposedBlock.rowIndex 1 1 position)) ∧
    transposedBlock.flatten Element.u16 1 1 = .ok [1, 0, 3, 0, 5, 0] :=
  ⟨((flatten_row_major transposedBlock Element.u16 1 2).1 (by decide)).1,
    ((flatten_row_major transposedBlock Element.u16 1 1).2.2.1 (by decide) (by decide)).2.1 rfl rfl,
    rfl⟩

end Tensor

end FrameIngest
