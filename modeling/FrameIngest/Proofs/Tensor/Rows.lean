import Mathlib
import FrameIngest.Proofs.Tensor.Packed

namespace FrameIngest

namespace Tensor

/-- The bytes of a row of a tensor of one dimension. -/
def rowBytes (tensor : Tensor) (row : Nat) : List UInt8 :=
  tensor.bytesAt (row * tensor.rowStride) tensor.width

/-- The cell in a row of a tensor of one dimension. -/
def rowCell (tensor : Tensor) (row : Nat) : Cell :=
  match tensor.memory with
  | .plain _ => .none
  | .objects cells => cellIn cells (row * tensor.rowStride)

theorem width_eq_of_isPacked {tensor : Tensor} {width : Nat}
    (packed : tensor.isPacked width = true) : width = tensor.width := by
  simp only [isPacked, decide_eq_true_eq] at packed
  exact packed.1

section Vector

variable {tensor : Tensor} (vector : tensor.rank = 1)
include vector

theorem dimensions_eq : tensor.dimensions = [⟨tensor.rows, tensor.rowStride⟩] := by
  obtain ⟨only, same⟩ := List.length_eq_one_iff.1 vector
  simp only [rows, rowStride, rowDimension, same, List.head_cons]

theorem inner_eq : tensor.inner = [] := by
  rw [inner, dimensions_eq vector, List.tail_cons]

theorem rowElements_eq : tensor.rowElements = 1 := by
  rw [rowElements, inner_eq vector, List.map_nil, List.foldr_nil]

theorem row_inside {row : Nat} (within : row < tensor.rows) :
    row * tensor.rowStride + tensor.width ≤ tensor.extent := by
  have inside : Inside tensor.shape [row] := by
    rw [shape, dimensions_eq vector]
    exact .cons within .nil
  have reach := extent_of_index inside
  rwa [strides, dimensions_eq vector, List.map_singleton, offsetOf_cons] at reach

theorem isPacked_iff {width : Nat} :
    tensor.isPacked width = true ↔
      width = tensor.width ∧ (1 < tensor.rows → tensor.rowStride = width) := by
  simp only [isPacked, dimensions_eq vector, packedSize?, decide_eq_true_eq]
  by_cases several : 1 < tensor.rows <;> by_cases same : tensor.rowStride = width <;>
    simp [several, same]

theorem rowOffsets_eq (first count : Nat) :
    tensor.rowOffsets first count = (List.range' first count).map (· * tensor.rowStride) := by
  simp only [rowOffsets, inner_eq vector, offsets, List.range'_eq_map_range, List.map_map,
    ← List.map_eq_flatMap]
  apply List.map_congr_left
  intro index _
  simp only [Function.comp_apply, Nat.add_mul]

theorem elements_eq {element : PlainType} {first count : Nat}
    (inside : first + count ≤ tensor.rows) (plain : tensor.holdsObjects = false)
    (fits : count ≠ 0 → element.width = tensor.width) :
    tensor.elements element first count = .ok ((List.range' first count).map tensor.rowBytes) := by
  rw [elements_eq_map inside plain (by rwa [rowElements_eq vector, Nat.mul_one]),
    rowOffsets_eq vector, List.map_map]
  rfl

/-- Elements of a wrong kind cannot be read, except none of them. -/
theorem elements_eq_error {element : PlainType} {first count : Nat}
    (inside : first + count ≤ tensor.rows) (some_rows : count ≠ 0)
    (misfit : tensor.holdsObjects = true ∨ element.width ≠ tensor.width) :
    tensor.elements element first count =
      .error (.schemaMismatch (.elementWidth element tensor.width tensor.type)) :=
  elements_misfit inside (by rwa [rowElements_eq vector, Nat.mul_one]) misfit

theorem contiguousBytes_eq {first count : Nat} (inside : first + count ≤ tensor.rows)
    (plain : tensor.holdsObjects = false) (packed : tensor.isPacked tensor.width = true) :
    tensor.contiguousBytes first count =
      .ok ((List.range' first count).map tensor.rowBytes).flatten := by
  rw [contiguousBytes_of_packed plain packed inside, rowOffsets_eq vector, List.map_map]
  rfl

theorem recordAt_eq {row : Nat} (within : row < tensor.rows)
    (plain : tensor.holdsObjects = false) : tensor.recordAt row = .ok (tensor.rowBytes row) := by
  simp only [recordAt, plain, Bool.false_eq_true, if_false, checkRows_eq_ok_iff.2 (by omega :
    row + 1 ≤ tensor.rows), checkBytes, row_inside vector within, if_true]
  rfl

theorem cellAt_eq {row : Nat} (within : row < tensor.rows)
    (objects : tensor.holdsObjects = true) :
    tensor.cellAt (row * tensor.rowStride) = .ok (tensor.rowCell row) := by
  obtain ⟨cells, held⟩ := exists_cells objects
  simp only [cellAt, Tensor.cells, held, checkBytes, row_inside vector within, if_true, rowCell]
  rfl

theorem flattenCells_eq {first count : Nat} (inside : first + count ≤ tensor.rows)
    (objects : tensor.holdsObjects = true) :
    tensor.flattenCells first count = .ok ((List.range' first count).map tensor.rowCell) := by
  obtain ⟨cells, held⟩ := exists_cells objects
  rw [flattenCells_eq_map inside held, rowOffsets_eq vector, List.map_map]
  congr 2
  funext row
  rw [rowCell, held]
  rfl

theorem flattenCells_plain {first count : Nat} (inside : first + count ≤ tensor.rows)
    (some_rows : count ≠ 0) (plain : tensor.holdsObjects = false) :
    tensor.flattenCells first count = .error (.unsupportedType (.plainCells tensor.type)) :=
  flattenCells_misfit inside (by rwa [rowElements_eq vector, Nat.mul_one]) plain

end Vector

theorem cellAt_plain {tensor : Tensor} (plain : tensor.holdsObjects = false) (offset : Nat) :
    tensor.cellAt offset = .error (.unsupportedType (.plainCells tensor.type)) := by
  obtain ⟨bytes, held⟩ := exists_bytes plain
  simp only [cellAt, Tensor.cells, held]
  rfl

@[simp] theorem length_rowBytes {tensor : Tensor} (plain : tensor.holdsObjects = false)
    (row : Nat) : (tensor.rowBytes row).length = tensor.width := by
  obtain ⟨bytes, held⟩ := exists_bytes plain
  simp only [rowBytes, bytesAt, held, length_window]

end Tensor

end FrameIngest
