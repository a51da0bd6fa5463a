import Mathlib
import FrameIngest.Column

namespace FrameIngest

section Chunks

variable {α : Type} {width : Nat} {chunks : List (List α)}

theorem length_flatten_even (even : ∀ chunk ∈ chunks, chunk.length = width) :
    chunks.flatten.length = chunks.length * width := by
  induction chunks with
  | nil => simp
  | cons first rest ih =>
    simp only [List.mem_cons, forall_eq_or_imp] at even
    simp only [List.flatten_cons, List.length_append, List.length_cons, even.1, ih even.2,
      Nat.succ_mul]
    omega

theorem take_drop_flatten_even (even : ∀ chunk ∈ chunks, chunk.length = width) {position : Nat}
    {chunk : List α} (found : chunks[position]? = some chunk) :
    (chunks.flatten.drop (position * width)).take width = chunk := by
  induction chunks generalizing position with
  | nil => simp at found
  | cons first rest ih =>
    simp only [List.mem_cons, forall_eq_or_imp] at even
    cases position with
    | zero =>
      simp only [List.getElem?_cons_zero, Option.some.injEq] at found
      simp [← found, ← even.1]
    | succ position =>
      rw [List.getElem?_cons_succ] at found
      have beyond : (position + 1) * width = first.length + position * width := by
        rw [even.1, Nat.succ_mul, Nat.add_comm]
      rw [List.flatten_cons, beyond, List.drop_length_add_append]
      exact ih even.2 found

end Chunks

/-- A value that is kept stands behind as many kept values as there are before it. -/
theorem getElem?_filter_count {α : Type} (keeps : α → Bool) {values : List α} {position : Nat}
    {value : α} (found : values[position]? = some value) (kept : keeps value = true) :
    (values.filter keeps)[((values.map keeps).take position).count true]? = some value := by
  induction values generalizing position with
  | nil => simp at found
  | cons first rest ih =>
    cases position with
    | zero =>
      simp only [List.getElem?_cons_zero, Option.some.injEq] at found
      subst found
      simp [kept]
    | succ position =>
      rw [List.getElem?_cons_succ] at found
      have later := ih found
      by_cases counts : keeps first = true
      · simpa [counts] using later
      · simpa [counts] using later

namespace Column

variable {column : Column} {element : PlainType} {stored : List (List UInt8)}

theorem count_stored (bytes : column.bytes = stored.flatten)
    (even : ∀ value ∈ stored, value.length = element.width) :
    column.stored.count element = .ok stored.length := by
  have size : column.stored.size = stored.length * element.width := by
    rw [Buffer.size, Column.stored, bytes, length_flatten_even even]
  simp only [Buffer.count, size, Nat.mul_mod_left, if_true, Nat.mul_div_cancel _ element.width_pos]

theorem valueAt_stored (width : column.width = element.width)
    (bytes : column.bytes = stored.flatten)
    (even : ∀ value ∈ stored, value.length = element.width) {row index : Nat}
    {value : List UInt8} (inside : row < column.rows) (place : column.indexOf row = some index)
    (found : stored[index]? = some value) :
    column.valueAt element row = .ok (some (LittleEndian.ofBytes value)) := by
  obtain ⟨within, _⟩ := List.getElem?_eq_some_iff.1 found
  have number : column.stored.get element index = LittleEndian.ofBytes value := by
    rw [Buffer.get, Column.stored, bytes, take_drop_flatten_even even found]
  simp only [valueAt, checkRow, inside, if_true, checkWidth, width, ne_eq, not_true_eq_false,
    if_false, count_stored bytes even, place]
  change (if index < stored.length then Except.ok (some (column.stored.get element index))
    else _) = _
  rw [if_pos within, number]

theorem valueAt_absent (width : column.width = element.width)
    (bytes : column.bytes = stored.flatten)
    (even : ∀ value ∈ stored, value.length = element.width) {row : Nat}
    (inside : row < column.rows) (absent : column.indexOf row = none) :
    column.valueAt element row = .ok none := by
  simp only [valueAt, checkRow, inside, if_true, checkWidth, width, ne_eq, not_true_eq_false,
    if_false, count_stored bytes even, absent]
  rfl

theorem valueAt_dense (width : column.width = element.width) (dense : column.presence = none)
    (bytes : column.bytes = stored.flatten)
    (even : ∀ value ∈ stored, value.length = element.width) (rows : column.rows = stored.length)
    {row : Nat} {value : List UInt8} (found : stored[row]? = some value) :
    column.valueAt element row = .ok (some (LittleEndian.ofBytes value)) := by
  obtain ⟨within, _⟩ := List.getElem?_eq_some_iff.1 found
  exact valueAt_stored width bytes even (by omega) (by simp only [indexOf, dense]) found

/-- A sparse column gives back the values that it keeps, and nothing for the others. -/
theorem valueAt_sparse {values : List (List UInt8)} {keeps : List UInt8 → Bool}
    (width : column.width = element.width) (sparse : column.presence = some (values.map keeps))
    (bytes : column.bytes = (values.filter keeps).flatten)
    (even : ∀ value ∈ values, value.length = element.width) (rows : column.rows = values.length)
    {row : Nat} {value : List UInt8} (found : values[row]? = some value) :
    column.valueAt element row =
      .ok (if keeps value then some (LittleEndian.ofBytes value) else none) := by
  obtain ⟨within, _⟩ := List.getElem?_eq_some_iff.1 found
  have evenKept : ∀ kept ∈ values.filter keeps, kept.length = element.width :=
    fun kept member => even kept (List.mem_filter.1 member).1
  have marked : (values.map keeps).getD row false = keeps value := by
    simp [List.getD_eq_getElem?_getD, found]
  by_cases kept : keeps value = true
  · rw [if_pos kept]
    refine valueAt_stored width bytes evenKept (by omega) ?_
      (getElem?_filter_count keeps found kept)
    simp only [indexOf, sparse, marked, kept, if_true]
  · rw [if_neg kept]
    refine valueAt_absent width bytes evenKept (by omega) ?_
    simp only [indexOf, sparse, marked, kept, Bool.false_eq_true, if_false]

theorem recordAt_eq (fixed : column.type.isFixedString = true)
    (bytes : column.bytes = stored.flatten)
    (even : ∀ value ∈ stored, value.length = column.width) (rows : column.rows = stored.length)
    {row : Nat} {value : List UInt8} (found : stored[row]? = some value) :
    column.recordAt row = .ok value := by
  obtain ⟨within, _⟩ := List.getElem?_eq_some_iff.1 found
  have inside : row < column.rows := by omega
  simp only [recordAt, fixed, Bool.not_true, Bool.false_eq_true, if_false, checkRow, inside,
    if_true, bytes]
  rw [take_drop_flatten_even even found]
  rfl

end Column

end FrameIngest
