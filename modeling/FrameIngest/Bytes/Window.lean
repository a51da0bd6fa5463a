namespace FrameIngest

/-- The `length` bytes from `offset` on. Bytes beyond the end of the array count as zero. -/
def window (bytes : Array UInt8) (offset length : Nat) : List UInt8 :=
  (List.range length).map fun index => bytes.getD (offset + index) 0

@[simp] theorem length_window (bytes : Array UInt8) (offset length : Nat) :
    (window bytes offset length).length = length := by
  simp [window]

theorem window_append_window (bytes : Array UInt8) (offset first second : Nat) :
    window bytes offset (first + second) =
      window bytes offset first ++ window bytes (offset + first) second := by
  simp only [window, List.range_add, List.map_append, List.map_map, Function.comp_def,
    Nat.add_assoc]

/-- Windows of one width, one after the other, are one window. -/
theorem flatten_windows (bytes : Array UInt8) (width first count : Nat) :
    ((List.range count).map fun place => window bytes ((first + place) * width) width).flatten =
      window bytes (first * width) (count * width) := by
  induction count with
  | zero =>
    rw [List.range_zero, List.map_nil, List.flatten_nil, Nat.zero_mul]
    rfl
  | succ count ih =>
    rw [List.range_succ, List.map_append, List.flatten_append, ih, Nat.succ_mul,
      window_append_window, ← Nat.add_mul, List.map_singleton, List.flatten_singleton]

/-- Inside an array no byte counts as zero. -/
theorem window_eq_take_drop {bytes : Array UInt8} {offset length : Nat}
    (inside : offset + length ≤ bytes.size) :
    window bytes offset length = (bytes.toList.drop offset).take length := by
  apply List.ext_getElem
  · simp only [length_window, List.length_take, List.length_drop, Array.length_toList]
    omega
  · intro index _ within
    have bound : index < length := by
      rw [List.length_take] at within
      omega
    have present : offset + index < bytes.size := by omega
    simp [window, present]

/-- A window finds what stands between two other parts of an array. -/
theorem window_middle {bytes : Array UInt8} (before middle after : List UInt8)
    (split : bytes.toList = before ++ (middle ++ after)) :
    window bytes before.length middle.length = middle := by
  have whole : bytes = (before ++ (middle ++ after)).toArray := by
    rw [← split, Array.toArray_toList]
  apply List.ext_getElem (by simp)
  intro index _ within
  simp [window, whole, List.getElem?_append_right, List.getElem?_append_left within,
    List.getElem?_eq_getElem within]

end FrameIngest
