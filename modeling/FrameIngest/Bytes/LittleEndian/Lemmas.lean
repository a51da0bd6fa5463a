import Mathlib
import FrameIngest.Bytes.LittleEndian

namespace FrameIngest.LittleEndian

/-- What does not fit the width is lost. -/
theorem ofBytes_toBytes_eq_mod (width value : Nat) :
    ofBytes (toBytes width value) = value % 256 ^ width := by
  induction width generalizing value with
  | zero => simp [toBytes, ofBytes, Nat.mod_one]
  | succ width ih =>
    rw [toBytes, ofBytes, ih, Nat.pow_succ', Nat.mod_mul]
    simp only [Nat.toUInt8, UInt8.toNat_ofNat']

theorem ofBytes_toBytes {width value : Nat} (fits : value < 256 ^ width) :
    ofBytes (toBytes width value) = value := by
  rw [ofBytes_toBytes_eq_mod, Nat.mod_eq_of_lt fits]

theorem ofBytes_lt (bytes : List UInt8) : ofBytes bytes < 256 ^ bytes.length := by
  induction bytes with
  | nil => simp [ofBytes]
  | cons byte bytes ih =>
    have below : byte.toNat < 256 := byte.toNat_lt
    rw [ofBytes, List.length_cons, Nat.pow_succ']
    omega

theorem read_flatMap_toBytes (width : Nat) (values : List Nat) :
    read width values.length (values.flatMap (toBytes width)) =
      values.map (· % 256 ^ width) := by
  induction values with
  | nil => rfl
  | cons value values ih => simp [read, ofBytes_toBytes_eq_mod, ih]

/-- Numbers are read back as far as they fit their width. -/
theorem numbers_flatMap_toBytes {width : Nat} (positive : 0 < width) (values : List Nat) :
    numbers width (values.flatMap (toBytes width)) = values.map (· % 256 ^ width) := by
  rw [numbers, length_flatMap_toBytes, Nat.mul_div_cancel _ positive, read_flatMap_toBytes]

theorem drop_flatMap_toBytes (width count : Nat) (values : List Nat) :
    (values.flatMap (toBytes width)).drop (count * width) =
      (values.drop count).flatMap (toBytes width) := by
  induction values generalizing count with
  | nil => simp
  | cons value values ih =>
    cases count with
    | zero => rw [Nat.zero_mul, List.drop_zero, List.drop_zero]
    | succ count =>
      have skipped : (count + 1) * width = (toBytes width value).length + count * width := by
        rw [length_toBytes, Nat.succ_mul, Nat.add_comm]
      rw [List.flatMap_cons, skipped, List.drop_length_add_append, ih, List.drop_succ_cons]

end FrameIngest.LittleEndian
