namespace FrameIngest.LittleEndian

/-- The bytes of a number in a given width; what does not fit is cut off. -/
def toBytes : (width : Nat) → Nat → List UInt8
  | 0, _ => []
  | width + 1, value => value.toUInt8 :: toBytes width (value / 256)

/-- The number that the bytes hold. -/
def ofBytes : List UInt8 → Nat
  | [] => 0
  | byte :: bytes => byte.toNat + 256 * ofBytes bytes

@[simp] theorem length_toBytes (width value : Nat) : (toBytes width value).length = width := by
  induction width generalizing value with
  | zero => rfl
  | succ width ih => simp [toBytes, ih]

theorem toBytes_ofBytes (bytes : List UInt8) : toBytes bytes.length (ofBytes bytes) = bytes := by
  induction bytes with
  | nil => rfl
  | cons byte bytes ih =>
    have below : byte.toNat < 256 := byte.toNat_lt
    have quotient : (byte.toNat + 256 * ofBytes bytes) / 256 = ofBytes bytes := by omega
    have head : (byte.toNat + 256 * ofBytes bytes).toUInt8 = byte := by
      apply UInt8.toNat_inj.1
      simp only [Nat.toUInt8, UInt8.toNat_ofNat']
      omega
    simp only [List.length_cons, ofBytes, toBytes, quotient, ih, head]

/-- The first `count` numbers of one width. -/
def read (width : Nat) : (count : Nat) → List UInt8 → List Nat
  | 0, _ => []
  | count + 1, bytes => ofBytes (bytes.take width) :: read width count (bytes.drop width)

/-- Cuts bytes into numbers of one width; bytes that fill no number are left out. -/
def numbers (width : Nat) (bytes : List UInt8) : List Nat :=
  read width (bytes.length / width) bytes

@[simp] theorem length_read (width count : Nat) (bytes : List UInt8) :
    (read width count bytes).length = count := by
  induction count generalizing bytes with
  | zero => rfl
  | succ count ih => simp [read, ih]

theorem getElem?_read {width count : Nat} {bytes : List UInt8} {index : Nat}
    (inside : index < count) :
    (read width count bytes)[index]? =
      some (ofBytes ((bytes.drop (index * width)).take width)) := by
  induction count generalizing bytes index with
  | zero => omega
  | succ count ih =>
    cases index with
    | zero => simp [read]
    | succ index =>
      simp only [read, List.getElem?_cons_succ, ih (Nat.lt_of_succ_lt_succ inside),
        List.drop_drop, Nat.succ_mul, Nat.add_comm width]

theorem length_flatMap_toBytes (width : Nat) (values : List Nat) :
    (values.flatMap (toBytes width)).length = values.length * width := by
  induction values with
  | nil => simp
  | cons value values ih => simp [ih, Nat.succ_mul, Nat.add_comm]

end FrameIngest.LittleEndian
