import Mathlib
import FrameIngest.Text.Utf8

namespace FrameIngest.Utf8

/-- The code points of a text. -/
def codePoints (text : String) : List Nat :=
  text.toList.map Char.toNat

/-- The bytes that a text has in memory. -/
def bytesOf (text : String) : List UInt8 :=
  text.toByteArray.data.toList

theorem isScalar_iff {codePoint : Nat} : IsScalar codePoint ↔ codePoint.isValidChar := by
  unfold IsScalar Nat.isValidChar
  omega

theorem isScalar_toNat (c : Char) : IsScalar c.toNat :=
  isScalar_iff.2 c.valid

theorem exists_char {codePoint : Nat} (scalar : IsScalar codePoint) :
    ∃ c : Char, c.toNat = codePoint :=
  ⟨Char.ofNatAux codePoint (isScalar_iff.1 scalar), rfl⟩

theorem exists_letters {codePoints : List Nat}
    (scalars : ∀ codePoint ∈ codePoints, IsScalar codePoint) :
    ∃ letters : List Char, letters.map Char.toNat = codePoints := by
  induction codePoints with
  | nil => exact ⟨[], rfl⟩
  | cons codePoint codePoints ih =>
    obtain ⟨scalar, others⟩ := List.forall_mem_cons.1 scalars
    obtain ⟨c, rfl⟩ := exists_char scalar
    obtain ⟨letters, rfl⟩ := ih others
    exact ⟨c :: letters, rfl⟩

/-- Scalar values are the code points of texts. -/
theorem forall_isScalar_iff {points : List Nat} :
    (∀ codePoint ∈ points, IsScalar codePoint) ↔ ∃ text, codePoints text = points := by
  constructor
  · intro scalars
    obtain ⟨letters, same⟩ := exists_letters scalars
    exact ⟨String.ofList letters, by rw [codePoints, String.toList_ofList, same]⟩
  · rintro ⟨text, rfl⟩ codePoint member
    obtain ⟨c, _, rfl⟩ := List.mem_map.1 member
    exact isScalar_toNat c

theorem bytesOf_inj {text other : String} (same : bytesOf text = bytesOf other) :
    text = other :=
  String.toByteArray_inj.1 (ByteArray.ext (Array.toList_inj.1 same))

theorem encode_toNat (c : Char) : encode c.toNat = String.utf8EncodeChar c := by
  have bound : c.toNat ≤ 0x10ffff := by
    have scalar := isScalar_toNat c
    unfold IsScalar at scalar
    omega
  unfold encode String.utf8EncodeChar
  change c.val.toNat ≤ 0x10ffff at bound
  simp only [Char.toNat, Nat.toUInt8]
  generalize c.val.toNat = value at bound
  -- The leading byte has room for all bits that the length of the sequence leaves to it.
  split_ifs <;> first | omega | skip
  · rfl
  · rw [Nat.mod_eq_of_lt (by omega : value / 64 < 0x20), Nat.add_comm 0xc0, Nat.add_comm 0x80]
  · rw [Nat.mod_eq_of_lt (by omega : value / 4096 < 0x10), Nat.add_comm 0xe0, Nat.add_comm 0x80,
      Nat.add_comm 0x80]
  · rw [Nat.mod_eq_of_lt (by omega : value / 262144 < 0x08), Nat.add_comm 0xf0, Nat.add_comm 0x80,
      Nat.add_comm 0x80, Nat.add_comm 0x80]

theorem encodeAll_cons (codePoint : Nat) (codePoints : List Nat) :
    encodeAll (codePoint :: codePoints) = encode codePoint ++ encodeAll codePoints :=
  List.flatMap_cons

/-- The code points of a text are written as the text is in memory. -/
theorem encodeAll_codePoints (text : String) : encodeAll (codePoints text) = bytesOf text := by
  have letters : bytesOf text = text.toList.flatMap String.utf8EncodeChar := by
    rw [bytesOf, ← String.utf8Encode_toList, List.utf8Encode, List.toList_data_toByteArray]
  rw [letters, encodeAll, codePoints, List.flatMap_map]
  exact List.flatMap_congr fun c _ => encode_toNat c

/-- Scalar values are told apart by their bytes. -/
theorem encodeAll_inj {points others : List Nat}
    (scalars : ∀ codePoint ∈ points, IsScalar codePoint)
    (otherScalars : ∀ codePoint ∈ others, IsScalar codePoint)
    (same : encodeAll points = encodeAll others) : points = others := by
  obtain ⟨text, rfl⟩ := forall_isScalar_iff.1 scalars
  obtain ⟨other, rfl⟩ := forall_isScalar_iff.1 otherScalars
  rw [encodeAll_codePoints, encodeAll_codePoints] at same
  rw [bytesOf_inj same]

theorem encode_of_ascii {codePoint : Nat} (ascii : codePoint < 0x80) :
    encode codePoint = [codePoint.toUInt8] :=
  if_pos ascii

theorem encodeAll_of_ascii {points : List Nat} (ascii : ∀ codePoint ∈ points, codePoint < 0x80) :
    encodeAll points = points.map Nat.toUInt8 := by
  rw [encodeAll, List.map_eq_flatMap]
  exact List.flatMap_congr fun codePoint member => encode_of_ascii (ascii codePoint member)

/-- Bytes that lie in ranges, one in each. -/
def Follow (ranges : List ByteRange) (bytes : List UInt8) : Prop :=
  List.Forall₂ (fun range byte => range.contains byte = true) ranges bytes

/-- A byte that begins a sequence, with the bytes that follow it there. -/
def Sequence (first : UInt8) (rest : List UInt8) : Prop :=
  ∃ ranges, followers first = some ranges ∧ Follow ranges rest

theorem ByteRange.contains_iff {range : ByteRange} {byte : UInt8} :
    range.contains byte = true ↔
      range.least.toNat ≤ byte.toNat ∧ byte.toNat ≤ range.greatest.toNat := by
  simp only [contains, decide_eq_true_eq, UInt8.le_iff_toNat_le]

theorem followers_eq (byte : UInt8) : followers byte =
    if byte.toNat < 0x80 then some []
    else if byte.toNat < 0xc2 then none
    else if byte.toNat < 0xe0 then some [continuation]
    else if byte.toNat = 0xe0 then some [⟨0xa0, 0xbf⟩, continuation]
    else if byte.toNat = 0xed then some [⟨0x80, 0x9f⟩, continuation]
    else if byte.toNat < 0xf0 then some [continuation, continuation]
    else if byte.toNat = 0xf0 then some [⟨0x90, 0xbf⟩, continuation, continuation]
    else if byte.toNat < 0xf4 then some [continuation, continuation, continuation]
    else if byte.toNat = 0xf4 then some [⟨0x80, 0x8f⟩, continuation, continuation]
    else none := by
  simp only [followers, UInt8.lt_iff_toNat_lt, ← UInt8.toNat_inj]
  rfl

theorem toNat_toUInt8 {value : Nat} (small : value < 0x100) : value.toUInt8.toNat = value := by
  rw [Nat.toUInt8, UInt8.toNat_ofNat', Nat.mod_eq_of_lt small]

theorem toUInt8_eq {value : Nat} (byte : UInt8) (same : value = byte.toNat) :
    value.toUInt8 = byte := by
  rw [same, Nat.toUInt8, UInt8.ofNat_toNat]

section Lengths

variable {first second third fourth : UInt8}

section Two

variable (lead : 0xc2 ≤ first.toNat ∧ first.toNat < 0xe0)
  (next : 0x80 ≤ second.toNat ∧ second.toNat ≤ 0xbf)
include lead next

theorem sequence_two : Sequence first [second] := by
  refine ⟨[continuation], ?_, .cons (ByteRange.contains_iff.2 next) .nil⟩
  rw [followers_eq, if_neg (by omega), if_neg (by omega), if_pos (by omega)]

theorem exists_encode_two :
    ∃ codePoint, IsScalar codePoint ∧ encode codePoint = [first, second] := by
  refine ⟨(first.toNat - 0xc0) * 0x40 + (second.toNat - 0x80), Or.inl (by omega), ?_⟩
  rw [encode, if_neg (by omega), if_pos (by omega), toUInt8_eq first (by omega),
    toUInt8_eq second (by omega)]

end Two

section Three

variable (lead : 0xe0 ≤ first.toNat ∧ first.toNat < 0xf0)
  (next : 0x80 ≤ second.toNat ∧ second.toNat ≤ 0xbf)
  (last : 0x80 ≤ third.toNat ∧ third.toNat ≤ 0xbf)
  (long : first.toNat = 0xe0 → 0xa0 ≤ second.toNat)
  (unpaired : first.toNat = 0xed → second.toNat ≤ 0x9f)
include lead next last long unpaired

theorem sequence_three : Sequence first [second, third] := by
  have after : Follow [continuation] [third] := .cons (ByteRange.contains_iff.2 last) .nil
  unfold Sequence
  rw [followers_eq, if_neg (by omega), if_neg (by omega), if_neg (by omega)]
  split_ifs with shortest surrogate
  · exact ⟨_, rfl, .cons (ByteRange.contains_iff.2 ⟨long shortest, next.2⟩) after⟩
  · exact ⟨_, rfl, .cons (ByteRange.contains_iff.2 ⟨next.1, unpaired surrogate⟩) after⟩
  · exact ⟨_, rfl, .cons (ByteRange.contains_iff.2 next) after⟩
  all_goals omega

theorem exists_encode_three :
    ∃ codePoint, IsScalar codePoint ∧ encode codePoint = [first, second, third] := by
  refine ⟨(first.toNat - 0xe0) * 0x1000 + (second.toNat - 0x80) * 0x40 + (third.toNat - 0x80),
    by unfold IsScalar; omega, ?_⟩
  rw [encode, if_neg (by omega), if_neg (by omega), if_pos (by omega),
    toUInt8_eq first (by omega), toUInt8_eq second (by omega),
    toUInt8_eq third (by omega)]

end Three

section Four

variable (lead : 0xf0 ≤ first.toNat ∧ first.toNat ≤ 0xf4)
  (next : 0x80 ≤ second.toNat ∧ second.toNat ≤ 0xbf)
  (after : 0x80 ≤ third.toNat ∧ third.toNat ≤ 0xbf)
  (last : 0x80 ≤ fourth.toNat ∧ fourth.toNat ≤ 0xbf)
  (long : first.toNat = 0xf0 → 0x90 ≤ second.toNat)
  (small : first.toNat = 0xf4 → second.toNat ≤ 0x8f)
include lead next after last long small

theorem sequence_four : Sequence first [second, third, fourth] := by
  have others : Follow [continuation, continuation] [third, fourth] :=
    .cons (ByteRange.contains_iff.2 after) (.cons (ByteRange.contains_iff.2 last) .nil)
  unfold Sequence
  rw [followers_eq, if_neg (by omega), if_neg (by omega), if_neg (by omega), if_neg (by omega),
    if_neg (by omega), if_neg (by omega)]
  split_ifs with shortest middle greatest
  · exact ⟨_, rfl, .cons (ByteRange.contains_iff.2 ⟨long shortest, next.2⟩) others⟩
  · exact ⟨_, rfl, .cons (ByteRange.contains_iff.2 next) others⟩
  · exact ⟨_, rfl, .cons (ByteRange.contains_iff.2 ⟨next.1, small greatest⟩) others⟩
  · omega

theorem exists_encode_four :
    ∃ codePoint, IsScalar codePoint ∧ encode codePoint = [first, second, third, fourth] := by
  refine ⟨(first.toNat - 0xf0) * 0x40000 + (second.toNat - 0x80) * 0x1000 +
    (third.toNat - 0x80) * 0x40 + (fourth.toNat - 0x80), by unfold IsScalar; omega, ?_⟩
  rw [encode, if_neg (by omega), if_neg (by omega), if_neg (by omega),
    toUInt8_eq first (by omega), toUInt8_eq second (by omega),
    toUInt8_eq third (by omega), toUInt8_eq fourth (by omega)]

end Four

end Lengths

/-- The bytes of a scalar value are a sequence. -/
theorem exists_sequence {codePoint : Nat} (scalar : IsScalar codePoint) :
    ∃ first rest, encode codePoint = first :: rest ∧ Sequence first rest := by
  unfold IsScalar at scalar
  unfold encode
  split_ifs with one two three
  · refine ⟨_, _, rfl, [], ?_, .nil⟩
    rw [followers_eq, toNat_toUInt8 (by omega), if_pos one]
  · refine ⟨_, _, rfl, sequence_two ?_ ?_⟩ <;>
    · rw [toNat_toUInt8 (by omega)]
      omega
  · refine ⟨_, _, rfl, sequence_three ?_ ?_ ?_ ?_ ?_⟩ <;>
    · repeat rw [toNat_toUInt8 (by omega)]
      omega
  · refine ⟨_, _, rfl, sequence_four ?_ ?_ ?_ ?_ ?_ ?_⟩ <;>
    · repeat rw [toNat_toUInt8 (by omega)]
      omega

/-- Every sequence is that of a scalar value. -/
theorem exists_encode {first : UInt8} {rest : List UInt8} (sequence : Sequence first rest) :
    ∃ codePoint, IsScalar codePoint ∧ encode codePoint = first :: rest := by
  obtain ⟨ranges, begins, follow⟩ := sequence
  rw [followers_eq] at begins
  unfold Follow at follow
  simp only [ByteRange.contains_iff] at follow
  split_ifs at begins with ascii <;> cases begins
  · cases follow
    exact ⟨first.toNat, Or.inl (by omega), by rw [encode_of_ascii ascii, toUInt8_eq first rfl]⟩
  · obtain _ | ⟨next, ⟨⟩⟩ := follow
    exact exists_encode_two (by omega) next
  · obtain _ | ⟨next, _ | ⟨last, ⟨⟩⟩⟩ := follow
    exact exists_encode_three (by omega) ⟨Nat.le_trans (by decide) next.1, next.2⟩ last
      (fun _ => next.1) (by omega)
  · obtain _ | ⟨next, _ | ⟨last, ⟨⟩⟩⟩ := follow
    exact exists_encode_three (by omega) ⟨next.1, Nat.le_trans next.2 (by decide)⟩ last
      (by omega) (fun _ => next.2)
  · obtain _ | ⟨next, _ | ⟨last, ⟨⟩⟩⟩ := follow
    exact exists_encode_three (by omega) next last (by omega) (by omega)
  · obtain _ | ⟨next, _ | ⟨after, _ | ⟨last, ⟨⟩⟩⟩⟩ := follow
    exact exists_encode_four (by omega) ⟨Nat.le_trans (by decide) next.1, next.2⟩ after last
      (fun _ => next.1) (by omega)
  · obtain _ | ⟨next, _ | ⟨after, _ | ⟨last, ⟨⟩⟩⟩⟩ := follow
    exact exists_encode_four (by omega) next after last (by omega) (by omega)
  · obtain _ | ⟨next, _ | ⟨after, _ | ⟨last, ⟨⟩⟩⟩⟩ := follow
    exact exists_encode_four (by omega) ⟨next.1, Nat.le_trans next.2 (by decide)⟩ after last
      (by omega) (fun _ => next.2)

theorem check_append {ranges : List ByteRange} {bytes : List UInt8} (follow : Follow ranges bytes)
    (start seen : Nat) (rest : List UInt8) :
    check start seen ranges (bytes ++ rest) = check start (seen + bytes.length) [] rest := by
  induction follow generalizing seen with
  | nil => rfl
  | cons inside _ ih =>
    rw [List.cons_append, check, if_pos inside, ih, List.length_cons, Nat.add_assoc,
      Nat.add_comm 1]

theorem check_encodeAll {points : List Nat} (scalars : ∀ codePoint ∈ points, IsScalar codePoint)
    (start seen : Nat) : check start seen [] (encodeAll points) = none := by
  induction points generalizing start seen with
  | nil => rfl
  | cons codePoint points ih =>
    obtain ⟨scalar, others⟩ := List.forall_mem_cons.1 scalars
    obtain ⟨first, rest, same, ranges, begins, follow⟩ := exists_sequence scalar
    rw [encodeAll_cons, same, List.cons_append, check, begins]
    simp only [check_append follow]
    exact ih others _ _

/-- Bytes that pass the check inside a sequence end that sequence and go on with whole ones. -/
theorem exists_of_check {start seen : Nat} {awaited : List ByteRange} {bytes : List UInt8}
    (clean : check start seen awaited bytes = none) :
    ∃ taken points, Follow awaited taken ∧ (∀ codePoint ∈ points, IsScalar codePoint) ∧
      bytes = taken ++ encodeAll points := by
  induction bytes generalizing start seen awaited with
  | nil =>
    cases awaited with
    | nil => exact ⟨[], [], .nil, nofun, rfl⟩
    | cons => cases clean
  | cons byte bytes ih =>
    cases awaited with
    | nil =>
      cases begins : followers byte with
      | none =>
        rw [check, begins] at clean
        cases clean
      | some ranges =>
        rw [check, begins] at clean
        obtain ⟨taken, points, follow, scalars, rfl⟩ := ih clean
        obtain ⟨codePoint, scalar, same⟩ := exists_encode ⟨ranges, begins, follow⟩
        refine ⟨[], codePoint :: points, .nil, List.forall_mem_cons.2 ⟨scalar, scalars⟩, ?_⟩
        rw [encodeAll_cons, same, List.nil_append, List.cons_append]
    | cons range awaited =>
      by_cases inside : range.contains byte = true
      · rw [check, if_pos inside] at clean
        obtain ⟨taken, points, follow, scalars, rfl⟩ := ih clean
        exact ⟨byte :: taken, points, .cons inside follow, scalars, rfl⟩
      · rw [check, if_neg inside] at clean
        cases clean

/-- The bytes without a fault are those of texts. -/
theorem fault?_eq_none_iff {bytes : List UInt8} :
    fault? bytes = none ↔ ∃ text, bytesOf text = bytes := by
  constructor
  · intro clean
    obtain ⟨taken, points, nothing, scalars, rfl⟩ := exists_of_check clean
    cases nothing
    obtain ⟨text, rfl⟩ := forall_isScalar_iff.1 scalars
    exact ⟨text, (encodeAll_codePoints text).symm⟩
  · rintro ⟨text, rfl⟩
    rw [← encodeAll_codePoints]
    exact check_encodeAll (forall_isScalar_iff.2 ⟨text, rfl⟩) 0 0

end FrameIngest.Utf8
