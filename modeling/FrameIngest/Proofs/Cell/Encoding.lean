import Mathlib
import FrameIngest.Cell
import FrameIngest.Json.Literal
import FrameIngest.Proofs.Text.Utf8

namespace FrameIngest

namespace Decimal

/-- The number that hexadecimal digits write, small or capital ones. -/
def ofHexadecimal (digits : List Char) : Nat :=
  digits.foldl (fun value digit => value * 16 + (Json.hexDigit? digit).getD 0) 0

/-- Digits are read back in whatever shape they are written, if each of the sixteen is. -/
theorem ofHexadecimal_map {shape : Char → Char}
    (each : ∀ digit < 16, Json.hexDigit? (shape (Nat.digitChar digit)) = some digit)
    (value : Nat) : ofHexadecimal ((hexadecimal value).map shape) = value := by
  induction value using Nat.strongRecOn with
  | ind value ih =>
    rw [hexadecimal, Nat.toDigits_eq_if (by decide)]
    split
    · rename_i single
      simp [ofHexadecimal, each value single]
    · have rest := ih (value / 16) (by omega)
      rw [hexadecimal, ofHexadecimal] at rest
      rw [ofHexadecimal, List.map_append, List.foldl_append, rest]
      simp only [List.map_cons, List.map_nil, List.foldl_cons, List.foldl_nil,
        each (value % 16) (Nat.mod_lt _ (by decide)), Option.getD_some]
      omega

theorem ofHexadecimal_hexadecimal (value : Nat) : ofHexadecimal (hexadecimal value) = value := by
  have plain := @ofHexadecimal_map id (by decide) value
  rwa [List.map_id] at plain

/-- Neither capitals nor zeros on the left change the number. -/
theorem ofHexadecimal_padLeft (width value : Nat) :
    ofHexadecimal ((padLeft width '0' (hexadecimal value)).map Char.toUpper) = value := by
  have zeros (count : Nat) : ofHexadecimal (List.replicate count '0') = 0 := by
    induction count with
    | zero => rfl
    | succ count ih => exact ih
  rw [padLeft, List.map_append, List.map_replicate, show Char.toUpper '0' = '0' from rfl,
    ofHexadecimal, List.foldl_append]
  have none_before := zeros (width - (hexadecimal value).length)
  rw [ofHexadecimal] at none_before
  rw [none_before]
  exact ofHexadecimal_map (by decide) value

end Decimal

namespace StringEncoding

/-- The code points that a column takes. -/
def Admits (encoding : StringEncoding) (codePoint : Nat) : Prop :=
  match encoding with
  | .ascii => codePoint < 0x80
  | .utf8 => Utf8.IsScalar codePoint

instance (encoding : StringEncoding) (codePoint : Nat) : Decidable (encoding.Admits codePoint) :=
  match encoding with
  | .ascii => inferInstanceAs (Decidable (codePoint < 0x80))
  | .utf8 => inferInstanceAs (Decidable (Utf8.IsScalar codePoint))

/-- What a column reports of a code point that it does not take. -/
def refusal : StringEncoding → Nat → EncodingFailure
  | .ascii => .nonAscii
  | .utf8 => .invalidCodePoint

/-- A report tells which code point it is about. -/
theorem eq_of_refusal_message {encoding : StringEncoding} {codePoint other : Nat}
    (same : (encoding.refusal other).message = (encoding.refusal codePoint).message) :
    other = codePoint := by
  cases encoding with
  | ascii =>
    have shown := (String.append_right_inj _).1 ((String.append_left_inj _).1 same)
    have digits := congrArg Decimal.ofHexadecimal (String.ofList_inj.1 shown)
    rwa [Decimal.ofHexadecimal_padLeft, Decimal.ofHexadecimal_padLeft] at digits
  | utf8 =>
    have shown := (String.append_right_inj _).1 same
    have digits := congrArg Decimal.ofHexadecimal (String.ofList_inj.1 shown)
    rwa [Decimal.ofHexadecimal_hexadecimal, Decimal.ofHexadecimal_hexadecimal] at digits

end StringEncoding

namespace Cell

variable {encoding : StringEncoding} {points : List Nat} {encoded : EncodedCell}

theorem find?_not_isAscii (points : List Nat) :
    (points.find? fun codePoint => ¬isAscii codePoint) =
      points.find? fun codePoint => ¬StringEncoding.ascii.Admits codePoint := by
  refine congrArg (points.find? ·) (funext fun codePoint => ?_)
  simp only [isAscii, decide_eq_true_eq, StringEncoding.Admits]
  rfl

theorem forall_admits_of_find?
    (clean : (points.find? fun codePoint => ¬encoding.Admits codePoint) = Option.none) :
    ∀ codePoint ∈ points, encoding.Admits codePoint := by
  simpa using clean

/-- Code points are written in UTF-8 in columns of either encoding, unless one of them is not taken
there; then the first such one is reported. -/
theorem encode_wide (encoding : StringEncoding) (points : List Nat) :
    (wide points).encode encoding =
      match points.find? fun codePoint => ¬encoding.Admits codePoint with
      | some codePoint => .error (encoding.refusal codePoint)
      | Option.none => .ok (.content (Utf8.encodeAll points)) := by
  rw [encode, find?_not_isAscii]
  cases found : points.find? fun codePoint => ¬StringEncoding.ascii.Admits codePoint with
  | none =>
    have ascii : ∀ codePoint ∈ points, codePoint < 0x80 := forall_admits_of_find? found
    rw [← Utf8.encodeAll_of_ascii ascii]
    cases encoding with
    | ascii => rw [found]
    | utf8 =>
      have clean : (points.find? fun codePoint => ¬StringEncoding.utf8.Admits codePoint) =
          Option.none := by
        rw [List.find?_eq_none]
        intro codePoint member
        have small := ascii codePoint member
        simp only [decide_eq_true_eq, not_not]
        exact Or.inl (by omega)
      rw [clean]
  | some codePoint =>
    cases encoding with
    | ascii => rw [found]; rfl
    | utf8 => rfl

theorem encode_wide_eq_ok_iff : (wide points).encode encoding = .ok encoded ↔
    (∀ codePoint ∈ points, encoding.Admits codePoint) ∧
      encoded = .content (Utf8.encodeAll points) := by
  rw [encode_wide]
  cases found : points.find? fun codePoint => ¬encoding.Admits codePoint with
  | none =>
    have all := forall_admits_of_find? found
    simp only [Except.ok.injEq]
    exact ⟨fun same => ⟨all, same.symm⟩, fun same => same.2.symm⟩
  | some codePoint =>
    refine iff_of_false nofun fun ⟨all, _⟩ => ?_
    have refused := List.find?_some found
    simp only [decide_eq_true_eq] at refused
    exact refused (all codePoint (List.mem_of_find?_eq_some found))

/-- A refused cell is reported for the first code point that is not taken. -/
theorem encode_wide_eq_error_iff {reason : EncodingFailure} :
    (wide points).encode encoding = .error reason ↔
      ∃ before codePoint after, points = before ++ codePoint :: after ∧
        (∀ earlier ∈ before, encoding.Admits earlier) ∧ ¬encoding.Admits codePoint ∧
        reason = encoding.refusal codePoint := by
  have first (codePoint : Nat) :
      (points.find? fun codePoint => ¬encoding.Admits codePoint) = some codePoint ↔
        ∃ before after, points = before ++ codePoint :: after ∧
          (∀ earlier ∈ before, encoding.Admits earlier) ∧ ¬encoding.Admits codePoint := by
    rw [List.find?_eq_some_iff_append]
    simp only [decide_not, Bool.not_not, decide_eq_true_eq, Bool.not_eq_true',
      decide_eq_false_iff_not]
    constructor
    · rintro ⟨refused, before, after, split, taken⟩
      exact ⟨before, after, split, taken, refused⟩
    · rintro ⟨before, after, split, taken, refused⟩
      exact ⟨refused, before, after, split, taken⟩
  rw [encode_wide]
  constructor
  · intro failed
    cases found : points.find? fun codePoint => ¬encoding.Admits codePoint with
    | none =>
      rw [found] at failed
      cases failed
    | some codePoint =>
      rw [found] at failed
      obtain ⟨before, after, split, taken, refused⟩ := (first codePoint).1 found
      exact ⟨before, codePoint, after, split, taken, refused, (Except.error.inj failed).symm⟩
  · rintro ⟨before, codePoint, after, split, taken, refused, rfl⟩
    rw [(first codePoint).2 ⟨before, after, split, taken, refused⟩]

theorem encode_bytes_eq_ok_iff {content : List UInt8} :
    (bytes content).encode .utf8 = .ok encoded ↔
      encoded = .content content ∧ ∃ text, Utf8.bytesOf text = content := by
  rw [← Utf8.fault?_eq_none_iff, encode]
  cases Utf8.fault? content with
  | none => simp [eq_comm]
  | some fault => simp

theorem isScalar_iff_bounds {codePoint : Nat} : StringEncoding.utf8.Admits codePoint ↔
    codePoint ≤ 0x10ffff ∧ ¬(0xd800 ≤ codePoint ∧ codePoint ≤ 0xdfff) := by
  change Utf8.IsScalar codePoint ↔ _
  unfold Utf8.IsScalar
  omega

/-- The content of a cell in a UTF-8 column is a text. -/
theorem exists_text_of_encode {cell : Cell} {content : List UInt8}
    (encodes : cell.encode .utf8 = .ok (.content content)) :
    ∃ text, Utf8.bytesOf text = content := by
  cases cell with
  | none => cases encodes
  | nan => cases encodes
  | bytes given =>
    obtain ⟨same, text⟩ := encode_bytes_eq_ok_iff.1 encodes
    cases same
    exact text
  | wide points =>
    obtain ⟨scalars, same⟩ := encode_wide_eq_ok_iff.1 encodes
    cases same
    obtain ⟨text, rfl⟩ := Utf8.forall_isScalar_iff.1 scalars
    exact ⟨text, (Utf8.encodeAll_codePoints text).symm⟩

theorem encode_wide_of_ascii (ascii : ∀ codePoint ∈ points, codePoint < 0x80) :
    (wide points).encode encoding = .ok (.content (points.map Nat.toUInt8)) := by
  rw [encode_wide_eq_ok_iff, Utf8.encodeAll_of_ascii ascii]
  refine ⟨fun codePoint member => ?_, rfl⟩
  have small := ascii codePoint member
  cases encoding with
  | ascii => exact small
  | utf8 => exact Or.inl (by omega)

/-- Without the shortcut for ASCII a cell has the same content. -/
theorem encodeWide_eq_encode (points : List Nat) :
    encodeWide points = (wide points).encode .utf8 := by
  rw [encode_wide]
  rfl

/-- In UTF-8 columns byte cells are taken if they are the bytes of a text, and wide cells if they
are its code points. The content is the bytes of the text, with or without the shortcut for ASCII,
so that it tells which text it is. In ASCII columns all bytes are taken, and the code points below
0x80. Of the code points that are not taken the first is reported, and the report tells which it
is. -/
theorem encode_exact :
    (∀ content encoded, (bytes content).encode .utf8 = .ok encoded ↔
      encoded = .content content ∧ ∃ text, Utf8.bytesOf text = content) ∧
    (∀ points encoded, (wide points).encode .utf8 = .ok encoded ↔
      (∀ codePoint ∈ points,
        codePoint ≤ 0x10ffff ∧ ¬(0xd800 ≤ codePoint ∧ codePoint ≤ 0xdfff)) ∧
      ∃ text, Utf8.codePoints text = points ∧ encoded = .content (Utf8.bytesOf text)) ∧
    (∀ points : List Nat, (∀ codePoint ∈ points, codePoint < 0x80) →
      (wide points).encode .utf8 = .ok (.content (points.map Nat.toUInt8)) ∧
        encodeWide points = .ok (.content (points.map Nat.toUInt8))) ∧
    (∀ (cell : Cell) content, cell.encode .utf8 = .ok (.content content) →
      ∃ text, Utf8.bytesOf text = content) ∧
    (∀ points others encoded, (wide points).encode .utf8 = .ok encoded →
      (wide others).encode .utf8 = .ok encoded → points = others) ∧
    (∀ content points encoded, (wide points).encode .utf8 = .ok encoded →
      ((bytes content).encode .utf8 = .ok encoded ↔ content = Utf8.encodeAll points)) ∧
    (∀ content, (bytes content).encode .ascii = .ok (.content content)) ∧
    (∀ points encoded, (wide points).encode .ascii = .ok encoded ↔
      (∀ codePoint ∈ points, codePoint < 0x80) ∧
        encoded = .content (points.map Nat.toUInt8)) ∧
    ∀ (encoding : StringEncoding) points reason, (wide points).encode encoding = .error reason ↔
      ∃ before codePoint after, points = before ++ codePoint :: after ∧
        (∀ earlier ∈ before, encoding.Admits earlier) ∧ ¬encoding.Admits codePoint ∧
        reason = encoding.refusal codePoint ∧
        ∀ other, (encoding.refusal other).message = reason.message → other = codePoint := by
  refine ⟨fun content encoded => encode_bytes_eq_ok_iff, fun points encoded => ?_,
    fun points ascii => ⟨encode_wide_of_ascii ascii, ?_⟩, fun cell content => exists_text_of_encode,
    fun points others encoded taken also => ?_, fun content points encoded taken => ?_,
    fun content => rfl, fun points encoded => ?_, fun encoding points reason => ?_⟩
  · rw [encode_wide_eq_ok_iff]
    simp only [← isScalar_iff_bounds]
    refine and_congr_right fun scalars => ?_
    constructor
    · rintro rfl
      obtain ⟨text, rfl⟩ := Utf8.forall_isScalar_iff.1 scalars
      exact ⟨text, rfl, by rw [Utf8.encodeAll_codePoints]⟩
    · rintro ⟨text, rfl, rfl⟩
      rw [Utf8.encodeAll_codePoints]
  · rw [encodeWide_eq_encode]
    exact encode_wide_of_ascii ascii
  · obtain ⟨scalars, rfl⟩ := encode_wide_eq_ok_iff.1 taken
    obtain ⟨otherScalars, same⟩ := encode_wide_eq_ok_iff.1 also
    exact Utf8.encodeAll_inj scalars otherScalars (EncodedCell.content.inj same)
  · obtain ⟨scalars, rfl⟩ := encode_wide_eq_ok_iff.1 taken
    rw [encode_bytes_eq_ok_iff, EncodedCell.content.injEq]
    refine ⟨fun same => same.1.symm, ?_⟩
    rintro rfl
    exact ⟨rfl, exists_text_of_encode taken⟩
  · rw [encode_wide_eq_ok_iff]
    exact and_congr_right fun ascii => by rw [Utf8.encodeAll_of_ascii ascii]
  · rw [encode_wide_eq_error_iff]
    constructor
    · rintro ⟨before, codePoint, after, split, taken, refused, rfl⟩
      exact ⟨before, codePoint, after, split, taken, refused, rfl,
        fun other => StringEncoding.eq_of_refusal_message⟩
    · rintro ⟨before, codePoint, after, split, taken, refused, same, _⟩
      exact ⟨before, codePoint, after, split, taken, refused, same⟩

/-- An accented letter is the same text as bytes and as a code point, and a surrogate behind it is
none. -/
theorem encode_exact_accented :
    (wide [0xe9]).encode .utf8 = .ok (.content [0xc3, 0xa9]) ∧
      (bytes [0xc3, 0xa9]).encode .utf8 = .ok (.content [0xc3, 0xa9]) ∧
      (∃ text, Utf8.bytesOf text = [0xc3, 0xa9]) ∧
      (wide [0x61, 0xe9, 0xd800]).encode .utf8 = .error (.invalidCodePoint 0xd800) := by
  obtain ⟨_, _, _, texts, _, same, _, _, refused⟩ := encode_exact
  have taken : (wide [0xe9]).encode .utf8 = .ok (.content [0xc3, 0xa9]) := rfl
  have again := (same [0xc3, 0xa9] [0xe9] _ taken).2 rfl
  exact ⟨taken, again, texts _ _ again, (refused .utf8 _ _).2
    ⟨[0x61, 0xe9], 0xd800, [], rfl, by decide, by decide, rfl,
      fun _ => StringEncoding.eq_of_refusal_message⟩⟩

end Cell

end FrameIngest
