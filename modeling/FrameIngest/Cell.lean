import FrameIngest.Decimal.Text
import FrameIngest.Text.Utf8

namespace FrameIngest

/-- A cell as the host hands it over. -/
inductive Cell
  | none
  | nan
  | bytes (content : List UInt8)
  /-- Code points in the wide form of the host, which need not be valid. -/
  | wide (codePoints : List Nat)
  deriving DecidableEq, Inhabited

/-- The encoding that a string column holds its cells to. -/
inductive StringEncoding
  | ascii | utf8
  deriving DecidableEq

/-- Why a cell has no content under an encoding. -/
inductive EncodingFailure
  | invalidUtf8 (fault : Utf8.Fault)
  | nonAscii (codePoint : Nat)
  | invalidCodePoint (codePoint : Nat)
  /-- A reason that the caller puts in words. -/
  | described (reason : String)
  deriving DecidableEq

def EncodingFailure.message : EncodingFailure → String
  | .invalidUtf8 fault => s!"invalid UTF-8: {fault.message}"
  | .nonAscii codePoint =>
    let digits := (Decimal.padLeft 4 '0' (Decimal.hexadecimal codePoint)).map Char.toUpper
    s!"non-ASCII code point U+{String.ofList digits} in an ASCII column"
  | .invalidCodePoint codePoint =>
    s!"invalid code point 0x{String.ofList (Decimal.hexadecimal codePoint)}"
  | .described reason => reason

/-- A cell that could not be encoded. The row counts from the first row that was to be written. -/
structure EncodingError where
  row : Nat
  reason : EncodingFailure
  deriving DecidableEq

def EncodingError.message (e : EncodingError) : String :=
  s!"string encoding error at slice row {e.row}: {e.reason.message}"

/-- The offset of a cell without a value. -/
def missingOffset : Nat := UInt64.size - 1

/-- The offset of a NaN. -/
def nanOffset : Nat := UInt64.size - 2

def isString (offset : Nat) : Bool :=
  offset ≠ missingOffset ∧ offset ≠ nanOffset

/-- What is stored for a cell: an offset that stands for no string, or the content of a string. -/
inductive EncodedCell
  | sentinel (offset : Nat)
  | content (bytes : List UInt8)
  deriving DecidableEq

def isAscii (codePoint : Nat) : Bool :=
  codePoint < 0x80

namespace Cell

/-- Whether the content of the cell has to be decoded under the shared lock: code points outside
ASCII in a UTF-8 column. -/
def needsLock (encoding : StringEncoding) : Cell → Bool
  | wide codePoints => encoding = .utf8 ∧ ¬codePoints.all isAscii
  | _ => false

/-- The UTF-8 form of code points, unless one of them is no scalar value. -/
def encodeWide (codePoints : List Nat) : Except EncodingFailure EncodedCell :=
  match codePoints.find? fun codePoint => ¬Utf8.IsScalar codePoint with
  | some codePoint => .error (.invalidCodePoint codePoint)
  | Option.none => .ok (.content (Utf8.encodeAll codePoints))

/-- What is stored for a cell. Bytes are taken as they are in ASCII columns, and must be UTF-8 in
UTF-8 columns. ASCII code points become single bytes in columns of either encoding. -/
def encode (encoding : StringEncoding) : Cell → Except EncodingFailure EncodedCell
  | none => .ok (.sentinel missingOffset)
  | nan => .ok (.sentinel nanOffset)
  | bytes content =>
    match encoding with
    | .ascii => .ok (.content content)
    | .utf8 =>
      match Utf8.fault? content with
      | some fault => .error (.invalidUtf8 fault)
      | Option.none => .ok (.content content)
  | wide codePoints =>
    match codePoints.find? fun codePoint => ¬isAscii codePoint with
    | Option.none => .ok (.content (codePoints.map Nat.toUInt8))
    | some codePoint =>
      match encoding with
      | .ascii => .error (.nonAscii codePoint)
      | .utf8 => encodeWide codePoints

end Cell

end FrameIngest
