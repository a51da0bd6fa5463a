namespace FrameIngest.Utf8

/-- A Unicode scalar value: a code point that is not a surrogate. -/
def IsScalar (codePoint : Nat) : Prop :=
  codePoint < 0xd800 ∨ 0xdfff < codePoint ∧ codePoint ≤ 0x10ffff

instance (codePoint : Nat) : Decidable (IsScalar codePoint) :=
  inferInstanceAs (Decidable (_ ∨ _ ∧ _))

/-- The bytes of a scalar value. -/
def encode (codePoint : Nat) : List UInt8 :=
  if codePoint < 0x80 then [codePoint.toUInt8]
  else if codePoint < 0x800 then
    [(0xc0 + codePoint / 0x40).toUInt8, (0x80 + codePoint % 0x40).toUInt8]
  else if codePoint < 0x10000 then
    [(0xe0 + codePoint / 0x1000).toUInt8, (0x80 + codePoint / 0x40 % 0x40).toUInt8,
      (0x80 + codePoint % 0x40).toUInt8]
  else
    [(0xf0 + codePoint / 0x40000).toUInt8, (0x80 + codePoint / 0x1000 % 0x40).toUInt8,
      (0x80 + codePoint / 0x40 % 0x40).toUInt8, (0x80 + codePoint % 0x40).toUInt8]

/-- The bytes of a sequence of scalar values. -/
def encodeAll (codePoints : List Nat) : List UInt8 :=
  codePoints.flatMap encode

/-- A range of bytes, both ends included. -/
structure ByteRange where
  least : UInt8
  greatest : UInt8
  deriving DecidableEq

def ByteRange.contains (range : ByteRange) (byte : UInt8) : Bool :=
  range.least ≤ byte ∧ byte ≤ range.greatest

/-- The bytes that continue a sequence. -/
def continuation : ByteRange := ⟨0x80, 0xbf⟩

/-- The ranges of the bytes that must follow the first byte of a sequence; none if the byte begins
no sequence. -/
def followers (byte : UInt8) : Option (List ByteRange) :=
  if byte < 0x80 then some []
  else if byte < 0xc2 then none
  else if byte < 0xe0 then some [continuation]
  else if byte = 0xe0 then some [⟨0xa0, 0xbf⟩, continuation]
  else if byte = 0xed then some [⟨0x80, 0x9f⟩, continuation]
  else if byte < 0xf0 then some [continuation, continuation]
  else if byte = 0xf0 then some [⟨0x90, 0xbf⟩, continuation, continuation]
  else if byte < 0xf4 then some [continuation, continuation, continuation]
  else if byte = 0xf4 then some [⟨0x80, 0x8f⟩, continuation, continuation]
  else none

/-- The first fault of a byte string: where its sequence begins, and how many bytes of it are good
for nothing. A sequence that the end of the string cuts short has no such count. -/
structure Fault where
  start : Nat
  length : Option Nat
  deriving DecidableEq

/-- Checks the rest of a byte string inside a sequence of which `seen` bytes were read from `start`
on and `awaited` are to come. -/
def check : (start seen : Nat) → (awaited : List ByteRange) → List UInt8 → Option Fault
  | _, _, [], [] => none
  | start, _, _ :: _, [] => some ⟨start, none⟩
  | start, seen, [], byte :: bytes =>
    match followers byte with
    | some awaited => check (start + seen) 1 awaited bytes
    | none => some ⟨start + seen, some 1⟩
  | start, seen, range :: awaited, byte :: bytes =>
    if range.contains byte then check start (seen + 1) awaited bytes
    else some ⟨start, some seen⟩

/-- The first fault of a byte string, if it is not UTF-8. -/
def fault? (bytes : List UInt8) : Option Fault :=
  check 0 0 [] bytes

def Fault.message (fault : Fault) : String :=
  match fault.length with
  | some length => s!"invalid utf-8 sequence of {length} bytes from index {fault.start}"
  | none => s!"incomplete utf-8 byte sequence from index {fault.start}"

end FrameIngest.Utf8
