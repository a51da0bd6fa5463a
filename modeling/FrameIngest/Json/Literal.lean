import FrameIngest.Json.Fault

namespace FrameIngest.Json

/-- What stands between the quotes: a character, written plainly or by a short escape, or the
UTF-16 unit of a numeric escape. -/
inductive Piece
  | char (c : Char)
  | unit (value : Nat)
  deriving DecidableEq

/-- A string as it is written, as far as it can be read. -/
structure Literal where
  pieces : List Piece
  fault : Option Fault
  deriving DecidableEq

/-- The value of a hexadecimal digit. -/
def hexDigit? (c : Char) : Option Nat :=
  if '0' ≤ c ∧ c ≤ '9' then some (c.toNat - '0'.toNat)
  else if 'a' ≤ c ∧ c ≤ 'f' then some (c.toNat - 'a'.toNat + 10)
  else if 'A' ≤ c ∧ c ≤ 'F' then some (c.toNat - 'A'.toNat + 10)
  else none

/-- The character that a short escape stands for. -/
def shortEscape? : Char → Option Char
  | '"' => some '"'
  | '\\' => some '\\'
  | '/' => some '/'
  | 'b' => some '\x08'
  | 'f' => some '\x0c'
  | 'n' => some '\n'
  | 'r' => some '\r'
  | 't' => some '\t'
  | _ => none

/-- The number that four hexadecimal digits write. -/
def hexUnit? (a b c d : Char) : Option Nat :=
  match hexDigit? a, hexDigit? b, hexDigit? c, hexDigit? d with
  | some a, some b, some c, some d => some (((a * 16 + b) * 16 + c) * 16 + d)
  | _, _, _, _ => none

/-- The number of bytes of a text in UTF-8. -/
def utf8Length (text : List Char) : Nat :=
  text.foldr (fun c length => c.utf8Size + length) 0

namespace Literal

/-- A string that breaks off at once. -/
def broken (fault : Fault) : Literal × List Char :=
  (⟨[], some fault⟩, [])

def cons (piece : Piece) (read : Literal × List Char) : Literal × List Char :=
  (⟨piece :: read.1.pieces, read.1.fault⟩, read.2)

/-- Reads what follows an opening quote, up to and with the closing one, and returns it with the
rest of the text. A numeric escape is cut short by the end of the text if fewer than four bytes
follow. -/
def read : List Char → Literal × List Char
  | [] => broken .truncated
  | '"' :: rest => (⟨[], none⟩, rest)
  | ['\\'] => broken .truncated
  | '\\' :: 'u' :: a :: b :: c :: d :: rest =>
    match hexUnit? a b c d with
    | some value => cons (.unit value) (read rest)
    | none => broken .malformed
  | '\\' :: 'u' :: rest => broken (if utf8Length rest < 4 then .truncated else .malformed)
  | '\\' :: escape :: rest =>
    match shortEscape? escape with
    | some c => cons (.char c) (read rest)
    | none => broken .malformed
  | c :: rest => if c.toNat < 0x20 then broken .malformed else cons (.char c) (read rest)

def isHighSurrogate (unit : Nat) : Bool :=
  0xd800 ≤ unit ∧ unit < 0xdc00

def isLowSurrogate (unit : Nat) : Bool :=
  0xdc00 ≤ unit ∧ unit < 0xe000

/-- The character of a surrogate pair. -/
def pair (high low : Nat) : Char :=
  Char.ofNat (0x10000 + (high - 0xd800) * 0x400 + (low - 0xdc00))

/-- The characters of the pieces; a surrogate must belong to a pair. -/
def charsOf : List Piece → Option Fault → Except Fault (List Char)
  | [], none => .ok []
  | [], some fault => .error fault
  | .char c :: pieces, fault => (c :: ·) <$> charsOf pieces fault
  | [.unit value], fault =>
    if isHighSurrogate value then .error (fault.getD .malformed)
    else if isLowSurrogate value then .error .malformed
    else (Char.ofNat value :: ·) <$> charsOf [] fault
  | .unit value :: .unit next :: pieces, fault =>
    if isHighSurrogate value then
      if isLowSurrogate next then (pair value next :: ·) <$> charsOf pieces fault
      else .error .malformed
    else if isLowSurrogate value then .error .malformed
    else (Char.ofNat value :: ·) <$> charsOf (.unit next :: pieces) fault
  | .unit value :: .char c :: pieces, fault =>
    if isHighSurrogate value ∨ isLowSurrogate value then .error .malformed
    else (Char.ofNat value :: ·) <$> charsOf (.char c :: pieces) fault

/-- The text that the string stands for. -/
def text (literal : Literal) : Except Fault String :=
  String.ofList <$> charsOf literal.pieces literal.fault

/-- Accepts a string for its form alone. -/
def skip (literal : Literal) : Except Fault Unit :=
  match literal.fault with
  | none => .ok ()
  | some fault => .error fault

end Literal

end FrameIngest.Json
