import FrameIngest.Decimal.Shortest

namespace FrameIngest.Decimal

/-- Decimal digits of a natural number. -/
def natural (value : Nat) : List Char :=
  Nat.toDigits 10 value

/-- Decimal digits of a whole number, after a sign if it is negative. -/
def whole : Int → List Char
  | .ofNat value => natural value
  | .negSucc value => '-' :: natural (value + 1)

/-- Fills a text on the left up to a width. -/
def padLeft (width : Nat) (fill : Char) (text : List Char) : List Char :=
  List.replicate (width - text.length) fill ++ text

/-- Hexadecimal digits, lower case. -/
def hexadecimal (value : Nat) : List Char :=
  Nat.toDigits 16 value

/-- Which exponents of the leading digit are written without an exponent: from -5 to 15. -/
def isPositional (exponent : Int) : Bool :=
  -5 ≤ exponent ∧ exponent ≤ 15

/-- A decimal with a point and at least one digit on either side of it. -/
def positional (digits : List Char) (exponent : Int) : List Char :=
  if 0 ≤ exponent then digits ++ List.replicate exponent.toNat '0' ++ ['.', '0']
  else
    let places := (-exponent).toNat
    let padded := padLeft (places + 1) '0' digits
    padded.take (padded.length - places) ++ '.' :: padded.drop (padded.length - places)

/-- A decimal with one digit before the point, none after it if there is no more, and an exponent
with its sign. -/
def scientific (digits : List Char) (exponent : Int) : List Char :=
  let mantissa := match digits with
    | [] => []
    | [digit] => [digit]
    | digit :: rest => digit :: '.' :: rest
  let sign := if exponent < 0 then '-' else '+'
  mantissa ++ 'e' :: sign :: natural exponent.natAbs

/-- The text of a finite floating point number of 64 bits: the fewest digits that read back,
positional or scientific. -/
def float (bits : UInt64) : List Char :=
  let sign := if bits.toNat < 0x8000000000000000 then [] else ['-']
  match ofBits? bits with
  | none => sign ++ ['0', '.', '0']
  | some decimal =>
    let digits := natural decimal.digits
    let leading := decimal.exponent + (digits.length - 1 : Nat)
    sign ++ if isPositional leading then positional digits decimal.exponent
      else scientific digits leading

end FrameIngest.Decimal
