import FrameIngest.Json.Fault

namespace FrameIngest.Json

/-- A number as it is written: sign, digits before the point, digits after it, and the sign and
digits of the exponent. Digits are values from 0 to 9, the most significant first. -/
structure Numeral where
  negative : Bool
  whole : List Nat
  fraction : Option (List Nat)
  exponent : Option (Bool × List Nat)
  deriving DecidableEq

/-- A number, either whole or in the bits of a floating point number. -/
inductive Number
  | integer (value : Int)
  | float (bits : UInt64)
  deriving DecidableEq, Inhabited

namespace Numeral

/-- Appends decimal digits to a significand for as long as it stays below 2^64, and returns it
with the digits that are left. -/
def absorb : Nat → List Nat → Nat × List Nat
  | significand, [] => (significand, [])
  | significand, digit :: digits =>
    if significand * 10 + digit < UInt64.size then absorb (significand * 10 + digit) digits
    else (significand, digit :: digits)

/-- The number that the digits write. -/
def ofDigits (digits : List Nat) : Nat :=
  digits.foldl (fun value digit => value * 10 + digit) 0

/-- Divides by 10^308 until the exponent that remains is at most that far below zero, or until
nothing is left of the number. -/
def lower (value : Float) (exponent : Nat) : Float :=
  if exponent ≤ 308 then value / Float.ofScientific 1 false exponent
  else if value == 0 then value
  else lower (value / Float.ofScientific 1 false 308) (exponent - 308)
termination_by exponent

/-- The floating point number significand · 10^exponent, or none if it is too large. -/
def scale (significand : Nat) (exponent : Int) : Option Float :=
  let value := significand.toUInt64.toFloat
  if exponent < 0 then some (lower value exponent.natAbs)
  else if exponent ≤ 308 then
    let scaled := value * Float.ofScientific 1 false exponent.natAbs
    if scaled.isInf then none else some scaled
  else if value == 0 then some value
  else none

def signed (negative : Bool) (value : Float) : Number :=
  .float (if negative then -value else value).toBits

/-- The value of a whole number whose digits fit into 64 bits. There is no whole negative zero,
and no whole number below -2^63. -/
def wholeValue (negative : Bool) (significand : Nat) : Number :=
  if !negative then .integer significand
  else if significand = 0 ∨ 0x8000000000000000 < significand then
    signed true significand.toUInt64.toFloat
  else .integer (-significand)

/-- The value of a number from its sign, significand and the power of ten that belongs to it, and
the written exponent. A written exponent of 2^31 or more leaves only zero or no number at all. -/
def scaledValue (negative : Bool) (significand : Nat) (power : Int) :
    Option (Bool × List Nat) → Except Fault Number
  | none => finish power
  | some (down, digits) =>
    let written := ofDigits digits
    if 0x80000000 ≤ written then
      if significand ≠ 0 ∧ !down then .error .malformed else .ok (signed negative 0)
    else finish (if down then power - written else power + written)
where
  finish (exponent : Int) : Except Fault Number :=
    match scale significand exponent with
    | some value => .ok (signed negative value)
    | none => .error .malformed

/-- The value of a numeral, unless it lies outside the range of floating point numbers. -/
def value (numeral : Numeral) : Except Fault Number :=
  let (significand, skipped) := absorb 0 numeral.whole
  match numeral.fraction, numeral.exponent, skipped with
  | none, none, [] => .ok (wholeValue numeral.negative significand)
  | none, exponent, _ => scaledValue numeral.negative significand skipped.length exponent
  | some fraction, exponent, _ =>
    let (significand, ignored) := absorb significand fraction
    let absorbed := fraction.length - ignored.length
    scaledValue numeral.negative significand (skipped.length - absorbed) exponent

end Numeral

end FrameIngest.Json
