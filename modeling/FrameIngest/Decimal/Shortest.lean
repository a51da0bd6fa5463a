namespace FrameIngest

/-- A positive decimal number digits · 10^exponent. -/
structure Decimal where
  digits : Nat
  exponent : Int
  deriving DecidableEq

namespace Decimal

/-- A positive number with the interval of numbers that round to it. All three are counted in
units of `numerator / denominator`; the ends belong to the interval if `closed`. -/
structure Rounding where
  low : Nat
  value : Nat
  high : Nat
  numerator : Nat
  denominator : Nat
  closed : Bool

namespace Rounding

/-- The numbers that round to significand · 2^power. Below a power of two the numbers lie twice as
close, unless it is the smallest of the normal ones. -/
def ofBinary (significand : Nat) (power : Int) (narrow : Bool) : Rounding where
  low := if narrow then 4 * significand - 1 else 4 * significand - 2
  value := 4 * significand
  high := 4 * significand + 2
  numerator := Nat.pow 2 (power - 2).toNat
  denominator := Nat.pow 2 (2 - power).toNat
  closed := significand % 2 = 0

/-- Whether the decimal digits · 10^exponent rounds to the value. -/
def admits (r : Rounding) (decimal : Decimal) : Bool :=
  let scaled := decimal.digits * Nat.pow 10 decimal.exponent.toNat * r.denominator
  let unit := r.numerator * Nat.pow 10 (-decimal.exponent).toNat
  if r.closed then r.low * unit ≤ scaled ∧ scaled ≤ r.high * unit
  else r.low * unit < scaled ∧ scaled < r.high * unit

/-- The number of decimal digits before the point; zero or negative for numbers below 1/10. -/
def magnitude (r : Rounding) : Int :=
  let whole := r.value * r.numerator / r.denominator
  if whole = 0 then climb 400 0 (r.value * r.numerator * 10)
  else (Nat.toDigits 10 whole).length
where
  climb : Nat → Int → Nat → Int
    | 0, size, _ => size
    | fuel + 1, size, scaled =>
      if r.denominator ≤ scaled then size else climb fuel (size - 1) (scaled * 10)

/-- The neighbours of the value among the multiples of 10^exponent, below it and above it. -/
def neighbours (r : Rounding) (exponent : Int) : Decimal × Decimal :=
  let below := r.value * r.numerator * Nat.pow 10 (-exponent).toNat /
    (r.denominator * Nat.pow 10 exponent.toNat)
  (⟨below, exponent⟩, ⟨below + 1, exponent⟩)

/-- Of the two neighbours the nearer one; of two equally near ones that with the even digits. -/
def nearer (r : Rounding) (below above : Decimal) : Decimal :=
  let scaled := 2 * r.value * r.numerator * Nat.pow 10 (-below.exponent).toNat
  let middle := (below.digits + above.digits) * r.denominator * Nat.pow 10 below.exponent.toNat
  if scaled < middle then below
  else if middle < scaled then above
  else if below.digits % 2 = 0 then below else above

/-- The multiple of 10^exponent that reads back as the value, if there is one. -/
def onGrid? (r : Rounding) (exponent : Int) : Option Decimal :=
  let (below, above) := r.neighbours exponent
  match r.admits below, r.admits above with
  | true, true => some (r.nearer below above)
  | true, false => some below
  | false, true => some above
  | false, false => none

/-- The decimal with the fewest digits that reads back as the value: seventeen are always enough. -/
def shortest (r : Rounding) : Decimal :=
  let magnitude := r.magnitude
  ((List.range 17).findSome? fun (count : Nat) => r.onGrid? (magnitude - count - 1)).getD
    (r.neighbours (magnitude - 17)).1

end Rounding

/-- Moves the trailing zeros of the digits into the exponent. -/
def strip (decimal : Decimal) : Decimal :=
  if h : decimal.digits ≠ 0 ∧ decimal.digits % 10 = 0 then
    strip ⟨decimal.digits / 10, decimal.exponent + 1⟩
  else decimal
termination_by decimal.digits
decreasing_by exact Nat.div_lt_self (Nat.pos_of_ne_zero h.1) (by decide)

/-- The shortest decimal of the finite floating point number with these bits, its sign left out;
none for zero. -/
def ofBits? (bits : UInt64) : Option Decimal :=
  let fraction : Nat := bits.toNat % 0x10000000000000
  let exponent : Nat := bits.toNat / 0x10000000000000 % 0x800
  if exponent = 0 then
    if fraction = 0 then none
    else some (Rounding.ofBinary fraction (-1074) false).shortest.strip
  else
    some (Rounding.ofBinary (0x10000000000000 + fraction) (exponent - 1075)
      (fraction = 0 ∧ 1 < exponent)).shortest.strip

end Decimal

end FrameIngest
