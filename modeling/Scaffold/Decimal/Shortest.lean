import Scaffold.Text

/-!
# Shortest decimals

A binary floating-point number stands for every real number that rounds to it, an interval around its
own value. Among the decimals in that interval the ones with the fewest digits are preferred, and
among those the one nearest to the value. All arithmetic is on natural numbers and so exact.
-/

namespace Scaffold.Decimal

/-- The finite number `mantissa * 2 ^ exponent`, negated if `negative`. -/
structure Binary where
  negative : Bool
  mantissa : Nat
  exponent : Int
  deriving DecidableEq, Repr

/-- The least exponent of a double. -/
def leastExponent : Int := -1074

/-- The mantissa from which on doubles have their full precision. -/
def fullMantissa : Nat := Nat.pow 2 52

/-- The number in the fields of a double: sign, eleven bits of exponent, fifty-two of fraction. The
largest exponent, which marks infinities, is read as an exponent like any other. -/
def Binary.ofBits (bits : UInt64) : Binary :=
  let fraction : Nat := bits.toNat % fullMantissa
  let biased : Nat := bits.toNat / fullMantissa % Nat.pow 2 11
  let negative := bits.toNat / Nat.pow 2 63 == 1
  if biased = 0 then ⟨negative, fraction, leastExponent⟩
  else ⟨negative, fullMantissa + fraction, leastExponent + (biased - 1)⟩

/-- A value and the ends of the interval that rounds to it, over one denominator. -/
structure Rounding where
  low : Nat
  value : Nat
  high : Nat
  denominator : Nat
  closed : Bool

/-- The interval reaches half way to both neighbours, of which the lower one is nearer at the least
mantissa of full precision. Its ends belong to it if the mantissa is even. -/
def Binary.rounding (x : Binary) : Rounding :=
  let below := if x.mantissa = fullMantissa && x.exponent ≠ leastExponent then 1 else 2
  let scale := if 2 ≤ x.exponent then Nat.pow 2 (x.exponent - 2).toNat else 1
  let denominator := if 2 ≤ x.exponent then 1 else Nat.pow 2 (2 - x.exponent).toNat
  { low := (4 * x.mantissa - below) * scale
    value := 4 * x.mantissa * scale
    high := (4 * x.mantissa + 2) * scale
    denominator
    closed := x.mantissa % 2 == 0 }

/-- The interval in units of a power of ten. -/
def Rounding.inUnits (r : Rounding) (power : Int) : Rounding :=
  if 0 ≤ power then { r with denominator := r.denominator * Nat.pow 10 power.toNat }
  else
    let scale := Nat.pow 10 (-power).toNat
    { r with low := r.low * scale, value := r.value * scale, high := r.high * scale }

/-- Whether a whole number of units lies in the interval. -/
def Rounding.has (r : Rounding) (count : Nat) : Bool :=
  let point := count * r.denominator
  if r.closed then r.low ≤ point && point ≤ r.high else r.low < point && point < r.high

/-- The whole number of units in the interval that is nearest to the value. If there is one at all,
one of the two next to the value is. -/
def Rounding.nearest? (r : Rounding) : Option Nat :=
  let down := r.value / r.denominator
  let up := down + 1
  match r.has down, r.has up with
  | true, true =>
    if r.value - down * r.denominator < up * r.denominator - r.value then some down else some up
  | true, false => some down
  | false, true => some up
  | false, false => none

/-- The place of the first digit before the decimal point of a positive value: one for units, two for
tens, zero for tenths. -/
def Rounding.place (r : Rounding) : Int :=
  if r.denominator ≤ r.value then (Text.ofNat (r.value / r.denominator)).length
  else -(((List.range 400).find? fun zeros => r.denominator ≤ r.value * Nat.pow 10 (zeros + 1)).getD 0)

/-- The number `digits * 10 ^ power`. -/
structure Scaled where
  digits : Nat
  power : Int
  deriving DecidableEq, Repr

/-- A number of digits that always suffices for a double. -/
def mostDigits : Nat := 17

/-- A number without zeros at the end of its digits. -/
def Scaled.trimmed (d : Scaled) : Scaled :=
  let zeros := ((Text.ofNat d.digits).reverse.takeWhile (· = '0')).length
  ⟨d.digits / Nat.pow 10 zeros, d.power + zeros⟩

/-- The preferred decimal of the absolute value. -/
def Binary.shortest (x : Binary) : Scaled :=
  if x.mantissa = 0 then ⟨0, 0⟩
  else
    let r := x.rounding
    let shorter : Option Scaled := (List.range mostDigits).findSome? fun (count : Nat) =>
      let power : Int := r.place - (count + 1)
      ((r.inUnits power).nearest?).map (⟨·, power⟩)
    (shorter.getD ⟨0, 0⟩).trimmed

/-- The powers of ten of a leading digit between which, ends included, a number is written without an
exponent; `none` where there never is one. -/
structure Style where
  positional : Option (Int × Int)

/-- Digits with a point and at least one digit on both sides of it. -/
def Scaled.positional (d : Scaled) : Text :=
  let digits := Text.ofNat d.digits
  let point := digits.length + d.power
  if 0 ≤ d.power then digits ++ List.replicate d.power.toNat '0' ++ ".0"
  else if 0 < point then digits.take point.toNat ++ '.' :: digits.drop point.toNat
  else "0." ++ List.replicate (-point).toNat '0' ++ digits

/-- The power of ten of the leading digit. -/
def Scaled.lead (d : Scaled) : Int := (Text.ofNat d.digits).length + d.power - 1

/-- One digit before the point, none behind it if all are zero, and the power of ten. -/
def Scaled.exponential (d : Scaled) : Text :=
  let digits := Text.ofNat d.digits
  let fraction : Text := if digits.length ≤ 1 then [] else '.' :: digits.drop 1
  digits.take 1 ++ fraction ++ 'e' :: Text.ofInt d.lead

/-- The text of a number. -/
def Style.write (style : Style) (x : Binary) : Text :=
  let d := x.shortest
  let plain : Bool :=
    match style.positional with
    | none => true
    | some (least, greatest) => x.mantissa = 0 || (least ≤ d.lead && d.lead ≤ greatest)
  (if x.negative then "-" else "") ++ if plain then d.positional else d.exponential

end Scaffold.Decimal
