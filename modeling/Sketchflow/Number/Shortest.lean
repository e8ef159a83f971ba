import Sketchflow.Number.Binary64

/-!
# The shortest decimal of a double

Of the decimals that round to a given double, the ones with the fewest digits are sought, and of
those the nearest. For each number of digits only the two neighbours of the double on that decimal
grid need a look.

* `shortest` gives the digits as a natural and the power of ten they are counted in.
* `Style.write` sets them out; `plain` is the style of this project's texts.
-/

namespace Sketchflow.Number

/-- A positive decimal `digits · 10 ^ exponent`. -/
structure Decimal where
  digits : Nat
  exponent : Int
  deriving Repr, DecidableEq

/-- The reals that round to a double, scaled to naturals over one denominator. -/
structure Interval where
  value : Nat
  lower : Nat
  upper : Nat
  denominator : Nat
  closed : Bool

/-- The interval of `mantissa · 2 ^ exponent`. The gap below a power of two is half as wide. -/
def Interval.around (mantissa : Nat) (exponent : Int) : Interval :=
  let narrow := mantissa == two 52 && -1074 < exponent
  let scale := if 0 ≤ exponent then two exponent.toNat else 1
  let den := if 0 ≤ exponent then 1 else two (-exponent).toNat
  { value := 4 * mantissa * scale
    lower := (if narrow then 4 * mantissa - 1 else 4 * mantissa - 2) * scale
    upper := (4 * mantissa + 2) * scale
    denominator := 4 * den
    closed := mantissa % 2 == 0 }

def Interval.holds (i : Interval) (n den : Nat) : Bool :=
  let a := i.lower * den
  let b := n * i.denominator
  let c := i.upper * den
  if i.closed then a ≤ b && b ≤ c else a < b && b < c

/-- The power of ten at or below `num / den`, found by stepping from a guess. -/
def decimalExponent (num den : Nat) : Int :=
  let guess : Int := ((Nat.log2 num : Int) - (Nat.log2 den : Int)) * 30103 / 100000 - 1
  let above (k : Int) : Bool :=
    if 0 ≤ k then den * ten k.toNat ≤ num else den ≤ num * ten (-k).toNat
  if above (guess + 3) then guess + 3
  else if above (guess + 2) then guess + 2
  else if above (guess + 1) then guess + 1
  else guess

/-- The decimal with `count` digits that lies in the interval, nearest to its value. -/
def onGrid (i : Interval) (top : Int) (count : Nat) : Option Decimal :=
  let unit : Int := top + 1 - count
  let scaleUp := if 0 ≤ unit then ten unit.toNat else 1
  let scaleDown := if 0 ≤ unit then 1 else ten (-unit).toNat
  let below := i.value * scaleDown / (i.denominator * scaleUp)
  let above := below + 1
  let belowFits := i.holds (below * scaleUp) scaleDown
  let aboveFits := i.holds (above * scaleUp) scaleDown
  let target := 2 * (i.value * scaleDown)
  let middle := (below + above) * (i.denominator * scaleUp)
  match belowFits, aboveFits with
  | true, true =>
    if target < middle then some ⟨below, unit⟩
    else if middle < target then some ⟨above, unit⟩
    else some ⟨below + below % 2, unit⟩
  | true, false => some ⟨below, unit⟩
  | false, true => some ⟨above, unit⟩
  | false, false => none

/-- The first grid with a hit, from `count` digits upwards. -/
def firstHit (i : Interval) (top : Int) : Nat → Nat → Decimal
  | 0, count => (onGrid i top count).getD ⟨0, 0⟩
  | fuel + 1, count =>
    match onGrid i top count with
    | some d => d
    | none => firstHit i top fuel (count + 1)

/-- A decimal without trailing zeros. -/
def Decimal.trimZeros : Nat → Decimal → Decimal
  | 0, d => d
  | fuel + 1, d =>
    if d.digits % 10 == 0 && d.digits != 0 then trimZeros fuel ⟨d.digits / 10, d.exponent + 1⟩
    else d

/-- The shortest decimal that rounds to the positive double `mantissa · 2 ^ exponent`. -/
def shortest (mantissa : Nat) (exponent : Int) : Decimal :=
  let i := Interval.around mantissa exponent
  (firstHit i (decimalExponent i.value i.denominator) 17 1).trimZeros 18

/-! ## Setting out the digits -/

/-- The decisions of a way to write doubles. -/
structure Style where
  /-- The least and the greatest decimal exponent written without an exponent mark. -/
  positional : Int × Int
  /-- What follows a number that would otherwise look like an integer. -/
  integral : String
  /-- The least number of exponent digits. -/
  exponentWidth : Nat
  notANumber : String
  infinity : String

def padZeros (width : Nat) (s : String) : String :=
  String.ofList (List.replicate (width - s.length) '0') ++ s

/-- A positive decimal written in a style. -/
def Style.writeDecimal (style : Style) (d : Decimal) : String :=
  let ds := (Nat.toDigits 10 d.digits)
  let point : Int := d.exponent + ds.length
  let top := point - 1
  if style.positional.1 ≤ top && top ≤ style.positional.2 then
    if point ≤ 0 then
      "0." ++ String.ofList (List.replicate (-point).toNat '0' ++ ds)
    else if ds.length ≤ point.toNat then
      String.ofList (ds ++ List.replicate (point.toNat - ds.length) '0') ++ style.integral
    else
      String.ofList (ds.take point.toNat) ++ "." ++ String.ofList (ds.drop point.toNat)
  else
    let mantissa := match ds with
      | [] => "0"
      | [c] => String.ofList [c]
      | c :: rest => String.ofList (c :: '.' :: rest)
    let sign := if top < 0 then "-" else "+"
    mantissa ++ "e" ++ sign ++ padZeros style.exponentWidth (toString top.natAbs)

/-- A double written in a style, with the fewest digits that read back. -/
def Style.write (style : Style) (x : Float) : String :=
  match Binary64.ofFloat x with
  | .notANumber => style.notANumber
  | .infinite negative => if negative then "-" ++ style.infinity else style.infinity
  | .finite negative mantissa exponent =>
    let sign := if negative then "-" else ""
    if mantissa == 0 then sign ++ "0" ++ style.integral
    else sign ++ style.writeDecimal (shortest mantissa exponent)

/-- Positional from `10 ^ -4` up to below `10 ^ 16`, with `.0` on whole numbers. -/
def plain : Style :=
  { positional := (-4, 15), integral := ".0", exponentWidth := 2
    notANumber := "nan", infinity := "inf" }

end Sketchflow.Number
