import Sketchflow.Number.Shortest

/-!
# Doubles with a number of digits

A double can be set out with a number of places after the point (`fixedText`), with one digit
before the point and an exponent (`scientificText`), or in the one of the two that suits its size
with a number of significant digits (`generalText`). Digits are exact, a half goes to the even one.

`Layout.write` is a double in a layout, infinities and not-a-numbers included.
-/

namespace Sketchflow.Number

/-- The ways to set out a double. -/
inductive Layout where
  | fixed
  | scientific
  | general
  deriving Repr, DecidableEq

def digitsOf (n : Nat) : List Char :=
  Nat.toDigits 10 n

/-- Digits with a point after the first `whole` of them. A point at the end is left out unless
`keep` says otherwise. -/
def withPoint (keep : Bool) (whole : Nat) (ds : List Char) : String :=
  let fraction := ds.drop whole
  let point := if fraction.isEmpty && !keep then [] else ['.']
  String.ofList (ds.take whole ++ point ++ fraction)

/-- How many places after the point a double has at most, those that are zero to the end aside. -/
def placeBound : Nat := 1074

def zeros (count : Nat) : List Char :=
  List.replicate count '0'

/-- A double, given as a quotient, with a number of places after the point. -/
def fixedText (keep : Bool) (places num den : Nat) : String :=
  let exact := min places placeBound
  let ds := digitsOf (roundDiv (num * ten exact) den)
  let ds := zeros (exact + 1 - ds.length) ++ ds ++ zeros (places - exact)
  withPoint keep (ds.length - places) ds

/-- A quotient rounded to a number of digits: the digits as a natural, and the power of ten that the
first of them counts. -/
def significant (count num den : Nat) : Nat × Int :=
  if num == 0 then (0, 0)
  else
    let top := decimalExponent num den
    let unit : Int := top + 1 - count
    let n := if 0 ≤ unit then roundDiv num (den * ten unit.toNat)
      else roundDiv (num * ten (-unit).toNat) den
    if n < ten count then (n, top) else (n / 10, top + 1)

def exponentText (e : Int) : String :=
  "e" ++ (if e < 0 then "-" else "+") ++ padZeros 2 (toString e.natAbs)

/-- How many significant digits a double has at most, those that are zero to the end aside. -/
def digitBound : Nat := 767

/-- A double, given as a quotient, rounded to a number of digits: the digits, and the power of ten
that the first of them counts. -/
def significantDigits (count num den : Nat) : List Char × Int :=
  let exact := min count digitBound
  let (n, top) := significant exact num den
  let ds := digitsOf n
  (zeros (exact - ds.length) ++ ds ++ zeros (count - exact), top)

/-- A double, given as a quotient, with one digit before the point, a number of places after it, and
an exponent. -/
def scientificText (keep : Bool) (places num den : Nat) : String :=
  let (ds, top) := significantDigits (places + 1) num den
  withPoint keep 1 ds ++ exponentText top

def dropZeros (ds : List Char) : List Char :=
  (ds.reverse.dropWhile (· == '0')).reverse

/-- A double, given as a quotient, with a number of significant digits, with an exponent if it is
very small or has more digits before the point. Zeros at the end of a fraction are left out unless
`keep` says otherwise. -/
def generalText (keep : Bool) (count num den : Nat) : String :=
  let count := max count 1
  let (ds, top) := significantDigits count num den
  if top < -4 || (count : Int) ≤ top then
    let shown := if keep then ds else ds.take 1 ++ dropZeros (ds.drop 1)
    withPoint keep 1 shown ++ exponentText top
  else if top < 0 then
    let ds := zeros (-top).toNat ++ ds
    withPoint keep 1 (if keep then ds else ds.take 1 ++ dropZeros (ds.drop 1))
  else
    let whole := top.toNat + 1
    withPoint keep whole (if keep then ds else ds.take whole ++ dropZeros (ds.drop whole))

def Layout.write (layout : Layout) (keep : Bool) (places : Nat) (x : Float) : String :=
  match Binary64.ofFloat x with
  | .notANumber => plain.notANumber
  | .infinite negative => if negative then "-" ++ plain.infinity else plain.infinity
  | .finite negative mantissa exponent =>
    let (num, den) := Binary64.ratio false mantissa exponent
    let text := match layout with
      | .fixed => fixedText keep places num.natAbs den
      | .scientific => scientificText keep places num.natAbs den
      | .general => generalText keep places num.natAbs den
    if negative then "-" ++ text else text

end Sketchflow.Number
