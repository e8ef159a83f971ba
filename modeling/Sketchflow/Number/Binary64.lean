/-!
# Double-precision numbers, exactly

* `Binary64.ofFloat` takes a double apart into sign, mantissa and exponent.
* `ofRatio` is the double nearest to a quotient of two naturals, ties to the even mantissa.
* `floor`, `ceil`, `truncate`, `roundEven` give the neighbouring integers of a finite double.
-/

namespace Sketchflow.Number

def two (n : Nat) : Nat := Nat.pow 2 n

def ten (n : Nat) : Nat := Nat.pow 10 n

/-- A double taken apart: a finite one has the value `± mantissa · 2 ^ exponent`. -/
inductive Binary64 where
  | notANumber
  | infinite (negative : Bool)
  | finite (negative : Bool) (mantissa : Nat) (exponent : Int)
  deriving Repr, DecidableEq

def Binary64.ofFloat (x : Float) : Binary64 :=
  let bits := x.toBits.toNat
  let negative := bits / two 63 == 1
  let biased : Nat := bits / two 52 % two 11
  let fraction : Nat := bits % two 52
  if biased == 2047 then (if fraction == 0 then .infinite negative else .notANumber)
  else if biased == 0 then .finite negative fraction (-1074)
  else .finite negative (fraction + two 52) ((biased : Int) - 1075)

/-- A quotient rounded to the nearest natural, ties to even. -/
def roundDiv (num den : Nat) : Nat :=
  let q := num / den
  let r := num % den
  if 2 * r < den then q else if den < 2 * r then q + 1 else q + q % 2

/-- `num / den` scaled down by `2 ^ shift`, as a numerator and a denominator. -/
def scaleDown (num den : Nat) (shift : Int) : Nat × Nat :=
  if 0 ≤ shift then (num, den * two shift.toNat) else (num * two (-shift).toNat, den)

/-- The bits of the double nearest to a positive quotient, sign aside. -/
def magnitudeBits (num den : Nat) : Nat :=
  let guess : Int := (Nat.log2 num : Int) - (Nat.log2 den : Int) - 53
  let low := max guess (-1074)
  let fits := let (n, d) := scaleDown num den low; n / d < two 53
  let shift := if fits then low else low + 1
  let (n, d) := scaleDown num den shift
  let mantissa := roundDiv n d
  if mantissa < two 52 then mantissa
  else min ((shift + 1075).toNat * two 52 + (mantissa - two 52)) (2047 * two 52)

/-- The double nearest to `± num / den`. -/
def ofRatio (negative : Bool) (num den : Nat) : Float :=
  let magnitude := if num == 0 then 0 else magnitudeBits num den
  Float.ofBits (UInt64.ofNat (if negative then two 63 + magnitude else magnitude))

def ofInt (i : Int) : Float :=
  ofRatio (i < 0) i.natAbs 1

/-- The double nearest to `± digits · 10 ^ exponent`. Exponents far out of range are cut short. -/
def ofDecimal (negative : Bool) (digits : Nat) (exponent : Int) : Float :=
  if digits == 0 then ofRatio negative 0 1
  else
    let size : Int := (Nat.log2 digits : Int) * 30103 / 100000 + exponent
    if 400 < size then ofRatio negative (two 1100) 1
    else if size < -400 then ofRatio negative 0 1
    else if 0 ≤ exponent then ofRatio negative (digits * ten exponent.toNat) 1
    else ofRatio negative digits (ten (-exponent).toNat)

/-- `± mantissa · 2 ^ exponent` as a signed numerator and a denominator. -/
def Binary64.ratio (negative : Bool) (mantissa : Nat) (exponent : Int) : Int × Nat :=
  let sign : Int := if negative then -1 else 1
  if 0 ≤ exponent then (sign * (mantissa * two exponent.toNat : Nat), 1)
  else (sign * mantissa, two (-exponent).toNat)

/-- A finite double as a signed numerator and a denominator. -/
def ratio? (x : Float) : Option (Int × Nat) :=
  match Binary64.ofFloat x with
  | .finite negative mantissa exponent => some (Binary64.ratio negative mantissa exponent)
  | _ => none

def floorRatio (num : Int) (den : Nat) : Int :=
  Int.fdiv num den

def ceilRatio (num : Int) (den : Nat) : Int :=
  -Int.fdiv (-num) den

/-- A quotient with its fraction cut off. -/
def truncRatio (num : Int) (den : Nat) : Int :=
  Int.tdiv num den

/-- The integer nearest to a quotient, ties to even. -/
def roundRatio (num : Int) (den : Nat) : Int :=
  let magnitude : Int := roundDiv num.natAbs den
  if num < 0 then -magnitude else magnitude

/-- Whether a double has a minus sign, on zeros too. -/
def isNegative (x : Float) : Bool :=
  x.toBits.toNat / two 63 == 1

/-- The remainder of a division that truncates, exact, with the sign of the dividend. -/
def remainder (x y : Float) : Float :=
  match Binary64.ofFloat x, Binary64.ofFloat y with
  | .finite negative m e, .finite _ n f =>
    if n == 0 then 0.0 / 0.0
    else
      let low := min e f
      let r := (m * two (e - low).toNat) % (n * two (f - low).toNat)
      if 0 ≤ low then ofRatio negative (r * two low.toNat) 1
      else ofRatio negative r (two (-low).toNat)
  | .finite .., .infinite _ => x
  | _, _ => 0.0 / 0.0

end Sketchflow.Number
