import Sketchflow.Number.Root
import Sketchflow.Number.Shortest

/-!
# Complex numbers

Complex numbers with double parts, as they arise from fractional powers of negative numbers.

* `add`, `subtract`, `multiply` work part by part as usual; `divide?` scales by the larger part of
  the divisor and has no answer for the divisor zero.
* `power` multiplies for small whole exponents and goes through length and angle otherwise.
* `write` is a complex number as text.
-/

namespace Sketchflow.Number

structure Complex where
  re : Float
  im : Float
  deriving Repr

namespace Complex

def ofReal (x : Float) : Complex := ⟨x, 0.0⟩

def isZero (z : Complex) : Bool := z.re == 0.0 && z.im == 0.0

def same (z w : Complex) : Bool := z.re == w.re && z.im == w.im

def add (z w : Complex) : Complex := ⟨z.re + w.re, z.im + w.im⟩

def subtract (z w : Complex) : Complex := ⟨z.re - w.re, z.im - w.im⟩

def multiply (z w : Complex) : Complex :=
  ⟨z.re * w.re - z.im * w.im, z.re * w.im + z.im * w.re⟩

def negate (z : Complex) : Complex := ⟨-z.re, -z.im⟩

/-- The quotient by a divisor whose real part is the larger one. -/
def divideByReal (z w : Complex) : Complex :=
  let ratio := w.im / w.re
  let denominator := w.re + w.im * ratio
  ⟨(z.re + z.im * ratio) / denominator, (z.im - z.re * ratio) / denominator⟩

/-- The quotient by a divisor whose imaginary part is the larger one. -/
def divideByImaginary (z w : Complex) : Complex :=
  let ratio := w.re / w.im
  let denominator := w.re * ratio + w.im
  ⟨(z.re * ratio + z.im) / denominator, (z.im * ratio - z.re) / denominator⟩

/-- The quotient, unless the divisor is zero. -/
def divide? (z w : Complex) : Option Complex :=
  if w.re.abs >= w.im.abs then
    if w.re.abs == 0.0 then none else some (divideByReal z w)
  else if w.im.abs >= w.re.abs then some (divideByImaginary z w)
  else some ⟨0.0 / 0.0, 0.0 / 0.0⟩

def length (z : Complex) : Float := hypotenuse z.re z.im

/-- A power with a natural exponent, by squaring: `square` is the base raised to the place of the
bit at hand, `done` the product so far. The bound is on the bits of the exponent. -/
def powerBits : Nat → Nat → Complex → Complex → Complex
  | 0, _, _, done => done
  | bound + 1, n, square, done =>
    if n == 0 then done
    else
      let done := if n % 2 == 1 then done.multiply square else done
      powerBits bound (n / 2) (square.multiply square) done

/-- A power with a whole exponent; none for zero to a negative exponent. -/
def wholePower? (z : Complex) (n : Int) : Option Complex :=
  let p := powerBits (n.natAbs.log2 + 2) n.natAbs z ⟨1.0, 0.0⟩
  if 0 < n then some p else divide? ⟨1.0, 0.0⟩ p

/-- A power through length and angle; none for zero to an exponent that is negative or not real, and
for an angle without bounds. -/
def generalPower? (z w : Complex) : Option Complex :=
  if w.isZero then some ⟨1.0, 0.0⟩
  else if z.isZero then
    if w.im != 0.0 || w.re < 0.0 then none else some ⟨0.0, 0.0⟩
  else
    let size := z.length
    let angle := Float.atan2 z.im z.re
    let length := size.pow w.re
    let phase := angle * w.re
    let (length, phase) :=
      if w.im != 0.0 then
        (length / (angle * w.im).exp, phase + w.im * size.log)
      else (length, phase)
    if phase.isInf then none else some ⟨length * phase.cos, length * phase.sin⟩

/-- The power; none where `wholePower?` and `generalPower?` have none. -/
def power? (z w : Complex) : Option Complex :=
  if w.im == 0.0 && w.re == w.re.floor && w.re.abs <= 100.0 then
    match ratio? w.re with
    | some (n, d) => wholePower? z (truncRatio n d)
    | none => generalPower? z w
  else generalPower? z w

def partStyle : Style :=
  { plain with integral := "" }

/-- A complex number as text: a positive zero real part is left out. -/
def write (z : Complex) : String :=
  let im := partStyle.write z.im
  if z.re == 0.0 && !isNegative z.re then im ++ "j"
  else
    let sign := if isNegative z.im && !z.im.isNaN then "" else "+"
    "(" ++ partStyle.write z.re ++ sign ++ im ++ "j)"

end Complex

end Sketchflow.Number
