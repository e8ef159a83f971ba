import Sketchflow.Number.Binary64

/-!
# Square roots, exactly

* `natRoot` is the largest natural whose square is not above a natural.
* `rootOfRatio` is the double nearest to the square root of a quotient.
* `hypotenuse` is the length of a vector, rounded once.
-/

namespace Sketchflow.Number

/-- Steps towards the root of `n` from above; each step that does not go down ends them. -/
def rootFrom (n : Nat) : Nat → Nat → Nat
  | 0, x => x
  | fuel + 1, x =>
    let y := (x + n / x) / 2
    if y < x then rootFrom n fuel y else x

/-- The largest natural whose square is not above `n`. -/
def natRoot (n : Nat) : Nat :=
  if n == 0 then 0 else rootFrom n (n.log2 + 2) (two (n.log2 / 2 + 1))

/-- The double nearest to the square root of `num / den`. The root is taken with more bits than a
double has, and a last bit tells whether anything was left. -/
def rootOfRatio (num den : Nat) : Float :=
  if num == 0 then 0.0
  else
    let shift := 62 + (den.log2 - num.log2 + 1) / 2
    let scaled := num * two (2 * shift)
    let root := natRoot (scaled / den)
    let isExact := root * root * den == scaled
    ofRatio false (2 * root + (if isExact then 0 else 1)) (two (shift + 1))

/-- The length of the vector with the given coordinates. An infinite coordinate makes an infinite
length, whatever the other is. -/
def hypotenuse (x y : Float) : Float :=
  if x.isInf || y.isInf then 1.0 / 0.0
  else match ratio? x, ratio? y with
    | some (a, b), some (c, d) =>
      let p := a.natAbs * d
      let q := c.natAbs * b
      rootOfRatio (p * p + q * q) (b * d * (b * d))
    | _, _ => 0.0 / 0.0

end Sketchflow.Number
