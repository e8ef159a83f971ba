import Sketchflow.Value.Basic

/-!
# Comparing values

Numbers are compared by value across kinds, so that `1`, `1.0` and true are the same number, and
exactly: no rounding takes place. Texts are compared by code point.

* `Num` is the numeric reading of a value, `Num.compare` the order of numbers.
* `Value.same` is equality of values, `Value.hasId` and `Value.isText` its uses on identifiers.
* `Value.pinned` prepares documents that share their parts for comparing.
-/

namespace Sketchflow

/-- A number: an integer or a double. -/
inductive Num where
  | int (i : Int)
  | float (x : Float)

/-- The numeric reading of a value; a boolean counts as 0 or 1. -/
def Value.number? : Value → Option Num
  | .bool b => some (.int (if b then 1 else 0))
  | .int i => some (.int i)
  | .float x => some (.float x)
  | .nan _ => some (.float (0.0 / 0.0))
  | _ => none

/-- The order of an integer and a double, none for not-a-number. -/
def compareIntFloat (i : Int) (x : Float) : Option Ordering :=
  match Number.Binary64.ofFloat x with
  | .notANumber => none
  | .infinite negative => some (if negative then .gt else .lt)
  | .finite negative mantissa exponent =>
    let (num, den) := Number.Binary64.ratio negative mantissa exponent
    some (Ord.compare (i * den) num)

/-- The order of two numbers, none if one is not-a-number. -/
def Num.compare : Num → Num → Option Ordering
  | .int i, .int j => some (Ord.compare i j)
  | .int i, .float y => compareIntFloat i y
  | .float x, .int j => (compareIntFloat j x).map Ordering.swap
  | .float x, .float y =>
    if x < y then some .lt else if y < x then some .gt else if x == y then some .eq else none

/-- Whether two numbers are equal. -/
def Num.same (a b : Num) : Bool :=
  a.compare b == some .eq

def Num.sameComplex (a : Num) (z : Number.Complex) : Bool :=
  z.im == 0.0 && a.same (.float z.re)

/-- Whether two values are one and the same not-a-number. -/
def Value.isItself : Value → Value → Bool
  | .nan m, .nan n => m == n
  | _, _ => false

mutual

/-- Whether two values are equal. -/
def Value.same : Value → Value → Bool
  | .null, .null => true
  | .str s, .str t => s == t
  | .list xs, .list ys => sameItems xs ys
  | .tuple xs, .tuple ys => sameItems xs ys
  | .object xs, .object ys => xs.length == ys.length && sameFields xs ys
  | .handle g, .handle h => g == h
  | .complex z, .complex w => z.same w
  | .complex z, b =>
    match b.number? with
    | some x => x.sameComplex z
    | none => false
  | a, .complex w =>
    match a.number? with
    | some x => x.sameComplex w
    | none => false
  | a, b =>
    match a.number?, b.number? with
    | some x, some y => x.same y
    | _, _ => false
termination_by structural a => a

/-- Whether two lists have equal items; a not-a-number item equals itself. -/
def sameItems : List Value → List Value → Bool
  | [], [] => true
  | x :: xs, y :: ys => (x.isItself y || Value.same x y) && sameItems xs ys
  | _, _ => false
termination_by structural xs => xs

/-- Whether every field of the first list has an equal one in the second. -/
def sameFields : List (String × Value) → List (String × Value) → Bool
  | [], _ => true
  | (name, x) :: rest, ys =>
    (match Fields.get? ys name with
      | some y => x.isItself y || Value.same x y
      | none => false) && sameFields rest ys
termination_by structural xs => xs

end

mutual

/-- A value in which all not-a-numbers are taken for one and the same. -/
def Value.pinned : Value → Value
  | .float x => if x.isNaN then .nan 0 else .float x
  | .list items => .list (pinnedItems items)
  | .object fields => .object (pinnedFields fields)
  | v => v
termination_by structural v => v

def pinnedItems : List Value → List Value
  | [] => []
  | v :: rest => v.pinned :: pinnedItems rest
termination_by structural items => items

/-- The same for the fields of an object. -/
def pinnedFields : List (String × Value) → List (String × Value)
  | [] => []
  | (name, v) :: rest => (name, v.pinned) :: pinnedFields rest
termination_by structural fields => fields

end

/-- Whether a value names the integer `id`. -/
def Value.hasId (v : Value) (id : Int) : Bool :=
  v.same (.int id)

def Value.isText (v : Value) (s : String) : Bool :=
  match v with
  | .str t => t == s
  | _ => false

end Sketchflow
