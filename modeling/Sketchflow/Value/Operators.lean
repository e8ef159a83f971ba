import Sketchflow.Fault
import Sketchflow.Value.Compare

/-!
# Operators

The operators of programs on dynamic values. Booleans count as 0 and 1. Integers are exact and
unbounded; an integer that meets a double becomes one. A quotient is always a double, correctly
rounded; whole quotients and remainders round down, so a remainder has the sign of the divisor.

* `add`, `subtract`, `multiply`, `divide`, `wholeQuotient`, `remainder`, `power` and the unary
  operators compute.
* `ordered` compares, `contains` is membership in a text or sequence.
-/

namespace Sketchflow

/-- An integer as a double. -/
def Num.floatOfInt (i : Int) : Except Fault Float :=
  let x := Number.ofInt i
  if x.isInf then .error (.overflow .integer) else .ok x

/-- A number as a double. -/
def Num.toFloat : Num → Except Fault Float
  | .int i => Num.floatOfInt i
  | .float x => .ok x

namespace Value

/-- The binary operators that compute. -/
inductive Operator where
  | add | subtract | multiply | divide | wholeQuotient | remainder | power
  | matrix | bitAnd | bitOr | bitXor | shiftLeft | shiftRight
  deriving Repr, DecidableEq

def Operator.sign : Operator → String
  | .add => "+"
  | .subtract => "-"
  | .multiply => "*"
  | .divide => "/"
  | .wholeQuotient => "//"
  | .remainder => "%"
  | .power => "**"
  | .matrix => "@"
  | .bitAnd => "&"
  | .bitOr => "|"
  | .bitXor => "^"
  | .shiftLeft => "<<"
  | .shiftRight => ">>"

/-- How messages spell an operator, on its own or in an update such as `+=`. -/
def Operator.spelling (op : Operator) (update : Bool) : String :=
  if update then op.sign ++ "="
  else if op == .power then "** or pow()"
  else op.sign

/-! ## Numbers -/

/-- The sign of `y` on the size of zero. -/
def zeroLike (y : Float) : Float :=
  if Number.isNegative y then -0.0 else 0.0

/-- The remainder of doubles that has the sign of the divisor. -/
def floatRemainder (x y : Float) : Float :=
  let r := Number.remainder x y
  if r == 0.0 then zeroLike y
  else if (y < 0.0) != (r < 0.0) then r + y else r

/-- The whole quotient of doubles. -/
def floatWhole (x y : Float) : Float :=
  let r := Number.remainder x y
  let q := (x - r) / y
  let q := if r != 0.0 && (y < 0.0) != (r < 0.0) then q - 1.0 else q
  if q == 0.0 then zeroLike (x / y)
  else
    let f := q.floor
    if q - f > 0.5 then f + 1.0 else f

/-- The quotient of two integers, rounded once. -/
def intQuotient (i j : Int) : Except Fault Value :=
  if j == 0 then .error (.zeroDivision .quotient)
  else
    let x := Number.ofRatio ((i < 0) != (j < 0)) i.natAbs j.natAbs
    if x.isInf then .error (.overflow .quotient) else .ok (.float x)

def complexPower (z w : Number.Complex) : Except Fault Value :=
  match z.power? w with
  | none => .error (.zeroDivision .complexPower)
  | some p =>
    if p.re.isInf || p.im.isInf then .error (.overflow .complexPower) else .ok (.complex p)

/-- A power of doubles. A negative base with a fractional exponent leaves the real numbers. -/
def floatPower (x y : Float) : Except Fault Value :=
  if x == 0.0 && y < 0.0 && y.isFinite then .error (.zeroDivision .power)
  else if x < 0.0 && x.isFinite && y.isFinite && y.floor != y then
    complexPower (.ofReal x) (.ofReal y)
  else
    let z := x.pow y
    if z.isInf && x.isFinite && y.isFinite then .error (.overflow .power) else .ok (.float z)

/-- A power of an integer. Those of zero and one need no computing. -/
def exactPower (i : Int) (n : Nat) : Int :=
  let size : Int :=
    if n == 0 then 1 else if i.natAbs ≤ 1 then i.natAbs else Nat.pow i.natAbs n
  if i < 0 && n % 2 == 1 then -size else size

/-- More bits than an integer is given. -/
def bitBound : Nat := Number.two 32

/-- A power of integers: exact, unless the exponent is negative. -/
def intPower (i j : Int) : Except Fault Value :=
  if 0 ≤ j then
    if 1 < i.natAbs && bitBound < j.toNat * i.natAbs.log2 then .error .tooLarge
    else .ok (.int (exactPower i j.toNat))
  else do floatPower (← Num.floatOfInt i) (← Num.floatOfInt j)

/-- The bits of an integer combined one by one; negative integers have infinitely many ones in
front. -/
def bitwise (f : Bool → Bool → Bool) (i j : Int) : Int :=
  let width := max i.natAbs.log2 j.natAbs.log2 + 2
  let bit (k : Int) (n : Nat) : Bool := (k.fmod (Number.two width)).toNat.testBit n
  let low := (List.range width).foldl (fun (acc : Int) n =>
    if f (bit i n) (bit j n) then acc + Number.two n else acc) 0
  if f (i < 0) (j < 0) then low - Number.two width else low

/-- An integer times a power of two. -/
def shiftLeft (i : Int) (n : Nat) : Except Fault Value :=
  if i == 0 then .ok (.int 0)
  else if bitBound < n then .error .tooLarge
  else .ok (.int (i * Number.two n))

/-- An integer divided by a power of two, rounded down. -/
def shiftRight (i : Int) (n : Nat) : Value :=
  if i.natAbs.log2 < n then .int (if i < 0 then -1 else 0)
  else .int (i.fdiv (Number.two n))

def intOperator (op : Operator) (i j : Int) : Except Fault Value :=
  match op with
  | .add => .ok (.int (i + j))
  | .subtract => .ok (.int (i - j))
  | .multiply => .ok (.int (i * j))
  | .divide => intQuotient i j
  | .wholeQuotient =>
    if j == 0 then .error (.zeroDivision .whole) else .ok (.int (i.fdiv j))
  | .remainder =>
    if j == 0 then .error (.zeroDivision .remainder) else .ok (.int (i.fmod j))
  | .power => intPower i j
  | .bitAnd => .ok (.int (bitwise (· && ·) i j))
  | .bitOr => .ok (.int (bitwise (· || ·) i j))
  | .bitXor => .ok (.int (bitwise Bool.xor i j))
  | .shiftLeft => if j < 0 then .error .negativeShift else shiftLeft i j.toNat
  | .shiftRight => if j < 0 then .error .negativeShift else .ok (shiftRight i j.toNat)
  | .matrix => .error (.operands "@" "int" "int")

def floatOperator (op : Operator) (x y : Float) : Except Fault Value :=
  match op with
  | .add => .ok (.float (x + y))
  | .subtract => .ok (.float (x - y))
  | .multiply => .ok (.float (x * y))
  | .divide =>
    if y == 0.0 then .error (.zeroDivision .floatQuotient) else .ok (.float (x / y))
  | .wholeQuotient =>
    if y == 0.0 then .error (.zeroDivision .floatWhole) else .ok (.float (floatWhole x y))
  | .remainder =>
    if y == 0.0 then .error (.zeroDivision .floatRemainder) else .ok (.float (floatRemainder x y))
  | .power => floatPower x y
  | op => .error (.operands op.sign "float" "float")

def complexOperator (op : Operator) (z w : Number.Complex) : Except Fault Value :=
  match op with
  | .add => .ok (.complex (z.add w))
  | .subtract => .ok (.complex (z.subtract w))
  | .multiply => .ok (.complex (z.multiply w))
  | .divide =>
    match z.divide? w with
    | some q => .ok (.complex q)
    | none => .error (.zeroDivision .complexQuotient)
  | .power => complexPower z w
  | op => .error (.operands op.sign "complex" "complex")

def toComplex? : Value → Option (Except Fault Number.Complex)
  | .complex z => some (.ok z)
  | v => v.number?.map fun x => x.toFloat.map Number.Complex.ofReal

def Operator.isReal : Operator → Bool
  | .add => true
  | .subtract => true
  | .multiply => true
  | .divide => true
  | .wholeQuotient => true
  | .remainder => true
  | .power => true
  | _ => false

def Operator.isComplex : Operator → Bool
  | .wholeQuotient => false
  | .remainder => false
  | op => op.isReal

/-- Whether an operator on two booleans gives a boolean. -/
def keepsBool : Operator → Bool
  | .bitAnd => true
  | .bitOr => true
  | .bitXor => true
  | _ => false

/-- The boolean that an integer result stands for, where the operator keeps booleans. -/
def asBool (op : Operator) (v : Value) : Value :=
  match keepsBool op, v with
  | true, .int i => .bool (i != 0)
  | _, v => v

/-! ## Sequences -/

/-- Whether a value is a text, a list or a tuple. -/
def isSequence : Value → Bool
  | .str _ => true
  | .list _ => true
  | .tuple _ => true
  | _ => false

def repeated {α : Type} (n : Nat) (items : List α) : List α :=
  (List.replicate n items).flatten

def repeatedText (n : Nat) (s : String) : String :=
  Nat.repeat (fun t => t ++ s) n ""

/-- How many items a sequence has. -/
def sequenceLength : Value → Nat
  | .str s => s.length
  | .list items => items.length
  | .tuple items => items.length
  | _ => 0

/-- The least natural that counts nothing. -/
def countBound : Nat := Number.two 63

/-- Whether an integer can count items. -/
def isCount (n : Int) : Bool :=
  -(countBound : Int) ≤ n && n < countBound

/-- More items than memory holds. -/
def itemBound : Nat := Number.two 33

/-- The fault of a result with too many items: a text of more than can be counted has its own. -/
def tooMany (v : Value) (size : Nat) : Fault :=
  match v with
  | .str _ => if countBound ≤ size then .overflow .text else .tooLarge
  | _ => .tooLarge

/-- A sequence repeated; not at all for a count below one. -/
def repeatSequence (v : Value) (n : Int) : Except Fault Value :=
  let size := n.toNat * v.sequenceLength
  if !isCount n then .error (.overflow .count)
  else if itemBound ≤ size then .error (tooMany v size)
  else
    let times := if size == 0 then 0 else n.toNat
    match v with
    | .str s => .ok (.str (repeatedText times s))
    | .list items => .ok (.list (repeated times items))
    | .tuple items => .ok (.tuple (repeated times items))
    | v => .ok v

/-- A sequence repeated by a value, which has to be an integer. -/
def repeatBy (sequence count : Value) : Except Fault Value :=
  match count with
  | .int n => repeatSequence sequence n
  | .bool b => repeatSequence sequence (if b then 1 else 0)
  | v => .error (.repetition v.kindName)

def otherOperator (op : Operator) (update : Bool) (a b : Value) : Except Fault Value :=
  let refused := Except.error (.operands (op.spelling update) a.kindName b.kindName)
  match op, a, b with
  | .add, .str s, .str t => .ok (.str (s ++ t))
  | .add, .list xs, .list ys => .ok (.list (xs ++ ys))
  | .add, .tuple xs, .tuple ys => .ok (.tuple (xs ++ ys))
  | .add, a, b => if a.isSequence then .error (.concatenation a.kindName b.kindName) else refused
  | .multiply, a, b =>
    if a.isSequence then repeatBy a b
    else if b.isSequence then repeatBy b a
    else refused
  | _, _, _ => refused

/-- An operator that doubles have on two numbers. -/
def realOperate (op : Operator) (x y : Num) : Except Fault Value := do
  floatOperator op (← x.toFloat) (← y.toFloat)

/-- An operator that complex numbers have on two values that both read as such. -/
def complexOperate (op : Operator) (z w : Except Fault Number.Complex) : Except Fault Value := do
  complexOperator op (← z) (← w)

/-- An operator on two values; `update` tells that it stands in an update such as `+=`. -/
def operate (op : Operator) (update : Bool) (a b : Value) : Except Fault Value :=
  match a, b with
  | .bool p, .bool q =>
    if op == .matrix then otherOperator op update a b
    else (intOperator op (if p then 1 else 0) (if q then 1 else 0)).map (asBool op)
  | a, b =>
    match a.number?, b.number? with
    | some (.int i), some (.int j) =>
      if op == .matrix then otherOperator op update a b else intOperator op i j
    | some x, some y =>
      if op.isReal then realOperate op x y else otherOperator op update a b
    | _, _ =>
      match a.toComplex?, b.toComplex? with
      | some z, some w =>
        if op.isComplex then complexOperate op z w else otherOperator op update a b
      | _, _ => otherOperator op update a b

/-- The sum of two values. -/
def add (a b : Value) : Except Fault Value := operate .add false a b

/-- The product of two values. -/
def multiply (a b : Value) : Except Fault Value := operate .multiply false a b

/-! ## Unary operators -/

inductive Sign where
  | plus | minus | invert
  deriving Repr, DecidableEq

def Sign.spelling : Sign → String
  | .plus => "+"
  | .minus => "-"
  | .invert => "~"

/-- A unary operator on a real number. -/
def signedReal (op : Sign) (v : Value) : Except Fault Value :=
  match op, v.number? with
  | .plus, some (.int i) => .ok (.int i)
  | .minus, some (.int i) => .ok (.int (-i))
  | .invert, some (.int i) => .ok (.int (-i - 1))
  | .plus, some (.float x) => .ok (.float x)
  | .minus, some (.float x) => .ok (.float (-x))
  | _, _ => .error (.unaryOperand op.spelling v.kindName)

def signed (op : Sign) (v : Value) : Except Fault Value :=
  match op, v with
  | .plus, .nan m => .ok (.nan m)
  | .plus, .complex z => .ok (.complex z)
  | .minus, .complex z => .ok (.complex z.negate)
  | _, _ => signedReal op v

/-! ## Order and membership -/

inductive Order where
  | lt | le | gt | ge
  deriving Repr, DecidableEq

def Order.sign : Order → String
  | .lt => "<"
  | .le => "<="
  | .gt => ">"
  | .ge => ">="

/-- Whether a comparison holds of two things in the given order; of things without an order none
does. -/
def Order.holds : Order → Option Ordering → Bool
  | .lt, some .lt => true
  | .le, some .lt => true
  | .le, some .eq => true
  | .gt, some .gt => true
  | .ge, some .gt => true
  | .ge, some .eq => true
  | _, _ => false

/-- The order of two texts, by code point. -/
def compareText (s t : String) : Ordering :=
  if s < t then .lt else if s == t then .eq else .gt

mutual

/-- A comparison of two values. -/
def ordered (op : Order) : Value → Value → Except Fault Bool
  | .str s, .str t => .ok (op.holds (some (compareText s t)))
  | .list xs, .list ys => orderedItems op xs ys
  | .tuple xs, .tuple ys => orderedItems op xs ys
  | a, b =>
    match a.number?, b.number? with
    | some x, some y => .ok (op.holds (x.compare y))
    | _, _ => .error (.order op.sign a.kindName b.kindName)
termination_by structural a => a

/-- A comparison of sequences: of the first two items that differ, or else of the lengths. -/
def orderedItems (op : Order) : List Value → List Value → Except Fault Bool
  | x :: xs, y :: ys =>
    if x.isItself y || x.same y then orderedItems op xs ys else ordered op x y
  | [], [] => .ok (op.holds (some .eq))
  | [], _ :: _ => .ok (op.holds (some .lt))
  | _ :: _, [] => .ok (op.holds (some .gt))
termination_by structural xs => xs

end

mutual

/-- The kind of the first part of a value that cannot be a key. -/
def unhashable? : Value → Option String
  | .list items => some (Value.list items).kindName
  | .object fields => some (Value.object fields).kindName
  | .tuple items => firstUnhashable? items
  | .handle (.table t) => some (Handle.table t).kindName
  | .handle (.thing "set") => some "set"
  | .handle (.thing "dict") => some "dict"
  | _ => none
termination_by structural v => v

/-- The same for the items of a tuple. -/
def firstUnhashable? : List Value → Option String
  | [] => none
  | v :: rest => unhashable? v <|> firstUnhashable? rest
termination_by structural items => items

end

/-- Refuse a value that cannot be a key. -/
def checkKey (v : Value) : Except Fault Unit :=
  match v.unhashable? with
  | some kind => .error (.unhashable kind)
  | none => .ok ()

/-- The name that a value is among names. A value that is no text is none of them. -/
def asName (v : Value) : Except Fault (Option String) := do
  v.checkKey
  match v with
  | .str s => .ok (some s)
  | _ => .ok none

/-- Whether a value is in a text or a sequence. -/
def isIn (item container : Value) : Except Fault Bool :=
  match container, item with
  | .str whole, .str part => .ok (Text.contains whole part)
  | .str _, v => .error (.textMembership v.kindName)
  | .list items, v => .ok (items.any fun x => x.isItself v || x.same v)
  | .tuple items, v => .ok (items.any fun x => x.isItself v || x.same v)
  | .object fields, .str name => .ok (Fields.has fields name)
  | .object _, v => v.checkKey.map fun _ => false
  | v, _ => .error (.notContainer v.kindName)

/-- How many items a value has. -/
def count : Value → Except Fault Nat
  | .str s => .ok s.length
  | .list items => .ok items.length
  | .tuple items => .ok items.length
  | .object fields => .ok fields.length
  | v => .error (.noLength v.kindName)

/-! ## Text of a value -/

/-- The least integer with more digits than are written. -/
def longBound : Nat := Number.ten Number.maxDigits

/-- Whether an integer has more digits than are written. -/
def isLong (i : Int) : Bool :=
  14000 < i.natAbs.log2 && longBound ≤ i.natAbs

mutual

/-- The first value of some sort that stands in a value, containers apart. -/
def first? (sort : Value → Bool) : Value → Option Value
  | .list items => firstItem? sort items
  | .tuple items => firstItem? sort items
  | .object fields => firstField? sort fields
  | v => if sort v then some v else none
termination_by structural v => v

def firstItem? (sort : Value → Bool) : List Value → Option Value
  | [] => none
  | v :: rest => (first? sort v).or (firstItem? sort rest)
termination_by structural items => items

def firstField? (sort : Value → Bool) : List (String × Value) → Option Value
  | [] => none
  | (_, v) :: rest => (first? sort v).or (firstField? sort rest)
termination_by structural fields => fields

end

/-- Whether an integer that is too long to write stands in a value; `table` tells it of tables. -/
def hasLongWith (table : Table → Bool) (v : Value) : Bool :=
  (v.first? fun
    | .int i => isLong i
    | .handle (.table t) => table t
    | _ => false).isSome

/-- Whether an integer that is too long to write stands in a value. -/
def hasLong (v : Value) : Bool :=
  v.hasLongWith fun _ => false

/-- Whether no document holds a value, containers apart. -/
def isForeign : Value → Bool
  | .int i => isLong i
  | .complex _ => true
  | .handle _ => true
  | _ => false

/-- Whether a value has a text as a document. -/
def isWritten (v : Value) : Bool :=
  (v.first? isForeign).isNone

/-- The text of a value, unless an integer in it is too long. -/
def text (v : Value) : Except Fault String :=
  if v.hasLong then .error .longInteger else .ok v.display

/-! ## Conversions -/

/-- An exact ratio for a finite double. -/
def finiteRatio (x : Float) : Except Fault (Int × Nat) :=
  match Number.ratio? x with
  | some r => .ok r
  | none => if x.isNaN then .error .nanToInteger else .error (.overflow .infinity)

/-- A real number rounded to an integer by `rounding`. -/
def toIntegerBy (rounding : Int → Nat → Int) (v : Value) : Except Fault Value :=
  match v.number? with
  | some (.int i) => .ok (.int i)
  | some (.float x) => (finiteRatio x).map fun r => .int (rounding r.1 r.2)
  | none => .error (.notReal v.kindName)

/-- A real number as a double, for the functions of the mathematics library. -/
def toReal (v : Value) : Except Fault Float :=
  match v.number? with
  | some x => x.toFloat
  | none => .error (.notReal v.kindName)

/-- A value converted to a double. -/
def toFloat (v : Value) : Except Fault Value :=
  match v with
  | .str s =>
    match Number.readFloat? s with
    | some x => .ok (.float x)
    | none => .error (.badFloat s)
  | .nan m => .ok (.nan m)
  | v =>
    match v.number? with
    | some x => x.toFloat.map .float
    | none => .error (.notFloat v.kindName)

/-- The integer that a text stands for in a base. -/
def readInteger (base : Nat) (s : String) : Except Fault Value :=
  match Number.readIntIn base s with
  | .ok i => .ok (.int i)
  | .error .malformed => .error (.badInteger base s)
  | .error (.tooLong digits) => .error (.longNumeral digits)

/-- A value converted to an integer, a double by dropping its fraction. -/
def toInt (v : Value) : Except Fault Value :=
  match v with
  | .str s => readInteger 10 s
  | v =>
    match v.number? with
    | some (.int i) => .ok (.int i)
    | some (.float x) => (finiteRatio x).map fun r => .int (Number.truncRatio r.1 r.2)
    | none => .error (.notInteger v.kindName)

/-- A value used as a count. -/
def toIndex (v : Value) : Except Fault Int :=
  match v with
  | .int i => .ok i
  | .bool b => .ok (if b then 1 else 0)
  | v => .error (.notIndex v.kindName)

/-- A text converted to an integer in a base: from two to thirty-six, or zero for the base that the
text names. -/
def toIntIn (v base : Value) : Except Fault Value := do
  let base ← base.toIndex
  if base != 0 && (base < 2 || 36 < base) then .error .noBase
  else
    match v with
    | .str s => readInteger base.toNat s
    | _ => .error .baseOfNumber

/-- A real number without its sign. -/
def magnitudeReal (v : Value) : Except Fault Value :=
  match v.number? with
  | some (.int i) => .ok (.int i.natAbs)
  | some (.float x) => .ok (.float x.abs)
  | none => .error (.magnitude v.kindName)

/-- A value without its sign. -/
def magnitude (v : Value) : Except Fault Value :=
  match v with
  | .complex z =>
    if z.length.isInf && z.re.isFinite && z.im.isFinite then .error (.overflow .magnitude)
    else .ok (.float z.length)
  | v => magnitudeReal v

/-- A value rounded to the nearest integer, a half to the even one. -/
def rounded (v : Value) : Except Fault Value :=
  match v.number? with
  | some _ => toIntegerBy Number.roundRatio v
  | none => .error (.noRounding v.kindName)

/-- A double rounded to a number of decimal places, a half to the even digit. -/
def roundPlaces (x : Float) (places : Int) : Float :=
  match Number.ratio? x with
  | none => x
  | some (num, den) =>
    if 323 < places then x
    else if places < -309 then 0.0 * x
    else
      let n := if 0 ≤ places then Number.roundRatio (num * Number.ten places.toNat) den
        else Number.roundRatio num (den * Number.ten (-places).toNat)
      Number.ofDecimal (Number.isNegative x) n.natAbs (-places)

/-- A value rounded to a number of decimal places. -/
def roundedTo (v : Value) (places : Int) : Except Fault Value :=
  match v.number? with
  | some (.int i) =>
    if 0 ≤ places then .ok (.int i)
    else if i.natAbs.log2 + 2 < (-places).toNat then .ok (.int 0)
    else
      let unit : Nat := Number.ten (-places).toNat
      .ok (.int (Number.roundRatio i unit * unit))
  | some (.float x) =>
    let y := roundPlaces x places
    if y.isInf && x.isFinite then .error (.overflow .rounding) else .ok (.float y)
  | none => .error (.noRounding v.kindName)

end Value

end Sketchflow
