import Sketchflow.Text.Blank
import Sketchflow.Text.Digit
import Sketchflow.Number.Binary64

/-!
# Reading numerals

Numerals are written with the decimal digits of any script, blanks around them are ignored, and
single underscores may separate digits.

* `readIntIn` reads an integer in a base, `readInt` one in base ten. An integer of more than
  `maxDigits` digits is refused, unless the base is a power of two.
* `readFloat?` reads a decimal with fraction and exponent, or one of the words for infinity and
  not-a-number.
-/

namespace Sketchflow.Number

open Sketchflow.Text

/-- The longest integer numeral that is read. -/
def maxDigits : Nat := 4300

/-- Why a text is no integer. -/
inductive IntFault where
  | malformed
  | tooLong (digits : Nat)
  deriving Repr, DecidableEq

/-- The digit values of a run of digits in which single underscores stand between digits. -/
def digitRun? : List Char → Option (List Nat)
  | [] => none
  | [c] => (digitValue? c).map fun d => [d]
  | c :: '_' :: rest =>
    match digitValue? c, digitRun? rest with
    | some d, some ds => some (d :: ds)
    | _, _ => none
  | c :: rest =>
    match digitValue? c, digitRun? rest with
    | some d, some ds => some (d :: ds)
    | _, _ => none

def ofDigits (ds : List Nat) : Nat :=
  ds.foldl (fun n d => 10 * n + d) 0

def takeSign : List Char → Bool × List Char
  | '-' :: rest => (true, rest)
  | '+' :: rest => (false, rest)
  | cs => (false, cs)

/-- The blanks that numerals may have around them: of the ASCII blanks, not the information
separators. -/
def isPadding (c : Char) : Bool :=
  isBlank c && !(0x1c ≤ c.toNat && c.toNat ≤ 0x1f)

def dropPadding (cs : List Char) : List Char :=
  ((cs.dropWhile isPadding).reverse.dropWhile isPadding).reverse

/-- The value of a digit in the bases up to thirty-six: a decimal digit of any script, or an ASCII
letter. -/
def baseDigit? (c : Char) : Option Nat :=
  if c.isLower then some (c.toNat - 0x61 + 10)
  else if c.isUpper then some (c.toNat - 0x41 + 10)
  else digitValue? c

def isDigitOf (base : Nat) (c : Char) : Bool :=
  match baseDigit? c with
  | some d => d < base
  | none => false

/-- Whether underscores stand between digits only, one at a time; `free` tells that one may come
next. -/
def spacedFrom (free : Bool) : List Char → Bool
  | [] => free
  | c :: rest => if c == '_' then free && spacedFrom false rest else spacedFrom true rest

/-- The natural that digits and underscores stand for in a base. -/
def ofBase (base : Nat) (cs : List Char) : Nat :=
  cs.foldl (fun n c => if c == '_' then n else base * n + (baseDigit? c).getD 0) 0

/-- Whether there is no limit on the digits of numerals in a base. -/
def isUnlimited (base : Nat) : Bool :=
  base == 2 || base == 4 || base == 8 || base == 16 || base == 32

/-- The natural that a whole text of digits stands for in a base. -/
def readDigits (base : Nat) (cs : List Char) : Except IntFault Nat :=
  let run := cs.takeWhile fun c => isDigitOf base c || c == '_'
  let count := (run.filter (· != '_')).length
  if !spacedFrom false run then .error .malformed
  else if maxDigits < count && !isUnlimited base then .error (.tooLong count)
  else if (cs.dropWhile fun c => isDigitOf base c || c == '_').isEmpty then .ok (ofBase base run)
  else .error .malformed

/-- The base that a mark after a zero stands for. -/
def markedBase? (c : Char) : Option Nat :=
  if c == 'x' || c == 'X' then some 16
  else if c == 'o' || c == 'O' then some 8
  else if c == 'b' || c == 'B' then some 2
  else none

/-- What follows the mark of a base; one underscore may. -/
def afterMark (cs : List Char) : List Char :=
  match cs with
  | '_' :: rest => rest
  | cs => cs

/-- The natural that a text without a sign stands for in a base. The base zero is the one that the
mark in the text names: without a mark ten, and then a zero in front makes the whole text zero. -/
def readNatural (base : Nat) (cs : List Char) : Except IntFault Nat :=
  match cs with
  | '0' :: mark :: rest =>
    match markedBase? mark with
    | some b =>
      if base == 0 || base == b then readDigits b (afterMark rest) else readDigits base cs
    | none =>
      if base == 0 then
        match readDigits 10 cs with
        | .ok 0 => .ok 0
        | .ok _ => .error .malformed
        | .error f => .error f
      else readDigits base cs
  | cs => readDigits (if base == 0 then 10 else base) cs

/-- The integer a text stands for in a base. -/
def readIntIn (base : Nat) (s : String) : Except IntFault Int :=
  let (negative, body) := takeSign (dropPadding s.toList)
  (readNatural base body).map fun n => if negative then -(n : Int) else n

def readInt (s : String) : Except IntFault Int :=
  readIntIn 10 s

/-- A decimal numeral: digits, digits after the point, exponent. -/
structure DecimalText where
  whole : List Nat
  fraction : List Nat
  exponent : Int

/-- Characters up to the first that meets `p`, and the rest from there on. -/
def splitAtFirst (p : Char → Bool) (cs : List Char) : List Char × List Char :=
  (cs.takeWhile fun c => !p c, cs.dropWhile fun c => !p c)

/-- An optional run of digits: none at all, or a well-formed run. -/
def optionalRun? (cs : List Char) : Option (List Nat) :=
  if cs.isEmpty then some [] else digitRun? cs

/-- The exponent part of a numeral, with its mark. -/
def exponent? : List Char → Option Int
  | [] => some 0
  | _ :: rest =>
    let (negative, body) := takeSign rest
    (digitRun? body).map fun ds =>
      let n : Int := ofDigits ds
      if negative then -n else n

/-- The parts of an unsigned decimal numeral. -/
def decimalText? (cs : List Char) : Option DecimalText :=
  let (mantissa, tail) := splitAtFirst (fun c => c == 'e' || c == 'E') cs
  let (whole, dotted) := splitAtFirst (· == '.') mantissa
  let fraction := dotted.drop 1
  match optionalRun? whole, optionalRun? fraction, exponent? tail with
  | some w, some f, some e => if w.isEmpty && f.isEmpty then none else some ⟨w, f, e⟩
  | _, _, _ => none

/-- How many digits can decide which double is nearest. -/
def decisiveDigits : Nat := 800

/-- The digits that decide, one for all that follow them, and how many are left out. What follows
only tells whether the number is larger than the digits that decide. -/
def decisive (ds : List Nat) : List Nat × Nat :=
  let rest := ds.drop decisiveDigits
  if rest.isEmpty then (ds, 0)
  else (ds.take decisiveDigits ++ [if rest.all (· == 0) then 0 else 1], rest.length - 1)

/-- The double nearest to a decimal numeral. -/
def DecimalText.toFloat (negative : Bool) (d : DecimalText) : Float :=
  let (ds, left) := decisive ((d.whole ++ d.fraction).dropWhile (· == 0))
  ofDecimal negative (ofDigits ds) (d.exponent - d.fraction.length + left)

def readFloat? (s : String) : Option Float :=
  let (negative, body) := takeSign (dropPadding s.toList)
  let word := String.ofList (body.map Char.toLower)
  if word == "inf" || word == "infinity" then
    some (if negative then -(1.0 / 0.0) else 1.0 / 0.0)
  else if word == "nan" then some (0.0 / 0.0)
  else (decimalText? body).map fun d => d.toFloat negative

end Sketchflow.Number
