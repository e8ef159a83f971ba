import Sketchflow.Json.Reader
import Sketchflow.Script.Token

/-!
# Numbers in programs

Integers in base ten, two, eight and sixteen, and decimals. Underscores may stand between digits.
An integer in base ten does not start with a zero, unless all its digits are zeros. A number may
be followed directly by one of the words that can stand after an operand, by no other word.
-/

namespace Sketchflow.Script

/-- Digits with single underscores between them, from a first digit on: the digits, and the
rest. -/
def takeRun (isDigit : Char → Bool) (done : List Char) : List Char → Option (List Char × List Char)
  | '_' :: c :: rest => if isDigit c then takeRun isDigit (c :: done) rest else none
  | '_' :: [] => none
  | c :: rest =>
    if isDigit c then takeRun isDigit (c :: done) rest else some (done.reverse, c :: rest)
  | [] => some (done.reverse, [])

/-- Digits that may be absent. -/
def takeOptionalRun (cs : List Char) : Option (List Char × List Char) :=
  match cs with
  | c :: _ => if c.isDigit then takeRun Char.isDigit [] cs else some ([], cs)
  | [] => some ([], [])

/-- The words that may follow a number without a blank. -/
def followers : List String :=
  ["and", "else", "for", "if", "in", "is", "or", "not"]

def canEnd (rest : List Char) : Bool :=
  match rest with
  | c :: _ => !isWordChar c || followers.any fun w => w.toList.isPrefixOf rest
  | [] => true

def isBaseDigit (base : Nat) (c : Char) : Bool :=
  match Json.hexValue? c with
  | some d => d < base
  | none => false

def ofBase (base : Nat) (ds : List Char) : Nat :=
  ds.foldl (fun n c => n * base + (Json.hexValue? c).getD 0) 0

def startsWith (isDigit : Char → Bool) (cs : List Char) : Bool :=
  (cs.head?.map isDigit).getD false

def dropUnderscore : List Char → List Char
  | '_' :: rest => rest
  | rest => rest

/-- An integer in another base, its mark already taken. -/
def takeBased (base : Nat) (cs : List Char) : Option (Value × List Char) :=
  let cs := dropUnderscore cs
  if startsWith (isBaseDigit base) cs then
    (takeRun (isBaseDigit base) [] cs).bind fun r =>
      if canEnd r.2 && !startsWith Char.isDigit r.2 then some (.int (ofBase base r.1), r.2)
      else none
  else none

def takeSign : List Char → List Char × List Char
  | '+' :: rest => (['+'], rest)
  | '-' :: rest => (['-'], rest)
  | rest => ([], rest)

/-- The exponent of a decimal: its text and the rest. A mark that no digits follow belongs to a
word. -/
def takePower (cs : List Char) : Option (List Char × List Char) :=
  match cs with
  | mark :: rest =>
    if mark == 'e' || mark == 'E' then
      let (sign, body) := takeSign rest
      if startsWith Char.isDigit body then
        (takeRun Char.isDigit [] body).map fun r => (mark :: sign ++ r.1, r.2)
      else if sign.isEmpty then some ([], cs) else none
    else some ([], cs)
  | [] => some ([], [])

/-- A number as the imaginary part of a complex one. -/
def imaginary (v : Value) : Value :=
  match v with
  | .int i => .complex ⟨0.0, Number.ofInt i⟩
  | .float x => .complex ⟨0.0, x⟩
  | v => v

/-- The end of a number: an imaginary mark, or nothing. -/
def finish (v : Value) (rest : List Char) : Option (Value × List Char) :=
  match rest with
  | c :: more =>
    if c == 'j' || c == 'J' then
      if canEnd more then some (imaginary v, more) else none
    else if canEnd rest then some (v, rest) else none
  | [] => some (v, [])

/-- A decimal with a fraction or an exponent. -/
def decimalValue (text : List Char) : Value :=
  .float ((Number.readFloat? (String.ofList text)).getD 0.0)

/-- The point of a decimal and the digits after it, none if there is no point. -/
def takeFraction : List Char → Option (Option (List Char) × List Char)
  | '.' :: rest => (takeOptionalRun rest).map fun r => (some r.1, r.2)
  | rest => some (none, rest)

def partsValue (whole : List Char) (fraction : Option (List Char)) (power : List Char) : Value :=
  if fraction.isSome || !power.isEmpty then
    decimalValue (whole ++ '.' :: fraction.getD [] ++ power)
  else .int (Number.ofDigits (whole.map fun c => c.toNat - '0'.toNat))

/-- Whether digits can be a whole number: they are all zeros, or they do not start with a zero and
are not too many. -/
def isWhole (ds : List Char) : Bool :=
  ds.all (· == '0') || (ds.head? != some '0' && ds.length ≤ Number.maxDigits)

/-- What follows the whole part of a number. -/
def afterWhole (whole : List Char) (cs : List Char) : Option (Value × List Char) :=
  (takeFraction cs).bind fun (fraction, rest) =>
    (takePower rest).bind fun (power, rest) =>
      (finish (partsValue whole fraction power) rest).bind fun (v, rest) =>
        match v with
        | .int _ => if isWhole whole then some (v, rest) else none
        | _ => some (v, rest)

def number? (cs : List Char) : Option (Value × List Char) :=
  match cs with
  | '0' :: mark :: rest =>
    if mark == 'x' || mark == 'X' then takeBased 16 rest
    else if mark == 'o' || mark == 'O' then takeBased 8 rest
    else if mark == 'b' || mark == 'B' then takeBased 2 rest
    else (takeRun Char.isDigit [] cs).bind fun r => afterWhole r.1 r.2
  | '.' :: _ => afterWhole ['0'] cs
  | _ => (takeRun Char.isDigit [] cs).bind fun r => afterWhole r.1 r.2

end Sketchflow.Script
