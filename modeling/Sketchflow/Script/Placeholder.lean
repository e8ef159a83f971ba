import Sketchflow.Number.Layout
import Sketchflow.Script.Library

/-!
# Filling in placeholders

A text can hold placeholders, which a percent sign begins: the name of an entry in parentheses,
flags, a width, a precision and the letter of a conversion, all but the letter optional. Values
take their places in order; an entry is looked up in the one table that is given.

* `pieces` takes a text apart, `fillPieces` puts the values in.
* `fill` does both, and refuses values that are left over.
-/

namespace Sketchflow.Script

/-! ## Texts with placeholders -/

/-- A width or a precision. -/
inductive Extent where
  | absent
  | given (n : Nat)
  /-- The next of the values. -/
  | taken
  deriving Repr, DecidableEq

/-- The name of an entry in a placeholder. -/
inductive EntryName where
  | absent
  | given (name : String)
  /-- The text ends before the name does. -/
  | unclosed
  deriving Repr, DecidableEq

structure Flags where
  /-- Fill up with blanks on the right. -/
  left : Bool := false
  /-- A plus in front of numbers that are not negative. -/
  plus : Bool := false
  blank : Bool := false
  /-- The longer of two forms. -/
  long : Bool := false
  /-- Fill up numbers with zeros. -/
  zeros : Bool := false
  deriving Repr

structure Placeholder where
  entry : EntryName := .absent
  flags : Flags := {}
  width : Extent := .absent
  precision : Extent := .absent
  /-- The letter of the conversion; none if the text ends before it. -/
  letter : Option Char := none
  deriving Repr

/-- A part of a text. -/
inductive Piece where
  | char (c : Char)
  | hole (p : Placeholder) (index : Nat)
  deriving Repr

/-- The rest of a name with parentheses inside each other, and what follows it; `depth` counts the
parentheses that are open. -/
def takeName (depth : Nat) (name : List Char) : List Char → Option (List Char × List Char)
  | [] => none
  | c :: rest =>
    if c == ')' then
      if depth == 0 then some (name.reverse, rest) else takeName (depth - 1) (c :: name) rest
    else if c == '(' then takeName (depth + 1) (c :: name) rest
    else takeName depth (c :: name) rest

def takeEntry (cs : List Char) : EntryName × List Char :=
  match cs with
  | '(' :: rest =>
    match takeName 0 [] rest with
    | some (name, rest) => (.given (String.ofList name), rest)
    | none => (.unclosed, [])
  | cs => (.absent, cs)

def isFlag (c : Char) : Bool :=
  c == '-' || c == '+' || c == ' ' || c == '#' || c == '0'

/-- The flags that characters stand for. -/
def flagsOf (cs : List Char) : Flags :=
  { left := cs.contains '-', plus := cs.contains '+', blank := cs.contains ' '
    long := cs.contains '#', zeros := cs.contains '0' }

/-- A width, or a precision after its point. -/
def takeExtent (cs : List Char) : Extent × List Char :=
  match cs with
  | '*' :: rest => (.taken, rest)
  | cs =>
    let digits := cs.takeWhile Char.isDigit
    if digits.isEmpty then (.absent, cs)
    else (.given (Number.ofDigits (digits.map fun c => c.toNat - 0x30)), cs.dropWhile Char.isDigit)

/-- A precision: nothing after the point is zero. -/
def takePrecision (cs : List Char) : Extent × List Char :=
  match cs with
  | '.' :: rest =>
    match takeExtent rest with
    | (.absent, rest) => (.given 0, rest)
    | other => other
  | cs => (.absent, cs)

/-- What follows a letter that only tells a size. -/
def dropSize (cs : List Char) : List Char :=
  match cs with
  | c :: rest => if c == 'h' || c == 'l' || c == 'L' then rest else cs
  | [] => []

/-- The placeholder after a percent sign, and what follows it. -/
def takePlaceholder (cs : List Char) : Placeholder × List Char :=
  let (entry, cs) := takeEntry cs
  let flags := flagsOf (cs.takeWhile isFlag)
  let (width, cs) := takeExtent (cs.dropWhile isFlag)
  let (precision, cs) := takePrecision cs
  let cs := dropSize cs
  ({ entry, flags, width, precision, letter := cs.head? }, cs.tail)

/-- The parts of a text of `total` characters, of which these are left. The bound is on the
parts. -/
def piecesFrom (total : Nat) : Nat → List Char → List Piece
  | 0, _ => []
  | _ + 1, [] => []
  | bound + 1, '%' :: rest =>
    match rest with
    | '%' :: rest => .char '%' :: piecesFrom total bound rest
    | rest =>
      let (p, rest) := takePlaceholder rest
      .hole p (total - rest.length - 1) :: piecesFrom total bound rest
  | bound + 1, c :: rest => .char c :: piecesFrom total bound rest

/-- The parts of a text. -/
def pieces (s : String) : List Piece :=
  let cs := s.toList
  piecesFrom cs.length cs.length cs

/-! ## Conversions -/

/-- A value in the form of its conversion. A number has its sign and the mark of its base apart. -/
structure Converted where
  isNumber : Bool := false
  sign : String := ""
  mark : String := ""
  body : String

/-- The first characters of a text. -/
def cutTo (precision : Option Nat) (s : String) : String :=
  match precision with
  | some n => String.ofList (s.toList.take n)
  | none => s

/-- A text with all characters beyond ASCII as escapes. -/
def asciiOnly (s : String) : String :=
  String.ofList (s.toList.flatMap fun c => if c.toNat < 0x80 then [c] else Text.codeEscape c)

/-- An integer with at least as many digits as the precision. -/
def convertedInt (i : Int) (mark digits : String) (precision : Option Nat) : Converted :=
  { isNumber := true, sign := if i < 0 then "-" else "", mark
    body := Number.padZeros (precision.getD 0) digits }

/-- The integer that a value is converted to in base ten. -/
def wholeOf (letter : Char) (v : Value) : Except Fault Int :=
  match v.number? with
  | some (.int i) => .ok i
  | some (.float x) => (Value.finiteRatio x).map fun r => Number.truncRatio r.1 r.2
  | none => .error (.fill (.notNumber letter v.kindName))

/-- A value as an integer in base ten. -/
def convertDecimal (letter : Char) (precision : Option Nat) (v : Value) :
    Except Fault Converted := do
  let i ← wholeOf letter v
  if Value.isLong i then .error .longInteger
  else .ok (convertedInt i "" (toString i.natAbs) precision)

/-- A value as an integer in base eight or sixteen, with the mark of the base in the long form. -/
def convertBase (letter : Char) (flags : Flags) (precision : Option Nat) (v : Value) :
    Except Fault Converted :=
  match v.number? with
  | some (.int i) =>
    let digits := String.ofList (Nat.toDigits (if letter == 'o' then 8 else 16) i.natAbs)
    let digits := if letter == 'X' then digits.toUpper else digits
    let mark := if flags.long then String.ofList ['0', letter] else ""
    .ok (convertedInt i mark digits precision)
  | _ => .error (.fill (.notWhole letter v.kindName))

/-- How many digits a double has unless a precision is given. -/
def usualPrecision : Nat := 6

/-- A value as a double. -/
def convertReal (layout : Number.Layout) (upper : Bool) (flags : Flags) (precision : Option Nat)
    (v : Value) : Except Fault Converted := do
  let x ← v.toReal
  let s := layout.write flags.long (precision.getD usualPrecision) x
  let s := if upper then s.toUpper else s
  match s.toList with
  | '-' :: body => .ok { isNumber := true, sign := "-", body := String.ofList body }
  | _ => .ok { isNumber := true, body := s }

def convertChar (v : Value) : Except Fault Converted :=
  match v with
  | .str s => if s.length == 1 then .ok { body := s } else .error (.fill .notCharacter)
  | v =>
    match v.toIndex with
    | .error _ => .error (.fill .notCharacter)
    | .ok i =>
      if i < 0 || 0x10ffff < i then .error (.fill .noCode)
      else .ok { body := String.singleton (Char.ofNat i.toNat) }

/-- A value in the form of a conversion. -/
def convert (m : Machine) (letter : Char) (index : Nat) (flags : Flags) (precision : Option Nat)
    (v : Value) : Except Fault Converted :=
  match letter with
  | 's' => (m.textOf v).map fun s => { body := cutTo precision s }
  | 'r' => (m.showValue v).map fun s => { body := cutTo precision s }
  | 'a' => (m.showValue v).map fun s => { body := cutTo precision (asciiOnly s) }
  | 'd' => convertDecimal letter precision v
  | 'i' => convertDecimal letter precision v
  | 'u' => convertDecimal letter precision v
  | 'o' => convertBase letter flags precision v
  | 'x' => convertBase letter flags precision v
  | 'X' => convertBase letter flags precision v
  | 'e' => convertReal .scientific false flags precision v
  | 'E' => convertReal .scientific true flags precision v
  | 'f' => convertReal .fixed false flags precision v
  | 'F' => convertReal .fixed true flags precision v
  | 'g' => convertReal .general false flags precision v
  | 'G' => convertReal .general true flags precision v
  | 'c' => convertChar v
  | letter => .error (.fill (.noConversion letter index))

/-- The sign in front of a converted value. -/
def Converted.signText (c : Converted) (flags : Flags) : String :=
  if !c.isNumber || c.sign != "" then c.sign
  else if flags.plus then "+"
  else if flags.blank then " "
  else ""

/-- A converted value filled up to a width. -/
def Converted.padded (c : Converted) (flags : Flags) (width : Nat) : Except Fault String :=
  let head := c.signText flags ++ c.mark
  let room := width - (head.length + c.body.length)
  if Value.itemBound ≤ room then .error .tooLarge
  else
    let fill (x : Char) : String := String.ofList (List.replicate room x)
    if flags.left then .ok (head ++ c.body ++ fill ' ')
    else if flags.zeros && c.isNumber then .ok (head ++ fill '0' ++ c.body)
    else .ok (fill ' ' ++ head ++ c.body)

/-! ## Filling in -/

def nextValue (values : List Value) : Except Fault (Value × List Value) :=
  match values with
  | v :: rest => .ok (v, rest)
  | [] => .error (.fill .tooFew)

/-- The integer that is taken from the values for a width or a precision, and the rest of them. -/
def nextCount (bound : Nat) (fault : FillFault) (values : List Value) :
    Except Fault (Int × List Value) := do
  let (v, rest) ← nextValue values
  match v.toIndex with
  | .error _ => .error (.fill .noCount)
  | .ok i =>
    if i < -(bound : Int) || (bound : Int) ≤ i then .error (.fill fault) else .ok (i, rest)

/-- The least natural that is no precision. -/
def precisionBound : Nat := Number.two 31

/-- The width of a placeholder, whether it asks for blanks on the right, and the values that are
left. -/
def widthOf (p : Placeholder) (values : List Value) : Except Fault (Nat × Bool × List Value) :=
  match p.width with
  | .absent => .ok (0, false, values)
  | .given n => if Value.countBound ≤ n then .error (.fill .wideWidth) else .ok (n, false, values)
  | .taken => do
    let (i, rest) ← nextCount Value.countBound .wideCount values
    .ok (i.natAbs, decide (i < 0), rest)

/-- The precision of a placeholder, and the values that are left. -/
def precisionOf (p : Placeholder) (values : List Value) :
    Except Fault (Option Nat × List Value) :=
  match p.precision with
  | .absent => .ok (none, values)
  | .given n =>
    if precisionBound ≤ n then .error (.fill .longPrecision) else .ok (some n, values)
  | .taken => do
    let (i, rest) ← nextCount precisionBound .longPrecisionCount values
    .ok (some i.toNat, rest)

/-- The values of a placeholder that names an entry: the entry only. -/
def entryValues (m : Machine) (table : Option Value) (entry : EntryName) (values : List Value) :
    Except Fault (List Value) :=
  match entry, table with
  | .absent, _ => .ok values
  | _, none => .error (.fill .noTable)
  | .unclosed, some _ => .error (.fill .incompleteKey)
  | .given name, some t => (itemOf m t (.str name)).map fun v => [v]

/-- A placeholder filled in, and the values that are left. -/
def fillHole (m : Machine) (table : Option Value) (p : Placeholder) (index : Nat)
    (values : List Value) : Except Fault (String × List Value) := do
  let values ← entryValues m table p.entry values
  let (width, left, values) ← widthOf p values
  let (precision, values) ← precisionOf p values
  match p.letter with
  | none => .error (.fill .incomplete)
  | some letter =>
    let (v, rest) ← nextValue values
    let c ← convert m letter index p.flags precision v
    let flags := { p.flags with left := p.flags.left || left }
    let text ← c.padded flags width
    .ok (text, rest)

/-- Parts with the values filled in, after the text so far, and the values that are left. -/
def fillPieces (m : Machine) (table : Option Value) :
    List Piece → List Value → String → Except Fault (String × List Value)
  | [], values, done => .ok (done, values)
  | .char c :: rest, values, done => fillPieces m table rest values (done.push c)
  | .hole p index :: rest, values, done => do
    let (text, values) ← fillHole m table p index values
    fillPieces m table rest values (done ++ text)

/-- The table that entries are looked up in. -/
def tableOf? (v : Value) : Option Value :=
  match v with
  | .list _ => some v
  | .object _ => some v
  | .handle (.table _) => some v
  | .handle (.range _) => some v
  | .handle (.thing "dict") => some v
  | _ => none

/-- The values that take the places of placeholders: the items of a tuple, or one value. -/
def valuesOf (v : Value) : List Value :=
  match v with
  | .tuple items => items
  | v => [v]

/-- A text with its placeholders filled in by a value. -/
def fill (m : Machine) (s : String) (v : Value) : Except Fault Value := do
  let (text, rest) ← fillPieces m (tableOf? v) (pieces s) (valuesOf v) ""
  if (tableOf? v).isNone && !rest.isEmpty then .error (.fill .leftOver) else .ok (.str text)

end Sketchflow.Script
