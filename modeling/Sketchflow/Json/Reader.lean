import Sketchflow.Number.Numeral
import Sketchflow.Value.Basic

/-!
# Reading JSON

A document is read into a value; fields keep the order of their first appearance and the value of
their last. Besides the grammar's numbers the three words for not-a-number and the infinities are
read. A number with a fraction or an exponent is a double, any other an integer.

* `read` reads a whole text.
* `Fault` says what is wrong and at which character; `Fault.message` puts it in words.
-/

namespace Sketchflow.Json

/-- What can be wrong with a text. -/
inductive Problem where
  | expectingValue
  | expectingName
  | expectingColon
  | expectingComma
  | unterminated
  | controlCharacter
  | badEscape
  | badUnicodeEscape
  | extraData
  | byteOrderMark
  /-- An integer of more digits than are read. -/
  | hugeInteger (digits : Nat)
  deriving Repr, DecidableEq

/-- A problem and the character it is at, counted from zero. -/
structure Fault where
  problem : Problem
  pos : Nat
  deriving Repr, DecidableEq

/-- Whether the grammar is violated; the alternative is a well-formed integer that is too long. -/
def Fault.isSyntax (f : Fault) : Bool :=
  match f.problem with
  | .hugeInteger _ => false
  | _ => true

def Problem.message : Problem → String
  | .expectingValue => "Expecting value"
  | .expectingName => "Expecting property name enclosed in double quotes"
  | .expectingColon => "Expecting ':' delimiter"
  | .expectingComma => "Expecting ',' delimiter"
  | .unterminated => "Unterminated string starting at"
  | .controlCharacter => "Invalid control character at"
  | .badEscape => "Invalid \\escape"
  | .badUnicodeEscape => "Invalid \\uXXXX escape"
  | .extraData => "Extra data"
  | .byteOrderMark => "Unexpected UTF-8 BOM (decode using utf-8-sig)"
  | .hugeInteger digits =>
    s!"Exceeds the limit ({Number.maxDigits} digits) for integer string conversion: value has "
      ++ s!"{digits} digits; use sys.set_int_max_str_digits() to increase the limit"

/-- A fault in words, with its line and column in the text. -/
def Fault.message (text : String) (f : Fault) : String :=
  if f.isSyntax then
    let before := text.toList.take f.pos
    let line := before.count '\n' + 1
    let column := (before.reverse.takeWhile (· != '\n')).length + 1
    f.problem.message ++ s!": line {line} column {column} (char {f.pos})"
  else f.problem.message

/-- What is still to be read, and how many characters were read before it. -/
structure Cursor where
  pos : Nat
  rest : List Char

abbrev Read (α : Type) := Except Fault (α × Cursor)

/-- Whether the grammar skips this character between tokens. -/
def isSpace (c : Char) : Bool :=
  c == ' ' || c == '\t' || c == '\n' || c == '\r'

def Cursor.skip (c : Cursor) : Cursor :=
  ⟨c.pos + (c.rest.takeWhile isSpace).length, c.rest.dropWhile isSpace⟩

/-! ## Strings -/

def hexValue? (c : Char) : Option Nat :=
  if '0' ≤ c && c ≤ '9' then some (c.toNat - '0'.toNat)
  else if 'a' ≤ c && c ≤ 'f' then some (c.toNat - 'a'.toNat + 10)
  else if 'A' ≤ c && c ≤ 'F' then some (c.toNat - 'A'.toNat + 10)
  else none

def hex4? (a b c d : Char) : Option Nat :=
  match hexValue? a, hexValue? b, hexValue? c, hexValue? d with
  | some w, some x, some y, some z => some (((w * 16 + x) * 16 + y) * 16 + z)
  | _, _, _, _ => none

/-- The character behind a one-letter escape. -/
def simpleEscape? (c : Char) : Option Char :=
  if c == '"' || c == '\\' || c == '/' then some c
  else if c == 'b' then some '\x08'
  else if c == 'f' then some '\x0c'
  else if c == 'n' then some '\n'
  else if c == 'r' then some '\r'
  else if c == 't' then some '\t'
  else none

def isHighUnit (n : Nat) : Bool := 0xd800 ≤ n && n ≤ 0xdbff

def isLowUnit (n : Nat) : Bool := 0xdc00 ≤ n && n ≤ 0xdfff

/-- The character of a code unit. A unit that stands alone is no character, and it is replaced. -/
def unitChar (n : Nat) : Char :=
  if isHighUnit n || isLowUnit n then Char.ofNat 0xfffd else Char.ofNat n

def pairChar (high low : Nat) : Char :=
  Char.ofNat (0x10000 + (high - 0xd800) * 0x400 + (low - 0xdc00))

/-- One escape, its backslash at `pos` already taken: the character it stands for and how many
characters it took after the backslash. -/
def readEscape (start pos : Nat) : List Char → Except Fault (Char × Nat)
  | [] => .error ⟨.unterminated, start⟩
  | 'u' :: a :: b :: c :: d :: next :: tail =>
    match hex4? a b c d with
    | none => .error ⟨.badUnicodeEscape, pos + 1⟩
    | some high =>
      match isHighUnit high, next :: tail with
      | true, '\\' :: 'u' :: e :: f :: g :: h :: _ :: _ =>
        match hex4? e f g h with
        | none => .error ⟨.badUnicodeEscape, pos + 7⟩
        | some low => if isLowUnit low then .ok (pairChar high low, 11) else .ok (unitChar high, 5)
      | _, _ => .ok (unitChar high, 5)
  | 'u' :: _ => .error ⟨.badUnicodeEscape, pos + 1⟩
  | c :: _ =>
    match simpleEscape? c with
    | some e => .ok (e, 1)
    | none => .error ⟨.badEscape, pos⟩

/-- The rest of a string whose opening quote is at `start`. `skip` counts the characters that
belong to an escape already read, `done` holds the characters read so far, last first. -/
def readStringFrom (start : Nat) : List Char → Nat → Nat → List Char → Read String
  | [], _, _, _ => .error ⟨.unterminated, start⟩
  | _ :: rest, pos, skip + 1, done => readStringFrom start rest (pos + 1) skip done
  | '"' :: rest, pos, 0, done => .ok (String.ofList done.reverse, ⟨pos + 1, rest⟩)
  | '\\' :: rest, pos, 0, done =>
    match readEscape start pos rest with
    | .error f => .error f
    | .ok (c, taken) => readStringFrom start rest (pos + 1) taken (c :: done)
  | c :: rest, pos, 0, done =>
    if c.toNat < 0x20 then .error ⟨.controlCharacter, pos⟩
    else readStringFrom start rest (pos + 1) 0 (c :: done)

/-- A string, its opening quote already taken. -/
def readString (c : Cursor) : Read String :=
  readStringFrom (c.pos - 1) c.rest c.pos 0 []

/-! ## Numbers -/

def takeDigits (cs : List Char) : List Char × List Char :=
  (cs.takeWhile Char.isDigit, cs.dropWhile Char.isDigit)

/-- The fraction of a number: a point and at least one digit, or nothing. -/
def takeFraction (cs : List Char) : List Char × List Char :=
  match cs with
  | '.' :: rest =>
    match takeDigits rest with
    | ([], _) => ([], cs)
    | (ds, more) => ('.' :: ds, more)
  | _ => ([], cs)

/-- The exponent of a number: a mark, a sign or none, and at least one digit; or nothing. -/
def takeExponent (cs : List Char) : List Char × List Char :=
  match cs with
  | mark :: rest =>
    if mark == 'e' || mark == 'E' then
      let (sign, body) := match rest with
        | '+' :: body => (['+'], body)
        | '-' :: body => (['-'], body)
        | body => ([], body)
      match takeDigits body with
      | ([], _) => ([], cs)
      | (ds, more) => (mark :: sign ++ ds, more)
    else ([], cs)
  | [] => ([], cs)

/-- The whole part of a number: a zero, or digits that do not start with one. -/
def takeWhole (cs : List Char) : List Char × List Char :=
  match cs with
  | '0' :: rest => (['0'], rest)
  | _ => takeDigits cs

def readNumber (c : Cursor) : Read Value :=
  let (sign, unsigned) := match c.rest with
    | '-' :: body => (['-'], body)
    | body => ([], body)
  match takeWhole unsigned with
  | ([], _) => .error ⟨.expectingValue, c.pos⟩
  | (whole, afterWhole) =>
    let (fraction, afterFraction) := takeFraction afterWhole
    let (exponent, rest) := takeExponent afterFraction
    let taken := sign ++ whole ++ fraction ++ exponent
    let text := String.ofList taken
    let next : Cursor := ⟨c.pos + taken.length, rest⟩
    if fraction.isEmpty && exponent.isEmpty then
      match Number.readInt text with
      | .ok i => .ok (.int i, next)
      | .error _ => .error ⟨.hugeInteger whole.length, c.pos⟩
    else .ok (.float ((Number.readFloat? text).getD 0.0), next)

/-! ## Values -/

/-- The words of the grammar and what they stand for. -/
def words : List (String × Value) :=
  [("null", .null), ("true", .bool true), ("false", .bool false), ("NaN", .float (0.0 / 0.0)),
    ("Infinity", .float (1.0 / 0.0)), ("-Infinity", .float (-(1.0 / 0.0)))]

def readAtom (c : Cursor) : Read Value :=
  match words.find? fun w => w.1.toList.isPrefixOf c.rest with
  | some (word, v) => .ok (v, ⟨c.pos + word.length, c.rest.drop word.length⟩)
  | none => readNumber c

mutual

def readValue : Nat → Cursor → Read Value
  | 0, c => .error ⟨.expectingValue, c.pos⟩
  | fuel + 1, c =>
    match c.rest with
    | '"' :: rest => (readString ⟨c.pos + 1, rest⟩).map fun r => (.str r.1, r.2)
    | '[' :: rest =>
      let c' := Cursor.skip ⟨c.pos + 1, rest⟩
      match c'.rest with
      | ']' :: rest' => .ok (.list [], ⟨c'.pos + 1, rest'⟩)
      | _ => readItems fuel c' []
    | '\x7b' :: rest =>
      let c' := Cursor.skip ⟨c.pos + 1, rest⟩
      match c'.rest with
      | '\x7d' :: rest' => .ok (.object [], ⟨c'.pos + 1, rest'⟩)
      | _ => readFields fuel c' []
    | _ => readAtom c

/-- The items of a list from the cursor to the closing bracket; `done` are those read, last
first. -/
def readItems : Nat → Cursor → List Value → Read Value
  | 0, c, _ => .error ⟨.expectingValue, c.pos⟩
  | fuel + 1, c, done =>
    match readValue fuel c with
    | .error f => .error f
    | .ok (v, c') =>
      let c' := c'.skip
      match c'.rest with
      | ']' :: rest => .ok (.list (v :: done).reverse, ⟨c'.pos + 1, rest⟩)
      | ',' :: rest => readItems fuel (Cursor.skip ⟨c'.pos + 1, rest⟩) (v :: done)
      | _ => .error ⟨.expectingComma, c'.pos⟩

/-- The fields of an object from the cursor to the closing brace. -/
def readFields : Nat → Cursor → Fields → Read Value
  | 0, c, _ => .error ⟨.expectingName, c.pos⟩
  | fuel + 1, c, done =>
    match c.rest with
    | '"' :: rest =>
      match readString ⟨c.pos + 1, rest⟩ with
      | .error f => .error f
      | .ok (name, c1) =>
        let c1 := c1.skip
        match c1.rest with
        | ':' :: rest =>
          match readValue fuel (Cursor.skip ⟨c1.pos + 1, rest⟩) with
          | .error f => .error f
          | .ok (v, c2) =>
            let c2 := c2.skip
            let fields := Fields.set name v done
            match c2.rest with
            | '\x7d' :: rest => .ok (.object fields, ⟨c2.pos + 1, rest⟩)
            | ',' :: rest => readFields fuel (Cursor.skip ⟨c2.pos + 1, rest⟩) fields
            | _ => .error ⟨.expectingComma, c2.pos⟩
        | _ => .error ⟨.expectingColon, c1.pos⟩
    | _ => .error ⟨.expectingName, c.pos⟩

end

/-- The document a text holds. -/
def read (text : String) : Except Fault Value :=
  let cs := text.toList
  match cs with
  | first :: _ => if first.toNat == 0xfeff then .error ⟨.byteOrderMark, 0⟩ else readAll cs
  | [] => readAll cs
where
  /-- One value with blanks around it and nothing else. -/
  readAll (cs : List Char) : Except Fault Value :=
    match readValue (2 * cs.length + 2) (Cursor.skip ⟨0, cs⟩) with
    | .error f => .error f
    | .ok (v, c) =>
      let c := c.skip
      if c.rest.isEmpty then .ok v else .error ⟨.extraData, c.pos⟩

end Sketchflow.Json
