import Sketchflow.Script.Number
import Sketchflow.Script.Quote

/-!
# From text to tokens

Lines are joined inside brackets and after a backslash. Elsewhere the indentation of a line that
holds tokens is compared with that of the lines around it, and gives indents and dedents.

`tokens?` is the tokens of a text, none if it has none.
-/

namespace Sketchflow.Script

/-- An indentation: its width with tabs up to the next multiple of eight, and with tabs as one
blank. The two have to agree. -/
structure Width where
  wide : Nat
  narrow : Nat
  deriving DecidableEq

/-- What the lexer knows at some place of the text. -/
structure LexState where
  /-- The open brackets, innermost first. -/
  brackets : List Char := []
  /-- The indentations around, innermost first; there is always the empty one outside. -/
  indents : List Width := []
  /-- Whether the line at hand has tokens. -/
  busy : Bool := false
  /-- The tokens so far, last first. -/
  done : List Token := []

/-- How many brackets may be open at once. -/
def bracketBound : Nat := 200

/-- How many indentations may be open at once. -/
def indentBound : Nat := 99

def LexState.width (s : LexState) : Width :=
  s.indents.head?.getD ⟨0, 0⟩

/-- The blanks in front of a line: their width and the rest. -/
def measure (w : Width) : List Char → Width × List Char
  | ' ' :: rest => measure ⟨w.wide + 1, w.narrow + 1⟩ rest
  | '\t' :: rest => measure ⟨(w.wide / 8 + 1) * 8, w.narrow + 1⟩ rest
  | '\x0c' :: rest => measure ⟨0, 0⟩ rest
  | cs => (w, cs)

def closeIndents (w : Width) : List Width → List Token → List Width × List Token
  | [], done => ([], done)
  | i :: rest, done =>
    if w.wide < i.wide then closeIndents w rest (.dedent :: done) else (i :: rest, done)

/-- The indentation of a line that holds tokens. -/
def LexState.indentTo (s : LexState) (w : Width) : Option LexState :=
  let now := s.width
  if w.wide == now.wide then if w.narrow == now.narrow then some s else none
  else if now.wide < w.wide then
    if now.narrow < w.narrow && s.indents.length < indentBound then
      some { s with indents := w :: s.indents, done := .indent :: s.done }
    else none
  else
    let (indents, done) := closeIndents w s.indents s.done
    let s := { s with indents, done }
    if s.width == w then some s else none

def closer? (c : Char) : Option Char :=
  if c == '(' then some ')' else if c == '[' then some ']'
  else if c == '\x7b' then some '\x7d' else none

/-- The open brackets after a token, none if it closes a bracket that is not open. -/
def bracketsAfter (brackets : List Char) : Token → Option (List Char)
  | .op s =>
    match s.toList with
    | [c] =>
      if (closer? c).isSome then some (c :: brackets)
      else if c == ')' || c == ']' || c == '\x7d' then
        match brackets with
        | b :: rest => if closer? b == some c then some rest else none
        | [] => none
      else some brackets
    | _ => some brackets
  | _ => some brackets

/-- Add a token, which may open or close a bracket. -/
def LexState.take (s : LexState) (t : Token) : Option LexState :=
  (bracketsAfter s.brackets t).bind fun brackets =>
    if brackets.length ≤ bracketBound then
      some { s with brackets, done := t :: s.done, busy := true }
    else none

/-- Whether a text starts or ends with this character. -/
def isQuote (c : Char) : Bool :=
  c == '"' || c == apostrophe

/-- A word, or the text that it marks. -/
def wordOrText? (word rest : List Char) : Option (Token × List Char) :=
  if startsWith isQuote rest && (quoteMark? word).isSome then
    (text? ((quoteMark? word).getD false) rest).map fun r => (.text r.1, r.2)
  else (wordToken? word).map fun t => (t, rest)

/-- The name, keyword, number, text or operator in front, and what follows it. -/
def token? : List Char → Option (Token × List Char)
  | [] => none
  | c :: rest =>
    let cs := c :: rest
    if c.isDigit || (c == '.' && startsWith Char.isDigit rest) then
      (number? cs).map fun r => (.number r.1, r.2)
    else if isQuote c then (text? false cs).map fun r => (.text r.1, r.2)
    else if isWordChar c then wordOrText? (cs.takeWhile isWordChar) (cs.dropWhile isWordChar)
    else (operator? cs).map fun op => (.op op, cs.drop op.length)

/-- The end of a line: it counts if the line has tokens and no bracket is open. -/
def LexState.endLine (s : LexState) : LexState :=
  if s.busy then { s with done := .newline :: s.done, busy := false } else s

/-- The tokens at the end of the text. -/
def LexState.finish (s : LexState) : Option (List Token) :=
  if s.brackets.isEmpty then
    let s := s.endLine
    some (s.indents.foldl (fun done _ => .dedent :: done) s.done).reverse
  else none

/-- The tokens of a text; `fresh` tells that a line begins here. The bound is on steps, each of
which takes at least one character. -/
def lexFrom : Nat → Bool → LexState → List Char → Option (List Token)
  | 0, _, _, _ => none
  | bound + 1, true, s, cs =>
    let (w, rest) := measure ⟨0, 0⟩ cs
    match rest with
    | [] => s.finish
    | '\n' :: more => lexFrom bound true s more
    | '#' :: _ => lexFrom bound true s ((rest.dropWhile (· != '\n')).drop 1)
    | _ => (s.indentTo w).bind fun s => lexFrom bound false s rest
  | bound + 1, false, s, cs =>
    match cs with
    | [] => s.finish
    | '\n' :: rest =>
      if s.brackets.isEmpty then lexFrom bound true s.endLine rest
      else lexFrom bound false s rest
    | '#' :: _ => lexFrom bound false s (cs.dropWhile (· != '\n'))
    | '\\' :: '\n' :: rest => if rest.isEmpty then none else lexFrom bound false s rest
    | c :: rest =>
      if c == ' ' || c == '\t' || c == '\x0c' then lexFrom bound false s rest
      else (token? cs).bind fun (t, rest) => (s.take t).bind fun s => lexFrom bound false s rest

/-- Line ends of all systems as line feeds. -/
def plainLines (done : List Char) : List Char → List Char
  | '\r' :: '\n' :: rest => plainLines ('\n' :: done) rest
  | '\r' :: rest => plainLines ('\n' :: done) rest
  | c :: rest => plainLines (c :: done) rest
  | [] => done.reverse

def tokens? (cs : List Char) : Option (List Token) :=
  if cs.contains (Char.ofNat 0) then none
  else
    let cs := plainLines [] cs
    lexFrom (2 * cs.length + 2) true {} cs

end Sketchflow.Script
