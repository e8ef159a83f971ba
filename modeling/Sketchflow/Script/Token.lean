import Sketchflow.Text.Identifier
import Sketchflow.Text.Normal
import Sketchflow.Value.Basic

/-!
# Tokens

The tokens of a program: names, keywords, literals, operators, and the ends and indentation of
lines.
-/

namespace Sketchflow.Script

inductive Token where
  | name (s : String)
  | keyword (s : String)
  | number (v : Value)
  /-- A text; neighbouring texts are joined by the grammar. -/
  | text (s : String)
  | op (s : String)
  /-- The end of a line that holds tokens. -/
  | newline
  | indent
  | dedent
  deriving Inhabited

/-- The words that are no names. -/
def keywords : List String :=
  ["False", "None", "True", "and", "as", "assert", "async", "await", "break", "class", "continue",
    "def", "del", "elif", "else", "except", "finally", "for", "from", "global", "if", "import",
    "in", "is", "lambda", "nonlocal", "not", "or", "pass", "raise", "return", "try", "while",
    "with", "yield"]

/-- Whether a word can go on with this character, before the word is checked. -/
def isWordChar (c : Char) : Bool :=
  c.isAlphanum || c == '_' || 0x80 ≤ c.toNat

/-- Whether a word is a name or a keyword. -/
def isName : List Char → Bool
  | [] => false
  | c :: rest => Text.isNameStart c && rest.all Text.isNameContinue

/-- The token of a word, if it is one. A name stands for its normal form; a word that is a keyword
in its normal form only is a name. -/
def wordToken? (word : List Char) : Option Token :=
  let s := String.ofList word
  if keywords.contains s then some (.keyword s)
  else if isName word then some (.name (Text.normal s))
  else none

/-- The operators of three, two and one character. -/
def operators : List (List String) :=
  [["**=", "//=", ">>=", "<<=", "..."],
    ["**", "//", ">>", "<<", "<=", ">=", "==", "!=", "->", "+=", "-=", "*=", "/=", "%=", "&=",
      "|=", "^=", "@=", ":="],
    ["(", ")", "[", "]", "\x7b", "\x7d", ":", ",", ";", ".", "+", "-", "*", "/", "%", "&", "|",
      "^", "~", "<", ">", "=", "@"]]

/-- The operator in front, the longest there is. -/
def operator? (cs : List Char) : Option String :=
  operators.findSome? fun group => group.find? fun s => s.toList.isPrefixOf cs

end Sketchflow.Script
