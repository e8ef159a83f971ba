import Sketchflow.Json.Reader
import Sketchflow.Json.Writer
import Sketchflow.Port
import Sketchflow.Text.Case
import Sketchflow.Text.Word
import Sketchflow.Value.Operators

/-!
# Values as program text

An input that no wire enters stands in the program as its default. A default is data unless its
text looks like code and the input takes a number or a truth value, or the input takes code.

* `literal` is the text of a value; `unquote` recovers a text from its literal.
* `looksLikeCode` is the test for code, `parseNumber?` reads the numbers among the texts.
* `defaultText` is the text of a default at an input of some type.
-/

namespace Sketchflow.Compile

/-! ## Texts that are code -/

/-- Fragments that only code has. -/
def codeMarks : List String :=
  ["variables.", "variables[", "math.", "random.", "ctx.", "runtime."]

/-- Characters that only operators have. -/
def isOperatorChar (c : Char) : Bool :=
  "+-*/%&|<>=!".toList.contains c

/-- Whether a name can start with this character in a call. -/
def isCallStart (c : Char) : Bool :=
  c.isAlpha || c == '_'

/-- Whether the text, past the name of a call, goes on with arguments that close on the same
line. -/
def hasArguments (cs : List Char) : Bool :=
  match cs.dropWhile Text.isBlank with
  | '(' :: rest => (rest.takeWhile (· != '\n')).contains ')'
  | _ => false

def hasCall : List Char → Bool
  | [] => false
  | c :: rest => (isCallStart c && hasArguments (rest.dropWhile Text.isWord)) || hasCall rest

/-- Whether a text should be taken for code. One operator character suffices, so a date such as
`1-2-2024` is a subtraction. -/
def looksLikeCode (s : String) : Bool :=
  codeMarks.any (Text.contains s) || hasCall s.toList || s.toList.any isOperatorChar

/-! ## Literals -/

/-- The finite number a text stands for, blanks around it aside, an integer if it can be one. -/
def parseNumber? (text : String) : Option Value :=
  let s := Text.strip text
  match Number.readInt s with
  | .ok i => some (.int i)
  | .error _ =>
    match Number.readFloat? s with
    | some x => if x.isFinite then some (.float x) else none
    | none => none

/-- The text of a value in a program. Containers become the text that displays them, and integers
may have any length. -/
def literal : Value → String
  | .null => "None"
  | .bool b => if b then "True" else "False"
  | .int i => toString i
  | .float x =>
    let text := Number.plain.write x
    if x.isFinite then text else "float(" ++ Json.literal text ++ ")"
  | .str s => Json.literal s
  | v => Json.literal v.show

/-- The text behind a literal in double quotes; any other text is left alone. -/
def unquote (s : String) : String :=
  let cs := s.toList
  if 2 ≤ cs.length && cs.head? == some '"' && cs.getLast? == some '"' then
    match Json.read s with
    | .ok (.str t) => t
    | _ => s
  else s

/-! ## Values in place of texts -/

/-- Whether a value should be taken for code. Only texts have an answer, and what holds one of the
fragments of code. -/
def looksLikeCodeBy : Value → Except Fault Bool
  | .str s => .ok (looksLikeCode s)
  | v => do
    if ← codeMarks.anyM fun mark => Value.isIn (.str mark) v then .ok true
    else .error (.notText v.kindName)

/-- The number that a value stands for as a text, or null. -/
def parseNumberBy : Value → Except Fault Value
  | .str s => .ok ((parseNumber? s).getD .null)
  | v => .error (.noAttribute v.kindName "strip")

/-- The value behind a literal; what has less than two parts is left alone. -/
def unquoteBy : Value → Except Fault Value
  | .str s => .ok (.str (unquote s))
  | v => do
    let count ← v.count
    if 2 ≤ count then .error (.noAttribute v.kindName "startswith") else .ok v

/-! ## Defaults -/

/-- A type that cannot be looked up: documents may give a list or an object as a type. -/
structure BadType where
  kind : String

def absentText : DataType → Except BadType String
  | .number => .ok "0"
  | .text => .ok "\"\""
  | .color => .ok "\"\""
  | .boolean => .ok "False"
  | .other (.list items) => .error ⟨(Value.list items).kindName⟩
  | .other (.object fields) => .error ⟨(Value.object fields).kindName⟩
  | _ => .ok "None"

/-- The text of a default that is a text, at an input for numbers. -/
def numberText (s : String) : String :=
  if looksLikeCode s then s
  else match parseNumber? s with
    | some v => literal v
    | none => literal (.str s)

/-- The text of a default that is a text, at an input for truth values. -/
def booleanText (s : String) : String :=
  if looksLikeCode s then s
  else
    let word := Text.lower (Text.strip s)
    if word == "true" then "True"
    else if word == "false" then "False"
    else literal (.str s)

/-- The text of a default at an input of the given type. -/
def defaultText (value : Value) (type : DataType) : Except BadType String :=
  match type, value with
  | .expression, .str s => .ok (if Text.allBlank s then "None" else s)
  | .expression, v => .ok (literal v)
  | type, .null => absentText type
  | .number, .str s => .ok (numberText s)
  | .boolean, .str s => .ok (booleanText s)
  | _, v => .ok (literal v)

end Sketchflow.Compile
