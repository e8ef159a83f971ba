import Sketchflow.Text.Quoted
import Sketchflow.Value.Basic

/-!
# Writing JSON

* `writeString` is a text in double quotes, either with all characters outside ASCII escaped or
  with the least escaping the grammar asks for (`literal`).
* `writeIndented` is a whole document, one field or item a line, two blanks a level.
-/

namespace Sketchflow.Json

/-- Doubles as documents write them. -/
def number : Number.Style :=
  { Number.plain with notANumber := "NaN", infinity := "Infinity" }

def unitEscape (n : Nat) : List Char :=
  '\\' :: 'u' :: Text.hex 4 n

/-- The escapes every string needs. -/
def commonEscape? (c : Char) : Option (List Char) :=
  if c == '"' then some ['\\', '"']
  else if c == '\\' then some ['\\', '\\']
  else if c == '\n' then some ['\\', 'n']
  else if c == '\r' then some ['\\', 'r']
  else if c == '\t' then some ['\\', 't']
  else if c == '\x0c' then some ['\\', 'f']
  else if c == '\x08' then some ['\\', 'b']
  else if c.toNat < 0x20 then some (unitEscape c.toNat)
  else none

/-- The characters for which a letter stands, and their letters. -/
def letters : List (Char × Char) :=
  [('"', '"'), ('\\', '\\'), ('\n', 'n'), ('\r', 'r'), ('\t', 't'), ('\x0c', 'f'), ('\x08', 'b')]

theorem commonEscape?_cases (c : Char) :
    (commonEscape? c = none ∧ 0x20 ≤ c.toNat ∧ c ∉ letters.map Prod.fst) ∨
    (∃ k, commonEscape? c = some ['\\', k] ∧ (c, k) ∈ letters) ∨
    (commonEscape? c = some (unitEscape c.toNat) ∧ c.toNat < 0x20) := by
  by_cases h : c ∈ letters.map Prod.fst
  · simp only [letters, List.map, List.mem_cons, List.not_mem_nil, or_false] at h
    rcases h with rfl | rfl | rfl | rfl | rfl | rfl | rfl <;> exact .inr (.inl ⟨_, rfl, by decide⟩)
  · by_cases hlow : c.toNat < 0x20
    · exact .inr (.inr ⟨by simp_all [commonEscape?, letters], hlow⟩)
    · exact .inl ⟨by simp_all [commonEscape?, letters], Nat.le_of_not_lt hlow, h⟩

/-- A character outside printable ASCII as one or two code unit escapes. -/
def escapeWide (c : Char) : List Char :=
  let n := c.toNat
  if n < 0x10000 then unitEscape n
  else
    let m := n - 0x10000
    unitEscape (0xd800 + m / 0x400) ++ unitEscape (0xdc00 + m % 0x400)

/-- A character between quotes; `ascii` asks for escapes outside printable ASCII. -/
def stringChar (ascii : Bool) (c : Char) : List Char :=
  match commonEscape? c with
  | some e => e
  | none => if ascii && 0x7f ≤ c.toNat then escapeWide c else [c]

def writeString (ascii : Bool) (s : String) : String :=
  String.ofList ('"' :: s.toList.flatMap (stringChar ascii) ++ ['"'])

/-- A text in double quotes with only the necessary escapes. -/
def literal (s : String) : String :=
  writeString false s

def fieldName? (key : Value) : Option String :=
  match key with
  | .str s => some s
  | .int i => some (toString i)
  | .float x => some (number.write x)
  | .nan _ => some number.notANumber
  | .bool b => some (if b then "true" else "false")
  | .null => some "null"
  | _ => none

def newLine (level : Nat) : String :=
  "\n" ++ String.ofList (List.replicate (2 * level) ' ')

mutual

/-- A value whose first line is already indented to `level`. What is no document is null here, and
is not written at all: `Value.isWritten` is asked before. -/
def writeValue (level : Nat) : Value → String
  | .null => "null"
  | .bool b => if b then "true" else "false"
  | .int i => toString i
  | .float x => number.write x
  | .str s => writeString true s
  | .list [] => "[]"
  | .list items => "[" ++ writeItems (level + 1) items ++ newLine level ++ "]"
  | .tuple [] => "[]"
  | .tuple items => "[" ++ writeItems (level + 1) items ++ newLine level ++ "]"
  | .object [] => "\x7b\x7d"
  | .object fields => "\x7b" ++ writeFields (level + 1) fields ++ newLine level ++ "\x7d"
  | .complex _ => "null"
  | .nan _ => number.notANumber
  | .handle _ => "null"
termination_by structural v => v

def writeItems (level : Nat) : List Value → String
  | [] => ""
  | [v] => newLine level ++ writeValue level v
  | v :: rest => newLine level ++ writeValue level v ++ "," ++ writeItems level rest
termination_by structural items => items

def writeFields (level : Nat) : List (String × Value) → String
  | [] => ""
  | [(name, v)] => newLine level ++ writeString true name ++ ": " ++ writeValue level v
  | (name, v) :: rest =>
    newLine level ++ writeString true name ++ ": " ++ writeValue level v ++ ","
      ++ writeFields level rest
termination_by structural fields => fields

end

def writeIndented (v : Value) : String :=
  writeValue 0 v

end Sketchflow.Json
