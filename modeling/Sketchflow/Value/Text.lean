import Sketchflow.Text.Quoted
import Sketchflow.Value.Basic

/-!
# Values as text

`Value.show` is a value as it stands inside a container or a message: texts in quotes. `display`
is the same with a bare text at the top. `Value.showWith` is for values with tables in them, which
only a running program can write out.

An integer has a text here however many digits it has. That it has not too many (`Value.isLong`) is
checked where programs, answers and files are written, and it is a premise wherever else a text of
an integer is to be read back.
-/

namespace Sketchflow

def Handle.show : Handle → String
  | .builtin name => "<built-in function " ++ name ++ ">"
  | .method (.library _) name => "<built-in function " ++ name ++ ">"
  | .kind name => "<class '" ++ name ++ "'>"
  | .range count => s!"range(0, {count})"
  | .thing "ellipsis" => "Ellipsis"
  | .thing "NotImplementedType" => "NotImplemented"
  | h => "<" ++ h.kindName ++ " object>"

mutual

/-- A value, with texts in quotes and its tables as `table` writes them. -/
def Value.showWith (table : Table → String) : Value → String
  | .null => "None"
  | .bool b => if b then "True" else "False"
  | .int i => toString i
  | .float x => Number.plain.write x
  | .str s => Text.quote s
  | .list items => "[" ++ showItems table items ++ "]"
  | .object fields => "\x7b" ++ showFields table fields ++ "\x7d"
  | .tuple [item] => "(" ++ Value.showWith table item ++ ",)"
  | .tuple items => "(" ++ showItems table items ++ ")"
  | .complex z => z.write
  | .nan _ => Number.plain.notANumber
  | .handle (.table t) => table t
  | .handle h => h.show
termination_by structural v => v

/-- The items of a list with commas between them. -/
def showItems (table : Table → String) : List Value → String
  | [] => ""
  | [v] => Value.showWith table v
  | v :: rest => Value.showWith table v ++ ", " ++ showItems table rest
termination_by structural items => items

/-- The fields of an object with commas between them. -/
def showFields (table : Table → String) : List (String × Value) → String
  | [] => ""
  | [(name, v)] => Text.quote name ++ ": " ++ Value.showWith table v
  | (name, v) :: rest =>
    Text.quote name ++ ": " ++ Value.showWith table v ++ ", " ++ showFields table rest
termination_by structural fields => fields

end

def Value.show (v : Value) : String :=
  v.showWith fun t => (Handle.table t).show

/-- A value, a text without quotes. -/
def Value.display : Value → String
  | .str s => s
  | v => v.show

end Sketchflow
