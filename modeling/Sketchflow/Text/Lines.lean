import Sketchflow.Text.Blank

/-!
# Lines of a text

A line ends at a line feed, carriage return (the pair of both counts once), vertical tab, form
feed, one of the first three information separators, a next-line character or one of the two
Unicode separators.

* `linesKept` cuts a text after each line end; the pieces concatenate to the text.
* `lines` is the same without the line ends.
-/

namespace Sketchflow.Text

def isLineEnd (c : Char) : Bool :=
  let n := c.toNat
  (0x0a ≤ n && n ≤ 0x0d) || (0x1c ≤ n && n ≤ 0x1e) || n == 0x85 || n == 0x2028 || n == 0x2029

/-- The pieces of a text; `line` and `done` are the characters of the line at hand and the pieces
before it, both last first. -/
def cutLinesFrom (line : List Char) (done : List (List Char)) : List Char → List (List Char)
  | [] => (if line.isEmpty then done else line.reverse :: done).reverse
  | c :: rest =>
    if isLineEnd c && !(c == '\r' && rest.head? == some '\n') then
      cutLinesFrom [] ((c :: line).reverse :: done) rest
    else cutLinesFrom (c :: line) done rest

/-- The pieces of a text, each up to and with its line end. -/
def cutLines (cs : List Char) : List (List Char) :=
  cutLinesFrom [] [] cs

/-- A piece without its line end. -/
def dropLineEnd (line : List Char) : List Char :=
  match line.reverse with
  | '\n' :: '\r' :: rest => rest.reverse
  | c :: rest => if isLineEnd c then rest.reverse else line
  | [] => []

/-- The lines of a text with their line ends. -/
def linesKept (s : String) : List String :=
  (cutLines s.toList).map String.ofList

/-- The lines of a text without their line ends. -/
def lines (s : String) : List String :=
  (cutLines s.toList).map fun l => String.ofList (dropLineEnd l)

/-- A carriage return, alone or before a line feed, becomes a line feed. `acc` is what comes before,
last first. -/
def unifyLineEndsFrom (acc : List Char) : List Char → List Char
  | [] => acc.reverse
  | '\r' :: '\n' :: rest => unifyLineEndsFrom ('\n' :: acc) rest
  | c :: rest => unifyLineEndsFrom ((if c == '\r' then '\n' else c) :: acc) rest

/-- A text with one kind of line end, the line feed. -/
def unifyLineEnds (s : String) : String :=
  String.ofList (unifyLineEndsFrom [] s.toList)

/-- Each line that is not blank gets `margin` put in front of it; a blank line is left alone. -/
def indentLines (margin cs : List Char) : List Char :=
  (cutLines cs).flatMap fun l => if l.all isBlank then l else margin ++ l

end Sketchflow.Text
