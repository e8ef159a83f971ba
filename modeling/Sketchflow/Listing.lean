import Sketchflow.Text.Lines

/-!
# Listings

A listing is a growing list of lines at a tracked indentation.

* `line`, `comment`, `blank` append; `enter` and `leave` open and close an indented block, and
  a block without a statement gets a `pass`.
* `child` is an empty listing at a nearby indentation, `extend` appends its lines.
* `render` is the text of the listing without the empty lines at its end.
* `Step` is a listing told as a tree of such calls, some of which may fail; `Step.run` performs it.
-/

namespace Sketchflow

/-- Lines at an indentation. -/
structure Listing where
  level : Int := 0
  /-- Blanks a level. -/
  size : Int := 4
  lines : Array String := #[]
  deriving Inhabited

namespace Listing

/-- The blanks in front of a line. A negative indentation has none. -/
def margin (l : Listing) : String :=
  String.ofList (List.replicate (l.level * l.size).toNat ' ')

/-- Append a line. An empty one is not indented. -/
def line (l : Listing) (text : String) : Listing :=
  { l with lines := l.lines.push (if text == "" then "" else l.margin ++ text) }

def allLines (l : Listing) (texts : List String) : Listing :=
  texts.foldl (fun l text => l.line text) l

/-- The lines of a comment, before they are indented. -/
def commentLines (text : String) : List String :=
  let parts := Text.lines text
  (if parts.isEmpty then [""] else parts).map fun part => Text.stripRight ("# " ++ part)

/-- Append a comment, one line for each line of its text. -/
def comment (l : Listing) (text : String) : Listing :=
  l.allLines (commentLines text)

/-- Append an empty line, unless one is there or the listing is empty. -/
def blank (l : Listing) : Listing :=
  match l.lines.back? with
  | none => l
  | some last => if last == "" then l else { l with lines := l.lines.push "" }

/-- Whether a line is a statement: not blank and no comment. -/
def isStatement (text : String) : Bool :=
  match Text.trimLeft text.toList with
  | [] => false
  | c :: _ => c != '#'

/-- Whether a statement stands among the lines from `start` on. -/
def hasStatementsFrom (l : Listing) (start : Nat) : Bool :=
  (l.lines.toList.drop start).any isStatement

def hasStatements (l : Listing) : Bool :=
  l.hasStatementsFrom 0

def isEmpty (l : Listing) : Bool :=
  l.lines.toList.all Text.allBlank

def enter (l : Listing) (header : String) : Listing :=
  let l := l.line header
  { l with level := l.level + 1 }

/-- Close the block whose first line is number `start`. -/
def leave (l : Listing) (start : Nat) : Listing :=
  let l := if l.hasStatementsFrom start then l else l.line "pass"
  { l with level := l.level - 1 }

/-- A block under a header, written by `body`. -/
def block (l : Listing) (header : String) (body : Listing → Listing) : Listing :=
  let opened := l.enter header
  (body opened).leave opened.lines.size

/-- An empty listing, indented `extra` levels further. -/
def child (l : Listing) (extra : Int) : Listing :=
  { level := l.level + extra, size := l.size, lines := #[] }

def extend (l other : Listing) : Listing :=
  { l with lines := l.lines ++ other.lines }

def dropEmptyEnd (lines : List String) : List String :=
  (lines.reverse.dropWhile (· == "")).reverse

/-- The text of the listing, each line ended. -/
def render (l : Listing) : String :=
  String.join ((dropEmptyEnd l.lines.toList).map (· ++ "\n"))

/-! ## Listings told as trees -/

inductive Step where
  | line (text : String)
  | comment (text : String)
  | blank
  | block (header : String) (steps : List Step)
  /-- A listing on the side, `extra` levels further in, appended at the end if asked. -/
  | child (extra : Int) (extend : Bool) (steps : List Step)
  /-- Give up: every block that is open is left as it stands. -/
  | fail
  deriving Inhabited

/-- How a call ended. -/
inductive Outcome where
  | done
  /-- With a listing on the side. -/
  | side (l : Listing)
  | failed

mutual

/-- Perform a call. A block that is left by a failure is closed without a `pass`. -/
def Step.run : Step → Listing → Listing × Outcome
  | .line text, l => (l.line text, .done)
  | .comment text, l => (l.comment text, .done)
  | .blank, l => (l.blank, .done)
  | .block header steps, l =>
    let opened := l.enter header
    match runAll steps opened with
    | (inner, true) => (inner.leave opened.lines.size, .done)
    | (inner, false) => ({ inner with level := inner.level - 1 }, .failed)
  | .child extra extend steps, l =>
    match runAll steps (l.child extra) with
    | (side, true) => (if extend then l.extend side else l, .side side)
    | (_, false) => (l, .failed)
  | .fail, l => (l, .failed)
termination_by structural s => s

/-- Perform calls until one fails; the flag tells whether all were performed. -/
def runAll : List Step → Listing → Listing × Bool
  | [], l => (l, true)
  | s :: rest, l =>
    match Step.run s l with
    | (l, .failed) => (l, false)
    | (l, _) => runAll rest l
termination_by structural steps => steps

end

end Listing

end Sketchflow
