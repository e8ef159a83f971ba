/-!
# Blank characters

The characters that trimming removes: the ASCII blanks, the four information separators and the
spaces and line separators of the wider character set.

* `strip`, `stripRight` remove blanks at both ends, or at the right end only.
* `contains` is the plain substring test, `joinWith` the join with a separator.
-/

namespace Sketchflow.Text

/-- White space. -/
def isBlank (c : Char) : Bool :=
  let n := c.toNat
  (0x09 ≤ n && n ≤ 0x0d) || (0x1c ≤ n && n ≤ 0x20) || n == 0x85 || n == 0xa0 || n == 0x1680
    || (0x2000 ≤ n && n ≤ 0x200a) || n == 0x2028 || n == 0x2029 || n == 0x202f || n == 0x205f
    || n == 0x3000

/-- Characters without the blanks on their left. -/
def trimLeft (cs : List Char) : List Char :=
  cs.dropWhile isBlank

/-- Characters without the blanks on their right. -/
def trimRight (cs : List Char) : List Char :=
  (cs.reverse.dropWhile isBlank).reverse

/-- Characters without the blanks at either end. -/
def trim (cs : List Char) : List Char :=
  trimRight (trimLeft cs)

/-- Text without the blanks at either end. -/
def strip (s : String) : String :=
  String.ofList (trim s.toList)

def stripRight (s : String) : String :=
  String.ofList (trimRight s.toList)

/-- Whether a text has no character but blanks. -/
def allBlank (s : String) : Bool :=
  s.toList.all isBlank

def occursIn (part : List Char) : List Char → Bool
  | [] => part.isEmpty
  | c :: rest => part.isPrefixOf (c :: rest) || occursIn part rest

/-- Whether one text occurs inside another. -/
def contains (whole part : String) : Bool :=
  occursIn part.toList whole.toList

/-- Texts joined with a separator between each two. -/
def joinWith (separator : String) : List String → String
  | [] => ""
  | s :: rest => rest.foldl (fun joined t => joined ++ separator ++ t) s

end Sketchflow.Text
