import Sketchflow.Text.Ranges

/-!
# Printable characters

A character is printable unless it is a control or format character, a surrogate, a private-use or
unassigned code point, or a separator other than the plain space. Quoted text writes every other
character by its code.
-/

namespace Sketchflow.Text

/-- Ranges of unprintable code points outside ASCII. -/
def unprintableRanges : Thunk (Array (Nat × Nat)) := Thunk.mk fun _ =>
  Table.unprintable.ranges

/-- Whether a character stands for itself in quoted text. -/
def isPrintable (c : Char) : Bool :=
  if c.toNat < 0x80 then 0x20 ≤ c.toNat && c.toNat < 0x7f
  else !inRanges unprintableRanges.get c.toNat

end Sketchflow.Text
