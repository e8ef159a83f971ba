import Sketchflow.Text.Ranges

/-!
# Word characters

Letters and numbers of every script, and the underscore.
-/

namespace Sketchflow.Text

/-- Ranges of letters and numbers outside ASCII. -/
def wordRanges : Thunk (Array (Nat × Nat)) := Thunk.mk fun _ => Table.word.ranges

/-- Letter, number or underscore. -/
def isWord (c : Char) : Bool :=
  if c.toNat < 0x80 then c.isAlphanum || c == '_' else inRanges wordRanges.get c.toNat

end Sketchflow.Text
