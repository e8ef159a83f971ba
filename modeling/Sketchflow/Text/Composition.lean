import Sketchflow.Text.Decomposition

/-!
# Compositions

A letter and a mark can be one character: `composite?`. Marks have classes, `markClass`: marks of
different classes do not touch each other, and their order does not matter. What is no mark has
class zero.
-/

namespace Sketchflow.Text

/-- Ranges of marks from a code point on, each by how far off it is, how far it goes and its
class. -/
def markClassesFrom (start : Nat) : List Nat → List (Nat × Nat × Nat)
  | gap :: extent :: mark :: rest =>
    (start + gap, start + gap + extent, mark) :: markClassesFrom (start + gap + extent + 1) rest
  | _ => []

def markClasses : Thunk (Array (Nat × Nat × Nat)) := Thunk.mk fun _ =>
  (markClassesFrom 0 Table.markClasses.numbers).toArray

def markClass (n : Nat) : Nat :=
  if n < 0x300 then 0
  else ((markClasses.get.find? fun r => r.1 ≤ n && n ≤ r.2.1).map (·.2.2)).getD 0

/-- Characters that make one with another, after the last of them: each by the steps to it, to the
other and to both. -/
def compositionsFrom (first second both : Nat) : List Nat → List (Nat × Nat × Nat)
  | gap :: other :: one :: rest =>
    let first := first + gap
    let second := stepFrom second other
    let both := stepFrom both one
    (first, second, both) :: compositionsFrom first second both rest
  | _ => []

/-- The characters that make one with another, the other and both. -/
def compositions : Thunk (Array (Nat × Nat × Nat)) := Thunk.mk fun _ =>
  (compositionsFrom 0 0 0 Table.compositions.numbers).toArray

/-- What two characters make by the table. -/
def tableComposite? (first second : Nat) : Option Nat :=
  (compositions.get.find? fun e => e.1 == first && e.2.1 == second).map (·.2.2)

/-- What two characters make by the rule of Hangul syllables. -/
def syllable? (first second : Nat) : Option Nat :=
  if leadBase ≤ first && first < leadBase + leadCount
      && vowelBase ≤ second && second < vowelBase + vowelCount then
    some (syllableBase
      + ((first - leadBase) * vowelCount + (second - vowelBase)) * trailCount)
  else if isSyllable first && (first - syllableBase) % trailCount == 0
      && trailBase < second && second < trailBase + trailCount then
    some (first + (second - trailBase))
  else none

/-- The one character that two characters make, if they make one. -/
def composite? (first second : Nat) : Option Nat :=
  syllable? first second <|> tableComposite? first second

end Sketchflow.Text
