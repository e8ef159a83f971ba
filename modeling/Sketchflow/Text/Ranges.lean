import Sketchflow.Text.Packing
import Sketchflow.Text.Table

/-!
# Character classes as ranges

A class of characters is given by the code point ranges it covers, ends included.
-/

namespace Sketchflow.Text

/-- Whether a code point lies in one of the ranges. -/
def inRanges (table : Array (Nat × Nat)) (n : Nat) : Bool :=
  table.any fun r => r.1 ≤ n && n ≤ r.2

/-- Ranges from a code point on, each by how far off it is and how far it goes. -/
def rangesFrom (start : Nat) : List Nat → List (Nat × Nat)
  | gap :: extent :: rest =>
    (start + gap, start + gap + extent) :: rangesFrom (start + gap + extent + 1) rest
  | _ => []

def Table.ranges (t : Table) : Array (Nat × Nat) :=
  (rangesFrom 0 t.numbers).toArray

/-- Ranges that are kept packed. -/
def rangesOf (rows : List String) : Array (Nat × Nat) :=
  (rangesFrom 0 (numbersIn rows)).toArray

end Sketchflow.Text
