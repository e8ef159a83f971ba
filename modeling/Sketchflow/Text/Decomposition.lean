import Sketchflow.Text.Packing
import Sketchflow.Text.Table

/-!
# Decompositions

Many characters of names are others in disguise, or put together of several: letters with marks,
letters of mathematical alphabets, ligatures. `decomposed` is what such a character is made of.
Syllables of Hangul are put together by rule and are not in the table.
-/

namespace Sketchflow.Text

/-- Characters in a row and the parts of the first. The others have one part each, in step. -/
structure Decomposition where
  first : Nat
  more : Nat
  parts : List Nat

/-- Steps to the parts of a character from those of another. -/
def partsFrom (before steps : List Nat) : List Nat :=
  steps.mapIdx fun i step => stepFrom (before.getD i 0) step

/-- Decompositions from a code point on, after a character with parts. Each starts with how far off
it is and how many parts there are, none for a row, and then has the steps to its parts. -/
def decompositionsFrom (start : Nat) (before : List Nat) : List Nat → List Decomposition
  | [] => []
  | head :: rest =>
    let first := start + head / 5
    let more := if head % 5 == 0 then rest.headD 0 else 0
    let steps := if head % 5 == 0 then rest.tail else rest
    let parts := partsFrom before (steps.take (max 1 (head % 5)))
    ⟨first, more, parts⟩ ::
      decompositionsFrom (first + more + 1) parts (steps.drop (max 1 (head % 5)))
termination_by numbers => numbers.length
decreasing_by
  simp only [List.length_drop, List.length_cons]
  split
  · rw [List.length_tail]
    omega
  · omega

/-- The parts of characters. -/
def decompositions : Thunk (Array Decomposition) := Thunk.mk fun _ =>
  (decompositionsFrom 0 [] Table.decompositions.numbers).toArray

def tableParts? (n : Nat) : Option (List Nat) :=
  (decompositions.get.find? fun d => d.first ≤ n && n ≤ d.first + d.more).map fun d =>
    d.parts.map (· + (n - d.first))

/-- The first code of the Hangul syllables, of their leading consonants, vowels and trailing
consonants. -/
def syllableBase : Nat := 0xac00

/-- The first leading consonant. -/
def leadBase : Nat := 0x1100

def vowelBase : Nat := 0x1161

/-- The code before the first trailing consonant. -/
def trailBase : Nat := 0x11a7

/-- How many leading consonants there are. -/
def leadCount : Nat := 19

def vowelCount : Nat := 21

/-- How many trailing consonants there are, none included. -/
def trailCount : Nat := 28

/-- Whether a code is a Hangul syllable. -/
def isSyllable (n : Nat) : Bool :=
  syllableBase ≤ n && n < syllableBase + leadCount * vowelCount * trailCount

def syllableParts (n : Nat) : List Nat :=
  let index := n - syllableBase
  let lead := leadBase + index / (vowelCount * trailCount)
  let vowel := vowelBase + index % (vowelCount * trailCount) / trailCount
  let trail := index % trailCount
  if trail == 0 then [lead, vowel] else [lead, vowel, trailBase + trail]

/-- The parts of a character, or itself. -/
def decomposed (n : Nat) : List Nat :=
  if n < 0x80 then [n]
  else if isSyllable n then syllableParts n
  else (tableParts? n).getD [n]

end Sketchflow.Text
