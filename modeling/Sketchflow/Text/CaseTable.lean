import Sketchflow.Text.Ranges

/-!
# Case mapping tables

Simple mappings are runs of characters at a fixed stride with a fixed distance to their image; the
few characters that map to several are listed one by one.
-/

namespace Sketchflow.Text

/-- Characters `first`, `first + stride`, …, `last`, mapped in step to `image`, `image + stride`, … -/
structure CaseRun where
  first : Nat
  last : Nat
  stride : Nat
  image : Nat

/-- The image of a code point under a run that holds it. -/
def CaseRun.apply? (r : CaseRun) (n : Nat) : Option Nat :=
  if r.first ≤ n && n ≤ r.last && (n - r.first) % r.stride == 0 then some (r.image + (n - r.first))
  else none

/-- Runs from a code point on: how far off each is, how many steps it has, its stride and the step to
its image. -/
def caseRunsFrom (start : Nat) : List Nat → List CaseRun
  | gap :: steps :: stride :: image :: rest =>
    let first := start + gap
    ⟨first, first + steps * stride, stride, stepFrom first image⟩ :: caseRunsFrom first rest
  | _ => []

/-- Characters from a code point on, each with the two or three that it maps to. -/
def expansionsFrom (start : Nat) : List Nat → List (Nat × List Nat)
  | gap :: 2 :: a :: b :: rest => (start + gap, [a, b]) :: expansionsFrom (start + gap) rest
  | gap :: 3 :: a :: b :: c :: rest => (start + gap, [a, b, c]) :: expansionsFrom (start + gap) rest
  | _ => []

/-- Lower-case images outside ASCII. -/
def lowerRuns : Thunk (Array CaseRun) := Thunk.mk fun _ =>
  (caseRunsFrom 0 Table.lowerRuns.numbers).toArray

/-- Upper-case images outside ASCII. -/
def upperRuns : Thunk (Array CaseRun) := Thunk.mk fun _ =>
  (caseRunsFrom 0 Table.upperRuns.numbers).toArray

/-- Upper-case images of several characters. -/
def upperExpansions : Thunk (Array (Nat × List Nat)) := Thunk.mk fun _ =>
  (expansionsFrom 0 Table.upperExpansions.numbers).toArray

/-- Ranges of characters that are passed over when looking for the neighbours of a sigma. -/
def caseIgnorableRanges : Thunk (Array (Nat × Nat)) := Thunk.mk fun _ =>
  Table.caseIgnorable.ranges

def casedRanges : Thunk (Array (Nat × Nat)) := Thunk.mk fun _ => Table.cased.ranges

end Sketchflow.Text
