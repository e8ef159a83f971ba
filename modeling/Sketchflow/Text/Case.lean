import Sketchflow.Text.CaseTable

/-!
# Upper and lower case

Full case mapping of the whole character set. Lower-casing a capital sigma looks at its
neighbours: at the end of a word it becomes the final form.
-/

namespace Sketchflow.Text

/-- The first image a list of runs gives a code point, or the code point itself. -/
def mapRuns (runs : Array CaseRun) (n : Nat) : Nat :=
  (runs.findSome? fun r => r.apply? n).getD n

/-- Lower case of one character, its neighbours aside. -/
def lowerChar (c : Char) : List Char :=
  if c.toNat < 0x80 then [c.toLower]
  else if c.toNat == 0x130 then ['i', Char.ofNat 0x307]
  else [Char.ofNat (mapRuns lowerRuns.get c.toNat)]

/-- Whether the nearest character that counts has case. -/
def facesCased : List Char → Bool
  | [] => false
  | c :: rest =>
    if inRanges caseIgnorableRanges.get c.toNat then facesCased rest
    else inRanges casedRanges.get c.toNat

/-- Lower case of `rest`, where `before` is what stands in front of it, nearest first. -/
def lowerFrom (before : List Char) : List Char → List Char
  | [] => []
  | c :: rest =>
    let image :=
      if c == 'Σ' then (if facesCased before && !facesCased rest then ['ς'] else ['σ'])
      else lowerChar c
    image ++ lowerFrom (c :: before) rest

def lower (s : String) : String :=
  String.ofList (lowerFrom [] s.toList)

def upperChar (c : Char) : List Char :=
  if c.toNat < 0x80 then [c.toUpper]
  else match upperExpansions.get.find? fun e => e.1 == c.toNat with
    | some e => e.2.map Char.ofNat
    | none => [Char.ofNat (mapRuns upperRuns.get c.toNat)]

def upper (s : String) : String :=
  String.ofList (s.toList.flatMap upperChar)

end Sketchflow.Text
