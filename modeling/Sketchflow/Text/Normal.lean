import Sketchflow.Text.Composition

/-!
# Normal forms of names

Two names are one if they look alike and mean the same: `normal` is the one form that they have in
common. Every character is taken apart, marks are put in the order of their classes, and what can
be put together again is.
-/

namespace Sketchflow.Text

/-- Put a character after others, last first. A mark goes in front of the marks of higher classes
that it would follow. -/
def insertMark (n : Nat) : List Nat → List Nat
  | [] => [n]
  | m :: rest =>
    if markClass n != 0 && markClass n < markClass m then m :: insertMark n rest
    else n :: m :: rest

def orderMarks (codes : List Nat) : List Nat :=
  (codes.foldl (fun done n => insertMark n done) []).reverse

/-- Characters put together: `first` with what follows it. `held` are the marks in between that
could not be put together with it, last first, and `last` is the class of the last of them. -/
def composeFrom (first last : Nat) (held : List Nat) : List Nat → List Nat
  | [] => first :: held.reverse
  | n :: rest =>
    let both := if held.isEmpty || last < markClass n then composite? first n else none
    match both with
    | some c => composeFrom c last held rest
    | none =>
      if markClass n == 0 then first :: held.reverse ++ composeFrom n 0 [] rest
      else composeFrom first (markClass n) (n :: held) rest

/-- Characters put together. -/
def compose : List Nat → List Nat
  | [] => []
  | n :: rest => composeFrom n 0 [] rest

/-- The normal form of a name. -/
def normal (s : String) : String :=
  if s.toList.all fun c => c.toNat < 0x80 then s
  else
    let parts := s.toList.flatMap fun c => decomposed c.toNat
    String.ofList ((compose (orderMarks parts)).map Char.ofNat)

end Sketchflow.Text
