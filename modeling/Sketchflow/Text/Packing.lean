/-!
# Packed numbers

A long table of numbers is kept packed: as the steps from one number to the next, written in digits
of which one half ends a number and the other half goes on with it.

* `numbersIn` are the numbers that rows of digits stand for.
-/

namespace Sketchflow.Text

namespace Packing

def digit (c : Char) : Nat :=
  if c < '\\' then c.toNat - '('.toNat else c.toNat - '('.toNat - 1

/-- How many digits end a number, and how many go on with it. -/
def half : Nat := 41

/-- Read a digit after some numbers and what was read of one more. -/
def readDigit (st : Nat × Array Nat) (c : Char) : Nat × Array Nat :=
  let d := digit c
  if d < half then (0, st.2.push (st.1 * half + d)) else (st.1 * half + (d - half), st.2)

end Packing

/-- The numbers that rows of digits stand for. -/
def numbersIn (rows : List String) : List Nat :=
  (rows.foldl (fun st row => row.foldl Packing.readDigit st) (0, #[])).2.toList

/-- A number after a step: an even step goes up, an odd one down. -/
def stepFrom (n step : Nat) : Nat :=
  if step % 2 == 0 then n + step / 2 else n - (step + 1) / 2

end Sketchflow.Text
