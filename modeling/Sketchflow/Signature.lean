import Sketchflow.Fault

/-!
# Signatures

The parameters of an operation that belongs to an object. `Signature.check` refuses a call with
too many or too few arguments; the object itself counts as one of them.
-/

namespace Sketchflow

/-- The name and the parameters of an operation. -/
structure Signature where
  /-- The object's kind. -/
  owner : String
  name : String
  parameters : List String := []
  /-- How many of the last parameters may be left out. -/
  optional : Nat := 0

namespace Signature

/-- How many arguments are needed. -/
def least (s : Signature) : Nat :=
  s.parameters.length - s.optional

/-- The name as messages spell it. -/
def callee (s : Signature) : String :=
  s.owner ++ "." ++ s.name

/-- Refuse a wrong number of arguments. -/
def check (s : Signature) (given : Nat) : Except Fault Unit :=
  if s.parameters.length < given then
    .error (.tooManyArguments s.callee (s.least + 1) (s.parameters.length + 1) (given + 1))
  else if given < s.least then
    .error (.missingArguments s.callee ((s.parameters.take s.least).drop given))
  else .ok ()

def find? (table : List Signature) (name : String) : Option Signature :=
  table.find? fun s => s.name == name

end Signature

end Sketchflow
