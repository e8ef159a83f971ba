import Sketchflow.Json.Reader
import Sketchflow.Text.Utf8

/-!
# Encodings of documents

A document is sent as bytes, in units of one, two or four of them. Documents start with ASCII, so
the zeros among the first four bytes tell the encoding: `guess`. `Encoding.decode?` reads bytes.
-/

namespace Sketchflow

/-- The encodings; those of wider units have their first byte first or last. -/
inductive Encoding where
  | utf8
  | utf16 (bigEndian : Bool)
  | utf32 (bigEndian : Bool)
  deriving Repr, DecidableEq

namespace Encoding

/-- The encoding that the first bytes of a document show. -/
def guess (bytes : List Nat) : Encoding :=
  match bytes with
  | 0 :: b :: _ :: _ :: _ => if b == 0 then .utf32 true else .utf16 true
  | _ :: 0 :: c :: d :: _ => if c == 0 && d == 0 then .utf32 false else .utf16 false
  | [0, _] => .utf16 true
  | [_, 0] => .utf16 false
  | _ => .utf8

/-- Two bytes as a unit. -/
def pair (bigEndian : Bool) (a b : Nat) : Nat :=
  if bigEndian then a * 256 + b else b * 256 + a

/-- Bytes as units of two. -/
def pairs? (bigEndian : Bool) : List Nat → Option (List Nat)
  | [] => some []
  | a :: b :: rest => (pairs? bigEndian rest).map (pair bigEndian a b :: ·)
  | [_] => none

/-- The characters of units of two bytes. -/
def ofPairs : List Nat → List Char
  | [] => []
  | [n] => [Json.unitChar n]
  | n :: m :: rest =>
    if Json.isHighUnit n && Json.isLowUnit m then Json.pairChar n m :: ofPairs rest
    else Json.unitChar n :: ofPairs (m :: rest)
termination_by units => units.length

/-- The characters of units of four bytes, given as units of two. -/
def ofQuads? (bigEndian : Bool) : List Nat → Option (List Char)
  | [] => some []
  | a :: b :: rest =>
    let n := if bigEndian then a * 0x10000 + b else b * 0x10000 + a
    if 0x10ffff < n then none else (ofQuads? bigEndian rest).map (Json.unitChar n :: ·)
  | [_] => none

def decode? (encoding : Encoding) (bytes : List Nat) : Option String :=
  match encoding with
  | .utf8 => (Utf8.decode ⟨(bytes.map UInt8.ofNat).toArray⟩).toOption
  | .utf16 bigEndian => (pairs? bigEndian bytes).map fun units => String.ofList (ofPairs units)
  | .utf32 bigEndian =>
    ((pairs? bigEndian bytes).bind (ofQuads? bigEndian)).map String.ofList

end Encoding

end Sketchflow
