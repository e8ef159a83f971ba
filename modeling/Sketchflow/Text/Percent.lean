import Sketchflow.Json.Reader
import Sketchflow.Text.Utf8

/-!
# Percent encoding

In addresses a percent sign and two hexadecimal digits stand for a byte. `decode` reads an
address part; bytes that are no text are replaced by a substitute of the caller's choice.
-/

namespace Sketchflow.Percent

/-- The value of a byte that is a hexadecimal digit. -/
def digit? (b : Nat) : Option Nat :=
  if b < 0x80 then Json.hexValue? (Char.ofNat b) else none

/-- Replace encoded bytes by what they stand for. -/
def bytes : List Nat → List Nat
  | 0x25 :: a :: b :: rest =>
    match digit? a, digit? b with
    | some high, some low => (high * 16 + low) :: bytes rest
    | _, _ => 0x25 :: bytes (a :: b :: rest)
  | b :: rest => b :: bytes rest
  | [] => []
termination_by bs => bs.length

def bytesOf (s : String) : List Nat :=
  s.toUTF8.toList.map UInt8.toNat

/-- Decode a part of an address. -/
def decode (patch : List Nat → String) (s : String) : String :=
  let bs := bytes (bytesOf s)
  Utf8.decodeWith patch bs.length bs

/-- The mark for bytes that are no text. -/
def mark (_ : List Nat) : String := "\ufffd"

/-- Bytes that are no text, encoded again. -/
def again (bs : List Nat) : String :=
  String.ofList (bs.flatMap fun b => '%' :: (Text.hex 2 b).map Char.toUpper)

end Sketchflow.Percent
