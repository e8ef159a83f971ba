import Sketchflow.Text.Quoted

/-!
# Bytes as text

UTF-8 is read strictly: no overlong forms, no surrogates, nothing past the last code point.

* `decode` reads bytes.
* `faultIn` finds the first place where bytes are no UTF-8, and why.
-/

namespace Sketchflow.Utf8

/-- Why bytes are no UTF-8. -/
inductive Reason where
  | badStart
  | badContinuation
  | endOfData
  deriving Repr, DecidableEq

def Reason.message : Reason → String
  | .badStart => "invalid start byte"
  | .badContinuation => "invalid continuation byte"
  | .endOfData => "unexpected end of data"

/-- Bytes that are no UTF-8: where they start, how many they are, and the first of them. -/
structure Fault where
  reason : Reason
  start : Nat
  length : Nat
  first : Nat
  deriving Repr, DecidableEq

def Fault.message (f : Fault) : String :=
  let bytes :=
    if f.length == 1 then
      "byte 0x" ++ String.ofList (Text.hex 2 f.first) ++ s!" in position {f.start}"
    else s!"bytes in position {f.start}-{f.start + f.length - 1}"
  "'utf-8' codec can't decode " ++ bytes ++ ": " ++ f.reason.message

/-- Whether a byte continues a character. -/
def continues (b : Nat) : Bool := 0x80 ≤ b && b ≤ 0xbf

/-- The bytes that can follow the first byte of a character of several bytes. -/
def follows (first second : Nat) : Bool :=
  continues second
    && !(first == 0xe0 && second < 0xa0) && !(first == 0xed && 0xa0 ≤ second)
    && !(first == 0xf0 && second < 0x90) && !(first == 0xf4 && 0x90 ≤ second)

/-- How many bytes the character has that starts with this byte; none start with some bytes. -/
def width? (first : Nat) : Option Nat :=
  if first < 0x80 then some 1
  else if first < 0xc2 then none
  else if first < 0xe0 then some 2
  else if first < 0xf0 then some 3
  else if first < 0xf5 then some 4
  else none

/-- What is wrong with the continuation of a character: how many bytes of it are right, unless all
are. -/
def badTail? (need done : Nat) : List Nat → Option (Reason × Nat)
  | [] => if done < need then some (.endOfData, done) else none
  | b :: rest =>
    if need ≤ done then none
    else if continues b then badTail? need (done + 1) rest
    else some (.badContinuation, done)

/-- What is wrong with the character that starts here. -/
def badCharacter? (first : Nat) (rest : List Nat) : Option (Reason × Nat) :=
  match width? first with
  | none => some (.badStart, 1)
  | some need =>
    match rest with
    | second :: _ =>
      if 1 < need && !follows first second then some (.badContinuation, 1)
      else badTail? need 1 rest
    | [] => badTail? need 1 []

/-- The first fault in bytes of which the first `skip` are known to be right; `start` counts the
bytes before them. -/
def faultFrom? : Nat → Nat → List Nat → Option Fault
  | _, _, [] => none
  | start, skip + 1, _ :: rest => faultFrom? (start + 1) skip rest
  | start, 0, b :: rest =>
    match badCharacter? b rest with
    | some (reason, length) => some ⟨reason, start, length, b⟩
    | none => faultFrom? (start + 1) ((width? b).getD 1 - 1) rest

/-- The code point that the bytes of a character stand for. -/
def codePoint (bytes : List Nat) : Nat :=
  match bytes with
  | [] => 0
  | first :: rest =>
    let width := bytes.length
    let start := if width == 1 then first else first % Nat.pow 2 (7 - width)
    rest.foldl (fun n b => n * 64 + b % 64) start

/-- Read bytes; those that are no UTF-8 are replaced by what `patch` makes of them. The bound is on
the number of characters. -/
def decodeWith (patch : List Nat → String) : Nat → List Nat → String
  | 0, _ => ""
  | _, [] => ""
  | bound + 1, b :: rest =>
    match badCharacter? b rest with
    | some (_, length) =>
      patch ((b :: rest).take length) ++ decodeWith patch bound ((b :: rest).drop length)
    | none =>
      let width := (width? b).getD 1
      String.singleton (Char.ofNat (codePoint ((b :: rest).take width)))
        ++ decodeWith patch bound ((b :: rest).drop width)

def faultIn (bytes : ByteArray) : Fault :=
  (faultFrom? 0 0 (bytes.toList.map UInt8.toNat)).getD ⟨.endOfData, bytes.size, 0, 0⟩

def decode (bytes : ByteArray) : Except Fault String :=
  match String.fromUTF8? bytes with
  | some s => .ok s
  | none => .error (faultIn bytes)

end Sketchflow.Utf8
