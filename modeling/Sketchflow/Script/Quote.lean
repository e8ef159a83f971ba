import Sketchflow.Json.Reader
import Sketchflow.Script.Token
import Sketchflow.Text.CharName

/-!
# Texts in programs

A text stands in single or double quotes, or in three of them, which may span lines. A backslash
starts an escape; an unknown one stands for itself. After the mark `r` backslashes are plain.
-/

namespace Sketchflow.Script

def apostrophe : Char := Char.ofNat 39

def letterEscape? (c : Char) : Option Char :=
  if c == '\\' || c == apostrophe || c == '"' then some c
  else if c == 'a' then some '\x07'
  else if c == 'b' then some '\x08'
  else if c == 'f' then some '\x0c'
  else if c == 'n' then some '\n'
  else if c == 'r' then some '\r'
  else if c == 't' then some '\t'
  else if c == 'v' then some '\x0b'
  else none

/-- A character by its code; codes that are no characters of their own are replaced. -/
def codeChar? (n : Nat) : Option Char :=
  if 0x10ffff < n then none else some (Json.unitChar n)

/-- Exactly this many hexadecimal digits. -/
def hexCode? (count : Nat) (cs : List Char) : Option Nat :=
  let ds := cs.take count
  if ds.length == count && ds.all fun c => (Json.hexValue? c).isSome then
    some (ds.foldl (fun n c => n * 16 + (Json.hexValue? c).getD 0) 0)
  else none

def octalDigits (cs : List Char) : List Char :=
  (cs.take 3).takeWhile fun c => '0' ≤ c && c ≤ '7'

/-- A character by its name in braces, and how many characters that takes. -/
def namedChar? (cs : List Char) : Option (Char × Nat) :=
  match cs with
  | '\x7b' :: rest =>
    let name := rest.takeWhile (· != '\x7d')
    if name.length < rest.length then
      (Text.charNamed? (String.ofList name)).map fun c => (c, name.length + 2)
    else none
  | _ => none

/-- One escape, its backslash already taken: the characters it stands for and how many characters
it takes. -/
def escape? : List Char → Option (List Char × Nat)
  | [] => none
  | '\n' :: _ => some ([], 1)
  | 'x' :: rest => (hexCode? 2 rest).map fun n => ([Char.ofNat n], 3)
  | 'u' :: rest => (hexCode? 4 rest).bind fun n => (codeChar? n).map fun c => ([c], 5)
  | 'U' :: rest => (hexCode? 8 rest).bind fun n => (codeChar? n).map fun c => ([c], 9)
  | 'N' :: rest => (namedChar? rest).map fun r => ([r.1], r.2 + 1)
  | c :: rest =>
    match letterEscape? c with
    | some e => some ([e], 1)
    | none =>
      let ds := octalDigits (c :: rest)
      if ds.isEmpty then some (['\\', c], 1)
      else some ([Char.ofNat (ds.foldl (fun n d => n * 8 + (d.toNat - '0'.toNat)) 0)], ds.length)

/-- Whether the closing quotes are in front. -/
def closes (quote : Char) (triple : Bool) (cs : List Char) : Bool :=
  if triple then [quote, quote, quote].isPrefixOf cs else cs.head? == some quote

/-- The rest of a text, its opening quotes taken: the text and what follows it. `skip` counts the
characters that belong to what was read already, `done` is what was read, last first. -/
def quoted? (quote : Char) (triple raw : Bool) :
    List Char → Nat → List Char → Option (List Char × List Char)
  | [], _, _ => none
  | _ :: rest, skip + 1, done => quoted? quote triple raw rest skip done
  | c :: rest, 0, done =>
    if closes quote triple (c :: rest) then
      some (done.reverse, if triple then rest.drop 2 else rest)
    else if c == '\n' && !triple then none
    else if c == '\\' then
      if raw then
        match rest with
        | d :: _ => quoted? quote triple raw rest 1 (d :: '\\' :: done)
        | [] => none
      else
        match escape? rest with
        | some (cs, taken) => quoted? quote triple raw rest taken (cs.reverse ++ done)
        | none => none
    else quoted? quote triple raw rest 0 (c :: done)

/-- The text in front, from its opening quote on. -/
def text? (raw : Bool) (cs : List Char) : Option (String × List Char) :=
  match cs with
  | quote :: rest =>
    let triple := [quote, quote].isPrefixOf rest
    let body := if triple then rest.drop 2 else rest
    (quoted? quote triple raw body 0 []).map fun r => (String.ofList r.1, r.2)
  | [] => none

/-- Whether a word in front of a quote marks a plain text, and whether backslashes are plain in
it. -/
def quoteMark? (word : List Char) : Option Bool :=
  match word with
  | [] => some false
  | [c] => if c == 'r' || c == 'R' then some true
    else if c == 'u' || c == 'U' then some false else none
  | _ => none

end Sketchflow.Script
