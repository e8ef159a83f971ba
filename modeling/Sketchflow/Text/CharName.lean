import Sketchflow.Text.CharName.First
import Sketchflow.Text.CharName.Second
import Sketchflow.Text.Composition
import Sketchflow.Text.Ranges

/-!
# Characters by their names

Every character has a name in capitals, and some have further ones. `charNamed?` is the character
of a name. Names of Hangul syllables are spelled by rule, and those of unified ideographs have the
code in them; all others are in a table, and may be given in small letters too.

A row of the table has the code of its first character and the names of characters in a row, each
with how many words it shares with the name before it and the words that follow. A number sign
stands for the code of the character. The further names follow after all others.
-/

namespace Sketchflow.Text

namespace CharName

/-! ## Names in the table -/

/-- The value of a hexadecimal digit. -/
def hexDigit (c : Char) : Nat :=
  if c.isDigit then c.toNat - 0x30 else c.toNat - 0x61 + 10

/-- The number that hexadecimal digits stand for. -/
def ofHex (s : String) : Nat :=
  s.foldl (fun n c => n * 16 + hexDigit c) 0

/-- Whether a word of the table is the word of a name. -/
def sameWord (code : Nat) (word given : String) : Bool :=
  if word.endsWith "#" then
    String.ofList (word.toList.dropLast ++ (Nat.toDigits 16 code).map Char.toUpper) == given
  else word == given

/-- Whether the words of the table are those of a name. -/
def sameWords (code : Nat) : List String → List String → Bool
  | [], [] => true
  | word :: rest, given :: more => sameWord code word given && sameWords code rest more
  | _, _ => false

/-- The value of the digit or letter that counts shared words. -/
def sharedCount (c : Char) : Nat :=
  if c.isDigit then c.toNat - 0x30 else c.toNat - 0x61 + 10

/-- The words of a name in the table, after the words of the name before it. -/
def itemWords (before : List String) (item : String) : List String :=
  match item.toList with
  | [] => before
  | c :: rest =>
    let shared := before.take (sharedCount c)
    if rest.isEmpty then shared else shared ++ (String.ofList rest).splitOn " "

/-- Look for a name among items. The result is the code of the character, or the words of the last
item. -/
def findItem (given : List String) : Nat → List String → List String → Nat ⊕ List String
  | _, before, [] => .inr before
  | code, before, item :: rest =>
    let words := itemWords before item
    if sameWords code words given then .inl code else findItem given (code + 1) words rest

/-- Look for a name among rows, after a name with the given words. -/
def findRow (given : List String) : List String → List String → Option Nat
  | _, [] => none
  | before, row :: rest =>
    match row.splitOn ":" with
    | [code, items] =>
      match findItem given (ofHex code) before (items.splitOn ";") with
      | .inl found => some found
      | .inr words => findRow given words rest
    | _ => findRow given before rest

def rows : Thunk (List String) := Thunk.mk fun _ =>
  (unpack ";:| 0123456789abcdef#-ABCDEFGHIJKLMNOPQRSTUVWXYZ" 3 392953
    (firstHalf ++ secondHalf)).splitOn "|"

/-- The code of the character that the table has under a name in capitals. -/
def inTable? (name : String) : Option Nat :=
  findRow (name.splitOn " ") [] rows.get

/-! ## Names by rule -/

def ideographRanges : Array (Nat × Nat) := #[
    (0x3400, 0x4dbf), (0x4e00, 0x9fff), (0x20000, 0x2a6df), (0x2a700, 0x2b738),
    (0x2b740, 0x2b81d), (0x2b820, 0x2cea1), (0x2ceb0, 0x2ebe0), (0x30000, 0x3134a)]

/-- The spellings of leading consonants. -/
def leads : List String :=
  ["G", "GG", "N", "D", "DD", "R", "M", "B", "BB", "S", "SS", "", "J", "JJ", "C", "K", "T", "P",
    "H"]

def vowels : List String :=
  ["A", "AE", "YA", "YAE", "EO", "E", "YEO", "YE", "O", "WA", "WAE", "OE", "YO", "U", "WEO", "WE",
    "WI", "YU", "EU", "YI", "I"]

/-- The spellings of trailing consonants, none first. -/
def trails : List String :=
  ["", "G", "GG", "GS", "N", "NJ", "NH", "D", "L", "LG", "LM", "LB", "LS", "LT", "LP", "LH", "M",
    "B", "BS", "S", "SS", "NG", "J", "C", "K", "T", "P", "H"]

/-- The longest spelling in front of a text: its place among the spellings, and the rest of the
text. -/
def takeSpelling? (spellings : List String) (cs : List Char) : Option (Nat × List Char) :=
  let fitting := spellings.zipIdx.filter fun s => s.1.toList.isPrefixOf cs
  match fitting with
  | [] => none
  | first :: rest =>
    let best := rest.foldl (fun b s => if b.1.length < s.1.length then s else b) first
    some (best.2, cs.drop best.1.length)

def syllableSpelled? (cs : List Char) : Option Nat := do
  let (lead, cs) ← takeSpelling? leads cs
  let (vowel, cs) ← takeSpelling? vowels cs
  let (trail, cs) ← takeSpelling? trails cs
  if cs.isEmpty then some (syllableBase + (lead * vowelCount + vowel) * trailCount + trail)
  else none

/-- The code of the unified ideograph with these digits. -/
def ideograph? (cs : List Char) : Option Nat :=
  let isCode := (cs.length == 4 || cs.length == 5)
    && cs.all fun c => c.isDigit || ('A' ≤ c && c ≤ 'F')
  let code := ofHex (String.ofList (cs.map Char.toLower))
  if isCode && inRanges ideographRanges code then some code else none

def after? (beginning : String) (cs : List Char) : Option (List Char) :=
  if beginning.toList.isPrefixOf cs then some (cs.drop beginning.length) else none

end CharName

def charNamed? (name : String) : Option Char :=
  let cs := name.toList
  let code :=
    match CharName.after? "HANGUL SYLLABLE " cs, CharName.after? "CJK UNIFIED IDEOGRAPH-" cs with
    | some spelling, _ => CharName.syllableSpelled? spelling
    | none, some digits => CharName.ideograph? digits
    | none, none => CharName.inTable? (String.ofList (cs.map Char.toUpper))
  code.map Char.ofNat

end Sketchflow.Text
