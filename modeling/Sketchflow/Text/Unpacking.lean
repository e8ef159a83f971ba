/-!
# Packed texts

A long text that repeats itself is kept packed. Its characters are written in bits, and each bit is
foreseen from what came before in the same contexts, so that a bit that was to be expected takes up
little room.

The text is a list of items in words. The first characters of its alphabet separate items, the next
one separates words, and those that follow tell at the beginning of an item how many words it has in
common with the item before.

* `Past` is what has been read of a text, and `Past.settings` are the contexts that this makes.
* `Series` is the same for numbers, which are packed by their digits.
* `Unpacking.bit` reads a bit, and `Unpacking.char` a character.
* `unpack` is the text that rows of digits stand for, and `unpackNumbers` are the numbers.
-/

namespace Sketchflow.Text

/-! ## Contexts -/

/-- Two parts of a context as one. -/
def blend (a b : UInt64) : UInt64 := (a ^^^ (a >>> 29)) * 0x9e3779b97f4a7c15 + b

/-- So many of the last characters, of which each has six bits. -/
def recent (last count : UInt64) : UInt64 := last % (1 <<< (6 * count))

/-- What has been read of a text. -/
structure Past where
  /-- The last characters, six bits each. -/
  last : UInt64 := 0
  /-- The item before. -/
  above : ByteArray := .empty
  /-- What was read of the item. -/
  here : ByteArray := .empty
  /-- The words of the item before. -/
  heard : Array UInt64 := #[]
  /-- The words of the item that were read. -/
  words : Array UInt64 := #[]
  /-- What was read of the next word. -/
  word : UInt64 := 0

namespace Past

/-- The character of the item before at a place, counted from one. -/
def overhead (past : Past) (place : Nat) : UInt64 :=
  if place < past.above.size then (past.above.get! place).toUInt64 + 1 else 0

/-- The contexts: the last characters, what stands in the item before at the same place, and the
word with other words around it. -/
def settings (past : Past) : Array UInt64 :=
  let place := past.here.size
  let read := past.words.size
  let word := past.word
  let paired := blend word (past.heard.getD read 0)
  #[recent past.last 1, recent past.last 2, recent past.last 3, recent past.last 5,
    recent past.last 7,
    (past.overhead place * 64 + past.overhead (place + 1)) * 64 + recent past.last 1,
    past.overhead place * 64 + place.toUInt64,
    word, blend word (past.words.getD 0 0), blend word (past.words.foldl blend 0),
    blend paired (past.words.getD (read - 1) 0), blend paired (past.heard.size - read).toUInt64]

def add (separators : Nat) (past : Past) (sign : UInt64) : Past :=
  let last := past.last * 64 + sign
  let here := past.here.push sign.toUInt8
  let complete := past.words.push past.word
  if sign.toNat < separators then { last, above := past.here, heard := complete }
  else if past.here.isEmpty then
    { past with last, here, words := past.heard.extract 0 (sign.toNat - separators - 1) }
  else if sign.toNat == separators then { past with last, here, words := complete, word := 0 }
  else { past with last, here, word := blend past.word (sign + 1) }

end Past

/-- What has been read of numbers. Of the digits of a number the last one is below sixteen, and
those in front of it are above. -/
structure Series where
  /-- The last digits, six bits each. -/
  last : UInt64 := 0
  /-- The digits that were read of the next number. -/
  digits : UInt64 := 0
  /-- What they come to. -/
  value : Nat := 0
  /-- The digits of the numbers before it, last first. -/
  before : List UInt64 := []
  done : Array Nat := #[]

namespace Series

/-- The contexts: the last digits, and what was read of a number with one of those before it. -/
def settings (s : Series) : Array UInt64 :=
  #[recent s.last 1, recent s.last 2, recent s.last 4, recent s.last 6,
    blend s.digits (s.before.getD 1 0), blend s.digits (s.before.getD 2 0),
    blend s.digits (s.before.getD 3 0)]

def add (s : Series) (digit : UInt64) : Series :=
  let last := s.last * 64 + digit
  let digits := blend s.digits (digit + 1)
  let value := s.value * 16 + digit.toNat % 16
  if digit < 16 then { last, before := digits :: s.before.take 3, done := s.done.push value }
  else { s with last, digits, value }

end Series

/-! ## Histories

A context has two bytes in a table: a mark that tells it from others at its place, and its history,
which is how often a bit was unset in it and how often it was set. Either count goes down when the
other kind of bit comes. -/

namespace History

/-- What a context's place and its mark are taken from. -/
def spread (settings : Array UInt64) (context : Nat) (node : UInt64) : UInt64 :=
  blend (blend (settings.getD context 0) (context.toUInt64 * 64 + node)) 0

/-- The place of a context in the table. -/
def place (spread : UInt64) : Nat := (spread >>> 41).toNat * 2

def mark (spread : UInt64) : UInt8 := (spread >>> 33).toUInt8

def none : ByteArray := Nat.repeat (fun table => table ++ table) 24 ⟨#[0]⟩

def find (table : ByteArray) (spread : UInt64) : UInt8 :=
  let i := place spread
  if table.get! i == mark spread then table.get! (i + 1) else 0

def add (history : UInt8) (bit : Bool) : UInt8 :=
  let no := history / 8
  let yes := history % 8
  if bit then min no (no / 2 + 1) * 8 + min 7 (yes + 1)
  else min 7 (no + 1) * 8 + min yes (yes / 2 + 1)

def keep (table : ByteArray) (spread : UInt64) (history : UInt8) : ByteArray :=
  let i := place spread
  (table.set! i (mark spread)).set! (i + 1) history

end History

/-! ## Weights

Each history in a context weighs for or against a bit: always, and after the bits of a character
that a node stands for. Where the sum was wrong, the weights that made it are shifted. -/

namespace Weights

/-- The place of a weight: of those for a node, or with zero of those for all. -/
def place (node : UInt64) (context : Nat) (history : UInt8) : Nat :=
  (node.toNat * 16 + context) * 64 + history.toNat

def first : Array Int :=
  Array.ofFn fun i : Fin 65536 => ((i % 8 : Nat) - (i / 8 % 8 : Nat) : Int) * 3000

/-- Chances of a bit to be set, in parts of 65536, for sums from -12 to 12 in steps of a half. -/
def chances : Array Nat :=
  Array.ofFn fun i : Fin 49 =>
    let yes := Nat.pow 16487 i * Nat.pow 10000 24
    65536 * yes / (yes + Nat.pow 16487 24 * Nat.pow 10000 i)

/-- The chance of a bit for a sum of weights, which are in parts of 65536 as well. -/
def chance (sum : Int) : Nat :=
  let n := max (3 * 65536) (min (21 * 65536) (sum + 12 * 65536).toNat)
  let rest := n % 32768
  (chances.getD (n / 32768) 0 * (32768 - rest) + chances.getD (n / 32768 + 1) 0 * rest) / 32768

end Weights

/-! ## Reading -/

/-- A packed text that is being read. -/
structure Unpacking where
  table : ByteArray
  weights : Array Int
  /-- How long the range is that the bits so far have come down to. -/
  range : Nat
  /-- Where the text lies in the range. -/
  code : Nat
  bits : List Bool

namespace Unpacking

/-- The length from which on a range is long enough. -/
def enough : Nat := 0x80000000

/-- Double a range until it is long enough, at most so many times, and take the text's place in it
from further bits. -/
def measure : Nat → Unpacking → Unpacking
  | 0, u => u
  | n + 1, ⟨table, weights, range, code, bits⟩ =>
    if enough ≤ range then ⟨table, weights, range, code, bits⟩
    else measure n ⟨table, weights, range * 2, code * 2 + (bits.headD false).toNat, bits.tail⟩

def start (bits : List Bool) : Unpacking := measure 31 ⟨History.none, Weights.first, 1, 0, bits⟩

/-- The weights of the first contexts, added to others. -/
def weigh (settings : Array UInt64) (node : UInt64) (table : ByteArray) (weights : Array Int) :
    Nat → Int → Int
  | 0, sum => sum
  | n + 1, sum =>
    let history := History.find table (History.spread settings n node)
    weigh settings node table weights n (sum + weights.getD (Weights.place 0 n history) 0
      + weights.getD (Weights.place node n history) 0)

/-- Keep a bit in the histories of the first contexts, and shift their weights. -/
def learn (settings : Array UInt64) (node : UInt64) (bit : Bool) (shift : Int) :
    Nat → ByteArray → Array Int → ByteArray × Array Int
  | 0, table, weights => (table, weights)
  | n + 1, table, weights =>
    let spread := History.spread settings n node
    let history := History.find table spread
    learn settings node bit shift n (History.keep table spread (History.add history bit))
      ((weights.modify (Weights.place 0 n history) (· + shift)).modify
        (Weights.place node n history) (· + shift))

/-- Read a bit after those of a character that `node` stands for. -/
def bit (settings : Array UInt64) (node : UInt64) : Unpacking → Bool × Unpacking
  | ⟨table, weights, range, code, bits⟩ =>
    let chance := Weights.chance (weigh settings node table weights settings.size 0)
    let bound := range * chance / 65536
    let bit := code < bound
    let shift := ((if bit then 65536 else 0) - (chance : Int)) / 60
    let (table, weights) := learn settings node bit shift settings.size table weights
    let (range, code) := if bit then (bound, code) else (range - bound, code - bound)
    (bit, measure 31 ⟨table, weights, range, code, bits⟩)

/-- Read the last bits of a character, after those that `node` stands for. -/
def char (settings : Array UInt64) : Nat → UInt64 → Unpacking → UInt64 × Unpacking
  | 0, node, u => (node % 64, u)
  | n + 1, node, u =>
    let (bit, u) := u.bit settings node
    char settings n (node * 2 + bit.toUInt64) u

/-- Read characters. -/
def text (alphabet : Array Char) (separators : Nat) : Nat → Past → Unpacking → String → String
  | 0, _, _, done => done
  | n + 1, past, u, done =>
    let (sign, u) := u.char past.settings 6 1
    let done := done.push (alphabet.getD sign.toNat ' ')
    text alphabet separators n (past.add separators sign) u done

/-- Read digits of numbers. -/
def numbers : Nat → Series → Unpacking → Array Nat
  | 0, s, _ => s.done
  | n + 1, s, u =>
    let (digit, u) := u.char s.settings 6 1
    numbers n (s.add digit) u

def digit (c : Char) : Nat :=
  c.toNat - 0x20 - ['"', '\\', '\x7b', '\x7d'].countP (· < c)

/-- The bits that digits stand for: thirteen for two digits. -/
def bitsOf : List Char → List Bool
  | high :: low :: rest =>
    let n := digit high * 91 + digit low
    ((List.range 13).map fun i => n.testBit (12 - i)) ++ bitsOf rest
  | _ => []

/-- Start to read rows of digits. -/
def ofRows (rows : List String) : Unpacking := start (bitsOf (rows.flatMap String.toList))

end Unpacking

/-- The text of some length that rows of digits stand for. The first characters of its alphabet
separate items. -/
def unpack (alphabet : String) (separators length : Nat) (rows : List String) : String :=
  Unpacking.text alphabet.toList.toArray separators length {} (.ofRows rows) ""

/-- The numbers that rows of digits stand for, with so many digits of their own. -/
def unpackNumbers (length : Nat) (rows : List String) : List Nat :=
  (Unpacking.numbers length {} (.ofRows rows)).toList

end Sketchflow.Text
