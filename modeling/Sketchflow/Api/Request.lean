import Sketchflow.Text.Case
import Sketchflow.Text.Encoding
import Sketchflow.Text.Percent

/-!
# Requests

A request has a method, an address and possibly a body.

* `segments` are the parts of the address between slashes, decoded.
* `query?` is a value asked for after the question mark.
* `Body.document` is the document in the body; null stands for a body that has none.
-/

namespace Sketchflow.Api

inductive Body where
  | absent
  | doc (v : Value)
  /-- A text and the media type it is sent with. -/
  | text (media content : String)

structure Request where
  method : String
  address : String
  body : Body := .absent

/-! ## Addresses -/

/-- The parts of a text between separators. -/
def splitAll (separator : Char) : List Char → List (List Char)
  | [] => [[]]
  | c :: rest =>
    if c == separator then [] :: splitAll separator rest
    else match splitAll separator rest with
      | part :: parts => (c :: part) :: parts
      | [] => [[c]]

def splitFirst (separator : Char) (cs : List Char) : List Char × List Char :=
  (cs.takeWhile (· != separator), (cs.dropWhile (· != separator)).drop 1)

/-- The address without what follows a number sign. -/
def Request.place (r : Request) : List Char :=
  (splitFirst '#' r.address.toList).1

/-- The parts of the address, decoded before it is divided at slashes. -/
def Request.segments (r : Request) : List String :=
  let path := String.ofList (splitFirst '?' r.place).1
  (splitAll '/' (Percent.decode Percent.mark path).toList).map String.ofList

/-- A part of a query, decoded; a plus sign is a blank. -/
def decodeQuery (cs : List Char) : String :=
  Percent.decode Percent.again (String.ofList (cs.map fun c => if c == '+' then ' ' else c))

/-- The names and values of the query. -/
def Request.queries (r : Request) : List (String × String) :=
  ((splitAll '&' (splitFirst '?' r.place).2).filter fun part => !part.isEmpty).map fun part =>
    let (name, value) := splitFirst '=' part
    (decodeQuery name, decodeQuery value)

/-- The first value of a name in the query. -/
def Request.query? (r : Request) (name : String) : Option String :=
  r.queries.lookup name

/-! ## Bodies -/

/-- Whether a media type is one of documents; parameters after a semicolon do not count. -/
def isDocMedia (media : String) : Bool :=
  let kind := (Text.lower (Text.strip (String.ofList (splitFirst ';' media.toList).1))).toList
  kind == "application/json".toList
    || ("application/".toList.isPrefixOf kind && "+json".toList.isSuffixOf kind)

/-- A text without the byte order mark in front of it. -/
def dropMark (s : String) : String :=
  match s.toList with
  | c :: rest => if c == Char.ofNat 0xfeff then String.ofList rest else s
  | [] => s

/-- The text that is sent as the content of a body: what its bytes are in the encoding that they
show. -/
def sentText? (content : String) : Option String :=
  let bytes := Percent.bytesOf content
  match Encoding.guess bytes with
  | .utf8 => some (dropMark content)
  | encoding => encoding.decode? bytes

def Body.document : Body → Value
  | .absent => .null
  | .doc v => v
  | .text media content =>
    if isDocMedia media then
      match (sentText? content).map Json.read with
      | some (.ok v) => v
      | _ => .null
    else .null

/-- The fields of the document in a body: none at all without a document, and nothing for a
document that is no object. -/
def Body.fields? (b : Body) : Option Fields :=
  match b.document with
  | .null => some []
  | .object fields => some fields
  | _ => none

end Sketchflow.Api
