import Sketchflow.Text.Blank
import Sketchflow.Text.Quoted

/-!
# Folders

A folder of files and further folders, somewhere in the tree of all folders. A `Path` is what a
text between slashes says; a `Location` is where it leads, from the root of the tree. A path is
followed name by name, each in a folder that has to be there: an empty name and `.` stay where
they are, `..` goes one up.

* `locate` follows a path.
* `makeFolder`, `makeFolders`, `write`, `read`, `remove` and `move` are the operations; each fails
  as `Fault` says and then changes nothing, but for the folders that `makeFolders` has made.
* `names` lists the folder, `tree` everything under it.
-/

namespace Sketchflow

inductive Entry where
  | file (bytes : ByteArray)
  | folder

/-- The names that lead from the root of the tree of all folders to a location. -/
abbrev Location := List String

/-- The names between the slashes of a text. -/
structure Path where
  names : List String
  /-- Whether the text starts at the root, and not in the folder. -/
  absolute : Bool := false
  deriving Repr, DecidableEq

namespace Path

def ofText (s : String) : Path :=
  match s.splitOn "/" with
  | "" :: name :: rest => { names := name :: rest, absolute := true }
  | names => { names }

def single (name : String) : Path := { names := [name] }

/-- Names without the empty ones at the end. -/
def dropEmpty (names : List String) : List String :=
  (names.reverse.dropWhile (· == "")).reverse

/-- What leads to the last name of a path. -/
def parent (p : Path) : Path :=
  { p with names := dropEmpty p.names.dropLast }

/-- What leads to the last name that is not empty, and that name. None if there is none. -/
def split? (p : Path) : Option (Path × String) :=
  match (dropEmpty p.names).getLast? with
  | some name => some ({ p with names := dropEmpty (dropEmpty p.names).dropLast }, name)
  | none => none

def endsInSlash (p : Path) : Bool :=
  p.names.getLast? == some ""

def append (p : Path) (s : String) : Path :=
  { p with names := p.names.dropLast ++ [p.names.getLastD "" ++ s] }

end Path

/-- A folder, the name messages give it, where it is, and the entries under it. All folders that
lead to it are there. -/
structure Folder where
  name : String
  location : Location := ["here", "folder"]
  entries : List (Location × Entry) := []

namespace Folder

/-- Why an operation fails. -/
inductive Problem where
  | missing
  | busy
  | taken
  | notFolder
  | isFolder
  | tooLong
  /-- A name has a character of code zero. -/
  | nullCharacter
  deriving Repr, DecidableEq

def Problem.number : Problem → Nat
  | .missing => 2
  | .busy => 16
  | .taken => 17
  | .notFolder => 20
  | .isFolder => 21
  | .tooLong => 36
  | .nullCharacter => 0

def Problem.words : Problem → String
  | .missing => "No such file or directory"
  | .busy => "Device or resource busy"
  | .taken => "File exists"
  | .notFolder => "Not a directory"
  | .isFolder => "Is a directory"
  | .tooLong => "File name too long"
  | .nullCharacter => "embedded null byte"

/-- A problem and where it is: the full name of the entry, and of the one it should have become. -/
structure Fault where
  problem : Problem
  place : String
  target : Option String := none

def Fault.message (f : Fault) : String :=
  let target := match f.target with
    | some t => " -> " ++ Text.quote t
    | none => ""
  if f.problem == .nullCharacter then f.problem.words
  else s!"[Errno {f.problem.number}] " ++ f.problem.words ++ ": " ++ Text.quote f.place ++ target

def fullName (f : Folder) (p : Path) : String :=
  let start := if p.absolute then "" else f.name
  p.names.foldl (fun acc name => acc ++ "/" ++ name) start

/-! ## Entries -/

def entry? (f : Folder) (l : Location) : Option Entry :=
  if l.length < f.location.length && l.isPrefixOf f.location then some .folder
  else (f.entries.find? fun e => e.1 == l).map (·.2)

def isFolderAt (f : Folder) (l : Location) : Bool :=
  match f.entry? l with
  | some .folder => true
  | _ => false

def isThere (f : Folder) : Bool :=
  f.isFolderAt f.location

def erase (f : Folder) (l : Location) : Folder :=
  { f with entries := f.entries.filter fun e => e.1 != l }

def put (f : Folder) (l : Location) (e : Entry) : Folder :=
  { f with entries := (l, e) :: (f.erase l).entries }

/-! ## Following paths -/

/-- The longest name, in bytes. -/
def nameBound : Nat := 255

/-- The longest path, in bytes. -/
def pathBound : Nat := 4072

/-- Refuse a path that is too long or has a character of code zero. -/
def checkPath (p : Path) : Except Problem Unit :=
  let text := Text.joinWith "/" p.names
  if text.contains '\x00' then .error .nullCharacter
  else if pathBound < text.utf8ByteSize then .error .tooLong
  else .ok ()

def start (f : Folder) (p : Path) : Location :=
  if p.absolute then [] else f.location

def needFolder (f : Folder) (l : Location) : Except Problem Unit :=
  match f.entry? l with
  | some .folder => .ok ()
  | some (.file _) => .error .notFolder
  | none => .error .missing

def step (f : Folder) (l : Location) (name : String) : Except Problem Location := do
  f.needFolder l
  if name == "" || name == "." then .ok l
  else if name == ".." then .ok l.dropLast
  else if nameBound < name.utf8ByteSize then .error .tooLong
  else .ok (l ++ [name])

/-- Where a path leads. Nothing needs to be there but the folders on the way. -/
def locate (f : Folder) (p : Path) : Except Problem Location := do
  checkPath p
  p.names.foldlM f.step (f.start p)

def at? (f : Folder) (p : Path) : Option Entry :=
  match f.locate p with
  | .ok l => f.entry? l
  | .error _ => none

/-- The last name of a path as the place of a new entry. -/
inductive Spot where
  /-- A name in a folder, which leads to a location. -/
  | named (l : Location)
  /-- No name of its own: it stays in a folder or goes up. -/
  | nameless
  deriving Repr, DecidableEq

/-- The place that the last name of a path stands for, in a folder that is there. Slashes at the
end do not count. -/
def spot (f : Folder) (p : Path) : Except Problem Spot := do
  checkPath p
  match p.split? with
  | none => if p.absolute then .ok .nameless else .ok (.named f.location)
  | some (parent, name) =>
    let l ← parent.names.foldlM f.step (f.start parent)
    let there ← f.step l name
    if name == "." || name == ".." then .ok .nameless else .ok (.named there)

/-! ## Operations -/

/-- The fault of an operation on one path. -/
def failing {α : Type} (f : Folder) (p : Path) (r : Except Problem α) : Except Fault α :=
  match r with
  | .ok a => .ok a
  | .error problem => .error ⟨problem, f.fullName p, none⟩

def makeFolder (f : Folder) (p : Path) : Except Fault Folder :=
  f.failing p do
    match ← f.spot p with
    | .nameless => .error .taken
    | .named l => if (f.entry? l).isSome then .error .taken else .ok (f.put l .folder)

/-- Make a folder unless there is one. -/
def makeMissing (f : Folder) (p : Path) : Except Fault Unit × Folder :=
  match f.makeFolder p with
  | .ok f => (.ok (), f)
  | .error fault =>
    match fault.problem, f.at? p with
    | .nullCharacter, _ => (.error fault, f)
    | _, some .folder => (.ok (), f)
    | _, _ => (.error fault, f)

/-- Make a folder, and before it those that lead to it and are not there. The bound is on the names
of the path. -/
def makeUpTo : Nat → Folder → Path → Except Fault Unit × Folder
  | 0, f, p => f.makeMissing p
  | bound + 1, f, p =>
    match p.split? with
    | none => f.makeMissing p
    | some (parent, name) =>
      if (f.at? parent).isSome then f.makeMissing p
      else
        match makeUpTo bound f parent with
        | (.error fault, f) =>
          if fault.problem == .taken then f.makeMissing p else (.error fault, f)
        | (.ok _, f) => if name == "." then (.ok (), f) else f.makeMissing p

def makeFolders (f : Folder) (p : Path) : Except Fault Unit × Folder :=
  makeUpTo (p.names.length + 1) f p

def write (f : Folder) (p : Path) (bytes : ByteArray) : Except Fault Folder :=
  f.failing p do
    match ← f.spot p with
    | .nameless => .error .isFolder
    | .named l =>
      if p.endsInSlash || p.names.isEmpty || f.isFolderAt l then .error .isFolder
      else .ok (f.put l (.file bytes))

def read (f : Folder) (p : Path) : Except Fault ByteArray :=
  f.failing p do
    match f.entry? (← f.locate p) with
    | some (.file bytes) => .ok bytes
    | some .folder => .error .isFolder
    | none => .error .missing

def remove (f : Folder) (p : Path) : Except Fault Folder :=
  f.failing p do
    let l ← f.locate p
    match f.entry? l with
    | some (.file _) => .ok (f.erase l)
    | some .folder => .error .isFolder
    | none => .error .missing

/-- Give a file another path, in place of the file there. -/
def move (f : Folder) (p target : Path) : Except Fault Folder :=
  let moved : Except Problem Folder := do
    let source ← f.locate p
    match ← f.spot target with
    | .nameless => .error .busy
    | .named l =>
      match f.entry? source with
      | none => .error .missing
      | some .folder => .error .isFolder
      | some (.file bytes) =>
        if target.endsInSlash then .error .notFolder
        else if f.isFolderAt l then .error .isFolder
        else .ok ((f.erase source).put l (.file bytes))
  match moved with
  | .ok f => .ok f
  | .error problem => .error ⟨problem, f.fullName p, some (f.fullName target)⟩

/-! ## Listing -/

/-- The path from the folder to a location under it. -/
def under? (f : Folder) (l : Location) : Option (List String) :=
  if f.location.isPrefixOf l && f.location.length < l.length then some (l.drop f.location.length)
  else none

def names (f : Folder) : List String :=
  f.entries.filterMap fun e =>
    match f.under? e.1 with
    | some [name] => some name
    | _ => none

def sorted (xs : List String) : List String :=
  xs.mergeSort fun a b => decide (a ≤ b)

/-- Everything under the folder, by path; a slash ends the name of a folder. -/
def tree (f : Folder) : List String :=
  sorted <| f.entries.filterMap fun e =>
    match f.under? e.1, e.2 with
    | none, _ => none
    | some path, .file _ => some (Text.joinWith "/" path)
    | some path, .folder => some (Text.joinWith "/" path ++ "/")

end Folder

end Sketchflow
