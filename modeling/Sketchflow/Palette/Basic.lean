import Sketchflow.Palette.Blueprint
import Sketchflow.Value.Operators

/-!
# Palettes

A palette is a registry of blueprints by type, sorted into categories.

* `register` adds a blueprint or replaces the one of its type; `unregister` removes one.
* `addCategory` adds an empty category or replaces the one of its name, members and all. A
  blueprint whose category was replaced is no longer listed, and cannot be taken off a list it is
  not on: that is the fault `NotListed`.
* `search`, `inCategory` look blueprints up.
-/

namespace Sketchflow

structure Category where
  name : String
  description : String := ""
  icon : String := "folder"
  members : List Blueprint := []
  deriving Inhabited

/-- A registry of blueprints. Types and names of categories are listed in the order of their first
appearance. -/
structure Palette where
  categories : List Category := []
  blueprints : List Blueprint := []
  standardLoaded : Bool := false
  deriving Inhabited

namespace Palette

/-- A blueprint that should be taken off a list it is not on. -/
structure NotListed where

def NotListed.message : String := "list.remove(x): x not in list"

/-! ## Looking up -/

def find? (p : Palette) (type : String) : Option Blueprint :=
  p.blueprints.find? fun b => b.type == type

def has (p : Palette) (type : String) : Bool :=
  p.blueprints.any fun b => b.type == type

def types (p : Palette) : List String :=
  p.blueprints.map (·.type)

def category? (p : Palette) (name : String) : Option Category :=
  p.categories.find? fun c => c.name == name

def inCategory (p : Palette) (name : String) : List Blueprint :=
  match p.category? name with
  | some c => c.members
  | none => []

/-- The first items of a list; a negative number leaves out that many at the end. -/
def takeUpTo {α : Type} (limit : Int) (items : List α) : List α :=
  if 0 ≤ limit then items.take limit.toNat else items.take (items.length - limit.natAbs)

/-- The blueprints in which a text is found, up to a limit. -/
def search (p : Palette) (query : String) (limit : Int) : List Blueprint :=
  takeUpTo limit (p.blueprints.filter fun b => b.hasText (Text.lower query))

/-- The first items of a list, as many as a value says; null is no limit. -/
def takeBy {α : Type} (limit : Value) (items : List α) : Except Fault (List α) :=
  match limit, limit.toIndex with
  | .null, _ => .ok items
  | _, .ok n => .ok (takeUpTo n items)
  | _, .error _ => .error .notLimit

/-- The blueprints in which the text that a value is is found, up to a limit. A value that counts
as false is found in all. -/
def searchBy (p : Palette) (query limit : Value) : Except Fault (List Blueprint) :=
  match query with
  | .str s => takeBy limit (p.blueprints.filter fun b => b.hasText (Text.lower s))
  | v =>
    if v.isTrue && !p.blueprints.isEmpty then .error (.noAttribute v.kindName "lower")
    else takeBy limit p.blueprints

/-- The document of a palette: the listed blueprints by category. -/
def toFields (p : Palette) : Fields :=
  p.categories.map fun c => (c.name, .list (c.members.map Blueprint.toDoc))

/-! ## Changing -/

/-- Put a category in the place of the one of its name, or at the end. -/
def putCategory (c : Category) : List Category → List Category
  | [] => [c]
  | d :: rest => if d.name == c.name then c :: rest else d :: putCategory c rest

/-- Put a blueprint in the place of the one of its type, or at the end. -/
def putBlueprint (b : Blueprint) : List Blueprint → List Blueprint
  | [] => [b]
  | d :: rest => if d.type == b.type then b :: rest else d :: putBlueprint b rest

/-- Add a category, or replace the one of its name. -/
def addCategory (p : Palette) (c : Category) : Palette :=
  { p with categories := putCategory c p.categories }

def unlist (p : Palette) (b : Blueprint) : Except NotListed Palette :=
  match p.category? b.category with
  | none => .ok p
  | some c =>
    if c.members.any fun d => d.type == b.type then
      .ok (p.addCategory { c with members := c.members.eraseP fun d => d.type == b.type })
    else .error {}

/-- Put a blueprint at the end of the list of its category, which is added if need be. -/
def list (p : Palette) (b : Blueprint) : Palette :=
  match p.category? b.category with
  | some c => p.addCategory { c with members := c.members ++ [b] }
  | none => p.addCategory { name := b.category, members := [b] }

/-- Register a blueprint. It takes the place of an earlier one of its type. -/
def register (p : Palette) (b : Blueprint) : Except NotListed Palette := do
  let p ← match p.find? b.type with
    | some previous => p.unlist previous
    | none => .ok p
  .ok ({ p with blueprints := putBlueprint b p.blueprints }.list b)

/-- Remove the blueprint of a type, if there is one. When it is not listed in its category the
blueprint is gone all the same. -/
def unregister (p : Palette) (type : String) : Palette × Except NotListed Bool :=
  match p.find? type with
  | none => (p, .ok false)
  | some b =>
    let p := { p with blueprints := p.blueprints.filter fun d => d.type != type }
    match p.unlist b with
    | .ok p => (p, .ok true)
    | .error f => (p, .error f)

end Palette

end Sketchflow
