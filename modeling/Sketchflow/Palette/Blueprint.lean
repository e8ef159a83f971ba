import Sketchflow.Node
import Sketchflow.Text.Blank
import Sketchflow.Text.Case

/-!
# Blueprints

A blueprint describes a type of node: its ports, its initial properties and how the palette shows
it. Blueprints are built up step by step: flow ports with `flowIn` and `flowOut`, data
ports with `dataIn` and `dataOut`.
-/

namespace Sketchflow

/-- A type of node. -/
structure Blueprint where
  type : String
  title : String
  category : String := "general"
  description : String := ""
  inputs : List Port := []
  outputs : List Port := []
  properties : Fields := []
  tags : List String := []
  deriving Inhabited

namespace Blueprint

/-- A blueprint without ports. An empty title is replaced by the type. -/
def make (type title category description : String) : Blueprint :=
  { type, title := if title == "" then type else title, category, description }

/-- A port for the order of steps. -/
def flowPort (id : String) (name : Value) : Port :=
  { id, name, kind := .flow, dataType := .flow, default := .null }

def flowIn (b : Blueprint) (id name : String) : Blueprint :=
  { b with inputs := b.inputs ++ [flowPort id (.str name)] }

def flowOut (b : Blueprint) (id name : String) : Blueprint :=
  { b with outputs := b.outputs ++ [flowPort id (.str name)] }

/-- Add the usual flow input. -/
def thenIn (b : Blueprint) : Blueprint := b.flowIn "in" "Do This"

/-- Add the usual flow output. -/
def thenOut (b : Blueprint) : Blueprint := b.flowOut "out" "Next"

def dataIn (b : Blueprint) (id name : String) (dataType : DataType) (default : Value) :
    Blueprint :=
  { b with inputs := b.inputs ++ [{ id, name := .str name, kind := .data, dataType, default }] }

def dataOut (b : Blueprint) (id name : String) (dataType : DataType) : Blueprint :=
  { b with
    outputs := b.outputs ++ [{ id, name := .str name, kind := .data, dataType, default := .null }] }

def prop (b : Blueprint) (key : String) (v : Value) : Blueprint :=
  { b with properties := Fields.set key v b.properties }

/-- Add a tag, once. -/
def tag (b : Blueprint) (t : String) : Blueprint :=
  if b.tags.contains t then b else { b with tags := b.tags ++ [t] }

def input? (b : Blueprint) (id : String) : Option Port :=
  Port.find? b.inputs id

/-- Whether a search text, in lower case, is found in the blueprint. -/
def hasText (b : Blueprint) (query : String) : Bool :=
  let found (s : String) : Bool := Text.contains (Text.lower s) query
  found b.type || found b.title || found b.description || b.tags.any found || found b.category

def toDoc (b : Blueprint) : Value :=
  .object [("type", .str b.type), ("name", .str b.title), ("category", .str b.category),
    ("description", .str b.description), ("inputs", .list (b.inputs.map Port.toDoc)),
    ("outputs", .list (b.outputs.map Port.toDoc)), ("properties", .object b.properties)]

end Blueprint

end Sketchflow
