import Sketchflow.Compile.Program
import Sketchflow.Proofs.Listing.Comments

/-!
# Outlines

What is written for a node and for everything that follows it is settled before a line is written:
which nodes are met and in what order, the texts of their inputs, and the notes that go with them.
An outline holds this as a tree, and the lines are a function of the tree.

* `Action` are the steps a node can write, `Action.asks` the inputs they need, `Action.body` and
  `Action.other` the outputs whose paths stand inside them.
* `outlineWithin` walks a graph as `emitWithin` does and writes nothing.
* **`emitWithin_eq`**: to write a path is to outline it and to write the outline. This holds of
  every graph, also of one that no edits lead to.
-/

namespace Sketchflow.Compile

open Listing

open Listing (Step lastAll write)

/-! ## Actions -/

/-- The steps that nodes write, apart from the paths inside them. -/
inductive Action where
  | move
  | draw
  | tint
  | thickness
  | circle
  | rectangle
  | clear
  | caption
  | bubble
  | change
  /-- Give a variable a value; the input that names the variable. -/
  | assign (nameInput : String)
  | counted
  | branch
  | guarded
  | call
  | play
  deriving Repr, DecidableEq

/-- The types of the nodes that write steps. -/
def actions : List (String × Action) :=
  [("moveTo", .move), ("lineTo", .draw), ("setColor", .tint), ("setPenWidth", .thickness),
    ("drawCircle", .circle), ("drawRectangle", .rectangle), ("clearCanvas", .clear),
    ("drawText", .caption), ("say", .bubble), ("changeXBy", .change), ("changeYBy", .change),
    ("setXTo", .assign "variableName"), ("setYTo", .assign "variableName"),
    ("setVariable", .assign "name"), ("repeat", .counted), ("if", .branch), ("while", .guarded),
    ("callFunction", .call), ("playSound", .play)]

/-- The steps of a type; a node of any other type leaves a remark. -/
def action? (type : String) : Option Action :=
  actions.lookup type

def text (r : Inputs) (name : String) : String := (r.lookup name).getD ""

namespace Action

/-- The inputs that the steps need, in the order they are asked for. -/
def asks : Action → List String
  | .move => ["x", "y"]
  | .draw => ["x", "y"]
  | .tint => ["color"]
  | .thickness => ["width"]
  | .circle => ["x", "y", "radius"]
  | .rectangle => ["x", "y", "width", "height"]
  | .clear => []
  | .caption => ["font", "color", "text", "x", "y"]
  | .bubble => ["message", "targetX", "targetY"]
  | .change => ["variableName", "amount"]
  | .assign nameInput => [nameInput, "value"]
  | .counted => ["count"]
  | .branch => ["condition"]
  | .guarded => ["condition"]
  | .call => ["name"]
  | .play => ["soundName"]

/-- The output whose path is the body of a loop or the first branch. -/
def body : Action → Option String
  | .counted => some "body"
  | .branch => some "then"
  | .guarded => some "body"
  | _ => none

/-- The output whose path is the second branch. -/
def other : Action → Option String
  | .branch => some "else"
  | _ => none

/-- How each round of a guarded loop begins: it is counted, and the loop is left at the limit. -/
def guardSteps (limit : String) (n : Node) : List Step :=
  [.line s!"while_guard_{n.id} += 1",
    .block s!"if while_guard_{n.id} > {limit}:"
      [.line ("runtime.warn(" ++ Json.writeString true
          s!"While loop (ID {n.id}) iteration limit exceeded ({limit})." ++ ")"),
        .line "break"]]

/-- The calls that write the steps; `r` are the inputs of the node, `body` and `other` the paths
inside them. -/
def steps (limit : String) (n : Node) (r : Inputs) (body other : List Step) : Action → List Step
  | .move =>
    let x := text r "x"
    let y := text r "y"
    [.line s!"ctx.move_to({x}, {y})"]
  | .draw =>
    let x := text r "x"
    let y := text r "y"
    [.line s!"ctx.line_to({x}, {y})", .line "ctx.stroke()", .line "ctx.begin_path()"]
  | .tint =>
    let color := text r "color"
    [.line s!"ctx.stroke_style = {color}", .line s!"ctx.fill_style = {color}"]
  | .thickness =>
    let width := text r "width"
    [.line s!"ctx.line_width = {width}"]
  | .circle =>
    let x := text r "x"
    let y := text r "y"
    let radius := text r "radius"
    (shapeLines n s!"ctx.arc({x}, {y}, max(0, {radius}), 0, math.pi * 2)").map .line
  | .rectangle =>
    let x := text r "x"
    let y := text r "y"
    let width := text r "width"
    let height := text r "height"
    (shapeLines n s!"ctx.rect({x}, {y}, max(0, {width}), max(0, {height}))").map .line
  | .clear => [.line "ctx.clear_rect(0, 0, ctx.width, ctx.height)", .line "ctx.begin_path()"]
  | .caption =>
    let font := text r "font"
    let color := text r "color"
    let words := text r "text"
    let x := text r "x"
    let y := text r "y"
    [.line "ctx.save()", .line s!"ctx.font = {font}", .line s!"ctx.fill_style = {color}",
      .line "ctx.text_align = 'left'", .line "ctx.text_baseline = 'top'",
      .line s!"ctx.fill_text({words}, {x}, {y})", .line "ctx.restore()"]
  | .bubble =>
    let message := text r "message"
    let x := text r "targetX"
    let y := text r "targetY"
    [.line "ctx.save()", .line "ctx.font = 'bold 14px Nunito, sans-serif'",
      .line "ctx.fill_style = '#555555'", .line "ctx.text_align = 'center'",
      .line "ctx.text_baseline = 'bottom'", .line s!"ctx.fill_text({message}, {x}, ({y}) - 5)",
      .line "ctx.restore()"]
  | .change =>
    let name := text r "variableName"
    let amount := text r "amount"
    [.block s!"if isinstance(variables.get({name}), (int, float)):"
        [.line s!"variables[{name}] += ({amount})"],
      .block s!"elif variables.get({name}) is None:" [.line s!"variables[{name}] = ({amount})"],
      .block "else:" [.line (s!"runtime.warn('Variable ' + str({name}) + "
        ++ Json.writeString true (" is not a number for " ++ n.type ++ ".") ++ ")")]]
  | .assign nameInput =>
    let name := text r nameInput
    let value := text r "value"
    [.line s!"variables[{name}] = ({value})"]
  | .counted =>
    let count := text r "count"
    [.block s!"for _ in range(math.ceil(float({count}))):" body]
  | .branch =>
    let condition := text r "condition"
    [.block s!"if ({condition}):" body, .block "else:" other]
  | .guarded =>
    let condition := text r "condition"
    [.line s!"while_guard_{n.id} = 0",
      .block s!"while ({condition}):" (guardSteps limit n ++ body)]
  | .call =>
    let name := text r "name"
    [.block s!"if {name} in functions:" [.line s!"functions[{name}]()"],
      .block "else:"
        [.line s!"runtime.warn('Attempted to call undefined function: ' + str({name}))"]]
  | .play =>
    let sound := text r "soundName"
    [.line s!"runtime.play_sound({sound})"]

end Action

/-- What a node that writes no steps leaves in the program. -/
def remark (n : Node) : String :=
  match n.type with
  | "start" => s!"Start node (ID {n.id}) execution path"
  | "gameLoop" =>
    s!"Game loop node (ID {n.id}): its tick logic is defined and started separately."
  | "whenKeyPressed" =>
    s!"When-key-pressed node (ID {n.id}): its actions are registered as a key handler."
  | "function" => s!"Function node (ID {n.id}) is defined above."
  | type => s!"Node type {type} (ID {n.id}) has no exec code generation logic."

/-! ## Outlines -/

/-- What is written along a path. -/
inductive Outline where
  /-- The path ends. -/
  | stop
  /-- The path leads out of an output of a node to a node that is missing. -/
  | lost (id : Int) (port : String) (target : Int)
  /-- The path leads to a node whose steps are being written. -/
  | again (n : Node)
  /-- A node: the notes in front of its steps, its inputs, the paths inside its steps, and the path
  after them. -/
  | node (n : Node) (notes : List String) (r : Inputs) (body other next : Outline)

def nodeSteps (limit : String) (n : Node) (r : Inputs) (body other : List Step) : List Step :=
  match action? n.type with
  | some a => a.steps limit n r body other
  | none => [.comment (remark n)]

def Outline.steps (limit : String) : Outline → List Step
  | .stop => []
  | .lost id port target =>
    [.comment s!"Error: next node (ID {target}) in exec path from {id}.{port} not found."]
  | .again n =>
    [.comment s!"Loop detected: re-entry to {n.type} (ID {n.id}) skipped in current path."]
  | .node n notes r body other next =>
    notes.map Step.comment ++ nodeSteps limit n r (body.steps limit) (other.steps limit)
      ++ next.steps limit

/-! ## Outlining a graph -/

def demand (r : Inputs) (name : String) : Run Unit := do
  let _ ← need r name

def demandAll (r : Inputs) : List String → Run Unit
  | [] => return ()
  | name :: rest => do
    demand r name
    demandAll r rest

/-- Outlining what follows: a node and the nodes already on this path. -/
abbrev Survey := Node → List Int → Run Outline

/-- The outline of what follows an output, if there is one. -/
def along (g : Graph) (survey : Survey) (id : Int) (port : Option String) (path : List Int) :
    Run Outline := do
  match port with
  | none => return .stop
  | some port =>
    match g.flowFrom? (.int id) (.str port) with
    | none => return .stop
    | some w =>
      match g.node? (.int w.toNode) with
      | none => return .lost id port w.toNode
      | some next => survey next path

/-- The output at which a path goes on. -/
def nextPort (type : String) : Option String :=
  if goesOn type then some "out" else none

/-- The outline of a node and of what follows it. -/
def outlineWithin (g : Graph) : Nat → Survey
  | 0, _, _ => return .stop
  | bound + 1, n, path => do
    if path.contains n.id || (← get).emitting.contains n.id then return .again n
    else
      modify fun c => { c with emitting := n.id :: c.emitting }
      let survey := outlineWithin g bound
      let r ← resolveInputs g n n.dataInputs
      let notes ← drainNotes
      let action := action? n.type
      demandAll r ((action.map Action.asks).getD [])
      let body ← along g survey n.id (action.bind Action.body) []
      let other ← along g survey n.id (action.bind Action.other) []
      let next ← along g survey n.id (nextPort n.type) (n.id :: path)
      modify fun c => { c with emitting := c.emitting.erase n.id }
      return .node n notes r body other next

/-! ## Writing is outlining -/

theorem Action.steps_lasts (limit : String) (n : Node) (r : Inputs) {body other : List Step}
    (hb : lastAll body = true) (ho : lastAll other = true) (a : Action) :
    lastAll (a.steps limit n r body other) = true := by
  cases a <;> simp [Action.steps, lastAll, Step.lasts, guardSteps, hb, ho]

theorem nodeSteps_lasts (limit : String) (n : Node) (r : Inputs) {body other : List Step}
    (hb : lastAll body = true) (ho : lastAll other = true) :
    lastAll (nodeSteps limit n r body other) = true := by
  unfold nodeSteps
  split
  · exact Action.steps_lasts limit n r hb ho _
  · rfl

@[simp] theorem Outline.steps_lasts (limit : String) (o : Outline) :
    lastAll (o.steps limit) = true := by
  induction o with
  | stop => rfl
  | lost id port target => rfl
  | again n => rfl
  | node n notes r body other next hb ho hn =>
    simp [Outline.steps, nodeSteps_lasts limit n r hb ho, hn]

def Outline.write (limit : String) (out : Listing) (o : Outline) : Listing :=
  Listing.write (o.steps limit) out

section

variable {g : Graph} {limit : String} {walk : Walk} {survey : Survey}

theorem follow_eq (h : ∀ n path out, walk n path out = Outline.write limit out <$> survey n path)
    (id : Int) (port : String) (path : List Int) (out : Listing) :
    follow g walk id port path out =
      Outline.write limit out <$> along g survey id (some port) path := by
  cases hw : g.flowFrom? (.int id) (.str port) with
  | none => simp [follow, along, hw, Outline.write, Outline.steps]
  | some w =>
    cases hn : g.node? (.int w.toNode) with
    | none => simp [follow, along, hw, hn, Outline.write, Outline.steps]
    | some next => simp [follow, along, hw, hn, h]

@[simp] theorem along_none (id : Int) (path : List Int) :
    along g survey id none path = pure .stop := rfl

theorem blockOf_follow
    (h : ∀ n path out, walk n path out = Outline.write limit out <$> survey n path)
    (first : List Step) (hf : lastAll first = true) (header : String) (id : Int) (port : String)
    (out : Listing) :
    blockOf out header (fun out => follow g walk id port [] (write first out)) = do
      let o ← along g survey id (some port) []
      return write [.block header (first ++ o.steps limit)] out := by
  simp [blockOf, follow_eq h, Listing.block, Outline.write, write_append hf, hf]

def surveySteps (g : Graph) (limit : String) (survey : Survey) (n : Node) (r : Inputs)
    (out : Listing) : Run Listing := do
  demandAll r (((action? n.type).map Action.asks).getD [])
  let body ← along g survey n.id ((action? n.type).bind Action.body) []
  let other ← along g survey n.id ((action? n.type).bind Action.other) []
  return write (nodeSteps limit n r (body.steps limit) (other.steps limit)) out

theorem surveySteps_none {n : Node} (h : action? n.type = none) (r : Inputs) (out : Listing) :
    surveySteps g limit survey n r out = pure (out.comment (remark n)) := by
  simp [surveySteps, nodeSteps, h, demandAll]

theorem surveySteps_some {n : Node} {a : Action} (h : action? n.type = some a) (r : Inputs)
    (out : Listing) : surveySteps g limit survey n r out = do
      demandAll r a.asks
      let body ← along g survey n.id a.body []
      let other ← along g survey n.id a.other []
      return write (a.steps limit n r (body.steps limit) (other.steps limit)) out := by
  simp [surveySteps, nodeSteps, h]

/-- An input that is needed is demanded, and then it is there. -/
theorem need_bind {α : Type} (r : Inputs) (name : String) (k : String → Run α) :
    need r name >>= k = demand r name >>= fun _ => k (text r name) := by
  unfold demand need text
  cases r.lookup name <;> rfl

theorem allLines_eq (texts : List String) (out : Listing) :
    out.allLines texts = write (texts.map .line) out := by
  induction texts generalizing out with
  | nil => rfl
  | cons t texts ih => exact ih _

theorem stepLines_eq (h : ∀ n path out, walk n path out = Outline.write limit out <$> survey n path)
    (n : Node) (r : Inputs) (out : Listing) :
    stepLines g limit walk n r out = surveySteps g limit survey n r out := by
  unfold stepLines
  split
  case h_1 ht | h_2 ht | h_3 ht | h_4 ht =>
    rw [surveySteps_none (by rw [ht]; decide), remark, ht]
    rfl
  case h_19 ht =>
    rw [surveySteps_some (a := .counted) (by rw [ht]; decide)]
    simp only [need_bind, Action.asks, Action.body, Action.other, demandAll, along_none, bind_assoc,
      pure_bind]
    exact bind_congr fun _ => blockOf_follow h [] rfl _ _ _ _
  case h_20 ht =>
    rw [surveySteps_some (a := .branch) (by rw [ht]; decide)]
    have hb : ∀ header port out,
        blockOf out header (fun out => follow g walk n.id port [] out) = _ :=
      fun header port out => blockOf_follow h [] rfl header n.id port out
    simp only [need_bind, Action.asks, Action.body, Action.other, demandAll, bind_assoc, pure_bind,
      hb]
    simp [Action.steps]
  case h_21 ht =>
    rw [surveySteps_some (a := .guarded) (by rw [ht]; decide)]
    simp only [need_bind, Action.asks, Action.body, Action.other, demandAll, along_none, bind_assoc,
      pure_bind]
    exact bind_congr fun _ =>
      blockOf_follow h (Action.guardSteps limit n) rfl _ _ _ (out.line _)
  case h_24 =>
    have ha : action? n.type = none := by
      simp_all [action?, actions, List.lookup_eq_none_iff]
    rw [surveySteps_none ha]
    unfold remark
    split <;> first | contradiction | rfl
  -- No path stands inside the steps that are left.
  all_goals
    rename_i ht
    rw [surveySteps_some (show action? n.type = some _ by rw [ht]; rfl)]
    simp only [stepLines.change, stepLines.assign, need_bind, Action.asks, Action.body,
      Action.other, demandAll, along_none, bind_assoc, pure_bind, allLines_eq]
    rfl

end

theorem Outline.write_node (limit : String) (out : Listing) (n : Node) (notes : List String)
    (r : Inputs) (body other next : Outline) :
    Outline.write limit out (.node n notes r body other next) =
      Outline.write limit (Listing.write (nodeSteps limit n r (body.steps limit)
        (other.steps limit)) (notes.foldl (fun out note => out.comment note) out)) next := by
  have hn := nodeSteps_lasts limit n r (body.steps_lasts limit) (other.steps_lasts limit)
  rw [Outline.write, Outline.steps, List.append_assoc, write_comments,
    write_append hn, Outline.write]

/-- **To write a path is to outline it and to write the outline.** -/
theorem emitWithin_eq (g : Graph) (limit : String) (bound : Nat) : ∀ n path out,
    emitWithin g limit bound n path out =
      Outline.write limit out <$> outlineWithin g bound n path := by
  induction bound with
  | zero =>
    intro n path out
    simp [emitWithin, outlineWithin, Outline.write, Outline.steps]
  | succ bound ih =>
    intro n path out
    simp only [emitWithin, outlineWithin, map_bind]
    refine bind_congr fun c => ?_
    split
    · simp [Outline.write, Outline.steps]
    · simp only [flushNotes, stepLines_eq ih, surveySteps, bind_assoc, pure_bind, map_bind,
        map_pure, Outline.write_node]
      refine bind_congr fun _ => bind_congr fun r => bind_congr fun notes => ?_
      refine bind_congr fun _ => bind_congr fun body => bind_congr fun other => ?_
      unfold nextPort
      split
      · rw [follow_eq ih, bind_map_left]
      · simp [Outline.write, Outline.steps]

/-! ## Outlines with statements -/

/-- Whether a node with steps stands in an outline. Nothing stands inside a node without steps. -/
def Outline.acts : Outline → Bool
  | .node n _ _ _ _ next => (action? n.type).isSome || next.acts
  | _ => false

theorem Outline.statements_isEmpty (limit : String) (size level : Int) (o : Outline) :
    (Listing.statementsAll size level (o.steps limit)).isEmpty = !o.acts := by
  induction o with
  | stop | lost | again => rfl
  | node n notes r body other next hb ho hn =>
    have happend : ∀ s t : List String, (s ++ t).isEmpty = (s.isEmpty && t.isEmpty) := by
      intro s t
      cases s <;> rfl
    rw [Outline.steps, Outline.acts, List.append_assoc, statementsAll_append,
      statementsAll_append, statementsAll_comments, List.nil_append, happend, hn,
      nodeSteps]
    cases ha : action? n.type with
    | none => rfl
    | some a =>
      refine Bool.and_eq_false_iff.mpr (.inl ?_)
      cases a with
      | change | counted | branch | call => exact statements_block_cons ..
      | circle | rectangle =>
        exact statements_line_cons (t := "ctx.begin_path()") (by decide) size level
      | _ =>
        apply statements_line_cons
        repeat apply isStatement_append
        decide

theorem Outline.hasStatements_write (limit : String) (l : Listing) (o : Outline) :
    (o.write limit l).hasStatements = (l.hasStatements || o.acts) := by
  rw [Outline.write, (write_adds (o.steps_lasts limit) l).hasStatements,
    o.statements_isEmpty, Bool.not_not]

def Outline.isStop : Outline → Bool
  | .stop => true
  | _ => false

theorem Outline.write_isEmpty (limit : String) (l : Listing) (extra : Int) (o : Outline) :
    (o.write limit (l.child extra)).isEmpty = o.isStop := by
  cases o with
  | stop => rfl
  | lost | again =>
    rw [Outline.write, Outline.steps, write_comment, write_nil,
      comment_isEmpty]
    rfl
  | node n notes r body other next =>
    cases ha : action? n.type with
    | some a =>
      apply isEmpty_of_hasStatements
      rw [hasStatements_write]
      simp [Outline.acts, ha]
    | none =>
      rw [Outline.write_node, nodeSteps, ha, write_comment, write_nil]
      exact (write_adds (next.steps_lasts limit) _).isEmpty (comment_isEmpty _ _)

end Sketchflow.Compile
