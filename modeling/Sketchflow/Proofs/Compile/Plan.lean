import Sketchflow.Proofs.Compile.Outline

/-!
# Plans

The plan of a program holds the outlines of everything that has a path in it: its functions, its
key handlers, the path of the start node and the tick of the frame loop. The text of the program is
a function of the plan.

* `plan` walks a graph as `generate` does and writes nothing.
* `Plan.steps` are the calls that write a program.
* **`generate_eq`**: the program of a graph is the text of its plan. This holds of every graph.
-/

namespace Sketchflow.Compile

open Listing

open Listing (Step lastAll write)

def outline (g : Graph) : Survey :=
  outlineWithin g (nestingBound g)

theorem emit_eq (g : Graph) (limit : String) (n : Node) (path : List Int) (out : Listing) :
    emit g limit n path out = Outline.write limit out <$> outline g n path :=
  emitWithin_eq g limit _ n path out

/-! ## The parts of a program -/

/-- What becomes of a function node. -/
inductive Definition where
  /-- It has been defined before. -/
  | known
  | made (notes : List String) (name : String) (body : Outline)
  /-- Its name is no name of a function. -/
  | refused (notes : List String) (n : Node) (resolved : String)

def Definition.steps (limit : String) : Definition → List Step
  | .known => []
  | .made notes name body =>
    notes.map Step.comment ++ [Step.blank, .block s!"def fn_{name}():" (body.steps limit),
      .line ("functions[" ++ Json.literal name ++ s!"] = fn_{name}")]
  | .refused notes n resolved =>
    notes.map Step.comment ++
      [.comment s!"Invalid function name: {resolved} (node ID {n.id}). Skipping definition."]

/-- A key handler: its node, the key, the notes in front of it, and what it does. -/
structure Handler where
  node : Node
  key : String
  notes : List String
  body : Outline

def Handler.name (h : Handler) : String :=
  s!"handle_key_press_node{h.node.id}_" ++ nameOfKey h.key

/-- The calls that write a handler; one that does nothing is left out. -/
def Handler.steps (limit : String) (h : Handler) : List Step :=
  let name := h.name
  h.notes.map Step.comment ++ if h.body.acts then
      [.blank, .block s!"def {name}():" [.child 0 true (h.body.steps limit)],
        .line ("runtime.register_key_press(" ++ Json.literal h.key ++ s!", {name})")]
    else
      [.comment ("'When Key Pressed' for " ++ Json.literal h.key
        ++ s!" (ID {h.node.id}) has no actions connected or actions were skipped.")]

def cancelSteps : List Step :=
  [.block "if tick_state['frame'] is not None:"
    [.line "runtime.cancel_frame(tick_state['frame'])", .line "tick_state['frame'] = None"]]

def loopSteps (limit : String) (n : Node) (tick : Outline) : List Step :=
  [.blank, .comment s!"Game loop (node ID {n.id})",
    .block "def tick_loop_generated(timestamp=None):"
      (.block "if not tick_state['running']:" (cancelSteps ++ [Step.line "return"])
        :: (tick.steps limit
          ++ [Step.line "tick_state['frame'] = runtime.request_frame(tick_loop_generated)"])),
    .blank,
    .block "def start_tick_loop_generated():"
      [.block "if tick_state['frame'] is not None:"
          [.line "runtime.cancel_frame(tick_state['frame'])"],
        .line "tick_state['running'] = True",
        .line "tick_state['frame'] = runtime.request_frame(tick_loop_generated)",
        .line "runtime.log('Game loop started')"],
    .blank,
    .block "def stop_tick_loop_generated():"
      (Step.line "tick_state['running'] = False" :: cancelSteps
        ++ [Step.line "runtime.log('Game loop stopped')"]),
    .blank,
    .line "controls['start'] = start_tick_loop_generated",
    .line "controls['stop'] = stop_tick_loop_generated",
    .line "start_tick_loop_generated()"]

def preambleSteps : List Step :=
  [.comment "Generated by NodeCanvas", .line "import math", .line "import random", .blank,
    .line "functions = \x7b\x7d", .line "controls = \x7b\x7d",
    .line "tick_state = \x7b'running': False, 'frame': None\x7d", .blank,
    .comment "Drawing initialisation", .line "ctx.font = '16px Arial'",
    .line "ctx.stroke_style = '#000000'", .line "ctx.fill_style = '#000000'",
    .line "ctx.line_width = 2", .line "ctx.begin_path()"]

/-- What a program is made of. -/
structure Plan where
  functions : List Definition
  handlers : List Handler
  /-- The path of the start node. -/
  path : Option Outline
  /-- The node of the frame loop and its tick. -/
  loop : Option (Node × Outline)

/-- The calls that write the path of the start node ahead of the frame loop. -/
def setupSteps (limit : String) (setup : Outline) : List Step :=
  if setup.acts then
    [.blank, .comment "One-time setup from the start node", .child 0 true (setup.steps limit),
      .comment "End of one-time setup"]
  else []

/-- The calls that write a path at the end of a program, and what stands there if it is empty;
`idle` tells that there are no handlers either. -/
def pathSteps (limit : String) (idle : Bool) (o : Outline) : List Step :=
  .child 0 true (o.steps limit) ::
    if o.isStop then
      [.blank, .comment (if idle then "Program finished (no active execution paths found)."
        else "Setup complete. Awaiting key presses.")]
    else []

/-- The calls that write the main path and its setup. -/
def mainSteps (limit : String) (idle : Bool) :
    Option Outline → Option (Node × Outline) → List Step
  | some setup, some (n, tick) =>
    setupSteps limit setup ++ [Step.child 0 true (loopSteps limit n tick)]
  | none, some (n, tick) => [.child 0 true (loopSteps limit n tick)]
  | some path, none => pathSteps limit idle path
  | none, none => pathSteps limit idle .stop

def functionsSteps (limit : String) (functions : List Definition) : List Step :=
  if functions.isEmpty then []
  else .blank :: .comment "Functions" :: functions.flatMap (Definition.steps limit)

def handlersSteps (limit : String) (handlers : List Handler) : List Step :=
  .blank :: .comment "Key handlers and main program" :: handlers.flatMap (Handler.steps limit)

def Plan.steps (limit : String) (p : Plan) : List Step :=
  preambleSteps ++ functionsSteps limit p.functions ++ handlersSteps limit p.handlers
    ++ mainSteps limit p.handlers.isEmpty p.path p.loop ++ [Step.blank, .line "return controls"]

/-! ## Planning -/

def planFunction (g : Graph) (n : Node) : Run Definition := do
  if (← get).defined.contains n.id then return .known
  modify fun c => { c with defined := n.id :: c.defined }
  let resolved ← resolve g n "name"
  let notes ← drainNotes
  if isFunctionName (unquote resolved) then
    return .made notes (unquote resolved) (← along g (outline g) n.id (some "body") [])
  else return .refused notes n resolved

def planHandler (g : Graph) (n : Node) : Run Handler := do
  let key := Text.lower (unquote (← resolve g n "key"))
  let notes ← drainNotes
  return ⟨n, key, notes, ← along g (outline g) n.id (some "out") []⟩

def planEach {α : Type} (make : Node → Run α) : List Node → Run (List α)
  | [] => return []
  | n :: rest => do
    let a ← make n
    return a :: (← planEach make rest)

def planPath (g : Graph) : Option Node → Run (Option Outline)
  | none => return none
  | some n => do return some (← outline g n [])

def planLoop (g : Graph) : Option Node → Run (Option (Node × Outline))
  | none => return none
  | some n => do return some (n, ← along g (outline g) n.id (some "tick") [])

def planProgram (g : Graph) (start loop : Option Node) (hats : List Node) : Run Plan := do
  let functions ← planEach (planFunction g) (g.nodesOfType "function")
  let handlers ← planEach (planHandler g) hats
  let path ← planPath g start
  return ⟨functions, handlers, path, ← planLoop g loop⟩

def hasEntry (g : Graph) : Bool :=
  !((g.nodesOfType "start").isEmpty && (g.nodesOfType "gameLoop").isEmpty
    && (g.nodesOfType "whenKeyPressed").isEmpty)

/-- The plan of a graph; one without an entry point has none. -/
def plan (g : Graph) : Except Obstacle (Option Plan) :=
  if hasEntry g then
    ((planProgram g (g.nodesOfType "start").head? (g.nodesOfType "gameLoop").head?
      (g.nodesOfType "whenKeyPressed")).run {}).map fun r => some r.1
  else .ok none

def planText (limit : String) : Option Plan → String
  | none => noEntryProgram
  | some p => (write (p.steps limit) {}).render

/-! ## Writing is planning -/

@[simp] theorem Definition.steps_lasts (limit : String) (d : Definition) :
    lastAll (d.steps limit) = true := by
  cases d <;> simp [Definition.steps, Step.lasts]

@[simp] theorem Handler.steps_lasts (limit : String) (h : Handler) :
    lastAll (h.steps limit) = true := by
  unfold Handler.steps
  split <;> simp [Step.lasts]

@[simp] theorem loopSteps_lasts (limit : String) (n : Node) (tick : Outline) :
    lastAll (loopSteps limit n tick) = true := by
  simp [loopSteps, cancelSteps, Step.lasts]

theorem lastAll_flatMap {α : Type} {steps : α → List Step} (h : ∀ a, lastAll (steps a) = true)
    (as : List α) : lastAll (as.flatMap steps) = true := by
  induction as with
  | nil => rfl
  | cons a as ih => simp [h, ih]

section

variable (g : Graph) (limit : String)

theorem follow_emit (id : Int) (port : String) (out : Listing) :
    follow g (emit g limit) id port [] out =
      Outline.write limit out <$> along g (outline g) id (some port) [] :=
  follow_eq (emit_eq g limit) id port [] out

theorem functionLines_eq (n : Node) (out : Listing) :
    functionLines g (emit g limit) n out =
      (fun d => write (d.steps limit) out) <$> planFunction g n := by
  unfold functionLines planFunction
  simp only [map_bind]
  refine bind_congr fun c => ?_
  split
  · simp [Definition.steps]
  · simp only [flushNotes, bind_assoc, pure_bind, map_bind, blockOf, follow_emit, bind_map_left]
    refine bind_congr fun _ => bind_congr fun resolved => bind_congr fun notes => ?_
    split
    · simp [Definition.steps, write_comments, Listing.block, Outline.write]
    · simp [Definition.steps, write_comments]

theorem handlerLines_eq (n : Node) (out : Listing) :
    handlerLines g (emit g limit) n out =
      (fun h => write (h.steps limit) out) <$> planHandler g n := by
  unfold handlerLines planHandler
  simp only [map_bind, flushNotes, bind_assoc, pure_bind, follow_emit, bind_map_left]
  refine bind_congr fun resolved => bind_congr fun notes => bind_congr fun body => ?_
  have hside : ∀ out : Listing, (out.child 1).hasStatements = false := fun _ => rfl
  rw [Outline.hasStatements_write, hside, Bool.false_or]
  generalize Text.lower (unquote resolved) = key
  rw [map_pure, Handler.steps, write_comments]
  by_cases ha : body.acts = true
  · have hlast : lastAll [.child 0 true (body.steps limit)] = true := by simp [Step.lasts]
    rw [if_pos ha, if_pos ha, write_blank, write_block hlast, write_line,
      write_nil]
    -- The handler is written on the side, at the level of the block it ends up in.
    congr 2
    simp only [block]
    rw [write_child (body.steps_lasts limit), child_enter,
      (blank_adds _).child, write_nil, Outline.write]
    rfl
  · rw [if_neg ha, if_neg ha, write_comment, write_nil]

theorem eachLines_eq {α : Type} {writeOne : Node → Listing → Run Listing} {make : Node → Run α}
    {steps : α → List Step} (hs : ∀ a, lastAll (steps a) = true)
    (h : ∀ n out, writeOne n out = (fun a => write (steps a) out) <$> make n) (ns : List Node) :
    ∀ out, eachLines writeOne ns out =
      (fun as => write (as.flatMap steps) out) <$> planEach make ns := by
  induction ns with
  | nil => simp [eachLines, planEach]
  | cons n ns ih =>
    intro out
    simp [eachLines, planEach, h, ih, write_append (hs _)]

theorem loopLines_eq (n : Node) (out : Listing) :
    loopLines g (emit g limit) n out =
      (fun o => write (loopSteps limit n o) out) <$> along g (outline g) n.id (some "tick") [] := by
  have htick : ∀ (o : Outline) (opened : Listing),
      write (.block "if not tick_state['running']:" (cancelSteps ++ [Step.line "return"])
        :: (o.steps limit
          ++ [Step.line "tick_state['frame'] = runtime.request_frame(tick_loop_generated)"]))
        opened =
      (o.write limit (opened.block "if not tick_state['running']:" fun out =>
        (cancelLines out).line "return")).line
          "tick_state['frame'] = runtime.request_frame(tick_loop_generated)" :=
    fun o opened => write_append (o.steps_lasts limit) [.line _] _
  simp only [loopLines, blockOf, follow_emit, bind_assoc, pure_bind, map_eq_pure_bind]
  refine bind_congr fun o => ?_
  rw [loopSteps, write_blank, write_comment,
    write_block (by simp [Step.lasts, cancelSteps])]
  simp only [Listing.block, htick]
  rfl

/-- The program after its main path, and what stands there if it is empty. -/
def closing (idle : Bool) (r : Listing × Listing) : Listing :=
  let out := r.1.extend r.2
  if r.2.isEmpty then
    out.blank.comment (if idle then "Program finished (no active execution paths found)."
      else "Setup complete. Awaiting key presses.")
  else out

theorem closing_loop (idle : Bool) (n : Node) (tick : Outline) (out : Listing) :
    closing idle (out, write (loopSteps limit n tick) (out.child 0)) =
      write [.child 0 true (loopSteps limit n tick)] out := by
  have hadds := write_adds (loopSteps_lasts limit n tick) (out.child 0)
  have hstatements : (Listing.statementsAll (out.child 0).size (out.child 0).level
      (loopSteps limit n tick)).isEmpty = false := statements_block_cons ..
  have hempty : (write (loopSteps limit n tick) (out.child 0)).isEmpty = false := by
    apply isEmpty_of_hasStatements
    rw [hadds.hasStatements, hstatements]
    simp
  rw [closing, hempty, write_child (loopSteps_lasts limit n tick)]
  rfl

theorem closing_path (idle : Bool) (o : Outline) (out : Listing) :
    closing idle (out, o.write limit (out.child 0)) = write (pathSteps limit idle o) out := by
  rw [pathSteps, write_child (o.steps_lasts limit), closing, Outline.write_isEmpty]
  cases o.isStop <;> rfl

theorem setup_eq (setup : Outline) (out : Listing) :
    (if (setup.write limit (out.child 0)).hasStatements then
      ((out.blank.comment "One-time setup from the start node").extend
        (setup.write limit (out.child 0))).comment "End of one-time setup"
      else out) = write (setupSteps limit setup) out := by
  have hside : (out.child 0).hasStatements = false := rfl
  have hchild := ((blank_adds out).trans
    (comment_adds _ "One-time setup from the start node")).child 0
  rw [Outline.hasStatements_write, hside, Bool.false_or, setupSteps]
  split
  · rw [write_blank, write_comment, write_child (setup.steps_lasts limit),
      hchild]
    rfl
  · rfl

@[simp] theorem setupSteps_lasts (setup : Outline) : lastAll (setupSteps limit setup) = true := by
  unfold setupSteps
  split <;> simp [Step.lasts]

theorem mainLines_eq (start loop : Option Node) (idle : Bool) (out : Listing) :
    closing idle <$> mainLines g (emit g limit) start loop out = do
      let path ← planPath g start
      let loop ← planLoop g loop
      return write (mainSteps limit idle path loop) out := by
  cases start with
  | some n =>
    cases loop with
    | some l =>
      simp only [mainLines, planPath, planLoop, emit_eq, loopLines_eq, map_bind, bind_map_left,
        bind_assoc, pure_bind, map_pure, closing_loop, setup_eq, mainSteps,
        write_append (setupSteps_lasts limit _)]
    | none =>
      simp [mainLines, planPath, planLoop, emit_eq, closing_path, mainSteps]
  | none =>
    cases loop with
    | some l =>
      simp [mainLines, planPath, planLoop, loopLines_eq, closing_loop, mainSteps]
    | none =>
      simp only [mainLines, planPath, planLoop, pure_bind, map_pure, mainSteps, ← closing_path]
      rfl

@[simp] theorem mainSteps_lasts (idle : Bool) (path : Option Outline)
    (loop : Option (Node × Outline)) : lastAll (mainSteps limit idle path loop) = true := by
  have hpath : ∀ o, lastAll (pathSteps limit idle o) = true := fun o => by
    unfold pathSteps
    split <;> simp [Step.lasts]
  unfold mainSteps
  split <;> simp [Step.lasts, hpath]

@[simp] theorem functionsSteps_lasts (functions : List Definition) :
    lastAll (functionsSteps limit functions) = true := by
  unfold functionsSteps
  split
  · rfl
  · simp [Step.lasts, lastAll_flatMap (Definition.steps_lasts limit)]

@[simp] theorem handlersSteps_lasts (handlers : List Handler) :
    lastAll (handlersSteps limit handlers) = true := by
  simp [handlersSteps, Step.lasts, lastAll_flatMap (Handler.steps_lasts limit)]

@[simp] theorem preambleSteps_lasts : lastAll preambleSteps = true := rfl

theorem write_plan (p : Plan) :
    write (p.steps limit) {} =
      (write (mainSteps limit p.handlers.isEmpty p.path p.loop)
        (write (handlersSteps limit p.handlers)
          (write (functionsSteps limit p.functions) preamble))).blank.line "return controls" := by
  have hpre : write preambleSteps {} = preamble := rfl
  rw [Plan.steps, write_append (by simp), write_append (by simp),
    write_append (by simp), write_append preambleSteps_lasts, hpre]
  rfl

theorem functions_eq (ns : List Node) (k : Listing → Run Listing) :
    (if ns.isEmpty = true then k preamble
      else eachLines (functionLines g (emit g limit)) ns (preamble.blank.comment "Functions")
        >>= k) =
      planEach (planFunction g) ns >>= fun functions =>
        k (write (functionsSteps limit functions) preamble) := by
  cases ns with
  | nil => simp [planEach, functionsSteps]
  | cons n ns =>
    rw [eachLines_eq (Definition.steps_lasts limit) (functionLines_eq g limit), bind_map_left]
    simp [planEach, functionsSteps]

theorem programLines_eq (start loop : Option Node) (hats : List Node) :
    programLines g limit start loop hats =
      (fun p => write (p.steps limit) {}) <$> planProgram g start loop hats := by
  have hmain : ∀ out : Listing, (do
      let r ← mainLines g (emit g limit) start loop out
      return (closing hats.isEmpty r).blank.line "return controls") = (do
      let path ← planPath g start
      let loop ← planLoop g loop
      return (write (mainSteps limit hats.isEmpty path loop) out).blank.line
        "return controls") := by
    intro out
    have h := congrArg (fun m => (fun l : Listing => l.blank.line "return controls") <$> m)
      (mainLines_eq g limit start loop hats.isEmpty out)
    simpa using h
  have hhats : ∀ out : Listing,
      eachLines (handlerLines g (emit g limit)) hats
        (out.blank.comment "Key handlers and main program") =
        (fun hs => write (handlersSteps limit hs) out) <$> planEach (planHandler g) hats :=
    fun out => eachLines_eq (Handler.steps_lasts limit) (handlerLines_eq g limit) hats _
  calc programLines g limit start loop hats
    _ = planEach (planFunction g) (g.nodesOfType "function") >>= fun functions => do
          let out ← eachLines (handlerLines g (emit g limit)) hats
            ((write (functionsSteps limit functions) preamble).blank.comment
              "Key handlers and main program")
          let r ← mainLines g (emit g limit) start loop out
          return (closing hats.isEmpty r).blank.line "return controls" :=
      functions_eq g limit _ _
    _ = _ := by
      simp only [hhats, hmain, bind_map_left, planProgram, map_bind, map_pure, write_plan]
      refine bind_congr fun functions => ?_
      cases hats <;> simp [planEach]

end

/-- **The program of a graph is the text of its plan.** -/
theorem generate_eq (g : Graph) (limit : String) :
    generate g limit = (plan g).map (planText limit) := by
  have hhead : ∀ l : List Node, l.head?.isNone = l.isEmpty := by
    intro l
    cases l <;> rfl
  by_cases h : hasEntry g = true
  · have hsome : ((g.nodesOfType "start").isEmpty && (g.nodesOfType "gameLoop").isEmpty
        && (g.nodesOfType "whenKeyPressed").isEmpty) = false := by
      rwa [hasEntry, Bool.not_eq_true'] at h
    simp only [generate, plan, if_pos h, hhead, hsome, programLines_eq, StateT.run_map]
    generalize (planProgram g _ _ _).run {} = r
    cases r <;> rfl
  · have hnone : ((g.nodesOfType "start").isEmpty && (g.nodesOfType "gameLoop").isEmpty
        && (g.nodesOfType "whenKeyPressed").isEmpty) = true := by
      simpa [hasEntry] using h
    simp only [generate, plan, if_neg h, hhead, hnone]
    rfl

end Sketchflow.Compile
