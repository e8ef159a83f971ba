import Sketchflow.Proofs.Compile.Lines

/-!
# How programs begin

Every program loads its libraries, makes its tables and prepares the canvas before it does anything
else. None of this can fail.

* `exec_style`, `exec_perform`: what one line that draws does.
* `begun` is the machine after the beginning of a program. **`execAll_preamble`**: the rest of the
  program is performed on it.
-/

namespace Sketchflow.Compile

open Script

/-! ## Steps of a program that draws -/

/-- Calls of operations of the canvas perform them. -/
def Draws (call : Call) : Prop :=
  ∀ operation arguments, call (.handle (.method .canvas operation)) arguments =
    callCanvas operation arguments

theorem invoke_draws : Draws invoke :=
  fun _ _ => rfl

section

variable {scope : Scope} {m m' : Machine} {call : Call} {vs : List Value} {v : Value} {e : Expr}
  {es : List Expr}

theorem execAll_go {s : Stmt} (h : (exec call scope s).run m = .ok .go m') (rest : List Stmt) :
    (execAll call scope (s :: rest)).run m = (execAll call scope rest).run m' := by
  rw [execAll, EStateM.run_bind, h]

theorem exec_style (hctx : (lookupName scope "ctx").run m = .ok (.handle .canvas) m)
    {field : String} {name : StyleName} (hfield : StyleName.ofKey? field = some name)
    (he : (eval call scope e).run m = .ok v m) :
    (exec call scope (style field e)).run m =
      .ok .go { m with canvas := m.canvas.setStyle name v } := by
  have hassign : (assignAll call scope v [.member (.name "ctx") field]).run m =
      .ok () { m with canvas := m.canvas.setStyle name v } := by
    rw [assignAll, EStateM.run_bind, assignTo, EStateM.run_bind, eval, hctx]
    show EStateM.Result.ok () { m with canvas := m.canvas.set field v } = _
    unfold Canvas.set
    rw [hfield]
  show ((eval call scope e >>= fun v => assignAll call scope v [.member (.name "ctx") field]) >>=
    fun _ => pure Signal.go).run m = _
  rw [EStateM.run_bind, EStateM.run_bind, he]
  simp only [hassign]
  rfl

theorem exec_perform (hdraws : Draws call)
    (hctx : (lookupName scope "ctx").run m = .ok (.handle .canvas) m)
    {operation : String} {c : Canvas}
    (hget : m.canvas.get operation = .ok (.handle (.method .canvas operation)))
    (hargs : (evalAll call scope es).run m = .ok vs m)
    (hcall : (callCanvas operation vs).run m = .ok .null { m with canvas := c }) :
    (exec call scope (perform operation es)).run m =
      .ok .go { m with canvas := c } := by
  have hcallee : (eval call scope (.member (.name "ctx") operation)).run m =
      .ok (.handle (.method .canvas operation)) m := by
    rw [eval, EStateM.run_bind, eval, hctx]
    show (fromExcept (m.canvas.get operation)).run m = _
    rw [hget]
    rfl
  have heval : (eval call scope
      (.call (.member (.name "ctx") operation) es)).run m = .ok .null { m with canvas := c } := by
    rw [eval, EStateM.run_bind, hcallee]
    simp only
    rw [EStateM.run_bind, hargs]
    simp only
    rw [EStateM.run_bind, hdraws, hcall]
    rfl
  show (eval call scope (.call (.member (.name "ctx") operation) es) >>=
    fun _ => pure Signal.go).run m = _
  rw [EStateM.run_bind, heval]
  rfl

end

def initialised (c : Canvas) : Canvas :=
  ((((c.setStyle .font (.str "16px Arial")).setStyle .strokeStyle (.str "#000000")).setStyle
    .fillStyle (.str "#000000")).setStyle .lineWidth (.int 2)).record "begin_path" []

theorem lookupName_own {own : List String} {name : String} (hown : own.contains name = true)
    {m : Machine} {v : Value} (h : m.names.get? name = some v) :
    (lookupName { own } name).run m = .ok v m := by
  show (if own.contains name = true then boundValue m.names .unassigned name
    else lookupName.everywhere name).run m = _
  rw [if_pos hown, boundValue, h]
  rfl

def begun (m : Machine) : Machine :=
  { m with
    canvas := initialised m.canvas, functions := [], controls := []
    loop := [(.str "running", .bool false), (.str "frame", .null)]
    names := Script.parameters ++ [("math", .handle (.library "math")),
      ("random", .handle (.library "random")), ("functions", .handle (.table .functions)),
      ("controls", .handle (.table .controls)), ("tick_state", .handle (.table .loop))] }

theorem begun_notes (m : Machine) : (begun m).canvas.notes = m.canvas.notes := by
  show (initialised m.canvas).notes = m.canvas.notes
  generalize m.canvas = c
  cases c
  rfl

/-- **Programs begin on a machine of their own.** -/
theorem execAll_preamble {call : Call} (hdraws : Draws call) {own : List String}
    (hown : own.contains "ctx" = true) {m : Machine} (hnames : m.names = Script.parameters)
    (hnotes : m.canvas.notes = []) (rest : List Stmt) :
    (execAll call { own } (preambleStmts ++ rest)).run m =
      (execAll call { own } rest).run (begun m) := by
  obtain ⟨⟨_, _, _, _, _, notes⟩, _, _, _, _, _, names, _, _, _, _, _⟩ := m
  obtain rfl : notes = [] := hnotes
  obtain rfl : names = Script.parameters := hnames
  have hctx : ∀ m : Machine, m.names = (begun m).names →
      (lookupName { own } "ctx").run m = .ok (.handle .canvas) m := fun m hm =>
    lookupName_own hown (by rw [hm]; rfl)
  simp only [preambleStmts, List.cons_append, List.nil_append]
  rw [execAll_go rfl, execAll_go rfl, execAll_go rfl, execAll_go rfl, execAll_go rfl]
  rw [execAll_go (exec_style (hctx _ rfl) rfl rfl), execAll_go (exec_style (hctx _ rfl) rfl rfl),
    execAll_go (exec_style (hctx _ rfl) rfl rfl), execAll_go (exec_style (hctx _ rfl) rfl rfl),
    execAll_go (exec_perform hdraws (hctx _ rfl) rfl rfl rfl)]
  rfl

def ownNames (body : List Stmt) : List String :=
  Script.parameters.map (·.1) ++ bindsAll body

theorem perform_run (d : Script.Definition) (m : Machine) :
    (Script.perform d).run m =
      (execAll invoke { own := ownNames d.body } d.body >>= fun signal => pure signal.result).run
        { m with names := Script.parameters } :=
  rfl

end Sketchflow.Compile
