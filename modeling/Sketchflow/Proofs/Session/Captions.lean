import Sketchflow.Proofs.Compile.Beginning
import Sketchflow.Proofs.Session.AutoRun

/-!
# Texts that are drawn

A text that is given to a node that draws it, or to a text node that feeds one, passes through the
literal that is written for it, the lines of the program, their indentation, and the reading of
the literal. All of it arrives, but a line end that a literal does not escape makes the program
move what follows it, so that blanks are put in.

* `carried` is a text as a program holds it. `carried_eq_iff`: it is the text itself if no
  character of it is such a line end.
* `perform_caption`: the program that draws a text does not fail, and draws it.
* **`run_draws_text`**: the run of a graph that draws a text does not fail, and draws the text as
  the program holds it.
-/

namespace Sketchflow

variable {rest steps : List Step} {m : Machine}

namespace Compile

open Graph List Script
open Listing (Step)

/-! ## A program that draws a text -/

/-- The canvas after a text was drawn. -/
def captioned (t : String) (c : Canvas) : Canvas :=
  (((((c.save.setStyle .font (.str "16px Arial")).setStyle .fillStyle (.str "#333333")).setStyle
    .textAlign (.str "left")).setStyle .textBaseline (.str "top")).record "fill_text"
      [.str t, .int 10, .int 20]).restore

def captionStmts (t : String) : List Stmt :=
  [perform "save" [], style "font" (.constant (.str "16px Arial")),
    style "fill_style" (.constant (.str "#333333")), style "text_align" (.constant (.str "left")),
    style "text_baseline" (.constant (.str "top")),
    perform "fill_text" [.constant (.str t), .constant (.int 10), .constant (.int 20)],
    perform "restore" []]

theorem execAll_caption {call : Call} (hdraws : Draws call) {scope : Scope}
    (t : String) (hnotes : m.canvas.notes = [])
    (hctx : ∀ c, (lookupName scope "ctx").run { m with canvas := c } =
      .ok (.handle .canvas) { m with canvas := c }) (rest : List Stmt) :
    (execAll call scope (captionStmts t ++ rest)).run m =
      (execAll call scope rest).run { m with canvas := captioned t m.canvas } := by
  obtain ⟨⟨_, _, _, _, _, notes⟩, _, _, _, _, _, _, _, _, _, _, _⟩ := m
  obtain rfl : notes = [] := hnotes
  simp only [captionStmts, cons_append, nil_append]
  rw [execAll_go (exec_perform hdraws (hctx _) rfl rfl rfl),
    execAll_go (exec_style (hctx _) rfl rfl),
    execAll_go (exec_style (hctx _) rfl rfl), execAll_go (exec_style (hctx _) rfl rfl),
    execAll_go (exec_style (hctx _) rfl rfl), execAll_go (exec_perform hdraws (hctx _) rfl rfl rfl),
    execAll_go (exec_perform hdraws (hctx _) rfl rfl rfl)]
  rfl

def captionBody (t : String) : List Stmt :=
  preambleStmts ++ (captionStmts t ++ [Stmt.give (some (.name "controls")), .skip])

/-- The machine after the program that draws a text. -/
def afterCaption (t : String) (m : Machine) : Machine :=
  { begun { m with names := Script.parameters } with
    canvas := captioned t (initialised m.canvas) }

theorem perform_preamble {body rest : List Stmt} (hbody : body = preambleStmts ++ rest)
    (hown : (ownNames body).contains "ctx" = true) (hnotes : m.canvas.notes = []) :
    (Script.perform ⟨programName, headerParameters, body⟩).run m =
      (execAll invoke { own := ownNames body } rest >>= fun signal => pure signal.result).run
        (begun { m with names := Script.parameters }) := by
  have hbegin := execAll_preamble invoke_draws hown (m := { m with names := Script.parameters })
    rfl hnotes rest
  rw [← hbody] at hbegin
  rw [perform_run, EStateM.run_bind, hbegin, EStateM.run_bind]

/-- **The program that draws a text does not fail, and draws it.** -/
theorem perform_caption (t : String) (hnotes : m.canvas.notes = []) :
    (Script.perform ⟨programName, headerParameters, captionBody t⟩).run m =
      .ok (.handle (.table .controls)) (afterCaption t m) := by
  have hbegun : (begun { m with names := Script.parameters }).canvas.notes = [] :=
    (begun_notes _).trans hnotes
  have hctx : (ownNames (captionBody t)).contains "ctx" = true := rfl
  have hbody : captionBody t = preambleStmts ++ _ := rfl
  rw [perform_preamble hbody hctx hnotes, EStateM.run_bind,
    execAll_caption invoke_draws t hbegun fun c => lookupName_own hctx rfl]
  rfl

/-! ## Graphs that draw a text -/

section

variable (spot : Int → Value × Value)

/-- A new node of the standard palette, at its spot. -/
def placed (type : String) (id : Int) : Node :=
  seed (instantiate ((Palette.standard.find? type).getD default) id type (spot id).1 (spot id).2)

/-- Place a node of a type, which will have this number. -/
def place (type : String) (id : Int) : Edit :=
  .create (.str type) (spot id).1 (spot id).2

/-- Edits that join a start node to a node that draws a text. -/
def pathEdits (tag : String) : List Edit :=
  [place spot "start" 1, place spot "drawText" 2,
    .connect tag (.int 1) (.str "out") (.int 2) (.str "in")]

def captionEdits (tag s : String) : List Edit :=
  pathEdits spot tag ++ [.setDefault (.int 2) (.str "text") (.str s)]

def labelEdits (tag other s : String) : List Edit :=
  pathEdits spot tag ++ [place spot "string" 3, .setProperty (.int 3) (.str "value") (.str s),
    .connect other (.int 3) (.str "value") (.int 2) (.str "text")]

/-- The graph of a start node and a node that draws a text. -/
def pathGraph (i : String) : Graph :=
  { nodes := [placed spot "start" 1, placed spot "drawText" 2]
    wires := [⟨.str i, 1, "out", 2, "in", .flow, .flow, .null, .null⟩]
    nextId := 3 }

def captionGraph (i s : String) : Graph :=
  { nodes := [placed spot "start" 1, withDefault (.str "text") (.str s) (placed spot "drawText" 2)]
    wires := [⟨.str i, 1, "out", 2, "in", .flow, .flow, .null, .null⟩]
    nextId := 3 }

/-- The graph of a text node that feeds a node that draws its text. -/
def labelGraph (i j s : String) : Graph :=
  { nodes := [placed spot "start" 1, placed spot "drawText" 2,
      { placed spot "string" 3 with properties := [("value", .str s)] }]
    wires := [⟨.str i, 1, "out", 2, "in", .flow, .flow, .null, .null⟩,
      ⟨.str j, 3, "value", 2, "text", .data, .data, .str "string", .str "string"⟩]
    nextId := 4 }

def captionInputs (s : String) : Inputs :=
  [("text", Json.literal s), ("x", "10"), ("y", "20"), ("color", "\"#333333\""),
    ("font", "\"16px Arial\"")]

/-- The plan of a graph that draws a text, and nothing else. -/
def captionPlan (n : Node) (s : String) : Plan :=
  ⟨[], [], some (.node (placed spot "start" 1) [] [] .stop .stop
    (.node n [] (captionInputs s) .stop .stop .stop)), none⟩

theorem edited_append (p : Palette) (edits more : List Edit) :
    edited p (edits ++ more) = (edited p edits).afterAll (more.map fun e => (p, e)) := by
  rw [edited, map_append, afterAll, foldl_append]
  rfl

theorem edited_pathEdits (tag : String) :
    ∃ i, edited .standard (pathEdits spot tag) = pathGraph spot i :=
  ⟨_, rfl⟩

theorem edited_captionEdits (tag s : String) :
    ∃ i, edited .standard (captionEdits spot tag s) = captionGraph spot i s := by
  obtain ⟨i, hpath⟩ := edited_pathEdits spot tag
  rw [captionEdits, edited_append, hpath]
  exact ⟨i, rfl⟩

theorem edited_labelEdits (tag other s : String) :
    ∃ i j, edited .standard (labelEdits spot tag other s) = labelGraph spot i j s := by
  obtain ⟨i, hpath⟩ := edited_pathEdits spot tag
  rw [labelEdits, edited_append, hpath]
  exact ⟨i, _, rfl⟩

end

/-! ## The program of such a graph -/

/-- A text as a program holds it. -/
def carried (s : String) : String :=
  String.ofList (spread true s.toList)

theorem reads_literal (s : String) :
    Reads (Json.literal s).toList (.constant (.str (carried s))) :=
  (operand_text s).mono fun h => h.unary.expr

theorem says_return : Says [.blank, .line "return controls"] [.give (some (.name "controls"))] :=
  says_blank.cons (says_give (heads_of_inline? (by decide) rfl rfl (by decide))
    (isPrimary_name "controls").expr)

/-- What stands in front of the line that draws a text. -/
def captionHead : List Step :=
  [.comment "Start node (ID 1) execution path", .line "ctx.save()",
    .line "ctx.font = \"16px Arial\"", .line "ctx.fill_style = \"#333333\"",
    .line "ctx.text_align = 'left'", .line "ctx.text_baseline = 'top'"]

section

variable {spot : Int → Value × Value} {n : Node} (htype : n.type = "drawText")

include htype

theorem captionPlan_steps (s limit : String) :
    (captionPlan spot n s).steps limit = preambleSteps ++
      .blank :: .comment "Key handlers and main program" ::
        .child 0 true (captionHead ++
          .line ("ctx.fill_text(" ++ Json.literal s ++ ", 10, 20)") :: [.line "ctx.restore()"]) ::
        [.blank, .line "return controls"] := by
  have hnode : nodeSteps limit n (captionInputs s) [] [] = captionHead.tail ++
      [.line ("ctx.fill_text(" ++ Json.literal s ++ ", 10, 20)"), .line "ctx.restore()"] := by
    have htail : ∀ t : String, t ++ ", " ++ "10" ++ ", " ++ "20" ++ ")" = t ++ ", 10, 20)" := by
      intro t
      rw [String.append_assoc, String.append_assoc, String.append_assoc, String.append_assoc]
      rfl
    rw [nodeSteps, htype, ← htail]
    rfl
  show preambleSteps ++ [] ++ [.blank, .comment "Key handlers and main program"] ++
    [.child 0 true (.comment "Start node (ID 1) execution path" ::
      (nodeSteps limit n (captionInputs s) [] [] ++ []))] ++ [.blank, .line "return controls"] = _
  rw [hnode]
  simp [captionHead]

theorem says_captionPlan (s limit : String) :
    Says ((captionPlan spot n s).steps limit)
      (preambleStmts ++ (captionStmts (carried s) ++ [Stmt.give (some (.name "controls"))])) := by
  have hcount : ∀ {text : String} {i : Int}, isOneLine text.toList = true →
      inline? text.toList = some [.number (.int i)] → Reads text.toList (.constant (.int i)) :=
    fun hline h => (forms_of_inline hline (inline_of_inline? h) rfl (isPrimary_number _).unary).reads
  have hfill : Says [.line ("ctx.fill_text(" ++ Json.literal s ++ ", 10, 20)")]
      [perform "fill_text" [.constant (.str (carried s)), .constant (.int 10),
        .constant (.int 20)]] :=
    says_ask (Json.literal s) ["10", "20"] (by simp [weave, callParts, commas])
      ⟨rfl, by decide, by decide⟩ (reads_literal s)
      (.cons (hcount (by decide) rfl) (.cons (hcount (by decide) rfl) .nil))
  rw [captionPlan_steps htype]
  refine says_preamble.append (says_blank.cons ((says_comment _).cons ?_))
  refine (Says.child ?_ : Says _ (captionStmts (carried s))).cons says_return
  refine (says_comment _).cons ((says_bare (by decide) rfl (by decide)).cons ?_)
  refine (says_style _ rfl rfl (by decide) (reads_literal "16px Arial")).cons ?_
  refine (says_style _ rfl rfl (by decide) (reads_literal "#333333")).cons ?_
  refine (says_style "'left'" (by simp) rfl (by decide) (reads_text "left" (by decide) rfl)).cons ?_
  refine (says_style "'top'" (by simp) rfl (by decide) (reads_text "top" (by decide) rfl)).cons ?_
  exact hfill.cons (says_bare (by decide) rfl (by decide))

end

/-! ## Lines -/

theorem heads_fillText (s : String) : ∃ ts, ts.length ≤ bracketBound ∧
    Heads ("ctx.fill_text(" ++ Json.literal s ++ ", 10, 20)") ts := by
  have htext : FormsBy (IsBrief 1) true (Json.literal s).toList _ := operand_text s
  obtain ⟨ts, hspells, hbalanced, hbrief⟩ := htext.tokens
  obtain ⟨_, hten⟩ : LiteralBy true "10" := literal_int (i := 10) rfl
  obtain ⟨us, hus, hub, hten⟩ := hten.tokens
  obtain ⟨_, htwenty⟩ : LiteralBy true "20" := literal_int (i := 20) rfl
  obtain ⟨vs, hvs, hvb, htwenty⟩ := htwenty.tokens
  refine ⟨weave [[.name "ctx", .op ".", .name "fill_text", .op "("], [.op ","], [.op ","], [.op ")"]]
    [ts, us, vs], ?_, ?_⟩
  · have h₁ := hbrief.brief
    have h₂ := hten.brief
    have h₃ := htwenty.brief
    have hbound : 30 ≤ bracketBound := by decide
    simp only [weave, length_append, length_cons, length_nil]
    omega
  · have hweave : ("ctx.fill_text(" ++ Json.literal s ++ ", 10, 20)").toList =
        weave (callParts "ctx" "fill_text" 2) [(Json.literal s).toList, "10".toList,
        "20".toList] := by
      simp [weave, callParts, commas]
    refine heads_weave hweave rfl rfl (.cons hspells (.cons hus (.cons hvs .nil))) ?_
      (by simp [callParts, length_commas]) ?_
    · simp only [forall_mem_cons]
      exact ⟨hbalanced, hub, hvb, by simp⟩
    · rw [String.toList_append, String.toList_append]
      rfl

/-- The lines that steps write fit. -/
def Fit (steps : List Step) : Prop :=
  ∀ line ∈ Listing.statementsAll 4 0 steps, lineFits (indentLine line.toList) = true

theorem fit_line {line : String} (h : lineFits (indentLine line.toList) = true)
    (hrest : Fit rest) : Fit (.line line :: rest) := by
  have hindented : Listing.indented 4 0 line = line := by simp [Listing.indented]
  intro other hother
  rw [Listing.statementsAll_cons, Listing.Step.statements, hindented, mem_append] at hother
  rcases hother with hother | hother
  · split at hother
    · rwa [mem_singleton.mp hother]
    · cases hother
  · exact hrest other hother

theorem Fit.append (h : Fit steps) (hrest : Fit rest) :
    Fit (steps ++ rest) := by
  intro line hline
  rw [Listing.statementsAll_append, mem_append] at hline
  exact hline.elim (h line) (hrest line)

theorem fit_child (h : Fit steps) (hrest : Fit rest) :
    Fit (.child 0 true steps :: rest) := by
  intro line hline
  rw [Listing.statementsAll_cons, Listing.Step.statements, if_pos rfl, Int.add_zero,
    mem_append] at hline
  exact hline.elim (h line) (hrest line)

theorem fit_short (h : (Listing.statementsAll 4 0 steps).all
    (fun line => decide ((indentLine line.toList).length ≤ bracketBound)) = true) : Fit steps :=
  fun line hline => lineFits_short (by simpa using all_eq_true.mp h line hline)

theorem fit_captionPlan {spot : Int → Value × Value} {n : Node} (htype : n.type = "drawText")
    (s limit : String) : Fit ((captionPlan spot n s).steps limit) := by
  obtain ⟨ts, hlen, hheads⟩ := heads_fillText s
  rw [captionPlan_steps htype]
  have hintro : Fit [.blank, .comment "Key handlers and main program"] := fit_short rfl
  refine Fit.append (fit_short (by decide +kernel)) (hintro.append ?_)
  refine fit_child (Fit.append (fit_short (by decide +kernel)) (fit_line (hheads.fits hlen) ?_)) ?_
  · exact fit_short (by decide +kernel)
  · exact fit_short (by decide +kernel)

/-- The texts of the program that draws a text, but for the line that does. -/
def captionTexts : List String :=
  Listing.textsAll (preambleSteps ++ captionHead ++
    [.comment "Key handlers and main program", .line "ctx.restore()", .line "return controls"])

theorem null_not_mem_captionPlan {spot : Int → Value × Value} {n : Node}
    (htype : n.type = "drawText") (s limit : String) :
    '\x00' ∉ (Listing.write ((captionPlan spot n s).steps limit) {}).render.toList := by
  obtain ⟨ts, -, hheads⟩ := heads_fillText s
  have hfixed : captionTexts.all (fun line => !line.toList.contains '\x00') = true := by
    decide +kernel
  refine Listing.render_write_lacks (by simp) fun line hline => ?_
  have hmem : line = "ctx.fill_text(" ++ Json.literal s ++ ", 10, 20)" ∨ line ∈ captionTexts := by
    rw [captionPlan_steps htype] at hline
    simp only [captionTexts, Listing.textsAll_append, Listing.textsAll, Step.texts, mem_append,
      mem_cons, not_mem_nil, or_false, false_or] at hline ⊢
    grind
  rcases hmem with rfl | hmem
  · exact hheads.spells.whole
  · simpa using all_eq_true.mp hfixed line hmem

/-! ## Which texts arrive whole -/

theorem isLineEnd_stringChar {c d : Char} (hc : isSoft c = false)
    (hd : d ∈ Json.stringChar false c) : Text.isLineEnd d = false := by
  rcases stringChar_cases c with ⟨hself, -, -, -, -, hend⟩ | ⟨k, hletter, -, hk, -,
    -⟩ | ⟨hlow, hunit⟩
  · rw [hself, mem_singleton] at hd
    rw [hd, hend, hc]
  · rw [hletter] at hd
    obtain rfl | rfl : d = '\\' ∨ d = k := by simpa using hd
    · decide
    · exact hk
  · have hall : ∀ n < 0x20, (Json.unitEscape n).all (fun d => !Text.isLineEnd d) = true := by decide
    rw [hunit] at hd
    simpa using all_eq_true.mp (hall _ hlow) d hd

theorem pad_quotedTail {cs : List Char} (h : ∀ c ∈ cs, isSoft c = false) :
    pad (quotedTail cs) = "    ".toList := by
  have hquote : Text.isLineEnd '"' = false ∧ Text.isBlank '"' = false := by decide
  have hwhole : (quotedTail cs).takeWhile (fun c => !Text.isLineEnd c) = quotedTail cs := by
    rw [takeWhile_eq_self_iff]
    intro d hd
    rw [Bool.not_eq_true']
    rcases mem_append.mp hd with hd | hd
    · obtain ⟨c, hc, hd⟩ := mem_flatMap.mp hd
      exact isLineEnd_stringChar (h c hc) hd
    · rw [mem_singleton.mp hd]
      exact hquote.1
  rw [pad, hwhole, quotedTail, all_append, all_cons, hquote.2, Bool.false_and,
    Bool.and_false, if_neg Bool.false_ne_true]

/-- The last soft line end of a text is followed by blanks. -/
theorem length_lt_spread {cs : List Char} (h : ∃ c ∈ cs, isSoft c = true) :
    cs.length < (spread true cs).length := by
  induction cs with
  | nil => simp at h
  | cons c cs ih =>
    rw [spread, Bool.true_and, length_cons, length_cons, length_append]
    by_cases hrest : ∃ c ∈ cs, isSoft c = true
    · have := ih hrest
      omega
    · have hhard : ∀ c ∈ cs, isSoft c = false := by simpa using hrest
      have hsoft : isSoft c = true := by
        obtain ⟨d, hd, hsoft⟩ := h
        rcases mem_cons.mp hd with rfl | hd
        · exact hsoft
        · exact absurd ⟨d, hd, hsoft⟩ hrest
      rw [hsoft, if_pos rfl, pad_quotedTail hhard, spread_eq (by simpa using hhard)]
      simp

theorem carried_eq_iff (s : String) : carried s = s ↔ ∀ c ∈ s.toList, isSoft c = false := by
  constructor
  · intro h
    by_contra hsoft
    have hlong : s.toList.length < (spread true s.toList).length :=
      length_lt_spread (by simpa using hsoft)
    rw [show spread true s.toList = s.toList from
      String.ofList_injective (by simpa [carried] using h)]
      at hlong
    exact Nat.lt_irrefl _ hlong
  · intro h
    rw [carried, spread_eq (by simpa using h), String.ofList_toList]

/-! ## Runs -/

theorem run_of_definition {text : String} {d : Script.Definition}
    (hnull : '\x00' ∉ text.toList) (hread : definition? (definitionText text) = some d)
    (hmarked : (markAll d.body).run m.nextMark = (d.body, m.nextMark)) :
    (Script.run text).run m = (Script.perform d).run m := by
  have hcontains : text.contains '\x00' = false := by
    rw [String.contains_char_eq, decide_eq_false_iff_not]
    exact hnull
  rw [Script.run, hcontains, hread]
  show (marked d >>= fun d => Script.perform d).run m = _
  rw [EStateM.run_bind]
  show (match EStateM.Result.ok ({ d with body := ((markAll d.body).run m.nextMark).1 } : Script.Definition)
      { m with nextMark := ((markAll d.body).run m.nextMark).2 } with
    | .ok a s => (Script.perform a).run s
    | .error e s => .error e s) = _
  rw [hmarked]

end Compile

namespace Session

open Compile Graph Script

/-- The run of a graph performs the statements that its plan says. -/
theorem run_of_says {session : Session} {p : Plan} {limit : String} {ss : List Stmt} {v : Value}
    (hstop : session.stop.1.isOk = true) (hlimit : session.settings.whileLimit.display = limit)
    (hplan : plan session.graph = .ok (some p)) (hsay : Says (p.steps limit) ss)
    (hfit : Fit (p.steps limit))
    (hnull : '\x00' ∉ (Listing.write (p.steps limit) {}).render.toList)
    (hshape : allWellShaped 0 (ss ++ [Stmt.skip]) = true)
    (hmarked : ∀ mark, (markAll (ss ++ [Stmt.skip])).run mark = (ss ++ [Stmt.skip], mark))
    (hperform : (Script.perform ⟨programName, headerParameters, ss ++ [Stmt.skip]⟩).run
      { session.prepare.machine with output := {} } = .ok v m) :
    ∃ outcome, session.run.1 = .ok outcome ∧ outcome.fault = none ∧ session.run.2.machine = m ∧
      session.run.2.controls = controlsOf m v := by
  have hprogram : generate session.graph session.settings.whileLimit.display =
      .ok (Listing.write (p.steps limit) {}).render := by
    rw [hlimit, generate_eq, hplan]
    rfl
  have hfits : linesFit (definitionText (Listing.write (p.steps limit) {}).render) = true := by
    obtain ⟨ts, hlays, -⟩ := hsay
    rw [hlays.linesFit]
    exact List.all_eq_true.mpr hfit
  have hread := definition?_written hsay hnull
  rw [hfits, hshape, Bool.and_self, if_pos rfl] at hread
  have hrun := run_of_definition (m := { session.prepare.machine with output := {} }) hnull hread
    (hmarked _)
  exact run_of_program hstop hprogram (hrun.trans hperform)

theorem run_caption {session : Session} {s tag other : String} {spot : Int → Value × Value}
    (hgraph : session.graph = edited .standard (captionEdits spot tag s) ∨
      session.graph = edited .standard (labelEdits spot tag other s))
    (hstop : session.stop.1.isOk = true) (hnotes : session.prepare.machine.canvas.notes = []) :
    ∃ outcome, session.run.1 = .ok outcome ∧ outcome.fault = none ∧
      session.run.2.machine.canvas.calls (.str "fill_text") =
        [[.str (carried s), .int 10, .int 20]] := by
  obtain ⟨n, htype, hplan⟩ : ∃ n, n.type = "drawText" ∧
      plan session.graph = .ok (some (captionPlan spot n s)) := by
    rcases hgraph with hgraph | hgraph
    · obtain ⟨i, hcaption⟩ := edited_captionEdits spot tag s
      rw [hgraph, hcaption]
      exact ⟨withDefault (.str "text") (.str s) (placed spot "drawText" 2), rfl, rfl⟩
    · obtain ⟨i, j, hlabel⟩ := edited_labelEdits spot tag other s
      rw [hgraph, hlabel]
      exact ⟨placed spot "drawText" 2, rfl, rfl⟩
  obtain ⟨outcome, hok, hfault, hmachine, -⟩ :=
    run_of_says hstop rfl hplan (says_captionPlan htype s _)
    (fit_captionPlan htype s _) (null_not_mem_captionPlan htype s _) rfl (fun _ => rfl)
    (perform_caption (carried s) hnotes)
  refine ⟨outcome, hok, hfault, ?_⟩
  rw [hmachine]
  show (captioned (carried s) (initialised session.stop.2.machine.canvas.reset)).calls _ = _
  cases session.stop.2.machine.canvas
  rfl

/-- **The run of a graph that draws a text does not fail, and draws the text as the program holds
it**, which is the text itself just if it has no soft line end. Only a program before it that ends
everything when it is stopped keeps it from running. -/
theorem run_draws_text (session : Session) (s tag other : String) (spot : Int → Value × Value)
    (hgraph : session.graph = edited .standard (captionEdits spot tag s) ∨
      session.graph = edited .standard (labelEdits spot tag other s))
    (hnotes : session.prepare.machine.canvas.notes = []) :
    (∃ f, session.stop.1 = .error f ∧ f.isFinal = true ∧ session.run.1 = .error (.ended f)) ∨
    ∃ outcome, session.run.1 = .ok outcome ∧ outcome.fault = none ∧
      session.run.2.machine.canvas.calls (.str "fill_text") =
        [[.str (carried s), .int 10, .int 20]] ∧
      (carried s = s ↔ ∀ c ∈ s.toList, isSoft c = false) := by
  cases hstop : session.stop.1 with
  | error f => exact .inl ⟨f, rfl, isFinal_of_stop hstop, by rw [run, hstop]⟩
  | ok stopped =>
    obtain ⟨outcome, hok, hfault, hcalls⟩ := run_caption hgraph (by rw [hstop]; rfl) hnotes
    exact .inr ⟨outcome, hok, hfault, hcalls, carried_eq_iff s⟩

def ofCaption (s : String) : Session :=
  { palette := .standard, settings := { workspaceDir := "" }
    graph := edited .standard (captionEdits (fun _ => (.int 0, .int 0)) "" s) }

/-- Quotes, line ends that are escaped, characters of one and of more units. -/
theorem run_draws_text_quoted :
    (ofCaption "say \"hé\"\n\x00😀").prepare.machine.canvas.notes = [] ∧
      ∃ outcome, (ofCaption "say \"hé\"\n\x00😀").run.1 = .ok outcome ∧ outcome.fault = none ∧
        (ofCaption "say \"hé\"\n\x00😀").run.2.machine.canvas.calls (.str "fill_text") =
          [[.str (carried "say \"hé\"\n\x00😀"), .int 10, .int 20]] ∧
        (carried "say \"hé\"\n\x00😀" = "say \"hé\"\n\x00😀" ↔
          ∀ c ∈ "say \"hé\"\n\x00😀".toList, isSoft c = false) := by
  refine ⟨rfl, (run_draws_text (ofCaption "say \"hé\"\n\x00😀") _ "" ""
    (fun _ => (.int 0, .int 0)) (.inl rfl) rfl).resolve_left ?_⟩
  rintro ⟨f, hstop, -⟩
  cases hstop

/-- A line separator is drawn with blanks after it. -/
theorem run_draws_separator : ∃ outcome, (ofCaption "a\u2028b").run.1 = .ok outcome ∧
    outcome.fault = none ∧ (ofCaption "a\u2028b").run.2.machine.canvas.calls (.str "fill_text") =
      [[.str "a\u2028    b", .int 10, .int 20]] := by
  have hcarried : carried "a\u2028b" = "a\u2028    b" := by decide
  let spot : Int → Value × Value := fun _ => (.int 0, .int 0)
  have hgraph : (ofCaption "a\u2028b").graph = edited .standard (captionEdits spot "" "a\u2028b") ∨
      (ofCaption "a\u2028b").graph = edited .standard (labelEdits spot "" "" "a\u2028b") := .inl rfl
  obtain ⟨outcome, hok, hfault, hcalls⟩ := run_caption hgraph rfl rfl
  exact ⟨outcome, hok, hfault, hcarried ▸ hcalls⟩

end Session

end Sketchflow
