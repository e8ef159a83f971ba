import Sketchflow.Proofs.Script.Written

/-!
# Listings as statements

The lines that calls write are statements, one after the other.

* `Says` says which statements calls write.
* **`definition?_written`**: what was written is the function with these statements, if its lines
  fit and its loops are not too deep.
-/

namespace Sketchflow.Script

open List

open Listing (Step lastAll write)

/-! ## Statements -/

inductive Sentences : List Token → List Stmt → Prop where
  | nil : Sentences [] []
  | cons {ts us : List Token} {s : Stmt} {ss : List Stmt} (h : IsStmt ts [s])
      (hstarts : StartsStmt ts) (hrest : Sentences us ss) : Sentences (ts ++ us) (s :: ss)

section

variable {ts us : List Token} {s : Stmt} {ss more : List Stmt}

theorem sentences_one (h : IsStmt ts [s]) (hstarts : StartsStmt ts) : Sentences ts [s] := by
  have hone := Sentences.cons h hstarts .nil
  rwa [append_nil] at hone

theorem Sentences.append (h : Sentences ts ss) (k : Sentences us more) :
    Sentences (ts ++ us) (ss ++ more) := by
  induction h with
  | nil => exact k
  | cons h hstarts _ ih =>
    rw [append_assoc]
    exact .cons h hstarts ih

theorem Sentences.isEmpty (h : Sentences ts ss) : ts.isEmpty = ss.isEmpty := by
  cases h with
  | nil => rfl
  | @cons ts us _ _ _ hstarts _ =>
    cases ts with
    | nil => exact hstarts.elim
    | cons t ts => rfl

theorem Sentences.areStmts (h : Sentences ts ss) (hne : ts ≠ []) : AreStmts ts ss := by
  induction h with
  | nil => exact absurd rfl hne
  | @cons ts us s ss h hstarts hrest ih =>
    cases us with
    | nil =>
      obtain rfl : ss = [] := isEmpty_iff.mp hrest.isEmpty.symm
      rw [append_nil]
      exact h.block hstarts
    | cons u us => exact AreStmts.cons h hstarts (ih (by simp))

theorem isStmt_pass : IsStmt [.keyword "pass", .newline] [.skip] := by
  have hsimple : IsSimple [.keyword "pass"] .skip := by
    intro x bound hb
    obtain ⟨bound, rfl⟩ : ∃ b, bound = b + 1 := ⟨bound - 1, by simp at hb; omega⟩
    rfl
  exact hsimple.stmt fun n x => rfl

end

/-! ## Lines -/

/-- A text that stands on a line of its own, and its tokens. -/
structure Heads (text : String) (ts : List Token) : Prop where
  spells : Spells text.toList ts
  balanced : Balanced ts
  begins : begins text.toList = true

theorem heads_of_inline? {text : String} {ts : List Token} (hline : isOneLine text.toList = true)
    (h : inline? text.toList = some ts) (hbalanced : bracketsAll [] ts = some [])
    (hbegins : begins text.toList = true) : Heads text ts :=
  ⟨spells_of_inline hline (inline_of_inline? h), balanced_of_bracketsAll hbalanced, hbegins⟩

theorem heads_weave {text : String} {fs : List (List Char)} {tss : List (List Token)}
    {texts : List (List Char)} {tas : List (List Token)} (htext : text.toList = weave fs texts)
    (hfs : segments? true fs = some tss) (hbalanced : bracketsAll [] tss.flatten = some [])
    (h : List.Forall₂ Spells texts tas) (hall : ∀ ta ∈ tas, Balanced ta)
    (hlen : fs.length = texts.length + 1) (hbegins : begins text.toList = true) :
    Heads text (weave tss tas) := by
  refine ⟨?_, fun brackets => ?_, hbegins⟩
  · rw [htext]
    exact (spells_weave hfs h hlen).1
  · rw [bracketsAll_of_balanced hall brackets (by rw [length_segments? hfs, hlen, h.length_eq])]
    exact balanced_of_bracketsAll hbalanced brackets

theorem heads_phrase {text : String} {fs : List (List Char)} {tss : List (List Token)}
    {texts : List (List Char)} {es : List Expr} (htext : text.toList = weave fs texts)
    (hfs : segments? true fs = some tss) (hbalanced : bracketsAll [] tss.flatten = some [])
    (h : List.Forall₂ Reads texts es) (hlen : fs.length = texts.length + 1)
    (hbegins : ∀ f ∈ fs.head?, begins f = true) :
    ∃ tas, List.Forall₂ IsExpr tas es ∧ Heads text (weave tss tas) := by
  obtain ⟨tas, hspells, hall, hexprs⟩ := FormsBy.forall₂ h
  refine ⟨tas, hexprs, heads_weave htext hfs hbalanced hspells hall hlen ?_⟩
  rw [htext]
  cases fs with
  | nil => simp at hlen
  | cons f fs =>
    have hf := hbegins f rfl
    cases f with
    | nil => cases hf
    | cons c f => cases texts <;> exact hf

/-! ## What calls say -/

/-- The statements that calls write. -/
def Says (steps : List Step) (ss : List Stmt) : Prop :=
  ∃ ts, Lays steps ts ∧ Sentences ts ss

section

variable {a b : List Step} {ss more : List Stmt} {text : String} {ts : List Token}

theorem Says.append (ha : Says a ss) (hb : Says b more) : Says (a ++ b) (ss ++ more) := by
  obtain ⟨ta, hta, hsa⟩ := ha
  obtain ⟨tb, htb, hsb⟩ := hb
  exact ⟨ta ++ tb, hta.append htb, hsa.append hsb⟩

theorem Says.cons {step : Step} (hs : Says [step] ss) (hb : Says b more) :
    Says (step :: b) (ss ++ more) :=
  hs.append hb

theorem says_blank : Says [.blank] [] :=
  ⟨[], lays_blank, .nil⟩

theorem says_comment (text : String) : Says [.comment text] [] :=
  ⟨[], lays_comment text, .nil⟩

theorem Says.child (h : Says a ss) : Says [.child 0 true a] ss := by
  obtain ⟨ts, hts, hs⟩ := h
  exact ⟨ts, hts.child, hs⟩

/-- Whether the parser takes a line for a statement without a body, and for nothing that goes on a
conditional. -/
structure StartsLine (ts : List Token) : Prop where
  simple : StartsSimple ts
  stmt : ∀ x, StartsStmt (ts ++ x)

theorem says_line {s : Stmt} (h : Heads text ts) (hs : IsSimple ts s) (hstarts : StartsLine ts) :
    Says [.line text] [s] :=
  ⟨ts ++ [Token.newline], lays_line h.spells h.balanced h.begins,
    sentences_one (hs.stmt hstarts.simple) (hstarts.stmt _)⟩

end

/-! ## Kinds of lines -/

theorem isExpr_of_expr? {ts : List Token} {e : Expr} {k : Nat} (h : expr? k ts = some (e, [])) :
    IsExpr ts e :=
  (expr?_read h).yields

section

variable {text : String} {name : String} {ts us : List Token} {e target : Expr} {t : Target}

theorem startsLine_name (name : String) (ts : List Token) : StartsLine (.name name :: ts) :=
  ⟨fun _ _ => rfl, fun _ => trivial⟩

theorem simple?_name (name : String) (ts : List Token) (n : Nat) (x : List Token) :
    simple? n (Token.name name :: ts ++ x) = exprStmt? n (Token.name name :: ts ++ x) := by
  cases n <;> rfl

theorem says_expr (h : Heads text (.name name :: ts)) (he : IsExpr (.name name :: ts) e) :
    Says [.line text] [.expr e] :=
  says_line h (isSimple_expr he (simple?_name name ts)) (startsLine_name name ts)

theorem says_assign (h : Heads text ((Token.name name :: ts) ++ Token.op "=" :: us))
    (ht : IsExpr (.name name :: ts) target) (htarget : target? target = some t)
    (he : IsExpr us e) : Says [.line text] [.assign [t] e] :=
  says_line h (isSimple_assign ht htarget he (simple?_name name ts)) (startsLine_name name _)

end

theorem says_import {library : String} (h : Heads text [.keyword "import", .name library]) :
    Says [.line text] [.load library] :=
  says_line h (fun _ _ _ => rfl) ⟨fun _ _ => rfl, fun _ =>
    show "import" ≠ "elif" ∧ "import" ≠ "else" by decide⟩

theorem says_give (h : Heads text (.keyword "return" :: .name name :: ts))
    (he : IsExpr (.name name :: ts) e) : Says [.line text] [.give (some e)] := by
  refine says_line h (fun x bound hb => ?_) ⟨fun _ _ => rfl, fun _ => ⟨by decide, by decide⟩⟩
  have hread := exprs?_expr he (x := .newline :: x) rfl rfl
    (show 24 * (Token.name name :: ts).length + 14 ≤ bound by simp at hb ⊢; omega)
  have hsimple : simple? bound (.keyword "return" :: .name name :: ts ++ Token.newline :: x) =
      (exprs? bound (Token.name name :: ts ++ Token.newline :: x)).map fun r =>
        (.give (some r.1), r.2) := rfl
  rw [hsimple, hread, Option.map_some]

/-! ## Programs -/

theorem Lined.dropEnd {read : List Char → List Char} {a b : List (List Char)}
    (hb : ∀ line ∈ b, line = []) : ∀ {rows : List Row}, Lined read (a ++ b) rows →
      Lined read a rows := by
  induction a with
  | nil =>
    intro rows h
    rw [nil_append] at h
    induction h with
    | nil => exact .nil
    | skip _ _ ih => exact ih fun line hl => hb line (mem_cons_of_mem _ hl)
    | code hl _ _ =>
      obtain ⟨c, cs, hline, -⟩ := hl.shape
      rw [hb _ (mem_cons_self ..)] at hline
      exact absurd hline.symm (by simp)
  | cons line a ih =>
    intro rows h
    cases h with
    | skip hl h => exact .skip hl (ih h)
    | code hl h => exact .code hl (ih h)

theorem dropEmptyEnd_append (lines : List String) :
    ∃ tail : List String, lines = Listing.dropEmptyEnd lines ++ tail ∧ ∀ t ∈ tail, t = "" := by
  refine ⟨(lines.reverse.takeWhile (· == "")).reverse, ?_, fun t ht => ?_⟩
  · rw [Listing.dropEmptyEnd, ← reverse_append, takeWhile_append_dropWhile,
      reverse_reverse]
  · have hmem := mem_takeWhile_imp (mem_reverse.mp ht)
    simpa using hmem

theorem join_lines (lines : List String) :
    String.join (lines.map (· ++ "\n")) = String.ofList (joinLines (lines.map String.toList)) := by
  refine String.toList_injective ?_
  rw [String.toList_join, String.toList_ofList, joinLines, flatMap_map, flatMap_map]
  simp only [String.toList_append]
  rfl

/-- The text of a listing: its lines, the statements among them, and their rows. -/
theorem Lays.render {steps : List Step} {ts : List Token} (h : Lays steps ts) :
    ∃ (lines : List String) (rows : List Row),
      (write steps {}).render = String.ofList (joinLines (lines.map String.toList)) ∧
      Lined soften (lines.map String.toList) rows ∧
      lines.filter Listing.isStatement = Listing.statementsAll 4 0 steps ∧
      Region 1 (rows.map (Row.lift 1)) ts := by
  have hlasts := h.lasts
  obtain ⟨rows, h⟩ := h
  obtain ⟨⟨-, hlines⟩, -⟩ := h 0
  obtain ⟨-, hregion⟩ := h 1
  obtain ⟨added, hadded, hlined⟩ := hlines {} rfl rfl
  have hlift : rows.map (Row.lift 0) = rows := map_id rows
  rw [hlift] at hlined
  obtain ⟨tail, htail, hempty⟩ := dropEmptyEnd_append added
  refine ⟨Listing.dropEmptyEnd added, rows, ?_, ?_, ?_, hregion⟩
  · rw [Listing.render, hadded, ← join_lines]
    rfl
  · rw [htail, map_append] at hlined
    refine hlined.dropEnd fun line hl => ?_
    obtain ⟨t, ht, rfl⟩ := mem_map.mp hl
    rw [hempty t ht]
    rfl
  · obtain ⟨other, hother, hstatements⟩ := (Listing.write_adds hlasts {}).lines
    have hnone : tail.filter Listing.isStatement = [] :=
      filter_eq_nil_iff.mpr fun t ht => by rw [hempty t ht]; decide
    obtain rfl : added = other := append_cancel_left (hadded.symm.trans hother)
    have hall : added.filter Listing.isStatement = Listing.statementsAll 4 0 steps := hstatements
    rw [htail, filter_append, hnone, append_nil] at hall
    exact hall

theorem Lays.linesFit {steps : List Step} {ts : List Token} (h : Lays steps ts) :
    linesFit (definitionText (write steps {}).render) =
      (Listing.statementsAll 4 0 steps).all fun s => lineFits (indentLine s.toList) := by
  obtain ⟨lines, rows, hrender, hlined, hstatements, -⟩ := h.render
  rw [hrender, linesFit_definitionText hlined.clean, ← hstatements, ← hlined.all_fit, all_map]
  rfl

theorem lineFits_short {line : List Char} (h : line.length ≤ bracketBound) :
    lineFits line = true := by
  have hindent : bracketBound ≤ 4 * indentBound := by decide
  have hdrop := (dropWhile_suffix (fun c : Char => c == ' ') (l := line)).length_le
  have hdeep : (inline? (line.dropWhile (· == ' '))).all
      (fun ts => decide (deepest 0 ts ≤ bracketBound)) = true := by
    cases hts : inline? (line.dropWhile (· == ' ')) with
    | none => rfl
    | some ts =>
      have hlen := length_inlineWithin hts
      have := deepest_le 0 ts
      exact decide_eq_true (by omega)
  rw [lineFits, Bool.or_eq_true, Bool.and_eq_true, hdeep, decide_eq_true_eq]
  exact .inr ⟨by omega, rfl⟩

theorem Heads.fits {text : String} {ts : List Token} (h : Heads text ts)
    (hlen : ts.length ≤ bracketBound) : lineFits (indentLine text.toList) = true := by
  have hcode : Code id (indentLine text.toList) (1, ts) :=
    (h.spells.code h.balanced h.begins 0).indentLine
  have hdeep : deepest 0 ts ≤ bracketBound := by
    have := deepest_le 0 ts
    omega
  rw [hcode.lineFits, Row.fits, Bool.and_eq_true, decide_eq_true_eq, decide_eq_true_eq]
  exact ⟨show 1 ≤ indentBound by decide, hdeep⟩

/-- **What was written is the function with the statements that its tokens are**, and after them
the `pass` that ends every program, if its lines fit and its loops are not too deep. -/
theorem definition?_written {steps : List Step} {ss : List Stmt} (h : Says steps ss)
    (hnull : Char.ofNat 0 ∉ (write steps {}).render.toList) :
    definition? (definitionText (write steps {}).render) =
      if linesFit (definitionText (write steps {}).render) && allWellShaped 0 (ss ++ [Stmt.skip])
      then some ⟨programName, headerParameters, ss ++ [Stmt.skip]⟩ else none := by
  obtain ⟨ts, hlays, hs⟩ := h
  obtain ⟨lines, rows, hrender, hlined, -, hregion⟩ := hlays.render
  have hnull' : ∀ line ∈ lines.map String.toList, Char.ofNat 0 ∉ line := by
    intro line hl hc
    refine hnull ?_
    rw [hrender, String.toList_ofList]
    exact mem_flatMap.mpr ⟨line, hl, mem_append_left _ hc⟩
  have hpassRow := region_line 1 [.keyword "pass"]
  have hbody := (hregion.append hpassRow)
  have hblock : Region 0 (definitionRows rows)
      (headerTokens ++ blockTokens (ts ++ [Token.keyword "pass", .newline])) :=
    Region.block hbody (by simp) headerTokens
  have hclimbs : Climbs 0 (definitionRows rows) := by
    have := hblock.climbs [] (by simp [Lands]) trivial
    rwa [append_nil] at this
  have hlayout : layout 0 (definitionRows rows) =
      headerTokens ++ blockTokens (ts ++ [Token.keyword "pass", .newline]) := by
    have := hblock.tokens [] (by simp [Lands])
    rw [append_nil] at this
    simpa [layout, shift] using this
  have hstmts : AreStmts (ts ++ [Token.keyword "pass", .newline]) (ss ++ [Stmt.skip]) := by
    have hpass : Sentences [.keyword "pass", .newline] [.skip] :=
      sentences_one isStmt_pass ⟨by decide, by decide⟩
    exact (hs.append hpass).areStmts (by simp)
  have htokens := tokens?_definitionText hlined hclimbs hnull'
  rw [hlayout, ← hrender] at htokens
  cases hfits : linesFit (definitionText (write steps {}).render) with
  | false =>
    rw [hfits] at htokens
    simp [definition?, htokens]
  | true =>
    rw [hfits] at htokens
    rw [definition?_of_tokens htokens hstmts]
    rfl

end Sketchflow.Script
