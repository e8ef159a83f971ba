import Sketchflow.Proofs.Script.Layout
import Sketchflow.Proofs.Script.Statements
import Sketchflow.Script.Program

/-!
# The text of a program as a body

The text of a program is indented by one level and put under the header of a function. That moves
every line of code in by one level. It also moves in what follows a line end inside a quoted text.

* `soften` is a text with what follows its line ends moved in, `indentLine` a whole line.
* **`tokens?_definitionText`**: the tokens of a program are the layout of its rows, one level in,
  between the header and a `pass`, if its lines fit.
* **`definition?_of_tokens`**: a program with these tokens is the function with these statements.
-/

namespace Sketchflow.Script

open List Text

variable {c : Char} {cs line : List Char}

/-! ## Indenting a text -/

/-- What a line that starts here is moved in by: nothing if it is blank up to its end. -/
def pad (cs : List Char) : List Char :=
  if (cs.takeWhile fun c => !isLineEnd c).all isBlank then [] else "    ".toList

/-- A text with what follows each of its line ends moved in. -/
def soften : List Char → List Char
  | [] => []
  | c :: cs => c :: ((if isLineEnd c then pad cs else []) ++ soften cs)

/-- A line one level further in; a blank one stays as it is. -/
def indentLine (line : List Char) : List Char :=
  pad line ++ soften line

theorem isBlank_of_isLineEnd (h : isLineEnd c = true) : isBlank c = true := by
  simp only [isLineEnd, Bool.or_eq_true, Bool.and_eq_true, decide_eq_true_eq, beq_iff_eq] at h
  simp only [isBlank, Bool.or_eq_true, Bool.and_eq_true, decide_eq_true_eq, beq_iff_eq]
  omega

theorem flatMap_cutLinesFrom (h : '\r' ∉ cs) (acc : List Char) (done : List (List Char)) :
    ((cutLinesFrom acc done cs).flatMap fun l =>
        if l.all isBlank then l else "    ".toList ++ l) =
      (done.reverse.flatMap fun l => if l.all isBlank then l else "    ".toList ++ l) ++
        ((if (acc.reverse ++ cs.takeWhile fun c => !isLineEnd c).all isBlank then []
          else "    ".toList) ++ (acc.reverse ++ soften cs)) := by
  induction cs generalizing acc done with
  | nil =>
    generalize "    ".toList = margin
    cases acc with
    | nil => simp [cutLinesFrom, soften]
    | cons a acc =>
      simp only [cutLinesFrom, isEmpty_cons, Bool.false_eq_true, if_false,
        reverse_cons, flatMap_append, flatMap_cons, flatMap_nil,
        append_nil, soften, takeWhile_nil]
      split <;> simp
  | cons c cs ih =>
    have hcs : '\r' ∉ cs := fun hm => h (mem_cons_of_mem _ hm)
    have hc : (c == '\r') = false := beq_eq_false_iff_ne.mpr fun he => h (he ▸ mem_cons_self ..)
    rw [cutLinesFrom]
    cases hend : isLineEnd c with
    | true =>
      have hblank := isBlank_of_isLineEnd hend
      rw [if_pos (by simp [hc]), ih hcs, soften, pad]
      generalize "    ".toList = margin
      simp only [reverse_cons, flatMap_append, flatMap_cons, flatMap_nil,
        append_nil, all_append, all_cons, hblank, all_nil, Bool.and_true,
        reverse_nil, nil_append, takeWhile_cons, hend, Bool.not_true,
        Bool.false_eq_true, if_false, if_true, append_assoc]
      split <;> simp
    | false =>
      rw [if_neg (by simp only [Bool.false_and]; exact Bool.false_ne_true), ih hcs, soften]
      generalize "    ".toList = margin
      simp [hend]

theorem indentLines_eq (h : '\r' ∉ cs) :
    indentLines "    ".toList cs = pad cs ++ soften cs := by
  rw [indentLines, cutLines, flatMap_cutLinesFrom h]
  rfl

theorem pad_line (line rest : List Char) : pad (line ++ '\n' :: rest) = pad line := by
  have htake : (line ++ '\n' :: rest).takeWhile (fun c => !isLineEnd c) =
      line.takeWhile fun c => !isLineEnd c := by
    induction line with
    | nil =>
      have hend : isLineEnd '\n' = true := by decide
      simp [hend]
    | cons c line ih => simp [takeWhile_cons, ih]
  rw [pad, htake, pad]

theorem soften_line (line rest : List Char) :
    soften (line ++ '\n' :: rest) = soften line ++ '\n' :: (pad rest ++ soften rest) := by
  induction line with
  | nil =>
    have hend : isLineEnd '\n' = true := by decide
    simp [soften, hend]
  | cons c line ih => simp [soften, ih, pad_line]

theorem indentLines_joinLines {lines : List (List Char)} (h : ∀ line ∈ lines, IsClean line) :
    indentLines "    ".toList (joinLines lines) = joinLines (lines.map indentLine) := by
  have hclean : '\r' ∉ joinLines lines := by
    intro hm
    obtain ⟨line, hline, hc⟩ := mem_flatMap.mp hm
    rcases mem_append.mp hc with hc | hc
    · exact (h line hline).2 hc
    · exact absurd (mem_singleton.mp hc) (by decide)
  rw [indentLines_eq hclean]
  clear hclean h
  induction lines with
  | nil => rfl
  | cons line lines ih =>
    rw [joinLines_cons, pad_line, soften_line, ih, map_cons, joinLines_cons, indentLine]
    simp

theorem soften_of_clean (h : ∀ c ∈ cs, isLineEnd c = false) :
    soften cs = cs := by
  induction cs with
  | nil => rfl
  | cons c cs ih =>
    rw [soften, h c (mem_cons_self ..), ih fun d hd => h d (mem_cons_of_mem _ hd)]
    simp

theorem eq_of_mem_pad (h : c ∈ pad cs) : c = ' ' := by
  unfold pad at h
  split at h
  · cases h
  · simpa using h

theorem mem_soften (h : c ∈ soften cs) : c ∈ cs ∨ c = ' ' := by
  induction cs with
  | nil => exact .inl h
  | cons d cs ih =>
    rw [soften, mem_cons, mem_append] at h
    rcases h with rfl | h | h
    · exact .inl (mem_cons_self ..)
    · split at h
      · exact .inr (eq_of_mem_pad h)
      · cases h
    · exact (ih h).imp_left (mem_cons_of_mem _)

theorem plainLines_eq (h : '\r' ∉ cs) (done : List Char) :
    plainLines done cs = done.reverse ++ cs := by
  induction cs generalizing done with
  | nil => simp [plainLines]
  | cons c cs ih =>
    have hc : c ≠ '\r' := fun he => h (he ▸ mem_cons_self ..)
    rw [plainLines, ih (fun hm => h (mem_cons_of_mem _ hm))]
    · simp
    · exact fun _ he => absurd he hc
    · exact hc

/-! ## Moving in by one level -/

/-- A row some levels further in. -/
def Row.lift (levels : Nat) (row : Row) : Row :=
  (row.1 + levels, row.2)

theorem indentLine_blanks {count : Nat} (hc : isBlank c = false)
    (cs : List Char) : indentLine (List.replicate count ' ' ++ c :: cs) =
      List.replicate (count + 4) ' ' ++ soften (c :: cs) := by
  have hnot : isLineEnd c = false := by
    cases hend : isLineEnd c with
    | false => rfl
    | true => rw [isBlank_of_isLineEnd hend] at hc; cases hc
  have hspace : isLineEnd ' ' = false := by decide
  have hpad : pad (List.replicate count ' ' ++ c :: cs) = "    ".toList := by
    rw [pad, if_neg]
    rw [takeWhile_append_of_pos (by simp [hspace]), takeWhile_cons_of_pos (by simp [hnot])]
    simp [hc]
  have hsoften : soften (List.replicate count ' ' ++ c :: cs) =
      List.replicate count ' ' ++ soften (c :: cs) := by
    clear hpad
    induction count with
    | zero => rfl
    | succ count ih => simp [replicate_succ, soften, hspace, ih]
  rw [indentLine, hpad, hsoften, Nat.add_comm, replicate_add, append_assoc]
  rfl

theorem mem_indentLine (h : c ∈ indentLine line) :
    c ∈ line ∨ c = ' ' :=
  (mem_append.mp h).elim (fun hc => .inr (eq_of_mem_pad hc)) mem_soften

theorem IsClean.indentLine (h : IsClean line) : IsClean (indentLine line) :=
  ⟨fun hc => (mem_indentLine hc).elim h.1 (by decide),
    fun hc => (mem_indentLine hc).elim h.2 (by decide)⟩

theorem Skipped.indentLine (h : Skipped line) : Skipped (indentLine line) := by
  refine ⟨h.clean.indentLine, ?_⟩
  rcases h.shape with rfl | ⟨count, cs, rfl⟩
  · exact .inl rfl
  · exact .inr ⟨count + 4, _, indentLine_blanks (by decide) cs⟩

theorem Code.indentLine {row : Row} (h : Code soften line row) :
    Code id (indentLine line) (row.lift 1) := by
  refine ⟨h.clean.indentLine, ?_, h.balanced⟩
  obtain ⟨c, cs, rfl, hc, hin⟩ := h.shape
  exact ⟨c, _, indentLine_blanks hc cs, hc, hin⟩

theorem Lined.indentLines {lines : List (List Char)} {rows : List Row}
    (h : Lined soften lines rows) : Lined id (lines.map indentLine) (rows.map (Row.lift 1)) := by
  induction h with
  | nil => exact .nil
  | skip hl _ ih => exact .skip hl.indentLine ih
  | code hl _ ih => exact .code hl.indentLine ih

section

variable {read : List Char → List Char} {lines more : List (List Char)} {rows others : List Row}

theorem Lined.append (h : Lined read lines rows) (k : Lined read more others) :
    Lined read (lines ++ more) (rows ++ others) := by
  induction h with
  | nil => exact k
  | skip hl _ ih => exact .skip hl ih
  | code hl _ ih => exact .code hl ih

theorem Lined.clean (h : Lined read lines rows) : ∀ line ∈ lines, IsClean line := by
  induction h with
  | nil => simp
  | skip hl _ ih => exact forall_mem_cons.mpr ⟨hl.clean, ih⟩
  | code hl _ ih => exact forall_mem_cons.mpr ⟨hl.clean, ih⟩

end

/-! ## The definition -/

def headerTokens : List Token :=
  [.keyword "def", .name "nodecanvas_program", .op "(", .name "ctx", .op ",", .name "variables",
    .op ",", .name "runtime", .op ")", .op ":"]

def definitionRows (rows : List Row) : List Row :=
  (0, headerTokens) :: (rows.map (Row.lift 1) ++ [(1, [Token.keyword "pass"])])

theorem joinLines_append (lines more : List (List Char)) :
    joinLines (lines ++ more) = joinLines lines ++ joinLines more := by
  simp [joinLines]

def definitionLines (lines : List (List Char)) : List (List Char) :=
  "def nodecanvas_program(ctx, variables, runtime):".toList ::
    (lines.map indentLine ++ [[], "    pass".toList])

theorem definitionText_joinLines {lines : List (List Char)} (h : ∀ line ∈ lines, IsClean line) :
    definitionText (String.ofList (joinLines lines)) = joinLines (definitionLines lines) := by
  have hbody : indentLines "    ".toList (String.ofList (joinLines lines)).toList =
      joinLines (lines.map indentLine) :=
    (congrArg _ String.toList_ofList).trans (indentLines_joinLines h)
  have hheader : ("def " ++ programName ++ "(" ++ joinWith ", " programParameters
      ++ "):\n").toList = "def nodecanvas_program(ctx, variables, runtime):".toList ++ ['\n'] := by
    decide +kernel
  have hend : "\n    pass\n".toList = joinLines [[], "    pass".toList] := by decide +kernel
  unfold definitionText definitionLines
  rw [hbody, hheader, hend, ← joinLines_append, joinLines_cons, append_assoc]
  rfl

theorem lined_definition {lines : List (List Char)} {rows : List Row}
    (h : Lined soften lines rows) : Lined id (definitionLines lines) (definitionRows rows) := by
  have hheader : Code id "def nodecanvas_program(ctx, variables, runtime):".toList
      (0, headerTokens) := by
    refine ⟨⟨by decide, by decide⟩, ⟨'d', _, rfl, by decide, inline_of_inline? rfl⟩, ?_⟩
    exact fun brackets => rfl
  have hpass : Code id "    pass".toList (1, [.keyword "pass"]) := by
    refine ⟨⟨by decide, by decide⟩, ⟨'p', _, rfl, by decide, inline_of_inline? rfl⟩, ?_⟩
    exact fun brackets => rfl
  have hend : Lined id [[], "    pass".toList] [(1, [Token.keyword "pass"])] :=
    .skip ⟨by simp [IsClean], .inl rfl⟩ (.code hpass .nil)
  exact .code hheader (h.indentLines.append hend)

theorem mem_definitionLines {lines : List (List Char)}
    (hc : c ∈ joinLines (definitionLines lines)) : (∃ line ∈ lines, c ∈ line) ∨
      c ∈ "def nodecanvas_program(ctx, variables, runtime):\n    pass\n".toList := by
  have htext : "def nodecanvas_program(ctx, variables, runtime):\n    pass\n".toList =
      "def nodecanvas_program(ctx, variables, runtime):".toList ++ '\n' :: ("    pass".toList ++
        ['\n']) := by decide +kernel
  obtain ⟨line, hline, hc⟩ := mem_flatMap.mp hc
  simp only [definitionLines, mem_cons, mem_append, mem_map, not_mem_nil,
    or_false] at hline hc
  rw [htext]
  rcases hc with hc | rfl
  · rcases hline with rfl | ⟨line, hline, rfl⟩ | rfl | rfl
    · exact .inr (mem_append_left _ hc)
    · rcases mem_indentLine hc with hc | rfl
      · exact .inl ⟨line, hline, hc⟩
      · exact .inr (by decide +kernel)
    · cases hc
    · exact .inr (mem_append_right _ (mem_cons_of_mem _ (mem_append_left _ hc)))
  · exact .inr (mem_append_right _ (mem_cons_self ..))

/-- **The tokens of a program are the layout of its rows, one level in**, if its lines fit. -/
theorem tokens?_definitionText {lines : List (List Char)} {rows : List Row}
    (h : Lined soften lines rows) (hclimbs : Climbs 0 (definitionRows rows))
    (hnull : ∀ line ∈ lines, Char.ofNat 0 ∉ line) :
    tokens? (definitionText (String.ofList (joinLines lines))) =
      if linesFit (definitionText (String.ofList (joinLines lines))) then
        some (layout 0 (definitionRows rows))
      else none := by
  have hreturn : '\r' ∉ joinLines (definitionLines lines) := fun hc =>
    (mem_definitionLines hc).elim (fun ⟨line, hline, hc⟩ => (h.clean line hline).2 hc) (by decide)
  have hzero : Char.ofNat 0 ∉ joinLines (definitionLines lines) := fun hc =>
    (mem_definitionLines hc).elim (fun ⟨line, hline, hc⟩ => hnull line hline hc) (by decide)
  have hlined := lined_definition h
  have hlex : Lexes true (atLine 0 []) _ _ := lexes_lines hlined (Nat.zero_le _) hclimbs
  rw [← hlined.all_fits, ← linesFit_joinLines fun line hl => (hlined.clean line hl).1] at hlex
  rw [tokens?, definitionText_joinLines h.clean, if_neg, plainLines_eq hreturn]
  · exact hlex _ (by simp)
  · rw [contains_iff_mem]
    exact hzero

theorem linesFit_definitionText {lines : List (List Char)} (h : ∀ line ∈ lines, IsClean line) :
    linesFit (definitionText (String.ofList (joinLines lines))) =
      lines.all fun line => lineFits (indentLine line) := by
  have hfeed : ∀ line ∈ definitionLines lines, '\n' ∉ line := by
    intro line hl
    simp only [definitionLines, mem_cons, mem_append, mem_map, not_mem_nil,
      or_false] at hl
    rcases hl with rfl | ⟨line, hl, rfl⟩ | rfl | rfl
    · decide
    · exact (h line hl).indentLine.1
    · simp
    · decide
  have hheader : lineFits "def nodecanvas_program(ctx, variables, runtime):".toList = true := by
    decide
  have hend : [[], "    pass".toList].all lineFits = true := by decide
  rw [definitionText_joinLines h, linesFit_joinLines hfeed, definitionLines, all_cons, hheader,
    all_append, hend, Bool.true_and, Bool.and_true, all_map]
  rfl

def headerParameters : List (String × Option Expr) :=
  [("ctx", none), ("variables", none), ("runtime", none)]

/-- **A program with these tokens is the function with these statements**, if its loops are not too
deep. -/
theorem definition?_of_tokens {ts : List Token} {body : List Stmt}
    (ht : tokens? cs = some (headerTokens ++ blockTokens ts)) (h : AreStmts ts body) :
    definition? cs = if allWellShaped 0 body then
      some ⟨programName, headerParameters, body⟩ else none := by
  let ps : List Token := [.name "ctx", .op ",", .name "variables", .op ",", .name "runtime",
    .op ")"]
  have hparams : ∀ {x bound}, 24 * ps.length ≤ bound →
      parameters? bound (ps ++ x) = some (headerParameters, x) := by
    intro x bound hb
    obtain ⟨bound, rfl⟩ : ∃ b, bound = b + 3 := ⟨bound - 3, by simp [ps] at hb; omega⟩
    simp [ps, parameters?, parameters?.finishParameter, headerParameters]
  have hstmt : IsStmt (headerTokens ++ blockTokens ts)
      [.define programName headerParameters body] := isStmt_def hparams h
  have hbound : 24 * (headerTokens ++ blockTokens ts).length ≤
      parseBound (headerTokens ++ blockTokens ts).length := by
    simp only [parseBound]
    omega
  have hread := hstmt [] _ trivial hbound
  rw [append_nil] at hread
  simp only [definition?, ht, Option.bind_eq_bind, Option.bind_some, hread]

end Sketchflow.Script
