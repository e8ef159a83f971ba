import Sketchflow.Proofs.Listing
import Sketchflow.Proofs.Script.Inline

/-!
# Lines and their indentation

The lines of a program, one after the other, with the indents and dedents between them.

* `Row` is a line of code: its level and its tokens. `layout` are the tokens of rows, with what
  stands between them.
* `Lined` relates the lines of a text to its rows; empty lines and comments have none.
* **`lexes_lines`**: reading lines gives the layout of their rows, if all of them fit, and nothing
  otherwise.
-/

namespace Sketchflow.Script

open List

variable {c : Char} {lines : List (List Char)}

/-- A line of code: its level, and its tokens. -/
abbrev Row := Nat × List Token

/-- The indentations around a line of a level, innermost first. -/
def stack : Nat → List Width
  | 0 => []
  | level + 1 => ⟨4 * (level + 1), 4 * (level + 1)⟩ :: stack level

/-- What stands between a line and one of another level. -/
def shift (level next : Nat) : List Token :=
  if level < next then [.indent] else List.replicate (level - next) .dedent

/-- The tokens of rows after a line of a level. -/
def layout : Nat → List Row → List Token
  | level, [] => shift level 0
  | level, row :: rows => shift level row.1 ++ row.2 ++ Token.newline :: layout row.1 rows

/-- Rows that go in by one level at a time. -/
def Climbs : Nat → List Row → Prop
  | _, [] => True
  | level, row :: rows => row.1 ≤ level + 1 ∧ Climbs row.1 rows

/-- Whether a row is not too far in and does not open too many brackets. -/
def Row.fits (row : Row) : Bool :=
  row.1 ≤ indentBound && deepest 0 row.2 ≤ bracketBound

/-! ## Indentation -/

theorem length_stack (level : Nat) : (stack level).length = level := by
  induction level with
  | zero => rfl
  | succ level ih => simp [stack, ih]

theorem closeIndents_stack (level : Nat) (more : Nat) (done : List Token) :
    closeIndents ⟨4 * level, 4 * level⟩ (stack (level + more)) done =
      (stack level, List.replicate more .dedent ++ done) := by
  induction more generalizing done with
  | zero =>
    cases level with
    | zero => rfl
    | succ level => simp [stack, closeIndents]
  | succ more ih =>
    rw [← Nat.add_assoc, stack, closeIndents, if_pos (by simp only; omega), ih,
      replicate_succ', append_assoc]
    rfl

theorem width_stack {s : LexState} {level : Nat} (h : s.indents = stack level) :
    s.width = ⟨4 * level, 4 * level⟩ := by
  rw [LexState.width, h]
  cases level <;> rfl

theorem indentTo_stack {s : LexState} {level next : Nat} (hs : s.indents = stack level)
    (hnext : next ≤ level + 1) (hbound : next ≤ indentBound) :
    s.indentTo ⟨4 * next, 4 * next⟩ =
      some { s with indents := stack next, done := (shift level next).reverse ++ s.done } := by
  have hwidth := width_stack hs
  rcases Nat.lt_trichotomy next level with h | h | h
  · obtain ⟨more, rfl⟩ : ∃ more, level = next + (more + 1) := ⟨level - next - 1, by omega⟩
    have hshift : shift (next + (more + 1)) next = List.replicate (more + 1) .dedent := by
      rw [shift, if_neg (by omega), Nat.add_sub_cancel_left]
    rw [LexState.indentTo, hwidth]
    simp only
    rw [if_neg (by simp only [beq_iff_eq]; omega), if_neg (by omega), hs,
      closeIndents_stack, hshift]
    have hw : ({ s with indents := stack next, done := List.replicate (more + 1) .dedent ++ s.done } :
        LexState).width = ⟨4 * next, 4 * next⟩ := width_stack rfl
    simp [hw]
  · subst h
    rw [LexState.indentTo, hwidth]
    cases s
    simp_all [shift]
  · obtain rfl : next = level + 1 := by omega
    have hlen : s.indents.length < indentBound := by
      rw [hs, length_stack]
      omega
    rw [LexState.indentTo, hwidth]
    simp only
    rw [if_neg (by simp only [beq_iff_eq]; omega), if_pos (by omega),
      if_pos (by simp only [hlen, decide_true, Bool.and_true, decide_eq_true_eq]; omega)]
    simp [shift, stack, hs]

theorem indentTo_deep {s : LexState} {level next : Nat} (hs : s.indents = stack level)
    (hlevel : level ≤ indentBound) (hnext : next ≤ level + 1) (hdeep : indentBound < next) :
    s.indentTo ⟨4 * next, 4 * next⟩ = none := by
  obtain rfl : next = level + 1 := by omega
  have hlen : ¬s.indents.length < indentBound := by
    rw [hs, length_stack]
    omega
  rw [LexState.indentTo, width_stack hs]
  simp only
  rw [if_neg (by simp only [beq_iff_eq]; omega), if_pos (by omega), if_neg (by simp [hlen])]

theorem measure_blanks (hc : c ∉ [' ', '\t', '\x0c']) (cs : List Char) (count : Nat) :
    ∀ start, measure ⟨start, start⟩ (List.replicate count ' ' ++ c :: cs) =
      (⟨start + count, start + count⟩, c :: cs) := by
  induction count with
  | zero =>
    intro start
    simp only [mem_cons, not_mem_nil, or_false, not_or] at hc
    rw [replicate_zero, nil_append, measure]
    · rfl
    · exact fun _ he => absurd (List.cons.inj he).1 hc.1
    · exact fun _ he => absurd (List.cons.inj he).1 hc.2.1
    · exact fun _ he => absurd (List.cons.inj he).1 hc.2.2
  | succ count ih =>
    intro start
    rw [replicate_succ, cons_append, measure]
    show measure ⟨start + 1, start + 1⟩ _ = _
    rw [ih]
    congr 2 <;> omega

/-! ## Lines -/

/-- A line without line feeds and carriage returns. -/
def IsClean (line : List Char) : Prop :=
  '\n' ∉ line ∧ '\r' ∉ line

/-- A line that the lexer skips: empty, or a comment. -/
structure Skipped (line : List Char) : Prop where
  clean : IsClean line
  shape : line = [] ∨ ∃ count cs, line = List.replicate count ' ' ++ '#' :: cs

/-- A line of code. Its tokens are those of what `read` makes of it. -/
structure Code (read : List Char → List Char) (line : List Char) (row : Row) : Prop where
  clean : IsClean line
  shape : ∃ c cs, line = List.replicate (4 * row.1) ' ' ++ c :: cs ∧ Text.isBlank c = false ∧
    Inline (read (c :: cs)) row.2
  balanced : Balanced row.2

def atLine (level : Nat) (done : List Token) : LexState :=
  { brackets := [], indents := stack level, busy := false, done }

section

variable {s : LexState} {line rest : List Char} {out : Option (List Token)}

theorem lexes_empty (h : Lexes true s rest out) : Lexes true s ('\n' :: rest) out := by
  intro bound hb
  obtain ⟨bound, rfl⟩ : ∃ b, bound = b + 1 := ⟨bound - 1, by omega⟩
  exact h bound (by simp only [length_cons] at hb; omega)

theorem lexes_comment {cs : List Char} (count : Nat) (hcs : '\n' ∉ cs)
    (h : Lexes true s rest out) :
    Lexes true s (List.replicate count ' ' ++ '#' :: (cs ++ '\n' :: rest)) out := by
  intro bound hb
  obtain ⟨bound, rfl⟩ : ∃ b, bound = b + 1 := ⟨bound - 1, by omega⟩
  have hdrop : ('#' :: (cs ++ '\n' :: rest)).dropWhile (· != '\n') = '\n' :: rest := by
    rw [dropWhile_cons_of_pos (by decide), dropWhile_append_of_pos]
    · exact dropWhile_cons_of_neg (by decide)
    · intro c hc
      simp only [bne_iff_ne, ne_eq]
      rintro rfl
      exact hcs hc
  rw [lexFrom, measure_blanks (by decide)]
  simp only [hdrop, drop_succ_cons, drop_zero]
  refine h bound ?_
  simp only [length_append, length_replicate, length_cons] at hb
  omega

theorem lexes_skipped (hl : Skipped line) (h : Lexes true s rest out) :
    Lexes true s (line ++ '\n' :: rest) out := by
  rcases hl.shape with rfl | ⟨count, cs, rfl⟩
  · exact lexes_empty h
  · have hcs : '\n' ∉ cs := fun hmem => hl.clean.1 (by simp [hmem])
    rw [append_assoc, cons_append]
    exact lexes_comment count hcs h

theorem lexFrom_fresh (hc : c ∉ ['\n', '#', ' ', '\t', '\x0c']) (bound count : Nat)
    (s : LexState) (cs : List Char) :
    lexFrom (bound + 1) true s (List.replicate count ' ' ++ c :: cs) =
      (s.indentTo ⟨count, count⟩).bind fun s => lexFrom bound false s (c :: cs) := by
  simp only [mem_cons, not_mem_nil, or_false, not_or] at hc
  rw [lexFrom, measure_blanks (by simp [hc])]
  simp only [Nat.zero_add]
  split
  · contradiction
  · rename_i he
    exact absurd (List.cons.inj he).1 hc.1
  · rename_i he
    exact absurd (List.cons.inj he).1 hc.2.1
  · rfl

variable {level : Nat} {done : List Token} {row : Row}

theorem Code.head {cs : List Char} {ts : List Token} (hc : Text.isBlank c = false)
    (hin : Inline (c :: cs) ts) : ts ≠ [] ∧ c ∉ ['\n', '#', ' ', '\t', '\x0c'] := by
  have hblank : isGap c = false := by
    by_contra hg
    obtain rfl | rfl | rfl : c = ' ' ∨ c = '\t' ∨ c = '\x0c' := by
      simpa using isGap_iff.mp (by simpa using hg)
    all_goals cases hc
  obtain ⟨t, r, us, rfl, htoken, -⟩ := hin.head hblank
  have hmem : c ∉ ['\n', '#', '\\', ' ', '\t', '\x0c'] := fun hm => by
    rw [token?_eq_none hm] at htoken
    cases htoken
  simp only [mem_cons, not_mem_nil, or_false, not_or] at hmem ⊢
  exact ⟨cons_ne_nil _ _, hmem.1, hmem.2.1, hmem.2.2.2⟩

/-- A line of code gives its tokens, after the indents or dedents in front of it. -/
theorem lexes_code (hl : Code id line row) (hlevel : row.1 ≤ level + 1) (hfits : row.fits = true)
    (h : Lexes true (atLine row.1
      (Token.newline :: row.2.reverse ++ (shift level row.1).reverse ++ done)) rest out) :
    Lexes true (atLine level done) (line ++ '\n' :: rest) out := by
  obtain ⟨c, cs, rfl, hc, hin⟩ := hl.shape
  obtain ⟨hts, hfresh⟩ := Code.head hc hin
  simp only [Row.fits, Bool.and_eq_true, decide_eq_true_eq] at hfits
  let opened : LexState := atLine row.1 ((shift level row.1).reverse ++ done)
  -- the line feed ends the line, as no bracket is open
  have hend : Lexes false (opened.takeAll row.2 []) ('\n' :: rest) out := by
    intro bound hb
    obtain ⟨bound, rfl⟩ : ∃ b, bound = b + 1 := ⟨bound - 1, by omega⟩
    have hrest := h bound (by simp only [length_cons] at hb; simp; omega)
    simpa [lexFrom, opened, LexState.takeAll, atLine, LexState.endLine, hts] using hrest
  have hline : Lexes false opened (c :: cs ++ '\n' :: rest) out :=
    Lexes.inline hin (show Follows ('\n' :: rest) from rfl) (hl.balanced []) hfits.2 hend
  intro bound hb
  obtain ⟨bound, rfl⟩ : ∃ b, bound = b + 1 := ⟨bound - 1, by omega⟩
  rw [append_assoc, cons_append, lexFrom_fresh hfresh,
    indentTo_stack (s := atLine level done) rfl hlevel hfits.1, Option.bind_some]
  refine hline bound ?_
  simp only [length_append, length_replicate, length_cons, Bool.toNat_true,
    Bool.toNat_false] at hb ⊢
  omega

theorem lexes_unfit (hl : Code id line row) (hlevel : row.1 ≤ level + 1)
    (hbound : level ≤ indentBound) (hfits : row.fits = false) :
    Lexes true (atLine level done) (line ++ '\n' :: rest) none := by
  obtain ⟨c, cs, rfl, hc, hin⟩ := hl.shape
  obtain ⟨-, hfresh⟩ := Code.head hc hin
  intro bound hb
  obtain ⟨bound, rfl⟩ : ∃ b, bound = b + 1 := ⟨bound - 1, by omega⟩
  rw [append_assoc, cons_append, lexFrom_fresh hfresh]
  by_cases hdeep : row.1 ≤ indentBound
  · have hopen : bracketBound < deepest 0 row.2 := by
      simpa [Row.fits, hdeep] using hfits
    have hline : Lexes false (atLine row.1 ((shift level row.1).reverse ++ done))
        (c :: cs ++ '\n' :: rest) none :=
      lexes_deep hin (show Follows ('\n' :: rest) from rfl) (hl.balanced []) (Nat.zero_le _) hopen
    rw [indentTo_stack (s := atLine level done) rfl hlevel hdeep, Option.bind_some]
    refine hline bound ?_
    simp only [length_append, length_replicate, length_cons, Bool.toNat_true,
      Bool.toNat_false] at hb ⊢
    omega
  · rw [indentTo_deep (s := atLine level done) rfl hbound hlevel (by omega), Option.bind_none]

end

/-! ## Texts -/

/-- The lines of a text, and its lines of code. -/
inductive Lined (read : List Char → List Char) : List (List Char) → List Row → Prop where
  | nil : Lined read [] []
  | skip {line : List Char} {lines : List (List Char)} {rows : List Row} (hl : Skipped line)
      (h : Lined read lines rows) : Lined read (line :: lines) rows
  | code {line : List Char} {lines : List (List Char)} {row : Row} {rows : List Row}
      (hl : Code read line row) (h : Lined read lines rows) :
      Lined read (line :: lines) (row :: rows)

def joinLines (lines : List (List Char)) : List Char :=
  lines.flatMap (· ++ ['\n'])

@[simp] theorem joinLines_cons (line : List Char) (lines : List (List Char)) :
    joinLines (line :: lines) = line ++ '\n' :: joinLines lines := by
  simp [joinLines]

theorem finish_atLine (level : Nat) (done : List Token) :
    (atLine level done).finish = some (done.reverse ++ List.replicate level .dedent) := by
  have hfold : ∀ (widths : List Width) (done : List Token),
      widths.foldl (fun done _ => Token.dedent :: done) done =
        List.replicate widths.length .dedent ++ done := by
    intro widths
    induction widths with
    | nil => exact fun _ => rfl
    | cons w widths ih =>
      intro done
      rw [foldl_cons, ih, length_cons, replicate_succ', append_assoc]
      rfl
  simp [LexState.finish, atLine, LexState.endLine, hfold, length_stack]

/-- **Reading lines gives the layout of their rows**, if all of them fit. -/
theorem lexes_lines {rows : List Row} (h : Lined id lines rows) :
    ∀ {level : Nat} {done : List Token}, level ≤ indentBound → Climbs level rows →
      Lexes true (atLine level done) (joinLines lines)
        (if rows.all Row.fits then some (done.reverse ++ layout level rows) else none) := by
  induction h with
  | nil =>
    intro level done _ _ bound hb
    obtain ⟨bound, rfl⟩ : ∃ b, bound = b + 1 := ⟨bound - 1, by omega⟩
    show (atLine level done).finish = _
    rw [finish_atLine]
    simp [layout, shift]
  | skip hl _ ih =>
    intro level done hlevel hrows
    rw [joinLines_cons]
    exact lexes_skipped hl (ih hlevel hrows)
  | code hl _ ih =>
    rename_i row rows _
    intro level done hlevel hrows
    obtain ⟨hrow, hrows⟩ := hrows
    rw [joinLines_cons, all_cons]
    cases hfits : row.fits with
    | true =>
      have hnext : row.1 ≤ indentBound := by
        simp only [Row.fits, Bool.and_eq_true, decide_eq_true_eq] at hfits
        exact hfits.1
      rw [Bool.true_and]
      refine lexes_code hl hrow hfits ?_
      have hrest : Lexes true (atLine row.1
          (Token.newline :: row.2.reverse ++ (shift level row.1).reverse ++ done)) _ _ :=
        ih hnext hrows
      simpa [layout] using hrest
    | false => exact lexes_unfit hl hrow hlevel hfits

/-! ## Lines that fit -/

/-- Whether a line is skipped, or is not too far in and does not open too many brackets. -/
def lineFits (line : List Char) : Bool :=
  let text := line.dropWhile (· == ' ')
  text.head?.all (· == '#') || (decide (line.length - text.length ≤ 4 * indentBound) &&
    (inline? text).all fun ts => deepest 0 ts ≤ bracketBound)

def linesFit (cs : List Char) : Bool :=
  (cs.splitOn '\n').all lineFits

theorem dropWhile_indented (count : Nat) (hc : c ≠ ' ') (cs : List Char) :
    (List.replicate count ' ' ++ c :: cs).dropWhile (· == ' ') = c :: cs := by
  rw [dropWhile_append_of_pos (by simp), dropWhile_cons_of_neg (by simpa using hc)]

theorem Skipped.lineFits {line : List Char} (h : Skipped line) : lineFits line = true := by
  obtain rfl | ⟨count, cs, rfl⟩ := h.shape
  · rfl
  · simp [Script.lineFits, dropWhile_indented count (show '#' ≠ ' ' by decide)]

theorem Code.lineFits {line : List Char} {row : Row} (h : Code id line row) :
    lineFits line = row.fits := by
  obtain ⟨c, cs, rfl, hc, hin⟩ := h.shape
  have hhead := (Code.head hc hin).2
  simp only [mem_cons, not_mem_nil, or_false, not_or] at hhead
  have hinline : inline? (c :: cs) = some row.2 := hin.inline?
  have hlevel : 4 * row.1 ≤ 4 * indentBound ↔ row.1 ≤ indentBound := by omega
  simp [Script.lineFits, Row.fits, dropWhile_indented _ hhead.2.2.1, hinline, hhead.2.1, hlevel]

theorem Lined.all_fits {rows : List Row} (h : Lined id lines rows) :
    lines.all lineFits = rows.all Row.fits := by
  induction h with
  | nil => rfl
  | skip hl _ ih => rw [all_cons, hl.lineFits, Bool.true_and, ih]
  | code hl _ ih => rw [all_cons, all_cons, hl.lineFits, ih]

theorem linesFit_joinLines (h : ∀ line ∈ lines, '\n' ∉ line) :
    linesFit (joinLines lines) = lines.all lineFits := by
  induction lines with
  | nil => rfl
  | cons line lines ih =>
    obtain ⟨hline, hlines⟩ := forall_mem_cons.mp h
    have hsplit : (line ++ '\n' :: joinLines lines).splitOn '\n' =
        line :: (joinLines lines).splitOn '\n' := by
      refine splitOnP_append_cons_of_forall_mem (fun c hc => ?_) _ (by simp) _
      simpa using fun he : c = '\n' => hline (he ▸ hc)
    rw [linesFit, joinLines_cons, hsplit, all_cons, all_cons, ← ih hlines, linesFit]

end Sketchflow.Script
