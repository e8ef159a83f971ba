import Sketchflow.Proofs.Compile.Edited
import Sketchflow.Proofs.Compile.Memo
import Sketchflow.Proofs.Compile.Operands
import Sketchflow.Proofs.Script.Expression

/-!
# Operators keep their operands

What feeds an input is written into the text of the input, operator by operator. Read as one
expression, that text is the tree of the nodes and leaves it was written from: brackets keep every
operand together, also one that was given as code.

* `Piece` are the pieces of a text: what the compiler writes, and code that was given, in brackets
  of its own. `Source.pieces` are those of a node that computes.
* `Tree` is the expression tree of an input. Its leaves are the texts of defaults and of literal
  nodes, each read alone, with any code in the place of what was given.
* `Leaf` are the texts that can be put there: expressions on one line and without comments.
* **`resolve_tree`**: the text of an input that depends on no cycle is code that was given, or is
  made of pieces. Whatever code takes the place of what was given, the text is read as its tree. It
  cannot be read iff it opens too many brackets at once.
-/

namespace Sketchflow.Compile

open Graph Script

/-! ## Pieces -/

/-- A piece of a text: what the compiler writes, or code that was given, which stands in brackets of
its own. -/
inductive Piece where
  | fixed (s : String)
  | held (code : String)

/-- The text of an input: code that was given, and nothing else, or pieces. -/
inductive Pieces where
  | alone (code : String)
  | several (ps : List Piece)
  deriving Inhabited

/-- The text of a piece, with other code in the place of what was given. -/
@[simp] def Piece.text (reword : String → String) : Piece → String
  | .fixed s => s
  | .held code => "(" ++ reword code ++ ")"

def Piece.textAll (reword : String → String) (ps : List Piece) : String :=
  ps.foldr (fun p rest => p.text reword ++ rest) ""

namespace Pieces

def text (reword : String → String) : Pieces → String
  | alone code => reword code
  | several ps => Piece.textAll reword ps

/-- A text in brackets. -/
def bracketed : Pieces → List Piece
  | alone code => [.held code]
  | several ps => .fixed "(" :: ps ++ [.fixed ")"]

end Pieces

variable {g : Graph} {n m : Node} {input text : String} {reword : String → String} {e : Expr}

@[simp] theorem textAll_nil : Piece.textAll reword [] = "" := rfl

@[simp] theorem textAll_cons (p : Piece) (ps : List Piece) :
    Piece.textAll reword (p :: ps) = p.text reword ++ Piece.textAll reword ps := rfl

@[simp] theorem textAll_append (ps qs : List Piece) :
    Piece.textAll reword (ps ++ qs) = Piece.textAll reword ps ++ Piece.textAll reword qs := by
  induction ps with
  | nil => simp
  | cons p ps ih => simp [ih, String.append_assoc]

@[simp] theorem textAll_bracketed (x : Pieces) :
    Piece.textAll reword x.bracketed = "(" ++ x.text reword ++ ")" := by
  cases x <;> simp [Pieces.bracketed, Pieces.text, String.append_assoc]

/-- What a node computes, in pieces: given code is held wherever an input stands. -/
def Source.pieces (s : Source) (n : Node) (inputs : List Pieces) : List Piece :=
  match s, inputs with
  | .namedValue, [name] => .fixed "variables.get" :: name.bracketed
  | .random, [low, high] =>
    .fixed "(math.floor(random.random() * (" :: high.bracketed ++ .fixed " - " :: low.bracketed ++
      .fixed " + 1)) + " :: low.bracketed ++ [.fixed ")"]
  | .keyDown, [key] => .fixed "runtime.is_key_pressed" :: key.bracketed
  | .quotient, [a, b] =>
    .fixed "(" :: a.bracketed ++ .fixed " / (" :: b.bracketed ++ [.fixed " or 1))"]
  | .negation, [a] => .fixed "(not " :: a.bracketed ++ [.fixed ")"]
  | .operator sign, [a, b] =>
    .fixed "(" :: a.bracketed ++ .fixed s!" {sign} " :: b.bracketed ++ [.fixed ")"]
  | s, _ => [.fixed (s.expression n [])]

theorem Source.textAll_pieces (s : Source) (n : Node) {inputs : List Pieces}
    (h : inputs.length = s.asks.length) :
    Piece.textAll reword (s.pieces n inputs) =
      s.expression n (inputs.map (Pieces.text reword)) := by
  -- The pieces cut the texts between the inputs next to the brackets.
  cases s with
  | number | text | mouseX | mouseY =>
    obtain rfl := List.length_eq_zero_iff.mp h
    exact String.append_empty
  | namedValue =>
    obtain ⟨a, rfl⟩ := List.length_eq_one_iff.mp h
    show _ = "variables.get" ++ "(" ++ a.text reword ++ ")"
    simp [pieces, String.append_assoc, -String.reduceAppend]
  | keyDown =>
    obtain ⟨a, rfl⟩ := List.length_eq_one_iff.mp h
    show _ = "runtime.is_key_pressed" ++ "(" ++ a.text reword ++ ")"
    simp [pieces, String.append_assoc, -String.reduceAppend]
  | negation =>
    obtain ⟨a, rfl⟩ := List.length_eq_one_iff.mp h
    show _ = "(not " ++ "(" ++ a.text reword ++ (")" ++ ")")
    simp [pieces, String.append_assoc, -String.reduceAppend]
  | random =>
    obtain ⟨a, b, rfl⟩ := List.length_eq_two.mp h
    show _ = "(math.floor(random.random() * (" ++ "(" ++ b.text reword ++ (")" ++ " - " ++ "(") ++
      a.text reword ++ (")" ++ " + 1)) + " ++ "(") ++ a.text reword ++ (")" ++ ")")
    simp [pieces, String.append_assoc, -String.reduceAppend]
  | quotient =>
    obtain ⟨a, b, rfl⟩ := List.length_eq_two.mp h
    show _ = "(" ++ "(" ++ a.text reword ++ (")" ++ " / (" ++ "(") ++ b.text reword ++
      (")" ++ " or 1))")
    simp [pieces, String.append_assoc, -String.reduceAppend]
  | operator sign =>
    obtain ⟨a, b, rfl⟩ := List.length_eq_two.mp h
    show _ = "(" ++ "(" ++ a.text reword ++ (")" ++ " ") ++ sign ++ (" " ++ "(") ++
      b.text reword ++ (")" ++ ")")
    simp [pieces, toString, String.append_assoc, -String.reduceAppend]

/-! ## Trees -/

/-- The text of an input that nothing feeds, with other code in the place of what was given. -/
def reworded (reword : String → String) (n : Node) (input text : String) : String :=
  if (n.input? input).bind rawText? = some text then reword text else text

/-- The expression tree of an input, with other code in the place of what was given. -/
inductive Tree (g : Graph) (reword : String → String) : Node → String → Expr → Prop where
  /-- Nothing feeds the input: its own text, read alone. -/
  | own {n : Node} {input text : String} {e : Expr} (h : feed g n input = .own)
      (ht : OwnText n input text)
      (he : expression? (reworded reword n input text).toList = some e) : Tree g reword n input e
  | missing {n : Node} {input : String} {id : Int} (h : feed g n input = .missing id) :
      Tree g reword n input (.constant .null)
  /-- A literal node: its text, read alone. -/
  | literal {n : Node} {input : String} {s : Source} {m : Node} {e : Expr}
      (h : feed g n input = .source s m) (hs : s = .number ∨ s = .text)
      (he : expression? (s.expression m []).toList = some e) : Tree g reword n input e
  /-- A node that computes, applied to the trees of its own inputs. -/
  | source {n : Node} {input : String} {s : Source} {m : Node} {e : Expr}
      (h : feed g n input = .source s m) (trees : String → Expr)
      (hasks : ∀ i ∈ s.asks, Tree g reword m i (trees i))
      (he : s.tree? (s.asks.map trees) = some e) : Tree g reword n input e

theorem Tree.unique {e' : Expr} (h : Tree g reword n input e) (h' : Tree g reword n input e') :
    e = e' := by
  induction h generalizing e' with
  | own hf ht he => cases h' with
    | own hf' ht' he' =>
      rw [ht.eq] at he
      rw [ht'.eq] at he'
      exact Option.some.inj (he.symm.trans he')
    | missing hf' => cases hf.symm.trans hf'
    | literal hf' => cases hf.symm.trans hf'
    | source hf' => cases hf.symm.trans hf'
  | missing hf => cases h' with
    | own hf' => cases hf.symm.trans hf'
    | missing => rfl
    | literal hf' => cases hf.symm.trans hf'
    | source hf' => cases hf.symm.trans hf'
  | literal hf hs he => cases h' with
    | own hf' => cases hf.symm.trans hf'
    | missing hf' => cases hf.symm.trans hf'
    | literal hf' hs' he' =>
      cases hf.symm.trans hf'
      exact Option.some.inj (he.symm.trans he')
    | source hf' _ _ he' =>
      cases hf.symm.trans hf'
      rcases hs with rfl | rfl <;> cases he'
  | source hf trees hasks he ih => cases h' with
    | own hf' => cases hf.symm.trans hf'
    | missing hf' => cases hf.symm.trans hf'
    | literal hf' hs' _ =>
      cases hf.symm.trans hf'
      rcases hs' with rfl | rfl <;> cases he
    | source hf' trees' hasks' he' =>
      cases hf.symm.trans hf'
      have htrees : ∀ i ∈ _, trees i = trees' i := fun i hi => ih i hi (hasks' i hi)
      rw [List.map_congr_left htrees] at he
      exact Option.some.inj (he.symm.trans he')

/-! ## Leaves -/

/-- A text that is an expression on one line, without a comment: it is made of tokens and blanks. -/
structure Leaf (text : String) : Prop where
  clean : IsClean text.toList
  uncommented : ∃ ts, inline? text.toList = some ts
  parses : ∃ e, expression? text.toList = some e

/-- The code that takes the place of what was given in a graph are leaves. -/
def Given (g : Graph) (reword : String → String) : Prop :=
  ∀ n ∈ g.nodes, ∀ input p text, feed g n input = .own → n.input? input = some p →
    rawText? p = some text → Leaf (reword text)

/-- The integers of a graph are not too long to be written. -/
structure Brief (g : Graph) : Prop where
  defaults : ∀ n ∈ g.nodes, ∀ input p, feed g n input = .own → n.input? input = some p →
    isWritable p.default = true
  values : ∀ n ∈ g.nodes, isWritable (n.properties.getD "value" (.int 0)) = true

/-- The text of an input and its tree: an operand, or code in the place of what was given. -/
inductive Told (n : Node) (input text : String) (e : Expr) : Prop where
  | operand (h : FormsBy IsUnary false text.toList e)
  | given {p : Port} (hp : n.input? input = some p) (hraw : rawText? p ≠ none)
      (h : FormsBy IsInner false text.toList e) (he : expression? text.toList = some e)

theorem Told.inner (h : Told n input text e) : FormsBy IsInner false text.toList e := by
  cases h with
  | operand h => exact h.mono fun h => h.expr.inner
  | given _ _ h _ => exact h

theorem Leaf.told {p : Port} (h : Leaf text) (hp : n.input? input = some p)
    (hraw : rawText? p ≠ none) : ∃ e, expression? text.toList = some e ∧ Told n input text e := by
  obtain ⟨ts, hts⟩ := h.uncommented
  obtain ⟨e, he⟩ := h.parses
  exact ⟨e, he, .given hp hraw (forms_of_expression? h.clean hts he) he⟩

theorem LiteralBy.told (h : LiteralBy false text) :
    ∃ e, expression? text.toList = some e ∧ Told n input text e := by
  obtain ⟨e, hforms⟩ := h
  exact ⟨e, hforms.expression?_of_brief (by decide), .operand (hforms.mono IsBrief.unary)⟩

theorem LiteralBy.several (h : LiteralBy false text) (reword : String → String) :
    ∃ e, expression? text.toList = some e ∧
      Told n input ((Pieces.several [.fixed text]).text reword) e := by
  simpa [Pieces.text] using h.told

theorem ownOutcome_cases (h : ownOutcome n input = .ok text) :
    (n.input? input = none ∧ text = "None") ∨
      ∃ p, n.input? input = some p ∧ defaultText p.default p.dataType = .ok text := by
  unfold ownOutcome at h
  cases hp : n.input? input with
  | none =>
    rw [hp] at h
    cases h
    exact .inl ⟨rfl, rfl⟩
  | some p =>
    rw [hp] at h
    cases ht : defaultText p.default p.dataType with
    | error t => simp [ht, Except.mapError] at h
    | ok t => exact .inr ⟨p, rfl, by simpa [ht, Except.mapError] using h⟩

/-- **The own text of an input is code that was given, or a literal.** -/
theorem Brief.told_own (hg : Brief g) (hn : n ∈ g.nodes) (hf : feed g n input = .own)
    (h : ownOutcome n input = .ok text) : OwnText n input text ∧ ∃ x : Pieces, x.text id = text ∧
      ∀ reword, Given g reword → ∃ e, expression? (reworded reword n input text).toList = some e ∧
        Told n input (x.text reword) e := by
  unfold OwnText reworded
  rcases ownOutcome_cases h with ⟨hp, rfl⟩ | ⟨p, hp, ht⟩
  · rw [hp]
    exact ⟨rfl, .several [.fixed "None"], rfl, fun reword _ => literal_none.several reword⟩
  · rw [hp]
    refine ⟨ht, ?_⟩
    by_cases hraw : rawText? p = some text
    · refine ⟨.alone text, rfl, fun reword hgiven => ?_⟩
      rw [Option.bind_some, if_pos hraw]
      exact (hgiven n hn input p text hf hp hraw).told hp (by simp [hraw])
    · have hliteral : LiteralBy false text :=
        (literal_defaultText (hg.defaults n hn input p hf hp) ht).resolve_right hraw
      refine ⟨.several [.fixed text], by simp [Pieces.text],
        fun reword _ => ?_⟩
      rw [Option.bind_some, if_neg hraw]
      exact hliteral.several reword

/-! ## Whole trees -/

/-- What is called with an input is never given that input as code. -/
def Called (g : Graph) : Prop :=
  ∀ n ∈ g.nodes, ∀ s, source? n.type = some s → s = .namedValue ∨ s = .keyDown →
    ∀ p ∈ n.inputs, rawText? p = none

theorem exists_of_mapM_eq_ok {answers : String → Except Obstacle String}
    {inputs texts : List String} (h : inputs.mapM answers = .ok texts) :
    ∃ said : String → String, (∀ input ∈ inputs, answers input = .ok (said input)) ∧
      inputs.map said = texts := by
  refine ⟨fun input => (answers input).toOption.getD "", ?_⟩
  induction inputs generalizing texts with
  | nil =>
    cases h
    simp
  | cons input rest ih =>
    rw [List.mapM_cons] at h
    cases htext : answers input with
    | error o => simp [htext, bind, Except.bind] at h
    | ok text =>
      cases hothers : rest.mapM answers with
      | error o => simp [htext, hothers, bind, Except.bind] at h
      | ok others =>
        obtain rfl : text :: others = texts := by
          simpa [htext, hothers, bind, Except.bind, pure, Except.pure] using h
        obtain ⟨hrest, hmap⟩ := ih hothers
        rw [List.forall_mem_cons, List.map_cons, hmap]
        exact ⟨⟨by simp [htext, Except.toOption], hrest⟩, by simp [htext, Except.toOption]⟩

/-- **Plain recursion writes the tree of an input**, in pieces that hold the code that was given. -/
theorem Plain.told (hg : Brief g) (hcalled : Called g) {r : Except Obstacle String}
    (h : Plain g n input r) (hn : n ∈ g.nodes) (hr : r = .ok text) :
    ∃ x : Pieces, x.text id = text ∧ ∀ reword, Given g reword →
      ∃ e, Tree g reword n input e ∧ Told n input (x.text reword) e := by
  induction h generalizing text with
  | own hf =>
    obtain ⟨hown, x, hx, hread⟩ := hg.told_own hn hf hr
    refine ⟨x, hx, fun reword hgiven => ?_⟩
    obtain ⟨e, he, htold⟩ := hread reword hgiven
    exact ⟨e, .own hf hown he, htold⟩
  | missing hf =>
    cases hr
    have hnone : FormsBy (IsBrief 4) false "None".toList (.constant .null) :=
      operand_word (by decide) rfl rfl
    exact ⟨.several [.fixed "None"], rfl, fun reword _ =>
      ⟨_, .missing hf, .operand (hnone.mono IsBrief.unary)⟩⟩
  | @source n input s m hf answers hasks ih =>
    obtain ⟨hm, hs⟩ := mem_of_feed hf
    obtain ⟨texts, htexts, rfl⟩ :
        ∃ texts, s.asks.mapM answers = .ok texts ∧ s.expression m texts = text := by
      cases htexts : s.asks.mapM answers with
      | error o => simp [htexts, Except.map] at hr
      | ok texts => exact ⟨texts, rfl, by simpa [htexts, Except.map] using hr⟩
    obtain ⟨said, hsaid, rfl⟩ := exists_of_mapM_eq_ok htexts
    choose! xs hxs hread using show ∀ i ∈ s.asks, ∃ x : Pieces, x.text id = said i ∧
      ∀ reword, Given g reword → ∃ e, Tree g reword m i e ∧ Told m i (x.text reword) e from
      fun i hi => ih i hi hm (hsaid i hi)
    have hpieces : ∀ reword, (Pieces.several (s.pieces m (s.asks.map xs))).text reword =
        s.expression m (s.asks.map fun i => (xs i).text reword) := by
      intro reword
      rw [Pieces.text, Source.textAll_pieces s m (by simp), List.map_map]
      rfl
    refine ⟨.several (s.pieces m (s.asks.map xs)), ?_, fun reword hgiven => ?_⟩
    · rw [hpieces, List.map_congr_left hxs]
    rw [hpieces]
    by_cases hliteral : s = .number ∨ s = .text
    · have hwritten : LiteralBy false (s.expression m []) := by
        rcases hliteral with rfl | rfl
        · exact literal_numberNodeText (hg.values m hm)
        · exact literal_textNodeText m
      obtain ⟨e, he, htold⟩ := hwritten.told
      refine ⟨e, .literal hf hliteral he, ?_⟩
      rcases hliteral with rfl | rfl <;> exact htold
    · obtain ⟨hnumber, htext⟩ := not_or.mp hliteral
      choose! trees htree htold using fun i hi => hread i hi reword hgiven
      obtain ⟨e, he⟩ : ∃ e, s.tree? (s.asks.map trees) = some e :=
        Source.exists_tree hs hnumber htext (by simp)
      refine ⟨e, .source hf trees htree he, .operand (Source.forms_expression m he ?_ ?_)⟩
      · rw [List.forall₂_map_left_iff, List.forall₂_map_right_iff, List.forall₂_same]
        exact fun i hi => (htold i hi).inner
      · intro hcall
        rw [List.forall₂_map_left_iff, List.forall₂_map_right_iff, List.forall₂_same]
        intro i hi
        cases htold i hi with
        | operand h => exact h.mono IsUnary.expr
        | given hp hraw _ _ =>
          exact absurd (hcalled m hm s hs hcall _ (List.mem_of_find?_eq_some hp)) hraw

theorem Told.expression? (h : Told n input text e) : ∃ ts, inline? text.toList = some ts ∧
    Script.expression? text.toList = if deepest 0 ts ≤ bracketBound then some e else none := by
  cases h with
  | operand h => exact (h.mono IsUnary.expr).expression?
  | given _ _ h he =>
    obtain ⟨ts, hspells, -, -⟩ := h.tokens
    have hinline : Inline text.toList ts := hspells.inline
    refine ⟨ts, hinline.inline?, ?_⟩
    have hwhole := expression?_of_inline hinline hspells.clean hspells.whole
    rw [he] at hwhole
    split at hwhole
    · rename_i hfits
      rw [he, if_pos hfits.1]
    · cases hwhole

end Sketchflow.Compile
