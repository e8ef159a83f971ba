import Sketchflow.Proofs.Compile.ReadBack
import Sketchflow.Proofs.Graph.RoundTrip
import Sketchflow.Proofs.Script.Enclosed

/-!
# Numbers as defaults

A number can be given to an input as a text: as its default, or in a number node that feeds it.

* `Accepts` are the texts that are numbers, in their parts: blanks, a sign and a numeral.
  **`exists_accepts`**: what is read as a number is such a text, and `numeralValue` is the number.
* **`Accepts.looksLikeCode`**: such a text is taken for code if and only if it has a sign.
* `isSource` are those that can stand in a program as they are. `Accepts.evaluates`: they evaluate
  to their number, but for too many zeros (`sourceValue`). `Accepts.refused`: the others are no
  expressions.
* **`resolve_number`**: what an input resolves to that a number is given to.
-/

namespace Sketchflow.Compile

open List Script Text
open Number (DecimalText ofDigits maxDigits)

variable {c : Char} {gap : List Char}

/-! ## Texts that are numbers -/

/-- A text that is a number: blanks around a numeral with a sign. -/
structure Accepts (cs lead sign : List Char) (p : Parts) (trail : List Char) (d : DecimalText) :
    Prop where
  text : cs = lead ++ (sign ++ (p.text ++ trail))
  lead : ∀ c ∈ lead, isBlank c = true
  trail : ∀ c ∈ trail, isBlank c = true
  sign : sign = [] ∨ sign = ['+'] ∨ sign = ['-']
  reads : p.Reads d

/-- The number that a numeral with a sign stands for. -/
def numeralValue (negative : Bool) (p : Parts) (d : DecimalText) : Value :=
  if !p.marked && d.whole.length ≤ maxDigits then
    .int (if negative then -(ofDigits d.whole : Int) else ofDigits d.whole)
  else .float (d.toFloat negative)

theorem exists_trim (cs : List Char) : ∃ lead trail, cs = lead ++ (trim cs ++ trail) ∧
    (∀ c ∈ lead, isBlank c = true) ∧ ∀ c ∈ trail, isBlank c = true := by
  refine ⟨cs.takeWhile isBlank, ((trimLeft cs).reverse.takeWhile isBlank).reverse, ?_,
    fun c hc => mem_takeWhile_imp hc,
    fun c hc => mem_takeWhile_imp (mem_reverse.mp hc)⟩
  have hright : trim cs ++ ((trimLeft cs).reverse.takeWhile isBlank).reverse =
      trimLeft cs := by
    rw [trim, trimRight, ← reverse_append, takeWhile_append_dropWhile,
      reverse_reverse]
  rw [hright]
  exact (takeWhile_append_dropWhile).symm

theorem dropPadding_trim (cs : List Char) : Number.dropPadding (trim cs) = trim cs := by
  have hpadding : ∀ {c : Char}, isBlank c = false → Number.isPadding c = false := fun h => by
    rw [Number.isPadding, h, Bool.false_and]
  have hhead : ∀ {l : List Char} {c : Char}, c ∈ (l.dropWhile isBlank).head? →
      isBlank c = false := by
    intro l c hc
    have hnot := head?_dropWhile_not isBlank l
    rwa [Option.mem_def.mp hc] at hnot
  have hfirst : ∀ c ∈ (trim cs).head?, Number.isPadding c = false := by
    intro c hc
    refine hpadding (hhead (l := cs) ?_)
    cases hleft : cs.dropWhile isBlank with
    | nil =>
      rw [trim, trimLeft, hleft] at hc
      cases hc
    | cons e rest =>
      have he : isBlank e = false := hhead (l := cs) (by rw [hleft]; rfl)
      rwa [trim, trimLeft, hleft, trimRight_cons (by simp [he])] at hc
  have hlast : ∀ c ∈ (trim cs).reverse.head?, Number.isPadding c = false := by
    intro c hc
    rw [trim, trimRight, reverse_reverse] at hc
    exact hpadding (hhead hc)
  have hdrop : ∀ {l : List Char}, (∀ c ∈ l.head?, Number.isPadding c = false) →
      l.dropWhile Number.isPadding = l := by
    intro l hl
    cases l with
    | nil => rfl
    | cons c l => rw [dropWhile_cons_of_neg (by simp [hl c rfl])]
  rw [Number.dropPadding, hdrop hfirst, hdrop hlast, reverse_reverse]

theorem exists_whole {cs : List Char} {ds : List Nat} (h : Number.digitRun? cs = some ds) :
    ∃ p : Parts, cs = p.text ∧ p.Reads ⟨ds, [], 0⟩ ∧ p.marked = false := by
  obtain ⟨c, rest, d, rfl, hd⟩ := head_of_digitRun? h
  have hne : ds ≠ [] := by
    rintro rfl
    have hcount := (Number.spells_of_run h).count
    rw [filter_cons_of_pos (by simpa using Number.digitValue?_ne_underscore hd)] at hcount
    cases hcount
  refine ⟨⟨c :: rest, none, []⟩, by simp [Parts.text, Parts.dotted],
    ⟨?_, rfl, .absent, fun h => hne h.1⟩, rfl⟩
  rw [Number.optionalRun?, if_neg (by simp), h]

theorem run_of_unmarked {p : Parts} {d : DecimalText} (h : p.Reads d) (hmarked : p.marked = false) :
    Number.digitRun? p.text = some d.whole := by
  obtain ⟨whole, fraction, raised⟩ := p
  simp only [Parts.marked, Bool.or_eq_false_iff, Option.isSome_eq_false_iff,
    Option.isNone_iff_eq_none, Bool.not_eq_false', List.isEmpty_iff] at hmarked
  obtain ⟨rfl, rfl⟩ := hmarked
  have hrun := (optionalRun_cases h.whole).resolve_left fun hnil => h.whole_ne rfl hnil.1
  simpa [Parts.text, Parts.dotted] using hrun

theorem exists_accepts {s : String} {v : Value} (h : parseNumber? s = some v) :
    ∃ lead sign p trail d, Accepts s.toList lead sign p trail d ∧
      v = numeralValue (sign == ['-']) p d ∧ ∀ x, v = .float x → x.isFinite = true := by
  obtain ⟨lead, trail, htext, hlead, htrail⟩ := exists_trim s.toList
  obtain ⟨sign, hsign, hbody, hnegative⟩ := exists_sign (trim s.toList)
  have hnegative : (Number.takeSign (trim s.toList)).1 = (sign == ['-']) := by
    rw [Bool.eq_iff_iff, hnegative, beq_iff_eq]
  generalize hbody' : (Number.takeSign (trim s.toList)).2 = body at hbody
  have hint : Number.readInt (strip s) =
      (Number.readDigits 10 body).map fun n => if sign == ['-'] then -(n : Int) else n := by
    rw [Number.readInt, Number.readIntIn, strip, String.toList_ofList, dropPadding_trim]
    simp only [Number.readNatural_ten, hnegative, hbody']
  have hfloat : ∀ {x : Float}, Number.readFloat? (strip s) = some x → x.isFinite = true →
      ∃ d, Number.decimalText? body = some d ∧ x = d.toFloat (sign == ['-']) := by
    intro x hx hfinite
    rw [Number.readFloat?, strip, String.toList_ofList, dropPadding_trim] at hx
    simp only [hnegative, hbody'] at hx
    split at hx
    · have : x.isFinite = false := by
        cases hx
        split <;> rfl
      rw [hfinite] at this
      cases this
    split at hx
    · cases hx
      cases hfinite
    · obtain ⟨d, hd, rfl⟩ := Option.map_eq_some_iff.mp hx
      exact ⟨d, hd, rfl⟩
  have haccepts : ∀ {p : Parts} {d : DecimalText}, body = p.text → p.Reads d →
      Accepts s.toList lead sign p trail d := by
    intro p d hp hreads
    refine ⟨?_, hlead, htrail, hsign, hreads⟩
    rw [htext, hbody, hp, append_assoc]
  unfold parseNumber? at h
  dsimp only at h
  split at h
  · rename_i i hi
    cases h
    rw [hint] at hi
    cases hdigits : Number.readDigits 10 body with
    | error f =>
      rw [hdigits] at hi
      cases hi
    | ok n =>
      rw [hdigits] at hi
      cases hi
      obtain ⟨ds, hds, hlen, rfl⟩ := Number.readDigits_eq_ok.mp hdigits
      obtain ⟨p, hp, hreads, hvalue⟩ := exists_whole hds
      refine ⟨lead, sign, p, trail, ⟨ds, [], 0⟩, haccepts hp hreads, ?_, fun x hx => by cases hx⟩
      rw [numeralValue, hvalue]
      simp [hlen]
  · rename_i f hfault
    split at h
    · rename_i x hx
      split at h
      · rename_i hfinite
        cases h
        obtain ⟨d, hd, rfl⟩ := hfloat hx hfinite
        obtain ⟨p, hp, hreads⟩ := exists_parts hd
        refine ⟨lead, sign, p, trail, d, haccepts hp hreads, ?_,
          fun y hy => by cases hy; exact hfinite⟩
        rw [numeralValue, if_neg]
        intro hshort
        simp only [Bool.and_eq_true, Bool.not_eq_true', decide_eq_true_eq] at hshort
        have hrun := run_of_unmarked hreads hshort.1
        rw [← hp] at hrun
        rw [hint, Number.readDigits_eq_ok.mpr ⟨_, hrun, hshort.2, rfl⟩] at hfault
        cases hfault
      · cases h
    · cases h

/-! ## Their characters -/

/-- The characters that a number can be written with. -/
def NumberChar (c : Char) : Prop :=
  isBlank c = true ∨ (∃ d, digitValue? c = some d) ∨ c ∈ ['_', '.', 'e', 'E', '+', '-']

theorem NumberChar.ne {x : Char} (h : NumberChar c)
    (hx : (isBlank x || (digitValue? x).isSome ||
      ['_', '.', 'e', 'E', '+', '-'].contains x) = false) : c ≠ x := by
  rintro rfl
  simp only [Bool.or_eq_false_iff, Option.isSome_eq_false_iff, Option.isNone_iff_eq_none] at hx
  rcases h with h | ⟨d, hd⟩ | h
  · rw [hx.1.1] at h
    cases h
  · rw [hx.1.2] at hd
    cases hd
  · rw [contains_iff_mem.mpr h] at hx
    cases hx.2

section

variable {s : String} {lead sign trail : List Char} {p : Parts} {d : DecimalText}

theorem Accepts.char (h : Accepts s.toList lead sign p trail d) (hc : c ∈ s.toList) :
    NumberChar c := by
  rw [h.text, mem_append, mem_append, mem_append] at hc
  rcases hc with hc | hc | hc | hc
  · exact .inl (h.lead c hc)
  · rcases h.sign with rfl | rfl | rfl
    · cases hc
    · exact .inr (.inr (by simp [mem_singleton.mp hc]))
    · exact .inr (.inr (by simp [mem_singleton.mp hc]))
  · exact .inr (h.reads.char hc)
  · exact .inl (h.trail c hc)

/-- Whether a sign stands somewhere in a text. -/
def hasSign (s : String) : Bool :=
  s.toList.any fun c => c == '+' || c == '-'

theorem mem_of_occursIn {part whole : List Char} (h : occursIn part whole = true)
    (hc : c ∈ part) : c ∈ whole := by
  induction whole with
  | nil =>
    rw [occursIn, List.isEmpty_iff] at h
    rw [h] at hc
    cases hc
  | cons d rest ih =>
    rw [occursIn, Bool.or_eq_true] at h
    rcases h with h | h
    · exact (List.isPrefixOf_iff_prefix.mp h).subset hc
    · exact mem_cons_of_mem _ (ih h)

theorem mem_of_hasCall {cs : List Char} (h : hasCall cs = true) : '(' ∈ cs := by
  induction cs with
  | nil => cases h
  | cons c rest ih =>
    rw [hasCall, Bool.or_eq_true, Bool.and_eq_true] at h
    rcases h with ⟨-, h⟩ | h
    · unfold hasArguments at h
      split at h
      · rename_i more hdrop
        have hmem : '(' ∈ (rest.dropWhile isWord).dropWhile isBlank := by simp [hdrop]
        exact mem_cons_of_mem _
          ((dropWhile_sublist _).subset ((dropWhile_sublist _).subset hmem))
      · cases h
    · exact mem_cons_of_mem _ (ih h)

/-- **A number is taken for code if and only if it has a sign.** -/
theorem Accepts.looksLikeCode (h : Accepts s.toList lead sign p trail d) :
    looksLikeCode s = hasSign s := by
  have hmarks : codeMarks.any (contains s) = false := by
    rw [any_eq_false]
    intro mark hmark hcontains
    obtain ⟨c, hc, hne⟩ : ∃ c ∈ mark.toList, ¬NumberChar c := by
      simp only [codeMarks, mem_cons, not_mem_nil, or_false] at hmark
      rcases hmark with rfl | rfl | rfl | rfl | rfl | rfl
      · exact ⟨'v', by decide, fun h => h.ne (by decide) rfl⟩
      · exact ⟨'v', by decide, fun h => h.ne (by decide) rfl⟩
      · exact ⟨'m', by decide, fun h => h.ne (by decide) rfl⟩
      · exact ⟨'r', by decide, fun h => h.ne (by decide) rfl⟩
      · exact ⟨'c', by decide, fun h => h.ne (by decide) rfl⟩
      · exact ⟨'r', by decide, fun h => h.ne (by decide) rfl⟩
    exact hne (h.char (mem_of_occursIn hcontains hc))
  have hcall : hasCall s.toList = false :=
    Bool.eq_false_iff.mpr fun hcall => (h.char (mem_of_hasCall hcall)).ne (by decide) rfl
  rw [Compile.looksLikeCode, hmarks, hcall, hasSign, Bool.false_or, Bool.false_or]
  rw [Bool.eq_iff_iff, any_eq_true, any_eq_true]
  refine exists_congr fun c => and_congr_right fun hc => ?_
  have hsigns : isOperatorChar c = true ↔
      c ∈ ['+', '-', '*', '/', '%', '&', '|', '<', '>', '=', '!'] :=
    contains_iff_mem
  rw [hsigns, Bool.or_eq_true, beq_iff_eq, beq_iff_eq]
  constructor
  · intro hm
    have hothers : ∀ x ∈ ['*', '/', '%', '&', '|', '<', '>', '=', '!'],
        (isBlank x || (digitValue? x).isSome ||
          ['_', '.', 'e', 'E', '+', '-'].contains x) = false := forall_mem_of_all (by decide)
    rcases mem_cons.mp hm with rfl | hm
    · exact .inl rfl
    rcases mem_cons.mp hm with rfl | hm
    · exact .inr rfl
    · exact absurd rfl ((h.char hc).ne (hothers c hm))
  · rintro (rfl | rfl) <;> simp

/-! ## Signs in programs -/

def signTokens (sign : List Char) : List Token :=
  sign.map fun c => .op (String.singleton c)

/-- A number with a sign, as an expression. -/
def signTree (sign : List Char) (v : Value) : Expr :=
  if sign = ['-'] then .signed .minus (.constant v)
  else if sign = ['+'] then .signed .plus (.constant v)
  else .constant v

theorem isExpr_sign (h : sign = [] ∨ sign = ['+'] ∨ sign = ['-']) (v : Value) :
    IsExpr (signTokens sign ++ [.number v]) (signTree sign v) := by
  have hnumber := (isPrimary_number v).unary
  rcases h with rfl | rfl | rfl
  · exact hnumber.expr
  · exact (IsUnary.signed rfl hnumber).expr
  · exact hnumber.minus.expr

theorem token?_sign {sign : Char} (hsign : sign = '+' ∨ sign = '-') (hc : c ≠ '=' ∧ c ≠ '>')
    (cs : List Char) : token? (sign :: c :: cs) = some (.op (String.singleton sign), c :: cs) := by
  have heq : ('=' == c) = false := beq_eq_false_iff_ne.mpr hc.1.symm
  have hgt : ('>' == c) = false := beq_eq_false_iff_ne.mpr hc.2.symm
  rcases hsign with rfl | rfl
  · have hop : operator? ('+' :: c :: cs) = some "+" := by
      simp [operator?, operators, List.isPrefixOf, heq]
    show (operator? ('+' :: c :: cs)).map _ = _
    rw [hop]
    rfl
  · have hop : operator? ('-' :: c :: cs) = some "-" := by
      simp [operator?, operators, List.isPrefixOf, heq, hgt]
    show (operator? ('-' :: c :: cs)).map _ = _
    rw [hop]
    rfl

theorem head_numeral (h : p.Reads d) :
    ∃ c rest, p.text = c :: rest ∧ (c = '.' ∨ ∃ v, digitValue? c = some v) := by
  rcases h.start with ⟨-, c, rest, v, hcons, hv⟩ | ⟨hnil, c, rest, v, hf, -⟩
  · exact ⟨c, rest ++ (p.dotted ++ p.raised), by simp [Parts.text, hcons], .inr ⟨v, hv⟩⟩
  · exact ⟨'.', c :: (rest ++ p.raised), by simp [Parts.text, Parts.dotted, hnil, hf], .inl rfl⟩

theorem lexes_sign (h : Accepts s.toList lead sign p trail d) {x : List Char}
    {out : Option (List Token)} (hx : Lexes false (inside (signTokens sign)) (p.text ++ x) out) :
    Lexes false (inside []) (sign ++ (p.text ++ x)) out := by
  obtain ⟨c, rest, htext, hc⟩ := head_numeral h.reads
  have hne : c ≠ '=' ∧ c ≠ '>' := by
    rcases hc with rfl | hc
    · decide
    · exact ⟨NumberChar.ne (.inr (.inl hc)) (by decide), NumberChar.ne (.inr (.inl hc)) (by decide)⟩
  rw [htext, cons_append] at hx ⊢
  rcases h.sign with rfl | rfl | rfl
  · exact hx
  · exact Lexes.token (token?_sign (.inl rfl) hne _) (take_inside rfl) hx
  · exact Lexes.token (token?_sign (.inr rfl) hne _) (take_inside rfl) hx

theorem lexes_numeral_none (h : p.Reads d) {x : List Char} {st : LexState}
    (ht : token? (p.text ++ x) = none) : Lexes false st (p.text ++ x) none := by
  obtain ⟨c, rest, htext, hc⟩ := head_numeral h
  have hne : ∀ e ∈ ['\n', '#', '\\', ' ', '\t', '\x0c'], c ≠ e := by
    have hall : ∀ e ∈ ['\n', '#', '\\', ' ', '\t', '\x0c'], e ≠ '.' ∧ digitValue? e = none :=
      forall_mem_of_all (by decide)
    rintro e he rfl
    obtain ⟨hdot, hnone⟩ := hall c he
    rcases hc with hc | ⟨v, hv⟩
    · exact hdot hc
    · rw [hnone] at hv
      cases hv
  rw [htext, cons_append] at ht ⊢
  refine lexes_none (fun hm => hne c (mem_append_left [' ', '\t', '\x0c'] hm) rfl) ?_ ht
  simp [isGap, hne]

/-! ## Numbers in brackets -/

theorem Accepts.evened (h : Accepts s.toList lead sign p trail d) :
    evened (s.toList ++ [')']) =
      evened lead ++ (sign ++ (p.text ++ (evened trail ++ [')']))) := by
  have hclean : ∀ c ∈ ['\r', '\n'], c ∉ sign ++ p.text := by
    have hall : ∀ c ∈ ['\r', '\n'], c ∉ ['_', '.', 'e', 'E', '+', '-'] ∧ digitValue? c = none :=
      forall_mem_of_all (by decide)
    intro c hc hm
    obtain ⟨hmarks, hnone⟩ := hall c hc
    rcases mem_append.mp hm with hm | hm
    · rcases h.sign with rfl | rfl | rfl
      · cases hm
      · exact hmarks (by simp [mem_singleton.mp hm])
      · exact hmarks (by simp [mem_singleton.mp hm])
    · rcases h.reads.char hm with ⟨v, hv⟩ | hm
      · rw [hnone] at hv
        cases hv
      · exact hmarks hm
  obtain ⟨c, rest, htext, -⟩ := head_numeral h.reads
  have hne : sign ++ p.text ≠ [] := by simp [htext]
  have hhead : (sign ++ p.text ++ (trail ++ [')'])).head? ≠ some '\n' := by
    rw [head?_append_of_ne_nil _ hne]
    exact fun he => hclean '\n' (by simp) (mem_of_mem_head? he)
  have hcs : s.toList ++ [')'] = lead ++ (sign ++ p.text ++ (trail ++ [')'])) := by
    rw [h.text]
    simp
  have hmiddle : Script.evened (sign ++ p.text ++ (trail ++ [')'])) =
      sign ++ p.text ++ (Script.evened trail ++ [')']) := by
    rw [evened_of_clean (hclean '\r' (by simp)), evened_append trail (by simp)]
    rfl
  rw [hcs, evened_append lead hhead, hmiddle, append_assoc]

theorem blanks_evened (h : ∀ c ∈ gap, isBlank c = true) :
    ∀ c ∈ evened gap, isBlank c = true := by
  intro c hc
  by_cases hline : c = '\n'
  · rw [hline]
    rfl
  · exact h c ((mem_evened hline gap).mp hc).1

theorem quits_gap (h : ∀ c ∈ gap, isBlank c = true) : Quits (gap ++ [')']) := by
  intro c hc
  cases gap with
  | nil =>
    cases hc
    decide
  | cons e gap =>
    cases hc
    have hblank := h c (mem_cons_self ..)
    have hmarks : ∀ x ∈ ['_', '.', 'e', 'E', 'j', 'J'] ++ baseMarks, isBlank x = false :=
      forall_mem_of_all (by decide)
    refine ⟨?_, fun hm => ?_, fun hm => ?_⟩
    · cases hdigit : c.isDigit with
      | false => rfl
      | true =>
        have hrange := Number.range_of_isDigit hdigit
        simp only [isBlank, Bool.or_eq_true, Bool.and_eq_true, decide_eq_true_eq,
          beq_iff_eq] at hblank
        omega
    · rw [hmarks c (mem_append_left _ hm)] at hblank
      cases hblank
    · rw [hmarks c (mem_append_right _ hm)] at hblank
      cases hblank

theorem canEnd_gap (h : ∀ c ∈ gap, isFiller c = true) :
    canEnd (gap ++ [')']) = true := by
  cases gap with
  | nil => decide
  | cons c gap =>
    have hc := h c (mem_cons_self ..)
    simp only [isFiller, isGap, Bool.or_eq_true, beq_iff_eq] at hc
    have hword : isWordChar c = false := by
      rcases hc with ((rfl | rfl) | rfl) | rfl <;> decide
    rw [cons_append, canEnd, hword]
    rfl

/-- Whether a character stands in programs: between tokens, or in a number. -/
def isPlain (c : Char) : Bool :=
  c.toNat < 0x80 && (!isBlank c || isFiller c || c == '\r')

/-- Whether a number has a point or an exponent. -/
def isMarked (s : String) : Bool :=
  s.toList.any fun c => c == '.' || c == 'e' || c == 'E'

/-- Whether a number can stand in a program as it is: in plain characters, and without zeros in
front if it has neither a point nor an exponent. -/
def isSource (s : String) : Bool :=
  s.toList.all isPlain && (isMarked s || isWhole (s.toList.filter Char.isDigit))

/-- What a number evaluates to that stands in a program as it is: the number, but for zeros that are
too many to be read as an integer. -/
def sourceValue (s : String) : Value → Value
  | .float x => if isMarked s then .float x else .int 0
  | v => v

theorem filler_evened (hblank : ∀ c ∈ gap, isBlank c = true)
    (h : ∀ c ∈ gap, isPlain c = true) : ∀ c ∈ evened gap, isFiller c = true := by
  intro c hc
  by_cases hline : c = '\n'
  · rw [hline]
    rfl
  obtain ⟨hc, hreturn⟩ := (mem_evened hline gap).mp hc
  have hplain := h c hc
  rw [isPlain, hblank c hc, Bool.and_eq_true] at hplain
  simpa [hreturn] using hplain.2

theorem odd_evened (h : ∃ c ∈ gap, isPlain c = false) : ∃ c ∈ evened gap, isFiller c = false := by
  obtain ⟨c, hc, hplain⟩ := h
  have hwide : ∀ x : Char, isFiller x = true ∨ x = '\r' → isPlain x = true := by
    intro x hx
    simp only [isFiller, isGap, Bool.or_eq_true, beq_iff_eq] at hx
    rcases hx with (((rfl | rfl) | rfl) | rfl) | rfl <;> decide
  have hline : c ≠ '\n' := by
    rintro rfl
    cases hplain
  have hreturn : c ≠ '\r' := by
    rintro rfl
    cases hplain
  refine ⟨c, (mem_evened hline gap).mpr ⟨hc, hreturn⟩, ?_⟩
  exact Bool.eq_false_iff.mpr fun hfiller => by
    rw [hwide c (.inl hfiller)] at hplain
    cases hplain

theorem Accepts.zero (h : Accepts s.toList lead sign p trail d) : '\x00' ∉ s.toList ++ [')'] := by
  intro hm
  rcases mem_append.mp hm with hm | hm
  · exact (h.char hm).ne (by decide) rfl
  · exact absurd (mem_singleton.mp hm) (by decide)

theorem Accepts.marked (h : Accepts s.toList lead sign p trail d) :
    isMarked s = p.marked := by
  have hgap : ∀ {gap : List Char}, (∀ c ∈ gap, isBlank c = true) →
      gap.any (fun c => c == '.' || c == 'e' || c == 'E') = false := by
    intro gap hgap
    rw [any_eq_false]
    intro c hc hmark
    simp only [Bool.or_eq_true, beq_iff_eq] at hmark
    rcases hmark with (rfl | rfl) | rfl <;> exact absurd (hgap _ hc) (by decide)
  have hsign : sign.any (fun c => c == '.' || c == 'e' || c == 'E') = false := by
    rcases h.sign with rfl | rfl | rfl <;> rfl
  have hbody : p.text.any (fun c => c == '.' || c == 'e' || c == 'E') = p.marked := by
    rw [Bool.eq_iff_iff, h.reads.marked_iff, any_eq_true]
    simp [or_assoc]
  rw [isMarked, h.text, any_append, any_append, any_append, hgap h.lead, hgap h.trail, hsign, hbody]
  simp

theorem Accepts.digits (h : Accepts s.toList lead sign p trail d)
    (hascii : ∀ c ∈ p.text, c.toNat < 0x80)
    (hmarked : p.marked = false) : s.toList.filter Char.isDigit = plain p.whole := by
  have hgap : ∀ {gap : List Char}, (∀ c ∈ gap, isBlank c = true) →
      gap.filter Char.isDigit = [] := by
    intro gap hgap
    rw [List.filter_eq_nil_iff]
    intro c hc hdigit
    have hrange := Number.range_of_isDigit hdigit
    have hblank := hgap c hc
    simp only [isBlank, Bool.or_eq_true, Bool.and_eq_true, decide_eq_true_eq, beq_iff_eq] at hblank
    omega
  have hsign : sign.filter Char.isDigit = [] := by
    rcases h.sign with rfl | rfl | rfl <;> rfl
  have htext : p.text = p.whole := by
    obtain ⟨whole, fraction, raised⟩ := p
    simp only [Parts.marked, Bool.or_eq_false_iff, Option.isSome_eq_false_iff,
      Option.isNone_iff_eq_none, Bool.not_eq_false', List.isEmpty_iff] at hmarked
    simp [Parts.text, Parts.dotted, hmarked]
  rw [h.text, List.filter_append, List.filter_append, List.filter_append, hgap h.lead, hgap h.trail,
    hsign, htext, List.append_nil, List.nil_append, List.nil_append, plain]
  refine List.filter_congr fun c hc => ?_
  rcases mem_optionalRun h.reads.whole hc with rfl | ⟨v, hv⟩
  · rfl
  · rw [(digitValue?_ascii hv (hascii c (htext ▸ hc))).1]
    simpa using Number.digitValue?_ne_underscore hv

/-- The number that a numeral with a sign is in a program. -/
def tokenValue (negative : Bool) (p : Parts) (d : DecimalText) : Value :=
  if p.marked then .float (d.toFloat negative)
  else .int (if negative then -(ofDigits d.whole : Int) else ofDigits d.whole)

theorem computes_sign (hsign : sign = [] ∨ sign = ['+'] ∨ sign = ['-'])
    (hfinite : ∀ x, numeralValue (sign == ['-']) p d = .float x → x.isFinite = true) :
    Computes (signTree sign (tokenValue false p d)) (tokenValue (sign == ['-']) p d) := by
  intro scope m _
  unfold tokenValue
  cases hmarked : p.marked with
  | false => rcases hsign with rfl | rfl | rfl <;> rfl
  | true =>
    have hsettle := settle_eq (v := .float (d.toFloat (sign == ['-'])))
      (fun x hx => Number.isNaN_of_isFinite
        (hfinite x (by simpa [numeralValue, hmarked] using hx))) m
    rcases hsign with rfl | rfl | rfl
    · exact hsettle.symm
    · rfl
    · show Script.settle (.float (-d.toFloat false)) m = _
      rw [Number.neg_toFloat]
      rfl

theorem sourceValue_eq (hmark : isMarked s = p.marked) {negative : Bool}
    (hwhole : p.marked = true ∨ isWhole (plain p.whole) = true)
    (hdigits : (plain p.whole).map Number.charValue = d.whole) :
    sourceValue s (numeralValue negative p d) = tokenValue negative p d := by
  unfold numeralValue tokenValue
  cases hmarked : p.marked with
  | true => simp [sourceValue, hmark, hmarked]
  | false =>
    by_cases hshort : d.whole.length ≤ maxDigits
    · simp [sourceValue, hshort]
    · -- Digits that are too many can stand in a program only if all of them are zeros.
      have hzeros : ∀ c ∈ plain p.whole, c = '0' := by
        have hone := hwhole.resolve_left (by simp [hmarked])
        rw [← hdigits, length_map] at hshort
        simpa [isWhole, hshort] using hone
      have hnone : ofDigits d.whole = 0 := by
        rw [← hdigits, map_congr_left (g := fun _ => 0) fun c hc => by rw [hzeros c hc]; rfl,
          map_const', Number.ofDigits_zeros]
      simp [sourceValue, hmark, hmarked, hshort, hnone]

/-- **A number in plain characters evaluates to what it is in a program.** -/
theorem Accepts.evaluates (h : Accepts s.toList lead sign p trail d)
    (hfinite : ∀ x, numeralValue (sign == ['-']) p d = .float x → x.isFinite = true)
    (hsource : isSource s = true) :
    Evaluates ('(' :: (s.toList ++ [')'])) (sourceValue s (numeralValue (sign == ['-']) p d)) := by
  rw [isSource, Bool.and_eq_true, all_eq_true, h.marked, Bool.or_eq_true] at hsource
  obtain ⟨hplain, hshape⟩ := hsource
  have hparts : ∀ c, c ∈ lead ∨ c ∈ p.text ∨ c ∈ trail → isPlain c = true := fun c hc => by
    refine hplain c ?_
    rw [h.text]
    simp only [mem_append]
    tauto
  have hascii : ∀ c ∈ p.text, c.toNat < 0x80 := fun c hc => by
    have hc := hparts c (.inr (.inl hc))
    rw [isPlain, Bool.and_eq_true, decide_eq_true_eq] at hc
    exact hc.1
  have hlead := filler_evened h.lead fun c hc => hparts c (.inl hc)
  have htrail := filler_evened h.trail fun c hc => hparts c (.inr (.inr hc))
  have hwhole : p.marked = true ∨ isWhole (plain p.whole) = true := by
    cases hmarked : p.marked with
    | true => exact .inl rfl
    | false =>
      rw [h.digits hascii hmarked] at hshape
      exact .inr (hshape.resolve_left (by simp [hmarked]))
  have hdigits :=
    (optionalRun_ascii h.reads.whole fun c hc => hascii c (by simp [Parts.text, hc])).2
  have htoken := token?_ascii h.reads hascii (quits_gap (blanks_evened h.trail))
  rw [canEnd_gap htrail, Bool.true_and, if_pos (by simpa using hwhole)] at htoken
  rw [sourceValue_eq h.marked hwhole hdigits]
  refine ⟨_, expression?_enclosed h.zero ?_ (isExpr_sign h.sign (tokenValue false p d)),
    computes_sign h.sign hfinite⟩
  rw [h.evened]
  exact Lexes.fillers (by simp [inside]) hlead (lexes_sign h (Lexes.token htoken (take_inside rfl)
    (lexes_close _ htrail)))

/-- **Any other number is no expression.** -/
theorem Accepts.refused (h : Accepts s.toList lead sign p trail d) (hsource : isSource s = false) :
    expression? ('(' :: (s.toList ++ [')'])) = none := by
  refine expression?_stuck h.zero ?_
  rw [h.evened]
  have hopen : (inside []).brackets ≠ [] := by simp [inside]
  by_cases hlead : ∀ c ∈ lead, isPlain c = true
  swap
  · simp only [not_forall, Bool.not_eq_true] at hlead
    obtain ⟨c, hc, hodd⟩ := hlead
    exact lexes_odd hopen (blanks_evened h.lead) (odd_evened ⟨c, hc, hodd⟩) _
  refine Lexes.fillers hopen (filler_evened h.lead hlead) (lexes_sign h ?_)
  have hquits := quits_gap (blanks_evened h.trail)
  by_cases hascii : ∀ c ∈ p.text, c.toNat < 0x80
  swap
  · simp only [not_forall, Nat.not_lt] at hascii
    obtain ⟨c, hc, hwide⟩ := hascii
    rcases token?_stranger h.reads ⟨c, hc, hwide⟩ hquits with hnone | ⟨e, rest, hpoint, hstranger⟩
    · exact lexes_numeral_none h.reads hnone
    · have hne : ∀ x ∈ ['\n', '#', '\\', ' ', '\t', '\x0c'], e ≠ x := fun x hx =>
        hstranger.ne ((forall_mem_of_all (P := fun x : Char => x.toNat < 0x80) (by decide)) x hx)
      refine Lexes.token hpoint (take_inside rfl)
        (lexes_none (fun hm => ?_) ?_ (hstranger.token? rest))
      · exact hne e (mem_append_left [' ', '\t', '\x0c'] hm) rfl
      · simp [isGap, hne]
  have htoken := token?_ascii h.reads hascii hquits
  split at htoken
  · rename_i hcan
    refine Lexes.token htoken (take_inside rfl)
      (lexes_odd (by simp [inside]) (blanks_evened h.trail) (odd_evened ?_) _)
    -- Were the blanks behind it plain too, the number could stand in a program.
    by_contra htrail
    simp only [not_exists, not_and, Bool.not_eq_false] at htrail
    have hplain : ∀ c ∈ s.toList, isPlain c = true := by
      intro c hc
      rw [h.text, mem_append, mem_append, mem_append] at hc
      rcases hc with hc | hc | hc | hc
      · exact hlead c hc
      · rcases h.sign with rfl | rfl | rfl
        · cases hc
        · rw [mem_singleton.mp hc]
          rfl
        · rw [mem_singleton.mp hc]
          rfl
      · have hrange := h.reads.range hc (hascii c hc)
        have hblank : isBlank c = false := by
          simp only [isBlank, Bool.or_eq_false_iff, Bool.and_eq_false_iff, decide_eq_false_iff_not,
            beq_eq_false_iff_ne]
          omega
        simp [isPlain, hblank, hascii c hc]
      · exact htrail c hc
    rw [isSource, all_eq_true.mpr hplain, h.marked, Bool.true_and, Bool.or_eq_false_iff] at hsource
    rw [hsource.1, Bool.false_or, Bool.and_eq_true] at hcan
    rw [h.digits hascii hsource.1, hcan.2] at hsource
    cases hsource.2
  · exact lexes_numeral_none h.reads htoken

end

/-! ## Numbers given to inputs -/

/-- A text in brackets, as inputs stand in programs. -/
def bracketed (text : String) : List Char :=
  '(' :: (text.toList ++ [')'])

theorem isScalar_number {s : String} {v : Value} (h : parseNumber? s = some v) :
    isScalar v = true := by
  have hwritable := isWritable_parseNumber? h
  obtain ⟨lead, sign, p, trail, d, -, rfl, -⟩ := exists_accepts h
  unfold numeralValue at hwritable ⊢
  split
  · rename_i hint
    rw [if_pos hint] at hwritable
    exact hwritable
  · rfl

theorem resolve_fresh {g : Graph} {n : Node} {input text : String} {c : Context}
    (hnew : c.memo.lookup (n.id, input) = none) (hfree : c.resolving.contains (n.id, input) = false)
    (h : ∀ res c, ∃ c', resolveFresh g res n input c = .ok (text, c')) :
    ∃ c', resolve g n input c = .ok (text, c') := by
  obtain ⟨c', hc'⟩ := h (resolveWithin g (g.nodes.length * askedNames.length + 1))
    (c.enter (n.id, input))
  refine ⟨c'.leave (n.id, input) text, ?_⟩
  show resolveWithin g (g.nodes.length * askedNames.length + 1 + 1) n input c = _
  rw [resolveWithin_succ, hnew]
  simp only [hfree, hc', Bool.false_eq_true, if_false, Except.map]

/-- A default with a sign that starts with a zero is a number, but no expression: where a number
node gives minus five, it gives nothing. -/
theorem padded_default :
    parseNumber? "-05" = some (.int (-5)) ∧ defaultText (.str "-05") .number = .ok "-05" ∧
      expression? "-05".toList = none ∧ expression? (bracketed "-05") = none ∧
      literal (.int (-5)) = "-5" :=
  ⟨rfl, rfl, rfl, rfl, rfl⟩

/-- **Numbers as defaults.** A number node gives the literal of its number, and an input that
nothing feeds gives this literal too, unless its default has a sign: then it gives the default as it
is. The literal evaluates to the number. So does the default, if it can stand in a program, with the
one exception of too many zeros, which are the integer; otherwise it is no expression at all. -/
theorem resolve_number {s : String} {v : Value} (h : parseNumber? s = some v) {g : Graph} {n : Node}
    {input : String} {c : Context} (hnew : c.memo.lookup (n.id, input) = none)
    (hfree : c.resolving.contains (n.id, input) = false) :
    (∀ source, feed g n input = .source .number source →
        source.properties.get? "value" = some (.str s) →
        ∃ c', resolve g n input c = .ok (literal v, c')) ∧
      (∀ p, feed g n input = .own → n.input? input = some p → p.dataType = .number →
        p.default = .str s →
        ∃ c', resolve g n input c = .ok (if hasSign s then s else literal v, c')) ∧
      Evaluates (bracketed (literal v)) v ∧
      (isSource s = true → Evaluates (bracketed s) (sourceValue s v)) ∧
      (isSource s = false → expression? (bracketed s) = none) := by
  obtain ⟨lead, sign, p, trail, d, haccepts, hvalue, hfinite⟩ := exists_accepts h
  refine ⟨fun source hfeed hs => resolve_fresh hnew hfree fun res c => ⟨c, ?_⟩,
    fun q hfeed hq htype hdefault => resolve_fresh hnew hfree fun res c => ⟨c, ?_⟩,
    (denotes_literal (isScalar_number h)).enclosed, fun hsource => ?_, haccepts.refused⟩
  · have htext : numberNodeText source = literal v := by
      rw [numberNodeText, Fields.getD, hs, Option.getD_some]
      simp [h]
    rw [resolveFresh_eq, hfeed]
    show Except.ok (numberNodeText source, c) = _
    rw [htext]
  · have htext : numberText s = if hasSign s then s else literal v := by
      rw [numberText, haccepts.looksLikeCode, h]
    rw [resolveFresh_eq, hfeed]
    show defaultOf n input c = _
    rw [defaultOf, hq]
    simp only [htype, hdefault, defaultText, htext]
    rfl
  · subst hvalue
    exact haccepts.evaluates hfinite hsource

/-- A sum with the same number in a node that feeds it and as a default, with a sign and blanks. -/
theorem resolve_number_negative :
    let g := Graph.edited .standard [.create (.str "number") .null .null,
      .setProperty (.int 1) (.str "value") (.str " -5\n"), .create (.str "add") .null .null,
      .setDefault (.int 2) (.str "b") (.str " -5\n"),
      .connect "00000001" (.int 1) (.str "value") (.int 2) (.str "a")]
    ∃ n ∈ g.nodes, (∃ c, resolve g n "a" {} = .ok ("-5", c)) ∧
      (∃ c, resolve g n "b" {} = .ok (" -5\n", c)) ∧
      Evaluates (bracketed "-5") (.int (-5)) ∧ Evaluates (bracketed " -5\n") (.int (-5)) := by
  intro g
  obtain ⟨n, source, p, hn, hfed, hvalue, hown, hp, htype, hdefault⟩ : ∃ n source p,
      g.node? (.int 2) = some n ∧ feed g n "a" = .source .number source ∧
      source.properties.get? "value" = some (.str " -5\n") ∧ feed g n "b" = .own ∧
      n.input? "b" = some p ∧ p.dataType = .number ∧ p.default = .str " -5\n" :=
    ⟨_, _, _, rfl, rfl, rfl, rfl, rfl, rfl, rfl⟩
  have h : parseNumber? " -5\n" = some (.int (-5)) := rfl
  have hsource : isSource " -5\n" = true := by decide +kernel
  obtain ⟨ha, -, hliteral, hraw, -⟩ := @resolve_number _ _ h g n "a" {} rfl rfl
  obtain ⟨-, hb, -, -, -⟩ := @resolve_number _ _ h g n "b" {} rfl rfl
  exact ⟨n, Graph.mem_of_node? hn, ha source hfed hvalue, hb p hown hp htype hdefault, hliteral,
    hraw hsource⟩

end Sketchflow.Compile
