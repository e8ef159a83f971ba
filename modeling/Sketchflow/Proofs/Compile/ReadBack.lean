import Sketchflow.Proofs.Compile.Operands
import Sketchflow.Proofs.Json.RoundTrip
import Sketchflow.Proofs.Script.Expression
import Sketchflow.Proofs.Script.Numeral

/-!
# Literals read back

A value is written into a program as a text, and the program computes it again from the text.

* `Evaluates` says that a text is an expression with some value; `Denotes` says so of an operand of
  few tokens, which has this value in brackets as well.
* `denotes_literal`: the literal of a scalar has the scalar as its value.
* **`literal_reads_back`**: it does so with the same kind and on one line, and a text also comes
  back from its literal alone, as a program reads it and as a document does.
-/

namespace Sketchflow.Compile

open List Number Script

variable {x : Float} {v : Value}

/-! ## Values of texts -/

/-- Whether a name means the same in a scope as outside of all programs. -/
def leaves (scope : Scope) (name : String) : Bool :=
  !scope.own.contains name && !(scope.around.getD []).contains name

/-- An expression has a value wherever it stands in a program, if doubles can be converted there. -/
def Computes (e : Expr) (v : Value) : Prop :=
  ∀ (scope : Scope) (m : Machine), leaves scope "float" = true → eval invoke scope e m =
    Script.settle v m

def Evaluates (text : List Char) (v : Value) : Prop :=
  ∃ e, expression? text = some e ∧ Computes e v

/-- A text is an operand of few tokens that has a value. -/
def Denotes (text : List Char) (v : Value) : Prop :=
  ∃ e, FormsBy (IsBrief 4) false text e ∧ Computes e v

/-- The values that are no containers and can be written. -/
def isScalar : Value → Bool
  | .null | .bool _ | .float _ | .str _ => true
  | .int i => !Value.isLong i
  | _ => false

theorem settle_eq (h : ∀ x, v = .float x → x.isNaN = false) (m : Machine) :
    Script.settle v m = .ok v m := by
  cases v with
  | float x =>
    rw [Script.settle, h x rfl]
    rfl
  | _ => rfl

theorem settle_nan (h : x.isNaN = true) (m : Machine) :
    Script.settle (.float x) m = .ok (.nan m.nextMark) { m with nextMark := m.nextMark + 1 } := by
  rw [Script.settle, h]
  rfl

theorem Denotes.evaluates {text : List Char} (h : Denotes text v) : Evaluates text v := by
  obtain ⟨e, hforms, hv⟩ := h
  exact ⟨e, hforms.expression?_of_brief (by decide), hv⟩

theorem Denotes.enclosed {text : List Char} (h : Denotes text v) :
    Evaluates ('(' :: (text ++ [')'])) v := by
  obtain ⟨e, hforms, hv⟩ := h
  have hfs : segments? true [['('], [')']] = some [[.op "("], [.op ")"]] := rfl
  have htext : '(' :: (text ++ [')']) = weave [['('], [')']] [text] := by simp [weave]
  have henclosed : FormsBy (IsBrief 6) false ('(' :: (text ++ [')'])) e := by
    rw [htext]
    refine forms_phrase hfs (balanced_of_bracketsAll rfl) (.cons hforms .nil) (by simp) ?_
    intro tas htas
    obtain _ | @⟨ta, _, _, _, hta, _ | _⟩ := htas
    refine ⟨(isPrimary_paren hta.unary.expr).unary, ?_⟩
    have hbrief := hta.brief
    simp only [weave, length_append, length_cons, length_nil]
    omega
  exact ⟨e, henclosed.expression?_of_brief (by decide), hv⟩

/-! ## Numbers -/

theorem denotes_int {i : Int} (h : Value.isLong i = false) :
    Denotes (toString i).toList (.int i) := by
  refine ⟨_, operand_int (Value.natAbs_lt_of_isLong h), fun scope m _ => ?_⟩
  unfold intTree
  split
  · rename_i hneg
    have hvalue : (-(i.natAbs : Int)) = i := by omega
    show Script.settle (.int (-(i.natAbs : Int))) m = _
    rw [hvalue]
  · rename_i hpos
    have hvalue : (i.natAbs : Int) = i := by omega
    show Script.settle (.int (i.natAbs : Int)) m = _
    rw [hvalue]

theorem token?_numeral (n : Number.Numeral)
    (hlen : (n.whole ++ n.fraction).length ≤ decisiveDigits) :
    token? n.text = some (.number (.float (ofDecimal false n.digits n.exponent)), []) := by
  obtain ⟨p, htext, hreads⟩ := exists_parts n.decimalText?_text
  have hascii : ∀ c ∈ p.text, c.toNat < 0x80 := fun c hc => by
    have := n.range_of_mem (htext ▸ hc)
    omega
  have hmarked : p.marked = true := by
    refine hreads.marked_iff.mpr ?_
    rw [← htext]
    rcases n.marked with hfraction | hpower
    · exact ⟨'.', by simp [Number.Numeral.text, Number.Numeral.dotted, hfraction], .inl rfl⟩
    · obtain hnil | ⟨sign, ds, -, -, -, hpower⟩ := n.isPower
      · exact absurd hnil hpower
      · exact ⟨'e', by simp [Number.Numeral.text, hpower], .inr (.inl rfl)⟩
  have htoken := token?_ascii hreads hascii (x := []) (fun c hc => by cases hc)
  rw [append_nil, ← htext, hmarked, n.toFloat_text hlen] at htoken
  exact htoken

theorem denotes_finite (h : x.isFinite = true) :
    Denotes (plain.write x).toList (.float x) := by
  obtain ⟨negative, m, e, hparts⟩ := isFinite_iff.mp h
  obtain ⟨n, htext, hlen, hvalue⟩ := write_finite hparts
  have htoken := token?_numeral n hlen
  have hline : isOneLine n.text = true := by
    refine isOneLine_iff.mpr ⟨fun c hc => ?_,
      fun hzero => absurd (n.range_of_mem hzero) (by decide)⟩
    have hrange := n.range_of_mem hc
    simp only [Text.isLineEnd, Bool.or_eq_false_iff, Bool.and_eq_false_iff, decide_eq_false_iff_not,
      beq_eq_false_iff_ne]
    omega
  have hsettle : ∀ m : Machine, Script.settle (.float x) m = .ok (.float x) m := fun m =>
    settle_eq (fun y hy => by cases hy; exact isNaN_of_isFinite h) m
  rw [htext]
  cases negative with
  | false =>
    refine ⟨_,
      forms_of_inline hline (.token htoken .nil) rfl ((isPrimary_number _).unary.brief rfl),
      fun scope m _ => ?_⟩
    rw [hvalue, hsettle]
    rfl
  | true =>
    have hhead : ∃ c ∈ n.text.head?, c.isDigit = true := by
      obtain ⟨c, hc, hdigit⟩ := AreDigits.head n.whole_digits n.whole_ne
      exact ⟨c, by rw [Number.Numeral.text, head?_append_of_ne_nil _ n.whole_ne]; exact hc, hdigit⟩
    refine ⟨_, operand_minus hline hhead htoken, fun scope m _ => ?_⟩
    rw [← hvalue, ← neg_ofDecimal]
    rfl

/-! ## Texts and other values -/

theorem spread_false (cs : List Char) : spread false cs = cs :=
  spread_eq fun _ _ => Bool.false_and _

theorem denotes_text (s : String) : Denotes (Json.literal s).toList (.str s) := by
  refine ⟨_, (operand_text s).mono fun h => h.mono (by decide), fun scope m _ => ?_⟩
  rw [spread_false, String.ofList_toList]
  rfl

theorem lookupName_leaves {scope : Scope} {name : String} (h : leaves scope name = true)
    (hv : global? name = some v) (m : Machine) : lookupName scope name m = .ok v m := by
  have heverywhere : lookupName.everywhere name m = .ok v m := by
    rw [lookupName.everywhere, hv]
    rfl
  obtain ⟨own, around⟩ := scope
  simp only [leaves, Bool.and_eq_true, Bool.not_eq_true'] at h
  cases around with
  | none =>
    show (if own.contains name then _ else lookupName.everywhere name) m = _
    rw [h.1]
    exact heverywhere
  | some outer =>
    show (if own.contains name then _
      else if outer.contains name then _ else lookupName.everywhere name) m = _
    rw [h.1, if_neg (by decide), show outer.contains name = false from h.2]
    exact heverywhere

theorem denotes_converted {s : String} (h : readFloat? s = some x) :
    Denotes ("float(" ++ Json.literal s ++ ")").toList (.float x) := by
  refine ⟨_, forms_converted s, fun scope m hleaves => ?_⟩
  have hname : lookupName scope "float" m = .ok (.handle (.kind "float")) m :=
    lookupName_leaves hleaves rfl m
  have hcall : invoke (.handle (.kind "float")) [.str s] m = .ok (.float x) m := by
    show fromExcept ((Value.str s).toFloat) m = _
    rw [Value.toFloat, h]
    rfl
  rw [spread_false, String.ofList_toList]
  show (do
    let f ← lookupName scope "float"
    Script.settle (← invoke f [.str s])) m = _
  simp only [bind, EStateM.bind, hname, hcall]

theorem denotes_word {word : String} (hline : isOneLine word.toList = true)
    (hword : inline? word.toList = some [.keyword word]) (h : wordValues.lookup word = some v)
    (hv : ∀ x, v ≠ .float x) : Denotes word.toList v :=
  ⟨_, operand_word hline hword h, fun _ m _ =>
    (settle_eq (fun x hx => absurd hx (hv x)) m).symm⟩

/-- **The literal of a scalar has the scalar as its value.** -/
theorem denotes_literal (h : isScalar v = true) : Denotes (literal v).toList v := by
  cases v with
  | null => exact denotes_word (by decide) rfl rfl (by simp)
  | bool b =>
    cases b with
    | false => exact denotes_word (by decide) rfl rfl (by simp)
    | true => exact denotes_word (by decide) rfl rfl (by simp)
  | int i => exact denotes_int (by simpa [isScalar] using h)
  | float x =>
    rw [literal]
    split
    · rename_i hfinite
      exact denotes_finite hfinite
    · exact denotes_converted (readFloat?_write x)
  | str s => exact denotes_text s
  | _ => cases h

/-! ## Literals on one line -/

theorem isClean_literal (h : isScalar v = true) : IsClean (literal v).toList := by
  have hwritable : isWritable v = true := by
    cases v <;> first | exact h | rfl
  obtain ⟨e, hforms⟩ := @literal_value false _ hwritable
  obtain ⟨ts, hspells, -⟩ := hforms.tokens
  exact hspells.clean

theorem unquote_literal (s : String) : unquote (Json.literal s) = s := by
  have htext : (Json.literal s).toList =
      '"' :: (s.toList.flatMap (Json.stringChar false) ++ ['"']) :=
    toList_literal s
  have hlast :
      ('"' :: (s.toList.flatMap (Json.stringChar false) ++ ['"'])).getLast? = some '"' := by
    rw [← cons_append]
    exact getLast?_concat ..
  rw [unquote, Json.read_literal, htext]
  simp [hlast]

/-- **Literals read back.** The literal of a scalar stands on one line, and wherever it stands in a
program it evaluates to the scalar: to the same value of the same kind, or to another not-a-number
where it is none. A text is written in double quotes, and comes back from these by the rules of
programs and by those of documents. -/
theorem literal_reads_back {v : Value} (h : isScalar v = true) :
    ('\n' ∉ (literal v).toList ∧ '\r' ∉ (literal v).toList) ∧
      (∃ e, expression? (literal v).toList = some e ∧
        ∀ (scope : Scope) (m : Machine), leaves scope "float" = true →
          ∃ w m', eval invoke scope e m = .ok w m' ∧ w.kindName = v.kindName ∧
            (w = v ∧ m' = m ∨ (∃ x, v = .float x ∧ x.isNaN = true) ∧ w = .nan m.nextMark ∧
              m' = { m with nextMark := m.nextMark + 1 })) ∧
      ∀ s, v = .str s →
        (∃ inner, (literal v).toList = '"' :: inner ++ ['"']) ∧
          text? false (literal v).toList = some (s, []) ∧ unquote (literal v) = s := by
  refine ⟨isClean_literal h, ?_, ?_⟩
  · obtain ⟨e, he, heval⟩ := (denotes_literal h).evaluates
    refine ⟨e, he, fun scope m hleaves => ?_⟩
    rw [heval scope m hleaves]
    by_cases hnan : ∃ x, v = .float x ∧ x.isNaN = true
    · obtain ⟨x, rfl, hx⟩ := hnan
      exact ⟨_, _, settle_nan hx m, rfl, .inr ⟨⟨x, rfl, hx⟩, rfl, rfl⟩⟩
    · refine ⟨v, m, settle_eq (fun x hx => ?_) m, rfl, .inl ⟨rfl, rfl⟩⟩
      exact Bool.eq_false_iff.mpr fun hx' => hnan ⟨x, hx, hx'⟩
  · rintro s rfl
    refine ⟨⟨_, toList_literal s⟩, ?_, unquote_literal s⟩
    have htext := @text?_quotedTail false s.toList
    rw [spread_false, String.ofList_toList] at htext
    rw [literal, toList_literal]
    exact htext

theorem literal_reads_back_escaped :
    isScalar (.str "a \"b\"\r\n\\c\x00é") = true ∧
      '\n' ∉ (literal (.str "a \"b\"\r\n\\c\x00é")).toList ∧
      unquote (literal (.str "a \"b\"\r\n\\c\x00é")) = "a \"b\"\r\n\\c\x00é" :=
  have h := literal_reads_back (v := .str "a \"b\"\r\n\\c\x00é") rfl
  ⟨rfl, h.1.1, (h.2.2 _ rfl).2.2⟩

end Sketchflow.Compile
