import Sketchflow.Proofs.Compile.Resolve
import Sketchflow.Proofs.Json.Document
import Sketchflow.Proofs.Number.Integers

/-!
# Texts of inputs as expressions

What the compiler writes for an input is an operand: literals are, and what a node computes is made
of the inputs of that node, which stand in brackets or are arguments of a call.

* `LiteralBy` are the texts of a few tokens that are operands. **`literal_defaultText`**: the text
  of a default is one, unless it is code that stands in the program as it was given (`rawText?`).
* `Source.tree?` is the expression of a node that computes. **`Source.forms_expression`**: the text
  of such a node is this expression of the expressions of its inputs.
-/

namespace Sketchflow.Compile

open List Number Script

variable {moved : Bool}
variable {s sign text : String} {v : Value}

/-- A text of a few tokens that is a literal. -/
def LiteralBy (moved : Bool) (text : String) : Prop :=
  ∃ e, FormsBy (IsBrief 4) moved text.toList e

/-! ## Literals -/

theorem literal_text (s : String) : LiteralBy moved (Json.literal s) :=
  ⟨_, (operand_text s).mono fun h => h.mono (by decide)⟩

theorem literal_int {i : Int} (h : Value.isLong i = false) : LiteralBy moved (toString i) :=
  ⟨intTree i, operand_int (Value.natAbs_lt_of_isLong h)⟩

theorem literal_word {word : String} (hline : isOneLine word.toList = true)
    (hword : inline? word.toList = some [.keyword word]) (h : wordValues.lookup word = some v) :
    LiteralBy moved word :=
  ⟨_, operand_word hline hword h⟩

theorem literal_none : LiteralBy moved "None" :=
  literal_word (by decide) rfl rfl

theorem literal_bool (b : Bool) : LiteralBy moved (if b then "True" else "False") := by
  cases b <;> exact literal_word (by decide) rfl rfl

theorem toList_call (first text : String) :
    (first ++ text ++ ")").toList = weave [first.toList, ")".toList] [text.toList] := by
  simp [weave]

theorem forms_converted (s : String) :
    FormsBy (IsBrief 4) moved ("float(" ++ Json.literal s ++ ")").toList
      (.call (.name "float") [.constant (.str (String.ofList (spread moved s.toList)))]) := by
  have hfs : segments? true ["float(".toList, ")".toList] =
      some [[.name "float", .op "("], [.op ")"]] := rfl
  rw [toList_call]
  refine forms_phrase hfs (balanced_of_bracketsAll rfl) (.cons (operand_text s) .nil) (by simp) ?_
  intro tas htas
  obtain _ | @⟨ta, _, _, _, hta, _ | _⟩ := htas
  refine ⟨(isTrailed_call (hta.unary.expr.items (by decide))).name.unary, ?_⟩
  have hone := hta.brief
  simp only [weave, length_append, length_cons, length_nil]
  omega

theorem literal_infinite (s : String) : LiteralBy moved ("float(" ++ Json.literal s ++ ")") :=
  ⟨_, forms_converted s⟩

theorem literal_double (x : Float) : LiteralBy moved (plain.write x) := by
  obtain ⟨e, hoperand, -⟩ := operand_double x
  exact ⟨e, hoperand⟩

/-- Whether a value can be written out: it is no integer with too many digits. -/
def isWritable : Value → Bool
  | .int i => !Value.isLong i
  | _ => true

/-- **The literal of a value is an operand.** -/
theorem literal_value (h : isWritable v = true) : LiteralBy moved (literal v) := by
  cases v with
  | null => exact literal_none
  | bool b => exact literal_bool b
  | int i => exact literal_int (by simpa [isWritable] using h)
  | float x =>
    unfold literal
    dsimp only
    split
    · exact literal_double x
    · exact literal_infinite _
  | str s => exact literal_text s
  | _ => exact literal_text _

/-! ## Numbers in texts -/

theorem readDigits_lt {cs : List Char} {n : Nat} (h : readDigits 10 cs = .ok n) :
    n < 10 ^ maxDigits := by
  obtain ⟨ds, hds, hlen, rfl⟩ := readDigits_eq_ok.mp h
  exact Nat.lt_of_lt_of_le (ofDigits_lt (spells_of_run hds).digits)
    (Nat.pow_le_pow_right (by decide) hlen)

theorem isWritable_readInt {i : Int} (h : readInt s = .ok i) :
    isWritable (.int i) = true := by
  have hbound : i.natAbs < 10 ^ maxDigits := by
    unfold readInt readIntIn at h
    dsimp only at h
    obtain ⟨n, hn, rfl⟩ : ∃ n, Number.readNatural 10 (Number.takeSign
        (dropPadding s.toList)).2 = .ok n ∧
        (if (Number.takeSign (Number.dropPadding s.toList)).1 then -(n : Int) else n) = i := by
      generalize readNatural 10 _ = r at h
      cases r with
      | error f => cases h
      | ok n =>
        cases h
        exact ⟨n, rfl, rfl⟩
    have hlt := readDigits_lt (readNatural_ten _ ▸ hn)
    split
    · rw [Int.natAbs_neg]
      exact hlt
    · exact hlt
  have hlong : ¬Value.longBound ≤ i.natAbs := by
    rw [Value.longBound, ten, Nat.pow_eq]
    exact Nat.not_le.mpr hbound
  simp [isWritable, Value.isLong, hlong]

theorem isWritable_parseNumber? (h : parseNumber? s = some v) :
    isWritable v = true := by
  unfold parseNumber? at h
  dsimp only at h
  split at h
  · rename_i i hi
    cases h
    exact isWritable_readInt hi
  · split at h
    · split at h
      · cases h
        rfl
      · cases h
    · cases h

/-! ## Defaults -/

/-- The text of a default that stands in the program as it was given. -/
def rawText? (p : Port) : Option String :=
  match p.dataType, p.default with
  | .expression, .str s => if Text.allBlank s then none else some s
  | .number, .str s => if looksLikeCode s then some s else none
  | .boolean, .str s => if looksLikeCode s then some s else none
  | _, _ => none

theorem literal_absentText {type : DataType} (h : absentText type = .ok text) :
    LiteralBy moved text := by
  have hzero : LiteralBy moved "0" := literal_int (i := 0) (by decide)
  have hempty : LiteralBy moved "\"\"" := literal_text ""
  unfold absentText at h
  split at h <;> cases h
  · exact hzero
  · exact hempty
  · exact hempty
  · exact literal_bool false
  · exact literal_none

theorem literal_numberText (h : looksLikeCode s = false) : LiteralBy moved (numberText s) := by
  rw [numberText, h, if_neg (by decide)]
  split
  · rename_i v hv
    exact literal_value (isWritable_parseNumber? hv)
  · exact literal_text s

theorem literal_booleanText (h : looksLikeCode s = false) : LiteralBy moved (booleanText s) := by
  rw [booleanText, h, if_neg (by decide)]
  dsimp only
  split
  · exact literal_bool true
  split
  · exact literal_bool false
  · exact literal_text s

theorem literal_defaultText {p : Port} (hw : isWritable p.default = true)
    (h : defaultText p.default p.dataType = .ok text) :
    LiteralBy moved text ∨ rawText? p = some text := by
  unfold rawText?
  unfold defaultText at h
  generalize p.default = v at hw h ⊢
  generalize p.dataType = type at h ⊢
  split at h
  · rename_i s
    cases h
    dsimp only
    split
    · exact .inl literal_none
    · exact .inr rfl
  · cases h
    exact .inl (literal_value hw)
  · exact .inl (literal_absentText h)
  · rename_i s
    cases h
    cases hcode : looksLikeCode s with
    | false => exact .inl (literal_numberText hcode)
    | true => exact .inr (by simp [numberText, hcode])
  · rename_i s
    cases h
    cases hcode : looksLikeCode s with
    | false => exact .inl (literal_booleanText hcode)
    | true => exact .inr (by simp [booleanText, hcode])
  · cases h
    exact .inl (literal_value hw)

/-! ## Sources -/

theorem forms_method {first a b : String}
    (hfs : segments? true [first.toList, ")".toList] =
      some [[.name a, .op ".", .name b, .op "("], [.op ")"]]) {text : String} {e : Expr}
    (h : FormsBy IsExpr moved text.toList e) :
    FormsBy IsUnary moved (first ++ text ++ ")").toList (.call (.member (.name a) b) [e]) := by
  rw [toList_call]
  refine forms_phrase hfs (balanced_of_bracketsAll rfl) (.cons h .nil) (by simp) ?_
  intro tas htas
  obtain _ | @⟨ta, _, _, _, hta, _ | _⟩ := htas
  exact (isTrailed_call (hta.items (by decide))).member.name.unary

section

variable {a b : String} {ea eb : Expr} (ha : FormsBy IsInner moved a.toList ea)
  (hb : FormsBy IsInner moved b.toList eb)

include ha hb

theorem forms_infix {t : Token} {tree : Expr → Expr → Expr}
    (hfs : segments? true ["((".toList, (") " ++ sign ++ " (").toList, "))".toList] =
      some [[.op "(", .op "("], [.op ")", t, .op "("], [.op ")", .op ")"]])
    (hbrackets : bracketsAll [] [.op "(", .op "(", .op ")", t, .op "(", .op ")", .op ")"] = some [])
    (htree : ∀ {ta tb : List Token} {a b : Expr}, IsUnary ta a → IsUnary tb b →
      IsExpr (ta ++ t :: tb) (tree a b)) :
    FormsBy IsUnary moved (s!"(({a}) {sign} ({b}))").toList (tree ea eb) := by
  have htext : (s!"(({a}) {sign} ({b}))").toList =
      weave ["((".toList, (") " ++ sign ++ " (").toList, "))".toList] [a.toList, b.toList] := by
    simp [weave, toString]
  rw [htext]
  refine forms_phrase hfs (balanced_of_bracketsAll hbrackets) (.cons ha (.cons hb .nil))
    (by simp) ?_
  intro tas htas
  obtain _ | @⟨ta, _, _, _, hta, _ | @⟨tb, _, _, _, htb, _ | _⟩⟩ := htas
  have hinner := htree hta.unary htb.unary
  simpa [weave] using (isPrimary_paren hinner).unary

omit ha hb in
/-- What the operators that nodes compute with make of two operands. -/
def operatorTrees : List (String × (Expr → Expr → Expr)) :=
  [("+", .operate .add), ("-", .operate .subtract), ("*", .operate .multiply),
    ("<", fun a b => .compare a [(.order .lt, b)]), ("==", fun a b => .compare a [(.equal, b)]),
    (">", fun a b => .compare a [(.order .gt, b)]), ("and", .both), ("or", .either)]

theorem forms_operator {tree : Expr → Expr → Expr}
    (h : operatorTrees.lookup sign = some tree) :
    FormsBy IsUnary moved (s!"(({a}) {sign} ({b}))").toList (tree ea eb) := by
  obtain ⟨before, after, hsplit, -⟩ := lookup_eq_some_iff.mp h
  have hmem : (sign, tree) ∈ operatorTrees := by rw [hsplit]; simp
  simp only [operatorTrees, mem_cons, not_mem_nil, or_false, Prod.mk.injEq] at hmem
  rcases hmem with ⟨rfl, rfl⟩ | ⟨rfl, rfl⟩ | ⟨rfl, rfl⟩ | ⟨rfl, rfl⟩ | ⟨rfl, rfl⟩ | ⟨rfl, rfl⟩ |
    ⟨rfl, rfl⟩ | ⟨rfl, rfl⟩
  · exact forms_infix ha hb rfl rfl fun hl hr => (isRanked_sum rfl hl hr).expr
  · exact forms_infix ha hb rfl rfl fun hl hr => (isRanked_sum rfl hl hr).expr
  · exact forms_infix ha hb rfl rfl fun hl hr => (isRanked_product rfl hl hr).expr
  · exact forms_infix ha hb rfl rfl fun hl hr => (isComparison_sign (by decide) rfl hl hr).expr
  · exact forms_infix ha hb rfl rfl fun hl hr => (isComparison_sign (by decide) rfl hl hr).expr
  · exact forms_infix ha hb rfl rfl fun hl hr => (isComparison_sign (by decide) rfl hl hr).expr
  · exact forms_infix ha hb rfl rfl fun hl hr =>
      ((hl.operand ranks).comparison.and (hr.operand ranks).comparison).expr
  · exact forms_infix ha hb rfl rfl fun hl hr =>
      ((hl.operand ranks).comparison.or (hr.operand ranks).comparison).expr

omit hb in
theorem forms_negation :
    FormsBy IsUnary moved (s!"(not ({a}))").toList (.negate ea) := by
  have htext : (s!"(not ({a}))").toList =
      weave ["(not (".toList, "))".toList] [a.toList] := by
    simp [weave, toString]
  have hfs : segments? true ["(not (".toList, "))".toList] =
      some [[.op "(", .keyword "not", .op "("], [.op ")", .op ")"]] := rfl
  rw [htext]
  refine forms_phrase hfs (balanced_of_bracketsAll rfl) (.cons ha .nil) (by simp) ?_
  intro tas htas
  obtain _ | @⟨ta, _, _, _, hta, _ | _⟩ := htas
  have hnot := (hta.unary.operand ranks).comparison.negate
  simpa [weave] using (isPrimary_paren hnot.expr).unary

theorem forms_quotient :
    FormsBy IsUnary moved (s!"(({a}) / (({b}) or 1))").toList
      (.operate .divide ea (.either eb (.constant (.int 1)))) := by
  have htext : (s!"(({a}) / (({b}) or 1))").toList =
      weave ["((".toList, ") / ((".toList, ") or 1))".toList] [a.toList, b.toList] := by
    simp [weave, toString]
  have hfs : segments? true ["((".toList, ") / ((".toList, ") or 1))".toList] =
      some [[.op "(", .op "("], [.op ")", .op "/", .op "(", .op "("],
        [.op ")", .keyword "or", .number (.int 1), .op ")", .op ")"]] := rfl
  rw [htext]
  refine forms_phrase hfs (balanced_of_bracketsAll rfl) (.cons ha (.cons hb .nil)) (by simp) ?_
  intro tas htas
  obtain _ | @⟨ta, _, _, _, hta, _ | @⟨tb, _, _, _, htb, _ | _⟩⟩ := htas
  have hor := (htb.unary.operand ranks).comparison.or
    ((isPrimary_number (.int 1)).unary.operand ranks).comparison
  have hdivide := isRanked_product (s := "/") rfl hta.unary (isPrimary_paren hor.expr).unary
  simpa [weave] using (isPrimary_paren hdivide.expr).unary

end

/-- A number of a range, both ends included. -/
def randomTree (low high : Expr) : Expr :=
  .operate .add (.call (.member (.name "math") "floor") [.operate .multiply
    (.call (.member (.name "random") "random") []) (.operate .add (.operate .subtract high low)
      (.constant (.int 1)))]) low

theorem forms_random {low high : String} {el eh : Expr} (hl : FormsBy IsInner moved low.toList el)
    (hh : FormsBy IsInner moved high.toList eh) :
    FormsBy IsUnary moved
      (s!"(math.floor(random.random() * (({high}) - ({low}) + 1)) + ({low}))").toList
      (randomTree el eh) := by
  have htext : (s!"(math.floor(random.random() * (({high}) - ({low}) + 1)) + ({low}))").toList =
      weave ["(math.floor(random.random() * ((".toList, ") - (".toList, ") + 1)) + (".toList,
        "))".toList] [high.toList, low.toList, low.toList] := by
    simp [weave, toString]
  have hfs : segments? true ["(math.floor(random.random() * ((".toList, ") - (".toList,
      ") + 1)) + (".toList, "))".toList] =
      some [[.op "(", .name "math", .op ".", .name "floor", .op "(", .name "random", .op ".",
          .name "random", .op "(", .op ")", .op "*", .op "(", .op "("],
        [.op ")", .op "-", .op "("],
        [.op ")", .op "+", .number (.int 1), .op ")", .op ")", .op "+", .op "("],
        [.op ")", .op ")"]] := rfl
  rw [htext]
  refine forms_phrase hfs (balanced_of_bracketsAll rfl) (.cons hh (.cons hl (.cons hl .nil)))
    (by simp) ?_
  intro tas htas
  obtain _ | ⟨hth, _ | ⟨htl, _ | ⟨htl', _ | _⟩⟩⟩ := htas
  have hspan : IsRanked ranks (_ ++ Token.op "-" :: (_ ++ Token.op "+" :: _)) _ :=
    (IsRanked.operate₂ (isOperator_sum rfl) (isOperator_sum rfl) (hth.unary.operand _)
      (htl.unary.operand _) ((isPrimary_number (.int 1)).unary.operand _)).ofSum
  have hdraw : IsPrimary [.name "random", .op ".", .name "random", .op "(", .op ")"] _ :=
    (isTrailed_call (areItems_nil ")")).member.name
  have hscaled := isRanked_product (s := "*") rfl hdraw.unary (isPrimary_paren hspan.expr).unary
  have hfloor : IsPrimary (.name "math" :: .op "." :: .name "floor" :: .op "(" :: _) _ :=
    (isTrailed_call (hscaled.expr.items (by decide))).member.name
  have hsum := isRanked_sum (s := "+") rfl hfloor.unary htl'.unary
  simpa [weave, randomTree] using (isPrimary_paren hsum.expr).unary

def pointerTokens (place extent : String) : List Token :=
  [.name "runtime", .op ".", .name place, .keyword "if", .name "runtime", .op ".", .name place,
    .keyword "is", .keyword "not", .keyword "None", .keyword "else", .name "ctx", .op ".",
    .name extent, .op "/", .number (.int 2)]

/-- The place of the pointer along one axis, or the middle of the canvas. -/
def pointerTree (place extent : String) : Expr :=
  .choose (.compare (.member (.name "runtime") place) [(.notIdentical, .constant .null)])
    (.member (.name "runtime") place)
    (.operate .divide (.member (.name "ctx") extent) (.constant (.int 2)))

theorem isExpr_pointer (place extent : String) :
    IsExpr (pointerTokens place extent) (pointerTree place extent) := by
  have hplace : IsUnary [.name "runtime", .op ".", .name place] (.member (.name "runtime") place) :=
    (isTrailed_member _ place).name.unary
  have hknown : IsComparison ([Token.name "runtime", .op ".", .name place] ++
      ([Token.keyword "is", .keyword "not"] ++ [Token.keyword "None"])) _ :=
    IsRanked.compare [.keyword "is", .keyword "not"] (fun _ => rfl)
      (fun x => endsRanked_keyword "is" (.keyword "not" :: x)) (hplace.operand ranks)
      ((isPrimary_word rfl).unary.operand ranks)
  have hmiddle : IsRanked ranks ([Token.name "ctx", .op ".", .name extent] ++
      Token.op "/" :: [.number (.int 2)]) _ :=
    isRanked_product rfl (isTrailed_member _ extent).name.unary (isPrimary_number (.int 2)).unary
  exact IsEither.choose (hplace.operand ranks).comparison.either hknown.either hmiddle.expr

theorem forms_pointer (place extent : String) (hline : isOneLine text.toList = true)
    (h : inline? text.toList = some (.op "(" :: (pointerTokens place extent ++ [Token.op ")"]))) :
    FormsBy IsUnary moved text.toList (pointerTree place extent) :=
  forms_of_inline hline (inline_of_inline? h) rfl
    (isPrimary_paren (isExpr_pointer place extent)).unary

/-- The expression of a node that computes from its inputs or from the machine. -/
def Source.tree? (s : Source) (es : List Expr) : Option Expr :=
  match s, es with
  | .namedValue, [name] => some (.call (.member (.name "variables") "get") [name])
  | .random, [low, high] => some (randomTree low high)
  | .mouseX, _ => some (pointerTree "mouse_x" "width")
  | .mouseY, _ => some (pointerTree "mouse_y" "height")
  | .keyDown, [key] => some (.call (.member (.name "runtime") "is_key_pressed") [key])
  | .quotient, [a, b] => some (.operate .divide a (.either b (.constant (.int 1))))
  | .negation, [a] => some (.negate a)
  | .operator sign, [a, b] => (operatorTrees.lookup sign).map fun tree => tree a b
  | _, _ => none

theorem exists_operatorTree {type : String} (h : source? type = some (.operator sign)) :
    ∃ tree, operatorTrees.lookup sign = some tree := by
  have hall : (sources.all fun x => match x.2 with
      | .operator sign => (operatorTrees.lookup sign).isSome
      | _ => true) = true := by decide
  obtain ⟨before, after, hsplit, -⟩ := lookup_eq_some_iff.mp h
  have hmem : (type, Source.operator sign) ∈ sources := by rw [hsplit]; simp
  exact Option.isSome_iff_exists.mp (all_eq_true.mp hall _ hmem)

theorem Source.exists_tree {type : String} {s : Source} (hs : source? type = some s)
    (hnumber : s ≠ .number) (htext : s ≠ .text) {es : List Expr}
    (hlen : es.length = s.asks.length) : ∃ e, s.tree? es = some e := by
  cases s with
  | number => exact absurd rfl hnumber
  | text => exact absurd rfl htext
  | mouseX => exact ⟨_, rfl⟩
  | mouseY => exact ⟨_, rfl⟩
  | namedValue | keyDown | negation =>
    obtain ⟨a, rfl⟩ := length_eq_one_iff.mp hlen
    exact ⟨_, rfl⟩
  | random | quotient =>
    obtain ⟨a, b, rfl⟩ := length_eq_two.mp hlen
    exact ⟨_, rfl⟩
  | operator sign =>
    obtain ⟨a, b, rfl⟩ := length_eq_two.mp hlen
    obtain ⟨tree, htree⟩ := exists_operatorTree hs
    exact ⟨tree a b, by rw [Source.tree?, htree]; rfl⟩

/-- **What a node computes is its expression of the expressions of its inputs.** -/
theorem Source.forms_expression {s : Source} (n : Node) {texts : List String} {es : List Expr}
    {e : Expr} (h : s.tree? es = some e)
    (hinner : List.Forall₂ (fun text e => FormsBy IsInner moved text.toList e) texts es)
    (hcall : s = .namedValue ∨ s = .keyDown →
      List.Forall₂ (fun text e => FormsBy IsExpr moved text.toList e) texts es) :
    FormsBy IsUnary moved (s.expression n texts).toList e := by
  unfold Source.tree? at h
  split at h <;> try cases h
  · obtain _ | ⟨hname, _ | _⟩ := hcall (.inl rfl)
    have hfs : segments? true ["variables.get(".toList, ")".toList] =
        some [[.name "variables", .op ".", .name "get", .op "("], [.op ")"]] := rfl
    exact forms_method hfs hname
  · obtain _ | ⟨hlow, _ | ⟨hhigh, _ | _⟩⟩ := hinner
    exact forms_random hlow hhigh
  · show FormsBy IsUnary moved
      "(runtime.mouse_x if runtime.mouse_x is not None else ctx.width / 2)".toList _
    exact forms_pointer _ _ (by decide) rfl
  · show FormsBy IsUnary moved
      "(runtime.mouse_y if runtime.mouse_y is not None else ctx.height / 2)".toList _
    exact forms_pointer _ _ (by decide) rfl
  · obtain _ | ⟨hkey, _ | _⟩ := hcall (.inr rfl)
    have hfs : segments? true ["runtime.is_key_pressed(".toList, ")".toList] =
        some [[.name "runtime", .op ".", .name "is_key_pressed", .op "("], [.op ")"]] := rfl
    exact forms_method hfs hkey
  · obtain _ | ⟨ha, _ | ⟨hb, _ | _⟩⟩ := hinner
    exact forms_quotient ha hb
  · obtain _ | ⟨ha, _ | _⟩ := hinner
    exact forms_negation ha
  · obtain _ | ⟨ha, _ | ⟨hb, _ | _⟩⟩ := hinner
    obtain ⟨tree, htree, rfl⟩ := Option.map_eq_some_iff.mp h
    exact forms_operator ha hb htree

theorem literal_numberNodeText {n : Node}
    (h : isWritable (n.properties.getD "value" (.int 0)) = true) :
    LiteralBy moved (numberNodeText n) := by
  unfold numberNodeText
  split
  · rename_i s _
    cases hv : parseNumber? s with
    | none => exact literal_text s
    | some v => exact literal_value (isWritable_parseNumber? hv)
  · exact literal_value rfl
  · exact literal_value h

theorem literal_textNodeText (n : Node) : LiteralBy moved (textNodeText n) := by
  unfold textNodeText
  split
  · exact literal_text ""
  · exact literal_text _

end Sketchflow.Compile
