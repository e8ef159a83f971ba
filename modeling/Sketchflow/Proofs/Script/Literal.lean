import Mathlib.Data.Nat.Digits.Defs
import Sketchflow.Json.Writer
import Sketchflow.Proofs.Script.Phrase

/-!
# Literals

What the literals of a program read as.

* `spread` is a text as it comes out of a program: what follows its line ends may have been moved in
  with the program. **`operand_text`**: a quoted text reads as this text, and `spread_eq` says when
  it is the text itself.
* **`operand_int`**: an integer reads as its digits, if they are not too many.
* **`operand_double`**: a double that is written out reads as a number, or as its word.
-/

namespace Sketchflow.Script

open Json List Number Text

variable {moved : Bool}
variable {c : Char} {a cs ds rest x : List Char} {n : Nat} {v : Value}

/-! ## What is not blank up to its line end -/

/-- A line is blank or not, whatever follows a character of it that is not. -/
theorem pad_append (h : ∃ c ∈ a, isBlank c = false) (x : List Char) :
    pad (a ++ x) = pad a := by
  have hall : ((a ++ x).takeWhile fun c => !isLineEnd c).all isBlank =
      (a.takeWhile fun c => !isLineEnd c).all isBlank := by
    induction a with
    | nil => obtain ⟨c, hc, -⟩ := h; cases hc
    | cons d a ih =>
      rw [cons_append, takeWhile_cons, takeWhile_cons]
      split
      · rw [all_cons, all_cons]
        cases hd : isBlank d with
        | false => rfl
        | true =>
          obtain ⟨c, hc, hblank⟩ := h
          rcases mem_cons.mp hc with rfl | hc
          · rw [hd] at hblank
            cases hblank
          · rw [ih ⟨c, hc, hblank⟩]
      · rfl
  rw [pad, hall, pad]

theorem closed_of_last (hc : isBlank c = false) :
    ClosedBy moved (a ++ [c]) := by
  intro x
  induction a with
  | nil =>
    have hend : isLineEnd c = false := by
      cases hend : isLineEnd c with
      | false => rfl
      | true => rw [isBlank_of_isLineEnd hend] at hc; cases hc
    simp [lay_cons, lay_nil, hend]
  | cons d a ih =>
    have hpad : pad (a ++ [c] ++ x) = pad (a ++ [c]) := pad_append ⟨c, by simp, hc⟩ x
    rw [cons_append, cons_append, lay_cons, hpad, ih, lay_cons]
    simp

/-! ## Quoted texts -/

/-- What follows the first quote of a quoted text. -/
def quotedTail (cs : List Char) : List Char :=
  cs.flatMap (stringChar false) ++ ['"']

/-- Whether a character that stands for itself between quotes ends a line. -/
def isSoft (c : Char) : Bool :=
  c.toNat == 0x85 || c.toNat == 0x2028 || c.toNat == 0x2029

/-- A quoted text as it is read, once the program around it may have been indented. -/
def spread (moved : Bool) : List Char → List Char
  | [] => []
  | c :: cs =>
    c :: ((if moved && isSoft c then pad (quotedTail cs) else []) ++ spread moved cs)

theorem spread_eq (h : ∀ c ∈ cs, (moved && isSoft c) = false) :
    spread moved cs = cs := by
  induction cs with
  | nil => rfl
  | cons c cs ih =>
    rw [spread, h c (mem_cons_self ..), ih fun d hd => h d (mem_cons_of_mem _ hd)]
    rfl

theorem stringChar_cases (c : Char) :
    (stringChar false c = [c] ∧ c ≠ '"' ∧ c ≠ '\\' ∧ c ≠ '\n' ∧ c ≠ '\r' ∧
      isLineEnd c = isSoft c) ∨
    (∃ k, stringChar false c = ['\\', k] ∧ isSoft c = false ∧ isLineEnd k = false ∧
      k ≠ '\r' ∧ ∀ rest, escape? (k :: rest) = some ([c], 1)) ∨
    (c.toNat < 0x20 ∧ stringChar false c = unitEscape c.toNat) := by
  have hletters : ∀ p ∈ letters, isSoft p.1 = false ∧ isLineEnd p.2 = false ∧ p.2 ≠ '\r' := by
    decide
  rcases commonEscape?_cases c with ⟨h, hlow, hletter⟩ | ⟨k, h, hk⟩ | ⟨h, hlow⟩
  · simp only [letters, map, mem_cons, not_or] at hletter
    obtain ⟨hquote, hslash, hfeed, hreturn, -⟩ := hletter
    refine .inl ⟨by simp [stringChar, h], hquote, hslash, hfeed, hreturn, ?_⟩
    rw [isLineEnd, isSoft, Bool.eq_iff_iff]
    simp only [Bool.or_eq_true, Bool.and_eq_true, decide_eq_true_eq, beq_iff_eq]
    omega
  · obtain ⟨hsoft, hend, hreturn⟩ := hletters _ hk
    refine .inr (.inl ⟨k, by simp [stringChar, h], hsoft, hend, hreturn, fun rest => ?_⟩)
    simp only [letters, mem_cons, Prod.mk.injEq, not_mem_nil, or_false] at hk
    rcases hk with hk | hk | hk | hk | hk | hk | hk <;> obtain ⟨rfl, rfl⟩ := hk <;> rfl
  · exact .inr (.inr ⟨hlow, by simp [stringChar, h]⟩)

theorem escape?_unit (h : n < 0x20) (rest : List Char) :
    escape? ('u' :: (hex 4 n ++ rest)) = some ([Char.ofNat n], 5) := by
  have hall : ∀ n < 0x20, (hex 4 n).length = 4 ∧
      ((hex 4 n).all fun c => (hexValue? c).isSome) = true ∧
      (hex 4 n).foldl (fun n c => n * 16 + (hexValue? c).getD 0) 0 = n := by decide
  obtain ⟨hlen, hhex, hvalue⟩ := hall n h
  have htake : (hex 4 n ++ rest).take 4 = hex 4 n := by
    exact take_left' hlen
  have hcode : hexCode? 4 (hex 4 n ++ rest) = some n := by
    rw [hexCode?, htake]
    simp [hlen, hhex, hvalue]
  have hunit : unitChar n = Char.ofNat n := by
    rw [unitChar, if_neg]
    simp only [isHighUnit, isLowUnit, Bool.or_eq_true, Bool.and_eq_true,
      decide_eq_true_eq]
    omega
  rw [escape?, hcode, Option.bind_some, codeChar?, if_neg (by omega), Option.map_some, hunit]

theorem quoted?_skip (quote : Char) (triple raw : Bool) (a x done : List Char) :
    quoted? quote triple raw (a ++ x) a.length done = quoted? quote triple raw x 0 done := by
  induction a with
  | nil => rfl
  | cons c a ih => exact ih

theorem quoted?_char (hquote : c ≠ '"') (hslash : c ≠ '\\') (hfeed : c ≠ '\n')
    (rest done : List Char) :
    quoted? '"' false false (c :: rest) 0 done = quoted? '"' false false rest 0 (c :: done) := by
  rw [quoted?_cons]
  simp [closes, hquote, hslash, hfeed]

theorem quoted?_escape {count : Nat} (h : escape? rest = some ([c], count)) (done : List Char) :
    quoted? '"' false false ('\\' :: rest) 0 done =
      quoted? '"' false false rest count (c :: done) := by
  rw [quoted?_cons]
  simp [closes, h]

theorem quoted?_pad (cs rest done : List Char) :
    quoted? '"' false false (pad cs ++ rest) 0 done =
      quoted? '"' false false rest 0 ((pad cs).reverse ++ done) := by
  unfold pad
  split
  · rfl
  · have hspace : ∀ rest done : List Char, quoted? '"' false false (' ' :: rest) 0 done =
        quoted? '"' false false rest 0 (' ' :: done) :=
      fun rest done => quoted?_char (by decide) (by decide) (by decide) rest done
    show quoted? '"' false false (' ' :: ' ' :: ' ' :: ' ' :: rest) 0 done = _
    rw [hspace, hspace, hspace, hspace]
    rfl

theorem lay_append_of_clean (h : ∀ c ∈ a, isLineEnd c = false)
    (x : List Char) : lay moved (a ++ x) = a ++ lay moved x := by
  induction a with
  | nil => rfl
  | cons c a ih =>
    rw [cons_append, lay_cons, h c (mem_cons_self ..), Bool.and_false,
      ih fun d hd => h d (mem_cons_of_mem _ hd)]
    rfl

theorem lay_quotedTail_nil : lay moved (quotedTail []) = ['"'] := by
  cases moved <;> decide

/-- **What stands between quotes reads as the text it was written for.** -/
theorem quoted?_quotedTail (cs : List Char) : ∀ done,
    quoted? '"' false false (lay moved (quotedTail cs)) 0 done =
      some (done.reverse ++ spread moved cs, []) := by
  induction cs with
  | nil =>
    intro done
    rw [lay_quotedTail_nil, quoted?_cons]
    simp [closes, spread]
  | cons c cs ih =>
    intro done
    have htail : quotedTail (c :: cs) = stringChar false c ++ quotedTail cs := by
      simp [quotedTail]
    rw [htail]
    rcases stringChar_cases c with ⟨hc, hquote, hslash, hfeed, -, hend⟩ |
      ⟨k, hc, hsoft, hk, -, hescape⟩ | ⟨hlow, hc⟩
    · rw [hc, singleton_append, lay_cons, hend, quoted?_char hquote hslash hfeed, spread]
      cases moved && isSoft c with
      | true =>
        simp only [if_true]
        rw [quoted?_pad, ih]
        simp
      | false =>
        simp only [Bool.false_eq_true, if_false, nil_append]
        rw [ih]
        simp
    · have hslash : isLineEnd '\\' = false := by decide
      rw [hc, lay_append_of_clean (by simp [hslash, hk])]
      simp only [cons_append, nil_append]
      rw [quoted?_escape (hescape _)]
      have hskip : quoted? '"' false false (k :: lay moved (quotedTail cs)) 1 (c :: done) =
          quoted? '"' false false (lay moved (quotedTail cs)) 0 (c :: done) := rfl
      rw [hskip, ih, spread, hsoft, Bool.and_false]
      simp
    · have hclean : ∀ n < 0x20, ∀ d ∈ unitEscape n, isLineEnd d = false := by
        intro n hn
        have hall : ∀ n < 0x20,
            ((unitEscape n).all fun d => !isLineEnd d) = true := by decide
        simpa using hall n hn
      have hlen : ∀ n < 0x20, (hex 4 n).length = 4 := by decide
      have hsoft : isSoft c = false := by
        simp only [isSoft, Bool.or_eq_false_iff, beq_eq_false_iff_ne]
        omega
      have hskip : quoted? '"' false false ('u' :: (hex 4 c.toNat ++ lay moved (quotedTail cs))) 5
          (c :: done) = quoted? '"' false false (lay moved (quotedTail cs)) 0 (c :: done) := by
        have hall := quoted?_skip '"' false false ('u' :: hex 4 c.toNat)
          (lay moved (quotedTail cs)) (c :: done)
        rwa [length_cons, hlen _ hlow] at hall
      rw [hc, lay_append_of_clean (hclean _ hlow), unitEscape, cons_append,
        cons_append, quoted?_escape (escape?_unit hlow _), Char.ofNat_toNat]
      rw [hskip, ih, spread, hsoft, Bool.and_false]
      simp

theorem quotedTail_start (h : lay moved (quotedTail cs) = '"' :: rest) :
    rest = [] := by
  cases cs with
  | nil =>
    rw [lay_quotedTail_nil] at h
    exact (List.cons.inj h).2.symm
  | cons c cs =>
    have htail : quotedTail (c :: cs) = stringChar false c ++ quotedTail cs := by
      simp [quotedTail]
    rw [htail] at h
    rcases stringChar_cases c with ⟨hc, hquote, -⟩ | ⟨k, hc, -⟩ | ⟨-, hc⟩
    · rw [hc, singleton_append, lay_cons] at h
      exact absurd (List.cons.inj h).1 hquote
    · rw [hc, cons_append, lay_cons] at h
      exact absurd (List.cons.inj h).1 (by decide)
    · rw [hc, unitEscape, cons_append, lay_cons] at h
      exact absurd (List.cons.inj h).1 (by decide)

theorem toList_literal (s : String) : (literal s).toList = '"' :: quotedTail s.toList := by
  simp [literal, writeString, quotedTail]

theorem isClean_quotedTail (cs : List Char) : IsClean (quotedTail cs) := by
  induction cs with
  | nil => exact ⟨by decide, by decide⟩
  | cons c cs ih =>
    have htail : quotedTail (c :: cs) = stringChar false c ++ quotedTail cs := by
      simp [quotedTail]
    rw [htail]
    refine IsClean.append ?_ ih
    rcases stringChar_cases c with ⟨hc, -, -, hfeed, hreturn, -⟩ | ⟨k, hc, -, hk, hr, -⟩ |
      ⟨hlow, hc⟩
    · rw [hc]
      exact ⟨by simpa using hfeed.symm, by simpa using hreturn.symm⟩
    · have hfeed : k ≠ '\n' := by
        rintro rfl
        exact absurd hk (by decide)
      rw [hc]
      exact ⟨by simpa using hfeed.symm, by simpa using hr.symm⟩
    · have hall : ∀ n < 0x20, '\n' ∉ unitEscape n ∧ '\r' ∉ unitEscape n := by decide
      rw [hc]
      exact hall _ hlow

theorem null_not_mem_quotedTail (cs : List Char) : '\x00' ∉ quotedTail cs := by
  induction cs with
  | nil => decide
  | cons c cs ih =>
    have htail : quotedTail (c :: cs) = stringChar false c ++ quotedTail cs := by
      simp [quotedTail]
    rw [htail, mem_append, not_or]
    refine ⟨?_, ih⟩
    have hall : ∀ n < 0x20, '\x00' ∉ stringChar false (Char.ofNat n) := by decide
    by_cases hlow : c.toNat < 0x20
    · have hc := hall _ hlow
      rwa [Char.ofNat_toNat] at hc
    · rcases stringChar_cases c with ⟨hc, -⟩ | ⟨k, hc, -, -, -, hescape⟩ | ⟨hless, -⟩
      · rw [hc]
        simp only [mem_singleton]
        rintro rfl
        exact hlow (by decide)
      · rw [hc]
        simp only [mem_cons, not_mem_nil, or_false, not_or]
        refine ⟨by decide, ?_⟩
        rintro rfl
        have hnull : escape? ['\x00'] = some (['\\', '\x00'], 1) := by decide
        rw [hescape] at hnull
        cases hnull
      · exact absurd hless hlow

theorem text?_quotedTail (cs : List Char) :
    text? false ('"' :: lay moved (quotedTail cs)) =
      some (String.ofList (spread moved cs), []) := by
  have htriple : ['"', '"'].isPrefixOf (lay moved (quotedTail cs)) = false := by
    cases hsoft : lay moved (quotedTail cs) with
    | nil => rfl
    | cons d rest =>
      by_cases hd : d = '"'
      · subst hd
        rw [quotedTail_start hsoft]
        rfl
      · simp [List.isPrefixOf, Ne.symm hd]
  simp [text?, htriple, quoted?_quotedTail]

/-- **A quoted text reads as the text.** -/
theorem operand_text (s : String) :
    FormsBy (IsBrief 1) moved (literal s).toList
      (.constant (.str (String.ofList (spread moved s.toList)))) := by
  have hend : isLineEnd '"' = false := by decide
  have hlay : lay moved ('"' :: quotedTail s.toList) = '"' :: lay moved (quotedTail s.toList) := by
    rw [lay_cons, hend, Bool.and_false]
    rfl
  have htoken : token? ('"' :: lay moved (quotedTail s.toList)) =
      some (.text (String.ofList (spread moved s.toList)), []) := by
    have hquote : isQuote '"' = true := rfl
    simp [token?, hquote, text?_quotedTail]
  rw [toList_literal]
  have hlast : '"' :: quotedTail s.toList =
      ('"' :: s.toList.flatMap (stringChar false)) ++ ['"'] := rfl
  refine ⟨[.text (String.ofList (spread moved s.toList))], ⟨?_, ?_, ?_, ?_⟩,
    fun brackets => rfl, ?_⟩
  · rw [hlast]
    exact closed_of_last (by decide)
  · exact IsClean.append (a := ['"']) ⟨by decide, by decide⟩ (isClean_quotedTail _)
  · exact not_mem_cons_of_ne_of_not_mem (by decide) (null_not_mem_quotedTail _)
  · rw [hlay]
    exact .token htoken .nil
  · exact (isPrimary_text _).unary.brief rfl

/-! ## Numbers -/

def AreDigits (ds : List Char) : Prop :=
  ∀ c ∈ ds, c.isDigit = true

theorem areDigits_toDigits (n : Nat) : AreDigits (Nat.toDigits 10 n) :=
  fun _ hc => Nat.isDigit_of_mem_toDigits (by decide) (by decide) hc

theorem areDigits_zeros (count : Nat) : AreDigits (List.replicate count '0') := by
  intro c hc
  rw [eq_of_mem_replicate hc]
  decide

theorem AreDigits.append {es : List Char} (h : AreDigits ds) (k : AreDigits es) :
    AreDigits (ds ++ es) :=
  fun c hc => (mem_append.mp hc).elim (h c) (k c)

theorem ne_underscore_of_isDigit (h : c.isDigit = true) : c ≠ '_' := by
  rintro rfl
  exact absurd h (by decide)

theorem takeRun_digits (h : AreDigits ds) (hx : EndsRun Char.isDigit x)
    (done : List Char) : takeRun Char.isDigit done (ds ++ x) = some (done.reverse ++ ds, x) := by
  induction ds generalizing done with
  | nil =>
    cases x with
    | nil => simp [takeRun]
    | cons c x =>
      rw [nil_append, takeRun_cons hx.2, hx.1]
      simp
  | cons c ds ih =>
    have hc := h c (mem_cons_self ..)
    rw [cons_append, takeRun_cons (ne_underscore_of_isDigit hc), if_pos hc,
      ih fun d hd => h d (mem_cons_of_mem _ hd)]
    simp

/-- The characters that mark another base after a zero. -/
def baseMarks : List Char := ['x', 'X', 'o', 'O', 'b', 'B']

theorem number?_start {c : Char} (hc : c.isDigit = true) (hsecond : ∀ e ∈ cs.head?, e ∉ baseMarks) :
    number? (c :: cs) = (takeRun Char.isDigit [] (c :: cs)).bind fun r => afterWhole r.1 r.2 := by
  have hdot : c ≠ '.' := by
    rintro rfl
    exact absurd hc (by decide)
  unfold number?
  split
  · rename_i mark rest heq
    have hm : mark ∉ baseMarks := hsecond mark (by rw [(List.cons.inj heq).2]; rfl)
    simp only [baseMarks, mem_cons, not_mem_nil, or_false, not_or] at hm
    simp [hm]
  · rename_i heq
    exact absurd (List.cons.inj heq).1 hdot
  · rfl

theorem number?_digits (hne : ds ≠ []) (h : AreDigits ds)
    (hx : EndsRun Char.isDigit x) (hmark : ∀ c ∈ x.head?, c ∉ baseMarks) :
    number? (ds ++ x) = afterWhole ds x := by
  have hrun : takeRun Char.isDigit [] (ds ++ x) = some (ds, x) := takeRun_digits h hx []
  have hwhole : (takeRun Char.isDigit [] (ds ++ x)).bind (fun r => afterWhole r.1 r.2) =
      afterWhole ds x := by rw [hrun, Option.bind_some]
  obtain ⟨c, ds, rfl⟩ := exists_cons_of_ne_nil hne
  have hsecond : ∀ d ∈ (ds ++ x).head?, d ∉ baseMarks := by
    cases ds with
    | nil => exact hmark
    | cons d ds =>
      intro e he
      cases he
      have hd := h d (by simp)
      intro hm
      have hall : ∀ c ∈ baseMarks, c.isDigit = false := forall_mem_of_all (by decide)
      rw [hall d hm] at hd
      cases hd
  rw [← hwhole, cons_append]
  exact number?_start (h c (mem_cons_self ..)) hsecond

theorem head_toDigits (h : 0 < n) : (Nat.toDigits 10 n).head? ≠ some '0' := by
  induction n using Nat.strongRecOn with
  | ind n ih =>
    by_cases hlt : n < 10
    · have hall : ∀ n < 10, 0 < n → some (Nat.digitChar n) ≠ some '0' := by decide
      rw [Nat.toDigits_of_lt_base hlt]
      exact hall n hlt h
    · have hsplit : Nat.toDigits 10 (n / 10) ++ Nat.toDigits 10 (n % 10) = Nat.toDigits 10 n := by
        rw [Nat.toDigits_append_toDigits (by decide) (by omega) (by omega), Nat.div_add_mod]
      have hhead : (Nat.toDigits 10 n).head? = (Nat.toDigits 10 (n / 10)).head? := by
        obtain ⟨c, cs, hc⟩ := exists_cons_of_ne_nil (Nat.toDigits_ne_nil (n := n / 10) (b := 10))
        rw [← hsplit, hc]
        rfl
      rw [hhead]
      exact ih (n / 10) (by omega) (by omega)

theorem isWhole_toDigits (h : n < 10 ^ maxDigits) :
    isWhole (Nat.toDigits 10 n) = true := by
  have hlen : (Nat.toDigits 10 n).length ≤ maxDigits :=
    (Nat.length_toDigits_le_iff (by decide) (by decide)).mpr h
  rcases Nat.eq_zero_or_pos n with rfl | hpos
  · decide
  · have hhead := head_toDigits hpos
    simp [isWhole, hlen, hhead]

theorem ofDigits_toDigits (n : Nat) :
    ofDigits ((Nat.toDigits 10 n).map fun c => c.toNat - '0'.toNat) = n := by
  rw [ofDigits, foldl_map]
  exact Nat.ofDigitChars_ten_toDigits

theorem number?_toDigits (h : n < 10 ^ maxDigits) :
    number? (Nat.toDigits 10 n) = some (.int n, []) := by
  have hread := number?_digits (x := []) Nat.toDigits_ne_nil (areDigits_toDigits n) trivial
    (by simp)
  rw [append_nil] at hread
  have hvalue := ofDigits_toDigits n
  rw [hread, afterWhole]
  simpa [takeFraction, takePower, finish, partsValue, isWhole_toDigits h] using hvalue

theorem token?_digits (hne : ds ≠ []) (h : AreDigits ds) (hn : number? (ds ++ x) = some (v, rest)) :
    token? (ds ++ x) = some (.number v, rest) := by
  obtain ⟨c, ds, rfl⟩ := exists_cons_of_ne_nil hne
  have hc := h c (mem_cons_self ..)
  rw [cons_append] at hn ⊢
  simp [token?, hc, hn]

theorem isLineEnd_of_range (h : 48 ≤ c.toNat ∧ c.toNat < 0x7f) :
    isLineEnd c = false := by
  simp [isLineEnd]
  omega

theorem isOneLine_of_range (h : ∀ c ∈ cs, 48 ≤ c.toNat ∧ c.toNat < 0x7f) :
    isOneLine cs = true :=
  isOneLine_iff.mpr ⟨fun c hc => isLineEnd_of_range (h c hc),
    fun hm => absurd (h _ hm).1 (by decide)⟩

theorem isOneLine_digits (h : AreDigits ds) : isOneLine ds = true := by
  refine isOneLine_of_range fun c hc => ?_
  have hd := h c hc
  simp only [Char.isDigit, Bool.and_eq_true, decide_eq_true_eq] at hd
  exact ⟨hd.1, Nat.lt_of_le_of_lt (show c.toNat ≤ 57 from hd.2) (by decide)⟩

theorem token?_natural (h : n < 10 ^ maxDigits) :
    token? (Nat.toDigits 10 n) = some (.number (.int n), []) := by
  have hnumber : number? (Nat.toDigits 10 n ++ []) = some (.int n, []) := by
    rw [append_nil]
    exact number?_toDigits h
  have htoken := token?_digits Nat.toDigits_ne_nil (areDigits_toDigits n) hnumber
  rwa [append_nil] at htoken

theorem AreDigits.head (h : AreDigits ds) (hne : ds ≠ []) :
    ∃ c ∈ ds.head?, c.isDigit = true := by
  obtain ⟨d, ds, rfl⟩ := exists_cons_of_ne_nil hne
  exact ⟨d, rfl, h d (mem_cons_self ..)⟩

/-- **The digits of a natural read as the natural.** -/
theorem operand_natural (h : n < 10 ^ maxDigits) :
    FormsBy (IsBrief 4) moved (Nat.toDigits 10 n) (.constant (.int n)) :=
  forms_of_inline (isOneLine_digits (areDigits_toDigits n)) (.token (token?_natural h) .nil) rfl
    ((isPrimary_number _).unary.brief rfl)

/-! ## Decimals -/

/-- The exponent of a decimal, which may be absent. -/
def IsPower (cs : List Char) : Prop :=
  cs = [] ∨ ∃ sign ds, (sign = '+' ∨ sign = '-') ∧ ds ≠ [] ∧ AreDigits ds ∧ cs = 'e' :: sign :: ds

/-- The point of a decimal and what follows it, which may be absent. -/
def IsFraction (cs : List Char) : Prop :=
  cs = [] ∨ ∃ ds, AreDigits ds ∧ cs = '.' :: ds

/-- A decimal with a fraction or an exponent. -/
def IsDecimal (cs : List Char) : Prop :=
  ∃ whole fraction power, whole ≠ [] ∧ AreDigits whole ∧ IsFraction fraction ∧ IsPower power ∧
    (fraction ≠ [] ∨ power ≠ []) ∧ cs = whole ++ (fraction ++ power)

theorem IsPower.endsRun (h : IsPower cs) : EndsRun Char.isDigit cs := by
  rcases h with rfl | ⟨sign, ds, -, -, -, rfl⟩
  · trivial
  · exact ⟨by decide, by decide⟩

theorem takePower_eq (h : IsPower cs) : takePower cs = some (cs, []) := by
  rcases h with rfl | ⟨sign, ds, hsign, hne, hds, rfl⟩
  · rfl
  · have hrun := takeRun_digits (x := []) hds trivial []
    obtain ⟨d, ds, rfl⟩ := exists_cons_of_ne_nil hne
    have hstart : startsWith Char.isDigit (d :: ds) = true := hds d (mem_cons_self ..)
    rw [append_nil] at hrun
    rcases hsign with rfl | rfl <;> simp [takePower, takeSign, hstart, hrun]

theorem takeFraction_eq {fraction power : List Char} (h : IsFraction fraction)
    (hp : IsPower power) :
    ∃ ds, takeFraction (fraction ++ power) = some (ds, power) ∧
      (ds.isSome = !fraction.isEmpty) := by
  rcases h with rfl | ⟨ds, hds, rfl⟩
  · refine ⟨none, ?_, rfl⟩
    rcases hp with rfl | ⟨sign, ds, -, -, -, rfl⟩ <;> rfl
  · refine ⟨some ds, ?_, rfl⟩
    have hrun := takeRun_digits hds hp.endsRun []
    have hoptional : takeOptionalRun (ds ++ power) = some (ds, power) := by
      cases ds with
      | nil => rcases hp with rfl | ⟨sign, ds, -, -, -, rfl⟩ <;> rfl
      | cons d ds =>
        have hd := hds d (mem_cons_self ..)
        simpa [takeOptionalRun, hd] using hrun
    simp [takeFraction, hoptional]

theorem IsDecimal.number? (h : IsDecimal cs) :
    ∃ x, Script.number? cs = some (.float x, []) := by
  obtain ⟨whole, fraction, power, hne, hwhole, hfraction, hpower, hsome, rfl⟩ := h
  have hends : EndsRun Char.isDigit (fraction ++ power) ∧
      ∀ c ∈ (fraction ++ power).head?, c ∉ baseMarks := by
    rcases hfraction with rfl | ⟨ds, -, rfl⟩
    · refine ⟨hpower.endsRun, ?_⟩
      rcases hpower with rfl | ⟨sign, ds, -, -, -, rfl⟩
      · simp
      · intro c hc
        cases hc
        decide
    · refine ⟨⟨by decide, by decide⟩, ?_⟩
      intro c hc
      cases hc
      decide
  obtain ⟨ds, hds, hisSome⟩ := takeFraction_eq hfraction hpower
  have hreal : (ds.isSome || !power.isEmpty) = true := by
    rw [hisSome]
    rcases hsome with h | h <;> simp [isEmpty_eq_false_iff.mpr h]
  refine ⟨(readFloat? (String.ofList (whole ++ '.' :: ds.getD [] ++ power))).getD 0.0, ?_⟩
  rw [number?_digits hne hwhole hends.1 hends.2, afterWhole, hds, Option.bind_some]
  simp only [takePower_eq hpower, Option.bind_some, partsValue, hreal, if_true, finish,
    decimalValue]

theorem isOneLine_append {b : List Char} (ha : isOneLine a = true) (hb : isOneLine b = true) :
    isOneLine (a ++ b) = true := by
  simp only [isOneLine, all_append, Bool.and_eq_true] at ha hb ⊢
  exact ⟨ha, hb⟩

theorem IsDecimal.isOneLine (h : IsDecimal cs) : isOneLine cs = true := by
  obtain ⟨whole, fraction, power, -, hwhole, hfraction, hpower, -, rfl⟩ := h
  refine isOneLine_append (isOneLine_digits hwhole) (isOneLine_append ?_ ?_)
  · rcases hfraction with rfl | ⟨ds, hds, rfl⟩
    · rfl
    · exact isOneLine_append (a := ['.']) (by decide) (isOneLine_digits hds)
  · rcases hpower with rfl | ⟨sign, ds, hsign, -, hds, rfl⟩
    · rfl
    · refine isOneLine_append (a := ['e', sign]) ?_ (isOneLine_digits hds)
      rcases hsign with rfl | rfl <;> decide

theorem IsDecimal.token? (h : IsDecimal cs) :
    ∃ x, Script.token? cs = some (.number (.float x), []) := by
  obtain ⟨x, hx⟩ := h.number?
  obtain ⟨whole, fraction, power, hne, hwhole, -, -, -, rfl⟩ := h
  exact ⟨x, token?_digits hne hwhole hx⟩

theorem areDigits_padZeros (width n : Nat) :
    (padZeros width (toString n)).toList ≠ [] ∧
      AreDigits (padZeros width (toString n)).toList := by
  have hn : (toString n).toList = Nat.toDigits 10 n := by
    rw [Nat.toString_eq_ofList_toDigits, String.toList_ofList]
  rw [padZeros, String.toList_append, String.toList_ofList, hn]
  exact ⟨by simp [Nat.toDigits_ne_nil], (areDigits_zeros _).append (areDigits_toDigits n)⟩

/-- **A positive double is written as a decimal.** -/
theorem isDecimal_writeDecimal (d : Number.Decimal) :
    IsDecimal (plain.writeDecimal d).toList := by
  have hds := areDigits_toDigits d.digits
  have hne : Nat.toDigits 10 d.digits ≠ [] := Nat.toDigits_ne_nil
  unfold Number.Style.writeDecimal
  generalize Nat.toDigits 10 d.digits = ds at hds hne
  simp only
  split
  · split
    · refine ⟨['0'], '.' :: (List.replicate (-(d.exponent + ds.length)).toNat '0' ++ ds), [],
        by simp, by simp [AreDigits], .inr ⟨_, (areDigits_zeros _).append hds, rfl⟩, .inl rfl,
        .inl (by simp), ?_⟩
      simp
    · split
      · refine ⟨ds ++ List.replicate ((d.exponent + ds.length).toNat - ds.length) '0', ['.', '0'],
          [], ?_, hds.append (areDigits_zeros _), .inr ⟨['0'], by simp [AreDigits], rfl⟩, .inl rfl,
          .inl (by simp), ?_⟩
        · simp [hne]
        · rw [String.toList_append, String.toList_ofList]
          rfl
      · rename_i hpoint hlen
        refine ⟨ds.take (d.exponent + ds.length).toNat,
          '.' :: ds.drop (d.exponent + ds.length).toNat, [], ?_,
          fun c hc => hds c (mem_of_mem_take hc),
          .inr ⟨_, fun c hc => hds c (mem_of_mem_drop hc), rfl⟩, .inl rfl,
          .inl (by simp), ?_⟩
        · rw [← length_pos_iff, length_take]
          omega
        · simp
  · have hpower : ∀ top : Int, IsPower (("e" ++ (if top < 0 then "-" else "+")) ++
        padZeros plain.exponentWidth (toString top.natAbs)).toList := by
      intro top
      obtain ⟨hne, hdigits⟩ := areDigits_padZeros plain.exponentWidth top.natAbs
      refine .inr ⟨if top < 0 then '-' else '+', _, ?_, hne, hdigits, ?_⟩
      · split <;> simp
      · rw [String.toList_append]
        split <;> rfl
    obtain ⟨c, rest, rfl⟩ := exists_cons_of_ne_nil hne
    have hc : AreDigits [c] := fun e he => hds e (by simp_all)
    have hpne : ∀ top : Int, (("e" ++ (if top < 0 then "-" else "+")) ++
        padZeros plain.exponentWidth (toString top.natAbs)).toList ≠ [] := by
      intro top
      simp
    cases rest with
    | nil =>
      have htop := hpower (d.exponent + ([c] : List Char).length - 1)
      refine ⟨[c], [], _, by simp, hc, .inl rfl, htop, .inr (hpne _), ?_⟩
      simp
    | cons e rest =>
      have htop := hpower (d.exponent + (c :: e :: rest).length - 1)
      refine ⟨[c], '.' :: e :: rest, _, by simp, hc,
        .inr ⟨_, fun x hx => hds x (mem_cons_of_mem _ hx), rfl⟩, htop, .inl (by simp), ?_⟩
      simp

/-! ## Signs -/

theorem token?_minus (hc : c.isDigit = true) (cs : List Char) :
    token? ('-' :: c :: cs) = some (.op "-", c :: cs) := by
  have hbounds : 48 ≤ c.toNat ∧ c.toNat ≤ 57 := by
    simpa [Char.isDigit, UInt32.le_iff_toNat_le] using hc
  obtain ⟨d, hd, hvalue⟩ : ∃ d < 10, c = Char.ofNat (48 + d) :=
    ⟨c.toNat - 48, by omega, by rw [Nat.add_sub_cancel' hbounds.1, Char.ofNat_toNat]⟩
  subst hvalue
  match d, hd with
  | 0, _ | 1, _ | 2, _ | 3, _ | 4, _ | 5, _ | 6, _ | 7, _ | 8, _ | 9, _ => rfl

theorem operand_minus (hline : isOneLine cs = true)
    (hc : ∃ c ∈ cs.head?, c.isDigit = true) (h : token? cs = some (.number v, [])) :
    FormsBy (IsBrief 4) moved ('-' :: cs) (.signed .minus (.constant v)) := by
  obtain ⟨c, hhead, hc⟩ := hc
  cases cs with
  | nil => cases hhead
  | cons d cs =>
    cases hhead
    exact forms_of_inline (isOneLine_append (a := ['-']) (by decide) hline)
      (.token (token?_minus hc cs) (.token h .nil)) rfl
      ((isPrimary_number v).unary.minus.brief rfl)

/-- The expression that an integer is written as. -/
def intTree (i : Int) : Expr :=
  if i < 0 then .signed .minus (.constant (.int i.natAbs)) else .constant (.int i.natAbs)

/-- **An integer reads as its digits, with their sign changed if it is negative.** -/
theorem operand_int {i : Int} (h : i.natAbs < 10 ^ maxDigits) :
    FormsBy (IsBrief 4) moved (toString i).toList (intTree i) := by
  have hdigits : ∀ n : Nat, (toString n).toList = Nat.toDigits 10 n := fun n => by
    rw [Nat.toString_eq_ofList_toDigits, String.toList_ofList]
  unfold intTree
  split
  · rename_i hneg
    obtain ⟨n, rfl⟩ := Int.eq_negSucc_of_lt_zero hneg
    have htext : (toString (Int.negSucc n)).toList = '-' :: Nat.toDigits 10 (n + 1) := by
      show ("-" ++ toString (n + 1)).toList = _
      rw [String.toList_append, hdigits]
      rfl
    rw [htext]
    exact operand_minus (isOneLine_digits (areDigits_toDigits _))
      (AreDigits.head (areDigits_toDigits _) Nat.toDigits_ne_nil) (token?_natural h)
  · rename_i hpos
    obtain ⟨n, rfl⟩ := Int.eq_ofNat_of_zero_le (Int.not_lt.mp hpos)
    have htext : (toString (n : Int)).toList = Nat.toDigits 10 n := hdigits n
    rw [htext]
    exact operand_natural h

/-- The expressions that doubles are written as: a number or a word, with its sign. -/
def isNumeral : Expr → Bool
  | .constant (.float _) => true
  | .name s => s == "nan" || s == "inf"
  | .signed .minus e => isNumeral e
  | _ => false

theorem IsDecimal.operand (h : IsDecimal cs) :
    ∃ e, FormsBy (IsBrief 4) moved cs e ∧ isNumeral e = true := by
  obtain ⟨x, hx⟩ := h.token?
  exact ⟨_, forms_of_inline h.isOneLine (.token hx .nil) rfl
    ((isPrimary_number _).unary.brief rfl), rfl⟩

theorem IsDecimal.operand_minus (h : IsDecimal cs) :
    ∃ e, FormsBy (IsBrief 4) moved ('-' :: cs) e ∧ isNumeral e = true := by
  obtain ⟨x, hx⟩ := h.token?
  refine ⟨_, Script.operand_minus h.isOneLine ?_ hx, rfl⟩
  obtain ⟨whole, fraction, power, hne, hwhole, -, -, -, rfl⟩ := h
  obtain ⟨c, hc, hd⟩ := hwhole.head hne
  exact ⟨c, by rw [head?_append_of_ne_nil _ hne]; exact hc, hd⟩

/-- **A double reads as a number or as its word.** -/
theorem operand_double (x : Float) :
    ∃ e, FormsBy (IsBrief 4) moved (plain.write x).toList e ∧ isNumeral e = true := by
  have hzero : IsDecimal ("0" ++ plain.integral).toList :=
    ⟨['0'], ['.', '0'], [], by decide, by simp [AreDigits], .inr ⟨['0'], by simp [AreDigits], rfl⟩,
      .inl rfl, .inl (by simp), rfl⟩
  have hword : ∀ word : String, isOneLine word.toList = true →
      inline? word.toList = some [.name word] →
      FormsBy (IsBrief 4) moved word.toList (.name word) :=
    fun word hline h => forms_of_inline hline (inline_of_inline? h) rfl
      ((isTrailed_nil _).name.unary.brief rfl)
  unfold Number.Style.write
  cases Number.Binary64.ofFloat x with
  | notANumber => exact ⟨_, hword "nan" (by decide) rfl, rfl⟩
  | infinite negative =>
    cases negative with
    | false => exact ⟨_, hword "inf" (by decide) rfl, rfl⟩
    | true =>
      have hinline : inline? "-inf".toList = some [.op "-", .name "inf"] := rfl
      have hminus : FormsBy (IsBrief 4) moved "-inf".toList (.signed .minus (.name "inf")) :=
        forms_of_inline (by decide) (inline_of_inline? hinline) rfl
          ((isTrailed_nil _).name.unary.minus.brief rfl)
      exact ⟨_, hminus, rfl⟩
  | finite negative mantissa exponent =>
    have hsigned : ∀ text : String, IsDecimal text.toList →
        ∃ e, FormsBy (IsBrief 4) moved ((if negative then "-" else "") ++ text).toList e ∧
          isNumeral e = true := by
      intro text h
      cases negative with
      | false => simpa using h.operand
      | true => simpa using h.operand_minus
    dsimp only
    split
    · rw [String.append_assoc]
      exact hsigned _ hzero
    · exact hsigned _ (isDecimal_writeDecimal _)

/-! ## Words -/

theorem range_of_isAlpha (h : (c.isAlpha || c == '_') = true) :
    65 ≤ c.toNat ∧ c.toNat < 0x7f := by
  unfold Char.isAlpha Char.isUpper Char.isLower at h
  simp only [Bool.or_eq_true, Bool.and_eq_true, decide_eq_true_eq, beq_iff_eq,
    UInt32.le_iff_toNat_le, ge_iff_le] at h
  rcases h with (⟨hl, hu⟩ | ⟨hl, hu⟩) | rfl
  · exact ⟨hl, Nat.lt_of_le_of_lt hu (by decide)⟩
  · exact ⟨Nat.le_trans (by decide) hl, Nat.lt_of_le_of_lt hu (by decide)⟩
  · decide

theorem range_of_isAlphanum (h : (c.isAlphanum || c == '_') = true) :
    48 ≤ c.toNat ∧ c.toNat < 0x7f := by
  cases hc : (c.isAlpha || c == '_') with
  | true => exact ⟨Nat.le_trans (by decide) (range_of_isAlpha hc).1, (range_of_isAlpha hc).2⟩
  | false =>
    have hdigit : c.isDigit = true := by
      simp only [Bool.or_eq_false_iff] at hc
      simpa [Char.isAlphanum, hc.1, hc.2] using h
    simp only [Char.isDigit, Bool.and_eq_true, decide_eq_true_eq, UInt32.le_iff_toNat_le,
      ge_iff_le] at hdigit
    exact ⟨hdigit.1, Nat.lt_of_le_of_lt hdigit.2 (by decide)⟩

theorem operand_word {word : String} (hline : isOneLine word.toList = true)
    (hword : inline? word.toList = some [.keyword word]) (h : wordValues.lookup word = some v) :
    FormsBy (IsBrief 4) moved word.toList (.constant v) :=
  forms_of_inline hline (inline_of_inline? hword) rfl ((isPrimary_word h).unary.brief rfl)

end Sketchflow.Script
