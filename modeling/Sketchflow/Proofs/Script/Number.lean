import Sketchflow.Script.Lexer

/-!
# Numbers and what follows them

A number reads the same whatever follows it, if that starts with a blank, a bracket, a comma, a
colon or the end of the line.

* `Follows` are the texts that can follow a token; `Ends` says what the lexer asks of their first
  character.
* `Scans` are the parts of the lexer that what follows does not change; `Scans.bind`, `Scans.ite`
  and their like put them together.
* **`scans_number?`**: what follows a number leaves it as it is, and it takes a character.
-/

namespace Sketchflow.Script

open List

variable {c : Char} {isDigit : Char → Bool} {cs ds rest : List Char} {v : Value}

/-! ## What can follow a piece -/

/-- The characters that end every token. -/
def isStop (c : Char) : Bool :=
  [' ', '(', ')', '[', ']', ',', ':', '\n'].contains c

/-- What can follow a piece of a line: nothing, or a character that ends every token. -/
def Follows : List Char → Prop
  | [] => True
  | c :: _ => isStop c = true

theorem forall_mem_of_all {α : Type} {l : List α} {P : α → Prop} [DecidablePred P]
    (h : l.all (fun a => decide (P a)) = true) : ∀ a ∈ l, P a := by
  simpa [all_eq_true] using h

/-- What the lexer asks of a character while a token goes on. -/
structure Ends (c : Char) : Prop where
  digit : c.isDigit = false
  word : isWordChar c = false
  quote : isQuote c = false
  hex : Json.hexValue? c = none
  underscore : c ≠ '_'
  dot : c ≠ '.'
  power : (c == 'e' || c == 'E') = false
  unit : (c == 'j' || c == 'J') = false
  sign : c ≠ '+' ∧ c ≠ '-'
  octal : ¬('0' ≤ c && c ≤ '7') = true

theorem ends_of_isStop (h : isStop c = true) : Ends c := by
  have hc : c ∈ [' ', '(', ')', '[', ']', ',', ':', '\n'] := contains_iff_mem.mp h
  have hall : ∀ c ∈ [' ', '(', ')', '[', ']', ',', ':', '\n'], c.isDigit = false ∧
      isWordChar c = false ∧ isQuote c = false ∧ Json.hexValue? c = none ∧ c ≠ '_' ∧ c ≠ '.' ∧
      (c == 'e' || c == 'E') = false ∧ (c == 'j' || c == 'J') = false ∧
      (c ≠ '+' ∧ c ≠ '-') ∧ ¬('0' ≤ c && c ≤ '7') = true := forall_mem_of_all (by decide)
  obtain ⟨hd, hw, hq, hh, hu, ht, hp, hi, hs, ho⟩ := hall c hc
  exact ⟨hd, hw, hq, hh, hu, ht, hp, hi, hs, ho⟩

theorem Ends.beq {d : Char} (h : Ends c) (hd : isWordChar d = true) : (c == d) = false := by
  refine beq_eq_false_iff_ne.mpr fun he => ?_
  rw [he] at h
  exact absurd h.word (by simp [hd])

/-! ## Scanners -/

/-- A part of the lexer: it takes no more than there is, and takes the same whatever follows. -/
structure Scans {α : Type} (f : List Char → Option (α × List Char)) : Prop where
  length : ∀ {cs a rest}, f cs = some (a, rest) → rest.length ≤ cs.length
  append : ∀ {cs a rest x}, Follows x → f cs = some (a, rest) → f (cs ++ x) = some (a, rest ++ x)

/-- A test whose result is the same whatever follows. -/
def Steady (test : List Char → Bool) : Prop :=
  ∀ cs x, Follows x → test (cs ++ x) = test cs

/-- A test of characters that those that end every token do not pass. -/
def Inner (test : Char → Bool) : Prop :=
  ∀ c, isStop c = true → test c = false

theorem Inner.steady {test : Char → Bool} (h : Inner test) : Steady (startsWith test) := by
  intro cs x hx
  cases cs with
  | nil =>
    cases x with
    | nil => rfl
    | cons c x => exact h c hx
  | cons c cs => rfl

theorem inner_isDigit : Inner Char.isDigit := fun _ h => (ends_of_isStop h).digit

theorem inner_beq {d : Char} (hd : isStop d = false) : Inner (· == d) := by
  intro c hc
  refine beq_eq_false_iff_ne.mpr ?_
  rintro rfl
  rw [hc] at hd
  cases hd

section

variable {α β : Type} {f g : List Char → Option (α × List Char)}

theorem scans_pure (a : α) : Scans fun cs => some (a, cs) := by
  constructor
  · intro cs a rest h
    cases h
    exact Nat.le_refl _
  · intro cs a rest x _ h
    cases h
    rfl

theorem scans_none : Scans fun _ => (none : Option (α × List Char)) :=
  ⟨nofun, fun _ => nofun⟩

theorem Scans.bind {k : α × List Char → Option (β × List Char)} (hf : Scans f)
    (hk : ∀ a, Scans fun cs => k (a, cs)) : Scans fun cs => (f cs).bind k := by
  constructor
  · intro cs b rest h
    obtain ⟨r, hr, h⟩ := Option.bind_eq_some_iff.mp h
    exact Nat.le_trans ((hk r.1).length h) (hf.length hr)
  · intro cs b rest x hx h
    obtain ⟨r, hr, h⟩ := Option.bind_eq_some_iff.mp h
    rw [hf.append hx hr]
    exact (hk r.1).append hx h

theorem Scans.map (hf : Scans f) (value : α → β) :
    Scans fun cs => (f cs).map fun r => (value r.1, r.2) := by
  simp only [Option.map_eq_bind]
  exact hf.bind fun a => scans_pure (value a)

theorem Scans.ite {test : List Char → Bool} (ht : Steady test) (hf : Scans f) (hg : Scans g) :
    Scans fun cs => if test cs then f cs else g cs := by
  constructor
  · intro cs a rest h
    split at h
    · exact hf.length h
    · exact hg.length h
  · intro cs a rest x hx h
    rw [ht cs x hx]
    split at h
    · rw [if_pos ‹_›]
      exact hf.append hx h
    · rw [if_neg ‹_›]
      exact hg.append hx h

theorem Scans.mark {test : Char → Bool} (ht : Inner test) (hf : Scans f) (hg : Scans g) :
    Scans fun cs => if startsWith test cs then f cs.tail else g cs := by
  constructor
  · intro cs a rest h
    split at h
    · exact Nat.le_trans (hf.length h) (by simp)
    · exact hg.length h
  · intro cs a rest x hx h
    rw [ht.steady cs x hx]
    split at h
    · rename_i hs
      rw [if_pos hs]
      cases cs with
      | nil => cases hs
      | cons c cs => exact hf.append hx h
    · rw [if_neg ‹_›]
      exact hg.append hx h

/-- A test of what follows that holds no less if there is more of it. -/
theorem scans_test {test : List Char → Bool} (a : α)
    (ht : ∀ cs x, Follows x → test cs = true → test (cs ++ x) = true) :
    Scans fun cs => if test cs then some (a, cs) else none := by
  constructor
  · intro cs b rest h
    split at h
    · exact (scans_pure a).length h
    · cases h
  · intro cs b rest x hx h
    split at h
    · rw [if_pos (ht cs x hx ‹_›)]
      exact (scans_pure a).append hx h
    · cases h

end

/-! ## Numbers -/

/-- A text that does not go on with digits of some kind. -/
def EndsRun (isDigit : Char → Bool) : List Char → Prop
  | [] => True
  | c :: _ => isDigit c = false ∧ c ≠ '_'

theorem takeRun_cons {done : List Char} (h : c ≠ '_') :
    takeRun isDigit done (c :: rest) =
      if isDigit c then takeRun isDigit (c :: done) rest else some (done.reverse, c :: rest) :=
  takeRun.eq_3 _ _ _ _ (fun _ _ he => absurd he h) (fun he => absurd he h)

theorem scans_takeRun (hd : Inner isDigit) (done : List Char) : Scans (takeRun isDigit done) := by
  have hscan : ∀ cs done ds rest, takeRun isDigit done cs = some (ds, rest) →
      rest.length ≤ cs.length ∧
        ∀ x, Follows x → takeRun isDigit done (cs ++ x) = some (ds, rest ++ x) := by
    intro cs done
    have hplain : ∀ {c : Char} {rest : List Char},
        (∀ d more, c = '_' → rest = d :: more → False) → (c = '_' → rest = [] → False) →
          c ≠ '_' := by
      rintro c rest hu hu' rfl
      cases rest with
      | nil => exact hu' rfl rfl
      | cons d rest => exact hu d rest rfl rfl
    fun_induction takeRun isDigit done cs with
    | case1 done c rest hc ih =>
      intro ds r h
      obtain ⟨hlen, happend⟩ := ih ds r h
      refine ⟨Nat.le_succ_of_le (Nat.le_succ_of_le hlen), fun x hx => ?_⟩
      simpa [takeRun, hc] using happend x hx
    | case2 | case3 =>
      intro ds r h
      cases h
    | case4 done c rest hu hu' hc ih =>
      intro ds r h
      obtain ⟨hlen, happend⟩ := ih ds r h
      refine ⟨Nat.le_succ_of_le hlen, fun x hx => ?_⟩
      rw [cons_append, takeRun_cons (hplain hu hu'), if_pos hc]
      exact happend x hx
    | case5 done c rest hu hu' hc =>
      intro ds r h
      cases h
      refine ⟨Nat.le_refl _, fun x _ => ?_⟩
      rw [cons_append, takeRun_cons (hplain hu hu'), if_neg hc]
    | case6 done =>
      intro ds r h
      cases h
      refine ⟨Nat.le_refl _, fun x hx => ?_⟩
      cases x with
      | nil => rfl
      | cons c x => rw [nil_append, takeRun_cons (ends_of_isStop hx).underscore, hd c hx]; rfl
  exact ⟨fun h => (hscan _ _ _ _ h).1, fun hx h => (hscan _ _ _ _ h).2 _ hx⟩

theorem scans_takeOptionalRun : Scans takeOptionalRun := by
  have heq : takeOptionalRun = fun cs =>
      if startsWith Char.isDigit cs then takeRun Char.isDigit [] cs else some ([], cs) := by
    funext cs
    cases cs <;> rfl
  rw [heq]
  exact .ite inner_isDigit.steady (scans_takeRun inner_isDigit []) (scans_pure [])

theorem canEnd_append {x : List Char} (hx : Follows x) (h : canEnd cs = true) :
    canEnd (cs ++ x) = true := by
  cases cs with
  | nil =>
    cases x with
    | nil => rfl
    | cons c x => simp [canEnd, (ends_of_isStop hx).word]
  | cons c cs =>
    simp only [canEnd, cons_append, Bool.or_eq_true, any_eq_true] at h ⊢
    refine h.imp_right fun ⟨w, hw, hp⟩ => ⟨w, hw, ?_⟩
    exact List.isPrefixOf_iff_prefix.mpr
      ((List.isPrefixOf_iff_prefix.mp hp).trans (prefix_append _ _))

theorem scans_finish (v : Value) : Scans (finish v) := by
  have heq : finish v = fun cs => if startsWith (fun c => c == 'j' || c == 'J') cs then
      (fun cs => if canEnd cs then some (imaginary v, cs) else none) cs.tail
        else if canEnd cs then some (v, cs) else none := by
    funext cs
    cases cs <;> rfl
  have htest : ∀ v : Value, Scans fun cs => if canEnd cs then some (v, cs) else none := fun v =>
    scans_test v fun _ _ hx h => canEnd_append hx h
  rw [heq]
  exact .mark (fun _ hc => (ends_of_isStop hc).unit) (htest _) (htest v)

theorem takeSign_append {x : List Char} (hx : Follows x) (cs : List Char) :
    takeSign (cs ++ x) = ((takeSign cs).1, (takeSign cs).2 ++ x) := by
  fun_cases takeSign cs with
  | case1 rest => rfl
  | case2 rest => rfl
  | case3 _ hplus hminus =>
    refine takeSign.eq_3 _ (fun r he => ?_) (fun r he => ?_)
    · cases cs with
      | nil =>
        subst he
        exact (ends_of_isStop hx).sign.1 rfl
      | cons c cs => exact hplus cs (by rw [(List.cons.inj he).1])
    · cases cs with
      | nil =>
        subst he
        exact (ends_of_isStop hx).sign.2 rfl
      | cons c cs => exact hminus cs (by rw [(List.cons.inj he).1])

theorem scans_takePower : Scans takePower := by
  have hpure := scans_pure ([] : List Char)
  constructor
  · intro cs power rest h
    cases cs with
    | nil => exact hpure.length h
    | cons mark cs =>
      simp only [takePower] at h
      split at h
      · split at h
        · have hrun := ((scans_takeRun inner_isDigit []).map (mark :: (takeSign cs).1 ++ ·)).length h
          have hsign : (takeSign cs).2.length ≤ cs.length := by
            fun_cases takeSign cs <;> simp
          exact Nat.le_succ_of_le (Nat.le_trans hrun hsign)
        · split at h
          · exact hpure.length h
          · cases h
      · exact hpure.length h
  · intro cs power rest x hx h
    cases cs with
    | nil =>
      cases h
      cases x with
      | nil => rfl
      | cons c x => simp [takePower, (ends_of_isStop hx).power]
    | cons mark cs =>
      simp only [takePower, cons_append, takeSign_append hx,
        inner_isDigit.steady _ x hx] at h ⊢
      split at h
      · split at h
        · rw [if_pos ‹_›, if_pos ‹_›]
          exact ((scans_takeRun inner_isDigit []).map (mark :: (takeSign cs).1 ++ ·)).append hx h
        · split at h
          · rw [if_pos ‹_›, if_neg ‹_›, if_pos ‹_›]
            exact hpure.append hx h
          · cases h
      · rw [if_neg ‹_›]
        exact hpure.append hx h

theorem Scans.afterFraction {f : List Char → Option (Option (List Char) × List Char)}
    (hf : Scans f) (whole : List Char) : Scans fun cs => (f cs).bind fun (fraction, rest) =>
      (takePower rest).bind fun (power, rest) =>
        (finish (partsValue whole fraction power) rest).bind fun (v, rest) =>
          match v with
          | .int _ => if isWhole whole then some (v, rest) else none
          | _ => some (v, rest) := by
  refine hf.bind fun fraction => scans_takePower.bind fun power => (scans_finish _).bind fun v => ?_
  cases v with
  | int i => exact scans_test _ fun _ _ _ h => h
  | _ => exact scans_pure _

theorem scans_point : Scans fun cs => takeFraction ('.' :: cs) :=
  scans_takeOptionalRun.map some

theorem scans_afterWhole (whole : List Char) : Scans (afterWhole whole) := by
  have heq : takeFraction = fun cs => if startsWith (· == '.') cs then
      (fun cs => takeFraction ('.' :: cs)) cs.tail else some (none, cs) := by
    funext cs
    fun_cases takeFraction cs with
    | case1 cs => rfl
    | case2 _ hdot =>
      cases cs with
      | nil => rfl
      | cons c cs =>
        have hne : ¬(c == '.') = true := fun he => hdot cs (by rw [beq_iff_eq.mp he])
        exact (if_neg hne).symm
  have hfraction : Scans takeFraction := by
    rw [heq]
    exact .mark (inner_beq rfl) scans_point (scans_pure none)
  exact hfraction.afterFraction whole

theorem Scans.dropUnderscore {f : List Char → Option (Value × List Char)} (hf : Scans f) :
    Scans fun cs => f (dropUnderscore cs) := by
  have heq : (fun cs => f (Script.dropUnderscore cs)) = fun cs =>
      if startsWith (· == '_') cs then f cs.tail else f cs := by
    funext cs
    fun_cases Script.dropUnderscore cs with
    | case1 rest => rfl
    | case2 _ hu =>
      cases cs with
      | nil => rfl
      | cons c cs =>
        have hne : ¬(c == '_') = true := fun he => hu cs (by rw [beq_iff_eq.mp he])
        exact (if_neg hne).symm
  rw [heq]
  exact .mark (inner_beq rfl) hf hf

theorem scans_takeBased (base : Nat) : Scans (takeBased base) := by
  have hinner : Inner (isBaseDigit base) := fun c hc => by
    simp [isBaseDigit, (ends_of_isStop hc).hex]
  have htest : ∀ v : Value, Scans fun cs =>
      if canEnd cs && !startsWith Char.isDigit cs then some (v, cs) else none := by
    refine fun v => scans_test v fun cs x hx h => ?_
    rw [Bool.and_eq_true] at h
    rw [inner_isDigit.steady cs x hx, canEnd_append hx h.1, h.2]
    rfl
  exact .dropUnderscore (.ite hinner.steady ((scans_takeRun hinner []).bind fun ds =>
    htest (.int (ofBase base ds))) scans_none)

/-- **What follows a number leaves it as it is**, and it takes a character. -/
theorem scans_number? (hc : c.isDigit = true ∨ c = '.') : Scans fun cs => number? (c :: cs) := by
  have hwhole : ∀ c : Char, Scans fun cs =>
      (takeRun Char.isDigit [c] cs).bind fun r => afterWhole r.1 r.2 := fun c =>
    (scans_takeRun inner_isDigit [c]).bind scans_afterWhole
  by_cases hzero : c = '0'
  · subst hzero
    have heq : (fun cs => number? ('0' :: cs)) = fun cs =>
        if startsWith (fun c => c == 'x' || c == 'X') cs then takeBased 16 cs.tail
        else if startsWith (fun c => c == 'o' || c == 'O') cs then takeBased 8 cs.tail
        else if startsWith (fun c => c == 'b' || c == 'B') cs then takeBased 2 cs.tail
        else (takeRun Char.isDigit ['0'] cs).bind fun r => afterWhole r.1 r.2 := by
      funext cs
      cases cs <;> rfl
    have hinner : ∀ {d e : Char}, isWordChar d = true → isWordChar e = true →
        Inner fun c => c == d || c == e := fun hd he c hc => by
      simp [(ends_of_isStop hc).beq hd, (ends_of_isStop hc).beq he]
    rw [heq]
    exact .mark (hinner rfl rfl) (scans_takeBased 16) (.mark (hinner rfl rfl) (scans_takeBased 8)
      (.mark (hinner rfl rfl) (scans_takeBased 2) (hwhole '0')))
  · by_cases hdot : c = '.'
    · subst hdot
      exact scans_point.afterFraction ['0']
    · have hdigit : c.isDigit = true := hc.resolve_right hdot
      have hu : c ≠ '_' := by
        rintro rfl
        cases hdigit
      have heq : (fun cs => number? (c :: cs)) = fun cs =>
          (takeRun Char.isDigit [c] cs).bind fun r => afterWhole r.1 r.2 := by
        funext cs
        rw [number?.eq_3 _ (fun _ _ he => hzero (List.cons.inj he).1)
          (fun _ he => hdot (List.cons.inj he).1), takeRun_cons hu, if_pos hdigit]
      rw [heq]
      exact hwhole c

end Sketchflow.Script
