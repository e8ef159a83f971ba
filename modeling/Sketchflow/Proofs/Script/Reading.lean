import Sketchflow.Proofs.Script.Lookahead

/-!
# Expressions and what follows them

An expression that is read from some tokens is read from them also when more tokens follow, if
those end an expression, and the bound of the parser only has to be as large as its tokens are many.

* `Read` says that a function of the parser reads something whatever halting tokens follow, and
  within which bound. `Sound` says so of all that a function reads within a bound; it has a rule for
  each way in which the parser puts functions together.
* **`expr?_read`**: what is read as an expression once is read as one always.
-/

namespace Sketchflow.Script

open List

variable {take : List Token → Option (List Token)}

/-! ## Reading -/

/-- A function of the parser reads `a` and leaves `rest`: it takes at least `least` tokens, and
does the same when halting tokens follow, within any bound that is large enough. -/
structure Read {α : Type} (f : Nat → List Token → Option (α × List Token)) (least extra : Nat)
    (ts : List Token) (a : α) (rest : List Token) : Prop where
  shorter : rest.length + least ≤ ts.length
  more : ∀ {x bound}, Halts x → 24 * (ts.length - rest.length) + extra ≤ bound →
    f bound (ts ++ x) = some (a, rest ++ x)

/-- What a function of the parser reads within a bound it reads within others as well. -/
def Sound {α : Type} (f : Nat → List Token → Option (α × List Token)) (bound least extra : Nat) :
    Prop :=
  ∀ ts a rest, f bound ts = some (a, rest) → Read f least extra ts a rest

namespace Sound

variable {α β : Type} {bound l l' e e' : Nat} {f q : Nat → List Token → Option (α × List Token)}

theorem pure (a : α) : Sound (fun _ ts => some (a, ts)) bound 0 0 := by
  rintro ts a rest ⟨⟩
  exact ⟨Nat.le_refl _, fun _ _ => rfl⟩

theorem fail : Sound (fun _ _ => (none : Option (α × List Token))) bound l e :=
  nofun

theorem mono (h : Sound f bound l e) (hl : l' ≤ l) (he : e ≤ e') : Sound f bound l' e' := by
  intro ts a rest hread
  have k := h _ _ _ hread
  have hlen := k.shorter
  exact ⟨by omega, fun hx hb => k.more hx (by omega)⟩

/-- One more round of a function of the parser. -/
theorem step (h : Sound q bound l e) (hf : ∀ n ts, f (n + 1) ts = q n ts) (hl : l' ≤ l)
    (he : e < e') : Sound f (bound + 1) l' e' := by
  intro ts a rest hread
  rw [hf] at hread
  have k := h _ _ _ hread
  have hlen := k.shorter
  refine ⟨by omega, fun {x n} hx hn => ?_⟩
  obtain ⟨n, rfl⟩ : ∃ m, n = m + 1 := ⟨n - 1, by omega⟩
  rw [hf]
  exact k.more hx (by omega)

theorem bind {q : α → Nat → List Token → Option (β × List Token)} (hf : Sound f bound l e)
    (hq : ∀ a, Sound (q a) bound l' e') :
    Sound (fun n ts => do let (a, us) ← f n ts; q a n us) bound (l + l')
      (max (e - 24 * l') (e' - 24 * l)) := by
  intro ts b rest hread
  obtain ⟨⟨a, mid⟩, ha, hb⟩ := Option.bind_eq_some_iff.mp hread
  have ka := hf _ _ _ ha
  have kb := hq a _ _ _ hb
  have hla := ka.shorter
  have hlb := kb.shorter
  dsimp only at *
  refine ⟨by omega, fun {x n} hx hn => ?_⟩
  simp only [ka.more hx (show _ ≤ n by omega), Option.bind_eq_bind, Option.bind_some,
    kb.more hx (show _ ≤ n by omega)]

theorem map (h : Sound f bound l e) (u : α → β) :
    Sound (fun n ts => (f n ts).map fun r => (u r.1, r.2)) bound l e := by
  intro ts b rest hread
  obtain ⟨⟨a, mid⟩, ha, hb⟩ := Option.map_eq_some_iff.mp hread
  cases hb
  have k := h _ _ _ ha
  exact ⟨k.shorter, fun hx hb => by simp [k.more hx hb]⟩

/-- A look in front and then one of two functions. If nothing is found, then a token has to be taken
all the same, or the look passes over what halts. -/
theorem look {look : List Token → Option (β × List Token)}
    {q : β → Nat → List Token → Option (α × List Token)} (hlook : Looks look)
    (hmiss : 0 < l ∨ Passes look) (hf : Sound f bound l e) (hq : ∀ b, Sound (q b) bound l' e') :
    Sound (fun n ts => match look ts with | none => f n ts | some (b, us) => q b n us) bound
      (min l (l' + 1)) (max e (e' - 24)) := by
  intro ts a rest hread
  dsimp only at hread
  cases hfound : look ts with
  | none =>
    rw [hfound] at hread
    have k := hf _ _ _ hread
    have hlen := k.shorter
    refine ⟨by omega, fun {x n} hx hn => ?_⟩
    have hmissed : look (ts ++ x) = none := by
      cases ts with
      | nil =>
        rcases hmiss with hpos | hpass
        · simp only [length_nil] at hlen; omega
        · exact hpass x hx
      | cons t ts => exact hlook.missed hx hfound (Nat.succ_pos _)
    simp only [hmissed]
    exact k.more hx (by omega)
  | some r =>
    rw [hfound] at hread
    have k := hq r.1 _ _ _ hread
    have hlen := k.shorter
    have hlen' := hlook.shorter hfound
    refine ⟨by omega, fun {x n} hx hn => ?_⟩
    simp only [hlook.found hx hfound]
    exact k.more hx (by omega)

theorem maybe (htake : Looks (just take))
    (hmiss : 0 < l ∨ Passes (just take)) (hf : Sound f bound l e) (hq : Sound q bound l' e') :
    Sound (fun n ts => match take ts with | none => f n ts | some us => q n us) bound
      (min l (l' + 1)) (max e (e' - 24)) := by
  refine (congrArg (Sound · bound _ _) (funext fun n => funext fun ts => ?_)).mpr
    (look (q := fun _ => q) htake hmiss hf fun _ => hq)
  unfold just
  cases take ts <;> rfl

theorem choose (htake : Looks (just take))
    (hmiss : 0 < l ∨ Passes (just take)) (hq : Sound q bound l' e') (hf : Sound f bound l e) :
    Sound (fun n ts => match take ts with | some us => q n us | none => f n ts) bound
      (min l (l' + 1)) (max e (e' - 24)) := by
  refine (congrArg (Sound · bound _ _) (funext fun n => funext fun ts => ?_)).mpr
    (maybe htake hmiss hf hq)
  cases take ts <;> rfl

theorem expect (htake : Looks (just take)) (hq : Sound q bound l e) :
    Sound (fun n ts => do let us ← take ts; q n us) bound (l + 1) (e - 24) := by
  have hbind : (fun n ts => do let us ← take ts; q n us) =
      fun n ts => match take ts with | none => none | some us => q n us := by
    funext n ts
    cases take ts <;> rfl
  rw [hbind]
  exact (maybe htake (.inl (Nat.succ_pos l)) (fail (e := 0)) hq).mono (by omega) (by omega)

theorem ite {c : Prop} [Decidable c] (hf : Sound f bound l e) (hq : Sound q bound l' e') :
    Sound (fun n ts => if c then f n ts else q n ts) bound (min l l') (max e e') := by
  by_cases hc : c
  · simp only [if_pos hc]
    exact hf.mono (by omega) (by omega)
  · simp only [if_neg hc]
    exact hq.mono (by omega) (by omega)

end Sound

/-! ## The functions of the parser -/

/-- All that the functions of the parser read within a bound. -/
structure ReadsWithin (bound : Nat) : Prop where
  expr : Sound expr? bound 1 14
  either : Sound either? bound 1 13
  both : Sound both? bound 1 12
  negation : Sound negation? bound 1 11
  comparisons : Sound comparisons? bound 0 1
  ranked : ∀ {rs}, rs <:+ ranks → Sound (ranked? · rs) bound 1 (4 + rs.length)
  rankedRest : ∀ {rank tighter}, rank :: tighter <:+ ranks → ∀ left,
    Sound (rankedRest? · rank tighter left) bound 0 1
  signed : Sound signed? bound 1 3
  primary : Sound primary? bound 1 2
  trailers : ∀ owner, Sound (trailers? · owner) bound 0 1
  items : ∀ close, Sound (items? · close) bound 1 15
  entriesRest : Sound entriesRest? bound 1 1
  bracketed : ∀ {op}, Sound (bracketed? · op) bound 1 16
  atom : Sound atom? bound 1 1

namespace ReadsWithin

variable {bound : Nat} (ih : ReadsWithin bound)
include ih

theorem expr_step : Sound expr? (bound + 1) 1 14 := by
  have h := ih.either.bind fun yes => .maybe (looksAt_keyword "if").looks
    (.inr (passes_keyword "if")) (.pure yes) (ih.either.bind fun condition =>
      .expect (looksAt_keyword "else").looks
        (ih.expr.bind fun no => .pure (.choose condition yes no)))
  exact h.step (fun n ts => by rewrite [expr?]; rfl) (by decide) (by decide)

theorem either_step : Sound either? (bound + 1) 1 13 := by
  have h := ih.both.bind fun left => .maybe (looksAt_keyword "or").looks
    (.inr (passes_keyword "or")) (.pure left)
    (ih.either.bind fun right => .pure (.either left right))
  exact h.step (fun n ts => by rewrite [either?]; rfl) (by decide) (by decide)

theorem both_step : Sound both? (bound + 1) 1 12 := by
  have h := ih.negation.bind fun left => .maybe (looksAt_keyword "and").looks
    (.inr (passes_keyword "and")) (.pure left) (ih.both.bind fun right => .pure (.both left right))
  exact h.step (fun n ts => by rewrite [both?]; rfl) (by decide) (by decide)

theorem negation_step : Sound negation? (bound + 1) 1 11 := by
  have h := Sound.choose (looksAt_keyword "not").looks (.inr (passes_keyword "not"))
    (ih.negation.map .negate)
    ((ih.ranked suffix_rfl).bind fun first => ih.comparisons.bind fun chain =>
      .pure (if chain.isEmpty then first else .compare first chain))
  exact h.step (fun n ts => by rewrite [negation?]; rfl) (by decide) (by decide)

theorem comparisons_step : Sound comparisons? (bound + 1) 0 1 := by
  have h := Sound.look looks_comparison (.inr passes_comparison) (.pure [])
    fun op => (ih.ranked suffix_rfl).bind fun e => ih.comparisons.bind fun chain =>
      .pure ((op, e) :: chain)
  refine h.step (fun n ts => ?_) (by decide) (by decide)
  rw [comparisons?]
  rcases takeComparison ts with _ | ⟨op, us⟩ <;> rfl

theorem ranked_step {rs : List (List (String × Value.Operator))} (hrs : rs <:+ ranks) :
    Sound (ranked? · rs) (bound + 1) 1 (4 + rs.length) := by
  cases rs with
  | nil => exact ih.signed.step (fun _ _ => rfl) (by decide) (by decide)
  | cons rank tighter =>
    have h := (ih.ranked ((suffix_cons _ _).trans hrs)).bind fun left =>
      ih.rankedRest hrs left
    refine h.step (fun n ts => by rw [ranked?]) (by decide) ?_
    rw [length_cons]
    omega

theorem rankedRest_step {rank : List (String × Value.Operator)}
    {tighter : List (List (String × Value.Operator))} (hrs : rank :: tighter <:+ ranks)
    (left : Expr) :
    Sound (rankedRest? · rank tighter left) (bound + 1) 0 1 := by
  have hnone : ∀ rank ∈ ranks, ∀ s ∈ haltSigns, rank.lookup s = none := by decide
  have hpasses := passes_ranked (hnone rank (hrs.subset (mem_cons_self ..)))
  have htighter : tighter.length + 1 ≤ 6 := hrs.length_le
  have h := Sound.look (looksAt_ranked rank).looks (.inr hpasses) (.pure left)
    fun op => (ih.ranked ((suffix_cons _ _).trans hrs)).bind fun right =>
      ih.rankedRest hrs (.operate op left right)
  refine h.step (fun n ts => ?_) (by omega) (by omega)
  rw [rankedRest?]
  rcases takeRanked rank ts with _ | ⟨op, us⟩ <;> rfl

theorem signed_step : Sound signed? (bound + 1) 1 3 := by
  have h := Sound.look looksAt_signed.looks (.inr passes_signed)
    (ih.primary.bind fun base => .maybe (looksAt_op "**").looks (.inr (passes_op (by decide)))
      (.pure base) (ih.signed.bind fun power => .pure (.operate .power base power)))
    fun op => ih.signed.map (.signed op)
  refine h.step (fun n ts => ?_) (by decide) (by decide)
  rw [signed?]
  rcases takeSigned ts with _ | ⟨op, us⟩ <;> rfl

theorem primary_step : Sound primary? (bound + 1) 1 2 :=
  (ih.atom.bind ih.trailers).step (fun n ts => by rw [primary?])
    (by decide) (by decide)

theorem member_rest (owner : Expr) : Sound (fun n ts => match ts with
    | .name s :: rest => trailers? n (.member owner s) rest
    | _ => none) bound 1 0 := by
  intro ts e rest h
  match ts, h with
  | .name s :: ts, h =>
    have k := ih.trailers _ _ _ _ h
    have hlen := k.shorter
    refine ⟨Nat.succ_le_succ hlen, fun hx hb => k.more hx ?_⟩
    simp only [length_cons] at hb
    omega

theorem index_rest (owner : Expr) (index : List Expr × Bool) : Sound (fun n ts => match index with
    | ([], _) => none
    | ([i], false) => trailers? n (.item owner i) ts
    | (several, _) => trailers? n (.item owner (.tuple several)) ts) bound 0 1 := by
  obtain ⟨_ | ⟨i, _ | ⟨j, more⟩⟩, _ | _⟩ := index <;> first | exact .fail | exact ih.trailers _

theorem trailers_step (owner : Expr) : Sound (trailers? · owner) (bound + 1) 0 1 := by
  have h := Sound.choose (looksAt_op ".").looks (.inr (passes_op (by decide)))
    (ih.member_rest owner)
    (.choose (looksAt_op "(").looks (.inr (passes_op (by decide)))
      ((ih.items ")").bind fun arguments => ih.trailers (.call owner arguments.1))
      (.choose (looksAt_op "[").looks (.inr (passes_op (by decide)))
        ((ih.items "]").bind (ih.index_rest owner)) (.pure owner)))
  refine h.step (fun n ts => ?_) (by decide) (by decide)
  rw [trailers?]
  rcases takeOp "." ts with _ | _ | ⟨t, ts⟩
  · rfl
  · rfl
  · cases t <;> rfl

theorem items_step (close : String) : Sound (items? · close) (bound + 1) 1 15 := by
  have hclose := (looksAt_op close).looks
  have h := Sound.choose hclose (.inl (by decide)) (.pure ([], false))
    (ih.expr.bind fun e => .maybe (looksAt_op ",").looks (.inl (by decide))
      (.expect hclose (.pure ([e], false)))
      (.choose hclose (.inl (by decide)) (.pure ([e], true))
        ((ih.items close).bind fun rest => .pure (e :: rest.1, rest.2))))
  exact h.step (fun n ts => by rewrite [items?]; rfl) (by decide) (by decide)

theorem entriesRest_step : Sound entriesRest? (bound + 1) 1 1 := by
  have hbrace := (looksAt_op "\x7d").looks
  have hend : Sound (fun _ ts => (takeOp "\x7d" ts).map fun ts => (([] : List (Expr × Expr)), ts))
      bound 1 0 := by
    refine (congrArg (Sound · bound _ _) (funext fun n => funext fun ts => ?_)).mpr
      (Sound.expect hbrace (.pure []))
    cases takeOp "\x7d" ts <;> rfl
  have h := Sound.maybe (looksAt_op ",").looks (.inl (by decide)) hend
    (.choose hbrace (.inl (by decide)) (.pure [])
      (ih.expr.bind fun key => .expect (looksAt_op ":").looks (ih.expr.bind fun value =>
        ih.entriesRest.bind fun more => .pure ((key, value) :: more))))
  exact h.step (fun n ts => by rewrite [entriesRest?]; rfl) (by decide) (by decide)

omit ih in
theorem round_rest (items : List Expr × Bool) : Sound (fun _ ts => match items with
    | ([e], false) => some (e, ts)
    | (several, _) => some (.tuple several, ts)) bound 0 0 := by
  obtain ⟨_ | ⟨i, _ | ⟨j, more⟩⟩, _ | _⟩ := items <;> exact .pure _

theorem bracketed_step {op : String} : Sound (bracketed? · op) (bound + 1) 1 16 := by
  have hbrace := (looksAt_op "\x7d").looks
  have h := Sound.ite (c := op == "(") ((ih.items ")").bind round_rest)
    (.ite (c := op == "[") ((ih.items "]").bind fun items => .pure (.list items.1))
      (.ite (c := op == "\x7b")
        (.choose hbrace (.inl (by decide)) (.pure (.table []))
          (ih.expr.bind fun first => .choose (looksAt_op ":").looks (.inl (by decide))
            (ih.expr.bind fun value => ih.entriesRest.bind fun more =>
              .pure (.table ((first, value) :: more)))
            (.choose (looksAt_op ",").looks (.inl (by decide))
              ((ih.items "\x7d").bind fun more => .pure (.set (first :: more.1)))
              (.expect hbrace (.pure (.set [first]))))))
        (.fail (l := 1) (e := 0))))
  exact h.step (fun n ts => by rewrite [bracketed?]; rfl) (by decide) (by decide)

theorem atom_step : Sound atom? (bound + 1) 1 1 := by
  have hone : ∀ {t : Token} {ts e}, (∀ n x, atom? (n + 1) (t :: ts ++ x) = some (e, ts ++ x)) →
      Read atom? 1 1 (t :: ts) e ts := by
    intro t ts e h
    refine ⟨Nat.le_refl _, fun {x n} hx hn => ?_⟩
    obtain ⟨n, rfl⟩ : ∃ m, n = m + 1 := ⟨n - 1, by omega⟩
    exact h n x
  intro ts e rest h
  cases ts with
  | nil => cases h
  | cons t ts =>
    cases t with
    | name s => cases h; exact hone fun _ _ => rfl
    | number v => cases h; exact hone fun _ _ => rfl
    | text s =>
      simp only [atom?] at h
      cases h
      refine ⟨Nat.succ_le_succ (takeTexts_length s ts), fun {x n} hx hn => ?_⟩
      obtain ⟨n, rfl⟩ : ∃ m, n = m + 1 := ⟨n - 1, by omega⟩
      simp [atom?, takeTexts_append hx]
    | keyword s =>
      simp only [atom?] at h
      obtain ⟨v, hv, he⟩ := Option.map_eq_some_iff.mp h
      cases he
      exact hone fun _ _ => by simp [atom?, hv]
    | op s =>
      simp only [atom?] at h
      split at h
      · rename_i hs
        cases h
        exact hone fun _ _ => by simp only [cons_append, atom?, if_pos hs]
      · rename_i hs
        have k := ih.bracketed _ _ _ h
        refine ⟨Nat.le_succ_of_le k.shorter, fun {x n} hx hn => ?_⟩
        have hlen := k.shorter
        simp only [length_cons] at hn
        obtain ⟨n, rfl⟩ : ∃ m, n = m + 1 := ⟨n - 1, by omega⟩
        simp only [cons_append, atom?, if_neg hs, k.more hx (show _ ≤ n by omega)]
    | newline | indent | dedent => cases h

end ReadsWithin

/-- Whatever is read within some bound is read within any bound that its tokens allow. -/
theorem readsWithin (bound : Nat) : ReadsWithin bound := by
  induction bound with
  | zero => constructor <;> intros <;> intro _ _ _ h <;> contradiction
  | succ bound ih =>
    exact ⟨ih.expr_step, ih.either_step, ih.both_step, ih.negation_step, ih.comparisons_step,
      ih.ranked_step, ih.rankedRest_step, ih.signed_step, ih.primary_step, ih.trailers_step,
      ih.items_step, ih.entriesRest_step, ih.bracketed_step, ih.atom_step⟩

/-- **What is read as an expression once is read as one always**: whatever halting tokens follow,
and within any bound that its tokens allow. -/
theorem expr?_read {bound : Nat} {ts rest : List Token} {e : Expr}
    (h : expr? bound ts = some (e, rest)) : Read expr? 1 14 ts e rest :=
  (readsWithin bound).expr _ _ _ h

end Sketchflow.Script
