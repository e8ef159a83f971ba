import Mathlib.Data.List.Forall2
import Sketchflow.Proofs.Script.Body

/-!
# Phrases

The texts of a program are fixed texts with the texts of expressions in between. What such a text
spells is found by spelling its parts. A text is read as it stands, or as it is once the program
around it has been indented (`lay`).

* `SpellsBy` says which tokens a text spells, `FormsBy` that they are an expression of some kind.
* `weave` puts parts together, fixed ones and others in turn. **`spells_weave`**: it spells the
  tokens of its parts, if the fixed ones can stand around others (`segments?`).
* **`forms_phrase`**: expressions between fixed parts are an expression, if their tokens are.
* `Reads` are the texts that are expressions in a program.
-/

namespace Sketchflow.Script

open List

variable {texts : List (List Char)} {es : List Expr} {ts : List Token}

/-! ## Texts as they are read -/

/-- A text as it stands, or with what follows its line ends moved in. -/
def lay (moved : Bool) (cs : List Char) : List Char :=
  if moved then soften cs else cs

variable {moved : Bool}

theorem lay_nil : lay moved [] = [] := by
  cases moved <;> rfl

theorem lay_cons (c : Char) (cs : List Char) : lay moved (c :: cs) =
    c :: ((if moved && Text.isLineEnd c then pad cs else []) ++ lay moved cs) := by
  cases moved <;> rfl

/-! ## Texts whose line ends see nothing of what follows -/

/-- A text that is read in the same way whatever follows it. -/
def ClosedBy (moved : Bool) (a : List Char) : Prop :=
  ∀ x, lay moved (a ++ x) = lay moved a ++ lay moved x

theorem ClosedBy.append {a b : List Char} (ha : ClosedBy moved a) (hb : ClosedBy moved b) :
    ClosedBy moved (a ++ b) := by
  intro x
  rw [append_assoc, ha, hb, ha, append_assoc]

/-- Whether a text has no line ends and no null characters. -/
def isOneLine (a : List Char) : Bool :=
  a.all fun c => !(Text.isLineEnd c || c == '\x00')

theorem isOneLine_iff {a : List Char} : isOneLine a = true ↔
    (∀ c ∈ a, Text.isLineEnd c = false) ∧ '\x00' ∉ a := by
  simp only [isOneLine, all_eq_true, Bool.not_eq_true', Bool.or_eq_false_iff,
    beq_eq_false_iff_ne, ne_eq]
  exact ⟨fun h => ⟨fun c hc => (h c hc).1, fun hm => (h _ hm).2 rfl⟩,
    fun h c hc => ⟨h.1 c hc, fun he => h.2 (he ▸ hc)⟩⟩

theorem isLineEnd_of_isOneLine {a : List Char} (h : isOneLine a = true) :
    ∀ c ∈ a, Text.isLineEnd c = false :=
  (isOneLine_iff.mp h).1

theorem lay_of_isOneLine {a : List Char} (h : isOneLine a = true) : lay moved a = a := by
  cases moved with
  | false => rfl
  | true => exact soften_of_clean (isLineEnd_of_isOneLine h)

theorem closed_of_isOneLine {a : List Char} (h : isOneLine a = true) : ClosedBy moved a := by
  intro x
  rw [lay_of_isOneLine h]
  induction a with
  | nil => rfl
  | cons c a ih =>
    have hc := isLineEnd_of_isOneLine h c mem_cons_self
    rw [isOneLine, all_cons, Bool.and_eq_true] at h
    rw [cons_append, lay_cons, hc, ih h.2, Bool.and_false]
    rfl

theorem isClean_of_isOneLine {a : List Char} (h : isOneLine a = true) : IsClean a := by
  constructor <;> intro hm
  · exact absurd (isLineEnd_of_isOneLine h _ hm) (by decide)
  · exact absurd (isLineEnd_of_isOneLine h _ hm) (by decide)

theorem IsClean.append {a b : List Char} (ha : IsClean a) (hb : IsClean b) : IsClean (a ++ b) :=
  ⟨fun hm => (mem_append.mp hm).elim ha.1 hb.1,
    fun hm => (mem_append.mp hm).elim ha.2 hb.2⟩

theorem follows_lay {a : List Char} (h : Follows a) : Follows (lay moved a) := by
  cases a with
  | nil => rw [lay_nil]; exact h
  | cons c a => rw [lay_cons]; exact h

/-! ## Spelling -/

structure SpellsBy (moved : Bool) (text : List Char) (ts : List Token) : Prop where
  closed : ClosedBy moved text
  clean : IsClean text
  whole : '\x00' ∉ text
  inline : Inline (lay moved text) ts

/-- The tokens that a text spells where it stands in a line of a program. -/
abbrev Spells := SpellsBy true

section

variable {a b : List Char} {ta tb : List Token}

theorem spells_of_inline (ha : isOneLine a = true) (h : Inline a ta) : SpellsBy moved a ta :=
  ⟨closed_of_isOneLine ha, isClean_of_isOneLine ha, (isOneLine_iff.mp ha).2, by
    rwa [lay_of_isOneLine ha]⟩

theorem SpellsBy.append (ha : SpellsBy moved a ta) (hb : SpellsBy moved b tb) (h : Follows b) :
    SpellsBy moved (a ++ b) (ta ++ tb) :=
  ⟨ha.closed.append hb.closed, ha.clean.append hb.clean,
    fun hm => (mem_append.mp hm).elim ha.whole hb.whole, by
    rw [ha.closed]
    exact ha.inline.append hb.inline (follows_lay h)⟩

theorem SpellsBy.open (ha : isOneLine a = true) (h : opening? a = some ta)
    (hb : SpellsBy moved b tb) : SpellsBy moved (a ++ b) (ta ++ tb) :=
  ⟨(closed_of_isOneLine ha).append hb.closed, (isClean_of_isOneLine ha).append hb.clean,
    fun hm => (mem_append.mp hm).elim (isOneLine_iff.mp ha).2 hb.whole, by
    rw [closed_of_isOneLine ha, lay_of_isOneLine ha]
    exact opens_of_opening? h hb.inline⟩

end

/-! ## Weaving -/

/-- Fixed parts and others in turn. -/
def weave {α : Type} : List (List α) → List (List α) → List α
  | f :: fs, a :: as => f ++ (a ++ weave fs as)
  | f :: _, [] => f
  | [], _ => []

/-- Whether a fixed part can follow any token, the last also by being empty. -/
def canFollow (last : Bool) : List Char → Bool
  | [] => last
  | c :: _ => isStop c

/-- The tokens of a fixed part. It can follow any token unless it is the first, and anything can
follow it unless it is the last. -/
def segment? (first last : Bool) (f : List Char) : Option (List Token) :=
  if isOneLine f && (first || canFollow last f) then if last then inline? f else opening? f
  else none

/-- The tokens of fixed parts with others between them. -/
def segments? (first : Bool) : List (List Char) → Option (List (List Token))
  | [] => none
  | [f] => (segment? first true f).map fun ts => [ts]
  | f :: fs => (segment? first false f).bind fun ts => (segments? false fs).map fun tss => ts :: tss

theorem segment?_eq_some {first last : Bool} {f : List Char}
    (h : segment? first last f = some ts) : isOneLine f = true ∧
      (first = false → canFollow last f = true) ∧
      (if last then inline? f else opening? f) = some ts := by
  unfold segment? at h
  split at h
  · rename_i hcond
    simp only [Bool.and_eq_true, Bool.or_eq_true] at hcond
    exact ⟨hcond.1, fun hf => hcond.2.resolve_left (by simp [hf]), h⟩
  · cases h

/-- **Parts that are woven spell the tokens of the parts.** -/
theorem spells_weave : ∀ {fs : List (List Char)} {tss : List (List Token)} {as : List (List Char)}
    {tas : List (List Token)} {first : Bool}, segments? first fs = some tss →
      List.Forall₂ (SpellsBy moved) as tas → fs.length = as.length + 1 →
        SpellsBy moved (weave fs as) (weave tss tas) ∧ (first = false → Follows (weave fs as))
  | [f], _, [], _, first, h, .nil, _ => by
    obtain ⟨ts, hts, rfl⟩ := Option.map_eq_some_iff.mp h
    obtain ⟨hline, hfollows, hspell⟩ := segment?_eq_some hts
    refine ⟨spells_of_inline hline (inline_of_inline? hspell), fun hf => ?_⟩
    cases f with
    | nil => trivial
    | cons c f => exact hfollows hf
  | f :: g :: fs, _, a :: as, _, first, h, .cons (b := ta) ha has, hlen => by
    obtain ⟨ts, hts, h⟩ := Option.bind_eq_some_iff.mp h
    obtain ⟨tss, htss, rfl⟩ := Option.map_eq_some_iff.mp h
    obtain ⟨hline, hfollows, hspell⟩ := segment?_eq_some hts
    obtain ⟨hrest, hnext⟩ := spells_weave htss has (by simpa using hlen)
    refine ⟨SpellsBy.open hline hspell (ha.append hrest (hnext rfl)), fun hf => ?_⟩
    cases f with
    | nil => cases hfollows hf
    | cons c f => exact hfollows hf

theorem bracketsAll_of_balanced {tas : List (List Token)} (h : ∀ ta ∈ tas, Balanced ta) :
    ∀ {tss : List (List Token)} (brackets : List Char), tss.length = tas.length + 1 →
      bracketsAll brackets (weave tss tas) = bracketsAll brackets tss.flatten := by
  induction tas with
  | nil =>
    intro tss brackets hlen
    match tss, hlen with
    | [ts], _ => simp [weave]
  | cons ta tas ih =>
    intro tss brackets hlen
    match tss, hlen with
    | ts :: tss, hlen =>
      have hta := h ta (mem_cons_self ..)
      simp only [weave, flatten_cons, bracketsAll_append]
      refine Option.bind_congr fun after _ => ?_
      rw [hta, Option.bind_some]
      exact ih (fun t ht => h t (mem_cons_of_mem _ ht)) after (by simpa using hlen)

theorem length_segments? : ∀ {fs : List (List Char)} {tss : List (List Token)} {first : Bool},
    segments? first fs = some tss → tss.length = fs.length
  | [f], _, _, h => by
    obtain ⟨ts, -, rfl⟩ := Option.map_eq_some_iff.mp h
    rfl
  | f :: g :: fs, _, _, h => by
    obtain ⟨ts, -, h⟩ := Option.bind_eq_some_iff.mp h
    obtain ⟨tss, htss, rfl⟩ := Option.map_eq_some_iff.mp h
    simp [length_segments? htss]

/-! ## Expressions -/

/-- A text spells the tokens of an expression of some kind. -/
structure FormsBy (kind : List Token → Expr → Prop) (moved : Bool) (text : List Char) (e : Expr) :
    Prop where
  tokens : ∃ ts, SpellsBy moved text ts ∧ Balanced ts ∧ kind ts e

/-- A text is an expression wherever it stands in a line of a program. -/
abbrev Reads := FormsBy IsExpr true

section

variable {kind kind' : List Token → Expr → Prop} {text : List Char} {e : Expr}

theorem FormsBy.mono (h : FormsBy kind moved text e) (hkind : ∀ {ts}, kind ts e → kind' ts e) :
    FormsBy kind' moved text e := by
  obtain ⟨ts, hspells, hbalanced, hk⟩ := h.tokens
  exact ⟨ts, hspells, hbalanced, hkind hk⟩

theorem FormsBy.reads (h : FormsBy IsUnary moved text e) : FormsBy IsExpr moved text e :=
  h.mono IsUnary.expr

theorem FormsBy.forall₂ (h : List.Forall₂ (FormsBy kind moved) texts es) : ∃ tas,
      List.Forall₂ (SpellsBy moved) texts tas ∧ (∀ ta ∈ tas, Balanced ta) ∧
      List.Forall₂ kind tas es := by
  induction h with
  | nil => exact ⟨[], .nil, by simp, .nil⟩
  | cons hr _ ih =>
    obtain ⟨ts, hspell, hbalanced, hexpr⟩ := hr.tokens
    obtain ⟨tas, hspells, hall, hexprs⟩ := ih
    exact ⟨ts :: tas, .cons hspell hspells, forall_mem_cons.mpr ⟨hbalanced, hall⟩,
      .cons hexpr hexprs⟩

/-- **Expressions between fixed parts are an expression**, if their tokens are. -/
theorem forms_phrase {fs : List (List Char)} {tss : List (List Token)}
    (hfs : segments? true fs = some tss) (hbalanced : Balanced tss.flatten)
    (h : List.Forall₂ (FormsBy kind moved) texts es) (hlen : fs.length = texts.length + 1)
    (hkind : ∀ tas, List.Forall₂ kind tas es → kind' (weave tss tas) e) :
    FormsBy kind' moved (weave fs texts) e := by
  obtain ⟨tas, hspells, hall, hexprs⟩ := FormsBy.forall₂ h
  refine ⟨_, (spells_weave hfs hspells hlen).1, fun brackets => ?_, hkind tas hexprs⟩
  rw [bracketsAll_of_balanced hall brackets (by rw [length_segments? hfs, hlen, hspells.length_eq])]
  exact hbalanced brackets

end

/-! ## Brackets -/

theorem bracketsAfter_under {brackets after : List Char} {t : Token}
    (h : bracketsAfter brackets t = some after) (under : List Char) :
    bracketsAfter (brackets ++ under) t = some (after ++ under) := by
  cases t with
  | op s =>
    simp only [bracketsAfter] at h ⊢
    generalize s.toList = cs at h ⊢
    obtain _ | ⟨c, _ | ⟨d, cs⟩⟩ := cs
    · cases h
      rfl
    · dsimp only at h ⊢
      split at h
      · rename_i hopen
        cases h
        rw [if_pos hopen]
        rfl
      rename_i hopen
      rw [if_neg hopen]
      split at h
      · rename_i hclose
        rw [if_pos hclose]
        split at h
        · rename_i b rest
          split at h
          · rename_i hmatch
            cases h
            exact if_pos hmatch
          · cases h
        · cases h
      · rename_i hclose
        cases h
        rw [if_neg hclose]
    · cases h
      rfl
  | _ =>
    cases h
    rfl

theorem bracketsAll_under (ts : List Token) : ∀ {brackets after : List Char},
    bracketsAll brackets ts = some after → ∀ under, bracketsAll (brackets ++ under) ts =
      some (after ++ under) := by
  induction ts with
  | nil =>
    intro brackets after h under
    cases h
    rfl
  | cons t ts ih =>
    intro brackets after h under
    obtain ⟨next, hnext, h⟩ := Option.bind_eq_some_iff.mp h
    rw [bracketsAll_cons, bracketsAfter_under hnext, Option.bind_some]
    exact ih h under

theorem balanced_of_bracketsAll (h : bracketsAll [] ts = some []) :
    Balanced ts :=
  fun brackets => bracketsAll_under ts h brackets

theorem forms_of_inline {kind : List Token → Expr → Prop} {text : List Char}
    {e : Expr} (hline : isOneLine text = true) (h : Inline text ts)
    (hbalanced : bracketsAll [] ts = some []) (hkind : kind ts e) : FormsBy kind moved text e :=
  ⟨ts, spells_of_inline hline h, balanced_of_bracketsAll hbalanced, hkind⟩

/-- A bounded number of tokens that are an operand. -/
structure IsBrief (most : Nat) (ts : List Token) (e : Expr) : Prop where
  unary : IsUnary ts e
  brief : ts.length ≤ most

theorem IsUnary.brief {e : Expr} {most : Nat} (h : IsUnary ts e)
    (hlen : Nat.ble ts.length most = true) : IsBrief most ts e :=
  ⟨h, Nat.le_of_ble_eq_true hlen⟩

theorem IsBrief.mono {e : Expr} {few most : Nat} (h : IsBrief few ts e)
    (hle : few ≤ most) : IsBrief most ts e :=
  ⟨h.unary, Nat.le_trans h.brief hle⟩

theorem deepest_le (count : Nat) (ts : List Token) : deepest count ts ≤ count + ts.length := by
  induction ts generalizing count with
  | nil => exact Nat.le_refl _
  | cons t ts ih =>
    have hopen : openAfter count t ≤ count + 1 := by
      unfold openAfter
      repeat' split
      all_goals omega
    have hrest := ih (openAfter count t)
    simp only [deepest, length_cons]
    omega

end Sketchflow.Script
