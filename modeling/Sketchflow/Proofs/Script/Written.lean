import Sketchflow.Proofs.Listing.Comments
import Sketchflow.Proofs.Script.Phrase

/-!
# Listings as tokens

A listing is told as calls. Its lines are read back as the tokens of what was told, whatever level
it was told at.

* `Region` are rows at a level whose tokens stand together, whatever rows follow them.
* **`Lays`** says which tokens calls write. There is one lemma for each kind of call.
-/

namespace Sketchflow.Script

open List Listing

open Listing (Step lastAll write)

/-! ## Regions -/

/-- Rows that go on at a level or further out. -/
def Lands (level : Nat) (rows : List Row) : Prop :=
  ∀ row ∈ rows.head?, row.1 ≤ level

/-- Rows at a level whose tokens do not depend on the rows around them. -/
structure Region (level : Nat) (rows : List Row) (ts : List Token) : Prop where
  tokens : ∀ more, Lands level more → layout level (rows ++ more) = ts ++ layout level more
  climbs : ∀ more, Lands level more → Climbs level more → Climbs level (rows ++ more)
  head : ∀ row ∈ rows.head?, row.1 = level
  empty : rows.isEmpty = ts.isEmpty

theorem shift_self (level : Nat) : shift level level = [] := by
  simp [shift]

/-- What lands outside a block closes the block first. -/
theorem layout_out {level : Nat} {rows : List Row} (h : Lands level rows) :
    layout (level + 1) rows = .dedent :: layout level rows := by
  have hshift : ∀ next ≤ level, shift (level + 1) next = .dedent :: shift level next := by
    intro next hn
    have hsub : level + 1 - next = level - next + 1 := by omega
    simp [shift, hsub, replicate_succ, show ¬level + 1 < next by omega,
      show ¬level < next by omega]
  cases rows with
  | nil => exact hshift 0 (Nat.zero_le _)
  | cons row rows =>
    have hrow : row.1 ≤ level := h row rfl
    simp [layout, hshift row.1 hrow]

theorem layout_in {level : Nat} {row : Row} {rows : List Row} (h : row.1 = level + 1) :
    layout level (row :: rows) = .indent :: layout (level + 1) (row :: rows) := by
  simp [layout, h, shift]

section

variable {level : Nat} {rows others : List Row} {ts us : List Token}

theorem region_nil : Region level [] [] :=
  ⟨fun _ _ => rfl, fun _ _ h => h, by simp, rfl⟩

theorem Region.lands (h : Region level rows ts) {more : List Row} (hm : Lands level more) :
    Lands level (rows ++ more) := by
  cases rows with
  | nil => exact hm
  | cons row rows =>
    intro r hr
    exact Nat.le_of_eq (h.head r hr)

theorem Region.append (h : Region level rows ts) (k : Region level others us) :
    Region level (rows ++ others) (ts ++ us) := by
  refine ⟨fun more hm => ?_, fun more hm hc => ?_, fun row hr => ?_, ?_⟩
  · rw [append_assoc, h.tokens _ (k.lands hm), k.tokens _ hm, append_assoc]
  · rw [append_assoc]
    exact h.climbs _ (k.lands hm) (k.climbs _ hm hc)
  · cases rows with
    | nil => exact k.head row hr
    | cons r rows => exact h.head row hr
  · have hboth := congrArg₂ and h.empty k.empty
    cases rows <;> cases ts <;> simp_all

theorem region_line (level : Nat) (ts : List Token) :
    Region level [(level, ts)] (ts ++ [Token.newline]) := by
  refine ⟨fun more _ => ?_, fun more _ hc => ⟨Nat.le_succ _, hc⟩, by simp, by simp⟩
  simp [layout, shift_self]

theorem Region.block (h : Region (level + 1) rows us) (hne : rows ≠ []) (ts : List Token) :
    Region level ((level, ts) :: rows) (ts ++ blockTokens us) := by
  obtain ⟨row, rows, rfl⟩ := exists_cons_of_ne_nil hne
  have hrow : row.1 = level + 1 := h.head row rfl
  have hin : ∀ {more}, Lands level more → Lands (level + 1) more := fun hm row hr =>
    Nat.le_succ_of_le (hm row hr)
  refine ⟨fun more hm => ?_, fun more hm hc => ?_, by simp, by simp [blockTokens]⟩
  · have hinner := h.tokens more (hin hm)
    rw [layout_out hm] at hinner
    rw [cons_append, layout, cons_append, layout_in hrow, ← cons_append, hinner]
    simp [shift_self, blockTokens]
  · have hclimbs : Climbs (level + 1) more := by
      cases more with
      | nil => trivial
      | cons r more => exact ⟨Nat.le_succ_of_le hc.1, hc.2⟩
    exact ⟨Nat.le_succ _, Nat.le_of_eq hrow, (h.climbs more (hin hm) hclimbs).2⟩

end

/-! ## Lines -/

theorem isClean_of_whole {line : List Char} (h : Whole line) : IsClean line :=
  ⟨fun hc => absurd (h _ hc) (by decide), fun hc => absurd (h _ hc) (by decide)⟩

theorem skipped_comment {text t : String} (h : t ∈ Listing.commentLines text) (count : Nat) :
    Skipped (List.replicate count ' ' ++ t.toList) := by
  obtain ⟨cs, hcs⟩ := commentLines_sign h
  have hclean := isClean_of_whole ((whole_blanks count).append (whole_commentLines h))
  exact ⟨hclean, .inr ⟨count, cs, by rw [hcs]⟩⟩

/-- Whether a text starts with something. -/
def begins (text : List Char) : Bool :=
  match text with
  | [] => false
  | c :: _ => !Text.isBlank c

theorem Spells.code {text : List Char} {ts : List Token} (h : Spells text ts)
    (hbalanced : Balanced ts) (hbegins : begins text = true) (level : Nat) :
    Code soften (List.replicate (4 * level) ' ' ++ text) (level, ts) := by
  cases text with
  | nil => cases hbegins
  | cons c cs =>
    have hc : Text.isBlank c = false := by simpa [begins] using hbegins
    exact ⟨(isClean_of_whole (whole_blanks _)).append h.clean, ⟨c, cs, rfl, hc, h.inline⟩,
      hbalanced⟩

theorem Skipped.not_isStatement {line : String} (h : Skipped line.toList) :
    Listing.isStatement line = false := by
  rw [Listing.isStatement, Text.trimLeft]
  rcases h.shape with hnil | ⟨count, cs, hcs⟩
  · rw [hnil]
    rfl
  · rw [hcs, dropWhile_replicate_blank, dropWhile_cons_of_neg (by decide)]
    rfl

theorem Code.isStatement {line : String} {row : Row} (h : Code soften line.toList row) :
    Listing.isStatement line = true := by
  obtain ⟨c, cs, hline, hc, hin⟩ := h.shape
  rw [soften] at hin
  have hsign : c ≠ '#' := fun he => (Code.head hc hin).2 (by simp [he])
  rw [Listing.isStatement, Text.trimLeft, hline, dropWhile_replicate_blank,
    dropWhile_cons_of_neg (by simp [hc])]
  simpa using hsign

theorem Lined.all_fit {lines : List String} {rows : List Row}
    (h : Lined soften (lines.map String.toList) rows) :
    (lines.all fun line => lineFits (indentLine line.toList)) =
      (lines.filter Listing.isStatement).all fun line => lineFits (indentLine line.toList) := by
  induction lines generalizing rows with
  | nil => rfl
  | cons line lines ih =>
    rw [map_cons] at h
    rw [all_cons]
    cases h with
    | skip hl h =>
      rw [filter_cons_of_neg (by simp [hl.not_isStatement]), hl.indentLine.lineFits,
        Bool.true_and, ih h]
    | code hl h => rw [filter_cons_of_pos hl.isStatement, all_cons, ih h]

/-! ## Calls -/

/-- The rows that calls write at a level. -/
structure Tells (level : Nat) (steps : List Step) (rows : List Row) : Prop where
  lasts : lastAll steps = true
  lines : ∀ l : Listing, l.size = 4 → l.level = level → ∃ added : List String,
    (write steps l).lines.toList = l.lines.toList ++ added ∧
      Lined soften (added.map String.toList) rows

/-- The tokens that calls write, at whatever level. -/
def Lays (steps : List Step) (ts : List Token) : Prop :=
  ∃ rows : List Row, ∀ level, Tells level steps (rows.map (Row.lift level)) ∧
    Region level (rows.map (Row.lift level)) ts

theorem Lays.lasts {steps : List Step} {ts : List Token} (h : Lays steps ts) :
    lastAll steps = true := by
  obtain ⟨rows, h⟩ := h
  exact (h 0).1.lasts

theorem lift_zero (level : Nat) (ts : List Token) : Row.lift level (0, ts) = (level, ts) := by
  simp [Row.lift]

theorem Lays.append {a b : List Step} {ta tb : List Token} (ha : Lays a ta) (hb : Lays b tb) :
    Lays (a ++ b) (ta ++ tb) := by
  obtain ⟨rows, ha⟩ := ha
  obtain ⟨others, hb⟩ := hb
  refine ⟨rows ++ others, fun level => ?_⟩
  obtain ⟨⟨halasts, halines⟩, hra⟩ := ha level
  obtain ⟨⟨hblasts, hblines⟩, hrb⟩ := hb level
  rw [map_append]
  refine ⟨⟨by rw [lastAll_append, halasts, hblasts]; rfl, fun l hsize hlevel => ?_⟩,
    hra.append hrb⟩
  have hadds := write_adds halasts l
  obtain ⟨first, hfirst, hlined⟩ := halines l hsize hlevel
  obtain ⟨second, hsecond, hlined'⟩ := hblines (write a l) (hadds.size.trans hsize)
    (hadds.level.trans hlevel)
  refine ⟨first ++ second, ?_, ?_⟩
  · rw [write_append halasts, hsecond, hfirst, append_assoc]
  · rw [map_append]
    exact hlined.append hlined'

theorem lays_of_skipped {steps : List Step} (hlasts : lastAll steps = true)
    (h : ∀ l : Listing, l.size = 4 → ∃ added : List String,
      (write steps l).lines.toList = l.lines.toList ++ added ∧
        ∀ line ∈ added, Skipped line.toList) : Lays steps [] := by
  refine ⟨[], fun level => ⟨⟨hlasts, fun l hsize _ => ?_⟩, region_nil⟩⟩
  obtain ⟨added, hadded, hskipped⟩ := h l hsize
  refine ⟨added, hadded, ?_⟩
  clear hadded
  induction added with
  | nil => exact .nil
  | cons line added ih =>
    exact .skip (hskipped line (mem_cons_self ..))
      (ih fun t ht => hskipped t (mem_cons_of_mem _ ht))

theorem lays_blank : Lays [.blank] [] := by
  refine lays_of_skipped rfl fun l _ => ?_
  have hempty : Skipped [] := ⟨⟨by simp, by simp⟩, .inl rfl⟩
  show ∃ added, l.blank.lines.toList = _ ∧ _
  unfold Listing.blank
  split
  · exact ⟨[], by simp, by simp⟩
  · split
    · exact ⟨[], by simp, by simp⟩
    · exact ⟨[""], by simp, by simp [hempty]⟩

theorem lays_comment (text : String) : Lays [.comment text] [] := by
  refine lays_of_skipped rfl fun l hsize => ?_
  have hlines : ∀ (texts : List String) (l : Listing),
      (∀ t ∈ texts, t ∈ Listing.commentLines text) →
      ∃ added : List String, (l.allLines texts).lines.toList = l.lines.toList ++ added ∧
        ∀ line ∈ added, Skipped line.toList := by
    intro texts
    induction texts with
    | nil => exact fun l _ => ⟨[], by simp [Listing.allLines], by simp⟩
    | cons t texts ih =>
      intro l ht
      obtain ⟨added, hadded, hskipped⟩ := ih (l.line t) fun u hu => ht u (mem_cons_of_mem _ hu)
      have hsign := ht t (mem_cons_self ..)
      have hne : (t == "") = false := by
        obtain ⟨cs, hcs⟩ := commentLines_sign hsign
        refine beq_eq_false_iff_ne.mpr ?_
        rintro rfl
        cases hcs
      refine ⟨(l.margin ++ t) :: added, ?_, forall_mem_cons.mpr ⟨?_, hskipped⟩⟩
      · rw [show l.allLines (t :: texts) = (l.line t).allLines texts from rfl, hadded]
        simp [Listing.line, hne]
      · rw [String.toList_append, Listing.margin, String.toList_ofList]
        exact skipped_comment hsign _
  exact hlines _ l fun _ ht => ht

theorem margin_eq {l : Listing} {level : Nat} (hsize : l.size = 4) (hlevel : l.level = level) :
    l.margin.toList = List.replicate (4 * level) ' ' := by
  have hcount : (l.level * l.size).toNat = 4 * level := by
    rw [hsize, hlevel]
    omega
  rw [Listing.margin, String.toList_ofList, hcount]

section

variable {text : String} {ts : List Token}

theorem line_eq (l : Listing) (hbegins : begins text.toList = true) :
    (l.line text).lines.toList = l.lines.toList ++ [l.margin ++ text] := by
  have hne : (text == "") = false := by
    refine beq_eq_false_iff_ne.mpr ?_
    rintro rfl
    cases hbegins
  simp [Listing.line, hne]

theorem tells_line (h : Spells text.toList ts) (hbalanced : Balanced ts)
    (hbegins : begins text.toList = true) (level : Nat) : Tells level [.line text]
    [(level, ts)] := by
  refine ⟨rfl, fun l hsize hlevel => ⟨[l.margin ++ text], line_eq l hbegins, ?_⟩⟩
  rw [map_singleton, String.toList_append, margin_eq hsize hlevel]
  exact .code (h.code hbalanced hbegins level) .nil

theorem lays_line (h : Spells text.toList ts) (hbalanced : Balanced ts)
    (hbegins : begins text.toList = true) : Lays [.line text] (ts ++ [Token.newline]) := by
  refine ⟨[(0, ts)], fun level => ?_⟩
  rw [map_singleton, lift_zero]
  exact ⟨tells_line h hbalanced hbegins level, region_line level ts⟩

/-- A listing on the side that is appended is as good as its calls. -/
theorem Lays.child {steps : List Step} (h : Lays steps ts) : Lays [.child 0 true steps] ts := by
  obtain ⟨rows, h⟩ := h
  refine ⟨rows, fun level => ?_⟩
  obtain ⟨⟨hlasts, hlines⟩, hregion⟩ := h level
  refine ⟨⟨by simp [Step.lasts, hlasts], fun l hsize hlevel => ?_⟩, hregion⟩
  obtain ⟨added, hadded, hlined⟩ := hlines (l.child 0) hsize (by simpa [Listing.child] using hlevel)
  refine ⟨added, ?_, hlined⟩
  rw [write_child hlasts]
  simpa [Listing.extend, Listing.child] using hadded

end

end Sketchflow.Script
