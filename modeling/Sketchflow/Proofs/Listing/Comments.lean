import Sketchflow.Proofs.Listing

/-!
# The lines of comments

The texts of comments quote whatever is at hand, so they can hold any character. A comment takes up
lines of its own all the same, and nothing in one of them ends a line.

* `Whole` is a line without line ends. **`whole_commentLines`**: the lines of a comment are whole,
  whatever its text is.
* `IsRemark` is a line of a comment in a listing, `comment_eq` what a comment adds.
* **`runAll_shows`**: the lines that calls write come from comments or do not, and those that do are
  the lines of `commentsAll`, in order.
-/

namespace Sketchflow

open List Text

/-- A line without line ends. -/
def Whole (line : List Char) : Prop :=
  ∀ c ∈ line, isLineEnd c = false

theorem Whole.append {a b : List Char} (ha : Whole a) (hb : Whole b) : Whole (a ++ b) :=
  fun c hc => (mem_append.mp hc).elim (ha c) (hb c)

theorem Whole.of_subset {a b : List Char} (h : Whole b) (hab : a ⊆ b) : Whole a :=
  fun c hc => h c (hab hc)

theorem whole_blanks (count : Nat) : Whole (List.replicate count ' ') := fun c hc => by
  rw [eq_of_mem_replicate hc]
  decide

theorem whole_dropLineEnd {c : Char} {line : List Char} (hc : isLineEnd c = true)
    (h : Whole line ∨ c = '\n' ∧ ∃ before, line = '\r' :: before ∧ Whole before) :
    Whole (dropLineEnd (c :: line).reverse) := by
  have hreturn : isLineEnd '\r' = true := by decide
  unfold dropLineEnd
  rw [reverse_reverse]
  rcases h with h | ⟨rfl, before, rfl, h⟩
  · split
    · rename_i heq
      obtain ⟨-, rfl⟩ := List.cons.inj heq
      rw [h '\r' mem_cons_self] at hreturn
      cases hreturn
    · rename_i heq
      obtain ⟨rfl, rfl⟩ := List.cons.inj heq
      rw [if_pos hc]
      exact h.of_subset (reverse_subset.mpr (List.Subset.refl _))
    · rename_i heq
      cases heq
  · exact h.of_subset (reverse_subset.mpr (List.Subset.refl _))

/-- The lines of a text are whole. The one at hand may end with a carriage return if a line feed is
next. -/
theorem whole_cutLinesFrom : ∀ (cs line : List Char) (done : List (List Char)),
    (∀ piece ∈ done, Whole (dropLineEnd piece)) →
    (Whole line ∨ cs.head? = some '\n' ∧ ∃ before, line = '\r' :: before ∧ Whole before) →
    ∀ piece ∈ cutLinesFrom line done cs, Whole (dropLineEnd piece)
  | [], line, done, hdone, hline => by
    have hline : Whole line := hline.resolve_right (by simp)
    have hlast : Whole (dropLineEnd line.reverse) :=
      hline.of_subset fun c hc => mem_reverse.mp (Listing.mem_of_mem_dropLineEnd hc)
    intro piece hp
    rw [cutLinesFrom, mem_reverse] at hp
    split at hp
    · exact hdone piece hp
    · exact (mem_cons.mp hp).elim (fun h => h ▸ hlast) (hdone piece)
  | c :: rest, line, done, hdone, hline => by
    have hline : Whole line ∨ c = '\n' ∧ ∃ before, line = '\r' :: before ∧ Whole before := by
      simpa using hline
    rw [cutLinesFrom]
    cases hend : isLineEnd c with
    | false =>
      rw [Bool.false_and, if_neg Bool.false_ne_true]
      refine whole_cutLinesFrom rest (c :: line) done hdone (.inl ?_)
      have hfeed : c ≠ '\n' := by rintro rfl; cases hend
      exact forall_mem_cons.mpr ⟨hend, hline.resolve_right fun h => hfeed h.1⟩
    | true =>
      rw [Bool.true_and]
      split
      · exact whole_cutLinesFrom rest [] _
          (forall_mem_cons.mpr ⟨whole_dropLineEnd hend hline, hdone⟩) (.inl (by simp [Whole]))
      · rename_i hpair
        obtain ⟨rfl, hnext⟩ : c = '\r' ∧ rest.head? = some '\n' := by simpa using hpair
        exact whole_cutLinesFrom rest ('\r' :: line) done hdone
          (.inr ⟨hnext, line, rfl, hline.resolve_right fun h => by simp at h⟩)

namespace Listing

variable {s : List String}

/-- **The lines of a comment are whole.** -/
theorem whole_commentLines {text line : String} (h : line ∈ commentLines text) :
    Whole line.toList := by
  obtain ⟨part, hpart, rfl⟩ := mem_map.mp h
  have hwhole : Whole part.toList := by
    split at hpart
    · rw [mem_singleton.mp hpart]
      simp [Whole]
    · obtain ⟨piece, hpiece, rfl⟩ := mem_map.mp hpart
      rw [String.toList_ofList]
      exact whole_cutLinesFrom _ [] [] (by simp) (.inl (by simp [Whole])) piece hpiece
  have hmarked : Whole ("# " ++ part).toList := by
    rw [String.toList_append]
    exact Whole.append (by simp [Whole]; decide) hwhole
  rw [stripRight, String.toList_ofList, trimRight]
  refine hmarked.of_subset fun c hc => ?_
  exact mem_reverse.mp ((dropWhile_sublist _).subset (mem_reverse.mp hc))

/-- A line of a comment, with so many blanks in front of its sign. -/
structure IsRemark (blanks : Nat) (line : String) : Prop where
  sign : ∃ cs, line.toList = List.replicate blanks ' ' ++ '#' :: cs
  whole : Whole line.toList

theorem isRemark_commentLines {text t : String} (h : t ∈ commentLines text) (l : Listing) :
    IsRemark (l.level * l.size).toNat (l.margin ++ t) := by
  obtain ⟨cs, hcs⟩ := commentLines_sign h
  have htext : (l.margin ++ t).toList =
      List.replicate (l.level * l.size).toNat ' ' ++ t.toList := by
    rw [String.toList_append, margin, String.toList_ofList]
  exact ⟨⟨cs, by rw [htext, hcs]⟩, htext ▸ (whole_blanks _).append (whole_commentLines h)⟩

theorem commentLines_ne_nil (text : String) : commentLines text ≠ [] := by
  simp only [commentLines, ne_eq, map_eq_nil_iff]
  split <;> simp_all

theorem comment_eq (l : Listing) (text : String) : l.comment text =
    { l with lines := l.lines ++ ((commentLines text).map (l.margin ++ ·)).toArray } := by
  have hall : ∀ (texts : List String) (l : Listing), (∀ t ∈ texts, t ≠ "") → l.allLines texts =
      { l with lines := l.lines ++ (texts.map (l.margin ++ ·)).toArray } := by
    intro texts
    induction texts with
    | nil => simp [allLines]
    | cons t texts ih =>
      intro l h
      obtain ⟨ht, hrest⟩ := forall_mem_cons.mp h
      have hline : l.line t = { l with lines := l.lines.push (l.margin ++ t) } := by simp [line, ht]
      rw [show l.allLines (t :: texts) = (l.line t).allLines texts from rfl, ih _ hrest, hline]
      simp [margin]
  refine hall _ l fun t ht => ?_
  rintro rfl
  obtain ⟨cs, hcs⟩ := commentLines_sign ht
  cases hcs

theorem comment_isEmpty (l : Listing) (text : String) : (l.comment text).isEmpty = false := by
  obtain ⟨t, ht⟩ := exists_mem_of_ne_nil _ (commentLines_ne_nil text)
  obtain ⟨cs, hcs⟩ := commentLines_sign ht
  refine all_eq_false.mpr ⟨l.margin ++ t, ?_, ?_⟩
  · rw [comment_eq]
    simp [ht]
  · have : isBlank '#' = false := by decide
    simp [allBlank, hcs, this]

/-! ## Which lines come from comments -/

/-- A line without its indentation. -/
def unindented (line : String) : String :=
  String.ofList (trimLeft line.toList)

/-- A listing grows by lines of which some, which are marked, come from comments. Those are lines of
comments and have these texts, in order. -/
def Shows (l l' : Listing) (texts : List String) : Prop :=
  ∃ marks : List (Bool × String), l'.lines.toList = l.lines.toList ++ marks.map Prod.snd ∧
    (marks.filter Prod.fst).map (unindented ·.2) = texts ∧
    ∀ m ∈ marks, m.1 = true → ∃ blanks, IsRemark blanks m.2

theorem Adds.shows {l l' : Listing} (h : Adds l l' s) : Shows l l' [] := by
  obtain ⟨added, hadded, -⟩ := h.lines
  exact ⟨added.map (false, ·), by simp [hadded, Function.comp_def], by simp, by simp⟩

theorem Shows.trans {l₁ l₂ l₃ : Listing} {t : List String} (h : Shows l₁ l₂ s)
    (k : Shows l₂ l₃ t) : Shows l₁ l₃ (s ++ t) := by
  obtain ⟨a, ha, rfl, hmarked⟩ := h
  obtain ⟨b, hb, rfl, hmarked'⟩ := k
  exact ⟨a ++ b, by simp [hb, ha], by simp, fun m hm => (mem_append.mp hm).elim (hmarked m)
    (hmarked' m)⟩

theorem comment_shows (l : Listing) (text : String) :
    Shows l (l.comment text) (commentLines text) := by
  have hbare : ∀ t ∈ commentLines text, unindented (l.margin ++ t) = t := by
    intro t ht
    obtain ⟨cs, hcs⟩ := commentLines_sign ht
    rw [unindented, String.toList_append, margin, String.toList_ofList, trimLeft,
      dropWhile_replicate_blank, hcs, dropWhile_cons_of_neg (by decide), ← hcs,
      String.ofList_toList]
  refine ⟨(commentLines text).map fun t => (true, l.margin ++ t), ?_, ?_, ?_⟩
  · rw [comment_eq]
    simp [Function.comp_def]
  · rw [filter_eq_self.mpr (by simp)]
    simpa [Function.comp_def] using map_congr_left hbare
  · simp only [mem_map, forall_exists_index, and_imp, forall_apply_eq_imp_iff₂]
    exact fun t ht _ => ⟨_, isRemark_commentLines ht l⟩

theorem leave_shows (l : Listing) (start : Nat) : Shows l (l.leave start) [] := by
  unfold leave
  split
  · exact (Adds.refl l).shows
  · exact (line_adds l "pass").shows

mutual

theorem Step.run_shows : ∀ (s : Step) (l : Listing), s.lasts = true →
    Shows l (s.run l).1 (s.comments.flatMap commentLines)
  | .line text, l, _ => (line_adds l text).shows
  | .comment text, l, _ => by
    simpa [Step.comments, Step.run] using comment_shows l text
  | .blank, l, _ => (blank_adds l).shows
  | .block header steps, l, h => by
    have henter : Shows l (l.enter header) [] := (line_adds l header).shows
    have hall := (henter.trans (runAll_shows steps (l.enter header) h)).trans
      (leave_shows _ (l.enter header).lines.size)
    rw [run_block h]
    rwa [append_nil, nil_append] at hall
  | .child extra false steps, l, h => by
    rw [run_child h]
    exact (Adds.refl l).shows
  | .child extra true steps, l, h => by
    obtain ⟨marks, hmarks, htexts⟩ := runAll_shows steps (l.child extra) h
    rw [run_child h]
    exact ⟨marks, by simpa [extend, child, write] using hmarks, htexts⟩

theorem runAll_shows : ∀ (steps : List Step) (l : Listing), lastAll steps = true →
    Shows l (runAll steps l).1 ((commentsAll steps).flatMap commentLines)
  | [], l, _ => (Adds.refl l).shows
  | s :: rest, l, h => by
    simp only [lastAll, Bool.and_eq_true] at h
    rw [runAll_cons h.1, commentsAll, flatMap_append]
    exact (Step.run_shows s l h.1).trans (runAll_shows rest (s.run l).1 h.2)

end

end Listing

end Sketchflow
