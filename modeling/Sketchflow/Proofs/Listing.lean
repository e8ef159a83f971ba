import Mathlib.Data.List.TakeWhile
import Sketchflow.Listing

/-!
# Listings told as trees

Calls on a listing that go through (`lastAll`) are performed one after the other: `write` is what
they leave, and the lemmas below say what each call adds to it.

* `statementsAll` are the statements that calls add, indented: comments and empty lines are left
  out, and a block that holds no statement holds a `pass`.
* **`write_adds`**: calls add lines at the end, and the statements among them are these.
* `commentsAll` are the comments of calls.
-/

namespace Sketchflow

open List Text

variable {s : List String}

theorem Text.trimRight_cons {c : Char} (h : ¬isBlank c = true) (cs : List Char) :
    trimRight (c :: cs) = c :: trimRight cs := by
  unfold trimRight
  rw [reverse_cons, dropWhile_append]
  split
  · rename_i he
    rw [dropWhile_cons_of_neg h, isEmpty_iff.mp he]
    rfl
  · rw [reverse_append]
    rfl

namespace Listing

mutual

/-- Whether a call goes through: nothing in it gives up. -/
def Step.lasts : Step → Bool
  | .line _ => true
  | .comment _ => true
  | .blank => true
  | .block _ steps => lastAll steps
  | .child _ _ steps => lastAll steps
  | .fail => false
termination_by structural s => s

def lastAll : List Step → Bool
  | [] => true
  | s :: rest => s.lasts && lastAll rest
termination_by structural steps => steps

end

mutual

theorem Step.run_ne_failed : ∀ (s : Step) (l : Listing), s.lasts = true → (s.run l).2 ≠ .failed
  | .line _, _, _ => by simp [Step.run]
  | .comment _, _, _ => by simp [Step.run]
  | .blank, _, _ => by simp [Step.run]
  | .block header steps, l, h => by
    have := runAll_lasts steps (l.enter header) h
    simp only [Step.run]
    split <;> simp_all
  | .child extra extend steps, l, h => by
    have := runAll_lasts steps (l.child extra) h
    simp only [Step.run]
    split <;> simp_all

theorem runAll_lasts : ∀ (steps : List Step) (l : Listing), lastAll steps = true →
    (runAll steps l).2 = true
  | [], _, _ => rfl
  | s :: rest, l, h => by
    simp only [lastAll, Bool.and_eq_true] at h
    have hs := Step.run_ne_failed s l h.1
    simp only [runAll]
    exact runAll_lasts rest _ h.2

end

theorem runAll_cons {s : Step} (h : s.lasts = true) (rest : List Step) (l : Listing) :
    runAll (s :: rest) l = runAll rest (s.run l).1 := by
  have hs := s.run_ne_failed l h
  simp only [runAll]

def write (steps : List Step) (l : Listing) : Listing := (runAll steps l).1

variable {text header : String} {steps rest : List Step}

@[simp] theorem lastAll_nil : lastAll [] = true := rfl

@[simp] theorem lastAll_cons (s : Step) : lastAll (s :: rest) = (s.lasts && lastAll rest) := rfl

@[simp] theorem lastAll_append (rest : List Step) :
    lastAll (steps ++ rest) = (lastAll steps && lastAll rest) := by
  induction steps with
  | nil => rfl
  | cons s steps ih => simp [ih, Bool.and_assoc]

@[simp] theorem write_nil (l : Listing) : write [] l = l := rfl

@[simp] theorem write_line (l : Listing) :
    write (.line text :: rest) l = write rest (l.line text) :=
  rfl

@[simp] theorem write_comment (l : Listing) :
    write (.comment text :: rest) l = write rest (l.comment text) := rfl

@[simp] theorem write_blank (l : Listing) : write (.blank :: rest) l = write rest l.blank := rfl

theorem run_block (h : lastAll steps = true) (l : Listing) :
    ((Step.block header steps).run l).1 = l.block header (write steps) := by
  have hall := runAll_lasts steps (l.enter header) h
  simp only [Step.run, block, write]
  split <;> simp_all

theorem run_child (h : lastAll steps = true) (extra : Int) (extend : Bool) (l : Listing) :
    ((Step.child extra extend steps).run l).1 =
      if extend then l.extend (write steps (l.child extra)) else l := by
  have hall := runAll_lasts steps (l.child extra) h
  simp only [Step.run, write]
  split <;> simp_all

@[simp] theorem write_block (h : lastAll steps = true) (l : Listing) :
    write (.block header steps :: rest) l = write rest (l.block header (write steps)) := by
  rw [write, runAll_cons (s := .block header steps) h, run_block h]
  rfl

@[simp] theorem write_child (h : lastAll steps = true) (extra : Int) (l : Listing) :
    write (.child extra true steps :: rest) l =
      write rest (l.extend (write steps (l.child extra))) := by
  rw [write, runAll_cons (s := .child extra true steps) h, run_child h, if_pos rfl]
  rfl

theorem write_append (h : lastAll steps = true) (rest : List Step) (l : Listing) :
    write (steps ++ rest) l = write rest (write steps l) := by
  induction steps generalizing l with
  | nil => rfl
  | cons s steps ih =>
    simp only [lastAll_cons, Bool.and_eq_true] at h
    have := ih h.2 (s.run l).1
    simpa only [write, cons_append, runAll_cons h.1] using this

theorem write_comments (notes : List String) (rest : List Step) (l : Listing) :
    write (notes.map .comment ++ rest) l =
      write rest (notes.foldl (fun l note => l.comment note) l) := by
  induction notes generalizing l with
  | nil => rfl
  | cons t notes ih => exact ih _

@[simp] theorem lastAll_lines (texts : List String) : lastAll (texts.map .line) = true := by
  induction texts with
  | nil => rfl
  | cons t texts ih => simpa [Step.lasts] using ih

@[simp] theorem lastAll_comments (notes : List String) : lastAll (notes.map .comment) = true := by
  induction notes with
  | nil => rfl
  | cons t notes ih => simpa [Step.lasts] using ih

theorem child_enter (l : Listing) (header : String) : (l.enter header).child 0 = l.child 1 := by
  simp [child, enter, line]

/-! ## Statements -/

def indented (size level : Int) (text : String) : String :=
  String.ofList (List.replicate (level * size).toNat ' ') ++ text

mutual

def Step.statements (size level : Int) : Step → List String
  | .line text => if isStatement text then [indented size level text] else []
  | .comment _ => []
  | .blank => []
  | .block header steps =>
    let inner := statementsAll size (level + 1) steps
    (if isStatement header then [indented size level header] else [])
      ++ if inner.isEmpty then [indented size (level + 1) "pass"] else inner
  | .child extra extend steps =>
    if extend then statementsAll size (level + extra) steps else []
  | .fail => []
termination_by structural s => s

def statementsAll (size level : Int) : List Step → List String
  | [] => []
  | s :: rest => s.statements size level ++ statementsAll size level rest
termination_by structural steps => steps

end

@[simp] theorem statementsAll_nil (size level : Int) : statementsAll size level [] = [] := rfl

@[simp] theorem statementsAll_cons (size level : Int) (s : Step) :
    statementsAll size level (s :: rest) =
      s.statements size level ++ statementsAll size level rest :=
  rfl

@[simp] theorem statementsAll_append (size level : Int) (rest : List Step) :
    statementsAll size level (steps ++ rest) =
      statementsAll size level steps ++ statementsAll size level rest := by
  induction steps with
  | nil => rfl
  | cons s steps ih => simp [ih]

theorem statements_line_cons {t : String} (h : isStatement t = true) (size level : Int) :
    (statementsAll size level (.line t :: rest)).isEmpty = false := by
  simp [Step.statements, h]

theorem statements_block_cons (size level : Int) :
    (statementsAll size level (.block header steps :: rest)).isEmpty = false := by
  simp only [statementsAll_cons, Step.statements]
  by_cases h : (statementsAll size (level + 1) steps).isEmpty = true <;> simp [h]
  simp_all

/-- A listing grows by lines with these statements among them. -/
structure Adds (l l' : Listing) (statements : List String) : Prop where
  lines : ∃ added, l'.lines.toList = l.lines.toList ++ added ∧ added.filter isStatement = statements
  level : l'.level = l.level
  size : l'.size = l.size

theorem Adds.refl (l : Listing) : Adds l l [] := ⟨⟨[], by simp⟩, rfl, rfl⟩

theorem Adds.trans {l₁ l₂ l₃ : Listing} {t : List String} (h : Adds l₁ l₂ s) (k : Adds l₂ l₃ t) :
    Adds l₁ l₃ (s ++ t) := by
  obtain ⟨a, ha, hs⟩ := h.lines
  obtain ⟨b, hb, ht⟩ := k.lines
  refine ⟨⟨a ++ b, ?_, ?_⟩, k.level.trans h.level, k.size.trans h.size⟩
  · rw [hb, ha, append_assoc]
  · rw [filter_append, hs, ht]

theorem Adds.child {l l' : Listing} (h : Adds l l' s) (extra : Int) :
    l'.child extra = l.child extra := by
  rw [Listing.child, h.level, h.size, Listing.child]

theorem dropWhile_replicate_blank (k : Nat) (cs : List Char) :
    (List.replicate k ' ' ++ cs).dropWhile isBlank = cs.dropWhile isBlank := by
  induction k with
  | zero => rfl
  | succ k ih =>
    rw [replicate_succ, cons_append, dropWhile_cons_of_pos (by decide), ih]

@[simp] theorem isStatement_indented (size level : Int) (text : String) :
    isStatement (indented size level text) = isStatement text := by
  unfold isStatement indented trimLeft
  simp [dropWhile_replicate_blank]

theorem isStatement_append {s : String} (h : isStatement s = true) (t : String) :
    isStatement (s ++ t) = true := by
  unfold isStatement trimLeft at h ⊢
  rw [String.toList_append, dropWhile_append]
  cases hs : s.toList.dropWhile isBlank with
  | nil => simp [hs] at h
  | cons c cs => simpa [hs] using h

theorem line_adds (l : Listing) (text : String) :
    Adds l (l.line text) (if isStatement text then [indented l.size l.level text] else []) := by
  by_cases h : text = ""
  · subst h
    exact ⟨⟨[""], by simp [line], rfl⟩, rfl, rfl⟩
  · refine ⟨⟨[indented l.size l.level text], ?_, ?_⟩, rfl, rfl⟩
    · simp [line, h, indented, margin]
    · simp [filter_cons]

theorem allLines_adds (texts : List String) (l : Listing) (h : ∀ t ∈ texts, isStatement t = false) :
    Adds l (l.allLines texts) [] := by
  induction texts generalizing l with
  | nil => exact .refl l
  | cons t texts ih =>
    have ht : Adds l (l.line t) [] := by simpa [h t] using line_adds l t
    exact ht.trans (ih _ fun t' h' => h t' (mem_cons_of_mem _ h'))

theorem commentLines_sign {text t : String} (h : t ∈ commentLines text) :
    ∃ cs, t.toList = '#' :: cs := by
  obtain ⟨part, -, rfl⟩ := mem_map.mp h
  refine ⟨trimRight (' ' :: part.toList), ?_⟩
  rw [stripRight, String.toList_ofList, String.toList_append]
  exact trimRight_cons (by decide) _

theorem isStatement_commentLines {text t : String} (h : t ∈ commentLines text) :
    isStatement t = false := by
  obtain ⟨cs, hcs⟩ := commentLines_sign h
  rw [isStatement, hcs, trimLeft, dropWhile_cons_of_neg (by decide)]
  rfl

theorem comment_adds (l : Listing) (text : String) : Adds l (l.comment text) [] :=
  allLines_adds _ l fun _ => isStatement_commentLines

theorem blank_adds (l : Listing) : Adds l l.blank [] := by
  unfold blank
  split
  · exact .refl l
  · split
    · exact .refl l
    · exact ⟨⟨[""], by simp, rfl⟩, rfl, rfl⟩

theorem extend_adds {l side side' : Listing} (h : Adds side side' s)
    (he : side.lines = #[]) : Adds l (l.extend side') s := by
  obtain ⟨a, ha, hs⟩ := h.lines
  refine ⟨⟨a, ?_, hs⟩, rfl, rfl⟩
  simp [extend, ha, he]

theorem any_isStatement (lines : List String) :
    lines.any isStatement = !(lines.filter isStatement).isEmpty := by
  rw [Bool.eq_iff_iff]
  simp [filter_eq_nil_iff]

theorem block_adds (l : Listing) (header : String) {body : Listing → Listing}
    (h : Adds (l.enter header) (body (l.enter header)) s) :
    Adds l (l.block header body)
      ((if isStatement header then [indented l.size l.level header] else [])
        ++ if s.isEmpty then [indented l.size (l.level + 1) "pass"] else s) := by
  obtain ⟨a, ha, hs⟩ := h.lines
  obtain ⟨b, hb, hh⟩ := (line_adds l header).lines
  have hopen : (l.enter header).lines = (l.line header).lines := rfl
  have hlevel : (body (l.enter header)).level = l.level + 1 := h.level
  have hsize : (body (l.enter header)).size = l.size := h.size
  have hany : (body (l.enter header)).hasStatementsFrom (l.enter header).lines.size =
      !s.isEmpty := by
    rw [hasStatementsFrom, ha, ← Array.length_toList, drop_left, ← hs, any_isStatement]
  rw [← hh]
  cases s with
  | nil =>
    obtain ⟨c, hc, hp⟩ := (line_adds (body (l.enter header)) "pass").lines
    refine ⟨⟨b ++ a ++ c, ?_, ?_⟩, ?_, ?_⟩
    · simp only [block, leave, hany]
      simp [hc, ha, hopen, hb]
    · have hpass : isStatement "pass" = true := by decide
      simp [hs, hp, hlevel, hsize, hpass]
    · simp [block, leave, hany, line, hlevel]
    · simp [block, leave, hany, line, hsize]
  | cons t s =>
    refine ⟨⟨b ++ a, ?_, ?_⟩, ?_, ?_⟩
    · simp only [block, leave, hany]
      simp [ha, hopen, hb]
    · simp [hs]
    · simp [block, leave, hany, hlevel]
    · simp [block, leave, hany, hsize]

mutual

theorem Step.run_adds : ∀ (s : Step) (l : Listing), s.lasts = true →
    Adds l (s.run l).1 (s.statements l.size l.level)
  | .line text, l, _ => line_adds l text
  | .comment text, l, _ => comment_adds l text
  | .blank, l, _ => blank_adds l
  | .block header steps, l, h => by
    rw [run_block h]
    exact block_adds l header (runAll_adds steps (l.enter header) h)
  | .child extra false steps, l, h => by
    rw [run_child h]
    exact .refl l
  | .child extra true steps, l, h => by
    rw [run_child h]
    exact extend_adds (runAll_adds steps (l.child extra) h) rfl

theorem runAll_adds : ∀ (steps : List Step) (l : Listing), lastAll steps = true →
    Adds l (runAll steps l).1 (statementsAll l.size l.level steps)
  | [], l, _ => .refl l
  | s :: rest, l, h => by
    simp only [lastAll, Bool.and_eq_true] at h
    have hs := Step.run_adds s l h.1
    have hrest := runAll_adds rest (s.run l).1 h.2
    rw [hs.level, hs.size] at hrest
    rw [runAll_cons h.1]
    exact hs.trans hrest

end

/-- **Calls add lines at the end, and the statements among them are those of the tree.** -/
theorem write_adds (h : lastAll steps = true) (l : Listing) :
    Adds l (write steps l) (statementsAll l.size l.level steps) :=
  runAll_adds steps l h

theorem Adds.hasStatements {l l' : Listing} (h : Adds l l' s) :
    l'.hasStatements = (l.hasStatements || !s.isEmpty) := by
  obtain ⟨a, ha, hs⟩ := h.lines
  simp only [Listing.hasStatements, hasStatementsFrom, drop_zero, ha, any_append, ← hs,
    ← any_isStatement]

@[simp] theorem statementsAll_comments (size level : Int) (notes : List String) :
    statementsAll size level (notes.map .comment) = [] := by
  induction notes with
  | nil => rfl
  | cons t notes ih => simpa [Step.statements] using ih

/-! ## Empty listings -/

theorem Adds.isEmpty {l l' : Listing} (h : Adds l l' s)
    (hl : l.isEmpty = false) : l'.isEmpty = false := by
  obtain ⟨a, ha, -⟩ := h.lines
  unfold Listing.isEmpty at hl ⊢
  rw [ha, all_append, hl, Bool.false_and]

theorem isEmpty_of_hasStatements {l : Listing} (h : l.hasStatements = true) :
    l.isEmpty = false := by
  obtain ⟨t, ht, hs⟩ := any_eq_true.mp h
  refine all_eq_false.mpr ⟨t, ht, fun hb => ?_⟩
  have hnil : trimLeft t.toList = [] := by
    rw [trimLeft, dropWhile_eq_nil_iff]
    exact all_eq_true.mp hb
  simp [isStatement, hnil] at hs

/-! ## Characters -/

theorem flatten_cutLinesFrom (cs line : List Char) (done : List (List Char)) :
    (cutLinesFrom line done cs).flatten = done.reverse.flatten ++ (line.reverse ++ cs) := by
  induction cs generalizing line done with
  | nil => cases line <;> simp [cutLinesFrom]
  | cons c cs ih =>
    rw [cutLinesFrom]
    split <;> simp [ih]

theorem mem_of_mem_dropLineEnd {c : Char} {piece : List Char} (h : c ∈ dropLineEnd piece) :
    c ∈ piece := by
  unfold dropLineEnd at h
  rw [← mem_reverse]
  split at h
  · rename_i hr
    rw [hr]
    exact mem_cons_of_mem _ (mem_cons_of_mem _ (mem_reverse.mp h))
  · rename_i hr
    split at h
    · rw [hr]
      exact mem_cons_of_mem _ (mem_reverse.mp h)
    · exact mem_reverse.mpr h
  · cases h

theorem mem_commentLines {c : Char} {text line : String} (hl : line ∈ commentLines text)
    (hc : c ∈ line.toList) : c ∈ "# ".toList ∨ c ∈ text.toList := by
  obtain ⟨part, hpart, rfl⟩ := mem_map.mp hl
  rw [stripRight, String.toList_ofList, trimRight, mem_reverse] at hc
  have hc := mem_reverse.mp ((dropWhile_suffix _).subset hc)
  rw [String.toList_append, mem_append] at hc
  refine hc.imp_right fun hc => ?_
  split at hpart
  · rw [mem_singleton.mp hpart] at hc
    cases hc
  · obtain ⟨piece, hpiece, rfl⟩ := mem_map.mp hpart
    rw [String.toList_ofList] at hc
    have hall : c ∈ (cutLines text.toList).flatten :=
      mem_flatten_of_mem hpiece (mem_of_mem_dropLineEnd hc)
    rwa [cutLines, flatten_cutLinesFrom] at hall

/-- A listing without a character. -/
def Lacks (c : Char) (l : Listing) : Prop :=
  ∀ line ∈ l.lines.toList, c ∉ line.toList

mutual

def Step.texts : Step → List String
  | .line text => [text]
  | .comment text => [text]
  | .blank => []
  | .block header steps => header :: textsAll steps
  | .child _ _ steps => textsAll steps
  | .fail => []
termination_by structural s => s

def textsAll : List Step → List String
  | [] => []
  | s :: rest => s.texts ++ textsAll rest
termination_by structural steps => steps

end

theorem textsAll_append (steps rest : List Step) :
    textsAll (steps ++ rest) = textsAll steps ++ textsAll rest := by
  induction steps with
  | nil => rfl
  | cons s steps ih => rw [cons_append, textsAll, ih, textsAll, append_assoc]

section

variable {c : Char} {l : Listing}

theorem Lacks.push (h : l.Lacks c) {text : String} (ht : c ∉ text.toList) :
    { l with lines := l.lines.push text : Listing }.Lacks c := by
  intro line hl
  rcases mem_append.mp (Array.toList_push ▸ hl) with hl | hl
  · exact h line hl
  · rw [mem_singleton.mp hl]
    exact ht

theorem Lacks.line (h : l.Lacks c) (hc : c ≠ ' ') {text : String} (ht : c ∉ text.toList) :
    (l.line text).Lacks c := by
  refine h.push ?_
  split
  · simp
  · rw [String.toList_append, margin, String.toList_ofList, mem_append, not_or]
    exact ⟨fun hm => hc (eq_of_mem_replicate hm), ht⟩

theorem Lacks.allLines (hc : c ≠ ' ') {texts : List String} (ht : ∀ t ∈ texts, c ∉ t.toList) :
    ∀ {l : Listing}, l.Lacks c → (l.allLines texts).Lacks c := by
  induction texts with
  | nil => exact fun h => h
  | cons t texts ih =>
    obtain ⟨ht, hts⟩ := forall_mem_cons.mp ht
    exact fun h => ih hts (h.line hc ht)

theorem Lacks.comment (h : l.Lacks c) (hc : c ≠ ' ') (hsign : c ≠ '#') {text : String}
    (ht : c ∉ text.toList) : (l.comment text).Lacks c :=
  Lacks.allLines hc (fun _ hl hm => (mem_commentLines hl hm).elim (by simp [hc, hsign]) ht) h

theorem Lacks.blank (h : l.Lacks c) : l.blank.Lacks c := by
  unfold Listing.blank
  split
  · exact h
  · split
    · exact h
    · exact h.push (by simp)

theorem Lacks.leave (h : l.Lacks c) (hc : c ≠ ' ') (hpass : c ∉ "pass".toList) (start : Nat) :
    (l.leave start).Lacks c := by
  unfold Listing.leave
  dsimp only
  split
  · exact h
  · exact h.line hc hpass

theorem Lacks.extend (h : l.Lacks c) {other : Listing} (ho : other.Lacks c) :
    (l.extend other).Lacks c := by
  intro line hl
  rcases mem_append.mp (Array.toList_append ▸ hl) with hl | hl
  · exact h line hl
  · exact ho line hl

end

mutual

theorem Step.run_lacks {c : Char} (hc : c ∉ "# pass".toList) : ∀ (s : Step) {l : Listing},
    l.Lacks c → (∀ t ∈ s.texts, c ∉ t.toList) → (s.run l).1.Lacks c
  | .line text, l, h, ht => h.line (by rintro rfl; simp at hc) (ht text (by simp [Step.texts]))
  | .comment text, l, h, ht =>
    h.comment (by rintro rfl; simp at hc) (by rintro rfl; simp at hc)
      (ht text (by simp [Step.texts]))
  | .blank, l, h, _ => h.blank
  | .block header steps, l, h, ht => by
    have hblank : c ≠ ' ' := by rintro rfl; simp at hc
    obtain ⟨hheader, hsteps⟩ := forall_mem_cons.mp ht
    have hinner := runAll_lacks hc steps (l := l.enter header) (h.line hblank hheader) hsteps
    simp only [Step.run]
    split
    · rename_i hr
      rw [hr] at hinner
      exact hinner.leave hblank (fun hm => hc (mem_append_right "# ".toList hm)) _
    · rename_i hr
      rw [hr] at hinner
      exact hinner
  | .child extra extend steps, l, h, ht => by
    have hinner := runAll_lacks hc steps (l := l.child extra) (by simp [Lacks, child]) ht
    simp only [Step.run]
    split
    · rename_i hr
      rw [hr] at hinner
      dsimp only
      split
      · exact h.extend hinner
      · exact h
    · exact h
  | .fail, l, h, _ => h

theorem runAll_lacks {c : Char} (hc : c ∉ "# pass".toList) : ∀ (steps : List Step) {l : Listing},
    l.Lacks c → (∀ t ∈ textsAll steps, c ∉ t.toList) → (runAll steps l).1.Lacks c
  | [], l, h, _ => h
  | s :: rest, l, h, ht => by
    have hs := Step.run_lacks hc s h fun t hm => ht t (mem_append_left _ hm)
    simp only [runAll]
    split
    · rename_i hr
      rw [hr] at hs
      exact hs
    · rename_i hr
      rw [hr] at hs
      exact runAll_lacks hc rest hs fun t hm => ht t (mem_append_right _ hm)

end

theorem mem_of_mem_dropEmptyEnd {line : String} {lines : List String}
    (h : line ∈ dropEmptyEnd lines) : line ∈ lines := by
  rw [dropEmptyEnd, mem_reverse] at h
  exact mem_reverse.mp ((dropWhile_suffix _).subset h)

/-- **The text that calls write has no character that none of their texts has**, but for blanks,
line ends, the sign of comments and `pass`. -/
theorem render_write_lacks {c : Char} (hc : c ∉ "# pass\n".toList) {steps : List Step}
    (ht : ∀ t ∈ textsAll steps, c ∉ t.toList) : c ∉ (write steps {}).render.toList := by
  have hlines : (write steps {}).Lacks c := by
    refine runAll_lacks (fun hm => hc (mem_append_left "\n".toList hm)) steps ?_ ht
    simp [Lacks]
  intro hm
  rw [render, String.toList_join, mem_flatMap] at hm
  obtain ⟨line, hl, hm⟩ := hm
  obtain ⟨line, hkept, rfl⟩ := mem_map.mp hl
  rw [String.toList_append, mem_append] at hm
  rcases hm with hm | hm
  · exact hlines line (mem_of_mem_dropEmptyEnd hkept) hm
  · exact hc (mem_append_right "# pass".toList hm)

/-! ## Comments -/

mutual

def Step.comments : Step → List String
  | .comment text => [text]
  | .block _ steps => commentsAll steps
  | .child _ true steps => commentsAll steps
  | _ => []
termination_by structural s => s

def commentsAll : List Step → List String
  | [] => []
  | s :: rest => s.comments ++ commentsAll rest
termination_by structural steps => steps

end

theorem cutLinesFrom_of_oneLine {cs : List Char} (h : ∀ c ∈ cs, isLineEnd c = false)
    (line : List Char) (done : List (List Char)) (rest : List Char) :
    cutLinesFrom line done (cs ++ rest) =
      cutLinesFrom (cs.reverse ++ line) done rest := by
  induction cs generalizing line with
  | nil => rfl
  | cons c cs ih =>
    rw [cons_append, cutLinesFrom, h c mem_cons_self, Bool.false_and,
      if_neg Bool.false_ne_true, ih fun d hd => h d (mem_cons_of_mem _ hd)]
    simp

theorem commentLines_of_oneLine {text : String} {cs : List Char} {c : Char}
    (htext : text.toList = cs ++ [c]) (h : ∀ d ∈ text.toList, isLineEnd d = false)
    (hc : isBlank c = false) : commentLines text = ["# " ++ text] := by
  have hend : isLineEnd c = false := h c (by simp [htext])
  have hline : dropLineEnd text.toList = text.toList := by
    rw [dropLineEnd, htext, reverse_append, reverse_singleton, singleton_append]
    split
    · rename_i he
      obtain ⟨rfl, -⟩ := List.cons.inj he
      cases hend
    · rename_i he
      obtain ⟨rfl, -⟩ := List.cons.inj he
      rw [hend, if_neg Bool.false_ne_true]
    · rename_i he
      cases he
  have hcut : cutLines text.toList = [text.toList] := by
    rw [cutLines, ← append_nil text.toList, cutLinesFrom_of_oneLine h, cutLinesFrom]
    simp [htext]
  have hlines : Text.lines text = [text] := by
    rw [Text.lines, hcut, map_singleton, hline, String.ofList_toList]
  have hstrip : stripRight ("# " ++ text) = "# " ++ text := by
    rw [stripRight, String.toList_append, htext, trimRight, ← append_assoc,
      reverse_append, reverse_singleton, singleton_append,
      dropWhile_cons_of_neg (by simp [hc]), ← singleton_append, reverse_append,
      reverse_reverse, reverse_singleton, append_assoc, ← htext,
      ← String.toList_append, String.ofList_toList]
  rw [commentLines, hlines]
  simp [hstrip]

end Listing

end Sketchflow
