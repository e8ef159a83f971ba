import Mathlib.Order.Monotone.Basic
import Sketchflow.Proofs.Listing.Comments

/-!
# Listings read back

A listing can be read back from its text: lines that are indented further belong to the line above
them. Comments and empty lines do not matter.

* `Entry` is a line with the lines that belong to it, `offside` the entries of indented rows.
* **`offside_rows`**: the rows of entries are read as these entries.
* **`runAll_writes`**: what calls write are the rows of their entries.
* **`child_enterAll`**: a listing on the side can be made before the blocks are opened in which it
  is appended.
* **`render_reads_back`**: so the text of a listing has the entries of what was told. Every call
  leaves the level as it was, also one that fails.
-/

namespace Sketchflow.Listing

open List Text

/-! ## The level -/

theorem level_leave (l : Listing) (start : Nat) : (l.leave start).level = l.level - 1 := by
  unfold leave
  dsimp only
  split <;> rfl

mutual

theorem Step.run_level : ∀ (s : Step) (l : Listing), (s.run l).1.level = l.level
  | .line _, _ => rfl
  | .comment text, l => (comment_adds l text).level
  | .blank, l => (blank_adds l).level
  | .block header steps, l => by
    have hopen : (l.enter header).level - 1 = l.level := Int.add_sub_cancel _ _
    have hinner := runAll_level steps (l.enter header)
    rw [Step.run]
    generalize runAll steps (l.enter header) = r at hinner ⊢
    obtain ⟨inner, _ | _⟩ := r
    · show inner.level - 1 = l.level
      rw [hinner, hopen]
    · show (inner.leave _).level = l.level
      rw [level_leave, hinner, hopen]
  | .child extra extend steps, l => by
    rw [Step.run]
    generalize runAll steps (l.child extra) = r
    obtain ⟨side, _ | _⟩ := r
    · rfl
    · cases extend <;> rfl
  | .fail, _ => rfl

theorem runAll_level : ∀ (steps : List Step) (l : Listing), (runAll steps l).1.level = l.level
  | [], _ => rfl
  | s :: rest, l => by
    have hs := s.run_level l
    rw [runAll]
    generalize s.run l = r at hs ⊢
    obtain ⟨l₁, outcome⟩ := r
    cases outcome with
    | failed => exact hs
    | done => exact (runAll_level rest l₁).trans hs
    | side _ => exact (runAll_level rest l₁).trans hs

end

/-- Open blocks under these headers, each with some calls before the next. -/
def enterAll : List (String × List Step) → Listing → Listing
  | [], l => l
  | (header, before) :: way, l => enterAll way (write before (l.enter header))

/-- **A listing on the side can be made before the blocks are opened in which it is appended.** -/
theorem child_enterAll (way : List (String × List Step)) (l : Listing)
    (h : ∀ opened ∈ way, lastAll opened.2 = true) :
    (enterAll way l).child 0 = l.child way.length := by
  induction way generalizing l with
  | nil => rfl
  | cons opened way ih =>
    obtain ⟨hbefore, hway⟩ := forall_mem_cons.mp h
    rw [enterAll, ih _ hway, (write_adds hbefore _).child]
    simp [child, enter, line]
    omega

/-! ## Entries -/

/-- A line and the lines that belong to it. -/
inductive Entry where
  | mk (text : String) (belongs : List Entry)

/-- What stands in a block. -/
def orPass (entries : List Entry) : List Entry :=
  if entries.isEmpty then [⟨"pass", []⟩] else entries

mutual

def Step.entries : Step → List Entry
  | .line text => [⟨text, []⟩]
  | .comment _ => []
  | .blank => []
  | .block header steps => [⟨header, orPass (entriesAll steps)⟩]
  | .child _ _ steps => entriesAll steps
  | .fail => []
termination_by structural s => s

def entriesAll : List Step → List Entry
  | [] => []
  | s :: rest => s.entries ++ entriesAll rest
termination_by structural steps => steps

end

/-! ## Reading by indentation -/

/-- Rows with their indentation, as entries: what is indented further than a row belongs to it. -/
def offside : List (Nat × String) → List Entry
  | [] => []
  | row :: rest =>
    ⟨row.2, offside (rest.takeWhile fun r => row.1 < r.1)⟩ ::
      offside (rest.dropWhile fun r => row.1 < r.1)
termination_by rows => rows.length
decreasing_by
  · exact Nat.lt_succ_of_le (takeWhile_sublist _).length_le
  · exact Nat.lt_succ_of_le (dropWhile_sublist _).length_le

/-- A line as a row: how many blanks it starts with, and what follows them. -/
def row (line : String) : Nat × String :=
  ((line.toList.takeWhile (· == ' ')).length, String.ofList (line.toList.dropWhile (· == ' ')))

/-- A text read back, without its comments and blank lines. -/
def readBack (text : String) : List Entry :=
  offside ((((text.toList.splitOn '\n').map String.ofList).filter isStatement).map row)

mutual

def Entry.rows (level : Nat) : Entry → List (Nat × String)
  | ⟨text, belongs⟩ => (level, text) :: rowsAll (level + 1) belongs

def rowsAll (level : Nat) : List Entry → List (Nat × String)
  | [] => []
  | e :: rest => e.rows level ++ rowsAll level rest

end

mutual

theorem Entry.le_rows : ∀ (e : Entry) (level : Nat), ∀ r ∈ e.rows level, level ≤ r.1
  | ⟨text, belongs⟩, level, r, hr => by
    rw [Entry.rows] at hr
    rcases mem_cons.mp hr with rfl | hr
    · exact le_rfl
    · exact (Nat.le_succ level).trans (le_rowsAll belongs (level + 1) r hr)

theorem le_rowsAll : ∀ (es : List Entry) (level : Nat), ∀ r ∈ rowsAll level es, level ≤ r.1
  | [], _, _, hr => by
    rw [rowsAll] at hr
    cases hr
  | e :: rest, level, r, hr => by
    rw [rowsAll] at hr
    exact (mem_append.mp hr).elim (e.le_rows level r) (le_rowsAll rest level r)

end

/-- Nothing of the entries that follow belongs to what stands before them at their level. -/
theorem head_rowsAll (level : Nat) (es : List Entry) :
    rowsAll level es = [] ∨ ∃ text rest, rowsAll level es = (level, text) :: rest := by
  rcases es with _ | ⟨⟨text, belongs⟩, rest⟩
  · exact .inl rfl
  · exact .inr ⟨text, _, rfl⟩

/-- **The rows of entries are read as these entries**, however levels are turned into blanks. -/
theorem offside_rows {blanks : Nat → Nat} (hblanks : StrictMono blanks) :
    ∀ (es : List Entry) (level : Nat),
      offside ((rowsAll level es).map fun r => (blanks r.1, r.2)) = es
  | [], level => by
    rw [rowsAll, map_nil, offside]
  | ⟨text, belongs⟩ :: rest, level => by
    have hin : ∀ r ∈ (rowsAll (level + 1) belongs).map fun r => (blanks r.1, r.2),
        decide (blanks level < r.1) = true := by
      intro r hr
      obtain ⟨inner, hinner, rfl⟩ := mem_map.mp hr
      exact decide_eq_true (hblanks (le_rowsAll belongs (level + 1) inner hinner))
    have hout : ((rowsAll level rest).map fun r => (blanks r.1, r.2)).takeWhile
          (fun r => blanks level < r.1) = [] ∧
        ((rowsAll level rest).map fun r => (blanks r.1, r.2)).dropWhile
          (fun r => blanks level < r.1) = (rowsAll level rest).map fun r => (blanks r.1, r.2) := by
      rcases head_rowsAll level rest with h | ⟨next, more, h⟩ <;> simp [h]
    rw [rowsAll, Entry.rows, cons_append, map_cons, map_append, offside,
      takeWhile_append_of_pos hin, dropWhile_append_of_pos hin, hout.1, hout.2, append_nil,
      offside_rows hblanks belongs, offside_rows hblanks rest]

/-! ## What calls write -/

/-- A text that can stand on a line of its own: it starts with no blank and with no sign of a
comment, and holds no line feed. -/
def isPlain (text : String) : Bool :=
  !text.toList.contains '\n' &&
    match text.toList with
    | [] => false
    | c :: _ => !isBlank c && c != '#'

mutual

/-- Whether all texts of a call can stand on lines of their own, and every listing on the side is
made for where it is appended. -/
def Step.isPlain : Step → Bool
  | .line text => Listing.isPlain text
  | .block header steps => Listing.isPlain header && allPlain steps
  | .child extra extend steps => extra == 0 && (extend && allPlain steps)
  | _ => true
termination_by structural s => s

def allPlain : List Step → Bool
  | [] => true
  | s :: rest => s.isPlain && allPlain rest
termination_by structural steps => steps

end

variable {text header : String} {l l' : Listing} {rows more : List (Nat × String)}

theorem isStatement_of_isPlain (h : isPlain text = true) : isStatement text = true := by
  unfold isPlain at h
  unfold isStatement trimLeft
  cases htext : text.toList with
  | nil => simp [htext] at h
  | cons c cs =>
    simp only [htext, Bool.and_eq_true, Bool.not_eq_true', bne_iff_ne] at h
    rw [dropWhile_cons_of_neg (by simp [h.2.1])]
    simpa using h.2.2

theorem feed_notMem_of_isPlain (h : isPlain text = true) : '\n' ∉ text.toList := by
  simpa using (Bool.and_eq_true_iff.mp h).1

/-- A listing grows by the lines of these rows, comments and empty lines aside. -/
structure Writes (l l' : Listing) (rows : List (Nat × String)) : Prop where
  adds : Adds l l' (rows.map fun r => indented l.size r.1 r.2)
  lacks : l.Lacks '\n' → l'.Lacks '\n'
  plain : ∀ r ∈ rows, isPlain r.2 = true

theorem Writes.refl (l : Listing) : Writes l l [] := ⟨.refl l, id, by simp⟩

theorem Writes.trans {l'' : Listing} (h : Writes l l' rows) (k : Writes l' l'' more) :
    Writes l l'' (rows ++ more) where
  adds := by
    rw [map_append]
    exact h.adds.trans (h.adds.size ▸ k.adds)
  lacks hl := k.lacks (h.lacks hl)
  plain := forall_mem_append.mpr ⟨h.plain, k.plain⟩

theorem writes_line (h : isPlain text = true) {level : Nat} (hlevel : l.level = level) :
    Writes l (l.line text) [(level, text)] where
  adds := by
    have hadds := line_adds l text
    rwa [isStatement_of_isPlain h, if_pos rfl, hlevel] at hadds
  lacks hl := hl.line (by decide) (feed_notMem_of_isPlain h)
  plain := forall_mem_singleton.mpr h

theorem writes_comment (l : Listing) (text : String) : Writes l (l.comment text) [] where
  adds := comment_adds l text
  lacks hl := Lacks.allLines (by decide) (fun t ht hfeed => by
    have := whole_commentLines ht '\n' hfeed
    revert this
    decide) hl
  plain := by simp

theorem writes_blank (l : Listing) : Writes l l.blank [] :=
  ⟨blank_adds l, fun hl => hl.blank, by simp⟩

theorem writes_extend {side : Listing} (level : Nat) (h : Writes (l.child level) side rows) :
    Writes l (l.extend side) rows :=
  ⟨extend_adds h.adds rfl, fun hl => hl.extend (h.lacks (by simp [Lacks, child])), h.plain⟩

theorem rowsAll_single (level : Nat) (text : String) (belongs : List Entry) :
    rowsAll level [⟨text, belongs⟩] = (level, text) :: rowsAll (level + 1) belongs := by
  rw [rowsAll, Entry.rows, rowsAll, append_nil]

theorem writes_block (body : Listing → Listing) {es : List Entry} {level : Nat}
    (hheader : isPlain header = true) (hlevel : l.level = level)
    (hbody : Writes (l.enter header) (body (l.enter header)) (rowsAll (level + 1) es)) :
    Writes l (l.block header body) (rowsAll level [⟨header, orPass es⟩]) where
  adds := by
    have hadds := block_adds l header hbody.adds
    rw [isStatement_of_isPlain hheader, if_pos rfl, hlevel] at hadds
    rw [rowsAll_single, map_cons]
    rcases es with _ | ⟨⟨text, belongs⟩, rest⟩
    · exact hadds
    · have hsize : (l.enter header).size = l.size := rfl
      simpa [orPass, rowsAll, Entry.rows, hsize] using hadds
  lacks hl := by
    have henter : (l.enter header).Lacks '\n' :=
      hl.line (by decide) (feed_notMem_of_isPlain hheader)
    exact (hbody.lacks henter).leave (by decide) (by decide) _
  plain := by
    rw [rowsAll_single]
    refine forall_mem_cons.mpr ⟨hheader, ?_⟩
    cases es with
    | nil => simp [orPass, rowsAll, Entry.rows, isPlain, isBlank]
    | cons e es => exact hbody.plain

theorem rowsAll_append (level : Nat) (es fs : List Entry) :
    rowsAll level (es ++ fs) = rowsAll level es ++ rowsAll level fs := by
  induction es with
  | nil => rfl
  | cons e es ih => rw [cons_append, rowsAll, rowsAll, ih, append_assoc]

mutual

theorem Step.run_writes : ∀ (s : Step) (l : Listing) (level : Nat), s.lasts = true →
    s.isPlain = true → l.level = level → Writes l (s.run l).1 (rowsAll level s.entries)
  | .line text, l, level, _, h, hlevel => writes_line h hlevel
  | .comment text, l, _, _, _, _ => writes_comment l text
  | .blank, l, _, _, _, _ => writes_blank l
  | .block header steps, l, level, hlasts, h, hlevel => by
    obtain ⟨hheader, hsteps⟩ := Bool.and_eq_true_iff.mp h
    rw [run_block hlasts]
    refine writes_block (write steps) hheader hlevel ?_
    exact runAll_writes steps (l.enter header) (level + 1) hlasts hsteps (congrArg (· + 1) hlevel)
  | .child extra extend steps, l, level, hlasts, h, hlevel => by
    simp only [Step.isPlain, Bool.and_eq_true, beq_iff_eq] at h
    obtain ⟨rfl, rfl, h⟩ := h
    rw [run_child hlasts]
    refine writes_extend 0 (runAll_writes steps (l.child 0) level hlasts h ?_)
    rw [← hlevel, child, Int.add_zero]

/-- **What calls write** are the rows of their entries. -/
theorem runAll_writes : ∀ (steps : List Step) (l : Listing) (level : Nat), lastAll steps = true →
    allPlain steps = true → l.level = level →
    Writes l (runAll steps l).1 (rowsAll level (entriesAll steps))
  | [], l, _, _, _, _ => .refl l
  | s :: rest, l, level, hlasts, h, hlevel => by
    obtain ⟨hs, hrest⟩ := Bool.and_eq_true_iff.mp h
    obtain ⟨hlasts, hlastsRest⟩ := Bool.and_eq_true_iff.mp hlasts
    have hfirst := s.run_writes l level hlasts hs hlevel
    rw [runAll_cons hlasts, entriesAll, rowsAll_append]
    exact hfirst.trans (runAll_writes rest _ level hlastsRest hrest
      (hfirst.adds.level.trans hlevel))

end

/-! ## Reading the text -/

theorem splitOn_join {lines : List String} (h : ∀ line ∈ lines, '\n' ∉ line.toList) :
    (String.join (lines.map (· ++ "\n"))).toList.splitOn '\n' =
      lines.map String.toList ++ [[]] := by
  induction lines with
  | nil => rfl
  | cons line lines ih =>
    obtain ⟨hline, hlines⟩ := forall_mem_cons.mp h
    have hjoin : (String.join ((line :: lines).map (· ++ "\n"))).toList =
        line.toList ++ '\n' :: (String.join (lines.map (· ++ "\n"))).toList := by
      simp [String.toList_join]
    rw [hjoin, splitOn, splitOnP_append_cons_of_forall_mem (fun c hc => ?_) _ (by simp)]
    · exact congrArg (line.toList :: ·) (ih hlines)
    · simpa using fun he : c = '\n' => hline (he ▸ hc)

theorem filter_dropEmptyEnd (lines : List String) :
    (dropEmptyEnd lines).filter isStatement = lines.filter isStatement := by
  have hempty : ∀ lines : List String, (lines.dropWhile (· == "")).filter isStatement =
      lines.filter isStatement := by
    intro lines
    induction lines with
    | nil => rfl
    | cons line lines ih =>
      by_cases hline : line = ""
      · subst hline
        rw [dropWhile_cons_of_pos (by simp), ih, filter_cons_of_neg (by decide)]
      · rw [dropWhile_cons_of_neg (by simpa using hline)]
  rw [dropEmptyEnd, filter_reverse, hempty, filter_reverse, reverse_reverse]

theorem filter_render (h : l.Lacks '\n') :
    ((l.render.toList.splitOn '\n').map String.ofList).filter isStatement =
      l.lines.toList.filter isStatement := by
  have hkept : ∀ line ∈ dropEmptyEnd l.lines.toList, '\n' ∉ line.toList :=
    fun line hline => h line (mem_of_mem_dropEmptyEnd hline)
  have hback : String.ofList ∘ String.toList = id := funext fun _ => String.ofList_toList
  rw [render, splitOn_join hkept, map_append, map_map, hback, map_id, filter_append,
    filter_dropEmptyEnd]
  exact append_nil _

theorem row_indented (h : isPlain text = true) (size level : Int) :
    row (indented size level text) = ((level * size).toNat, text) := by
  have hhead : text.toList.takeWhile (· == ' ') = [] ∧
      text.toList.dropWhile (· == ' ') = text.toList := by
    have hstart := (Bool.and_eq_true_iff.mp h).2
    cases htext : text.toList with
    | nil => exact ⟨rfl, rfl⟩
    | cons c cs =>
      rw [htext] at hstart
      have hc : ¬(c == ' ') = true := by
        intro hc
        rw [beq_iff_eq.mp hc] at hstart
        have hblank : isBlank ' ' = true := by decide
        simp [hblank] at hstart
      exact ⟨takeWhile_cons_of_neg hc, dropWhile_cons_of_neg hc⟩
  have hblanks : ∀ c ∈ List.replicate (level * size).toNat ' ', (c == ' ') = true := by
    intro c hc
    rw [eq_of_mem_replicate hc]
    rfl
  rw [row, indented, String.toList_append, String.toList_ofList, takeWhile_append_of_pos hblanks,
    dropWhile_append_of_pos hblanks, hhead.1, hhead.2, append_nil, length_replicate,
    String.ofList_toList]

theorem Writes.readBack {size : Int} (hsize : 0 < size) {level : Nat} {es : List Entry}
    (h : Writes { level := level, size := size } l (rowsAll level es)) :
    Listing.readBack l.render = es := by
  obtain ⟨added, hadded, hstatements⟩ := h.adds.lines
  have hlines : l.lines.toList.filter isStatement =
      (rowsAll level es).map fun r => indented size r.1 r.2 := by
    rw [hadded]
    exact hstatements
  have hrows : ((rowsAll level es).map fun r => indented size r.1 r.2).map row =
      (rowsAll level es).map fun r => (((r.1 : Int) * size).toNat, r.2) := by
    rw [map_map]
    exact map_congr_left fun r hr => row_indented (h.plain r hr) size r.1
  have hblanks : StrictMono fun n : Nat => ((n : Int) * size).toNat := by
    intro m n hmn
    have hless : (m : Int) * size < n * size := Int.mul_lt_mul_of_pos_right (by omega) hsize
    have hzero : 0 ≤ (m : Int) * size := Int.mul_nonneg (by omega) hsize.le
    show ((m : Int) * size).toNat < ((n : Int) * size).toNat
    omega
  rw [Listing.readBack, filter_render (h.lacks (by simp [Lacks])), hlines, hrows]
  exact offside_rows hblanks es level

/-- **The text of a listing is read back as what was told**, also where listings on the side are
made before the blocks are opened in which they are appended. Every call leaves the level as it was,
also one that fails in open blocks. -/
theorem render_reads_back :
    (∀ (size : Int) (level : Nat) (steps : List Step), 0 < size → lastAll steps = true →
      allPlain steps = true → (runAll steps { level := level, size := size }).2 = true ∧
        readBack (write steps { level := level, size := size }).render = entriesAll steps) ∧
      (∀ (way : List (String × List Step)) (side : List Step) (l : Listing),
        (∀ opened ∈ way, lastAll opened.2 = true) → lastAll side = true →
        (enterAll way l).extend (write side (l.child way.length)) =
          ((Step.child 0 true side).run (enterAll way l)).1) ∧
      ∀ (s : Step) (l : Listing), (s.run l).1.level = l.level := by
  refine ⟨fun size level steps hsize hlasts hplain => ⟨runAll_lasts steps _ hlasts, ?_⟩,
    fun way side l hway hside => ?_, Step.run_level⟩
  · exact (runAll_writes steps { level := level, size := size } level hlasts hplain
      rfl).readBack hsize
  · rw [run_child hside, if_pos rfl, child_enterAll way l hway]

/-- A block with nothing but a comment, and a listing on the side in two blocks. -/
def aside : List Step :=
  [.line "a = 1", .block "while a:" [.comment "nothing\nhere"],
    .block "def f():" [.comment "first", .block "def g():" [.line "c",
      .child 0 true [.line "b = 2", .blank, .block "if b:" []]], .line "d"]]

theorem render_reads_back_aside : lastAll aside = true ∧ allPlain aside = true ∧
    readBack (write aside { level := 2, size := 3 }).render =
      [⟨"a = 1", []⟩, ⟨"while a:", [⟨"pass", []⟩]⟩,
        ⟨"def f():", [⟨"def g():", [⟨"c", []⟩, ⟨"b = 2", []⟩, ⟨"if b:", [⟨"pass", []⟩]⟩]⟩,
          ⟨"d", []⟩]⟩] :=
  ⟨by decide, by decide,
    (render_reads_back.1 3 2 aside (by decide) (by decide) (by decide)).2⟩

end Sketchflow.Listing
