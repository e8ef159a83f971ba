import Sketchflow.Proofs.Workspace

/-!
# Names of workspaces

A workspace is asked for by a name that can be any text. The name either has a file directly in the
directory of workspaces, or it is refused.

* `LessEnding` is a name with at most one ending taken away, `Confined` what that has to look like.
* `Child` says that a file is directly in a directory: its name leads nowhere else.
* **`pathOf_confined`**: which names have a path, that it is the path of a file in the directory,
  and which names have the same.
-/

namespace Sketchflow

open List

theorem Text.occursIn_eq_true {part cs : List Char} : occursIn part cs = true ↔ part <:+: cs := by
  induction cs with
  | nil => simp [occursIn]
  | cons c rest ih =>
    rw [occursIn, Bool.or_eq_true, ih, List.isPrefixOf_iff_prefix, infix_cons_iff]

namespace Workspace

/-- An ASCII letter or digit. -/
def Alphanumeric (c : Char) : Prop :=
  ('A' ≤ c ∧ c ≤ 'Z') ∨ ('a' ≤ c ∧ c ≤ 'z') ∨ ('0' ≤ c ∧ c ≤ '9')

/-- What the name of a workspace looks like without the ending. -/
structure Confined (base : String) : Prop where
  start : ∃ c rest, base.toList = c :: rest ∧ Alphanumeric c
  plain : ∀ c ∈ base.toList, Alphanumeric c ∨ c = '_' ∨ c = '.' ∨ c = '-'
  undotted : ¬ ['.', '.'] <:+: base.toList

/-- A name with one ending taken away, if it has one. -/
def LessEnding (name base : String) : Prop :=
  name = base ++ ending ∨ (∀ front, name ≠ front ++ ending) ∧ name = base

/-- A file is directly in a directory: its path is the directory and its name, with one slash
between them, and the name leads from a folder to what is in that folder. -/
structure Child (dir file path : String) : Prop where
  slashless : '/' ∉ file.toList
  proper : Folder.Proper file
  text : ∃ front, path = front ++ file ∧ (front = dir ∨ front = dir ++ "/") ∧
    (front = "" ∨ front.toList.getLast? = some '/')
  leads : ∀ (f : Folder) l, f.locate (.single file) = .ok l → l = f.location ++ [file]

variable {dir name base : String}

theorem isAlphanum_iff {c : Char} : c.isAlphanum = true ↔ Alphanumeric c := by
  simp only [Char.isAlphanum, Char.isAlpha, Char.isUpper, Char.isLower, Char.isDigit, Alphanumeric,
    Bool.or_eq_true, Bool.and_eq_true, decide_eq_true_eq, ge_iff_le, Char.le_def]
  rw [or_assoc]

theorem isNameChar_iff {c : Char} :
    isNameChar c = true ↔ Alphanumeric c ∨ c = '_' ∨ c = '.' ∨ c = '-' := by
  simp [isNameChar, isAlphanum_iff, or_assoc]

theorem isName_iff : isName base = true ↔ Confined base := by
  unfold isName
  cases hbase : base.toList with
  | nil =>
    refine ⟨nofun, fun h => ?_⟩
    obtain ⟨c, rest, hcons, -⟩ := h.start
    rw [hbase] at hcons
    cases hcons
  | cons c rest =>
    simp only [Bool.and_eq_true, Bool.not_eq_true', isAlphanum_iff, all_eq_true, isNameChar_iff,
      ← Bool.not_eq_true, Text.contains, Text.occursIn_eq_true]
    constructor
    · rintro ⟨⟨hfirst, hrest⟩, hdots⟩
      refine ⟨⟨c, rest, hbase, hfirst⟩, ?_, hdots⟩
      rw [hbase]
      exact forall_mem_cons.mpr ⟨.inl hfirst, hrest⟩
    · rintro ⟨⟨c', rest', hcons, hfirst⟩, hplain, hdots⟩
      rw [hbase] at hcons hplain
      cases hcons
      exact ⟨⟨hfirst, (forall_mem_cons.mp hplain).2⟩, hdots⟩

theorem lessEnding_iff : LessEnding name base ↔ base = dropEnding name := by
  cases hend : hasEnding name with
  | true =>
    obtain ⟨front, rfl⟩ := exists_of_hasEnding hend
    rw [dropEnding_append]
    constructor
    · rintro (h | ⟨h, -⟩)
      · have hdrop := congrArg dropEnding h
        rw [dropEnding_append, dropEnding_append] at hdrop
        exact hdrop.symm
      · exact absurd rfl (h front)
    · rintro rfl
      exact .inl rfl
  | false =>
    have hnone : ∀ front, name ≠ front ++ ending := by
      rintro front rfl
      rw [hasEnding_append] at hend
      cases hend
    rw [dropEnding_of_not hend]
    constructor
    · rintro (h | ⟨-, h⟩)
      · exact absurd h (hnone base)
      · exact h.symm
    · rintro rfl
      exact .inr ⟨hnone, rfl⟩

theorem pathOf_eq_ok {path : String} : pathOf dir name = .ok path ↔
    Confined (dropEnding name) ∧ path = joined dir (dropEnding name ++ ending) := by
  rw [← isName_iff]
  simp only [pathOf, fileOf]
  split
  · rename_i h
    simp [h, Except.map, eq_comm]
  · rename_i h
    simp [h, Except.map]

theorem pathOf_eq_error {e : Failure} : pathOf dir name = .error e ↔
    ¬ Confined (dropEnding name) ∧ e = .badName (dropEnding name) := by
  rw [← isName_iff]
  simp only [pathOf, fileOf]
  split
  · rename_i h
    simp [h, Except.map]
  · rename_i h
    simp [h, Except.map, eq_comm]

/-! ## Where a file is -/

theorem slash_not_mem (h : Confined base) : '/' ∉ (base ++ ending).toList := by
  rw [String.toList_append, mem_append, not_or]
  refine ⟨fun hmem => ?_, by decide⟩
  have hplain : isNameChar '/' = true := isNameChar_iff.mpr (h.plain _ hmem)
  exact absurd hplain (by decide)

theorem head?_of_slashless {path : String} (h : '/' ∉ path.toList) :
    (path.toList.head? == some '/') = false := by
  rw [beq_eq_false_iff_ne]
  exact fun hsome => h (mem_of_head? hsome)

theorem child_of_confined (h : Confined base) :
    Child dir (base ++ ending) (joined dir (base ++ ending)) where
  slashless := slash_not_mem h
  proper := proper_of_isName (isName_iff.mpr h) ending
  text := by
    unfold joined
    rw [head?_of_slashless (slash_not_mem h)]
    simp only [Bool.false_eq_true, if_false]
    split
    · rename_i hdir
      exact ⟨dir, rfl, .inl rfl, by simpa using hdir⟩
    · exact ⟨dir ++ "/", rfl, .inr rfl, .inr (by simp)⟩
  leads _ _ hl := (Folder.locate_proper (proper_of_isName (isName_iff.mpr h) ending) hl).2

theorem joined_injective {file file' : String} (h : '/' ∉ file.toList) (h' : '/' ∉ file'.toList)
    (heq : joined dir file = joined dir file') : file = file' := by
  unfold joined at heq
  rw [head?_of_slashless h, head?_of_slashless h'] at heq
  simp only [Bool.false_eq_true, if_false] at heq
  split at heq <;> simpa using heq

/-- **Workspaces stay in their directory.** A name is refused, or its path is that of a file that is
directly in the directory: the name without one ending, which is a plain one, and the ending. Names
have the same path iff they are the same without one ending each. -/
theorem pathOf_confined (dir name : String) :
    (∃ base, LessEnding name base ∧ ∀ other, LessEnding name other → other = base) ∧
    (∀ path, pathOf dir name = .ok path ↔ ∃ base, LessEnding name base ∧ Confined base ∧
      path = joined dir (base ++ ".json") ∧ Child dir (base ++ ".json") path) ∧
    (∀ e, pathOf dir name = .error e ↔
      ∃ base, LessEnding name base ∧ ¬ Confined base ∧ e = .badName base) ∧
    (∀ name' path path', pathOf dir name = .ok path → pathOf dir name' = .ok path' →
      (path = path' ↔ ∃ base, LessEnding name base ∧ LessEnding name' base)) := by
  simp only [lessEnding_iff, exists_eq_left]
  refine ⟨fun _ h => h, fun path => ?_, fun e => pathOf_eq_error,
    fun name' path path' hok hok' => ?_⟩
  · rw [pathOf_eq_ok]
    constructor
    · rintro ⟨hname, rfl⟩
      exact ⟨hname, rfl, child_of_confined hname⟩
    · rintro ⟨hname, rfl, -⟩
      exact ⟨hname, rfl⟩
  · obtain ⟨hname, rfl⟩ := pathOf_eq_ok.mp hok
    obtain ⟨hname', rfl⟩ := pathOf_eq_ok.mp hok'
    constructor
    · intro heq
      have hfile := joined_injective (slash_not_mem hname) (slash_not_mem hname') heq
      have hdrop := congrArg dropEnding hfile
      rwa [dropEnding_append, dropEnding_append] at hdrop
    · intro h
      rw [h]

end Workspace

end Sketchflow
