import Sketchflow.Proofs.Json.Faults
import Sketchflow.Proofs.Workspace

/-!
# Loading a workspace

A file that holds a document is loaded. For any other there is a failure, and then nothing changes,
but the failure is not always one of workspaces.

* `Holds` is what it is for a file to hold a document.
* `Stray` are the cases in which the failure is another one: no path, no text, and an integer of
  more digits than are read.
* **`load_outcome`**: a file is loaded if it holds a document; a failure changes nothing, and it is
  one of workspaces except in those cases.
-/

namespace Sketchflow

open List Text

/-! ## Texts -/

theorem Utf8.decode_eq_ok {bytes : ByteArray} {text : String} :
    Utf8.decode bytes = .ok text ↔ bytes = text.toUTF8 := by
  refine ⟨fun h => ?_, fun h => h ▸ Utf8.decode_toUTF8 text⟩
  unfold decode String.fromUTF8? at h
  by_cases hvalid : bytes.IsValidUTF8
  · rw [dif_pos hvalid] at h
    cases h
    rfl
  · rw [dif_neg hvalid] at h
    cases h

theorem eq_of_toUTF8 {text text' : String} (h : text.toUTF8 = text'.toUTF8) : text = text' := by
  have hdecode := Utf8.decode_toUTF8 text
  rw [h, Utf8.decode_toUTF8] at hdecode
  exact (Except.ok.inj hdecode).symm

namespace Text

theorem unifyLineEndsFrom_append (acc cs : List Char) : ∀ before : List Char,
    unifyLineEndsFrom (acc ++ before) cs = before.reverse ++ unifyLineEndsFrom acc cs := by
  fun_induction unifyLineEndsFrom acc cs with
  | case1 acc => intro before; simp [unifyLineEndsFrom]
  | case2 acc rest ih => intro before; simpa [unifyLineEndsFrom] using ih before
  | case3 acc c rest hpair ih =>
    intro before
    rw [unifyLineEndsFrom]
    · exact ih before
    · exact hpair

theorem digits_cons {digits cs rest rest' : List Char} {c c' : Char}
    (hdigits : Script.AreDigits digits)
    (hc : c' = c ∧ cs = c :: rest ∨ c'.isDigit = false ∧ rest <:+ cs)
    (ih : ∀ digits, Script.AreDigits digits →
      (digits <+: rest' → digits <+: rest) ∧ (digits <:+: rest' → digits <:+: rest)) :
    (digits <+: c' :: rest' → digits <+: cs) ∧ (digits <:+: c' :: rest' → digits <:+: cs) := by
  have hfront : digits <+: c' :: rest' → digits <+: cs := by
    intro h
    cases digits with
    | nil => exact nil_prefix
    | cons d ds =>
      obtain ⟨rfl, hds⟩ := cons_prefix_cons.mp h
      obtain ⟨hd, hrest⟩ := forall_mem_cons.mp hdigits
      rcases hc with ⟨rfl, rfl⟩ | ⟨hno, -⟩
      · exact cons_prefix_cons.mpr ⟨rfl, (ih ds hrest).1 hds⟩
      · rw [hno] at hd
        cases hd
  refine ⟨hfront, fun h => ?_⟩
  rcases infix_cons_iff.mp h with h | h
  · exact (hfront h).isInfix
  · have hrest := (ih digits hdigits).2 h
    rcases hc with ⟨-, rfl⟩ | ⟨-, hsuffix⟩
    · exact hrest.trans (suffix_cons c rest).isInfix
    · exact hrest.trans hsuffix.isInfix

/-- Digits in a text whose line ends were unified are in the text itself. -/
theorem digits_of_unifyLineEndsFrom (acc cs : List Char) : ∀ digits, Script.AreDigits digits →
    (digits <+: unifyLineEndsFrom [] cs → digits <+: cs) ∧
    (digits <:+: unifyLineEndsFrom [] cs → digits <:+: cs) := by
  fun_induction unifyLineEndsFrom acc cs with
  | case1 acc => exact fun digits _ => ⟨id, id⟩
  | case2 acc rest ih =>
    intro digits hdigits
    have hstep : unifyLineEndsFrom [] ('\r' :: '\n' :: rest) =
        '\n' :: unifyLineEndsFrom [] rest := by
      rw [unifyLineEndsFrom]
      exact unifyLineEndsFrom_append [] rest ['\n']
    rw [hstep]
    exact digits_cons (c := '\r') hdigits (.inr ⟨rfl, ['\r', '\n'], rfl⟩) ih
  | case3 acc c rest hpair ih =>
    intro digits hdigits
    have hstep : unifyLineEndsFrom [] (c :: rest) =
        (if c == '\r' then '\n' else c) :: unifyLineEndsFrom [] rest := by
      rw [unifyLineEndsFrom]
      · exact unifyLineEndsFrom_append [] rest [_]
      · exact hpair
    rw [hstep]
    refine digits_cons (c := c) hdigits ?_ ih
    split
    · exact .inr ⟨rfl, suffix_cons c rest⟩
    · exact .inl ⟨rfl, rfl⟩

end Text

theorem Json.HasLongRun.of_unified {text : String}
    (h : HasLongRun (unifyLineEnds text).toList) : HasLongRun text.toList := by
  obtain ⟨digits, hpart, hdigits, hlong⟩ := h
  rw [unifyLineEnds, String.toList_ofList] at hpart
  exact ⟨digits, (digits_of_unifyLineEndsFrom [] _ digits hdigits).2 hpart, hdigits, hlong⟩

/-! ## Paths -/

namespace Folder

variable {f : Folder} {path : Path}

theorem walk_ne_nullCharacter (names : List String) {l : Location} {problem : Problem}
    (h : names.foldlM f.step l = .error problem) : problem ≠ .nullCharacter := by
  induction names generalizing l with
  | nil => cases h
  | cons name names ih =>
    rw [foldlM_cons] at h
    cases hstep : f.step l name with
    | error _ =>
      rw [hstep] at h
      cases h
      exact step_ne_nullCharacter hstep
    | ok l' =>
      rw [hstep] at h
      exact ih h

/-- The problem of a path is a character of code zero if it has one. -/
theorem read_nullCharacter :
    (∃ fault, f.read path = .error fault ∧ fault.problem = .nullCharacter) ↔
      '\x00' ∈ (joinWith "/" path.names).toList := by
  have hcheck : checkPath path = .error .nullCharacter ↔
      '\x00' ∈ (joinWith "/" path.names).toList := by
    constructor
    · intro h
      by_contra hnull
      exact checkPath_ne_nullCharacter hnull h rfl
    · intro h
      have hcontains : (joinWith "/" path.names).contains '\x00' = true := by
        rw [String.contains_char_eq, decide_eq_true_eq]
        exact h
      simp [checkPath, hcontains]
  rw [← hcheck]
  unfold read failing locate
  cases hc : checkPath path with
  | error problem => simp [bind, Except.bind]
  | ok _ =>
    simp only [bind, Except.bind]
    cases hw : path.names.foldlM f.step (f.start path) with
    | error problem => simpa using walk_ne_nullCharacter _ hw
    | ok l =>
      cases he : f.entry? l with
      | none => simp [he]
      | some e => cases e <;> simp [he]

end Folder

/-! ## Loading -/

namespace Workspace

variable {f : Folder} {path : Path}

/-- The file at a path holds a document. -/
def Holds (f : Folder) (path : Path) (doc : Value) : Prop :=
  ∃ text : String, f.read path = .ok text.toUTF8 ∧ Json.read (unifyLineEnds text) = .ok doc

/-- Why a file is not loaded for another reason than those of workspaces. -/
inductive Stray (f : Folder) (path : Path) : Prop
  | noPath : '\x00' ∈ (joinWith "/" path.names).toList → Stray f path
  /-- The bytes in it are those of no text. -/
  | notText {bytes : ByteArray} :
    f.read path = .ok bytes → (∀ text : String, bytes ≠ text.toUTF8) → Stray f path
  /-- Its text is not read though the grammar is kept. -/
  | hugeInteger {text : String} {fault : Json.Fault} : f.read path = .ok text.toUTF8 →
    Json.read (unifyLineEnds text) = .error fault → fault.isSyntax = false → Stray f path

theorem readDoc_of_holds {doc : Value} (h : Holds f path doc) : readDoc f path = .ok doc := by
  obtain ⟨text, hread, hdoc⟩ := h
  rw [readDoc, hread]
  simp only [Utf8.decode_toUTF8, hdoc]

/-- **What came of a file that holds no document.** -/
theorem readDoc_cases (f : Folder) (path : Path) :
    (∃ doc, Holds f path doc) ∨
      ∃ e, readDoc f path = .error e ∧ (e.isExpected = false ↔ Stray f path) := by
  have hnull : (∃ fault, f.read path = .error fault ∧ fault.problem = .nullCharacter) ↔
      '\x00' ∈ (joinWith "/" path.names).toList := Folder.read_nullCharacter
  cases hread : f.read path with
  | error fault =>
    have hstray : Stray f path ↔ fault.problem = .nullCharacter := by
      rw [hread] at hnull
      constructor
      · rintro (h | ⟨h, -⟩ | ⟨h, -, -⟩)
        · obtain ⟨fault', heq, hproblem⟩ := hnull.mpr h
          cases heq
          exact hproblem
        · rw [hread] at h
          cases h
        · rw [hread] at h
          cases h
      · exact fun h => .noPath (hnull.mp ⟨fault, rfl, h⟩)
    right
    rw [hstray]
    by_cases hproblem : fault.problem = .nullCharacter
    · simp [readDoc, hread, hproblem, Failure.isExpected]
    · simp [readDoc, hread, hproblem, Failure.isExpected]
  | ok bytes =>
    have hpath : '\x00' ∉ (joinWith "/" path.names).toList := by
      intro h
      obtain ⟨fault, heq, -⟩ := hnull.mpr h
      rw [hread] at heq
      cases heq
    cases htext : Utf8.decode bytes with
    | error fault =>
      refine .inr ⟨.notText fault, by simp only [readDoc, hread, htext],
        fun _ => .notText hread fun text h => ?_, fun _ => rfl⟩
      rw [Utf8.decode_eq_ok.mpr h] at htext
      cases htext
    | ok text =>
      obtain rfl := Utf8.decode_eq_ok.mp htext
      cases hdoc : Json.read (unifyLineEnds text) with
      | ok doc => exact .inl ⟨doc, text, hread, hdoc⟩
      | error fault =>
        have hstray : Stray f path ↔ fault.isSyntax = false := by
          constructor
          · rintro (h | ⟨h, hne⟩ | @⟨text', fault', h, herror, hsyntax⟩)
            · exact absurd h hpath
            · rw [hread] at h
              cases h
              exact absurd rfl (hne text)
            · rw [hread] at h
              rw [← eq_of_toUTF8 (Except.ok.inj h), hdoc] at herror
              cases herror
              exact hsyntax
          · exact fun h => .hugeInteger hread hdoc h
        right
        rw [hstray]
        simp only [readDoc, hread, htext, hdoc]
        cases hsyntax : fault.isSyntax <;> simp [Failure.isExpected]

end Workspace

/-- **What comes of loading a file**, whatever is in it. If it holds a document, the graph becomes
the one of the document. If not, there is a failure and nothing changes. The failure is one of
workspaces unless the file is stray, which a file that cannot be read is not, nor is one that holds
a text without a long run of digits. -/
theorem Studio.load_outcome (w : Studio) (path : Path) :
    (∀ doc, Workspace.Holds w.folder path doc →
      w.load path = (.ok (w.loadDoc doc).2, (w.loadDoc doc).1)) ∧
    ((¬ ∃ doc, Workspace.Holds w.folder path doc) → ∃ e, w.load path = (.error e, w) ∧
      (e.isExpected = false ↔ Workspace.Stray w.folder path)) ∧
    (Workspace.Stray w.folder path → '\x00' ∉ (Text.joinWith "/" path.names).toList →
      ∃ bytes, w.folder.read path = .ok bytes ∧
        ∀ text : String, bytes = text.toUTF8 → Json.HasLongRun text.toList) := by
  refine ⟨fun doc h => load_of_readDoc (Workspace.readDoc_of_holds h), fun hnone => ?_,
    fun hstray hpath => ?_⟩
  · obtain h | ⟨e, he, hexpected⟩ := Workspace.readDoc_cases w.folder path
    · exact absurd h hnone
    · refine ⟨e, ?_, hexpected⟩
      rw [load, Workspace.load, he]
      rfl
  · rcases hstray with h | @⟨bytes, h, hne⟩ | @⟨text, fault, h, herror, hsyntax⟩
    · exact absurd h hpath
    · exact ⟨bytes, h, fun text heq => absurd heq (hne text)⟩
    · refine ⟨_, h, fun text' heq => ?_⟩
      exact eq_of_toUTF8 heq ▸ (Json.hasLongRun_of_read herror hsyntax).of_unified

/-- A file of one byte that starts no character is not loaded, and the failure is not one of
workspaces. -/
theorem Studio.load_outcome_badByte :
    let folder : Folder := { name := "", entries := [(["here", "folder"], .folder),
      (["here", "folder", "demo.json"], .file ⟨#[0xff]⟩)] }
    let w : Studio := { palette := .standard, settings := { workspaceDir := "" }, folder }
    ∃ e, w.load (.single "demo.json") = (.error e, w) ∧ e.isExpected = false := by
  intro folder w
  have hname : Folder.Fits "demo.json" := ⟨⟨by decide, by decide, by decide⟩, by decide, by decide⟩
  have hread : folder.read (.single "demo.json") = .ok ⟨#[0xff]⟩ :=
    Folder.read_of_locate (Folder.locate_single (by decide +kernel) hname) rfl
  have hbytes : ∀ text : String, (⟨#[0xff]⟩ : ByteArray) ≠ text.toUTF8 := by
    intro text h
    have hdecode := Utf8.decode_eq_ok.mpr h
    have hinvalid : ¬ (⟨#[0xff]⟩ : ByteArray).IsValidUTF8 := by decide
    rw [Utf8.decode, String.fromUTF8?, dif_neg hinvalid] at hdecode
    cases hdecode
  have hnone : ¬ ∃ doc, Workspace.Holds folder (.single "demo.json") doc := by
    rintro ⟨doc, text, htext, -⟩
    rw [hread] at htext
    exact hbytes text (Except.ok.inj htext)
  obtain ⟨e, hload, hexpected⟩ := (load_outcome w (.single "demo.json")).2.1 hnone
  exact ⟨e, hload, hexpected.mpr (.notText hread hbytes)⟩

end Sketchflow
