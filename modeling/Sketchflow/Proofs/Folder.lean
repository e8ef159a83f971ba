import Mathlib.Data.List.Induction
import Mathlib.Tactic.Common
import Sketchflow.Folder

/-!
# Files that are read back

Writing a file and moving it changes what is at one or two locations, and takes away no folder. So
every path that led somewhere still leads there.

* `Keeps`: all folders are still there. `walk_keeps` follows a path through them, name by name.
* `locate_of_spot`: the place of a new entry is where its path leads.
* `write_eq_ok`, `move_eq_ok`: what the two operations ask for, and what they do.
* **`read_moved`**: a file that was written and moved is read back.
-/

namespace Sketchflow

open List Text

variable {bytes : ByteArray} {k l l' : Location} {p : Path}

/-! ## Paths -/

namespace Path

theorem dropEmpty_concat (names : List String) (name : String) :
    dropEmpty (names ++ [name]) = if name = "" then dropEmpty names else names ++ [name] := by
  unfold dropEmpty
  rw [reverse_append, reverse_singleton, singleton_append, dropWhile_cons]
  by_cases h : name = "" <;> simp [h]

theorem split?_of_last {names : List String} {name : String}
    (h : p.names = names ++ [name]) (hname : name ≠ "") :
    p.split? = some ({ p with names := dropEmpty names }, name) := by
  rw [split?, h, dropEmpty_concat, if_neg hname, getLast?_concat]
  simp

theorem exists_last (hne : p.names ≠ []) (hslash : p.endsInSlash = false) :
    ∃ names name, p.names = names ++ [name] ∧ name ≠ "" := by
  refine ⟨p.names.dropLast, p.names.getLast hne, (dropLast_concat_getLast hne).symm, ?_⟩
  intro h
  rw [endsInSlash, getLast?_eq_some_getLast hne, h] at hslash
  cases hslash

end Path

namespace Folder

variable {f f' : Folder}

/-! ## Entries -/

theorem find?_filter_ne {entries : List (Location × Entry)} (h : k ≠ l) :
    (entries.filter fun e => e.1 != l).find? (fun e => e.1 == k) =
      entries.find? fun e => e.1 == k := by
  rw [find?_filter]
  congr 1
  funext e
  by_cases he : e.1 = k
  · simp [he, h]
  · simp [he]

/-- Whether a location leads to the folder, so that a folder has to be there. -/
def isAbove (f : Folder) (l : Location) : Bool :=
  l.length < f.location.length && l.isPrefixOf f.location

theorem entry?_eq (f : Folder) (l : Location) :
    f.entry? l = if f.isAbove l then some .folder
      else (f.entries.find? fun e => e.1 == l).map (·.2) :=
  rfl

theorem entry?_erase (h : k ≠ l) : entry? (f.erase l) k = f.entry? k := by
  rw [entry?_eq, entry?_eq, erase, find?_filter_ne h]
  rfl

theorem entry?_put (h : k ≠ l) (e : Entry) : entry? (f.put l e) k = f.entry? k := by
  have hne : (l == k) = false := by simpa using Ne.symm h
  rw [← entry?_erase (f := f) h, entry?_eq, entry?_eq, put, find?_cons, hne]
  rfl

theorem isAbove_eq_false (h : f.isFolderAt l = false) : f.isAbove l = false := by
  rw [Bool.eq_false_iff]
  intro habove
  rw [isFolderAt, entry?_eq, if_pos habove] at h
  cases h

theorem entry?_put_self (h : f.isFolderAt l = false) (e : Entry) :
    entry? (f.put l e) l = some e := by
  have habove : (f.put l e).isAbove l = false := isAbove_eq_false (f := f) h
  rw [entry?_eq, habove, put, find?_cons, beq_self_eq_true]
  rfl

theorem entry?_erase_self (h : f.isFolderAt l = false) :
    entry? (f.erase l) l = none := by
  have habove : (f.erase l).isAbove l = false := isAbove_eq_false (f := f) h
  have hnone : (f.entries.filter fun e => e.1 != l).find? (fun e => e.1 == l) = none := by
    rw [find?_eq_none]
    intro e he
    simpa using (mem_filter.mp he).2
  rw [entry?_eq, habove, erase, hnone]
  rfl

theorem isFolderAt_eq_true : f.isFolderAt l = true ↔ f.entry? l = some .folder := by
  unfold isFolderAt
  split <;> simp_all

theorem needFolder_eq_ok : f.needFolder l = .ok () ↔ f.isFolderAt l = true := by
  unfold needFolder isFolderAt
  cases f.entry? l with
  | none => simp
  | some e => cases e <;> simp

theorem isFolderAt_of_file (h : f.entry? l = some (.file bytes)) :
    f.isFolderAt l = false := by
  rw [isFolderAt, h]

theorem isFolderAt_erase (hk : f.isFolderAt k = false) (hl : f.isFolderAt l = false) :
    (f.erase k).isFolderAt l = false := by
  by_cases h : l = k
  · subst h
    rw [isFolderAt, entry?_erase_self hl]
  · rw [isFolderAt, entry?_erase h]
    exact hl

/-! ## Folders that stay -/

/-- All folders are still there. -/
structure Keeps (f f' : Folder) : Prop where
  location : f'.location = f.location
  folders : ∀ l, f.isFolderAt l = true → f'.isFolderAt l = true

theorem Keeps.trans {f'' : Folder} (h : Keeps f f') (h' : Keeps f' f'') : Keeps f f'' :=
  ⟨h'.location.trans h.location, fun l hl => h'.folders l (h.folders l hl)⟩

theorem keeps_put (h : f.isFolderAt l = false) (e : Entry) : Keeps f (f.put l e) := by
  refine ⟨rfl, fun k hk => ?_⟩
  have hne : k ≠ l := by
    rintro rfl
    rw [hk] at h
    cases h
  rw [isFolderAt_eq_true, entry?_put hne]
  exact isFolderAt_eq_true.mp hk

theorem keeps_erase (h : f.isFolderAt l = false) : Keeps f (f.erase l) := by
  refine ⟨rfl, fun k hk => ?_⟩
  have hne : k ≠ l := by
    rintro rfl
    rw [hk] at h
    cases h
  rw [isFolderAt_eq_true, entry?_erase hne]
  exact isFolderAt_eq_true.mp hk

theorem Keeps.isThere (h : Keeps f f') (hthere : f.isThere = true) : f'.isThere = true := by
  rw [Folder.isThere, h.location]
  exact h.folders _ hthere

theorem isFolderAt_put (hk : f.isFolderAt k = false) (hl : f.isFolderAt l = false)
    (bytes : ByteArray) : (f.put k (.file bytes)).isFolderAt l = false := by
  by_cases h : l = k
  · subst h
    exact isFolderAt_of_file (entry?_put_self hl _)
  · rw [isFolderAt, entry?_put h]
    exact hl

/-! ## Following paths -/

theorem step_eq_ok {name : String} (h : f.step l name = .ok l') :
    f.isFolderAt l = true ∧ ∀ f' : Folder, f'.isFolderAt l = true → f'.step l name = .ok l' := by
  have hneed : f.needFolder l = .ok () := by
    unfold step at h
    cases hn : f.needFolder l with
    | ok _ => rfl
    | error p => rw [hn] at h; cases h
  refine ⟨needFolder_eq_ok.mp hneed, fun f' hf' => ?_⟩
  unfold step at h ⊢
  rw [hneed] at h
  rw [needFolder_eq_ok.mpr hf']
  exact h

theorem walk_keeps (h : Keeps f f') (names : List String)
    (hwalk : names.foldlM f.step l = .ok l') : names.foldlM f'.step l = .ok l' := by
  induction names generalizing l with
  | nil => exact hwalk
  | cons name names ih =>
    rw [foldlM_cons] at hwalk ⊢
    cases hstep : f.step l name with
    | error p => rw [hstep] at hwalk; cases hwalk
    | ok k =>
      rw [hstep] at hwalk
      obtain ⟨hl, hstep'⟩ := step_eq_ok hstep
      rw [hstep' f' (h.folders l hl)]
      exact ih hwalk

theorem locate_eq_ok :
    f.locate p = .ok l ↔ checkPath p = .ok () ∧ p.names.foldlM f.step (f.start p) = .ok l := by
  unfold locate
  cases checkPath p with
  | ok _ => exact ⟨fun h => ⟨rfl, h⟩, fun h => h.2⟩
  | error _ => exact ⟨nofun, nofun⟩

theorem locate_keeps (h : Keeps f f') (hl : f.locate p = .ok l) :
    f'.locate p = .ok l := by
  rw [locate_eq_ok] at hl ⊢
  refine ⟨hl.1, ?_⟩
  have hstart : f'.start p = f.start p := by rw [start, start, h.location]
  rw [hstart]
  exact walk_keeps h p.names hl.2

theorem walk_dropEmpty (names : List String) (hl' : f.isFolderAt l' = true)
    (h : (Path.dropEmpty names).foldlM f.step l = .ok l') : names.foldlM f.step l = .ok l' := by
  induction names using List.reverseRecOn with
  | nil => exact h
  | append_singleton names name ih =>
    rw [Path.dropEmpty_concat] at h
    split at h
    · rename_i hname
      rw [foldlM_append, ih h]
      subst hname
      show f.step l' "" >>= pure = _
      rw [step, needFolder_eq_ok.mpr hl']
      rfl
    · exact h

/-- **The place of a new entry is where its path leads.** -/
theorem locate_of_spot (hne : p.names ≠ []) (hslash : p.endsInSlash = false)
    (h : f.spot p = .ok (.named l)) : f.locate p = .ok l := by
  obtain ⟨names, name, hnames, hname⟩ := Path.exists_last hne hslash
  rw [spot, Path.split?_of_last hnames hname] at h
  rw [locate_eq_ok, hnames, foldlM_append]
  cases hcheck : checkPath p with
  | error _ => rw [hcheck] at h; cases h
  | ok _ =>
    rw [hcheck] at h
    refine ⟨rfl, ?_⟩
    cases hwalk : (Path.dropEmpty names).foldlM f.step (f.start p) with
    | error _ =>
      have hwalk' : (Path.dropEmpty names).foldlM f.step
        (f.start { p with names := Path.dropEmpty names }) = _ := hwalk
      simp only [bind, Except.bind, hwalk'] at h
      cases h
    | ok k =>
      have hwalk' : (Path.dropEmpty names).foldlM f.step
        (f.start { p with names := Path.dropEmpty names }) = _ := hwalk
      simp only [bind, Except.bind, hwalk'] at h
      cases hstep : f.step k name with
      | error _ => rw [hstep] at h; cases h
      | ok k' =>
        rw [hstep] at h
        rw [walk_dropEmpty names (step_eq_ok hstep).1 hwalk]
        show f.step k name >>= pure = _
        rw [hstep]
        simp only at h
        split at h
        · cases h
        · cases h
          rfl

/-! ## Operations -/

theorem write_eq_ok (h : f.write p bytes = .ok f') :
    ∃ l, f.spot p = .ok (.named l) ∧ p.names ≠ [] ∧ p.endsInSlash = false ∧
      f.isFolderAt l = false ∧ f' = f.put l (.file bytes) := by
  unfold write failing at h
  cases hspot : f.spot p with
  | error _ => rw [hspot] at h; cases h
  | ok s =>
    rw [hspot] at h
    cases s with
    | nameless => cases h
    | named l =>
      simp only [bind, Except.bind] at h
      split at h
      · rename_i hput
        split at hput
        · cases hput
        · rename_i hfree
          simp only [Bool.or_eq_true, not_or, Bool.not_eq_true] at hfree
          cases hput
          cases h
          exact ⟨l, rfl, by simpa using hfree.1.2, hfree.1.1, hfree.2, rfl⟩
      · cases h

theorem move_eq_ok {target : Path} (h : f.move p target = .ok f') :
    ∃ s l bytes, f.locate p = .ok s ∧ f.spot target = .ok (.named l) ∧
      f.entry? s = some (.file bytes) ∧ target.endsInSlash = false ∧ f.isFolderAt l = false ∧
      f' = (f.erase s).put l (.file bytes) := by
  unfold move at h
  cases hlocate : f.locate p with
  | error _ => rw [hlocate] at h; cases h
  | ok s =>
    cases hspot : f.spot target with
    | error _ => rw [hlocate, hspot] at h; cases h
    | ok spot =>
      rw [hlocate, hspot] at h
      cases spot with
      | nameless => cases h
      | named l =>
        simp only [bind, Except.bind] at h
        cases hentry : f.entry? s with
        | none => rw [hentry] at h; cases h
        | some e =>
          cases e with
          | folder => rw [hentry] at h; cases h
          | file bytes =>
            rw [hentry] at h
            simp only at h
            split at h
            · rename_i hput
              split at hput
              · cases hput
              · split at hput
                · cases hput
                · rename_i hslash hfree
                  cases hput
                  cases h
                  exact ⟨s, l, bytes, rfl, rfl, hentry, by simpa using hslash,
                    by simpa using hfree, rfl⟩
            · cases h

theorem read_of_locate (hl : f.locate p = .ok l)
    (he : f.entry? l = some (.file bytes)) : f.read p = .ok bytes := by
  unfold read failing
  rw [hl]
  simp only [bind, Except.bind, he]

/-- **A file that was written and moved is read back.** -/
theorem read_moved {f₁ f₂ : Folder} {target : Path}
    (hwrite : f.write p bytes = .ok f₁) (hmove : f₁.move p target = .ok f₂)
    (hne : target.names ≠ []) : f₂.read target = .ok bytes := by
  obtain ⟨s, hs, hp, hslash, hfree, rfl⟩ := write_eq_ok hwrite
  obtain ⟨s', l, bytes', hs', hl, hentry, hslash', hfree', rfl⟩ := move_eq_ok hmove
  -- What is moved is what was written.
  have hlocate := locate_keeps (keeps_put hfree (.file bytes)) (locate_of_spot hp hslash hs)
  rw [hs'] at hlocate
  obtain rfl : s' = s := Except.ok.inj hlocate
  have hbytes := entry?_put_self hfree (.file bytes)
  rw [hentry] at hbytes
  obtain rfl : bytes' = bytes := by cases hbytes; rfl
  -- The way to the target is as it was.
  have hsource := isFolderAt_of_file hentry
  have hfree'' := isFolderAt_erase hsource hfree'
  have hkeep := (keeps_erase hsource).trans (keeps_put hfree'' (.file bytes'))
  exact read_of_locate (locate_keeps hkeep (locate_of_spot hne hslash' hl))
    (entry?_put_self hfree'' (.file bytes'))

/-! ## Names in the folder -/

/-- A name that is not empty and no way to another folder. -/
structure Proper (name : String) : Prop where
  ne_empty : name ≠ ""
  ne_here : name ≠ "."
  ne_up : name ≠ ".."

/-- A proper name that is not too long. -/
structure Fits (name : String) : Prop extends Proper name where
  size : name.utf8ByteSize ≤ nameBound
  null : '\x00' ∉ name.toList

variable {name : String}

theorem checkPath_eq_ok (hnull : '\x00' ∉ (joinWith "/" p.names).toList)
    (hsize : (joinWith "/" p.names).utf8ByteSize ≤ pathBound) : checkPath p = .ok () := by
  have hcontains : (joinWith "/" p.names).contains '\x00' = false := by
    rw [String.contains_char_eq, decide_eq_false_iff_not]
    exact hnull
  unfold checkPath
  simp only [hcontains]
  rw [if_neg Bool.false_ne_true, if_neg (Nat.not_lt.mpr hsize)]

theorem checkPath_single (hname : Fits name) : checkPath (.single name) = .ok () := by
  refine checkPath_eq_ok hname.null (Nat.le_trans hname.size ?_)
  decide

theorem checkPath_here : checkPath { names := [] } = .ok () :=
  checkPath_eq_ok (by decide) (by decide)

theorem step_of_fits (hl : f.isFolderAt l = true) (hname : Fits name) :
    f.step l name = .ok (l ++ [name]) := by
  have hsize : ¬ nameBound < name.utf8ByteSize := Nat.not_lt.mpr hname.size
  rw [step, needFolder_eq_ok.mpr hl]
  simp [hname.ne_empty, hname.ne_here, hname.ne_up, hsize, bind, Except.bind]

theorem spot_single (hthere : f.isThere = true) (hname : Fits name) :
    f.spot (.single name) = .ok (.named (f.location ++ [name])) := by
  have hnames : (Path.single name).names = [] ++ [name] := rfl
  have hsplit : (Path.single name).split? = some ({ names := [] }, name) :=
    Path.split?_of_last hnames hname.ne_empty
  have hstep := step_of_fits hthere hname
  rw [spot, checkPath_single hname, hsplit]
  have hstart : f.start { names := [] } = f.location := rfl
  simp [bind, Except.bind, pure, Except.pure, hstart, hstep, hname.ne_here, hname.ne_up]

theorem endsInSlash_single (hname : Proper name) : (Path.single name).endsInSlash = false := by
  simpa [Path.endsInSlash, Path.single] using hname.ne_empty

theorem locate_single (hthere : f.isThere = true) (hname : Fits name) :
    f.locate (.single name) = .ok (f.location ++ [name]) :=
  locate_of_spot (by simp [Path.single]) (endsInSlash_single hname.toProper)
    (spot_single hthere hname)

theorem write_single (hthere : f.isThere = true) (hname : Fits name)
    (hfree : f.isFolderAt (f.location ++ [name]) = false) (bytes : ByteArray) :
    f.write (.single name) bytes = .ok (f.put (f.location ++ [name]) (.file bytes)) := by
  have hempty : (Path.single name).names.isEmpty = false := rfl
  unfold write failing
  rw [spot_single hthere hname]
  simp [bind, Except.bind, endsInSlash_single hname.toProper, hempty, hfree]

theorem step_proper (hname : Proper name) (h : f.step l name = .ok l') :
    l' = l ++ [name] := by
  unfold step at h
  cases hneed : f.needFolder l with
  | error _ => rw [hneed] at h; cases h
  | ok _ =>
    rw [hneed] at h
    simp only [bind, Except.bind, hname.ne_empty, hname.ne_here, hname.ne_up, beq_iff_eq, if_false,
      Bool.or_eq_true, or_self] at h
    split at h
    · cases h
    · exact (Except.ok.inj h).symm

theorem locate_proper (hname : Proper name) (h : f.locate (.single name) = .ok l) :
    f.isThere = true ∧ l = f.location ++ [name] := by
  obtain ⟨-, hwalk⟩ := locate_eq_ok.mp h
  have hwalk' : (f.step f.location name >>= fun k => pure k) = Except.ok l := hwalk
  cases hstep : f.step f.location name with
  | error _ => rw [hstep] at hwalk'; cases hwalk'
  | ok k =>
    rw [hstep] at hwalk'
    cases hwalk'
    exact ⟨(step_eq_ok hstep).1, step_proper hname hstep⟩

theorem fits_of_locate (hname : Proper name) (h : f.locate (.single name) = .ok l) :
    Fits name := by
  obtain ⟨hcheck, hwalk⟩ := locate_eq_ok.mp h
  refine ⟨hname, ?_, fun hmem => ?_⟩
  · rw [← Nat.not_lt]
    intro hsize
    have hstep : ∀ l', f.step f.location name ≠ .ok l' := by
      intro l' hstep
      unfold step at hstep
      rw [needFolder_eq_ok.mpr (step_eq_ok hstep).1] at hstep
      simp [bind, Except.bind, hname.ne_empty, hname.ne_here, hname.ne_up, hsize] at hstep
    have hwalk' : (f.step f.location name >>= fun k => pure k) = Except.ok l := hwalk
    cases hk : f.step f.location name with
    | error _ => rw [hk] at hwalk'; cases hwalk'
    | ok k => exact hstep k hk
  · have hcontains : (joinWith "/" [name]).contains '\x00' = true := by
      rw [String.contains_char_eq, decide_eq_true_iff]
      exact hmem
    unfold checkPath at hcheck
    simp only [Path.single, hcontains, if_true] at hcheck
    cases hcheck

theorem spot_proper (hname : Proper name)
    (h : f.spot (.single name) = .ok (.named l)) : l = f.location ++ [name] :=
  (locate_proper hname (locate_of_spot (by simp [Path.single]) (endsInSlash_single hname) h)).2

theorem entry?_of_read (hname : Proper name) (h : f.read (.single name) = .ok bytes) :
    f.isThere = true ∧ f.entry? (f.location ++ [name]) = some (.file bytes) := by
  unfold read failing at h
  cases hl : f.locate (.single name) with
  | error _ => rw [hl] at h; cases h
  | ok l =>
    obtain ⟨hthere, rfl⟩ := locate_proper hname hl
    rw [hl] at h
    refine ⟨hthere, ?_⟩
    simp only [bind, Except.bind] at h
    cases he : f.entry? (f.location ++ [name]) with
    | none => rw [he] at h; cases h
    | some e =>
      rw [he] at h
      cases e with
      | folder => cases h
      | file bytes' => cases h; rfl

theorem checkPath_ne_nullCharacter {problem : Problem}
    (hnull : '\x00' ∉ (joinWith "/" p.names).toList) (h : checkPath p = .error problem) :
    problem ≠ .nullCharacter := by
  have hcontains : (joinWith "/" p.names).contains '\x00' = false := by
    rw [String.contains_char_eq, decide_eq_false_iff_not]
    exact hnull
  unfold checkPath at h
  simp only [hcontains] at h
  rw [if_neg Bool.false_ne_true] at h
  split at h <;> cases h
  exact nofun

theorem step_ne_nullCharacter {problem : Problem} (h : f.step l name = .error problem) :
    problem ≠ .nullCharacter := by
  unfold step needFolder at h
  cases he : f.entry? l with
  | none => rw [he] at h; cases h; exact nofun
  | some e =>
    rw [he] at h
    cases e with
    | file bytes => cases h; exact nofun
    | folder =>
      simp only [bind, Except.bind] at h
      repeat' split at h
      all_goals cases h
      exact nofun

theorem read_missing (hname : Proper name) (hnull : '\x00' ∉ name.toList)
    (hmissing : f.entry? (f.location ++ [name]) = none) :
    ∃ fault, f.read (.single name) = .error fault ∧ fault.problem ≠ .nullCharacter := by
  unfold read failing
  cases hl : f.locate (.single name) with
  | ok l =>
    obtain ⟨-, rfl⟩ := locate_proper hname hl
    simp only [bind, Except.bind, hmissing]
    exact ⟨_, rfl, nofun⟩
  | error problem =>
    refine ⟨_, rfl, ?_⟩
    unfold locate at hl
    cases hcheck : checkPath (.single name) with
    | error _ =>
      rw [hcheck] at hl
      cases hl
      exact checkPath_ne_nullCharacter (p := .single name) hnull hcheck
    | ok _ =>
      rw [hcheck] at hl
      have hwalk : (f.step f.location name >>= fun k => pure k) = Except.error problem := hl
      cases hstep : f.step f.location name with
      | error _ =>
        rw [hstep] at hwalk
        cases hwalk
        exact step_ne_nullCharacter hstep
      | ok _ => rw [hstep] at hwalk; cases hwalk

theorem under?_eq_some : f.under? l = some [name] ↔ l = f.location ++ [name] := by
  unfold under?
  constructor
  · intro h
    split at h
    · rename_i hp
      obtain ⟨hstart, -⟩ := Bool.and_eq_true_iff.mp hp
      obtain ⟨t, rfl⟩ := List.isPrefixOf_iff_prefix.mp hstart
      rw [drop_left] at h
      rw [Option.some.inj h]
    · cases h
  · rintro rfl
    simp

theorem mem_names : name ∈ f.names ↔ (f.entry? (f.location ++ [name])).isSome = true := by
  have habove : f.isAbove (f.location ++ [name]) = false := by
    rw [isAbove, Bool.and_eq_false_iff, decide_eq_false_iff_not, length_append]
    exact .inl (by omega)
  rw [entry?_eq, habove, if_neg Bool.false_ne_true, Option.isSome_map, find?_isSome, names,
    mem_filterMap]
  refine exists_congr fun e => and_congr_right fun _ => ?_
  rw [beq_iff_eq, ← under?_eq_some]
  constructor
  · intro h
    split at h
    · rename_i other heq
      rw [heq, Option.some.inj h]
    · cases h
  · intro h
    rw [h]

end Folder

end Sketchflow
