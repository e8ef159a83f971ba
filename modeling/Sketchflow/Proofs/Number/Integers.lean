import Sketchflow.Proofs.Number.Reading

/-!
# Reading integers

An integer is written in decimal digits of any script, with single underscores between them.

* `digitRun?` finds the digits of such a text; `SpellsDigits` is what it needs of the characters,
  their spacing apart.
* **`readDigits_eq_ok`**: what is read as an integer are the runs of digits that are not too long,
  and it is read as what the digits stand for.
-/

namespace Sketchflow.Number

open List Sketchflow.Text

variable {c : Char} {cs : List Char} {ds : List Nat} {d : Nat}

/-! ## Digits in base ten -/

theorem digitValue?_lt (h : digitValue? c = some d) : d < 10 := by
  unfold digitValue? at h
  split at h
  · split at h
    · rename_i hdigit
      cases h
      exact charValue_lt hdigit
    · cases h
  · obtain ⟨z, hz, rfl⟩ := Option.map_eq_some_iff.mp h
    have hblock := find?_some hz
    simp only [Bool.and_eq_true, decide_eq_true_eq] at hblock
    omega

theorem baseDigit?_cases (c : Char) :
    baseDigit? c = digitValue? c ∨ digitValue? c = none ∧ ∃ d, baseDigit? c = some d ∧ 10 ≤ d := by
  have hletter : ∀ low high : Nat, 57 < low → high < 0x80 → low ≤ c.toNat → c.toNat ≤ high →
      digitValue? c = none := by
    intro low high hlow hhigh hl hh
    have hdigit : c.isDigit = false := by
      cases hc : c.isDigit with
      | false => rfl
      | true =>
        have := range_of_isDigit hc
        omega
    rw [digitValue?, if_pos (by omega), hdigit]
    rfl
  unfold baseDigit?
  split
  · rename_i hlower
    simp only [Char.isLower, Bool.and_eq_true, decide_eq_true_eq, ge_iff_le,
      UInt32.le_iff_toNat_le] at hlower
    exact .inr ⟨hletter 97 122 (by decide) (by decide) hlower.1 hlower.2, _, rfl, by omega⟩
  split
  · rename_i hupper
    simp only [Char.isUpper, decide_eq_true_eq, ge_iff_le, UInt32.le_iff_toNat_le] at hupper
    exact .inr ⟨hletter 65 90 (by decide) (by decide) hupper.1 hupper.2, _, rfl, by omega⟩
  · exact .inl rfl

theorem isDigitOf_ten (c : Char) : isDigitOf 10 c = (digitValue? c).isSome := by
  unfold isDigitOf
  rcases baseDigit?_cases c with h | ⟨hnone, d, h, hd⟩
  · rw [h]
    cases hc : digitValue? c with
    | none => rfl
    | some d => simpa using digitValue?_lt hc
  · rw [h, hnone]
    simpa using hd

theorem baseDigit?_eq (h : digitValue? c = some d) : baseDigit? c = some d := by
  rcases baseDigit?_cases c with hc | ⟨hnone, -⟩
  · rw [hc, h]
  · rw [h] at hnone
    cases hnone

theorem readNatural_ten (cs : List Char) : readNatural 10 cs = readDigits 10 cs := by
  rw [readNatural.eq_def]
  split
  · rename_i mark rest
    cases hmark : markedBase? mark with
    | none => rfl
    | some b =>
      have hbase : b = 16 ∨ b = 8 ∨ b = 2 := by
        unfold markedBase? at hmark
        split at hmark
        · exact .inl (Option.some.inj hmark).symm
        split at hmark
        · exact .inr (.inl (Option.some.inj hmark).symm)
        split at hmark
        · exact .inr (.inr (Option.some.inj hmark).symm)
        · cases hmark
      rcases hbase with rfl | rfl | rfl <;> rfl
  · rfl

theorem digitValue?_ne_underscore (h : digitValue? c = some d) : c ≠ '_' := by
  rintro rfl
  cases h

/-! ## Runs of digits -/

/-- Characters that stand for digits, whatever underscores are among them. -/
structure SpellsDigits (cs : List Char) (ds : List Nat) : Prop where
  chars : ∀ c ∈ cs, c = '_' ∨ ∃ d, digitValue? c = some d
  count : (cs.filter (· != '_')).length = ds.length
  value : ∀ n, cs.foldl (fun n c => if c == '_' then n else 10 * n + (baseDigit? c).getD 0) n =
    ds.foldl (fun n d => 10 * n + d) n
  digits : ∀ d ∈ ds, d < 10

theorem SpellsDigits.nil : SpellsDigits [] [] :=
  ⟨by simp, rfl, fun _ => rfl, by simp⟩

theorem SpellsDigits.underscore (h : SpellsDigits cs ds) : SpellsDigits ('_' :: cs) ds :=
  ⟨fun c hc => (mem_cons.mp hc).elim .inl (h.chars c), h.count, h.value, h.digits⟩

theorem SpellsDigits.cons (hd : digitValue? c = some d)
    (h : SpellsDigits cs ds) : SpellsDigits (c :: cs) (d :: ds) := by
  have hne := digitValue?_ne_underscore hd
  refine ⟨fun e he => ?_, ?_, fun n => ?_, forall_mem_cons.mpr ⟨digitValue?_lt hd, h.digits⟩⟩
  · rcases mem_cons.mp he with rfl | he
    · exact .inr ⟨d, hd⟩
    · exact h.chars e he
  · rw [filter_cons_of_pos (by simpa using hne), length_cons, h.count, length_cons]
  · rw [foldl_cons, foldl_cons, if_neg (by simpa using hne), baseDigit?_eq hd, h.value]
    rfl

/-- A run of digits, with at most one underscore between two of them. -/
inductive DigitRun : List Char → List Nat → Prop where
  | one {c : Char} {d : Nat} (hd : digitValue? c = some d) : DigitRun [c] [d]
  | gap {c : Char} {d : Nat} {cs : List Char} {ds : List Nat} (hd : digitValue? c = some d)
      (hrest : DigitRun cs ds) : DigitRun (c :: '_' :: cs) (d :: ds)
  | next {c : Char} {d : Nat} {cs : List Char} {ds : List Nat} (hd : digitValue? c = some d)
      (hrest : DigitRun cs ds) : DigitRun (c :: cs) (d :: ds)

theorem DigitRun.head (h : DigitRun cs ds) :
    ∃ c rest d, cs = c :: rest ∧ digitValue? c = some d := by
  cases h with
  | one hd => exact ⟨_, _, _, rfl, hd⟩
  | gap hd _ => exact ⟨_, _, _, rfl, hd⟩
  | next hd _ => exact ⟨_, _, _, rfl, hd⟩

theorem digitRun_of_eq_some (h : digitRun? cs = some ds) : DigitRun cs ds := by
  fun_induction digitRun? cs generalizing ds with
  | case1 => cases h
  | case2 c =>
    obtain ⟨d, hd, rfl⟩ := Option.map_eq_some_iff.mp h
    exact .one hd
  | case3 c rest d ds' hds hd ih =>
    cases h
    exact .gap hd (ih hds)
  | case5 c rest _ _ d ds' hds hd ih =>
    cases h
    exact .next hd (ih hds)
  | _ => cases h

theorem spells_of_run (h : digitRun? cs = some ds) : SpellsDigits cs ds := by
  replace h := digitRun_of_eq_some h
  induction h with
  | one hd => exact SpellsDigits.nil.cons hd
  | gap hd _ ih => exact ih.underscore.cons hd
  | next hd _ ih => exact ih.cons hd

theorem spacedFrom_of_ne (hc : c ≠ '_') (free : Bool) (cs : List Char) :
    spacedFrom free (c :: cs) = spacedFrom true cs := by
  rw [spacedFrom, if_neg (by simpa using hc)]

theorem spacedFrom_of_run (h : digitRun? cs = some ds) (free : Bool) :
    spacedFrom free cs = true := by
  replace h := digitRun_of_eq_some h
  induction h generalizing free with
  | one hd =>
    rw [spacedFrom_of_ne (digitValue?_ne_underscore hd)]
    rfl
  | gap hd _ ih =>
    rw [spacedFrom_of_ne (digitValue?_ne_underscore hd)]
    exact ih false
  | next hd _ ih =>
    rw [spacedFrom_of_ne (digitValue?_ne_underscore hd)]
    exact ih true

theorem exists_run (hchars : ∀ c ∈ cs, c = '_' ∨ ∃ d, digitValue? c = some d)
    (hspaced : spacedFrom false cs = true) : ∃ ds, digitRun? cs = some ds := by
  have hfirst : ∀ {c : Char} {cs : List Char},
      (∀ e ∈ c :: cs, e = '_' ∨ ∃ d, digitValue? e = some d) →
      spacedFrom false (c :: cs) = true → ∃ d, digitValue? c = some d := by
    intro c cs hchars hspaced
    refine (hchars c (mem_cons_self ..)).resolve_left ?_
    rintro rfl
    cases hspaced
  fun_induction digitRun? cs with
  | case1 => cases hspaced
  | case2 c =>
    obtain ⟨d, hd⟩ := hfirst hchars hspaced
    exact ⟨[d], by simp [hd]⟩
  | case3 c rest d ds hds hd ih => exact ⟨_, rfl⟩
  | case4 c rest hnone ih =>
    obtain ⟨d, hd⟩ := hfirst hchars hspaced
    rw [spacedFrom_of_ne (digitValue?_ne_underscore hd)] at hspaced
    obtain ⟨ds, hds⟩ := ih (fun e he => hchars e (by simp [he])) hspaced
    exact absurd hds (hnone d ds hd)
  | case5 c rest _ _ d ds hds hd ih => exact ⟨_, rfl⟩
  | case6 c rest hne hunder hnone ih =>
    obtain ⟨d, hd⟩ := hfirst hchars hspaced
    rw [spacedFrom_of_ne (digitValue?_ne_underscore hd)] at hspaced
    obtain ⟨e, more, rfl⟩ := exists_cons_of_ne_nil hne
    have he : e ≠ '_' := fun he => hunder more (by rw [he])
    rw [spacedFrom_of_ne he, ← spacedFrom_of_ne he false] at hspaced
    obtain ⟨ds, hds⟩ := ih (fun x hx => hchars x (mem_cons_of_mem _ hx)) hspaced
    exact absurd hds (hnone d ds hd)

/-- **What is read as an integer are the runs of digits that are not too long.** -/
theorem readDigits_eq_ok {n : Nat} : readDigits 10 cs = .ok n ↔
    ∃ ds, digitRun? cs = some ds ∧ ds.length ≤ maxDigits ∧ n = ofDigits ds := by
  have hchar : ∀ c, (isDigitOf 10 c || c == '_') = true ↔
      c = '_' ∨ ∃ d, digitValue? c = some d := by
    intro c
    rw [isDigitOf_ten, Bool.or_eq_true, beq_iff_eq, Option.isSome_iff_exists, or_comm]
  have hlimited : isUnlimited 10 = false := rfl
  have hread : ∀ {ds : List Nat}, digitRun? cs = some ds → readDigits 10 cs =
      if maxDigits < ds.length then .error (.tooLong ds.length) else .ok (ofDigits ds) := by
    intro ds hds
    have hspells := spells_of_run hds
    have hall : ∀ c ∈ cs, (isDigitOf 10 c || c == '_') = true := fun c hc =>
      (hchar c).mpr (hspells.chars c hc)
    simp only [readDigits, takeWhile_eq_self_iff.mpr hall, dropWhile_eq_nil_iff.mpr hall,
      spacedFrom_of_run hds, hspells.count, hlimited, ofBase, hspells.value, ofDigits]
    simp
  constructor
  · intro h
    have hrun : ∃ ds, digitRun? cs = some ds := by
      simp only [readDigits] at h
      split at h
      · cases h
      rename_i hspaced
      split at h
      · cases h
      split at h
      · rename_i hempty
        have hall := dropWhile_eq_nil_iff.mp (isEmpty_iff.mp hempty)
        rw [takeWhile_eq_self_iff.mpr hall] at hspaced
        exact exists_run (fun c hc => (hchar c).mp (hall c hc)) (by simpa using hspaced)
      · cases h
    obtain ⟨ds, hds⟩ := hrun
    rw [hread hds] at h
    split at h
    · cases h
    · rename_i hlen
      exact ⟨ds, hds, Nat.not_lt.mp hlen, (Except.ok.inj h).symm⟩
  · rintro ⟨ds, hds, hlen, rfl⟩
    rw [hread hds, if_neg (Nat.not_lt.mpr hlen)]

end Sketchflow.Number
