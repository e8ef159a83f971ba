import Sketchflow.Proofs.Json.Tokens

/-!
# Texts that are no documents

A text that cannot be read breaks the grammar, or it has an integer of more digits than are read.

* `Within` is what holds of a reader on a text: it leaves an end of the text, and it fails without
  breaking the grammar only if the text has a long run of digits.
* **`hasLongRun_of_read`**: where the grammar is kept and a text is not read, there is such a run.
-/

namespace Sketchflow.Json

open List

/-- There are more digits in a row than an integer may have. -/
def HasLongRun (cs : List Char) : Prop :=
  ∃ digits, digits <:+: cs ∧ Script.AreDigits digits ∧ Number.maxDigits < digits.length

/-- What is read is a part of the text, and reading fails by the grammar unless there is a long run
of digits. -/
def Within {α : Type} (cs : List Char) : Read α → Prop
  | .ok r => r.2.rest <:+ cs
  | .error f => f.isSyntax = false → HasLongRun cs

section

variable {α : Type} {cs ds : List Char} {r : Read α}

theorem HasLongRun.mono (h : HasLongRun ds) (hds : ds <:+ cs) : HasLongRun cs := by
  obtain ⟨digits, hpart, hdigits, hlong⟩ := h
  exact ⟨digits, hpart.trans hds.isInfix, hdigits, hlong⟩

theorem Within.mono (h : Within ds r) (hds : ds <:+ cs) : Within cs r := by
  cases r with
  | ok r => exact List.IsSuffix.trans h hds
  | error f => exact fun hf => (h hf).mono hds

theorem within_error {f : Fault} (h : f.isSyntax = true) : Within cs (.error f : Read α) := by
  intro hf
  rw [h] at hf
  cases hf

theorem Within.map {β : Type} (h : Within cs r) (f : α → β) :
    Within cs (r.map fun r => (f r.1, r.2) : Read β) := by
  cases r <;> exact h

end

theorem suffix_skip (c : Cursor) : c.skip.rest <:+ c.rest :=
  dropWhile_suffix _

/-! ## Strings -/

theorem within_readStringFrom (start : Nat) (cs : List Char) (pos skip : Nat) (done : List Char) :
    Within cs (readStringFrom start cs pos skip done) := by
  fun_induction readStringFrom start cs pos skip done with
  | case1 => exact within_error rfl
  | case2 c rest pos skip done ih => exact ih.mono (suffix_cons c rest)
  | case3 rest pos done => exact suffix_cons _ rest
  | case4 rest pos done f hescape =>
    refine within_error ?_
    unfold readEscape at hescape
    repeat' split at hescape
    all_goals cases hescape
    all_goals rfl
  | case5 rest pos done c taken hescape ih => exact ih.mono (suffix_cons _ rest)
  | case6 => exact within_error rfl
  | case7 c rest pos done _ _ _ ih => exact ih.mono (suffix_cons c rest)

/-! ## Numbers -/

theorem takeWhole_digits (cs : List Char) :
    (takeWhole cs).1 ++ (takeWhole cs).2 = cs ∧ Script.AreDigits (takeWhole cs).1 := by
  unfold takeWhole
  split
  · refine ⟨rfl, fun c hc => ?_⟩
    rw [mem_singleton.mp hc]
    rfl
  · exact ⟨takeWhile_append_dropWhile, fun c hc => mem_takeWhile_imp hc⟩

theorem suffix_takeFraction (cs : List Char) : (takeFraction cs).2 <:+ cs := by
  unfold takeFraction
  split
  · rename_i rest
    split
    · exact suffix_rfl
    · rename_i ds more _ heq
      rw [← show rest.dropWhile Char.isDigit = more from congrArg Prod.snd heq]
      exact (dropWhile_suffix _).trans (suffix_cons _ _)
  · exact suffix_rfl

theorem suffix_takeExponent (cs : List Char) : (takeExponent cs).2 <:+ cs := by
  fun_cases takeExponent cs with
  | case1 mark rest hmark sign body hbody more hds => exact suffix_rfl
  | case2 mark rest hmark sign body hbody ds more hds heq =>
    have hsigned : body <:+ rest := by
      split at hbody <;> cases hbody
      · exact suffix_cons _ _
      · exact suffix_cons _ _
      · exact suffix_rfl
    have hmore : more <:+ body := by
      rw [← show body.dropWhile Char.isDigit = more from congrArg Prod.snd heq]
      exact dropWhile_suffix _
    exact (hmore.trans hsigned).trans (suffix_cons _ _)
  | case3 mark rest hmark => exact suffix_rfl
  | case4 => exact suffix_rfl

section

variable {body whole afterWhole fraction afterFraction exponent rest : List Char}

theorem suffix_number (hwhole : takeWhole body = (whole, afterWhole))
    (hfraction : takeFraction afterWhole = (fraction, afterFraction))
    (hexponent : takeExponent afterFraction = (exponent, rest)) : rest <:+ body := by
  have hafter : afterWhole <:+ body := by
    have hparts := (takeWhole_digits body).1
    rw [hwhole] at hparts
    exact ⟨whole, hparts⟩
  have hpoint := suffix_takeFraction afterWhole
  rw [hfraction] at hpoint
  have hmark := suffix_takeExponent afterFraction
  rw [hexponent] at hmark
  exact (hmark.trans hpoint).trans hafter

end

theorem suffix_signed {text sign body : List Char}
    (h : (match text with
      | '-' :: body => (['-'], body)
      | body => ([], body)) = (sign, body)) :
    body <:+ text ∧ ∃ negative, sign = signText negative := by
  split at h <;> cases h
  · exact ⟨suffix_cons _ _, true, rfl⟩
  · exact ⟨suffix_rfl, false, rfl⟩

theorem within_readNumber (c : Cursor) : Within c.rest (readNumber c) := by
  fun_cases readNumber c with
  | case1 => exact within_error rfl
  | case2 sign body hsign whole _ _ hwhole fraction _ hfraction exponent rest hexponent =>
    exact (suffix_number hwhole hfraction hexponent).trans (suffix_signed hsign).1
  | case3 sign body hsign whole _ hne hwhole fraction _ hfraction exponent rest hexponent taken text
      hinteger fault hread =>
    obtain ⟨hbody, negative, rfl⟩ := suffix_signed hsign
    obtain ⟨hf, he⟩ : fraction = [] ∧ exponent = [] := by simpa using hinteger
    have hread' : Number.readInt (String.ofList (signText negative ++ whole)) = .error fault := by
      simpa [text, taken, hf, he] using hread
    obtain ⟨hparts, hdigits⟩ := takeWhole_digits body
    rw [hwhole] at hparts hdigits
    refine fun _ => HasLongRun.mono ⟨whole, ⟨[], _, hparts⟩, hdigits, ?_⟩ hbody
    by_contra hshort
    rw [readInt_areDigits negative hdigits hne (Nat.le_of_not_lt hshort)] at hread'
    cases hread'
  | case4 sign body hsign whole _ _ hwhole fraction _ hfraction exponent rest hexponent =>
    exact (suffix_number hwhole hfraction hexponent).trans (suffix_signed hsign).1

/-! ## Values -/

theorem within_readAtom (c : Cursor) : Within c.rest (readAtom c) := by
  unfold readAtom
  split
  · exact drop_suffix _ _
  · exact within_readNumber c

theorem within_value (fuel : Nat)
    (hitems : ∀ c done, Within c.rest (readItems fuel c done))
    (hfields : ∀ c done, Within c.rest (readFields fuel c done)) (c : Cursor) :
    Within c.rest (readValue (fuel + 1) c) := by
  obtain ⟨pos, cs⟩ := c
  rw [readValue]
  dsimp only
  split
  · rename_i rest
    exact ((within_readStringFrom _ rest _ _ _).map Value.str).mono (suffix_cons _ rest)
  · rename_i rest
    have hskip : (Cursor.skip ⟨pos + 1, rest⟩).rest <:+ '[' :: rest :=
      (suffix_skip _).trans (suffix_cons _ rest)
    split
    · rename_i rest' heq
      exact (heq ▸ suffix_cons _ rest').trans hskip
    · exact (hitems _ _).mono hskip
  · rename_i rest
    have hskip : (Cursor.skip ⟨pos + 1, rest⟩).rest <:+ '\x7b' :: rest :=
      (suffix_skip _).trans (suffix_cons _ rest)
    split
    · rename_i rest' heq
      exact (heq ▸ suffix_cons _ rest').trans hskip
    · exact (hfields _ _).mono hskip
  · exact within_readAtom _

theorem within_items (fuel : Nat) (hvalue : ∀ c, Within c.rest (readValue fuel c))
    (hitems : ∀ c done, Within c.rest (readItems fuel c done)) (c : Cursor) (done : List Value) :
    Within c.rest (readItems (fuel + 1) c done) := by
  have hfirst := hvalue c
  rw [readItems]
  generalize readValue fuel c = r at hfirst
  match r with
  | .error f => exact hfirst
  | .ok (v, c') =>
    have hskip : c'.skip.rest <:+ c.rest := (suffix_skip c').trans hfirst
    dsimp only
    split
    · rename_i rest heq
      exact (heq ▸ suffix_cons _ rest).trans hskip
    · rename_i rest heq
      have hrest : rest <:+ c'.skip.rest := heq ▸ suffix_cons _ rest
      exact (hitems _ _).mono (((suffix_skip _).trans hrest).trans hskip)
    · exact within_error rfl

theorem within_fields (fuel : Nat) (hvalue : ∀ c, Within c.rest (readValue fuel c))
    (hfields : ∀ c done, Within c.rest (readFields fuel c done)) (c : Cursor) (done : Fields) :
    Within c.rest (readFields (fuel + 1) c done) := by
  obtain ⟨pos, cs⟩ := c
  rw [readFields]
  dsimp only
  split
  · rename_i rest
    have hname : Within ('"' :: rest) (readString ⟨pos + 1, rest⟩) :=
      (within_readStringFrom _ rest _ _ _).mono (suffix_cons _ rest)
    generalize readString ⟨pos + 1, rest⟩ = r at hname
    match r with
    | .error f => exact hname
    | .ok (name, c1) =>
      have hskip₁ : c1.skip.rest <:+ '"' :: rest := (suffix_skip c1).trans hname
      dsimp only
      split
      · rename_i rest₁ heq₁
        have hrest₁ : (Cursor.skip ⟨c1.skip.pos + 1, rest₁⟩).rest <:+ '"' :: rest :=
          ((suffix_skip _).trans (heq₁ ▸ suffix_cons _ rest₁)).trans hskip₁
        have hread := (hvalue (Cursor.skip ⟨c1.skip.pos + 1, rest₁⟩)).mono hrest₁
        generalize readValue fuel (Cursor.skip ⟨c1.skip.pos + 1, rest₁⟩) = r at hread
        match r with
        | .error f => exact hread
        | .ok (v, c2) =>
          have hskip₂ : c2.skip.rest <:+ '"' :: rest := (suffix_skip c2).trans hread
          dsimp only
          split
          · rename_i rest₂ heq₂
            exact (heq₂ ▸ suffix_cons _ rest₂).trans hskip₂
          · rename_i rest₂ heq₂
            have hrest₂ : rest₂ <:+ c2.skip.rest := heq₂ ▸ suffix_cons _ rest₂
            exact (hfields _ _).mono (((suffix_skip _).trans hrest₂).trans hskip₂)
          · exact within_error rfl
      · exact within_error rfl
  · exact within_error rfl

theorem within_read (fuel : Nat) :
    (∀ c, Within c.rest (readValue fuel c)) ∧
    (∀ c done, Within c.rest (readItems fuel c done)) ∧
    ∀ c done, Within c.rest (readFields fuel c done) := by
  induction fuel with
  | zero =>
    refine ⟨fun c => ?_, fun c done => ?_, fun c done => ?_⟩
    · rw [readValue]; exact within_error rfl
    · rw [readItems]; exact within_error rfl
    · rw [readFields]; exact within_error rfl
  | succ fuel ih =>
    obtain ⟨hvalue, hitems, hfields⟩ := ih
    exact ⟨within_value fuel hitems hfields, within_items fuel hvalue hitems,
      within_fields fuel hvalue hfields⟩

/-- **A text that is not read though the grammar is kept has a long run of digits.** -/
theorem hasLongRun_of_read {text : String} {f : Fault} (h : read text = .error f)
    (hf : f.isSyntax = false) : HasLongRun text.toList := by
  have hall : ∀ cs, read.readAll cs = .error f → HasLongRun cs := by
    intro cs h
    have hvalue := (within_read (2 * cs.length + 2)).1 (Cursor.skip ⟨0, cs⟩)
    unfold read.readAll at h
    generalize readValue (2 * cs.length + 2) (Cursor.skip ⟨0, cs⟩) = r at h hvalue
    match r with
    | .error f' =>
      cases h
      exact (hvalue hf).mono (suffix_skip ⟨0, cs⟩)
    | .ok (v, c) =>
      dsimp only at h
      split at h <;> cases h
      cases hf
  unfold read at h
  dsimp only at h
  split at h
  · rename_i first rest heq
    split at h
    · cases h
      cases hf
    · exact hall _ h
  · exact hall _ h

end Sketchflow.Json
