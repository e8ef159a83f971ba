import Sketchflow.Proofs.Number.Integers
import Sketchflow.Proofs.Number.Sign

/-!
# Numerals in programs

Numbers in texts are read more generously than numbers in programs: with digits of all scripts, and
with zeros in front.

* `Stranger` are the digits and blanks outside ASCII. `Stranger.token?`: no token starts with one.
* `Parts` are the parts of a numeral as it is written, `Parts.Reads` what they read as.
  `exists_parts`: every numeral has them.
* **`token?_ascii`**: in ASCII a numeral is one token, with the value it is read as; without a point
  and an exponent it must not start with a zero, unless it is zero.
* **`token?_stranger`**: a numeral with a digit outside ASCII is no token.
-/

namespace Sketchflow.Script

open List Number Text

open Number (DecimalText digitRun? optionalRun? decimalText? exponent? charValue ofDigits)

variable {e : Int} {cs rest x : List Char} {ds : List Nat}

/-! ## Characters that start no name -/

/-- The numbers that digits stand for, after what was read of the first. -/
def numbersFrom (n : Nat) : List Char → List Nat
  | [] => []
  | c :: cs =>
    if Text.Packing.digit c < Text.Packing.half then
      (n * Text.Packing.half + Text.Packing.digit c) :: numbersFrom 0 cs
    else numbersFrom (n * Text.Packing.half + (Text.Packing.digit c - Text.Packing.half)) cs

theorem foldl_readDigit (cs : List Char) : ∀ (n : Nat) (done : Array Nat),
    (cs.foldl Text.Packing.readDigit (n, done)).2.toList = done.toList ++ numbersFrom n cs := by
  induction cs with
  | nil => intro n done; simp [numbersFrom]
  | cons c cs ih =>
    intro n done
    rw [foldl_cons, Text.Packing.readDigit, numbersFrom]
    split <;> simp [ih]

theorem numbersIn_eq (rows : List String) :
    numbersIn rows = numbersFrom 0 (rows.map String.toList).flatten := by
  have h := foldl_readDigit (rows.flatMap String.toList) 0 #[]
  simp only [numbersIn, String.foldl_eq_foldl_toList]
  rw [foldl_flatMap] at h
  rw [← flatMap_def]
  exact h

/-- The digits and blanks outside ASCII, in blocks. -/
def strangers : List (Nat × Nat) :=
  digitZeros.map (fun z => (z, z + 9)) ++
    [(0x85, 0x85), (0xa0, 0xa0), (0x1680, 0x1680), (0x2000, 0x200a), (0x2028, 0x2029),
      (0x202f, 0x202f), (0x205f, 0x205f), (0x3000, 0x3000)]

/-- None of them starts a name. -/
theorem strangers_apart : (nameStartRanges.toList.all fun r =>
    strangers.all fun b => Nat.ble (r.2 + 1) b.1 || Nat.ble (b.2 + 1) r.1) = true := by
  unfold nameStartRanges rangesOf
  rw [numbersIn_eq]
  simp only [map_cons, map_nil]
  -- Literals are lists of characters, so no text has to be decoded.
  repeat rw [String.toList_ofList]
  decide +kernel

/-- A character outside ASCII that starts no name. -/
structure Stranger (c : Char) : Prop where
  wide : 0x80 ≤ c.toNat
  start : isNameStart c = false

theorem stranger_of_block {c : Char} {b : Nat × Nat} (hb : b ∈ strangers)
    (hc : b.1 ≤ c.toNat ∧ c.toNat ≤ b.2) (hwide : 0x80 ≤ c.toNat) : Stranger c := by
  refine ⟨hwide, ?_⟩
  rw [isNameStart, if_neg (by omega), inRanges, ← Array.any_toList, any_eq_false]
  intro r hr hin
  have hapart := all_eq_true.mp (all_eq_true.mp strangers_apart r hr) b hb
  simp only [Bool.or_eq_true, Nat.ble_eq, Bool.and_eq_true, decide_eq_true_eq] at hapart hin
  omega

theorem stranger_of_digit {c : Char} {d : Nat} (h : digitValue? c = some d)
    (hwide : 0x80 ≤ c.toNat) : Stranger c := by
  rw [digitValue?, if_neg (by omega)] at h
  obtain ⟨z, hz, -⟩ := Option.map_eq_some_iff.mp h
  have hblock := find?_some hz
  simp only [Bool.and_eq_true, decide_eq_true_eq] at hblock
  refine stranger_of_block (b := (z, z + 9)) ?_ ⟨hblock.1, by simp only; omega⟩ hwide
  exact mem_append_left _ (mem_map_of_mem (mem_of_find?_eq_some hz))

theorem stranger_of_blank {c : Char} (h : isBlank c = true) (hwide : 0x80 ≤ c.toNat) :
    Stranger c := by
  have hblock : ∃ b ∈ [(0x85, 0x85), (0xa0, 0xa0), (0x1680, 0x1680), (0x2000, 0x200a),
      (0x2028, 0x2029), (0x202f, 0x202f), (0x205f, 0x205f), (0x3000, 0x3000)],
      b.1 ≤ c.toNat ∧ c.toNat ≤ b.2 := by
    simp only [isBlank, Bool.or_eq_true, Bool.and_eq_true, decide_eq_true_eq, beq_iff_eq] at h
    simp only [mem_cons, not_mem_nil, or_false, exists_eq_or_imp, exists_eq_left]
    omega
  obtain ⟨b, hb, hc⟩ := hblock
  exact stranger_of_block (mem_append_right _ hb) hc hwide

section

variable {c : Char}

theorem Stranger.ne {d : Char} (h : Stranger c) (hd : d.toNat < 0x80) : c ≠ d := by
  rintro rfl
  have := h.wide
  omega

theorem Stranger.isDigit (h : Stranger c) : c.isDigit = false := by
  have hwide := h.wide
  cases hc : c.isDigit with
  | false => rfl
  | true =>
    have := range_of_isDigit hc
    omega

theorem Stranger.isWordChar (h : Stranger c) : isWordChar c = true := by
  simp [Script.isWordChar, h.wide]

theorem Stranger.not_ascii (h : Stranger c) {w : String} (hw : w.toList.all (·.toNat < 0x80) = true)
    (rest : List Char) : w ≠ String.ofList (c :: rest) := by
  rintro rfl
  rw [String.toList_ofList, all_cons, Bool.and_eq_true, decide_eq_true_eq] at hw
  have := h.wide
  omega

/-- **No token starts with a digit or a blank outside ASCII.** -/
theorem Stranger.token? (h : Stranger c) (x : List Char) : token? (c :: x) = none := by
  have hdot : (c == '.') = false := beq_eq_false_iff_ne.mpr (h.ne (by decide))
  have hquote : isQuote c = false := by
    simp only [isQuote, Bool.or_eq_false_iff, beq_eq_false_iff_ne]
    exact ⟨h.ne (by decide), h.ne (by decide)⟩
  have hkeyword : ∀ rest, String.ofList (c :: rest) ∉ keywords := by
    intro rest hm
    have hall : ∀ w ∈ keywords, w.toList.all (·.toNat < 0x80) = true :=
      forall_mem_of_all (by decide)
    exact h.not_ascii (hall _ hm) rest rfl
  have hword : ∀ rest, wordToken? (c :: rest) = none := by
    intro rest
    have hcontains : keywords.contains (String.ofList (c :: rest)) = false := by
      rw [Bool.eq_false_iff, Ne, contains_iff_mem]
      exact hkeyword rest
    rw [wordToken?]
    simp only [hcontains, isName, h.start, Bool.false_and, Bool.false_eq_true, if_false]
  have hmark : ∀ rest, quoteMark? (c :: rest) = none := by
    intro rest
    cases rest with
    | nil =>
      simp [quoteMark?, h.ne (show 'r'.toNat < 0x80 by decide),
        h.ne (show 'R'.toNat < 0x80 by decide),
        h.ne (show 'u'.toNat < 0x80 by decide), h.ne (show 'U'.toNat < 0x80 by decide)]
    | cons d rest => rfl
  simp [Script.token?, h.isDigit, hdot, hquote, h.isWordChar, wordOrText?, hword, hmark]

theorem Stranger.canEnd (h : Stranger c) (x : List Char) : canEnd (c :: x) = false := by
  have hfollowers : ∀ w ∈ followers, w.toList.isPrefixOf (c :: x) = false := by
    intro w hw
    have hall : ∀ w ∈ followers, ∃ d ∈ w.toList.head?, d.toNat < 0x80 := by
      have hdecided : ∀ w ∈ followers, (w.toList.head?.any (·.toNat < 0x80)) = true :=
        forall_mem_of_all (by decide)
      intro w hw
      obtain ⟨d, hd, hlt⟩ := (Option.any_eq_true _ _).mp (hdecided w hw)
      exact ⟨d, hd, of_decide_eq_true hlt⟩
    obtain ⟨d, hd, hlt⟩ := hall w hw
    cases hcs : w.toList with
    | nil => rw [hcs] at hd; cases hd
    | cons e rest =>
      rw [hcs] at hd
      cases hd
      simp [List.isPrefixOf, (h.ne hlt).symm]
  simp only [Script.canEnd, h.isWordChar, Bool.not_true, Bool.false_or, any_eq_false]
  exact fun w hw => by simp [hfollowers w hw]

theorem Stranger.finish (h : Stranger c) (v : Value) (x : List Char) :
    finish v (c :: x) = none := by
  have hj : (c == 'j') = false := beq_eq_false_iff_ne.mpr (h.ne (by decide))
  have hJ : (c == 'J') = false := beq_eq_false_iff_ne.mpr (h.ne (by decide))
  simp [Script.finish, hj, hJ, h.canEnd]

theorem Stranger.takePower (h : Stranger c) (x : List Char) :
    takePower (c :: x) = some ([], c :: x) := by
  have he : (c == 'e') = false := beq_eq_false_iff_ne.mpr (h.ne (by decide))
  have hE : (c == 'E') = false := beq_eq_false_iff_ne.mpr (h.ne (by decide))
  simp [Script.takePower, he, hE]

theorem Stranger.afterWhole (h : Stranger c) (whole x : List Char) :
    afterWhole whole (c :: x) = none := by
  have hfraction : takeFraction (c :: x) = some (none, c :: x) := by
    unfold takeFraction
    split
    · rename_i heq
      exact absurd (List.cons.inj heq).1 (h.ne (by decide))
    · rfl
  simp [Script.afterWhole, hfraction, h.takePower, h.finish]

end

/-! ## Runs of digits -/

/-- Digits without the underscores between them. -/
def plain (cs : List Char) : List Char :=
  cs.filter (· != '_')

theorem digitValue?_ascii {c : Char} {d : Nat} (h : digitValue? c = some d) (hc : c.toNat < 0x80) :
    c.isDigit = true ∧ charValue c = d := by
  rw [digitValue?, if_pos hc] at h
  split at h
  · rename_i hdigit
    cases h
    exact ⟨hdigit, rfl⟩
  · cases h

theorem plain_cons {c : Char} (h : c ≠ '_') (cs : List Char) : plain (c :: cs) = c :: plain cs := by
  simp [plain, h]

theorem plain_underscore (cs : List Char) : plain ('_' :: cs) = plain cs := by
  simp [plain]

def IsAscii (cs : List Char) : Prop :=
  ∀ c ∈ cs, c.toNat < 0x80

theorem head_of_digitRun? (h : digitRun? cs = some ds) :
    ∃ c rest d, cs = c :: rest ∧ digitValue? c = some d :=
  (digitRun_of_eq_some h).head

theorem run_ascii (h : digitRun? cs = some ds) (ha : IsAscii cs) :
    AreDigits (plain cs) ∧ plain cs ≠ [] ∧ (plain cs).map charValue = ds := by
  have hstep : ∀ {c : Char} {d : Nat} {rest : List Char} {ds : List Nat},
      digitValue? c = some d → c.toNat < 0x80 →
      AreDigits (plain rest) ∧ (plain rest).map charValue = ds →
      AreDigits (plain (c :: rest)) ∧ plain (c :: rest) ≠ [] ∧
        (plain (c :: rest)).map charValue = d :: ds := by
    intro c d rest ds hd hc hrest
    obtain ⟨hdigit, rfl⟩ := digitValue?_ascii hd hc
    rw [plain_cons (digitValue?_ne_underscore hd)]
    refine ⟨forall_mem_cons.mpr ⟨hdigit, hrest.1⟩, by simp, ?_⟩
    rw [map_cons, hrest.2]
  replace h := digitRun_of_eq_some h
  induction h with
  | one hd => exact hstep hd (ha _ (by simp)) ⟨by simp [AreDigits, plain], rfl⟩
  | gap hd _ ih =>
    have hrest := ih fun e he => ha e (by simp [he])
    refine hstep hd (ha _ (by simp)) ?_
    rw [plain_underscore]
    exact ⟨hrest.1, hrest.2.2⟩
  | next hd _ ih =>
    have hrest := ih fun e he => ha e (by simp [he])
    exact hstep hd (ha _ (by simp)) ⟨hrest.1, hrest.2.2⟩

theorem takeRun_underscore {isDigit : Char → Bool} {c : Char} (hc : c ≠ '_')
    (done rest : List Char) : takeRun isDigit done ('_' :: c :: rest) =
      if isDigit c then takeRun isDigit done (c :: rest) else none := by
  rw [takeRun, takeRun_cons hc]
  split <;> rfl

theorem takeRun_ascii (h : digitRun? cs = some ds) (ha : IsAscii cs)
    (hx : EndsRun Char.isDigit x) (done : List Char) :
    takeRun Char.isDigit done (cs ++ x) = some (done.reverse ++ plain cs, x) := by
  have hstop : ∀ done : List Char, takeRun Char.isDigit done x = some (done.reverse, x) := by
    intro done
    cases x with
    | nil => rfl
    | cons c x => rw [takeRun_cons hx.2, hx.1]; rfl
  have htake : ∀ {c : Char} {d : Nat}, digitValue? c = some d → c.toNat < 0x80 →
      ∀ done rest : List Char,
        takeRun Char.isDigit done (c :: rest) = takeRun Char.isDigit (c :: done) rest := by
    intro c d hd hc done rest
    rw [takeRun_cons (digitValue?_ne_underscore hd), if_pos (digitValue?_ascii hd hc).1]
  replace h := digitRun_of_eq_some h
  induction h generalizing done with
  | one hd =>
    rw [singleton_append, htake hd (ha _ (by simp)), hstop,
      plain_cons (digitValue?_ne_underscore hd)]
    simp [plain]
  | gap hd hrest ih =>
    obtain ⟨e, rest, d', rfl, hd'⟩ := hrest.head
    obtain ⟨hdigit, -⟩ := digitValue?_ascii hd' (ha e (by simp))
    rw [cons_append, cons_append, htake hd (ha _ (by simp)), cons_append,
      takeRun_underscore (digitValue?_ne_underscore hd'), if_pos hdigit, ← cons_append,
      ih fun e he => ha e (by simp [he]), plain_cons (digitValue?_ne_underscore hd),
      plain_underscore]
    simp
  | next hd _ ih =>
    rw [cons_append, htake hd (ha _ (by simp)), ih fun e he => ha e (by simp [he]),
      plain_cons (digitValue?_ne_underscore hd)]
    simp

theorem takeRun_stranger (h : digitRun? cs = some ds) (hs : ∃ c ∈ cs, 0x80 ≤ c.toNat)
    {done r : List Char} (htake : takeRun Char.isDigit done (cs ++ x) = some (r, rest)) :
    ∃ c more, rest = c :: more ∧ Stranger c := by
  -- The first digit, if it is a stranger, ends the run.
  have hfirst : ∀ {c : Char} {d : Nat} {cs done : List Char}, digitValue? c = some d →
      takeRun Char.isDigit done (c :: cs) = some (r, rest) →
      (∃ e more, rest = e :: more ∧ Stranger e) ∨
        c.toNat < 0x80 ∧ takeRun Char.isDigit (c :: done) cs = some (r, rest) := by
    intro c d cs done hd htake
    rw [takeRun_cons (digitValue?_ne_underscore hd)] at htake
    by_cases hwide : 0x80 ≤ c.toNat
    · have hstranger := stranger_of_digit hd hwide
      rw [hstranger.isDigit] at htake
      cases htake
      exact .inl ⟨c, cs, rfl, hstranger⟩
    · rw [if_pos (digitValue?_ascii hd (by omega)).1] at htake
      exact .inr ⟨by omega, htake⟩
  obtain ⟨e, he, hwide⟩ := hs
  replace h := digitRun_of_eq_some h
  induction h generalizing done with
  | one hd =>
    rw [mem_singleton.mp he] at hwide
    exact (hfirst hd htake).resolve_right fun h => by omega
  | gap hd hrest ih =>
    obtain ⟨e', tail, d', rfl, hd'⟩ := hrest.head
    rw [cons_append, cons_append, cons_append] at htake
    obtain hend | ⟨hascii, htake⟩ := hfirst hd htake
    · exact hend
    rw [takeRun_underscore (digitValue?_ne_underscore hd')] at htake
    split at htake
    · simp only [mem_cons] at he
      rcases he with rfl | rfl | he
      · omega
      · exact absurd hwide (by decide)
      · exact ih htake (mem_cons.mpr he)
    · cases htake
  | next hd _ ih =>
    obtain hend | ⟨hascii, htake⟩ := hfirst hd htake
    · exact hend
    rcases mem_cons.mp he with rfl | he
    · omega
    · exact ih htake he

/-! ## Numerals in their parts -/

/-- The parts of a numeral as it is written: the digits in front of the point, those after it if
there is a point, and the exponent with its mark and sign. -/
structure Parts where
  whole : List Char
  fraction : Option (List Char)
  raised : List Char

def Parts.dotted (p : Parts) : List Char :=
  match p.fraction with
  | none => []
  | some ds => '.' :: ds

def Parts.text (p : Parts) : List Char :=
  p.whole ++ (p.dotted ++ p.raised)

/-- An exponent and its value. -/
inductive Raised : List Char → Int → Prop where
  | absent : Raised [] 0
  | present {mark : Char} {sign ds : List Char} {ns : List Nat} (hmark : mark = 'e' ∨ mark = 'E')
      (hsign : sign = [] ∨ sign = ['+'] ∨ sign = ['-']) (hds : digitRun? ds = some ns) :
      Raised (mark :: (sign ++ ds)) (if sign = ['-'] then -(ofDigits ns : Int) else ofDigits ns)

structure Parts.Reads (p : Parts) (d : DecimalText) : Prop where
  whole : optionalRun? p.whole = some d.whole
  fraction : optionalRun? (p.fraction.getD []) = some d.fraction
  raised : Raised p.raised d.exponent
  digits : ¬(d.whole = [] ∧ d.fraction = [])

theorem mem_optionalRun (h : optionalRun? cs = some ds) {c : Char}
    (hc : c ∈ cs) : c = '_' ∨ ∃ d, digitValue? c = some d := by
  unfold optionalRun? at h
  split at h
  · rename_i hempty
    rw [isEmpty_iff.mp hempty] at hc
    cases hc
  · exact (spells_of_run h).chars c hc

theorem Parts.mem_dotted {p : Parts} {c : Char} :
    c ∈ p.dotted ↔ (c = '.' ∧ p.fraction.isSome) ∨ c ∈ p.fraction.getD [] := by
  unfold Parts.dotted
  cases p.fraction <;> simp

theorem Parts.Reads.mantissa {p : Parts} {d : DecimalText} (h : p.Reads d) {c : Char}
    (hc : c ∈ p.whole ++ p.dotted) : c = '.' ∨ c = '_' ∨ ∃ v, digitValue? c = some v := by
  rcases mem_append.mp hc with hc | hc
  · exact .inr (mem_optionalRun h.whole hc)
  · exact (Parts.mem_dotted.mp hc).imp And.left (mem_optionalRun h.fraction)

theorem Parts.Reads.char {p : Parts} {d : DecimalText} (h : p.Reads d) {c : Char}
    (hc : c ∈ p.text) :
    (∃ v, digitValue? c = some v) ∨ c ∈ ['_', '.', 'e', 'E', '+', '-'] := by
  rw [Parts.text, ← append_assoc, mem_append] at hc
  rcases hc with hc | hc
  · rcases h.mantissa hc with rfl | rfl | hv
    · exact .inr (by simp)
    · exact .inr (by simp)
    · exact .inl hv
  · have hraised := h.raised
    generalize p.raised = cs at hraised hc
    generalize d.exponent = e at hraised
    cases hraised with
    | absent => cases hc
    | present hmark hsign hds =>
      rcases mem_cons.mp hc with rfl | hc
      · exact .inr (by rcases hmark with rfl | rfl <;> simp)
      rcases mem_append.mp hc with hc | hc
      · exact .inr (by rcases hsign with rfl | rfl | rfl <;> simp_all)
      · rcases (spells_of_run hds).chars c hc with rfl | hv
        · exact .inr (by simp)
        · exact .inl hv

theorem not_mem_run (h : optionalRun? cs = some ds) {c : Char}
    (hc : c ∈ ['.', 'e', 'E', '+', '-']) : c ∉ cs := by
  intro hm
  have hall : ∀ c ∈ ['.', 'e', 'E', '+', '-'], c ≠ '_' ∧ digitValue? c = none :=
    forall_mem_of_all (by decide)
  rcases mem_optionalRun h hm with rfl | ⟨d, hd⟩
  · exact (hall _ hc).1 rfl
  · rw [(hall _ hc).2] at hd
    cases hd

theorem exists_sign (cs : List Char) : ∃ sign, (sign = [] ∨ sign = ['+'] ∨ sign = ['-']) ∧
    cs = sign ++ (Number.takeSign cs).2 ∧ ((Number.takeSign cs).1 = true ↔ sign = ['-']) := by
  unfold Number.takeSign
  split
  · exact ⟨['-'], by simp, rfl, by simp⟩
  · exact ⟨['+'], by simp, rfl, by simp⟩
  · exact ⟨[], by simp, rfl, by simp⟩

theorem raised_of_exponent? (h : exponent? cs = some e)
    (hmark : ∀ c ∈ cs.head?, c = 'e' ∨ c = 'E') : Raised cs e := by
  cases cs with
  | nil =>
    cases h
    exact .absent
  | cons mark cs =>
    obtain ⟨sign, hsign, hcs, hnegative⟩ := exists_sign cs
    rw [exponent?] at h
    generalize Number.takeSign cs = r at h hcs hnegative
    obtain ⟨negative, ds⟩ := r
    obtain ⟨ns, hns, rfl⟩ := Option.map_eq_some_iff.mp h
    have hvalue : (if negative = true then -(ofDigits ns : Int) else ofDigits ns) =
        if sign = ['-'] then -(ofDigits ns : Int) else ofDigits ns :=
      if_congr hnegative rfl rfl
    rw [hcs]
    simp only [hvalue]
    exact .present (hmark mark rfl) hsign hns

theorem head_of_dropWhile {p : Char → Bool} {c : Char}
    (h : c ∈ (cs.dropWhile fun c => !p c).head?) : p c = true := by
  have hnot := head?_dropWhile_not (fun c => !p c) cs
  rw [h] at hnot
  simpa using hnot

/-- **Every numeral has its parts.** -/
theorem exists_parts {body : List Char} {d : DecimalText} (h : decimalText? body = some d) :
    ∃ p : Parts, body = p.text ∧ p.Reads d := by
  unfold decimalText? splitAtFirst at h
  dsimp only at h
  generalize hmantissa : body.takeWhile (fun c => !(c == 'e' || c == 'E')) = mantissa at h
  generalize htail : body.dropWhile (fun c => !(c == 'e' || c == 'E')) = tail at h
  generalize hwhole : mantissa.takeWhile (fun c => !(c == '.')) = whole at h
  generalize hdotted : mantissa.dropWhile (fun c => !(c == '.')) = dotted at h
  have hbody : body = whole ++ (dotted ++ tail) := by
    rw [← List.append_assoc, ← hwhole, ← hdotted, List.takeWhile_append_dropWhile, ← hmantissa,
      ← htail, List.takeWhile_append_dropWhile]
  have hmark : ∀ c ∈ tail.head?, c = 'e' ∨ c = 'E' := by
    intro c hc
    rw [← htail] at hc
    simpa using head_of_dropWhile hc
  have hpoint : dotted = [] ∨ ∃ f, dotted = '.' :: f := by
    cases hd : dotted with
    | nil => exact .inl rfl
    | cons c f =>
      have hc : c ∈ (mantissa.dropWhile fun c => !(c == '.')).head? := by rw [hdotted, hd]; rfl
      have hdot := head_of_dropWhile hc
      rw [beq_iff_eq.mp hdot]
      exact .inr ⟨f, rfl⟩
  split at h
  · rename_i w f e hw hf he
    split at h
    · cases h
    · rename_i hdigits
      cases h
      simp only [Bool.and_eq_true, List.isEmpty_iff] at hdigits
      have hraised := raised_of_exponent? he hmark
      rcases hpoint with rfl | ⟨f', rfl⟩
      · exact ⟨⟨whole, none, tail⟩, hbody, hw, hf, hraised, hdigits⟩
      · exact ⟨⟨whole, some f', tail⟩, hbody, hw, hf, hraised, hdigits⟩
  · cases h

section

variable {p : Parts} {d : DecimalText}

theorem Raised.exponent? (h : Raised cs e) : Number.exponent? cs = some e := by
  cases h with
  | absent => rfl
  | @present mark sign ds ns _ hsign hds =>
    have hplain : Number.takeSign ds = (false, ds) := by
      obtain ⟨c, rest, v, rfl, hv⟩ := head_of_digitRun? hds
      unfold Number.takeSign
      split
      · rename_i heq
        rw [(List.cons.inj heq).1] at hv
        cases hv
      · rename_i heq
        rw [(List.cons.inj heq).1] at hv
        cases hv
      · rfl
    rcases hsign with rfl | rfl | rfl
    · simp [Number.exponent?, hplain, hds]
    · simp [Number.exponent?, Number.takeSign, hds]
    · simp [Number.exponent?, Number.takeSign, hds]

theorem Raised.head (h : Raised cs e) : ∀ c ∈ cs.head?, c = 'e' ∨ c = 'E' := by
  cases h with
  | absent => simp
  | present hmark _ _ => simpa using hmark

/-- The parts of a numeral are found again in its text. -/
theorem Parts.Reads.decimalText? (h : p.Reads d) : decimalText? p.text = some d := by
  have hmantissa : ∀ c ∈ p.whole ++ p.dotted, (c == 'e' || c == 'E') = false := by
    intro c hc
    rcases h.mantissa hc with rfl | rfl | ⟨v, hv⟩
    · rfl
    · rfl
    · simp only [Bool.or_eq_false_iff, beq_eq_false_iff_ne]
      constructor <;> (rintro rfl; cases hv)
  have hmark : splitAtFirst (fun c => c == 'e' || c == 'E') p.text =
      (p.whole ++ p.dotted, p.raised) := by
    rw [Parts.text, ← append_assoc]
    refine splitAtFirst_append hmantissa fun c hc => ?_
    simpa using h.raised.head c hc
  have hpoint : splitAtFirst (· == '.') (p.whole ++ p.dotted) = (p.whole, p.dotted) := by
    refine splitAtFirst_append (fun c hc => ?_) fun c hc => ?_
    · rw [beq_eq_false_iff_ne]
      rintro rfl
      exact not_mem_run h.whole (by simp) hc
    · unfold Parts.dotted at hc
      split at hc
      · cases hc
      · cases hc
        rfl
  have hfraction : p.dotted.drop 1 = p.fraction.getD [] := by
    unfold Parts.dotted
    cases p.fraction <;> rfl
  have hdigits : (d.whole.isEmpty && d.fraction.isEmpty) = false := by
    simpa [Bool.and_eq_true, List.isEmpty_iff] using h.digits
  simp [Number.decimalText?, hmark, hpoint, hfraction, h.whole, h.fraction, h.raised.exponent?,
    hdigits]

/-! ## Numerals in ASCII -/

theorem IsAscii.whole (ha : IsAscii p.text) : IsAscii p.whole :=
  (forall_mem_append.mp ha).1

theorem IsAscii.dotted (ha : IsAscii p.text) : IsAscii p.dotted :=
  (forall_mem_append.mp (forall_mem_append.mp ha).2).1

theorem IsAscii.fraction (ha : IsAscii p.text) : IsAscii (p.fraction.getD []) :=
  fun c hc => ha.dotted c (Parts.mem_dotted.mpr (.inr hc))

theorem IsAscii.raised (ha : IsAscii p.text) : IsAscii p.raised :=
  (forall_mem_append.mp (forall_mem_append.mp ha).2).2

/-- What can follow a numeral, but for what the lexer says of words. -/
def Quits (x : List Char) : Prop :=
  ∀ c ∈ x.head?, c.isDigit = false ∧ c ∉ ['_', '.', 'e', 'E', 'j', 'J'] ∧ c ∉ baseMarks

theorem Quits.endsRun (h : Quits x) : EndsRun Char.isDigit x := by
  cases x with
  | nil => trivial
  | cons c x =>
    obtain ⟨hdigit, hmarks, -⟩ := h c rfl
    exact ⟨hdigit, fun he => hmarks (by simp [he])⟩

theorem Quits.finish (h : Quits x) (v : Value) :
    finish v x = if canEnd x then some (v, x) else none := by
  cases x with
  | nil => rfl
  | cons c x =>
    obtain ⟨-, hmarks, -⟩ := h c rfl
    simp only [mem_cons, not_mem_nil, or_false, not_or] at hmarks
    simp [Script.finish, hmarks]

theorem optionalRun_cases (h : optionalRun? cs = some ds) :
    cs = [] ∧ ds = [] ∨ digitRun? cs = some ds := by
  unfold optionalRun? at h
  split at h
  · rename_i hempty
    cases h
    exact .inl ⟨isEmpty_iff.mp hempty, rfl⟩
  · exact .inr h

theorem optionalRun_ascii (h : optionalRun? cs = some ds)
    (ha : IsAscii cs) : AreDigits (plain cs) ∧ (plain cs).map charValue = ds := by
  rcases optionalRun_cases h with ⟨rfl, rfl⟩ | h
  · exact ⟨by simp [AreDigits, plain], rfl⟩
  · have hrun := run_ascii h ha
    exact ⟨hrun.1, hrun.2.2⟩

theorem takeOptionalRun_ascii (h : optionalRun? cs = some ds)
    (ha : IsAscii cs) (hx : EndsRun Char.isDigit x) :
    takeOptionalRun (cs ++ x) = some (plain cs, x) := by
  rcases optionalRun_cases h with ⟨rfl, rfl⟩ | h
  · cases x with
    | nil => rfl
    | cons c x => simp [takeOptionalRun, hx.1, plain]
  · have hrun := takeRun_ascii h ha hx []
    obtain ⟨c, rest, v, rfl, hv⟩ := head_of_digitRun? h
    have hdigit := (digitValue?_ascii hv (ha c (by simp))).1
    rw [cons_append] at hrun ⊢
    simpa [takeOptionalRun, hdigit] using hrun

theorem takeFraction_ascii (h : p.Reads d) (ha : IsAscii p.dotted)
    (hx : EndsRun Char.isDigit x) (hdot : ∀ c ∈ x.head?, c ≠ '.') :
    takeFraction (p.dotted ++ x) = some (p.fraction.map plain, x) := by
  have hfraction := h.fraction
  unfold Parts.dotted at ha ⊢
  cases hf : p.fraction with
  | none =>
    cases x with
    | nil => rfl
    | cons c x =>
      simp only [nil_append, Option.map_none]
      unfold takeFraction
      split
      · rename_i heq
        exact absurd (List.cons.inj heq).1 (hdot c rfl)
      · rfl
  | some ds =>
    rw [hf] at ha hfraction
    have hrun := takeOptionalRun_ascii hfraction (fun c hc => ha c (mem_cons_of_mem _ hc)) hx
    rw [Option.getD_some] at hrun
    simp [takeFraction, hrun]

theorem takeSign_sign {sign : List Char} {c : Char} {v : Nat}
    (hsign : sign = [] ∨ sign = ['+'] ∨ sign = ['-']) (hv : digitValue? c = some v)
    (rest x : List Char) : takeSign (sign ++ (c :: rest) ++ x) = (sign, c :: rest ++ x) := by
  rcases hsign with rfl | rfl | rfl
  · unfold takeSign
    split
    · rename_i heq
      rw [(List.cons.inj heq).1] at hv
      cases hv
    · rename_i heq
      rw [(List.cons.inj heq).1] at hv
      cases hv
    · rfl
  · rfl
  · rfl

theorem takePower_ascii (h : Raised cs e) (ha : IsAscii cs)
    (hx : Quits x) : takePower (cs ++ x) = some (plain cs, x) := by
  cases h with
  | absent =>
    cases x with
    | nil => rfl
    | cons c x =>
      obtain ⟨-, hmarks, -⟩ := hx c rfl
      simp only [mem_cons, not_mem_nil, or_false, not_or] at hmarks
      simp [takePower, hmarks, plain]
  | @present mark sign ds ns hmark hsign hds =>
    have hrun := takeRun_ascii hds (fun c hc => ha c (by simp [hc])) hx.endsRun []
    obtain ⟨c, rest, v, rfl, hv⟩ := head_of_digitRun? hds
    have hdigit := (digitValue?_ascii hv (ha c (by simp))).1
    have hsigned := takeSign_sign hsign hv rest x
    have hplain : plain (mark :: (sign ++ c :: rest)) = mark :: (sign ++ plain (c :: rest)) := by
      rcases hmark with rfl | rfl <;> rcases hsign with rfl | rfl | rfl <;> rfl
    have hstart : startsWith Char.isDigit (c :: rest ++ x) = true := hdigit
    have hmarked : (mark == 'e' || mark == 'E') = true := by
      rcases hmark with rfl | rfl <;> rfl
    rw [cons_append, takePower, if_pos hmarked, hsigned]
    simp only [hstart, if_true, hrun, Option.map_some, hplain, reverse_nil, nil_append]
    rfl

/-- The parts of a numeral without the underscores, as they stand for its value: in front of the
point there is a digit. -/
def Parts.tidied (p : Parts) : Parts :=
  ⟨if p.whole = [] then ['0'] else plain p.whole, some (plain (p.fraction.getD [])), plain p.raised⟩

theorem Raised.tidied (h : Raised cs e) (ha : IsAscii cs) :
    Raised (plain cs) e := by
  cases h with
  | absent => exact .absent
  | @present mark sign ds ns hmark hsign hds =>
    obtain ⟨hdigits, hne, rfl⟩ := run_ascii hds fun c hc => ha c (by simp [hc])
    have hplain : plain (mark :: (sign ++ ds)) = mark :: (sign ++ plain ds) := by
      rcases hmark with rfl | rfl <;> rcases hsign with rfl | rfl | rfl <;> rfl
    rw [hplain]
    exact .present hmark hsign (digitRun?_digits hne hdigits)

theorem Parts.Reads.tidied (h : p.Reads d) (ha : IsAscii p.text) :
    p.tidied.Reads ⟨if p.whole = [] then [0] else d.whole, d.fraction, d.exponent⟩ := by
  obtain ⟨hwhole, hwholeDigits⟩ := optionalRun_ascii h.whole ha.whole
  obtain ⟨hfraction, hfractionDigits⟩ := optionalRun_ascii h.fraction ha.fraction
  refine ⟨?_, ?_, h.raised.tidied ha.raised, ?_⟩
  · simp only [Parts.tidied]
    split
    · rfl
    · rw [optionalRun?_digits hwhole, hwholeDigits]
  · simp only [Parts.tidied, Option.getD_some]
    rw [optionalRun?_digits hfraction, hfractionDigits]
  · rintro ⟨hnil, hnone⟩
    simp only at hnil hnone
    split at hnil
    · cases hnil
    · exact h.digits ⟨hnil, hnone⟩

theorem Parts.Reads.range (h : p.Reads d) {c : Char} (hc : c ∈ p.text) (ha : c.toNat < 0x80) :
    43 ≤ c.toNat ∧ c.toNat ≤ 101 := by
  rcases h.char hc with ⟨v, hv⟩ | hc
  · have := range_of_isDigit (digitValue?_ascii hv ha).1
    omega
  · have hall : ∀ c ∈ ['_', '.', 'e', 'E', '+', '-'], 43 ≤ c.toNat ∧ c.toNat ≤ 101 :=
      forall_mem_of_all (by decide)
    exact hall c hc

theorem Parts.Reads.readFloat? (h : p.Reads d) (ha : IsAscii p.text) {c : Char}
    (htext : p.text = c :: rest) (hc : c.isDigit = true) :
    readFloat? (String.ofList p.text) = some (d.toFloat false) := by
  have hread := readFloat?_of_digit false htext hc fun e he =>
    isPadding_of_range (h.range he (ha e he))
  rwa [h.decimalText?] at hread

/-- **What the lexer takes a numeral with a point or an exponent for.** -/
theorem decimalValue_tidied (h : p.Reads d) (ha : IsAscii p.text) :
    decimalValue p.tidied.text = .float (d.toFloat false) := by
  have htidied := h.tidied ha
  have hstart : ∃ c rest, p.tidied.whole = c :: rest ∧ AreDigits (c :: rest) := by
    simp only [Parts.tidied]
    split
    · exact ⟨'0', [], rfl, by simp [AreDigits]⟩
    · rename_i hne
      rcases optionalRun_cases h.whole with ⟨hnil, -⟩ | hrun
      · exact absurd hnil hne
      · obtain ⟨hdigits, hcons, -⟩ := run_ascii hrun ha.whole
        obtain ⟨c, rest, hc⟩ := exists_cons_of_ne_nil hcons
        exact ⟨c, rest, hc, hc ▸ hdigits⟩
  obtain ⟨c, rest, hcons, hdigits⟩ := hstart
  have htext : p.tidied.text = c :: (rest ++ (p.tidied.dotted ++ p.tidied.raised)) := by
    rw [Parts.text, hcons, cons_append]
  have hascii : IsAscii p.tidied.text := by
    have hplain : ∀ {cs : List Char} {c : Char}, c ∈ plain cs → c ∈ cs := fun hc =>
      (mem_filter.mp hc).1
    intro c hc
    rw [Parts.text, mem_append, mem_append] at hc
    rcases hc with hc | hc | hc
    · rw [hcons] at hc
      have := range_of_isDigit (hdigits c hc)
      omega
    · rcases mem_cons.mp hc with rfl | hc
      · decide
      · exact ha.fraction c (hplain hc)
    · exact ha.raised c (hplain hc)
  rw [decimalValue, htidied.readFloat? hascii htext (hdigits c (by simp)), Option.getD_some]
  split
  · rename_i hnil
    have hnone : d.whole = [] := by
      have hread := h.whole
      rw [hnil] at hread
      exact (Option.some.inj hread).symm
    simp [DecimalText.toFloat, hnone]
  · rfl

def Parts.marked (p : Parts) : Bool :=
  p.fraction.isSome || !p.raised.isEmpty

theorem Parts.Reads.marked_iff (h : p.Reads d) :
    p.marked = true ↔ ∃ c ∈ p.text, c = '.' ∨ c = 'e' ∨ c = 'E' := by
  simp only [Parts.marked, Bool.or_eq_true, Bool.not_eq_true', Parts.text, Parts.dotted]
  constructor
  · rintro (hsome | hraised)
    · obtain ⟨ds, hds⟩ := Option.isSome_iff_exists.mp hsome
      exact ⟨'.', by simp [hds], .inl rfl⟩
    · obtain ⟨c, rest, hcons⟩ := exists_cons_of_ne_nil (isEmpty_eq_false_iff.mp hraised)
      exact ⟨c, by simp [hcons], .inr (h.raised.head c (by simp [hcons]))⟩
  · rintro ⟨c, hc, hmark⟩
    have hne : c ∉ p.whole := not_mem_run h.whole (by rcases hmark with rfl | rfl | rfl <;> simp)
    cases hf : p.fraction with
    | some ds => exact .inl rfl
    | none =>
      rw [hf] at hc
      refine .inr ?_
      simp only [nil_append, mem_append, hne, false_or] at hc
      cases hr : p.raised with
      | nil => rw [hr] at hc; cases hc
      | cons => rfl

theorem Raised.isEmpty_plain (h : Raised cs e) :
    (plain cs).isEmpty = cs.isEmpty := by
  cases h with
  | absent => rfl
  | present hmark _ _ => rcases hmark with rfl | rfl <;> rfl

theorem Parts.Reads.whole_ne (h : p.Reads d) (hmarked : p.marked = false) : p.whole ≠ [] := by
  intro hnil
  have hwhole := h.whole
  have hfraction := h.fraction
  cases hf : p.fraction with
  | none =>
    rw [hnil] at hwhole
    rw [hf] at hfraction
    exact h.digits ⟨(Option.some.inj hwhole).symm, (Option.some.inj hfraction).symm⟩
  | some ds => simp [Parts.marked, hf] at hmarked

theorem partsValue_marked (h : p.Reads d) (ha : IsAscii p.text)
    (hmarked : p.marked = true) :
    partsValue p.tidied.whole (p.fraction.map plain) (plain p.raised) =
      .float (d.toFloat false) := by
  have hfraction : (p.fraction.map plain).getD [] = plain (p.fraction.getD []) := by
    cases p.fraction <;> rfl
  have htext : p.tidied.whole ++ '.' :: (p.fraction.map plain).getD [] ++ plain p.raised =
      p.tidied.text := by
    rw [hfraction, append_assoc]
    rfl
  have hcondition : (p.fraction.isSome || !p.raised.isEmpty) = true := hmarked
  rw [partsValue, Option.isSome_map, h.raised.isEmpty_plain, if_pos hcondition, htext,
    decimalValue_tidied h ha]

theorem partsValue_whole (h : p.Reads d) (ha : IsAscii p.text)
    (hmarked : p.marked = false) :
    partsValue (plain p.whole) (p.fraction.map plain) (plain p.raised) =
      .int (ofDigits d.whole) := by
  have hdigits := (optionalRun_ascii h.whole ha.whole).2
  rw [partsValue, Option.isSome_map, h.raised.isEmpty_plain,
    if_neg (by simpa [Parts.marked] using hmarked), ← hdigits]
  rfl

theorem endsRun_raised (h : p.Reads d) (hx : Quits x) :
    EndsRun Char.isDigit (p.raised ++ x) ∧ ∀ c ∈ (p.raised ++ x).head?, c ≠ '.' := by
  cases hr : p.raised with
  | nil =>
    refine ⟨hx.endsRun, fun c hc he => ?_⟩
    exact (hx c hc).2.1 (by simp [he])
  | cons c cs =>
    have hc := h.raised.head c (by rw [hr]; rfl)
    refine ⟨?_, fun e he => ?_⟩
    · rcases hc with rfl | rfl <;> exact ⟨by decide, by decide⟩
    · cases he
      rcases hc with rfl | rfl <;> decide

theorem endsRun_dotted (h : p.Reads d) (hx : Quits x) :
    EndsRun Char.isDigit (p.dotted ++ (p.raised ++ x)) := by
  unfold Parts.dotted
  cases p.fraction with
  | none => exact (endsRun_raised h hx).1
  | some ds => exact ⟨by decide, by decide⟩

theorem afterWhole_ascii (h : p.Reads d) (ha : IsAscii p.text)
    (hx : Quits x) (whole : List Char) :
    afterWhole whole (p.dotted ++ (p.raised ++ x)) =
      if canEnd x then
        match partsValue whole (p.fraction.map plain) (plain p.raised) with
        | .int i => if isWhole whole then some (.int i, x) else none
        | v => some (v, x)
      else none := by
  have hends := endsRun_raised h hx
  have hfraction := takeFraction_ascii h ha.dotted hends.1 hends.2
  have hpower := takePower_ascii h.raised ha.raised hx
  rw [afterWhole, hfraction, Option.bind_some]
  simp only [hpower, Option.bind_some, hx.finish]
  cases canEnd x with
  | false => rfl
  | true =>
    simp only [if_true, Option.bind_some]
    cases partsValue whole (p.fraction.map plain) (plain p.raised) <;> rfl

theorem not_baseMark (h : p.Reads d) {c : Char} (hwhole : p.whole = c :: rest)
    (hx : Quits x) : ∀ e ∈ (rest ++ (p.dotted ++ (p.raised ++ x))).head?, e ∉ baseMarks := by
  have hall : ∀ e ∈ baseMarks, e ≠ '_' ∧ digitValue? e = none ∧ e ≠ '.' ∧ e ≠ 'e' ∧ e ≠ 'E' :=
    forall_mem_of_all (by decide)
  intro e he hm
  obtain ⟨hunder, hvalue, hdot, hlower, hupper⟩ := hall e hm
  cases hrest : rest with
  | cons a rest =>
    rw [hrest] at he
    cases he
    rcases mem_optionalRun h.whole (c := e) (by simp [hwhole, hrest]) with rfl | ⟨v, hv⟩
    · exact hunder rfl
    · rw [hvalue] at hv
      cases hv
  | nil =>
    rw [hrest, nil_append] at he
    unfold Parts.dotted at he
    cases hf : p.fraction with
    | some ds =>
      rw [hf] at he
      cases he
      exact hdot rfl
    | none =>
      rw [hf, nil_append] at he
      cases hr : p.raised with
      | cons a cs =>
        rw [hr] at he
        cases he
        rcases h.raised.head e (by rw [hr]; rfl) with rfl | rfl
        · exact hlower rfl
        · exact hupper rfl
      | nil =>
        rw [hr] at he
        exact (hx e he).2.2 hm

theorem Parts.Reads.start (h : p.Reads d) :
    (digitRun? p.whole = some d.whole ∧ ∃ c rest v, p.whole = c :: rest ∧ digitValue? c = some v) ∨
    p.whole = [] ∧ ∃ c rest v, p.fraction = some (c :: rest) ∧ digitValue? c = some v := by
  rcases optionalRun_cases h.whole with ⟨hnil, hnone⟩ | hrun
  · rcases optionalRun_cases h.fraction with ⟨-, hnone'⟩ | hrun
    · exact absurd ⟨hnone, hnone'⟩ h.digits
    · obtain ⟨c, rest, v, hcons, hv⟩ := head_of_digitRun? hrun
      cases hf : p.fraction with
      | none => rw [hf] at hcons; cases hcons
      | some ds =>
        rw [hf, Option.getD_some] at hcons
        exact .inr ⟨hnil, c, rest, v, congrArg some hcons, hv⟩
  · exact .inl ⟨hrun, head_of_digitRun? hrun⟩

/-- **A numeral in ASCII is one number**, if it can end where it does. -/
theorem number?_ascii (h : p.Reads d) (ha : IsAscii p.text) (hx : Quits x) :
    number? (p.text ++ x) =
      if canEnd x && (p.marked || isWhole (plain p.whole)) then
        some (if p.marked then .float (d.toFloat false) else .int (ofDigits d.whole), x)
      else none := by
  have hreassoc : p.text ++ x = p.whole ++ (p.dotted ++ (p.raised ++ x)) := by simp [Parts.text]
  have hafter := afterWhole_ascii h ha hx p.tidied.whole
  have hnumber : number? (p.text ++ x) =
      afterWhole p.tidied.whole (p.dotted ++ (p.raised ++ x)) := by
    rw [hreassoc]
    rcases h.start with ⟨hrun, c, rest, v, hcons, hv⟩ | ⟨hnil, c, rest, -, hf, -⟩
    · have hdigit := (digitValue?_ascii hv (ha c (by simp [Parts.text, hcons]))).1
      have htidied : p.tidied.whole = plain p.whole := if_neg (by simp [hcons])
      have htake := takeRun_ascii hrun ha.whole (endsRun_dotted h hx) []
      have hstart := number?_start hdigit (not_baseMark h hcons hx)
      rw [htidied]
      rw [hcons] at htake ⊢
      rw [cons_append, hstart, ← cons_append, htake, Option.bind_some]
      rfl
    · simp [hnil, Parts.dotted, hf, Parts.tidied, number?]
  rw [hnumber, hafter]
  cases hmarked : p.marked with
  | true => simp [partsValue_marked h ha hmarked]
  | false =>
    have htidied : p.tidied.whole = plain p.whole := if_neg (h.whole_ne hmarked)
    rw [htidied, partsValue_whole h ha hmarked]
    cases canEnd x <;> simp

/-- **A numeral in ASCII is one token**, if it can end where it does. -/
theorem token?_ascii (h : p.Reads d) (ha : IsAscii p.text) (hx : Quits x) :
    token? (p.text ++ x) =
      if canEnd x && (p.marked || isWhole (plain p.whole)) then
        some (.number (if p.marked then .float (d.toFloat false) else .int (ofDigits d.whole)), x)
      else none := by
  have hstart : ∃ c rest, p.text ++ x = c :: rest ∧
      (c.isDigit || (c == '.' && startsWith Char.isDigit rest)) = true := by
    rcases h.start with ⟨-, c, rest, v, hcons, hv⟩ | ⟨hnil, c, rest, v, hf, hv⟩
    · have hdigit := (digitValue?_ascii hv (ha c (by simp [Parts.text, hcons]))).1
      exact ⟨c, rest ++ (p.dotted ++ (p.raised ++ x)), by simp [Parts.text, hcons],
        by simp [hdigit]⟩
    · have hdigit := (digitValue?_ascii hv (ha c (by simp [Parts.text, Parts.dotted, hf]))).1
      exact ⟨'.', c :: rest ++ (p.raised ++ x), by simp [Parts.text, Parts.dotted, hnil, hf],
        by simp [startsWith, hdigit]⟩
  have hnumber := number?_ascii h ha hx
  obtain ⟨c, rest, hcons, hc⟩ := hstart
  rw [hcons] at hnumber ⊢
  rw [token?]
  simp only [hc, if_true, hnumber]
  split <;> rfl

/-! ## Numerals with other digits -/

theorem takeOptionalRun_stranger (h : optionalRun? cs = some ds)
    (hs : ∃ c ∈ cs, 0x80 ≤ c.toNat) {r : List Char}
    (htake : takeOptionalRun (cs ++ x) = some (r, rest)) :
    ∃ c more, rest = c :: more ∧ Stranger c := by
  rcases optionalRun_cases h with ⟨rfl, -⟩ | hrun
  · obtain ⟨c, hc, -⟩ := hs
    cases hc
  · obtain ⟨c, cs, v, rfl, hv⟩ := head_of_digitRun? hrun
    by_cases hwide : 0x80 ≤ c.toNat
    · have hstranger := stranger_of_digit hv hwide
      rw [cons_append, takeOptionalRun, hstranger.isDigit] at htake
      cases htake
      exact ⟨c, _, rfl, hstranger⟩
    · have hdigit := (digitValue?_ascii hv (by omega)).1
      rw [cons_append, takeOptionalRun, if_pos hdigit, ← cons_append] at htake
      exact takeRun_stranger hrun hs htake

/-- A mark of an exponent that no ASCII digit follows cannot end a number. -/
theorem finish_mark {mark c : Char} (hmark : mark = 'e' ∨ mark = 'E') (h : Stranger c) (v : Value)
    (x : List Char) : finish v (mark :: c :: x) = none := by
  have hfollowers : ∀ w ∈ followers, w.toList.isPrefixOf (mark :: c :: x) = false := by
    have hall : ∀ w ∈ followers, ∃ a b rest, w.toList = a :: b :: rest ∧ b.toNat < 0x80 := by
      intro w hw
      simp only [followers, mem_cons, not_mem_nil, or_false] at hw
      rcases hw with rfl | rfl | rfl | rfl | rfl | rfl | rfl | rfl <;>
        exact ⟨_, _, _, rfl, by decide⟩
    intro w hw
    obtain ⟨a, b, rest, hcons, hb⟩ := hall w hw
    simp [hcons, List.isPrefixOf, (h.ne hb).symm]
  have hcanEnd : canEnd (mark :: c :: x) = false := by
    have hword : isWordChar mark = true := by rcases hmark with rfl | rfl <;> decide
    simp only [canEnd, hword, Bool.not_true, Bool.false_or, any_eq_false]
    exact fun w hw => by simp [hfollowers w hw]
  rcases hmark with rfl | rfl <;> simp [finish, hcanEnd]

theorem takePower_stranger (h : Raised cs e) (hs : ∃ c ∈ cs, 0x80 ≤ c.toNat) {power : List Char}
    (htake : takePower (cs ++ x) = some (power, rest)) (v : Value) : finish v rest = none := by
  cases h with
  | absent =>
    obtain ⟨c, hc, -⟩ := hs
    cases hc
  | @present mark sign ds ns hmark hsign hds =>
    have hmarked : (mark == 'e' || mark == 'E') = true := by
      rcases hmark with rfl | rfl <;> rfl
    have hwide : ∃ c ∈ ds, 0x80 ≤ c.toNat := by
      obtain ⟨c, hc, hwide⟩ := hs
      rcases mem_cons.mp hc with rfl | hc
      · rcases hmark with rfl | rfl <;> exact absurd hwide (by decide)
      rcases mem_append.mp hc with hc | hc
      · rcases hsign with rfl | rfl | rfl <;> simp at hc <;> subst hc <;>
          exact absurd hwide (by decide)
      · exact ⟨c, hc, hwide⟩
    obtain ⟨c, more, n, rfl, hn⟩ := head_of_digitRun? hds
    have hsigned := takeSign_sign hsign hn more x
    rw [cons_append, takePower, if_pos hmarked, hsigned] at htake
    dsimp only at htake
    by_cases hc : 0x80 ≤ c.toNat
    · have hstranger := stranger_of_digit hn hc
      have hstart : startsWith Char.isDigit (c :: more ++ x) = false := hstranger.isDigit
      rw [hstart] at htake
      rcases hsign with rfl | rfl | rfl
      · cases htake
        exact finish_mark hmark hstranger v _
      · cases htake
      · cases htake
    · have hstart : startsWith Char.isDigit (c :: more ++ x) = true :=
        (digitValue?_ascii hn (by omega)).1
      rw [if_pos hstart] at htake
      obtain ⟨⟨r, tail⟩, hrun, heq⟩ := Option.map_eq_some_iff.mp htake
      obtain ⟨e, last, rfl, hstranger⟩ := takeRun_stranger hds hwide hrun
      cases heq
      exact hstranger.finish v last

theorem afterWhole_stranger (h : p.Reads d) (hs : ∃ c ∈ p.dotted ++ p.raised, 0x80 ≤ c.toNat)
    (hx : Quits x) (whole : List Char) : afterWhole whole (p.dotted ++ (p.raised ++ x)) = none := by
  by_cases hdotted : ∃ c ∈ p.dotted, 0x80 ≤ c.toNat
  · have hfraction := h.fraction
    unfold Parts.dotted at hdotted ⊢
    cases hf : p.fraction with
    | none =>
      rw [hf] at hdotted
      obtain ⟨c, hc, -⟩ := hdotted
      cases hc
    | some ds =>
      rw [hf] at hdotted hfraction
      have hds : ∃ c ∈ ds, 0x80 ≤ c.toNat := by
        obtain ⟨c, hc, hwide⟩ := hdotted
        rcases mem_cons.mp hc with rfl | hc
        · exact absurd hwide (by decide)
        · exact ⟨c, hc, hwide⟩
      cases hrun : takeOptionalRun (ds ++ (p.raised ++ x)) with
      | none => simp [afterWhole, takeFraction, hrun]
      | some r =>
        obtain ⟨c, more, hrest, hstranger⟩ := takeOptionalRun_stranger hfraction hds hrun
        simp [afterWhole, takeFraction, hrun, hrest, hstranger.takePower, hstranger.finish]
  · have hraised : ∃ c ∈ p.raised, 0x80 ≤ c.toNat := by
      obtain ⟨c, hc, hwide⟩ := hs
      rcases mem_append.mp hc with hc | hc
      · exact absurd ⟨c, hc, hwide⟩ hdotted
      · exact ⟨c, hc, hwide⟩
    have hends := endsRun_raised h hx
    have hascii : IsAscii p.dotted := fun c hc =>
      Nat.lt_of_not_le fun hwide => hdotted ⟨c, hc, hwide⟩
    rw [afterWhole, takeFraction_ascii h hascii hends.1 hends.2, Option.bind_some]
    dsimp only
    cases hpower : takePower (p.raised ++ x) with
    | none => rfl
    | some r =>
      obtain ⟨power, rest⟩ := r
      rw [Option.bind_some]
      dsimp only
      rw [takePower_stranger h.raised hraised hpower, Option.bind_none]

/-- **A numeral with digits outside ASCII is no token**; only a point in front of one may be. -/
theorem token?_stranger (h : p.Reads d) (hs : ∃ c ∈ p.text, 0x80 ≤ c.toNat) (hx : Quits x) :
    token? (p.text ++ x) = none ∨
      ∃ c rest, token? (p.text ++ x) = some (.op ".", c :: rest) ∧ Stranger c := by
  have hreassoc : p.text ++ x = p.whole ++ (p.dotted ++ (p.raised ++ x)) := by simp [Parts.text]
  rw [hreassoc]
  rcases h.start.symm with ⟨hnil, c, rest, v, hf, hv⟩ | ⟨hrun, c, rest, v, hcons, hv⟩
  · have hafter : (∃ c ∈ p.dotted ++ p.raised, 0x80 ≤ c.toNat) := by
      simpa [Parts.text, hnil] using hs
    have hfails := afterWhole_stranger h hafter hx ['0']
    have hdotted : p.dotted = '.' :: c :: rest := by rw [Parts.dotted, hf]
    rw [hdotted] at hfails
    rw [hnil, hdotted, nil_append]
    by_cases hwide : 0x80 ≤ c.toNat
    · have hstranger := stranger_of_digit hv hwide
      refine .inr ⟨c, rest ++ (p.raised ++ x), ?_, hstranger⟩
      have hdot : ('.' == c) = false := beq_eq_false_iff_ne.mpr (hstranger.ne (by decide)).symm
      have hoperator : operator? ('.' :: c :: (rest ++ (p.raised ++ x))) = some "." := by
        simp [operator?, operators, List.isPrefixOf, hdot]
      have hstart : ('.'.isDigit || ('.' == '.' && startsWith Char.isDigit
          (c :: (rest ++ (p.raised ++ x))))) = false := hstranger.isDigit
      rw [cons_append, cons_append, token?]
      simp only [hstart, Bool.false_eq_true, if_false, hoperator]
      rfl
    · have hdigit := (digitValue?_ascii hv (by omega)).1
      left
      rw [cons_append, cons_append] at hfails ⊢
      rw [token?, if_pos (by simp [startsWith, hdigit]), number?, hfails]
      rfl
  · left
    by_cases hwide : 0x80 ≤ c.toNat
    · rw [hcons, cons_append]
      exact (stranger_of_digit hv hwide).token? _
    have hdigit := (digitValue?_ascii hv (by omega)).1
    have hnumber : number? (p.whole ++ (p.dotted ++ (p.raised ++ x))) = none := by
      have hstart := number?_start hdigit (not_baseMark h hcons hx)
      rw [← cons_append, ← hcons] at hstart
      rw [hstart]
      by_cases hwhole : ∃ c ∈ p.whole, 0x80 ≤ c.toNat
      · cases htake : takeRun Char.isDigit [] (p.whole ++ (p.dotted ++ (p.raised ++ x))) with
        | none => rfl
        | some r =>
          obtain ⟨e, more, hrest, hstranger⟩ := takeRun_stranger hrun hwhole htake
          rw [Option.bind_some, hrest, hstranger.afterWhole]
      · have hafter : (∃ c ∈ p.dotted ++ p.raised, 0x80 ≤ c.toNat) := by
          obtain ⟨e, he, hew⟩ := hs
          rw [Parts.text, mem_append] at he
          rcases he with he | he
          · exact absurd ⟨e, he, hew⟩ hwhole
          · exact ⟨e, he, hew⟩
        have hascii : IsAscii p.whole := fun c hc =>
          Nat.lt_of_not_le fun hwide => hwhole ⟨c, hc, hwide⟩
        rw [takeRun_ascii hrun hascii (endsRun_dotted h hx) [], Option.bind_some]
        exact afterWhole_stranger h hafter hx _
    rw [hcons, cons_append] at hnumber ⊢
    rw [token?, if_pos (by simp [hdigit]), hnumber]
    rfl

end

end Sketchflow.Script
