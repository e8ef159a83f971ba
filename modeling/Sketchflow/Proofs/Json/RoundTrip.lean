import Sketchflow.Proofs.Json.Document
import Sketchflow.Proofs.Json.Tokens

/-!
# Documents read back

* `readValue_write`, `readItems_write`, `readFields_write`: what is written for such a value, for
  the items of a list or for the fields of an object is read as it, whatever follows. The induction
  is on the value; the bound of the reader covers the characters that are left.
* **`read_writeIndented`**: a whole document is read as it. `isPlain_writeValue`: its text is
  printable ASCII and line feeds.
-/

namespace Sketchflow

open List

variable {c : Char} {fields : Fields} {cs rest text : List Char} {level level' : Nat}
  {name : String} {v : Value}

theorem Fields.set_new {value : Value}
    (h : name ∉ fields.map (·.1)) : set name value fields = fields ++ [(name, value)] := by
  induction fields with
  | nil => rfl
  | cons f rest ih =>
    rw [map_cons, mem_cons, not_or] at h
    rw [set, if_neg (by simpa using fun heq => h.1 heq.symm), ih h.2]
    rfl

namespace Json

/-! ## Blanks -/

/-- A text that does not start with a blank. -/
def Starts (cs : List Char) : Prop :=
  ∀ c ∈ cs.head?, isSpace c = false

theorem starts_cons (h : isSpace c = false) (cs : List Char) : Starts (c :: cs) := by
  rintro d hd
  cases hd
  exact h

theorem skip_append {a : List Char} (ha : ∀ c ∈ a, isSpace c = true) (hcs : Starts cs)
    (pos : Nat) : Cursor.skip ⟨pos, a ++ cs⟩ = ⟨pos + a.length, cs⟩ := by
  have hstop : cs.takeWhile isSpace = [] ∧ cs.dropWhile isSpace = cs := by
    cases cs with
    | nil => exact ⟨rfl, rfl⟩
    | cons c cs =>
      have hc := hcs c rfl
      simp [hc]
  rw [Cursor.skip]
  simp [takeWhile_append_of_pos ha, dropWhile_append_of_pos ha, hstop]

theorem skip_starts (h : Starts cs) (pos : Nat) : Cursor.skip ⟨pos, cs⟩ = ⟨pos, cs⟩ :=
  skip_append (a := []) nofun h pos

theorem toList_newLine (level : Nat) :
    (newLine level).toList = '\n' :: List.replicate (2 * level) ' ' := by
  rw [newLine, String.toList_append, String.toList_ofList (l := List.replicate (2 * level) ' ')]
  rfl

theorem skip_newLine (level : Nat) (h : Starts cs) (pos : Nat) :
    ∃ pos', Cursor.skip ⟨pos, (newLine level).toList ++ cs⟩ = ⟨pos', cs⟩ := by
  refine ⟨_, skip_append (fun c hc => ?_) h pos⟩
  rw [toList_newLine] at hc
  rcases mem_cons.mp hc with rfl | hc
  · rfl
  · rw [eq_of_mem_replicate hc]
    rfl

theorem closes_newLine (level : Nat) (cs : List Char) : Closes ((newLine level).toList ++ cs) := by
  rw [toList_newLine]
  rintro c hc
  cases hc
  exact .inr rfl

/-! ## First characters -/

/-- Whether a word or a number can start with a character. -/
def startsAtom (c : Char) : Bool :=
  c.isAlpha || c.isDigit || c == '-'

theorem readValue_atom (h : ∃ c cs, text = c :: cs ∧ startsAtom c = true) (fuel pos : Nat) :
    readValue (fuel + 1) ⟨pos, text ++ rest⟩ = readAtom ⟨pos, text ++ rest⟩ := by
  obtain ⟨c, cs, rfl, hc⟩ := h
  rw [readValue.eq_def]
  simp only [cons_append]
  split
  · rename_i heq
    rw [(List.cons.inj heq).1] at hc
    cases hc
  · rename_i heq
    rw [(List.cons.inj heq).1] at hc
    cases hc
  · rename_i heq
    rw [(List.cons.inj heq).1] at hc
    cases hc
  · rfl

/-- A first character that is read by the kind of the value it opens, and that closes nothing. -/
def startsValue (c : Char) : Bool :=
  startsAtom c || c == '"' || c == '[' || c == '\x7b'

theorem startsAtom_int (i : Int) : ∃ c cs, (toString i).toList = c :: cs ∧ startsAtom c = true := by
  rw [toString_int]
  by_cases h : i < 0
  · exact ⟨'-', _, by simp only [h, decide_true]; rfl, rfl⟩
  · obtain ⟨c, cs, hcons⟩ := exists_cons_of_ne_nil (Nat.toDigits_ne_nil (b := 10) (n := i.natAbs))
    have hc := Script.areDigits_toDigits i.natAbs c (by rw [hcons]; exact mem_cons_self ..)
    refine ⟨c, cs, ?_, by simp [startsAtom, hc]⟩
    simp only [h, decide_false]
    exact hcons

theorem startsAtom_float (x : Float) :
    ∃ c cs, (number.write x).toList = c :: cs ∧ startsAtom c = true := by
  cases h : Number.Binary64.ofFloat x with
  | notANumber =>
    rw [Number.Style.write, h]
    exact ⟨'N', _, rfl, rfl⟩
  | infinite negative =>
    rw [Number.Style.write, h]
    cases negative with
    | false => exact ⟨'I', _, rfl, rfl⟩
    | true => exact ⟨'-', _, rfl, rfl⟩
  | finite negative m e =>
    obtain ⟨n, htext, -, -⟩ := Number.write_finite h
    rw [number_write h, htext]
    cases negative with
    | true => exact ⟨'-', _, rfl, rfl⟩
    | false =>
      obtain ⟨c, whole, hwhole⟩ := exists_cons_of_ne_nil n.whole_ne
      have hc := n.whole_digits c (by rw [hwhole]; exact mem_cons_self ..)
      refine ⟨c, whole ++ (n.dotted ++ n.power), ?_, by simp [startsAtom, hc]⟩
      simp [Number.Numeral.text, hwhole]

theorem toList_writeString (s : String) :
    (writeString true s).toList = '"' :: (s.toList.flatMap (stringChar true) ++ ['"']) := by
  rw [writeString, String.toList_ofList]
  rfl

theorem toList_write_list (level : Nat) (v : Value) (items : List Value) :
    (writeValue level (.list (v :: items))).toList =
      '[' :: ((writeItems (level + 1) (v :: items)).toList ++
        ((newLine level).toList ++ [']'])) := by
  rw [writeValue, String.toList_append, String.toList_append, String.toList_append]
  · simp only [append_assoc]
    rfl
  · simp

theorem toList_write_object (level : Nat) (f : String × Value) (fields : Fields) :
    (writeValue level (.object (f :: fields))).toList =
      '\x7b' :: ((writeFields (level + 1) (f :: fields)).toList ++
        ((newLine level).toList ++ ['\x7d'])) := by
  rw [writeValue, String.toList_append, String.toList_append, String.toList_append]
  · simp only [append_assoc]
    rfl
  · simp

theorem startsValue_write (level : Nat) (h : v.isDocument = true) :
    ∃ c cs, (writeValue level v).toList = c :: cs ∧ startsValue c = true := by
  have hatom : ∀ {text : List Char}, (∃ c cs, text = c :: cs ∧ startsAtom c = true) →
      ∃ c cs, text = c :: cs ∧ startsValue c = true := by
    rintro text ⟨c, cs, htext, hc⟩
    exact ⟨c, cs, htext, by simp [startsValue, hc]⟩
  cases v with
  | null => exact ⟨'n', ['u', 'l', 'l'], by rw [writeValue]; rfl, rfl⟩
  | bool b =>
    cases b with
    | false => exact ⟨'f', ['a', 'l', 's', 'e'], by rw [writeValue]; rfl, rfl⟩
    | true => exact ⟨'t', ['r', 'u', 'e'], by rw [writeValue]; rfl, rfl⟩
  | int i => exact hatom (startsAtom_int i)
  | float x => exact hatom (startsAtom_float x)
  | str s => exact ⟨'"', _, toList_writeString s, rfl⟩
  | list items =>
    cases items with
    | nil => exact ⟨'[', [']'], by rw [writeValue]; rfl, rfl⟩
    | cons v items => exact ⟨'[', _, toList_write_list level v items, rfl⟩
  | object fields =>
    cases fields with
    | nil => exact ⟨'\x7b', ['\x7d'], by rw [writeValue]; rfl, rfl⟩
    | cons f fields => exact ⟨'\x7b', _, toList_write_object level f fields, rfl⟩
  | tuple _ => cases h
  | complex _ => cases h
  | nan _ => cases h
  | handle _ => cases h

theorem starts_of_startsValue (h : startsValue c = true) : isSpace c = false ∧ c ≠ ']' := by
  constructor
  · rw [Bool.eq_false_iff]
    intro hspace
    simp only [isSpace, Bool.or_eq_true, beq_iff_eq] at hspace
    rcases hspace with ((rfl | rfl) | rfl) | rfl <;> cases h
  · rintro rfl
    cases h

/-! ## Items and fields -/

/-- What follows the first of some items, up to what closes the list. -/
def itemsTail (level : Nat) (items : List Value) (close : List Char) : List Char :=
  match items with
  | [] => close
  | items => ',' :: ((writeItems level items).toList ++ close)

theorem writeItems_cons (level : Nat) (v : Value) (items : List Value) (close : List Char) :
    (writeItems level (v :: items)).toList ++ close =
      (newLine level).toList ++ ((writeValue level v).toList ++ itemsTail level items close) := by
  cases items with
  | nil => rw [writeItems, String.toList_append, append_assoc]; rfl
  | cons w items =>
    rw [writeItems, String.toList_append, String.toList_append, String.toList_append]
    · simp only [append_assoc]
      rfl
    · simp

/-- What follows the value of the first of some fields, up to what closes the object. -/
def fieldsTail (level : Nat) (fields : Fields) (close : List Char) : List Char :=
  match fields with
  | [] => close
  | fields => ',' :: ((writeFields level fields).toList ++ close)

theorem writeFields_cons (level : Nat) (name : String) (v : Value) (fields : Fields)
    (close : List Char) :
    (writeFields level ((name, v) :: fields)).toList ++ close =
      (newLine level).toList ++ ('"' :: (name.toList.flatMap (stringChar true) ++
        '"' :: ':' :: ' ' :: ((writeValue level v).toList ++ fieldsTail level fields close))) := by
  cases fields with
  | nil =>
    rw [writeFields, String.toList_append, String.toList_append, String.toList_append,
      toList_writeString]
    simp only [append_assoc, cons_append, nil_append]
    rfl
  | cons f fields =>
    rw [writeFields, String.toList_append, String.toList_append, String.toList_append,
      String.toList_append, String.toList_append, toList_writeString]
    · simp only [append_assoc, cons_append, nil_append]
      rfl
    · simp

theorem closes_itemsTail (level level' : Nat) (items : List Value) (cs : List Char) :
    Closes (itemsTail level items ((newLine level').toList ++ cs)) := by
  cases items with
  | nil => exact closes_newLine level' cs
  | cons v items =>
    rintro c hc
    cases hc
    exact .inl rfl

theorem closes_fieldsTail (level level' : Nat) (fields : Fields) (cs : List Char) :
    Closes (fieldsTail level fields ((newLine level').toList ++ cs)) := by
  cases fields with
  | nil => exact closes_newLine level' cs
  | cons f fields =>
    rintro c hc
    cases hc
    exact .inl rfl

theorem starts_write (level : Nat) (h : v.isDocument = true) (rest : List Char) :
    Starts ((writeValue level v).toList ++ rest) := by
  obtain ⟨c, cs, htext, hc⟩ := startsValue_write level h
  rw [htext]
  exact starts_cons (starts_of_startsValue hc).1 _

theorem length_newLine_pos (level : Nat) : 0 < (newLine level).toList.length := by
  rw [toList_newLine]
  exact Nat.succ_pos _

theorem length_writeItems (level : Nat) (v : Value) (items : List Value) :
    (writeValue level v).toList.length < (writeItems level (v :: items)).toList.length ∧
      (writeItems level items).toList.length < (writeItems level (v :: items)).toList.length := by
  have htext := congrArg List.length (writeItems_cons level v items [])
  have hline := length_newLine_pos level
  cases items with
  | nil =>
    simp only [append_nil, itemsTail, length_append] at htext
    rw [writeItems]
    exact ⟨by omega, by rw [show ("" : String).toList.length = 0 from rfl]; omega⟩
  | cons w items =>
    simp only [append_nil, itemsTail, length_append, length_cons] at htext
    omega

theorem length_writeFields (level : Nat) (name : String) (v : Value) (fields : Fields) :
    (writeValue level v).toList.length < (writeFields level ((name, v) :: fields)).toList.length ∧
      (writeFields level fields).toList.length <
        (writeFields level ((name, v) :: fields)).toList.length := by
  have htext := congrArg List.length (writeFields_cons level name v fields [])
  have hline := length_newLine_pos level
  cases fields with
  | nil =>
    simp only [append_nil, fieldsTail, length_append, length_cons] at htext
    rw [writeFields]
    exact ⟨by omega, by rw [show ("" : String).toList.length = 0 from rfl]; omega⟩
  | cons w fields =>
    simp only [append_nil, fieldsTail, length_append, length_cons] at htext
    omega

/-! ## Steps of the reader -/

theorem skip_items (level : Nat) (hv : v.isDocument = true) (items : List Value)
    (close : List Char) (pos : Nat) :
    ∃ pos', Cursor.skip ⟨pos, (writeItems level (v :: items)).toList ++ close⟩ =
      ⟨pos', (writeValue level v).toList ++ itemsTail level items close⟩ := by
  rw [writeItems_cons]
  exact skip_newLine level (starts_write level hv _) pos

theorem skip_fields (level : Nat) (name : String) (v : Value) (fields : Fields) (close : List Char)
    (pos : Nat) :
    ∃ pos', Cursor.skip ⟨pos, (writeFields level ((name, v) :: fields)).toList ++ close⟩ =
      ⟨pos', '"' :: (name.toList.flatMap (stringChar true) ++
        '"' :: ':' :: ' ' :: ((writeValue level v).toList ++ fieldsTail level fields close))⟩ := by
  rw [writeFields_cons]
  exact skip_newLine level (starts_cons rfl _) pos

section

variable {fuel pos pos' : Nat}

theorem readValue_fields (hskip : Cursor.skip ⟨pos + 1, text⟩ = ⟨pos', '"' :: cs⟩) :
    readValue (fuel + 1) ⟨pos, '\x7b' :: text⟩ = readFields fuel ⟨pos', '"' :: cs⟩ [] := by
  rw [readValue]
  simp only [hskip]
  rfl

theorem readItems_value {c : Cursor} {items : List Value} (done : List Value)
    (hread : readValue fuel c =
      .ok (v, ⟨pos, itemsTail level items ((newLine level').toList ++ ']' :: rest)⟩)) :
    ∃ pos', readItems (fuel + 1) c done =
      if items.isEmpty then .ok (.list (done.reverse ++ [v]), ⟨pos', rest⟩)
      else readItems fuel (Cursor.skip ⟨pos', (writeItems level items).toList ++
        ((newLine level').toList ++ ']' :: rest)⟩) (v :: done) := by
  cases items with
  | nil =>
    obtain ⟨pos', hskip⟩ :=
      skip_newLine level' (starts_cons (show isSpace ']' = false from rfl) rest) pos
    refine ⟨pos' + 1, ?_⟩
    rw [readItems, hread]
    simp only [itemsTail, hskip, reverse_cons]
    rfl
  | cons w items =>
    refine ⟨pos + 1, ?_⟩
    rw [readItems, hread]
    simp only [itemsTail]
    rw [skip_starts (starts_cons rfl _)]
    rfl

theorem readFields_value (done : Fields) (hstarts : Starts text)
    (hread : ∀ pos, ∃ pos', readValue fuel ⟨pos, text⟩ =
      .ok (v, ⟨pos', fieldsTail level fields ((newLine level').toList ++ '\x7d' :: rest)⟩)) :
    ∃ pos', readFields (fuel + 1) ⟨pos, '"' :: (name.toList.flatMap (stringChar true) ++
        '"' :: ':' :: ' ' :: text)⟩ done =
      if fields.isEmpty then .ok (.object (Fields.set name v done), ⟨pos', rest⟩)
      else readFields fuel (Cursor.skip ⟨pos', (writeFields level fields).toList ++
        ((newLine level').toList ++ '\x7d' :: rest)⟩) (Fields.set name v done) := by
  obtain ⟨pos₁, hname⟩ := readString_write true name (':' :: ' ' :: text) (pos + 1)
  have hcolon : Cursor.skip ⟨pos₁, ':' :: ' ' :: text⟩ = ⟨pos₁, ':' :: ' ' :: text⟩ :=
    skip_starts (starts_cons rfl _) pos₁
  have hblank : Cursor.skip ⟨pos₁ + 1, ' ' :: text⟩ = ⟨pos₁ + 1 + 1, text⟩ :=
    skip_append (a := [' ']) (fun c hc => by rw [mem_singleton.mp hc]; rfl) hstarts (pos₁ + 1)
  obtain ⟨pos₂, hvalue⟩ := hread (pos₁ + 1 + 1)
  cases fields with
  | nil =>
    obtain ⟨pos', hskip⟩ :=
      skip_newLine level' (starts_cons (show isSpace '\x7d' = false from rfl) rest) pos₂
    refine ⟨pos' + 1, ?_⟩
    rw [readFields]
    simp only [hname, hcolon, hblank, hvalue, fieldsTail, hskip]
    rfl
  | cons w fields =>
    refine ⟨pos₂ + 1, ?_⟩
    rw [readFields]
    simp only [hname, hcolon, hblank, hvalue, fieldsTail]
    rw [skip_starts (starts_cons rfl _)]
    rfl

end

mutual

/-- **What is written for a value is read as it.** -/
theorem readValue_write (v : Value) (hv : v.isDocument = true) (level fuel pos : Nat)
    (rest : List Char) (hfuel : (writeValue level v).toList.length < fuel) (hrest : Closes rest) :
    ∃ pos', readValue fuel ⟨pos, (writeValue level v).toList ++ rest⟩ = .ok (v, ⟨pos', rest⟩) := by
  obtain ⟨fuel, rfl⟩ := Nat.exists_eq_succ_of_ne_zero (Nat.ne_zero_of_lt hfuel)
  cases v with
  | null =>
    rw [writeValue]
    exact ⟨_, (readValue_atom ⟨'n', ['u', 'l', 'l'], rfl, rfl⟩ fuel pos).trans rfl⟩
  | bool b =>
    rw [writeValue]
    cases b with
    | false => exact ⟨_, (readValue_atom ⟨'f', ['a', 'l', 's', 'e'], rfl, rfl⟩ fuel pos).trans rfl⟩
    | true => exact ⟨_, (readValue_atom ⟨'t', ['r', 'u', 'e'], rfl, rfl⟩ fuel pos).trans rfl⟩
  | int i =>
    have hshort : Value.isLong i = false := by
      simpa [Value.isDocument, Value.isDocumentBy, Value.isShort] using hv
    rw [writeValue, readValue_atom (startsAtom_int i)]
    exact readAtom_int (Value.natAbs_lt_of_isLong hshort) hrest pos
  | float x =>
    rw [writeValue, readValue_atom (startsAtom_float x)]
    exact readAtom_float x hrest pos
  | str s =>
    obtain ⟨pos', hread⟩ := readString_write true s rest (pos + 1)
    refine ⟨pos', ?_⟩
    rw [writeValue, toList_writeString, readValue]
    simp only [cons_append, append_assoc, nil_append, hread]
    rfl
  | list items =>
    cases hitems : items with
    | nil =>
      rw [writeValue]
      exact ⟨_, rfl⟩
    | cons w ws =>
      subst hitems
      rw [Value.isDocument, Value.isDocumentBy] at hv
      have hw := hv
      rw [areDocumentsBy, Bool.and_eq_true] at hw
      rw [toList_write_list] at hfuel ⊢
      simp only [length_cons, length_append] at hfuel
      obtain ⟨pos₁, hskip⟩ := skip_items (level + 1) hw.1 ws
        ((newLine level).toList ++ ']' :: rest) (pos + 1)
      obtain ⟨pos', hread⟩ := readItems_write (w :: ws) hv (level + 1) level fuel (pos + 1) rest []
        (cons_ne_nil _ _) (by omega)
      obtain ⟨c, cs, htext, hc⟩ := startsValue_write (level + 1) hw.1
      refine ⟨pos', ?_⟩
      rw [hskip, htext, cons_append] at hread
      rw [htext, cons_append] at hskip
      simp only [cons_append, append_assoc, nil_append]
      rw [readValue]
      simp only [hskip]
      split
      · rename_i heq
        exact absurd (List.cons.inj heq).1 (starts_of_startsValue hc).2
      · rw [hread]
        rfl
  | object fields =>
    cases hfields : fields with
    | nil =>
      rw [writeValue]
      exact ⟨_, rfl⟩
    | cons f fs =>
      subst hfields
      rw [Value.isDocument, Value.isDocumentBy, Bool.and_eq_true, decide_eq_true_iff] at hv
      rw [toList_write_object] at hfuel ⊢
      simp only [length_cons, length_append] at hfuel
      obtain ⟨pos₁, hskip⟩ :=
        skip_fields (level + 1) f.1 f.2 fs ((newLine level).toList ++ '\x7d' :: rest) (pos + 1)
      obtain ⟨pos', hread⟩ :=
        readFields_write (f :: fs) hv.2 (level + 1) level fuel (pos + 1) rest []
        (cons_ne_nil _ _) hv.1 (by omega)
      refine ⟨pos', ?_⟩
      rw [hskip] at hread
      simp only [cons_append, append_assoc, nil_append]
      rw [readValue_fields hskip, hread]
      rfl
  | tuple _ => cases hv
  | complex _ => cases hv
  | nan _ => cases hv
  | handle _ => cases hv
termination_by structural v

theorem readItems_write (items : List Value) (hitems : areDocumentsBy Value.isShort items = true)
    (level level' fuel pos : Nat) (rest : List Char) (done : List Value) (hne : items ≠ [])
    (hfuel : (writeItems level items).toList.length < fuel) :
    ∃ pos', readItems fuel (Cursor.skip ⟨pos, (writeItems level items).toList ++
        ((newLine level').toList ++ ']' :: rest)⟩) done =
      .ok (.list (done.reverse ++ items), ⟨pos', rest⟩) := by
  cases items with
  | nil => exact absurd rfl hne
  | cons v items =>
    obtain ⟨fuel, rfl⟩ := Nat.exists_eq_succ_of_ne_zero (Nat.ne_zero_of_lt hfuel)
    rw [areDocumentsBy, Bool.and_eq_true] at hitems
    have hlength := length_writeItems level v items
    obtain ⟨pos₁, hskip⟩ :=
      skip_items level hitems.1 items ((newLine level').toList ++ ']' :: rest) pos
    obtain ⟨pos₂, hread⟩ := readValue_write v hitems.1 level fuel pos₁
      (itemsTail level items ((newLine level').toList ++ ']' :: rest)) (by omega)
      (closes_itemsTail level level' items _)
    obtain ⟨pos₃, hstep⟩ := readItems_value done hread
    rw [hskip, hstep]
    cases hrest : items with
    | nil => exact ⟨pos₃, rfl⟩
    | cons w ws =>
      obtain ⟨pos', hitems'⟩ :=
        readItems_write items hitems.2 level level' fuel pos₃ rest (v :: done)
        (by rw [hrest]; exact cons_ne_nil _ _) (by omega)
      refine ⟨pos', ?_⟩
      rw [hrest, reverse_cons, append_assoc] at hitems'
      exact hitems'
termination_by structural items

theorem readFields_write (fields : Fields)
    (hfields : areFieldDocumentsBy Value.isShort fields = true)
    (level level' fuel pos : Nat) (rest : List Char) (done : Fields) (hne : fields ≠ [])
    (hnames : ((done ++ fields).map (·.1)).Nodup)
    (hfuel : (writeFields level fields).toList.length < fuel) :
    ∃ pos', readFields fuel (Cursor.skip ⟨pos, (writeFields level fields).toList ++
        ((newLine level').toList ++ '\x7d' :: rest)⟩) done =
      .ok (.object (done ++ fields), ⟨pos', rest⟩) := by
  cases fields with
  | nil => exact absurd rfl hne
  | cons f fields =>
    obtain ⟨name, v⟩ := f
    obtain ⟨fuel, rfl⟩ := Nat.exists_eq_succ_of_ne_zero (Nat.ne_zero_of_lt hfuel)
    rw [areFieldDocumentsBy, Bool.and_eq_true] at hfields
    have hlength := length_writeFields level name v fields
    have hnew : Fields.set name v done = done ++ [(name, v)] := by
      refine Fields.set_new fun hmem => ?_
      rw [map_append, map_cons, nodup_append] at hnames
      exact hnames.2.2 name hmem name (mem_cons_self ..) rfl
    obtain ⟨pos₁, hskip⟩ :=
      skip_fields level name v fields ((newLine level').toList ++ '\x7d' :: rest) pos
    have hread := fun pos => readValue_write v hfields.1 level fuel pos
      (fieldsTail level fields ((newLine level').toList ++ '\x7d' :: rest)) (by omega)
      (closes_fieldsTail level level' fields _)
    obtain ⟨pos₂, hstep⟩ :=
      readFields_value done (starts_write level hfields.1 _) hread
    rw [hskip, hstep, hnew]
    cases hrest : fields with
    | nil => exact ⟨pos₂, rfl⟩
    | cons w ws =>
      obtain ⟨pos', hfields'⟩ := readFields_write fields hfields.2 level level' fuel pos₂ rest
        (done ++ [(name, v)]) (by rw [hrest]; exact cons_ne_nil _ _)
        (by rw [append_assoc]; exact hnames) (by omega)
      refine ⟨pos', ?_⟩
      rw [hrest, append_assoc] at hfields'
      exact hfields'
termination_by structural fields

end

/-! ## Characters -/

/-- Whether a character can stand in the text of a document: printable ASCII or a line feed. -/
def isPlain (c : Char) : Bool :=
  (0x20 ≤ c.toNat && c.toNat < 0x7f) || c == '\n'

theorem isPlain_of_range (h : 0x20 ≤ c.toNat ∧ c.toNat < 0x7f) : isPlain c = true := by
  simp [isPlain, h]

/-- A text of such characters. -/
def IsPlain (s : String) : Prop :=
  ∀ c ∈ s.toList, isPlain c = true

theorem IsPlain.append {s t : String} (hs : IsPlain s) (ht : IsPlain t) : IsPlain (s ++ t) := by
  intro c hc
  rw [String.toList_append, mem_append] at hc
  exact hc.elim (hs c) (ht c)

theorem isPlain_of_all {s : String} (h : s.toList.all isPlain = true) : IsPlain s :=
  all_eq_true.mp h

theorem isPlain_newLine (level : Nat) : IsPlain (newLine level) := by
  intro c hc
  rw [toList_newLine] at hc
  rcases mem_cons.mp hc with rfl | hc
  · rfl
  · rw [eq_of_mem_replicate hc]
    rfl

theorem isPlain_unitEscape {n : Nat} (h : n < 0x10000) (hc : c ∈ unitEscape n) :
    isPlain c = true := by
  have hdigit : ∀ d < 16, isPlain (Nat.digitChar d) = true := by decide
  have hmem : ∀ {width : Nat}, 0 < width → ∀ {n : Nat}, n < 16 ^ width → c ∈ Text.hex width n →
      isPlain c = true := by
    intro width hwidth
    induction width with
    | zero => exact absurd hwidth (Nat.lt_irrefl 0)
    | succ width ih =>
      intro n hn hc
      rcases Nat.eq_zero_or_pos width with rfl | hpos
      · rw [Text.hex, Nat.toDigits_of_lt_base (by simpa using hn)] at hc
        rw [mem_singleton.mp hc]
        exact hdigit n (by simpa using hn)
      · rw [hex_succ hpos, mem_append] at hc
        rcases hc with hc | hc
        · exact ih hpos (by rw [pow_succ] at hn; omega) hc
        · rw [mem_singleton.mp hc]
          exact hdigit _ (Nat.mod_lt _ (by decide))
  rcases mem_cons.mp hc with rfl | hc
  · rfl
  · rcases mem_cons.mp hc with rfl | hc
    · rfl
    · exact hmem (by decide) (show n < 16 ^ 4 from h) hc

theorem isPlain_writeString (s : String) : IsPlain (writeString true s) := by
  intro c hc
  rw [toList_writeString, mem_cons, mem_append, mem_singleton] at hc
  rcases hc with rfl | hc | rfl
  · rfl
  · obtain ⟨d, -, hd⟩ := mem_flatMap.mp hc
    rcases stringChar_cases d with ⟨h, -, -, hrange⟩ | ⟨k, h, -, hlow, hhigh, -⟩ |
      ⟨h, hunit⟩ | ⟨h, -⟩
    · rw [h, mem_singleton] at hd
      rw [hd]
      exact isPlain_of_range hrange
    · rw [h, mem_cons, mem_singleton] at hd
      rcases hd with rfl | rfl
      · rfl
      · exact isPlain_of_range ⟨hlow, hhigh⟩
    · rw [h] at hd
      exact isPlain_unitEscape hunit hd
    · rw [h, mem_append] at hd
      exact hd.elim (isPlain_unitEscape (highOf_lt d)) (isPlain_unitEscape (lowOf_lt d))
  · rfl

theorem isPlain_int (i : Int) : IsPlain (toString i) := by
  intro c hc
  rw [toString_int, mem_append] at hc
  rcases hc with hc | hc
  · unfold signText at hc
    split at hc
    · rw [mem_singleton.mp hc]
      rfl
    · cases hc
  · have := Number.range_of_isDigit (Script.areDigits_toDigits i.natAbs c hc)
    exact isPlain_of_range (by omega)

theorem isPlain_float (x : Float) : IsPlain (number.write x) := by
  cases h : Number.Binary64.ofFloat x with
  | notANumber =>
    rw [Number.Style.write, h]
    exact isPlain_of_all rfl
  | infinite negative =>
    rw [Number.Style.write, h]
    cases negative <;> exact isPlain_of_all rfl
  | finite negative m e =>
    obtain ⟨n, htext, -, -⟩ := Number.write_finite h
    intro c hc
    rw [number_write h, htext, mem_append] at hc
    rcases hc with hc | hc
    · split at hc
      · rw [mem_singleton.mp hc]
        rfl
      · cases hc
    · have := n.range_of_mem hc
      exact isPlain_of_range (by omega)

mutual

theorem isPlain_writeValue (level : Nat) (v : Value) : IsPlain (writeValue level v) := by
  have hclosed : ∀ {opening body closing : String}, IsPlain opening → IsPlain body →
      IsPlain closing → IsPlain (opening ++ body ++ newLine level ++ closing) := fun ho hb hc =>
    ((ho.append hb).append (isPlain_newLine level)).append hc
  cases v with
  | null => rw [writeValue]; exact isPlain_of_all rfl
  | bool b => rw [writeValue]; cases b <;> exact isPlain_of_all rfl
  | int i => rw [writeValue]; exact isPlain_int i
  | float x => rw [writeValue]; exact isPlain_float x
  | str s => rw [writeValue]; exact isPlain_writeString s
  | list items =>
    have hbody := isPlain_writeItems (level + 1) items
    cases items with
    | nil => rw [writeValue]; exact isPlain_of_all rfl
    | cons w ws =>
      rw [writeValue]
      · exact hclosed (isPlain_of_all rfl) hbody (isPlain_of_all rfl)
      · exact cons_ne_nil _ _
  | object fields =>
    have hbody := isPlain_writeFields (level + 1) fields
    cases fields with
    | nil => rw [writeValue]; exact isPlain_of_all rfl
    | cons w ws =>
      rw [writeValue]
      · exact hclosed (isPlain_of_all rfl) hbody (isPlain_of_all rfl)
      · exact cons_ne_nil _ _
  | tuple items =>
    have hbody := isPlain_writeItems (level + 1) items
    cases items with
    | nil => rw [writeValue]; exact isPlain_of_all rfl
    | cons w ws =>
      rw [writeValue]
      · exact hclosed (isPlain_of_all rfl) hbody (isPlain_of_all rfl)
      · exact cons_ne_nil _ _
  | complex _ => rw [writeValue]; exact isPlain_of_all rfl
  | nan _ => rw [writeValue]; exact isPlain_of_all rfl
  | handle _ => rw [writeValue]; exact isPlain_of_all rfl
termination_by structural v

theorem isPlain_writeItems (level : Nat) (items : List Value) :
    IsPlain (writeItems level items) := by
  cases items with
  | nil => rw [writeItems]; exact isPlain_of_all rfl
  | cons v items =>
    have hv := (isPlain_newLine level).append (isPlain_writeValue level v)
    have hrest := isPlain_writeItems level items
    cases items with
    | nil => rw [writeItems]; exact hv
    | cons w items =>
      rw [writeItems]
      · exact (hv.append (isPlain_of_all rfl)).append hrest
      · exact cons_ne_nil _ _
termination_by structural items

theorem isPlain_writeFields (level : Nat) (fields : List (String × Value)) :
    IsPlain (writeFields level fields) := by
  cases fields with
  | nil => rw [writeFields]; exact isPlain_of_all rfl
  | cons f fields =>
    obtain ⟨name, v⟩ := f
    have hv := (((isPlain_newLine level).append (isPlain_writeString name)).append
      (isPlain_of_all (s := ": ") rfl)).append (isPlain_writeValue level v)
    have hrest := isPlain_writeFields level fields
    cases fields with
    | nil => rw [writeFields]; exact hv
    | cons w fields =>
      rw [writeFields]
      · exact (hv.append (isPlain_of_all rfl)).append hrest
      · exact cons_ne_nil _ _
termination_by structural fields

end

/-! ## Whole documents -/

/-- **A whole document is read as it.** -/
theorem read_writeIndented (h : v.isDocument = true) : read (writeIndented v) = .ok v := by
  obtain ⟨c, cs, htext, hc⟩ := startsValue_write 0 h
  obtain ⟨pos', hread⟩ := readValue_write v h 0 (2 * (writeIndented v).toList.length + 2) 0 []
    (by unfold writeIndented; omega) nofun
  have hskip : Cursor.skip ⟨0, (writeIndented v).toList⟩ = ⟨0, (writeIndented v).toList⟩ := by
    have hstarts := starts_write 0 h []
    rw [append_nil] at hstarts
    exact skip_starts hstarts 0
  have hall : read.readAll (writeIndented v).toList = .ok v := by
    rw [append_nil] at hread
    rw [read.readAll, hskip]
    simp only [writeIndented] at hread ⊢
    rw [hread]
    rfl
  have hbom : (c.toNat == 0xfeff) = false := by
    have hplain := isPlain_writeValue 0 v c (by rw [htext]; exact mem_cons_self ..)
    rw [beq_eq_false_iff_ne]
    intro heq
    have hc : c = Char.ofNat 0xfeff := by rw [← heq, Char.ofNat_toNat]
    rw [hc] at hplain
    cases hplain
  rw [writeIndented] at hall
  rw [htext] at hall
  rw [read, writeIndented, htext]
  simp only [hbom, Bool.false_eq_true, if_false]
  exact hall

/-- **A literal is read as its text.** -/
theorem read_literal (s : String) : read (literal s) = .ok (.str s) := by
  have htext : (literal s).toList = '"' :: (s.toList.flatMap (stringChar false) ++ ['"']) := by
    rw [literal, writeString, String.toList_ofList]
    rfl
  obtain ⟨pos', hread⟩ := readString_write false s [] 1
  have hskip : ∀ cs : List Char, Cursor.skip ⟨0, '"' :: cs⟩ = ⟨0, '"' :: cs⟩ := fun cs =>
    skip_starts (starts_cons (by decide) cs) 0
  rw [read, htext]
  show read.readAll ('"' :: (s.toList.flatMap (stringChar false) ++ ['"'])) = _
  rw [read.readAll, hskip, readValue]
  simp only [hread, Except.map]
  rfl

end Json

end Sketchflow
