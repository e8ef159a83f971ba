import Mathlib.Data.List.Induction
import Sketchflow.Canvas

/-!
# Saves, restores and what is recorded

A canvas undergoes a history of events: styles that are set and operations that are called, in any
order and with any arguments. Saves and restores need not match.

* `Event.trace?` is what an event is recorded as, `after` the canvas after a history.
* `apply_plain` is all that an event does that is no save, no restore and no reset.
* `Balanced` are the histories whose saves and restores match, and `Brackets` says which save a
  restore matches.
* **`exists_brackets`**: where a canvas has saved styles, the next restore matches a save.
* **`restore_matches`**: a restore brings back the styles of the save that it matches, and no
  others. Every event since the last reset is recorded once, in order.
-/

namespace Sketchflow.Canvas

/-! ## Events -/

/-- A style is set, or an operation is called. -/
inductive Event where
  | set (style : StyleName) (v : Value)
  | call (name : String) (known : hasOperation name = true) (arguments : List Value)

namespace Event

def save : Event := .call "save" (by decide) []

def restore : Event := .call "restore" (by decide) []

def reset : Event := .call "reset" (by decide) []

/-- The operations that are recorded with the arguments they are given, and how many these are. -/
def drawing : List (String × Nat) :=
  [("begin_path", 0), ("move_to", 2), ("line_to", 2), ("stroke", 0), ("fill", 0), ("arc", 5),
    ("rect", 4), ("clear_rect", 4), ("save", 0), ("restore", 0)]

/-- What an event is recorded as, if it is recorded. -/
def trace? : Event → Option Operation
  | .set style v => some ⟨"set", [.str style.key, v]⟩
  | .call name _ arguments =>
    match name, arguments with
    | "fill_text", [text, x, y] => text.text.toOption.map fun text => ⟨name, [.str text, x, y]⟩
    | "_record", operation :: arguments => some ⟨operation.display, arguments⟩
    | name, arguments =>
      if drawing.lookup name = some arguments.length then some ⟨name, arguments⟩ else none

/-- The canvas after an event. A call that fails leaves it as it is. -/
def apply (c : Canvas) : Event → Canvas
  | .set style v => c.set style.key v
  | .call name _ arguments =>
    match c.call name arguments with
    | .ok (_, c') => c'
    | .error _ => c

def Succeeds (c : Canvas) : Event → Prop
  | .set _ _ => True
  | .call name _ arguments => ∃ v c', c.call name arguments = .ok (v, c')

/-- The event asks what was recorded. -/
def IsQuery : Event → Prop
  | .set _ _ => False
  | .call name _ _ => name = "calls"

/-- The event is no save, no restore and no reset. -/
structure IsPlain (e : Event) : Prop where
  ne_save : e ≠ save
  ne_restore : e ≠ restore
  ne_reset : e ≠ reset

end Event

open Event

def after (c : Canvas) (history : List Event) : Canvas :=
  history.foldl Event.apply c

variable {c : Canvas} {e : Event} {name : String} {arguments : List Value}

@[simp] theorem after_nil (c : Canvas) : c.after [] = c := rfl

@[simp] theorem after_cons (c : Canvas) (e : Event) (history : List Event) :
    c.after (e :: history) = (e.apply c).after history := rfl

theorem after_append (c : Canvas) (history more : List Event) :
    c.after (history ++ more) = (c.after history).after more :=
  List.foldl_append

/-! ## What one event does -/

theorem ofKey?_key (style : StyleName) : StyleName.ofKey? style.key = some style := by
  cases style <;> decide

theorem name_cases (known : hasOperation name = true) :
    name ∈ ["_record", "begin_path", "move_to", "line_to", "stroke", "fill", "arc", "rect",
      "clear_rect", "fill_text", "save", "restore", "calls", "reset"] := by
  simp only [hasOperation, recording, plainOperations, otherOperations, List.cons_append,
    List.nil_append, List.any_cons, List.any_nil, Bool.or_eq_true, beq_iff_eq,
    Bool.or_false] at known
  simpa only [List.mem_cons, List.not_mem_nil, or_false, eq_comm (a := name)] using known

theorem call_eq (hc : c.notes = []) (known : hasOperation name = true) (arguments : List Value) :
    c.call name arguments = c.callOperation name arguments := by
  have hget : c.get name = .ok (.handle (.method .canvas name)) := by
    have hnames := name_cases known
    simp only [List.mem_cons, List.not_mem_nil, or_false] at hnames
    rw [Canvas.get, hc]
    rcases hnames with rfl | rfl | rfl | rfl | rfl | rfl | rfl | rfl | rfl | rfl | rfl | rfl |
      rfl | rfl <;> rfl
  rw [Canvas.call, hget]
  rfl

theorem check_cases {s : Signature} (hs : s.optional = 0) (given : Nat) :
    given = s.parameters.length ∧ s.check given = .ok () ∨
      given ≠ s.parameters.length ∧ ∃ f, s.check given = .error f := by
  unfold Signature.check Signature.least
  rw [hs, Nat.sub_zero]
  split
  · exact .inr ⟨by omega, _, rfl⟩
  · split
    · exact .inr ⟨by omega, _, rfl⟩
    · exact .inl ⟨by omega, rfl⟩

/-- What can come of a call. -/
inductive Outcome (c : Canvas) (e : Event) : Except Fault (Value × Canvas) → Prop where
  | refused (f : Fault) (hentry : e.trace? = none) : Outcome c e (.error f)
  | answered (v : Value) (hquery : e.IsQuery) (hplain : e.IsPlain) (hentry : e.trace? = none) :
      Outcome c e (.ok (v, c))
  | recorded (op : Operation) (hquery : ¬ e.IsQuery) (hplain : e.IsPlain)
      (hentry : e.trace? = some op) : Outcome c e (.ok (.null, c.record op.name op.arguments))
  | saved (he : e = .save) : Outcome c e (.ok (.null, c.save))
  | restored (he : e = .restore) : Outcome c e (.ok (.null, c.restore))
  | reset (he : e = .reset) : Outcome c e (.ok (.null, c.reset))

variable {known : hasOperation name = true} {s : Signature}

theorem isPlain_call (h : name ∉ ["save", "restore", "reset"]) :
    (Event.call name known arguments).IsPlain := by
  constructor <;> (intro he; cases he; exact absurd h (by decide))

theorem outcome_plain (hfind : Signature.find? plainOperations name = some s) (hs : s.optional = 0)
    (hname : name ∉ ["save", "restore", "reset"]) (hquery : name ≠ "calls")
    (hentry : (Event.call name known arguments).trace? =
      if some s.parameters.length = some arguments.length then some ⟨name, arguments⟩ else none) :
    Outcome c (.call name known arguments) (c.callOperation name arguments) := by
  have hcall : c.callOperation name arguments =
      (s.check arguments.length >>= fun _ => .ok (.null, c.record name arguments)) := by
    rw [callOperation, hfind]
  rw [hcall]
  obtain ⟨hlen, hcheck⟩ | ⟨hlen, f, hcheck⟩ := check_cases hs arguments.length
  · rw [hcheck]
    exact .recorded ⟨name, arguments⟩ hquery (isPlain_call hname)
      (hentry.trans (if_pos (congrArg some hlen.symm)))
  · rw [hcheck]
    exact .refused f (hentry.trans (if_neg fun h => hlen (Option.some.inj h).symm))

theorem outcome_other (hplain : Signature.find? plainOperations name = none)
    (hfind : Signature.find? otherOperations name = some s) (hs : s.optional = 0)
    (hrefused : arguments.length ≠ s.parameters.length →
      (Event.call name known arguments).trace? = none)
    (hperform : arguments.length = s.parameters.length →
      Outcome c (.call name known arguments) (c.perform name arguments)) :
    Outcome c (.call name known arguments) (c.callOperation name arguments) := by
  have hcall : c.callOperation name arguments =
      (s.check arguments.length >>= fun _ => c.perform name arguments) := by
    rw [callOperation, hplain, hfind]
  rw [hcall]
  obtain ⟨hlen, hcheck⟩ | ⟨hlen, f, hcheck⟩ := check_cases hs arguments.length
  · rw [hcheck]
    exact hperform hlen
  · rw [hcheck]
    exact .refused f (hrefused hlen)

theorem outcome_fillText {known : hasOperation "fill_text" = true} (text x y : Value) :
    Outcome c (.call "fill_text" known [text, x, y]) (c.perform "fill_text" [text, x, y]) := by
  have hentry : (Event.call "fill_text" known [text, x, y]).trace? =
      text.text.toOption.map fun text => ⟨"fill_text", [.str text, x, y]⟩ := rfl
  have hperform : c.perform "fill_text" [text, x, y] =
      (text.text >>= fun text => .ok (.null, c.record "fill_text" [.str text, x, y])) := rfl
  rw [hperform]
  cases htext : text.text with
  | ok t =>
    exact .recorded ⟨"fill_text", [.str t, x, y]⟩ (by simp [IsQuery]) (isPlain_call (by decide))
      (hentry.trans (by rw [htext]; rfl))
  | error f => exact .refused f (hentry.trans (by rw [htext]; rfl))

/-- **What comes of a call.** -/
theorem call_outcome (hc : c.notes = []) (known : hasOperation name = true)
    (arguments : List Value) :
    Outcome c (.call name known arguments) (c.call name arguments) := by
  rw [call_eq hc known]
  have hnames := name_cases known
  simp only [List.mem_cons, List.not_mem_nil, or_false] at hnames
  rcases hnames with rfl | rfl | rfl | rfl | rfl | rfl | rfl | rfl | rfl | rfl | rfl | rfl |
    rfl | rfl
  · cases arguments with
    | nil => exact .refused _ rfl
    | cons operation rest =>
      exact .recorded ⟨operation.display, rest⟩ (by simp [IsQuery]) (isPlain_call (by decide)) rfl
  iterate 8 exact outcome_plain rfl rfl (by decide) (by decide) rfl
  · refine outcome_other rfl rfl rfl (fun hlen => ?_) fun hlen => ?_
    · rcases arguments with _ | ⟨_, _ | ⟨_, _ | ⟨_, _ | ⟨_, _⟩⟩⟩⟩
      case cons.cons.cons.nil => exact absurd rfl hlen
      all_goals rfl
    · rcases arguments with _ | ⟨_, _ | ⟨_, _ | ⟨_, _ | ⟨_, _⟩⟩⟩⟩
      case cons.cons.cons.nil text x y => exact outcome_fillText text x y
      all_goals cases hlen
  · refine outcome_other rfl rfl rfl (fun hlen => ?_) fun hlen => ?_
    · cases arguments with
      | nil => exact absurd rfl hlen
      | cons => rfl
    · cases List.length_eq_zero_iff.mp hlen
      exact .saved rfl
  · refine outcome_other rfl rfl rfl (fun hlen => ?_) fun hlen => ?_
    · cases arguments with
      | nil => exact absurd rfl hlen
      | cons => rfl
    · cases List.length_eq_zero_iff.mp hlen
      exact .restored rfl
  · refine outcome_other rfl rfl rfl (fun _ => rfl) fun hlen => ?_
    obtain ⟨op, rfl⟩ := List.length_eq_one_iff.mp hlen
    exact .answered _ rfl (isPlain_call (by decide)) rfl
  · refine outcome_other rfl rfl rfl (fun _ => rfl) fun hlen => ?_
    cases List.length_eq_zero_iff.mp hlen
    exact .reset rfl

/-- An event that is no save, no restore and no reset changes the styles at most. -/
theorem apply_plain (hc : c.notes = []) (he : e.IsPlain) :
    ∃ style, e.apply c =
      { c with style := style, recorded := e.trace?.elim c.recorded c.recorded.push } := by
  cases e with
  | set name v =>
    refine ⟨c.style.set name v, ?_⟩
    simp only [Event.apply, Canvas.set, ofKey?_key]
    rfl
  | call name known arguments =>
    refine ⟨c.style, ?_⟩
    have houtcome := call_outcome hc known arguments
    simp only [Event.apply]
    generalize c.call name arguments = r at houtcome ⊢
    cases houtcome with
    | refused f hentry => rw [hentry]; rfl
    | answered v hquery hplain hentry => rw [hentry]; rfl
    | recorded op hquery hplain hentry => rw [hentry]; rfl
    | saved h => exact absurd h he.ne_save
    | restored h => exact absurd h he.ne_restore
    | reset h => exact absurd h he.ne_reset

theorem apply_save (hc : c.notes = []) : Event.save.apply c = c.save := by
  have hcall : c.call "save" [] = .ok (.null, c.save) := call_eq hc (by decide) []
  simp only [Event.apply, Event.save, hcall]

theorem apply_restore (hc : c.notes = []) : Event.restore.apply c = c.restore := by
  have hcall : c.call "restore" [] = .ok (.null, c.restore) := call_eq hc (by decide) []
  simp only [Event.apply, Event.restore, hcall]

theorem apply_reset (hc : c.notes = []) : Event.reset.apply c = c.reset := by
  have hcall : c.call "reset" [] = .ok (.null, c.reset) := call_eq hc (by decide) []
  simp only [Event.apply, Event.reset, hcall]

theorem trace?_save : Event.save.trace? = some ⟨"save", []⟩ := rfl

theorem trace?_restore : Event.restore.trace? = some ⟨"restore", []⟩ := rfl

theorem trace?_reset : Event.reset.trace? = none := rfl

/-- Every event is recorded unless it fails, only asks, or forgets what was recorded. -/
theorem isSome_trace?_iff (hc : c.notes = []) (e : Event) :
    e.trace?.isSome ↔ e.Succeeds c ∧ ¬ e.IsQuery ∧ e ≠ .reset := by
  cases e with
  | set name v =>
    have hentry : (Event.set name v).trace? = some ⟨"set", [.str name.key, v]⟩ := rfl
    simp [hentry, Succeeds, IsQuery, Event.reset]
  | call name known arguments =>
    have houtcome := call_outcome hc known arguments
    simp only [Succeeds]
    generalize c.call name arguments = r at houtcome ⊢
    cases houtcome with
    | refused f hentry => simp [hentry]
    | answered v hquery hplain hentry => simp [hentry, hquery]
    | recorded op hquery hplain hentry => simp [hentry, hquery, hplain.ne_reset]
    | saved h => rw [h, trace?_save]; simp [Event.save, Event.reset, IsQuery]
    | restored h => rw [h, trace?_restore]; simp [Event.restore, Event.reset, IsQuery]
    | reset h => rw [h, trace?_reset]; simp

theorem event_cases (e : Event) : e.IsPlain ∨ e = .save ∨ e = .restore ∨ e = .reset := by
  by_cases hsave : e = .save
  · exact .inr (.inl hsave)
  by_cases hrestore : e = .restore
  · exact .inr (.inr (.inl hrestore))
  by_cases hreset : e = .reset
  · exact .inr (.inr (.inr hreset))
  exact .inl ⟨hsave, hrestore, hreset⟩

theorem notes_apply (hc : c.notes = []) (e : Event) : (e.apply c).notes = [] := by
  obtain he | rfl | rfl | rfl := event_cases e
  · obtain ⟨style, happly⟩ := apply_plain hc he
    rw [happly]
    exact hc
  · rw [apply_save hc]
    exact hc
  · rw [apply_restore hc, restore]
    split <;> exact hc
  · rw [apply_reset hc]
    exact hc

theorem notes_after (hc : c.notes = []) (history : List Event) : (c.after history).notes = [] := by
  induction history generalizing c with
  | nil => exact hc
  | cons e history ih => exact ih (notes_apply hc e)

/-! ## Matching -/

/-- Histories whose saves and restores match. A reset would leave none to match. -/
inductive Balanced : List Event → Prop where
  | nil : Balanced []
  | plain {e : Event} {rest : List Event} (he : e.IsPlain) (hrest : Balanced rest) :
      Balanced (e :: rest)
  | nested {inner rest : List Event} (hinner : Balanced inner) (hrest : Balanced rest) :
      Balanced (.save :: (inner ++ .restore :: rest))

/-- A restore after `history` matches the save after `before`. -/
def Brackets (before history : List Event) : Prop :=
  ∃ inner, Balanced inner ∧ history = before ++ .save :: inner

theorem Balanced.append {a b : List Event} (ha : Balanced a) (hb : Balanced b) :
    Balanced (a ++ b) := by
  induction ha with
  | nil => exact hb
  | plain he _ ih => exact .plain he ih
  | nested hinner _ _ ih =>
    rw [List.cons_append, List.append_assoc, List.cons_append]
    exact .nested hinner ih

theorem saved_plain (hc : c.notes = []) (he : e.IsPlain) : (e.apply c).saved = c.saved := by
  obtain ⟨style, happly⟩ := apply_plain hc he
  rw [happly]

/-- Between a save and its restore the saved styles come back to what they were. -/
theorem Balanced.saved_after {inner : List Event} (h : Balanced inner) (hc : c.notes = []) :
    (c.after inner).saved = c.saved := by
  induction h generalizing c with
  | nil => rfl
  | @plain e rest he _ ih => rw [after_cons, ih (notes_apply hc e), saved_plain hc he]
  | @nested inner rest _ _ ihinner ihrest =>
    have hopen : c.save.notes = [] := hc
    have hinner : (c.save.after inner).notes = [] := notes_after hopen inner
    have hsaved : (c.save.after inner).saved = c.style :: c.saved := ihinner hopen
    rw [after_cons, apply_save hc, after_append, after_cons, apply_restore hinner,
      ihrest (apply_restore hinner ▸ notes_apply hinner _), restore, hsaved]

theorem Brackets.saved_after {before history : List Event} (h : Brackets before history)
    (hc : c.notes = []) :
    (c.after history).saved = (c.after before).style :: (c.after before).saved := by
  obtain ⟨inner, hinner, rfl⟩ := h
  have hbefore := notes_after hc before
  have hopen : (c.after before).save.notes = [] := hbefore
  rw [after_append, after_cons, apply_save hbefore, hinner.saved_after hopen]
  rfl

/-- **Where styles are saved, the next restore matches a save.** -/
theorem exists_brackets (hc : c.notes = []) (hs : c.saved = []) (history : List Event)
    (h : (c.after history).saved ≠ []) : ∃ before, Brackets before history := by
  -- A restore uncovers what was saved before the save it matches, so the induction is on length.
  induction hlen : history.length using Nat.strongRecOn generalizing history with
  | ind n ih =>
    rcases List.eq_nil_or_concat history with rfl | ⟨earlier, e, rfl⟩
    · exact absurd hs h
    have hnotes := notes_after hc earlier
    rw [List.concat_eq_append] at h hlen ⊢
    rw [after_append, after_cons, after_nil] at h
    rw [List.length_append, List.length_singleton] at hlen
    obtain he | rfl | rfl | rfl := event_cases e
    · rw [saved_plain hnotes he] at h
      obtain ⟨before, inner, hinner, rfl⟩ := ih _ (by omega) earlier h rfl
      exact ⟨before, inner ++ [e], hinner.append (.plain he .nil), by simp⟩
    · exact ⟨earlier, [], .nil, rfl⟩
    · rw [apply_restore hnotes, restore] at h
      cases hsaved : (c.after earlier).saved with
      | nil =>
        rw [hsaved] at h
        exact absurd hsaved h
      | cons style rest =>
        obtain ⟨before, hbrackets⟩ := ih _ (by omega) earlier (by simp [hsaved]) rfl
        rw [hbrackets.saved_after hc] at h
        obtain ⟨inner, hinner, rfl⟩ := hbrackets
        have hshorter : before.length < n := by
          rw [List.length_append] at hlen
          omega
        obtain ⟨outer, between, hbetween, rfl⟩ := ih _ hshorter before h rfl
        exact ⟨outer, _, hbetween.append (.nested hinner .nil), by simp⟩
    · rw [apply_reset hnotes] at h
      exact absurd rfl h

/-! ## What is recorded -/

def SinceReset (since history : List Event) : Prop :=
  .reset ∉ since ∧ (history = since ∨ ∃ before, history = before ++ .reset :: since)

theorem operations_apply (hc : c.notes = []) (he : e ≠ .reset) :
    (e.apply c).operations = c.operations ++ e.trace?.toList := by
  obtain hplain | rfl | rfl | rfl := event_cases e
  · obtain ⟨style, happly⟩ := apply_plain hc hplain
    rw [happly]
    cases e.trace? with
    | none => simp [operations]
    | some op => simp [operations]
  · rw [apply_save hc, trace?_save]
    simp [operations, save, record]
  · rw [apply_restore hc, trace?_restore, restore]
    split <;> simp [operations, record]
  · exact absurd rfl he

theorem operations_after (hc : c.notes = []) {history : List Event} (h : .reset ∉ history) :
    (c.after history).operations = c.operations ++ history.filterMap trace? := by
  induction history generalizing c with
  | nil => simp
  | cons e history ih =>
    obtain ⟨he, hrest⟩ := not_or.mp (List.mem_cons.not.mp h)
    rw [after_cons, ih (notes_apply hc e) hrest, operations_apply hc (Ne.symm he),
      List.append_assoc]
    cases hentry : e.trace? <;> simp [hentry]

theorem exists_sinceReset (history : List Event) : ∃ since, SinceReset since history := by
  induction history using List.reverseRecOn with
  | nil => exact ⟨[], List.not_mem_nil, .inl rfl⟩
  | append_singleton history e ih =>
    by_cases he : e = .reset
    · exact ⟨[], List.not_mem_nil, .inr ⟨history, by rw [he]⟩⟩
    · obtain ⟨since, hsince, hhistory⟩ := ih
      refine ⟨since ++ [e], by simp [hsince, Ne.symm he], hhistory.imp (congrArg (· ++ [e])) ?_⟩
      rintro ⟨before, rfl⟩
      exact ⟨before, by simp⟩

theorem get_style (hc : c.notes = []) (style : StyleName) :
    c.get style.key = .ok (c.style.get style) := by
  have hattribute : c.attribute? style.key = some (c.style.get style) := by
    simp only [attribute?, ofKey?_key]
  rw [Canvas.get, hc, hattribute]
  rfl

theorem style_restore_nil (h : c.saved = []) : c.restore.style = c.style := by
  rw [restore, h]
  rfl

theorem restore_ne_reset : Event.restore ≠ .reset := by
  simp [Event.restore, Event.reset]

/-- **A restore brings back the styles of the save that it matches.** In every history, matched or
not, it sets all styles to what they were at that save; where it matches none, it leaves them as
they are. What is recorded are the events since the last reset that did not fail and did not only
ask, each once and in order; a restore is recorded as itself and nothing else. -/
theorem restore_matches (width height : Value) (history : List Event) :
    let start : Canvas := { width := width, height := height }
    let c := start.after history
    let restored := start.after (history ++ [.restore])
    (∀ before, Brackets before history →
      ∀ style : StyleName, restored.get style.key = (start.after before).get style.key) ∧
    ((∀ before, ¬ Brackets before history) →
      ∀ style : StyleName, restored.get style.key = c.get style.key) ∧
    (∃ since, SinceReset since history ∧ c.operations = since.filterMap Event.trace?) ∧
    (∀ e : Event, e.trace?.isSome ↔ e.Succeeds c ∧ ¬ e.IsQuery ∧ e ≠ .reset) ∧
    restored.operations = c.operations ++ [⟨"restore", []⟩] := by
  intro start c restored
  have hnotes : ∀ history, (start.after history).notes = [] := notes_after rfl
  have hrestored : restored = c.restore := by
    show start.after (history ++ [.restore]) = _
    rw [after_append, after_cons, apply_restore (hnotes history), after_nil]
  refine ⟨fun before h style => ?_, fun h style => ?_, ?_, isSome_trace?_iff (hnotes history), ?_⟩
  · have hstyle : restored.style = (start.after before).style := by
      rw [hrestored, restore, h.saved_after rfl]
    rw [get_style (hnotes _), get_style (hnotes before), hstyle]
  · have hsaved : c.saved = [] := by
      by_contra hne
      obtain ⟨before, hbefore⟩ := exists_brackets (c := start) rfl rfl history hne
      exact h before hbefore
    have hstyle : restored.style = c.style := hrestored ▸ style_restore_nil hsaved
    rw [get_style (hnotes _), get_style (hnotes history), hstyle]
  · obtain ⟨since, hsince⟩ := exists_sinceReset history
    refine ⟨since, hsince, ?_⟩
    obtain ⟨hnone, rfl | ⟨before, rfl⟩⟩ := hsince
    · exact operations_after rfl hnone
    · have hreset : (start.after before).reset.notes = [] := hnotes before
      show (start.after (before ++ .reset :: since)).operations = _
      rw [after_append, after_cons, apply_reset (hnotes before), operations_after hreset hnone]
      rfl
  · rw [hrestored, ← apply_restore (hnotes history),
      operations_apply (hnotes history) restore_ne_reset, trace?_restore]
    rfl

/-- A restore after a nested save and restore matches the outer save; one after a reset matches
none. -/
theorem restore_matches_outer :
    let red : Event := .set .fillStyle (.str "red")
    let blue : Event := .set .fillStyle (.str "blue")
    let start : Canvas := {}
    (Brackets [red] [red, .save, blue, .save, .restore] ∧
      ∀ style : StyleName,
        (start.after ([red, .save, blue, .save, .restore] ++ [.restore])).get style.key =
          (start.after [red]).get style.key) ∧
    (∀ before, ¬ Brackets before [.reset]) ∧
      ∀ style : StyleName,
        (start.after ([.reset] ++ [.restore])).get style.key =
          (start.after [.reset]).get style.key := by
  intro red blue start
  have hplain : blue.IsPlain := by
    constructor <;> simp [blue, Event.save, Event.restore, Event.reset]
  have houter : Brackets [red] [red, .save, blue, .save, .restore] :=
    ⟨_, .plain hplain (.nested .nil .nil), rfl⟩
  have hnone : ∀ before, ¬ Brackets before [.reset] := by
    rintro before ⟨inner, -, h⟩
    have hmem : Event.save ∈ [Event.reset] := h ▸ List.mem_append_right before List.mem_cons_self
    simp [Event.save, Event.reset] at hmem
  exact ⟨⟨houter, (restore_matches _ _ _).1 _ houter⟩, hnone, (restore_matches _ _ _).2.1 hnone⟩

end Sketchflow.Canvas
