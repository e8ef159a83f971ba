import Mathlib.Data.List.DropRight
import Sketchflow.Proofs.Host.Ledger

/-!
# Keys and their handlers

Handlers may do anything while a key is dispatched: register handlers, press and release keys, blur,
reset the host or fail. What a press invokes is settled when the key goes down.

* `keyEvents` is what a log tells of keys. `registered` are the handlers of a key after such events,
  and `isDown` tells whether it is down.
* `Reached` are the states in which a client of the host can ask for something, also inside of
  handlers.
* `Keyed` says that the host knows of keys what its log tells. **`Reached.keyed`**: it does,
  whatever handlers do.
* **`keys_dispatched`**: a press invokes what was registered before it, in order, and answers how
  many handlers these are; a key is down if it was pressed last.
-/

namespace Sketchflow.Host

open Ledger List

/-! ## What a log tells of keys -/

/-- What clients do about keys, told by their names. -/
inductive KeyEvent where
  | register (key : String) (handler : Value)
  | press (key : String)
  | release (key : String)
  | blur
  | reset

namespace KeyEvent

def handler? (k : String) : KeyEvent → Option Value
  | register key handler => if key = k then some handler else none
  | _ => none

def isReset : KeyEvent → Bool
  | reset => true
  | _ => false

/-- Where a key is put: down, or up. -/
def puts? (k : String) : KeyEvent → Option Bool
  | register _ _ => none
  | press key => if key = k then some true else none
  | release key => if key = k then some false else none
  | _ => some false

def apply (h : Host) : KeyEvent → Host
  | register key handler => h.register key handler
  | press key => h.hold key
  | release key => h.release key
  | blur => h.blur
  | reset => h.reset

end KeyEvent

/-- The handlers of a key that were registered since the last reset, in order. -/
def registered (events : List KeyEvent) (k : String) : List Value :=
  (events.rtakeWhile fun e => !e.isReset).filterMap (KeyEvent.handler? k)

/-- Whether the last event that put a key anywhere put it down. -/
def isDown (events : List KeyEvent) (k : String) : Bool :=
  (events.filterMap (KeyEvent.puts? k)).getLast?.getD false

/-- What a note tells of keys. -/
def Note.keyEvent? : Note → Option KeyEvent
  | .asked "register_key_press" [key, handler] =>
    (keyName key).toOption.map (.register · handler)
  | .asked "press_key" [key] => (keyName key).toOption.map .press
  | .asked "release_key" [key] => (keyName key).toOption.map .release
  | .asked "blur" [] => some .blur
  | .asked "reset" [] => some .reset
  | _ => none

def keyEvents (log : List Note) : List KeyEvent :=
  log.filterMap Note.keyEvent?

/-! ## States -/

/-- A client has pressed a key, and its handlers are still to be invoked. -/
def Ledger.pressed (s : Ledger) (key : Value) (k : String) : Ledger :=
  ⟨s.host.hold k, s.log ++ [.asked "press_key" [key]]⟩

/-- Handlers are invoked one after the other, and none of them fails. -/
inductive Invoked (inv : Invoke Ledger) : List Value → Ledger → Ledger → Prop where
  | done (s : Ledger) : Invoked inv [] s s
  | step {handler result : Value} {rest : List Value} {s t u : Ledger}
      (h : (inv handler []).run s = .ok result t) (hrest : Invoked inv rest t u) :
      Invoked inv (handler :: rest) s u

/-- The states in which a client can ask for something: at first, after any operation, and inside of
a handler when those before it are done. -/
inductive Reached (behave : Behaviour) : Nat → Ledger → Prop where
  | fresh (depth : Nat) : Reached behave depth {}
  | asked {depth : Nat} {s : Ledger} (name : String) (arguments : List Value)
      (h : Reached behave depth s) :
      Reached behave depth (stateOf ((operation (Ledger.invoke behave depth) name arguments).run s))
  | inside {depth : Nat} {s t : Ledger} {key handler : Value} {k : String}
      {before after : List Value} (h : Reached behave (depth + 1) s) (hkey : keyName key = .ok k)
      (hsplit : s.host.handlers k = before ++ handler :: after)
      (hbefore : Invoked (Ledger.invoke behave (depth + 1)) before (s.pressed key k) t) :
      Reached behave depth (t.note (.invoked handler []))

section

variable {h : Host} {k : String} {key : Value} {n : Note} {s t : Ledger} {inv : Invoke Ledger}

theorem registered_concat (events : List KeyEvent) (e : KeyEvent) (k : String) :
    registered (events ++ [e]) k =
      if e.isReset then [] else registered events k ++ (e.handler? k).toList := by
  rw [registered, rtakeWhile_concat, registered]
  cases e.isReset with
  | true => rfl
  | false => cases he : e.handler? k <;> simp [he]

theorem isDown_concat (events : List KeyEvent) (e : KeyEvent) (k : String) :
    isDown (events ++ [e]) k = (e.puts? k).getD (isDown events k) := by
  rw [isDown, filterMap_append]
  cases he : e.puts? k <;> simp [isDown, he]

theorem handlers_register (h : Host) (key k : String) (handler : Value) :
    (h.register key handler).handlers k = h.handlers k ++ if key = k then [handler] else [] := by
  show ((subscribe key handler h.subscribers).lookup k).getD [] =
    (h.subscribers.lookup k).getD [] ++ _
  induction h.subscribers with
  | nil =>
    by_cases hk : k = key
    · simp [subscribe, hk]
    · simp [subscribe, lookup_cons, beq_eq_false_iff_ne.mpr hk, Ne.symm hk]
  | cons first rest ih =>
    obtain ⟨name, list⟩ := first
    by_cases hname : name = key
    · by_cases hk : k = key
      · simp [subscribe, hname, hk]
      · simp [subscribe, hname, lookup_cons, beq_eq_false_iff_ne.mpr hk, Ne.symm hk]
    · by_cases hk : k = name
      · simp [subscribe, hname, hk, Ne.symm hname]
      · simp [subscribe, hname, lookup_cons, beq_eq_false_iff_ne.mpr hk, ih]

theorem handlers_hold (h : Host) (key k : String) : (h.hold key).handlers k = h.handlers k := by
  unfold hold
  split <;> rfl

theorem isHeld_hold (h : Host) (key k : String) :
    (h.hold key).isHeld k = true ↔ key = k ∨ h.isHeld k = true := by
  unfold hold
  split
  · rename_i hheld
    exact ⟨.inr, fun hk => hk.elim (fun hk => hk ▸ hheld) id⟩
  · simp [isHeld, or_comm, eq_comm (a := k)]

/-! ## What the host knows -/

/-- The host knows of keys what its log tells. -/
structure Keyed (s : Ledger) : Prop where
  handlers : ∀ k, s.host.handlers k = registered (keyEvents s.log) k
  held : ∀ k, s.host.isHeld k = isDown (keyEvents s.log) k

theorem Keyed.event {e : KeyEvent} (hs : Keyed s) (hn : n.keyEvent? = some e) :
    Keyed ⟨e.apply s.host, s.log ++ [n]⟩ := by
  have hevents : keyEvents (s.log ++ [n]) = keyEvents s.log ++ [e] := by simp [keyEvents, hn]
  refine ⟨fun k => ?_, fun k => ?_⟩
  · rw [hevents, registered_concat, ← hs.handlers]
    cases e with
    | register key handler =>
      refine (handlers_register ..).trans ?_
      by_cases hk : key = k <;> simp [KeyEvent.isReset, KeyEvent.handler?, hk]
    | press key => exact (handlers_hold ..).trans (append_nil _).symm
    | release | blur => exact (append_nil _).symm
    | reset => rfl
  · rw [hevents, isDown_concat, ← hs.held]
    cases e with
    | register | blur | reset => rfl
    | press key =>
      rw [Bool.eq_iff_iff, KeyEvent.apply, isHeld_hold]
      by_cases hk : key = k <;> simp [KeyEvent.puts?, hk]
    | release key =>
      rw [Bool.eq_iff_iff]
      by_cases hk : key = k <;>
        simp [KeyEvent.apply, KeyEvent.puts?, isHeld, Host.release, hk, Ne.symm]

theorem Keyed.quiet (hs : Keyed s) {new : List Note} (hnew : ∀ n ∈ new, n.keyEvent? = none)
    (hsubscribers : h.subscribers = s.host.subscribers) (hheld : h.held = s.host.held) :
    Keyed ⟨h, s.log ++ new⟩ := by
  have hevents : keyEvents (s.log ++ new) = keyEvents s.log := by
    rw [keyEvents, filterMap_append, filterMap_eq_nil_iff.mpr hnew, append_nil, keyEvents]
  refine ⟨fun k => ?_, fun k => ?_⟩
  · rw [hevents, ← hs.handlers, Host.handlers, hsubscribers, Host.handlers]
  · rw [hevents, ← hs.held, isHeld, hheld, isHeld]

theorem Keyed.change (hs : Keyed s) (hsubscribers : h.subscribers = s.host.subscribers)
    (hheld : h.held = s.host.held) : Keyed { s with host := h } := by
  have hquiet : Keyed ⟨h, s.log ++ []⟩ := hs.quiet (by simp) hsubscribers hheld
  rwa [append_nil] at hquiet

theorem Keyed.note (hs : Keyed s) (hn : n.keyEvent? = none) : Keyed (s.note n) :=
  hs.quiet (by simpa using hn) rfl rfl

theorem Keyed.set (ht : Keyed { s with host := h }) : Keyed (place.set h s) := by
  refine ht.quiet (fun n hn => ?_) rfl rfl
  unfold leaving at hn
  split at hn
  · cases hn
  · rw [mem_singleton.mp hn]
    rfl

/-! ## Computations -/

/-- Whatever comes of a computation, the host still knows of keys what its log tells. -/
def Keeps {α : Type} (x : EStateM Fault Ledger α) : Prop :=
  ∀ s, Keyed s → Keyed (stateOf (x.run s))

section

variable {α β : Type} {x : EStateM Fault Ledger α}

theorem keeps_pure (a : α) : Keeps (pure a) := fun _ hs => hs

theorem keeps_throw (f : Fault) : Keeps (throw f : EStateM Fault Ledger α) := fun _ hs => hs

theorem keeps_lift (x : Except Fault α) : Keeps (lift x) := by
  cases x with
  | ok a => exact keeps_pure a
  | error f => exact keeps_throw f

theorem keeps_read : Keeps place.read := fun _ hs => hs

theorem Keeps.bind {f : α → EStateM Fault Ledger β} (hx : Keeps x) (hf : ∀ a, Keeps (f a)) :
    Keeps (x >>= f) := by
  intro s hs
  have hfirst := hx s hs
  rw [EStateM.run_bind]
  cases hrun : x.run s with
  | error e t =>
    rw [hrun] at hfirst
    exact hfirst
  | ok a t =>
    rw [hrun] at hfirst
    exact hf a t hfirst

theorem keeps_update {f : Host → Host}
    (hf : ∀ h, (f h).subscribers = h.subscribers ∧ (f h).held = h.held) : Keeps (place.update f) :=
  fun s hs => Keyed.set (hs.change (hf s.host).1 (hf s.host).2)

theorem keeps_done {f : Host → Host}
    (hf : ∀ h, (f h).subscribers = h.subscribers ∧ (f h).held = h.held) :
    Keeps (do place.update f; return .null : EStateM Fault Ledger Value) :=
  (keeps_update hf).bind fun _ => keeps_pure _

end

variable (hinv : ∀ callback arguments, Keeps (inv callback arguments))

include hinv

theorem keeps_invokeAll (arguments callbacks : List Value) :
    Keeps (invokeAll inv arguments callbacks) := by
  induction callbacks with
  | nil => exact keeps_pure ()
  | cons callback rest ih => exact (hinv callback arguments).bind fun _ => ih

theorem keeps_runFrames (interval : Value) (count ran : Nat) :
    Keeps (runFrames place inv interval count ran) := by
  induction count generalizing ran with
  | zero => exact keeps_pure ran
  | succ count ih =>
    refine keeps_read.bind fun h => ?_
    split
    · exact keeps_pure ran
    · refine Keeps.bind (keeps_update fun _ => ⟨rfl, rfl⟩) fun _ =>
        (keeps_lift _).bind fun time => ?_
      exact (keeps_invokeAll hinv [time] _).bind fun _ =>
        Keeps.bind (keeps_update fun _ => ⟨rfl, rfl⟩) fun _ => ih (ran + 1)

theorem keeps_runFramesBy (count interval : Value) : Keeps (runFramesBy place inv count interval) :=
  (keeps_lift _).bind fun n => (keeps_runFrames hinv interval n.toNat 0).bind fun _ => keeps_pure _

theorem keeps_call {name : String} {arguments : List Value}
    (hquiet : (Note.asked name arguments).keyEvent? = none) :
    Keeps (Host.call place inv name arguments) := by
  -- What is about a key is refused, since it has no name.
  have hrefused : ∀ {α : Type} {key : Value} {event : String → KeyEvent}
      (f : String → EStateM Fault Ledger α), (keyName key).toOption.map event = none →
      Keeps (lift (keyName key) >>= f) := by
    intro α key event f hkey
    cases hname : keyName key with
    | ok k => rw [hname] at hkey; cases hkey
    | error e => exact keeps_throw e
  unfold Host.call
  cases hfind : Signature.find? operations name with
  | none => exact keeps_throw _
  | some signature =>
    show Keeps (lift (signature.check arguments.length) >>= fun _ =>
      Host.perform place inv name arguments)
    cases hcheck : signature.check arguments.length with
    | error f => exact keeps_throw f
    | ok =>
      refine (keeps_pure ()).bind fun _ => ?_
      unfold Host.perform
      split
      · exact hrefused _ hquiet
      · exact (keeps_lift _).bind fun _ => keeps_read.bind fun _ => keeps_pure _
      · exact hrefused _ hquiet
      · exact hrefused _ hquiet
      · -- With arguments a blur is refused, and without any it is about keys.
        obtain rfl : signature = ⟨kindName, "blur", [], 0⟩ := Option.some.inj (hfind.symm.trans rfl)
        cases arguments with
        | nil => cases hquiet
        | cons => cases hcheck
      · exact keeps_done fun _ => ⟨rfl, rfl⟩
      · exact fun s hs => Keyed.set (hs.change rfl rfl)
      · exact (keeps_lift _).bind fun _ => keeps_done fun _ => ⟨rfl, rfl⟩
      · exact keeps_runFramesBy hinv _ _
      · exact keeps_runFramesBy hinv _ _
      · exact keeps_runFramesBy hinv _ _
      · refine (keeps_lift _).bind fun sound => keeps_done fun h => ?_
        unfold playSound
        split <;> exact ⟨rfl, rfl⟩
      · exact (keeps_lift _).bind fun _ => keeps_done fun _ => ⟨rfl, rfl⟩
      · exact (keeps_lift _).bind fun _ => keeps_done fun _ => ⟨rfl, rfl⟩
      · obtain rfl : signature = ⟨kindName, "reset", [], 0⟩ :=
          Option.some.inj (hfind.symm.trans rfl)
        cases arguments with
        | nil => cases hquiet
        | cons => cases hcheck
      · exact keeps_throw _

omit hinv in
theorem call_press (hs : Keyed s) (hkey : keyName key = .ok k) :
    (Host.call place inv "press_key" [key]).run (s.note (.asked "press_key" [key])) =
      (do
        invokeAll inv [] (registered (keyEvents s.log) k)
        return .int (registered (keyEvents s.log) k).length :
          EStateM Fault Ledger Value).run (s.pressed key k) := by
  have hset : place.set (s.host.hold k) (s.note (.asked "press_key" [key])) = s.pressed key k := by
    refine set_of_subset ?_
    show s.host.frames ⊆ (s.host.hold k).frames
    unfold hold
    split <;> exact List.Subset.refl _
  show (lift (keyName key) >>= fun k => press place inv k >>= fun n => pure (.int n) :
    EStateM Fault Ledger Value).run _ = _
  rw [hkey, ← hs.handlers, ← handlers_hold s.host k k]
  show ((do
    let h ← place.read
    invokeAll inv [] (h.handlers k)
    return (h.handlers k).length : EStateM Fault Ledger Nat) >>= fun n => pure (.int n) :
      EStateM Fault Ledger Value).run (place.set (s.host.hold k) (s.note _)) = _
  rw [hset]
  simp only [bind_assoc, pure_bind]
  rfl

theorem call_keyed (hs : Keyed s) (name : String) (arguments : List Value) :
    Keyed (stateOf
      ((Host.call place inv name arguments).run (s.note (.asked name arguments)))) := by
  cases hevent : (Note.asked name arguments).keyEvent? with
  | none => exact keeps_call hinv hevent _ (hs.note hevent)
  | some e =>
    have hkeyed := hs.event hevent
    have hname : ∀ {key : Value} {event : String → KeyEvent},
        (keyName key).toOption.map event = some e → ∃ k, keyName key = .ok k ∧ event k = e := by
      intro key event h
      cases hkey : keyName key with
      | ok k => rw [hkey] at h; exact ⟨k, rfl, Option.some.inj h⟩
      | error f => rw [hkey] at h; cases h
    unfold Note.keyEvent? at hevent
    split at hevent
    · rename_i key handler heq
      cases heq
      obtain ⟨k, hk, rfl⟩ := hname hevent
      show Keyed (stateOf ((lift (keyName key) >>= fun k => do
        place.update (Host.register · k handler)
        return .null : EStateM Fault Ledger Value).run _))
      rw [hk]
      exact hkeyed.set
    · rename_i key heq
      cases heq
      obtain ⟨k, hk, rfl⟩ := hname hevent
      rw [call_press hs hk]
      exact ((keeps_invokeAll hinv [] _).bind fun _ => keeps_pure _) _ hkeyed
    · rename_i key heq
      cases heq
      obtain ⟨k, hk, rfl⟩ := hname hevent
      show Keyed (stateOf ((lift (keyName key) >>= fun k => do
        place.update (Host.release · k)
        return .null : EStateM Fault Ledger Value).run _))
      rw [hk]
      exact hkeyed.set
    iterate 2
      · rename_i heq
        cases heq
        cases hevent
        exact hkeyed.set
    · cases hevent

theorem keeps_operation (name : String) (arguments : List Value) :
    Keeps (operation inv name arguments) := by
  intro s hs
  have hcall := call_keyed hinv hs name arguments
  obtain ⟨answer, hrun⟩ :=
    attempt_run (Host.call place inv name arguments) (s.note (.asked name arguments))
  show Keyed (stateOf ((attempt (Host.call place inv name arguments) >>= fun answer => do
    modify (Ledger.note · (.answered name arguments answer))
    return answer : EStateM Fault Ledger _).run (s.note (.asked name arguments))))
  rw [EStateM.run_bind, hrun]
  exact hcall.note rfl

theorem keeps_perform (task : Task) : Keeps (Ledger.perform inv task) := by
  induction task with
  | finish result => exact keeps_pure result
  | fail fault => exact keeps_throw fault
  | call name arguments next ih => exact (keeps_operation hinv name arguments).bind ih

omit hinv in
theorem keeps_invoke (behave : Behaviour) (depth : Nat) (callback : Value)
    (arguments : List Value) : Keeps (Ledger.invoke behave depth callback arguments) := by
  have hnoting : ∀ {x : EStateM Fault Ledger Value}, Keeps x → Keeps (noting x) := by
    intro x hx s hs
    have hend := hx s hs
    show Keyed (stateOf (noting x s))
    unfold noting
    cases hrun : x s <;> simp only [EStateM.run, hrun] at hend ⊢
    · exact hend
    · exact hend.note rfl
  induction depth generalizing callback arguments with
  | zero => exact hnoting (keeps_throw _)
  | succ depth ih => exact fun s hs => hnoting (keeps_perform ih _) _ (hs.note rfl)

omit hinv in
/-- The host knows of keys what its log tells, whatever handlers do. -/
theorem Reached.keyed {behave : Behaviour} {depth : Nat} (h : Reached behave depth s) :
    Keyed s := by
  induction h with
  | fresh => exact ⟨fun _ => rfl, fun _ => rfl⟩
  | asked name arguments _ ih => exact keeps_operation (keeps_invoke _ _) name arguments _ ih
  | @inside depth s t key handler k before after _ hkey _ hbefore ih =>
    have hpress : (Note.asked "press_key" [key]).keyEvent? = some (.press k) := by
      show (keyName key).toOption.map _ = _
      rw [hkey]
      rfl
    have hkeyed : ∀ {handlers s t}, Invoked (Ledger.invoke behave (depth + 1)) handlers s t →
        Keyed s → Keyed t := by
      intro handlers s t h hs
      induction h with
      | done => exact hs
      | @step handler result rest s t u h _ ihrest =>
        have ht := keeps_invoke behave (depth + 1) handler [] s hs
        rw [h] at ht
        exact ihrest ht
    exact (hkeyed hbefore (ih.event hpress)).note rfl

omit hinv in
theorem run_invokeAll_eq_ok_iff {handlers : List Value} :
    (invokeAll inv [] handlers).run s = .ok () t ↔ Invoked inv handlers s t := by
  induction handlers generalizing s with
  | nil => exact ⟨fun h => by cases h; exact .done _, fun h => by cases h; rfl⟩
  | cons handler rest ih =>
    show (inv handler [] >>= fun _ => invokeAll inv [] rest).run s = _ ↔ _
    rw [EStateM.run_bind]
    constructor
    · intro h
      cases hrun : (inv handler []).run s with
      | error f u => rw [hrun] at h; cases h
      | ok result u =>
        rw [hrun] at h
        exact .step hrun (ih.mp h)
    · intro h
      cases h with
      | step hrun hrest =>
        rw [hrun]
        exact ih.mpr hrest

end

/-- Wherever a client presses a key, what is invoked are the handlers that were registered for it
since the last reset and before the press, in order, and the answer is their number. Wherever it
asks whether a key is pressed, the last event that put the key anywhere decides. -/
theorem keys_dispatched {behave : Behaviour} {depth : Nat} {s : Ledger}
    (h : Reached behave depth s) (key : Value) (k : String) (hkey : keyName key = .ok k) :
    let inv := Ledger.invoke behave depth
    let handlers := registered (keyEvents s.log) k
    (∀ answer t,
      (Host.call place inv "press_key" [key]).run (s.note (.asked "press_key" [key])) =
          .ok answer t ↔
        Invoked inv handlers (s.pressed key k) t ∧ answer = .int handlers.length) ∧
    (Host.call place inv "is_key_pressed" [key]).run s =
      .ok (.bool (isDown (keyEvents s.log) k)) s := by
  intro inv handlers
  refine ⟨fun answer t => ?_, ?_⟩
  · rw [call_press h.keyed hkey, ← run_invokeAll_eq_ok_iff, EStateM.run_bind]
    cases (invokeAll inv [] handlers).run (s.pressed key k) with
    | ok a u =>
      show EStateM.Result.ok _ u = _ ↔ EStateM.Result.ok () u = _ ∧ _
      simp only [EStateM.Result.ok.injEq, true_and]
      exact ⟨fun h => ⟨h.2, h.1.symm⟩, fun h => ⟨h.2.symm, h.1⟩⟩
    | error f u => exact ⟨nofun, fun h => nomatch h.1⟩
  · show (lift (keyName key) >>= fun k => do
      return .bool ((← place.read).isHeld k) : EStateM Fault Ledger Value).run s = _
    rw [hkey, ← h.keyed.held k]
    rfl

/-- A key has a handler under its upper-case name and is pressed in lower case: inside of the
handler it is down. -/
theorem keys_dispatched_shift :
    let behave : Behaviour := fun _ _ _ => .finish .null
    let first := stateOf ((operation (Ledger.invoke behave 2) "register_key_press"
      [.str "A", .str "first"]).run {})
    let s := (first.pressed (.str "a") "a").note (.invoked (.str "first") [])
    Reached behave 1 s ∧ registered (keyEvents s.log) "a" = [.str "first"] ∧
      (Host.call place (Ledger.invoke behave 1) "is_key_pressed" [.str "A"]).run s =
        .ok (.bool true) s := by
  intro behave first s
  have hreached : Reached behave 1 s :=
    .inside (.asked _ _ (.fresh 2)) (by rfl)
      (show first.host.handlers "a" = [] ++ .str "first" :: [] by rfl) (.done _)
  exact ⟨hreached, by rfl, (keys_dispatched hreached (.str "A") "a" (by rfl)).2⟩

end Sketchflow.Host
