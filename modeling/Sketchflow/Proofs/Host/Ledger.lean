import Mathlib.Algebra.Order.Group.Multiset
import Mathlib.Tactic.Abel
import Sketchflow.Host.Dispatch

/-!
# Clients of the host

Clients of the host call its operations, and so do the callbacks and key handlers that they hand to
it: a callback may request and cancel frames, press keys, run frames itself, reset the host or fail,
it may go on after a call that failed, and what it does may depend on everything that happened
before.

* `Task` is what a client does, `Ledger` the host with a log of its run, `play` a run of any tasks.
  The log changes nothing.
* `requests`, `dropped`, `taken` and `frameCalls` are what a log tells of frames.
* `Moves` says what a part of a run does to the frames: each request is pending, dropped or taken in
  the end, and callbacks are invoked only for what was taken.
* **`invoke_tracked`**: every callback does only this, by induction on how deep calls stand inside
  each other. **`play_moves`**: so does every run.
-/

namespace Sketchflow.Host

variable {arguments : List Value} {name : String}

/-! ## Clients -/

/-- A requested frame: its number and its callback. -/
abbrev Frame := Nat × Value

/-- What a client does: it ends, fails, or calls an operation and goes on by what came of it. -/
inductive Task where
  | finish (result : Value)
  | fail (fault : Fault)
  | call (name : String) (arguments : List Value) (next : Except Fault Value → Task)

/-- Calling one operation, whatever comes of it. -/
def Task.only (name : String) (arguments : List Value) : Task :=
  .call name arguments fun _ => .finish .null

/-- What the log of a run notes. -/
inductive Note where
  /-- A client asks for an operation. -/
  | asked (name : String) (arguments : List Value)
  /-- Frames are not pending any more: they were dropped, or else a frame took them. -/
  | left (dropped : Bool) (frames : List Frame)
  | answered (name : String) (arguments : List Value) (answer : Except Fault Value)
  | invoked (callback : Value) (arguments : List Value)
  | failed

/-- The numbers of the frames that a client asks to drop. -/
def Note.drops? : Note → Option (Nat → Bool)
  | .asked "cancel_frame" [id] => some fun n => id.hasId n
  | .asked "reset" [] => some fun _ => true
  | _ => none

/-- A client has just asked to drop frames. -/
def dropping (log : List Note) : Bool :=
  (log.getLast?.bind Note.drops?).isSome

/-- A host and the log of its run. -/
structure Ledger where
  host : Host := {}
  log : List Note := []

/-- What each callback does, after what happened so far. -/
abbrev Behaviour := List Note → Value → List Value → Task

namespace Ledger

def note (s : Ledger) (n : Note) : Ledger :=
  { s with log := s.log ++ [n] }

/-- The frames that are not pending in the next host any more. -/
def gone (s : Ledger) (h : Host) : List Frame :=
  s.host.frames.filter fun f => !h.frames.any fun f' => f'.1 == f.1

/-- The note about the frames that are gone, if there are any. -/
def leaving (s : Ledger) (h : Host) : List Note :=
  if (s.gone h).isEmpty then [] else [.left (dropping s.log) (s.gone h)]

def place : Place Ledger where
  get := host
  set h s := ⟨h, s.log ++ s.leaving h⟩

/-- What came of a computation. -/
def attempt {α : Type} (x : EStateM Fault Ledger α) : EStateM Fault Ledger (Except Fault α) :=
  fun s =>
    match x s with
    | .ok a t => .ok (.ok a) t
    | .error f t => .ok (.error f) t

/-- Write a note if a computation fails. -/
def noting {α : Type} (x : EStateM Fault Ledger α) : EStateM Fault Ledger α := fun s =>
  match x s with
  | .ok a t => .ok a t
  | .error f t => .error f (t.note .failed)

def operation (invoke : Invoke Ledger) (name : String) (arguments : List Value) :
    EStateM Fault Ledger (Except Fault Value) := do
  modify (note · (.asked name arguments))
  let answer ← attempt (Host.call place invoke name arguments)
  modify (note · (.answered name arguments answer))
  return answer

def perform (invoke : Invoke Ledger) : Task → EStateM Fault Ledger Value
  | .finish result => pure result
  | .fail fault => throw fault
  | .call name arguments next => do
    let answer ← operation invoke name arguments
    perform invoke (next answer)

/-- Invoke a callback. The bound is on calls inside calls. -/
def invoke (behave : Behaviour) : Nat → Invoke Ledger
  | 0, _, _ => noting (throw .exhausted)
  | depth + 1, callback, arguments => do
    modify (note · (.invoked callback arguments))
    noting (perform (invoke behave depth) (behave (← getThe Ledger).log callback arguments))

/-- The state that a computation leaves, whether it fails or not. -/
def stateOf {α : Type} : EStateM.Result Fault Ledger α → Ledger
  | .ok _ s => s
  | .error _ s => s

/-- Do tasks one after the other; those after one that fails are done as well. -/
def play (behave : Behaviour) (depth : Nat) : List Task → Ledger → Ledger
  | [], s => s
  | t :: rest, s => play behave depth rest (stateOf ((perform (invoke behave depth) t).run s))

def pending (s : Ledger) : List Value :=
  s.host.frames.map (·.2)

def take (s : Ledger) : Ledger :=
  place.set s.host.takeFrames.2 s

end Ledger

/-! ## What a log tells -/

def Note.request? : Note → Option Frame
  | .answered name [callback] (.ok (.int id)) =>
    if name = "request_frame" then some (id.toNat, callback) else none
  | _ => none

/-- The callback that a note says was invoked by a frame, which hands it a time. -/
def Note.frameCall? : Note → Option Value
  | .invoked callback [_] => some callback
  | _ => none

def Note.dropped : Note → List Frame
  | .left true frames => frames
  | _ => []

def Note.taken : Note → List Frame
  | .left false frames => frames
  | _ => []

def requests (log : List Note) : List Frame :=
  log.filterMap Note.request?

/-- The callbacks that were invoked by frames. -/
def frameCalls (log : List Note) : List Value :=
  log.filterMap Note.frameCall?

/-- The requests that were cancelled or forgotten while they were pending. -/
def dropped (log : List Note) : List Frame :=
  log.flatMap Note.dropped

def taken (log : List Note) : List Frame :=
  log.flatMap Note.taken

/-- Nobody asked for frames to be run. -/
def Calm (log : List Note) : Prop :=
  ∀ arguments, .asked "run_frames" arguments ∉ log

/-- The frames stand in the order of their requests. -/
def Ordered (h : Host) : Prop :=
  (h.frames.map (·.1)).Pairwise (· < ·) ∧ ∀ f ∈ h.frames, f.1 < h.nextFrame

@[simp] theorem requests_append (a b : List Note) : requests (a ++ b) = requests a ++ requests b :=
  List.filterMap_append

@[simp] theorem frameCalls_append (a b : List Note) :
    frameCalls (a ++ b) = frameCalls a ++ frameCalls b :=
  List.filterMap_append

@[simp] theorem dropped_append (a b : List Note) : dropped (a ++ b) = dropped a ++ dropped b :=
  List.flatMap_append

@[simp] theorem taken_append (a b : List Note) : taken (a ++ b) = taken a ++ taken b :=
  List.flatMap_append

theorem calm_append {a b : List Note} : Calm (a ++ b) ↔ Calm a ∧ Calm b := by
  simp [Calm, forall_and]

open Ledger List

/-- A note that tells of no frame that comes or goes. -/
structure Note.IsPlain (n : Note) : Prop where
  drops? : n.drops? = none
  request? : n.request? = none
  dropped : n.dropped = []
  taken : n.taken = []

/-! ## What a part of a run does -/

/-- What a part of a run does, with these callbacks due in it and these notes in the log: the
numbers it gives out are new and grow, every frame that is pending or requested stays pending, is
dropped or is taken, and only what was due or taken is invoked. A request that was asked to be
dropped is not taken later. -/
structure Moves (due : List Value) (s : Ledger) (new : List Note) (t : Ledger) : Prop where
  log : t.log = s.log ++ new
  settled : dropping s.log = false → dropping t.log = false
  next : s.host.nextFrame ≤ t.host.nextFrame
  numbers : ((requests new).map (·.1)).Pairwise (· < ·)
  between : ∀ r ∈ requests new, s.host.nextFrame ≤ r.1 ∧ r.1 < t.host.nextFrame
  ordered : s.host.Ordered → t.host.Ordered
  frames : (t.host.frames ++ (dropped new ++ taken new)).Perm (s.host.frames ++ requests new)
  calls : (frameCalls new : Multiset Value) ≤ due + ((taken new).map (·.2) : List Value)
  heeds : ∀ before n after reach, new = before ++ n :: after → n.drops? = some reach →
    ∀ f : Frame, f.1 < s.host.nextFrame ∨ f ∈ requests before → reach f.1 = true →
      f ∉ t.host.frames ∧ f ∉ taken after

section

variable {α β : Type} {due later : List Value} {new more : List Note} {s t u : Ledger}

theorem Moves.refl (s : Ledger) : Moves [] s [] s where
  log := (append_nil _).symm
  settled := id
  next := le_rfl
  numbers := .nil
  between := by simp [requests]
  ordered := id
  frames := by simp [dropped, taken, requests]
  calls := by simp [frameCalls, taken]
  heeds := by simp

/-- What was old and not pending is never pending or taken again. -/
theorem Moves.stays_away (h : Moves due s new t) {f : Frame} (hf : f.1 < s.host.nextFrame)
    (hs : f ∉ s.host.frames) : f ∉ t.host.frames ∧ f ∉ taken new := by
  have hmem := h.frames.mem_iff (a := f)
  have hnew : f ∉ requests new := fun hr => absurd (h.between f hr).1 (Nat.not_le.mpr hf)
  simp only [mem_append, hs, hnew, or_self, iff_false, not_or] at hmem
  exact ⟨hmem.1, hmem.2.2⟩

theorem Moves.trans (h : Moves due s new t) (k : Moves later t more u) :
    Moves (due ++ later) s (new ++ more) u where
  log := by rw [k.log, h.log, append_assoc]
  settled hs := k.settled (h.settled hs)
  next := h.next.trans k.next
  numbers := by
    rw [requests_append, map_append, pairwise_append]
    refine ⟨h.numbers, k.numbers, fun i hi j hj => ?_⟩
    obtain ⟨r, hr, rfl⟩ := mem_map.mp hi
    obtain ⟨q, hq, rfl⟩ := mem_map.mp hj
    exact (h.between r hr).2.trans_le (k.between q hq).1
  between r hr := by
    rw [requests_append, mem_append] at hr
    rcases hr with hr | hr
    · exact ⟨(h.between r hr).1, (h.between r hr).2.trans_le k.next⟩
    · exact ⟨h.next.trans (k.between r hr).1, (k.between r hr).2⟩
  ordered hs := k.ordered (h.ordered hs)
  frames := by
    have hframes := Multiset.coe_eq_coe.mpr h.frames
    have kframes := Multiset.coe_eq_coe.mpr k.frames
    refine Multiset.coe_eq_coe.mp ?_
    simp only [requests_append, dropped_append, taken_append, ← Multiset.coe_add] at *
    refine add_right_cancel (b := (t.host.frames : Multiset Frame)) ?_
    have hsum := congrArg₂ (· + ·) hframes kframes
    convert hsum using 1 <;> abel
  calls := by
    have hsum := add_le_add h.calls k.calls
    simp only [frameCalls_append, taken_append, map_append, ← Multiset.coe_add] at hsum ⊢
    convert hsum using 1
    abel
  heeds before n after reach hsplit hn f hf hreach := by
    have hold : f ∈ requests new → f.1 < t.host.nextFrame := fun hr => (h.between f hr).2
    rcases append_eq_append_iff.mp hsplit with ⟨between', rfl, hmore⟩ | ⟨rest, hnew, hafter⟩
    · -- The note is among the later ones.
      refine k.heeds between' n after reach hmore hn f ?_ hreach
      rw [requests_append, mem_append] at hf
      rcases hf with hf | hf | hf
      · exact .inl (hf.trans_le h.next)
      · exact .inl (hold hf)
      · exact .inr hf
    · cases rest with
      | nil =>
        rw [append_nil] at hnew
        refine k.heeds [] n after reach hafter.symm hn f (.inl ?_) hreach
        exact hf.elim (·.trans_le h.next) fun hf => hold (hnew ▸ hf)
      | cons n' rest =>
        obtain ⟨rfl, rfl⟩ := List.cons.inj hafter
        obtain ⟨hpending, htaken⟩ := h.heeds before n rest reach hnew hn f hf hreach
        have hlt : f.1 < t.host.nextFrame := hf.elim (·.trans_le h.next) fun hf =>
          hold (by rw [hnew, requests_append]; exact mem_append_left _ hf)
        obtain ⟨hpending', htaken'⟩ := k.stays_away hlt hpending
        have hboth : f ∉ taken (rest ++ more) := by
          rw [taken_append, mem_append]
          exact not_or.mpr ⟨htaken, htaken'⟩
        exact ⟨hpending', hboth⟩

theorem Moves.weaken (h : Moves due s new t) (later : List Value) :
    Moves (due ++ later) s new t where
  __ := h
  calls := by
    refine h.calls.trans ?_
    rw [← Multiset.coe_add]
    gcongr
    exact Multiset.le_add_right _ _

theorem Moves.host {h : Host} (hnext : h.nextFrame = s.host.nextFrame)
    (hframes : h.frames = s.host.frames) : Moves [] s [] { s with host := h } where
  log := (append_nil _).symm
  settled := id
  next := hnext.ge
  numbers := .nil
  between := by simp [requests]
  ordered hs := by simpa only [Ordered, hnext, hframes] using hs
  frames := by simp [dropped, taken, requests, hframes]
  calls := by simp [frameCalls, taken]
  heeds := by simp

theorem dropping_note (s : Ledger) (n : Note) : dropping (s.note n).log = n.drops?.isSome := by
  simp [dropping, Ledger.note]

theorem Moves.note {n : Note} (hn : n.IsPlain) (hdue : frameCalls [n] = due) :
    Moves due s [n] (s.note n) where
  log := rfl
  settled _ := by rw [dropping_note, hn.drops?]; rfl
  next := le_rfl
  numbers := by simp [requests, hn.request?]
  between := by simp [requests, hn.request?]
  ordered := id
  frames := by simp [requests, dropped, taken, Ledger.note, hn.request?, hn.dropped, hn.taken]
  calls := hdue ▸ Multiset.le_add_right _ _
  heeds before n' after reach hsplit hn' := by
    have hmem : n' ∈ [n] := hsplit ▸ mem_append_right before mem_cons_self
    rw [mem_singleton.mp hmem, hn.drops?] at hn'
    cases hn'

/-! ## Frames that come and go -/

theorem requests_answered (callback : Value) (id : Nat) :
    requests [.answered "request_frame" [callback] (.ok (.int id))] = [(id, callback)] :=
  rfl

theorem leaving_of_subset {h : Host} (hframes : s.host.frames ⊆ h.frames) : s.leaving h = [] := by
  have hgone : s.gone h = [] := by
    refine filter_eq_nil_iff.mpr fun f hf => ?_
    have hany : (h.frames.any fun f' => f'.1 == f.1) = true :=
      any_eq_true.mpr ⟨f, hframes hf, beq_self_eq_true _⟩
    simp [hany]
  simp [leaving, hgone]

theorem set_of_subset {h : Host} (hframes : s.host.frames ⊆ h.frames) :
    place.set h s = { s with host := h } := by
  simp [place, leaving_of_subset hframes]

theorem dropped_leaving (s : Ledger) (h : Host) :
    dropped (s.leaving h) = if dropping s.log then s.gone h else [] := by
  unfold leaving
  split
  · rename_i hempty
    simp [dropped, isEmpty_iff.mp hempty]
  · cases dropping s.log <;> simp [dropped, Note.dropped]

theorem taken_leaving (s : Ledger) (h : Host) :
    taken (s.leaving h) = if dropping s.log then [] else s.gone h := by
  unfold leaving
  split
  · rename_i hempty
    simp [taken, isEmpty_iff.mp hempty]
  · cases dropping s.log <;> simp [taken, Note.taken]

theorem leaving_plain {h : Host} {n : Note} (hn : n ∈ s.leaving h) :
    n.drops? = none ∧ n.request? = none ∧ n.frameCall? = none := by
  unfold leaving at hn
  split at hn
  · cases hn
  · rw [mem_singleton.mp hn]
    exact ⟨rfl, rfl, rfl⟩

theorem requests_leaving (s : Ledger) (h : Host) : requests (s.leaving h) = [] :=
  filterMap_eq_nil_iff.mpr fun _ hn => (leaving_plain hn).2.1

theorem frameCalls_leaving (s : Ledger) (h : Host) : frameCalls (s.leaving h) = [] :=
  filterMap_eq_nil_iff.mpr fun _ hn => (leaving_plain hn).2.2

theorem Moves.request (callback : Value) :
    Moves [] s [.answered "request_frame" [callback] (.ok (.int s.host.nextFrame))]
      (Ledger.note { s with host := (s.host.requestFrame callback).2 }
        (.answered "request_frame" [callback] (.ok (.int s.host.nextFrame)))) where
  log := rfl
  settled _ := by simp [dropping_note, Note.drops?]
  next := Nat.le_succ _
  numbers := by simp [requests_answered]
  between := by simp [requests_answered, Ledger.note, requestFrame]
  ordered hs := by
    constructor
    · simp only [requestFrame, Ledger.note, map_append, map_cons, map_nil,
        pairwise_append]
      refine ⟨hs.1, pairwise_singleton _ _, ?_⟩
      simpa using fun id v hf => hs.2 (id, v) hf
    · intro f hf
      rcases mem_append.mp hf with hf | hf
      · exact (hs.2 f hf).trans (Nat.lt_succ_self _)
      · cases mem_singleton.mp hf
        exact Nat.lt_succ_self _
  frames := by
    simp [requests_answered, dropped, Note.dropped, taken, Note.taken, Ledger.note, requestFrame]
  calls := Multiset.zero_le _
  heeds before n' after reach hsplit hn' := by
    have hmem : n' ∈ [Note.answered "request_frame" [callback] (.ok (.int s.host.nextFrame))] :=
      hsplit ▸ mem_append_right before mem_cons_self
    rw [mem_singleton.mp hmem] at hn'
    cases hn'

section

variable {n m : Note} {reach : Nat → Bool} {h : Host}

theorem told_drop (hn : n.drops? = some reach) (hm : m.IsPlain) (hcall : m.frameCall? = none)
    (hframes : h.frames = s.host.frames.filter fun f => !reach f.1) :
    let new := n :: ((s.note n).leaving h ++ [m])
    dropped new = s.host.frames.filter (fun f => reach f.1) ∧ taken new = [] ∧
      requests new = [] ∧ frameCalls new = [] := by
  have hasked : n.request? = none ∧ n.frameCall? = none ∧ n.dropped = [] ∧ n.taken = [] := by
    cases n with
    | asked => exact ⟨rfl, rfl, rfl, rfl⟩
    | _ => cases hn
  have hdropping : dropping (s.note n).log = true := by rw [dropping_note, hn]; rfl
  have hgone : (s.note n).gone h = s.host.frames.filter fun f => reach f.1 := by
    refine filter_congr fun f hf => ?_
    rw [Bool.not_eq_eq_eq_not, hframes, Bool.eq_iff_iff, any_eq_true]
    constructor
    · rintro ⟨f', hf', hid⟩
      rw [beq_iff_eq] at hid
      rw [← hid]
      exact (mem_filter.mp hf').2
    · exact fun hkept => ⟨f, mem_filter.mpr ⟨hf, hkept⟩, beq_self_eq_true _⟩
  simp only [← singleton_append (l := _ ++ _), dropped_append, taken_append, requests_append,
    frameCalls_append, dropped_leaving, taken_leaving, requests_leaving, frameCalls_leaving,
    hdropping, hgone]
  simp [dropped, taken, requests, frameCalls, hasked, hm.dropped, hm.taken, hm.request?, hcall]

theorem Moves.drop (hn : n.drops? = some reach) (hm : m.IsPlain) (hcall : m.frameCall? = none)
    (hnext : h.nextFrame = s.host.nextFrame)
    (hframes : h.frames = s.host.frames.filter fun f => !reach f.1) :
    Moves [] s (n :: ((s.note n).leaving h ++ [m])) ((place.set h (s.note n)).note m) := by
  obtain ⟨hdropped, htaken, hrequests, hcalls⟩ := told_drop hn hm hcall hframes
  have hsublist : h.frames.Sublist s.host.frames := hframes ▸ filter_sublist
  exact {
    log := by simp [place, Ledger.note]
    settled := fun _ => by rw [dropping_note, hm.drops?]; rfl
    next := hnext.ge
    numbers := by simp [hrequests]
    between := by simp [hrequests]
    ordered := fun hs => ⟨hs.1.sublist (hsublist.map _),
      fun f hf => hnext.symm ▸ hs.2 f (hsublist.subset hf)⟩
    frames := by
      rw [hdropped, htaken, hrequests, append_nil, append_nil]
      show (h.frames ++ _).Perm _
      rw [hframes]
      simpa using filter_append_perm (fun f : Frame => !reach f.1) s.host.frames
    calls := by
      rw [hcalls]
      exact Multiset.zero_le _
    heeds := by
      intro before n' after reach' hsplit hdrops f _ hreach
      cases before with
      | nil =>
        obtain ⟨rfl, rfl⟩ := List.cons.inj hsplit
        obtain rfl := Option.some.inj (hn.symm.trans hdrops)
        refine ⟨fun hf => ?_, ?_⟩
        · have hkept : f ∈ s.host.frames.filter fun f => !reach f.1 := hframes ▸ hf
          simp [hreach] at hkept
        · rw [← singleton_append, taken_append] at htaken
          rw [(append_eq_nil_iff.mp htaken).2]
          exact not_mem_nil
      | cons _ before =>
        have hmem : n' ∈ (s.note n).leaving h ++ [m] :=
          (List.cons.inj hsplit).2 ▸ mem_append_right before mem_cons_self
        have hnone : n'.drops? = none := by
          rcases mem_append.mp hmem with hmem | hmem
          · exact (leaving_plain hmem).1
          · rw [mem_singleton.mp hmem]
            exact hm.drops?
        rw [hnone] at hdrops
        cases hdrops }

end

theorem taken_take (hs : dropping s.log = false) :
    taken (s.leaving s.host.takeFrames.2) = s.host.frames := by
  rw [taken_leaving, hs]
  simp [gone, takeFrames]

theorem dropping_take (hs : dropping s.log = false) : dropping s.take.log = false := by
  show dropping (s.log ++ s.leaving s.host.takeFrames.2) = false
  unfold leaving
  split
  · rw [append_nil]
    exact hs
  · simp [dropping, Note.drops?]

/-- A frame takes all that is pending; what it takes is due in it. -/
theorem Moves.of_take (hs : dropping s.log = false) (h : Moves s.pending s.take new t) :
    Moves [] s (s.leaving s.host.takeFrames.2 ++ new) t := by
  have htaken : taken (s.leaving s.host.takeFrames.2) = s.host.frames := taken_take hs
  have hdropped : dropped (s.leaving s.host.takeFrames.2) = [] := by
    rw [dropped_leaving, hs]
    rfl
  have hcalls : frameCalls (s.leaving s.host.takeFrames.2) = [] := frameCalls_leaving ..
  have hrequests : requests (s.leaving s.host.takeFrames.2) = [] := requests_leaving ..
  exact {
    log := by rw [h.log, Ledger.take, place, append_assoc]
    settled := fun _ => h.settled (dropping_take hs)
    next := h.next
    numbers := by simpa [hrequests] using h.numbers
    between := by
      rw [requests_append, hrequests]
      exact h.between
    ordered := fun _ => h.ordered ⟨.nil, by simp [Ledger.take, place, takeFrames]⟩
    frames := by
      have hperm : (t.host.frames ++ (dropped new ++ taken new)).Perm (requests new) := by
        simpa [Ledger.take, place, takeFrames] using h.frames
      rw [dropped_append, taken_append, requests_append, htaken, hdropped, hrequests]
      refine Multiset.coe_eq_coe.mp ?_
      have hsum := congrArg ((s.host.frames : Multiset Frame) + ·) (Multiset.coe_eq_coe.mpr hperm)
      simp only [nil_append, ← Multiset.coe_add] at hsum ⊢
      rw [← hsum]
      abel
    calls := by
      rw [frameCalls_append, hcalls, taken_append, htaken, map_append, ← Multiset.coe_add]
      simpa [Ledger.pending] using h.calls
    heeds := by
      intro before n after reach hsplit hn f hf hreach
      rcases append_eq_append_iff.mp hsplit with ⟨rest, rfl, hnew⟩ | ⟨rest, hleft, hafter⟩
      · rw [requests_append, hrequests] at hf
        exact h.heeds rest n after reach hnew hn f hf hreach
      · cases rest with
        | nil =>
          have hbefore : requests before = [] := by
            rw [append_nil] at hleft
            rw [← hleft, hrequests]
          refine h.heeds [] n after reach hafter.symm hn f (.inl ?_) hreach
          exact hf.resolve_right (by simp [hbefore])
        | cons n' rest =>
          obtain ⟨rfl, -⟩ := List.cons.inj hafter
          have hmem : n ∈ s.leaving s.host.takeFrames.2 :=
            hleft ▸ mem_append_right before mem_cons_self
          rw [(leaving_plain hmem).1] at hn
          cases hn }

/-! ## Computations -/

/-- A computation does nothing but move, with these callbacks due in it. Where it is calm and nobody
asks for frames to be run, it takes no frames, and if it ends well it invokes what was due. -/
def Accounts (calm : Prop) (due : List Value) (x : EStateM Fault Ledger α) : Prop :=
  ∀ s, dropping s.log = false → ∃ new, Moves due s new (stateOf (x.run s)) ∧
    (calm → Calm new → taken new = [] ∧ ∀ a t, x.run s = .ok a t → frameCalls new = due)

variable {calm : Prop} {x : EStateM Fault Ledger α}

theorem Accounts.bind {f : α → EStateM Fault Ledger β}
    (hx : Accounts calm due x) (hf : ∀ a, Accounts calm later (f a)) :
    Accounts calm (due ++ later) (x >>= f) := by
  intro s hs
  obtain ⟨new, hnew, hcalm⟩ := hx s hs
  rw [EStateM.run_bind]
  cases hrun : x.run s with
  | error e t =>
    rw [hrun] at hnew
    exact ⟨new, hnew.weaken later, fun hc hq => ⟨(hcalm hc hq).1, fun _ _ h => by cases h⟩⟩
  | ok a t =>
    rw [hrun] at hnew
    obtain ⟨more, hmore, hcalm'⟩ := hf a t (hnew.settled hs)
    refine ⟨new ++ more, hnew.trans hmore, fun hc hquiet => ?_⟩
    obtain ⟨hquiet, hquiet'⟩ := calm_append.mp hquiet
    obtain ⟨htaken, hcalls⟩ := hcalm hc hquiet
    obtain ⟨htaken', hcalls'⟩ := hcalm' hc hquiet'
    refine ⟨by rw [taken_append, htaken, htaken']; rfl, fun b u h => ?_⟩
    rw [frameCalls_append, hcalls a t hrun, hcalls' b u h]

theorem Accounts.frameCalls_eq_nil {s : Ledger}
    (h : Moves [] s new (stateOf (x.run s))) (htaken : taken new = []) : frameCalls new = [] := by
  have hcalls := h.calls
  rw [htaken] at hcalls
  exact Multiset.coe_eq_zero _ |>.mp (Multiset.le_zero.mp hcalls)

theorem attempt_run (x : EStateM Fault Ledger α) (s : Ledger) :
    ∃ answer, (Ledger.attempt x).run s = .ok answer (stateOf (x.run s)) := by
  show ∃ answer, Ledger.attempt x s = .ok answer (stateOf (x s))
  unfold Ledger.attempt
  cases x s with
  | ok a t => exact ⟨.ok a, rfl⟩
  | error f t => exact ⟨.error f, rfl⟩

theorem Accounts.attempt (hx : Accounts calm [] x) :
    Accounts calm [] (attempt x) := by
  intro s hs
  obtain ⟨new, hnew, hcalm⟩ := hx s hs
  obtain ⟨answer, hrun⟩ := attempt_run x s
  rw [hrun]
  exact ⟨new, hnew, fun hc hq => ⟨(hcalm hc hq).1,
    fun _ _ _ => Accounts.frameCalls_eq_nil hnew (hcalm hc hq).1⟩⟩

theorem accounts_pure (a : α) : Accounts calm [] (pure a) :=
  fun s _ => ⟨[], .refl s, fun _ _ => ⟨rfl, fun _ _ _ => rfl⟩⟩

theorem accounts_throw (f : Fault) : Accounts calm [] (throw f : EStateM Fault Ledger α) :=
  fun s _ => ⟨[], .refl s, fun _ _ => ⟨rfl, fun _ _ _ => rfl⟩⟩

theorem accounts_lift (x : Except Fault α) : Accounts calm [] (lift x) := by
  cases x with
  | ok a => exact accounts_pure a
  | error f => exact accounts_throw f

theorem accounts_read : Accounts calm [] place.read :=
  fun s _ => ⟨[], .refl s, fun _ _ => ⟨rfl, fun _ _ _ => rfl⟩⟩

/-- A change of the host that leaves the frames as they are. -/
def Gentle (f : Host → Host) : Prop :=
  ∀ h, (f h).nextFrame = h.nextFrame ∧ (f h).frames = h.frames

theorem accounts_update {f : Host → Host} (hf : Gentle f) : Accounts calm [] (place.update f) := by
  intro s _
  have hset : stateOf ((place.update f).run s) = { s with host := f s.host } :=
    set_of_subset ((hf s.host).2.symm ▸ List.Subset.refl s.host.frames)
  rw [hset]
  exact ⟨[], .host (hf s.host).1 (hf s.host).2, fun _ _ => ⟨rfl, fun _ _ _ => rfl⟩⟩

theorem accounts_note {n : Note} (hn : n.IsPlain) (hdue : frameCalls [n] = due) :
    Accounts calm due (modify (Ledger.note · n)) :=
  fun s _ => ⟨[n], .note hn hdue, fun _ _ => ⟨by simp [taken, hn.taken], fun _ _ _ => hdue⟩⟩

/-! ## Callbacks -/

/-- Callbacks account for themselves, and note when they fail. -/
structure Tracked (inv : Invoke Ledger) : Prop where
  accounts : ∀ callback arguments,
    Accounts True (frameCalls [.invoked callback arguments]) (inv callback arguments)
  notes : ∀ callback arguments s f t, (inv callback arguments).run s = .error f t →
    ∃ new, t.log = s.log ++ new ∧ .failed ∈ new

variable {inv : Invoke Ledger}

theorem accounts_invokeAll (hinv : Tracked inv) (arguments callbacks : List Value) :
    Accounts True (frameCalls (callbacks.map (.invoked · arguments)))
      (invokeAll inv arguments callbacks) := by
  induction callbacks with
  | nil => exact accounts_pure ()
  | cons callback rest ih =>
    rw [map_cons, ← singleton_append, frameCalls_append]
    exact (hinv.accounts callback arguments).bind fun _ => ih

theorem Accounts.of_true (h : Accounts True due x) :
    Accounts calm due x := fun s hs =>
  (h s hs).imp fun _ h => ⟨h.1, fun _ => h.2 trivial⟩

theorem frameCalls_handlers (callbacks : List Value) :
    frameCalls (callbacks.map (.invoked · [])) = [] := by
  simp [frameCalls, filterMap_map, Function.comp_def, Note.frameCall?]

theorem frameCalls_frame (time : Value) (callbacks : List Value) :
    frameCalls (callbacks.map (.invoked · [time])) = callbacks := by
  simp [frameCalls, filterMap_map, Function.comp_def, Note.frameCall?]

theorem accounts_press (hinv : Tracked inv) (key : String) :
    Accounts calm [] (press place inv key) := by
  have hhold : Gentle (hold · key) := by
    intro h
    dsimp only [hold]
    split <;> exact ⟨rfl, rfl⟩
  refine (accounts_update hhold).bind fun _ => accounts_read.bind fun h => ?_
  have hall : Accounts calm _ (invokeAll inv [] (h.handlers key)) :=
    (accounts_invokeAll hinv [] _).of_true
  rw [frameCalls_handlers] at hall
  exact hall.bind fun _ => accounts_pure _

/-! ## Running frames -/

theorem runFrames_nil (interval : Value) (count ran : Nat) (h : s.host.frames = []) :
    (runFrames place inv interval (count + 1) ran).run s = .ok ran s := by
  show (if s.host.frames.isEmpty then _ else _ : EStateM Fault Ledger Nat).run s = _
  rw [h]
  rfl

theorem runFrames_succ (interval : Value) (count ran : Nat) (h : s.host.frames ≠ []) :
    (runFrames place inv interval (count + 1) ran).run s =
      (lift (Value.multiply (.int s.host.framesRun) interval) >>= fun time => do
        invokeAll inv [time] s.pending
        place.update countFrame
        runFrames place inv interval count (ran + 1)).run s.take := by
  have hempty : s.host.frames.isEmpty = false := by simpa using h
  show (if s.host.frames.isEmpty then _ else _ : EStateM Fault Ledger Nat).run s = _
  rw [hempty]
  rfl

/-- **Running frames moves.** Each frame is a round of callbacks that were pending. -/
theorem accounts_runFrames (hinv : Tracked inv) (interval : Value) (count ran : Nat) :
    Accounts False [] (runFrames place inv interval count ran) := by
  induction count generalizing ran with
  | zero => exact accounts_pure ran
  | succ count ih =>
    intro s hs
    by_cases hpending : s.host.frames = []
    · rw [runFrames_nil interval count ran hpending]
      exact ⟨[], .refl s, False.elim⟩
    · have hframe : Accounts False ([] ++ (s.pending ++ ([] ++ [])))
          (lift (Value.multiply (.int s.host.framesRun) interval) >>= fun time => do
            invokeAll inv [time] s.pending
            place.update countFrame
            runFrames place inv interval count (ran + 1)) := by
        have hcount : Gentle countFrame := fun _ => ⟨rfl, rfl⟩
        refine (accounts_lift _).bind fun time => Accounts.bind ?_ fun _ =>
          (accounts_update hcount).bind fun _ => ih (ran + 1)
        have hround : Accounts False _ (invokeAll inv [time] s.pending) :=
          (accounts_invokeAll hinv [time] _).of_true
        rwa [frameCalls_frame] at hround
      obtain ⟨new, hnew, -⟩ := hframe s.take (dropping_take hs)
      rw [nil_append, append_nil, append_nil] at hnew
      rw [runFrames_succ interval count ran hpending]
      exact ⟨_, hnew.of_take hs, False.elim⟩

/-! ## Operations -/

theorem accounts_runFramesBy (hinv : Tracked inv) (hcalm : ¬ calm) (count interval : Value) :
    Accounts calm [] (runFramesBy place inv count interval) := by
  have hrun : ∀ n : Int, Accounts calm [] (runFrames place inv interval n.toNat 0) :=
    fun n s hs => by
    obtain ⟨new, hnew, -⟩ := accounts_runFrames hinv interval n.toNat 0 s hs
    exact ⟨new, hnew, fun h => absurd h hcalm⟩
  exact (accounts_lift _).bind fun n => (hrun n).bind fun _ => accounts_pure _

theorem accounts_done {f : Host → Host} (hf : Gentle f) :
    Accounts calm [] (do place.update f; return .null : EStateM Fault Ledger Value) :=
  (accounts_update hf).bind fun _ => accounts_pure _

theorem accounts_call (hinv : Tracked inv)
    (h : ∀ callback, ¬ (name = "request_frame" ∧ arguments = [callback]))
    (hdrops : (Note.asked name arguments).drops? = none) :
    Accounts (name ≠ "run_frames") [] (Host.call place inv name arguments) := by
  unfold Host.call
  cases hfind : Signature.find? operations name with
  | none => exact accounts_throw _
  | some signature =>
    show Accounts _ ([] ++ []) (lift (signature.check arguments.length) >>= fun _ =>
      Host.perform place inv name arguments)
    cases hcheck : signature.check arguments.length with
    | error f => exact accounts_throw f
    | ok =>
      refine (accounts_pure ()).bind fun _ => ?_
      unfold Host.perform
      split
      · exact (accounts_lift _).bind fun _ => accounts_done fun _ => ⟨rfl, rfl⟩
      · exact (accounts_lift _).bind fun _ => accounts_read.bind fun _ => accounts_pure _
      · exact (accounts_lift _).bind fun _ => (accounts_press hinv _).bind fun _ => accounts_pure _
      · exact (accounts_lift _).bind fun _ => accounts_done fun _ => ⟨rfl, rfl⟩
      · exact accounts_done fun _ => ⟨rfl, rfl⟩
      · exact accounts_done fun _ => ⟨rfl, rfl⟩
      · exact absurd ⟨rfl, rfl⟩ (h _)
      · cases hdrops
      · exact accounts_runFramesBy hinv (by simp) _ _
      · exact accounts_runFramesBy hinv (by simp) _ _
      · exact accounts_runFramesBy hinv (by simp) _ _
      · refine (accounts_lift _).bind fun sound => accounts_done fun h => ?_
        unfold playSound
        split <;> exact ⟨rfl, rfl⟩
      · exact (accounts_lift _).bind fun _ => accounts_done fun _ => ⟨rfl, rfl⟩
      · exact (accounts_lift _).bind fun _ => accounts_done fun _ => ⟨rfl, rfl⟩
      · -- With arguments a reset is refused, and without any it drops frames.
        obtain rfl : signature = ⟨kindName, "reset", [], 0⟩ :=
          Option.some.inj (hfind.symm.trans rfl)
        cases arguments with
        | nil => cases hdrops
        | cons => cases hcheck
      · exact accounts_throw _

theorem plain_asked
    (h : (Note.asked name arguments).drops? = none) : (Note.asked name arguments).IsPlain :=
  ⟨h, rfl, rfl, rfl⟩

theorem plain_answered (answer : Except Fault Value)
    (h : ∀ callback, ¬ (name = "request_frame" ∧ arguments = [callback])) :
    (Note.answered name arguments answer).IsPlain := by
  refine ⟨rfl, ?_, rfl, rfl⟩
  unfold Note.request?
  split
  · rename_i heq
    cases heq
    exact if_neg fun hname => h _ ⟨hname, rfl⟩
  · rfl

theorem Accounts.asked (hdrops : (Note.asked name arguments).drops? = none)
    (h : Accounts (name ≠ "run_frames") due x) :
    Accounts True due (do modify (Ledger.note · (.asked name arguments)); x) := by
  intro s hs
  have hasked : Moves [] s [.asked name arguments] (s.note (.asked name arguments)) :=
    .note (plain_asked hdrops) rfl
  obtain ⟨new, hnew, hcalm⟩ := h (s.note (.asked name arguments)) (hasked.settled hs)
  have hrun : (do modify (Ledger.note · (.asked name arguments)); x : EStateM Fault Ledger α).run s =
      x.run (s.note (.asked name arguments)) := rfl
  rw [hrun]
  refine ⟨[Note.asked name arguments] ++ new, hasked.trans hnew, fun _ hquiet => ?_⟩
  obtain ⟨hask, hquiet⟩ := calm_append.mp hquiet
  exact hcalm (fun hname => hask arguments (hname ▸ mem_singleton_self _)) hquiet

theorem accounts_drop {reach : Nat → Bool}
    (hn : (Note.asked name arguments).drops? = some reach) {x : EStateM Fault Ledger Value}
    (hx : ∀ s, ∃ h : Host, h.nextFrame = s.host.nextFrame ∧
      h.frames = s.host.frames.filter (fun f => !reach f.1) ∧ stateOf (x.run s) = place.set h s) :
    Accounts True [] (do
      modify (Ledger.note · (.asked name arguments))
      let answer ← Ledger.attempt x
      modify (Ledger.note · (.answered name arguments answer))
      return answer) := by
  have hother : ∀ callback, ¬ (name = "request_frame" ∧ arguments = [callback]) := by
    rintro callback ⟨rfl, rfl⟩
    cases hn
  intro s _
  obtain ⟨h, hnext, hframes, hstate⟩ := hx (s.note (.asked name arguments))
  obtain ⟨answer, hrun⟩ : ∃ answer, (do
      modify (Ledger.note · (.asked name arguments))
      let answer ← Ledger.attempt x
      modify (Ledger.note · (.answered name arguments answer))
      return answer : EStateM Fault Ledger (Except Fault Value)).run s =
      .ok answer ((place.set h (s.note (.asked name arguments))).note
        (.answered name arguments answer)) := by
    obtain ⟨answer, hattempt⟩ := attempt_run x (s.note (.asked name arguments))
    refine ⟨answer, ?_⟩
    rw [← hstate]
    show (Ledger.attempt x >>= fun answer => do
      modify (Ledger.note · (.answered name arguments answer))
      return answer : EStateM Fault Ledger _).run (s.note (.asked name arguments)) = _
    rw [EStateM.run_bind, hattempt]
    rfl
  have hplain := plain_answered answer hother
  obtain ⟨-, htaken, -, hcalls⟩ := told_drop (s := s) hn hplain rfl hframes
  rw [hrun]
  exact ⟨_, Moves.drop hn hplain rfl hnext hframes, fun _ _ => ⟨htaken, fun _ _ _ => hcalls⟩⟩

/-- **Every operation accounts for the frames.** -/
theorem accounts_operation (hinv : Tracked inv) (name : String) (arguments : List Value) :
    Accounts True [] (operation inv name arguments) := by
  cases hdrops : (Note.asked name arguments).drops? with
  | some reach =>
    refine accounts_drop hdrops fun s => ?_
    unfold Note.drops? at hdrops
    split at hdrops
    · rename_i id heq
      cases heq
      cases hdrops
      cases hkey : id.checkKey with
      | ok =>
        refine ⟨s.host.cancelFrame id, rfl, rfl, ?_⟩
        show stateOf ((lift id.checkKey >>= fun _ => place.update (cancelFrame · id) >>= fun _ =>
          pure .null : EStateM Fault Ledger Value).run s) = _
        rw [hkey]
        rfl
      | error f =>
        have hid : ∀ n, id.hasId n = false := fun n => by
          cases id <;> first | rfl | cases hkey
        refine ⟨s.host, rfl, ?_, ?_⟩
        · simp [hid]
        · rw [set_of_subset (List.Subset.refl _)]
          show stateOf ((lift id.checkKey >>= fun _ => place.update (cancelFrame · id) >>= fun _ =>
            pure .null : EStateM Fault Ledger Value).run s) = _
          rw [hkey]
          rfl
    · rename_i heq
      cases heq
      cases hdrops
      exact ⟨s.host.reset, rfl, by simp [reset], rfl⟩
    · cases hdrops
  | none =>
    by_cases h : ∃ callback, name = "request_frame" ∧ arguments = [callback]
    · obtain ⟨callback, rfl, rfl⟩ := h
      refine fun s _ => ⟨[.asked "request_frame" [callback]] ++
        [.answered "request_frame" [callback] (.ok (.int s.host.nextFrame))], ?_,
        fun _ _ => ⟨rfl, fun _ _ _ => rfl⟩⟩
      have hasked : Moves [] s _ (s.note (.asked "request_frame" [callback])) :=
        .note (plain_asked hdrops) rfl
      have hset : (s.note (.asked "request_frame" [callback])).host.frames ⊆
          ((s.note (.asked "request_frame" [callback])).host.requestFrame callback).2.frames :=
        subset_append_left _ _
      have hmoves := hasked.trans (Moves.request callback)
      rwa [← set_of_subset hset] at hmoves
    · have hcall := (accounts_call hinv (not_exists.mp h) hdrops).attempt.bind fun answer =>
        (accounts_note (plain_answered answer (not_exists.mp h)) rfl).bind fun _ =>
          accounts_pure answer
      exact hcall.asked hdrops

theorem accounts_perform (hinv : Tracked inv) (task : Task) :
    Accounts True [] (Ledger.perform inv task) := by
  induction task with
  | finish result => exact accounts_pure result
  | fail fault => exact accounts_throw fault
  | call name arguments next ih => exact (accounts_operation hinv name arguments).bind ih

theorem moves_failed (s : Ledger) : Moves [] s [.failed] (s.note .failed) :=
  .note ⟨rfl, rfl, rfl, rfl⟩ rfl

theorem invoke_succ {behave : Behaviour} {depth : Nat} (hinv : Tracked (Ledger.invoke behave depth))
    (callback : Value) (arguments : List Value) (s : Ledger) :
    ∃ new, Moves [] (s.note (.invoked callback arguments)) new
        (stateOf ((Ledger.invoke behave (depth + 1) callback arguments).run s)) ∧
      (Calm new → taken new = [] ∧ frameCalls new = []) ∧
      ∀ f t, (Ledger.invoke behave (depth + 1) callback arguments).run s = .error f t →
        .failed ∈ new := by
  let task := behave (s.note (.invoked callback arguments)).log callback arguments
  have hdropping : dropping (s.note (.invoked callback arguments)).log = false := by
    rw [dropping_note]; rfl
  obtain ⟨new, hnew, hcalm⟩ := accounts_perform hinv task _ hdropping
  have hquiet : Calm new → taken new = [] ∧ frameCalls new = [] := fun hquiet =>
    ⟨(hcalm trivial hquiet).1, Accounts.frameCalls_eq_nil hnew (hcalm trivial hquiet).1⟩
  have hrun : (Ledger.invoke behave (depth + 1) callback arguments).run s =
      noting (Ledger.perform (Ledger.invoke behave depth) task)
        (s.note (.invoked callback arguments)) := rfl
  rw [hrun, noting]
  rw [EStateM.run] at hnew
  cases hend : Ledger.perform (Ledger.invoke behave depth) task
      (s.note (.invoked callback arguments)) with
  | ok a t =>
    rw [hend] at hnew
    exact ⟨new, hnew, hquiet, fun _ _ h => by cases h⟩
  | error f t =>
    rw [hend] at hnew
    refine ⟨new ++ [Note.failed], hnew.trans (moves_failed t), fun hcalm => ?_, fun _ _ _ =>
      mem_append_right _ (mem_singleton_self _)⟩
    obtain ⟨htaken, hcalls⟩ := hquiet (calm_append.mp hcalm).1
    exact ⟨by rw [taken_append, htaken]; rfl, by rw [frameCalls_append, hcalls]; rfl⟩

/-- **Every callback is tracked.** -/
theorem invoke_tracked (behave : Behaviour) (depth : Nat) :
    Tracked (Ledger.invoke behave depth) := by
  induction depth with
  | zero =>
    constructor
    · exact fun callback arguments s _ => ⟨[.failed], (moves_failed s).weaken _,
        fun _ _ => ⟨rfl, fun _ _ h => by cases h⟩⟩
    · intro callback arguments s f t h
      cases h
      exact ⟨[.failed], rfl, mem_singleton_self _⟩
  | succ depth ih =>
    constructor
    · intro callback arguments s _
      obtain ⟨new, hnew, hquiet, -⟩ := invoke_succ ih callback arguments s
      have hown : Moves (frameCalls [.invoked callback arguments]) s [.invoked callback arguments]
          (s.note (.invoked callback arguments)) := .note ⟨rfl, rfl, rfl, rfl⟩ rfl
      have hmoves := hown.trans hnew
      rw [append_nil] at hmoves
      refine ⟨_, hmoves, fun _ hcalm => ?_⟩
      obtain ⟨htaken, hcalls⟩ := hquiet (calm_append.mp hcalm).2
      exact ⟨by rw [taken_append, htaken]; rfl,
        fun _ _ _ => by rw [frameCalls_append, hcalls, append_nil]⟩
    · intro callback arguments s f t h
      obtain ⟨new, hnew, -, hnotes⟩ := invoke_succ ih callback arguments s
      rw [h] at hnew
      refine ⟨.invoked callback arguments :: new, ?_, mem_cons_of_mem _ (hnotes f t h)⟩
      rw [← singleton_append, ← append_assoc]
      exact hnew.log

theorem play_moves (behave : Behaviour) (depth : Nat) (tasks : List Task) (s : Ledger)
    (hs : dropping s.log = false) : ∃ new, Moves [] s new (play behave depth tasks s) := by
  induction tasks generalizing s with
  | nil => exact ⟨[], .refl s⟩
  | cons task rest ih =>
    obtain ⟨new, hnew, -⟩ := accounts_perform (invoke_tracked behave depth) task s hs
    obtain ⟨more, hmore⟩ := ih _ (hnew.settled hs)
    exact ⟨new ++ more, hnew.trans hmore⟩

end

end Sketchflow.Host
