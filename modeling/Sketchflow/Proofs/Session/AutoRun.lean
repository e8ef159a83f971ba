import Sketchflow.Session
import Sketchflow.Proofs.Compile.Gaps

/-!
# Runs after a pause

Edits may ask for a run after a pause. At most one timer is waited for, and it leads to one run,
however often it was asked for.

* `Command` is what is asked of a session about its runs, `Event` what comes of it, and `obeyAll`
  gives the events of a sequence of commands.
* `run_cases` is all that a run does to a session, `stop_eq` all that a stop does. `Reason` are the
  reasons for which a run is not finished.
* `Waits` is what the list of timers looks like: the last timer is armed if it is waited for, and no
  other one is.
* **`autoRun_history`**: which events led to the timer that is waited for, how many runs they made,
  and why a run was not finished.
* `runs_uncounted`: a run of a graph without a program is not counted.
-/

namespace Sketchflow.Session

open List

open Compile (generate)

variable {s s' : Session}

/-! ## What a run does to a session -/

theorem stop_eq (s : Session) : ∃ m, s.stop.2 = { s with controls := [], machine := m } := by
  have hperform : ∀ (s : Session) action, ∃ m, (s.callback action).2 = { s with machine := m } := by
    intro s action
    unfold callback perform
    cases action.run { s.machine with output := {} } with
    | ok v m => exact ⟨m, rfl⟩
    | error f m => exact ⟨m, rfl⟩
  unfold stop
  cases Script.Entries.value? s.controls (.str "stop") with
  | none => exact ⟨s.machine, rfl⟩
  | some f =>
    dsimp only
    split
    · exact hperform _ _
    · exact ⟨s.machine, rfl⟩

theorem isFinal_of_stop {f : Fault} (h : s.stop.1 = .error f) : f.isFinal = true := by
  unfold stop at h
  split at h
  · cases h
  · split at h
    · rename_i g _ _
      change (({ s with controls := [] } : Session).callback (Script.invoke g [])).1.map _ = _ at h
      cases hcall : (({ s with controls := [] } : Session).callback (Script.invoke g [])).1 with
      | ok o =>
        rw [hcall] at h
        cases h
      | error f' =>
        rw [hcall] at h
        cases h
        exact isFinal_of_told hcall
    · cases h

/-- The text of the program of a session, if its graph has one. -/
def program (s : Session) : Except Compile.Obstacle String :=
  generate s.graph s.settings.whileLimit.display

theorem prepare_eq (s : Session) :
    ∃ m o, s.prepare =
      { s with controls := [], machine := m, lastRun := o, lastIsCurrent := false } := by
  obtain ⟨m, hm⟩ := stop_eq s
  exact ⟨_, _, by unfold prepare; rw [hm]⟩

/-- Why a run of a session is not finished. -/
def Reason (s : Session) : Raised → Prop
  | .obstacle o => s.program = .error o
  | .ended f => f.isFinal = true

/-- **All that a run does to a session**: it counts if it is finished. -/
theorem run_cases (s : Session) :
    (∃ raised m code o current, s.Reason raised ∧ s.run = (.error raised,
      { s with
        controls := [], machine := m, lastCode := code, lastRun := o, lastIsCurrent := current })) ∨
    ∃ text outcome m, s.program = .ok text ∧ s.run = (.ok outcome,
      { s with
        controls := outcome.controls, machine := m, lastCode := text, lastRun := some outcome
        lastIsCurrent := true, runs := s.runs + 1 }) := by
  unfold run
  cases hstop : s.stop.1 with
  | error f =>
    obtain ⟨m, hm⟩ := stop_eq s
    exact .inl ⟨.ended f, m, _, _, _, isFinal_of_stop hstop, by rw [hm]⟩
  | ok stopped =>
    obtain ⟨m, o, hprepare⟩ := prepare_eq s
    have hprogram : s.prepare.program = s.program := by rw [hprepare]; rfl
    unfold compile
    rw [← program, hprogram]
    cases hp : s.program with
    | error obstacle => exact .inl ⟨.obstacle obstacle, m, _, o, _, hp, by rw [hprepare]⟩
    | ok text =>
      rw [hprepare]
      unfold execute perform
      dsimp only
      cases (Script.run text).run { m with output := {} } with
      | ok v m => exact .inr ⟨text, _, m, rfl, rfl⟩
      | error f m =>
        cases hf : f.isFinal with
        | true => exact .inl ⟨.ended f, m, text, o, false, hf, by simp [told, hf, Except.map]⟩
        | false =>
          exact .inr ⟨text, { fault := some f, output := m.printed, vars := m.vars }, m, rfl,
            by simp [told, hf, Except.map]⟩

theorem run_of_program {text : String} {v : Value} {m : Script.Machine}
    (hstop : s.stop.1.isOk = true) (hprogram : s.program = .ok text)
    (hrun : (Script.run text).run { s.prepare.machine with output := {} } = .ok v m) :
    ∃ outcome, s.run.1 = .ok outcome ∧ outcome.fault = none ∧ s.run.2.machine = m ∧
      s.run.2.controls = controlsOf m v := by
  obtain ⟨stopped, hstopped⟩ : ∃ stopped, s.stop.1 = .ok stopped := by
    cases h : s.stop.1 with
    | error f => rw [h] at hstop; cases hstop
    | ok stopped => exact ⟨stopped, rfl⟩
  obtain ⟨before, o, hprepare⟩ := prepare_eq s
  have hcompile : s.prepare.compile = (.ok text, { s.prepare with lastCode := text }) := by
    rw [hprepare, compile]
    dsimp only
    rw [← program, hprogram]
  rw [run, hstopped, hcompile]
  rw [hprepare] at hrun ⊢
  unfold execute perform
  dsimp only at hrun ⊢
  rw [hrun]
  exact ⟨_, rfl, rfl, rfl, rfl⟩

/-! ## Commands and events -/

/-- What is asked of a session about its runs. -/
inductive Command where
  | run
  | stop
  | setAutoRun (enabled : Value)
  | request
  | cancel
  /-- The end of the pause, if a timer is waited for. -/
  | fire
  | edit (graph : Graph)

/-- What came of a command: of a run, why it was not finished. -/
inductive Event where
  | ran (raised : Option Raised)
  | stopped
  | turnedOn (raised : Option Raised)
  | turnedOff
  | asked (granted : Bool)
  | cancelled
  /-- The end of a pause, which is due if a timer was waited for. -/
  | fired (due : Bool) (raised : Option Raised)
  | edited

/-- Why something was not finished. -/
def raised? {α : Type} : Except Raised α → Option Raised
  | .ok _ => none
  | .error raised => some raised

def obey (s : Session) : Command → Event × Session
  | .run => (.ran (raised? s.run.1), s.run.2)
  | .stop => (.stopped, s.stop.2)
  | .setAutoRun enabled =>
    (if enabled.isTrue then .turnedOn (raised? (s.setAutoRun enabled).1) else .turnedOff,
      (s.setAutoRun enabled).2)
  | .request => (.asked s.requestRun.1, s.requestRun.2)
  | .cancel => (.cancelled, s.cancel.2)
  | .fire => (.fired s.pending (raised? (s.fire false).1), (s.fire false).2)
  | .edit graph => (.edited, { s with graph })

def obeyAll (s : Session) : List Command → List Event × Session
  | [] => ([], s)
  | c :: cs =>
    let (e, s) := s.obey c
    let (es, s) := s.obeyAll cs
    (e :: es, s)

namespace Event

/-- Whether a timer is waited for from here on. -/
def arms : Event → Bool
  | .asked granted => granted
  | _ => false

/-- Whether no timer is waited for any more. -/
def disarms : Event → Bool
  | .turnedOff => true
  | .cancelled => true
  | .fired due _ => due
  | _ => false

/-- Whether a run was called for: by itself, by turning runs after edits on, or by a timer. -/
def calls : Event → Bool
  | .ran _ => true
  | .turnedOn _ => true
  | .fired due _ => due
  | _ => false

/-- Why a run that was called for was not finished. -/
def raised : Event → Option Raised
  | .ran raised => raised
  | .turnedOn raised => raised
  | .fired _ raised => raised
  | _ => none

/-- Whether a run was called for and not finished. -/
def failed (e : Event) : Bool :=
  e.raised.isSome

end Event

/-- A request was granted, and no timer went off and none was dropped since. -/
def Awaited (es : List Event) : Prop :=
  ∃ before e after, es = before ++ e :: after ∧ e.arms = true ∧ ∀ e ∈ after, e.disarms = false

/-! ## Timers -/

/-- The last timer is armed if it is waited for, and no other one is. A timer is waited for only
while edits ask for runs. -/
structure Waits (s : Session) : Prop where
  armed : s.pending = true → ∃ old, s.timers = old ++ [.armed] ∧ .armed ∉ old
  idle : s.pending = false → .armed ∉ s.timers
  enabled : s.pending = true → s.autoRun.isTrue = true

def opened (palette : Palette) (settings : Settings) (graph : Graph) : Session :=
  { palette, settings, graph }

structure SameTimers (s s' : Session) : Prop where
  timers : s'.timers = s.timers
  pending : s'.pending = s.pending
  autoRun : s'.autoRun = s.autoRun

theorem Waits.same (h : s.Waits) (same : SameTimers s s') : s'.Waits where
  armed hp := by
    rw [same.timers]
    exact h.armed (same.pending ▸ hp)
  idle hp := by
    rw [same.timers]
    exact h.idle (same.pending ▸ hp)
  enabled hp := by
    rw [same.autoRun]
    exact h.enabled (same.pending ▸ hp)

theorem sameTimers_stop (s : Session) : SameTimers s s.stop.2 := by
  obtain ⟨m, hm⟩ := stop_eq s
  rw [hm]
  exact ⟨rfl, rfl, rfl⟩

theorem sameTimers_run (s : Session) : SameTimers s s.run.2 := by
  obtain ⟨_, _, _, _, _, _, hr⟩ | ⟨_, _, _, _, hr⟩ :=
    run_cases s <;> rw [hr] <;> exact ⟨rfl, rfl, rfl⟩

theorem run_runs (s : Session) : s.run.2.runs + (raised? s.run.1).isSome.toNat = s.runs + 1 := by
  obtain ⟨_, _, _, _, _, _, hr⟩ | ⟨_, _, _, _, hr⟩ := run_cases s <;> rw [hr] <;> rfl

theorem raised?_map {α β : Type} (f : α → β) (r : Except Raised α) :
    raised? (r.map f) = raised? r := by
  cases r <;> rfl

theorem run_raised {raised : Raised} (h : raised? s.run.1 = some raised) : s.Reason raised := by
  obtain ⟨_, _, _, _, _, hreason, hr⟩ | ⟨_, _, _, _, hr⟩ := run_cases s
  · rw [hr] at h
    cases h
    exact hreason
  · rw [hr] at h
    cases h

theorem cancelTimer_eq (s : Session) :
    ∃ timers, s.cancelTimer = { s with timers, pending := false } := by
  unfold cancelTimer
  split
  · exact ⟨_, rfl⟩
  · rename_i hp
    refine ⟨s.timers, ?_⟩
    rw [Bool.not_eq_true] at hp
    rw [← hp]

theorem Waits.cancelTimer (h : s.Waits) : .armed ∉ s.cancelTimer.timers := by
  unfold Session.cancelTimer
  cases hp : s.pending with
  | false => exact h.idle hp
  | true =>
    obtain ⟨old, htimers, hold⟩ := h.armed hp
    have hlast : cancelLast (old ++ [.armed]) = old ++ [.cancelled] := by
      cases old with
      | nil => rfl
      | cons t old =>
        show ((t :: old) ++ [Timer.armed]).dropLast ++ [.cancelled] = _
        rw [dropLast_concat]
    simp [htimers, hlast, hold]

theorem Waits.due (h : s.Waits) :
    (s.timers.filter fun t => false || t == .armed).length = s.pending.toNat := by
  have hnone : ∀ timers : List Timer, .armed ∉ timers →
      timers.filter (fun t => false || t == .armed) = [] := by
    intro timers hne
    rw [filter_eq_nil_iff]
    rintro t ht htrue
    exact hne (beq_iff_eq.mp htrue ▸ ht)
  cases hp : s.pending with
  | false => rw [hnone _ (h.idle hp)]; rfl
  | true =>
    obtain ⟨old, htimers, hold⟩ := h.armed hp
    rw [htimers, filter_append, hnone old hold]
    rfl

theorem Waits.fire_eq (h : s.Waits) :
    s.fire false =
      if s.pending then
        (({ s with timers := [], pending := false } : Session).run.1.map fun _ => 1,
          ({ s with timers := [], pending := false } : Session).run.2)
      else (.ok 0, { s with timers := [] }) := by
  unfold fire
  rw [h.due]
  cases hp : s.pending with
  | false => rfl
  | true =>
    simp only [Bool.toNat_true, fireTimes, fireOne, h.enabled hp, if_true]
    generalize ({ s with timers := [], pending := false } : Session).run = r
    obtain ⟨(_ | _), _⟩ := r <;> rfl

/-! ## One command -/

def Command.graph (g : Graph) : Command → Graph
  | .edit graph => graph
  | _ => g

/-- What a command does to the timer that is waited for and to the number of runs, with the graph
that there is afterwards. -/
structure Obeyed (s : Session) (graph : Graph) (e : Event) (s' : Session) : Prop where
  graph : s'.graph = graph
  waits : s'.Waits
  pending : s'.pending = true ↔ e.arms = true ∨ s.pending = true ∧ e.disarms = false
  runs : s'.runs + e.failed.toNat = s.runs + e.calls.toNat
  settings : s'.settings = s.settings
  raised : ∀ raised, e.raised = some raised → s.Reason raised

theorem Waits.obey_run (h : s.Waits) : Obeyed s s.graph (.ran (raised? s.run.1)) s.run.2 where
  graph := by
    obtain ⟨_, _, _, _, _, _, hr⟩ | ⟨_, _, _, _, hr⟩ := run_cases s <;> rw [hr]
  waits := h.same (sameTimers_run s)
  pending := by simp [(sameTimers_run s).pending, Event.arms, Event.disarms]
  runs := run_runs s
  settings := by
    obtain ⟨_, _, _, _, _, _, hr⟩ | ⟨_, _, _, _, hr⟩ := run_cases s <;> rw [hr]
  raised _ := run_raised

theorem setAutoRun_on (s : Session) {enabled : Value} (h : enabled.isTrue = true) :
    s.setAutoRun enabled =
      (({ s with autoRun := enabled } : Session).run.1.map some,
        ({ s with autoRun := enabled } : Session).run.2) := by
  unfold setAutoRun
  simp [h]

theorem setAutoRun_off (s : Session) {enabled : Value} (h : enabled.isTrue = false) :
    s.setAutoRun enabled = (.ok none, ({ s with autoRun := enabled } : Session).cancelTimer) := by
  unfold setAutoRun
  simp [h]

theorem Waits.obey_setAutoRun (h : s.Waits) (enabled : Value) :
    Obeyed s s.graph (s.obey (.setAutoRun enabled)).1 (s.obey (.setAutoRun enabled)).2 := by
  unfold Session.obey
  cases hv : enabled.isTrue with
  | true =>
    have hon : ({ s with autoRun := enabled } : Session).Waits :=
      ⟨h.armed, h.idle, fun _ => hv⟩
    have hrun := hon.obey_run
    simp only [setAutoRun_on s hv, hv, if_true, raised?_map]
    exact ⟨hrun.graph, hrun.waits, hrun.pending, hrun.runs, hrun.settings, hrun.raised⟩
  | false =>
    -- what the timers were is all the same, as edits ask for no runs any more
    have hwaits : ({ s with autoRun := enabled, pending := false, timers :=
        s.cancelTimer.timers } : Session).Waits := ⟨by simp, fun _ => h.cancelTimer, by simp⟩
    have hoff : ({ s with autoRun := enabled } : Session).cancelTimer =
        { s with autoRun := enabled, pending := false, timers := s.cancelTimer.timers } := by
      unfold Session.cancelTimer
      cases hp : s.pending <;> rfl
    simp only [setAutoRun_off s hv, hv, Bool.false_eq_true, if_false, hoff]
    exact ⟨rfl, hwaits, by simp [Event.arms, Event.disarms], rfl, rfl, nofun⟩

theorem Waits.obey_request (h : s.Waits) :
    Obeyed s s.graph (.asked s.requestRun.1) s.requestRun.2 := by
  unfold requestRun
  obtain ⟨timers, htimers⟩ := cancelTimer_eq s
  have hne := h.cancelTimer
  rw [htimers] at hne ⊢
  split
  · rename_i hon
    exact ⟨rfl, ⟨fun _ => ⟨timers, rfl, hne⟩, by simp, fun _ => hon⟩, by simp [Event.arms], rfl,
      rfl, nofun⟩
  · exact ⟨rfl, h, by simp [Event.arms, Event.disarms], rfl, rfl, nofun⟩

theorem Waits.obey_cancel (h : s.Waits) : Obeyed s s.graph .cancelled s.cancel.2 := by
  unfold cancel
  obtain ⟨timers, htimers⟩ := cancelTimer_eq s
  have hne := h.cancelTimer
  obtain ⟨m, hm⟩ := stop_eq s.cancelTimer
  rw [hm]
  rw [htimers] at hne ⊢
  exact ⟨rfl, ⟨by simp, fun _ => hne, by simp⟩, by simp [Event.arms, Event.disarms], rfl, rfl,
    nofun⟩

theorem Waits.obey_fire (h : s.Waits) :
    Obeyed s s.graph (.fired s.pending (raised? (s.fire false).1)) (s.fire false).2 := by
  rw [h.fire_eq]
  cases hp : s.pending with
  | false =>
    exact ⟨rfl, ⟨by simp, by simp, by simp⟩, by simp [Event.arms, hp], rfl, rfl, nofun⟩
  | true =>
    have hidle : ({ s with timers := [], pending := false } : Session).Waits :=
      ⟨by simp, by simp, by simp⟩
    have hrun := hidle.obey_run
    have hpending := (sameTimers_run { s with timers := [], pending := false }).pending
    simp only [if_true, raised?_map]
    exact ⟨hrun.graph, hrun.waits, by rw [hpending]; simp [Event.arms, Event.disarms], hrun.runs,
      hrun.settings, hrun.raised⟩

/-- **What a command does.** -/
theorem Waits.obey (h : s.Waits) (c : Command) :
    Obeyed s (c.graph s.graph) (s.obey c).1 (s.obey c).2 := by
  cases c with
  | run => exact h.obey_run
  | stop =>
    obtain ⟨m, hm⟩ := stop_eq s
    show Obeyed s s.graph .stopped s.stop.2
    refine ⟨?_, h.same (sameTimers_stop s), ?_, ?_, ?_, nofun⟩ <;> rw [hm]
    · simp [Event.arms, Event.disarms]
    · rfl
  | setAutoRun enabled => exact h.obey_setAutoRun enabled
  | request => exact h.obey_request
  | cancel => exact h.obey_cancel
  | fire => exact h.obey_fire
  | edit graph =>
    exact ⟨rfl, h.same ⟨rfl, rfl, rfl⟩, by simp [Session.obey, Event.arms, Event.disarms], rfl, rfl,
      nofun⟩

/-! ## Sequences of commands -/

theorem awaited_cons {e : Event} {es : List Event} :
    Awaited (e :: es) ↔ Awaited es ∨ e.arms = true ∧ ∀ e ∈ es, e.disarms = false := by
  constructor
  · rintro ⟨before, e', after, heq, harms, hafter⟩
    cases before with
    | nil =>
      cases heq
      exact .inr ⟨harms, hafter⟩
    | cons _ before =>
      cases heq
      exact .inl ⟨before, e', after, rfl, harms, hafter⟩
  · rintro (⟨before, e', after, rfl, harms, hafter⟩ | ⟨harms, hafter⟩)
    · exact ⟨e :: before, e', after, rfl, harms, hafter⟩
    · exact ⟨[], e, es, rfl, harms, hafter⟩

/-- What a sequence of commands does to the timer that is waited for and to the number of runs. -/
theorem Waits.obeyAll (h : s.Waits) (cs : List Command) :
    (s.obeyAll cs).2.Waits ∧
    ((s.obeyAll cs).2.pending = true ↔ Awaited (s.obeyAll cs).1 ∨
      s.pending = true ∧ ∀ e ∈ (s.obeyAll cs).1, e.disarms = false) ∧
    (s.obeyAll cs).2.runs + (s.obeyAll cs).1.countP Event.failed =
      s.runs + (s.obeyAll cs).1.countP Event.calls := by
  induction cs generalizing s with
  | nil => exact ⟨h, by simp [Session.obeyAll, Awaited], rfl⟩
  | cons c cs ih =>
    have hone := h.obey c
    obtain ⟨hwaits, hpending, hruns⟩ := ih hone.waits
    show ((s.obey c).2.obeyAll cs).2.Waits ∧ (((s.obey c).2.obeyAll cs).2.pending = true ↔
      Awaited ((s.obey c).1 :: ((s.obey c).2.obeyAll cs).1) ∨ s.pending = true ∧
        ∀ e ∈ (s.obey c).1 :: ((s.obey c).2.obeyAll cs).1, e.disarms = false) ∧
      ((s.obey c).2.obeyAll cs).2.runs +
        ((s.obey c).1 :: ((s.obey c).2.obeyAll cs).1).countP Event.failed =
      s.runs + ((s.obey c).1 :: ((s.obey c).2.obeyAll cs).1).countP Event.calls
    refine ⟨hwaits, ?_, ?_⟩
    · rw [hpending, hone.pending, awaited_cons, forall_mem_cons]
      tauto
    · have hcount := hone.runs
      have htoNat : ∀ b : Bool, (if b = true then 1 else 0) = b.toNat := by decide
      simp only [countP_cons, htoNat]
      omega

def graphs (g : Graph) (cs : List Command) : List Graph :=
  g :: cs.filterMap fun
    | .edit graph => some graph
    | _ => none

/-- Why a run of a sequence was not finished: a graph of the sequence has no program, or a program
ended everything. -/
def ReasonIn (graphs : List Graph) (limit : String) : Raised → Prop
  | .obstacle o => ∃ g ∈ graphs, generate g limit = .error o
  | .ended f => f.isFinal = true

theorem Waits.reasons (h : s.Waits) {limit : String}
    (hlimit : s.settings.whileLimit.display = limit) (cs : List Command) :
    ∀ e ∈ (s.obeyAll cs).1, ∀ raised, e.raised = some raised →
      ReasonIn (graphs s.graph cs) limit raised := by
  induction cs generalizing s with
  | nil => exact fun _ he => nomatch he
  | cons c cs ih =>
    have hone := h.obey c
    intro e he raised hraised
    rcases mem_cons.mp (show e ∈ (s.obey c).1 :: ((s.obey c).2.obeyAll cs).1 from he) with rfl | he
    · have hreason := hone.raised raised hraised
      cases raised with
      | obstacle o => exact ⟨s.graph, by simp [graphs], by rw [← hlimit]; exact hreason⟩
      | ended f => exact hreason
    · have hrest := ih hone.waits (by rw [hone.settings, hlimit]) e he raised hraised
      rw [hone.graph] at hrest
      cases raised with
      | obstacle o =>
        obtain ⟨g, hg, hnone⟩ := hrest
        refine ⟨g, ?_, hnone⟩
        cases c <;> simp_all [graphs, Command.graph]
      | ended f => exact hrest

/-! ## Bursts of requests -/

theorem obeyAll_append (s : Session) (cs ds : List Command) :
    s.obeyAll (cs ++ ds) = ((s.obeyAll cs).1 ++ ((s.obeyAll cs).2.obeyAll ds).1,
      ((s.obeyAll cs).2.obeyAll ds).2) := by
  induction cs generalizing s with
  | nil => rfl
  | cons c cs ih =>
    show ((s.obey c).1 :: ((s.obey c).2.obeyAll (cs ++ ds)).1,
      ((s.obey c).2.obeyAll (cs ++ ds)).2) = _
    rw [ih (s.obey c).2]
    rfl

theorem requestRun_eq (s : Session) :
    ∃ timers, s.requestRun.2 = { s with timers, pending := s.pending || s.autoRun.isTrue } := by
  unfold requestRun
  obtain ⟨timers, htimers⟩ := cancelTimer_eq s
  rw [htimers]
  cases s.autoRun.isTrue with
  | true => exact ⟨timers ++ [.armed], by simp⟩
  | false => exact ⟨s.timers, by simp⟩

/-- Requests call for no run themselves, and a timer is waited for after them if edits ask for
runs. -/
theorem obeyAll_requests (s : Session) (n : Nat) :
    (s.obeyAll (List.replicate n .request)).1.countP Event.calls = 0 ∧
      ∃ timers pending, (s.obeyAll (List.replicate n .request)).2 = { s with timers, pending } ∧
        (n ≠ 0 → s.autoRun.isTrue = true → pending = true) := by
  induction n with
  | zero => exact ⟨rfl, s.timers, s.pending, rfl, fun h => absurd rfl h⟩
  | succ n ih =>
    obtain ⟨hcalls, timers, pending, hbefore, -⟩ := ih
    obtain ⟨timers', hlast⟩ := requestRun_eq (s.obeyAll (List.replicate n .request)).2
    rw [replicate_succ', obeyAll_append]
    refine ⟨?_, timers', pending || s.autoRun.isTrue, ?_, fun _ hon => by simp [hon]⟩
    · rw [countP_append, hcalls]
      rfl
    · show (s.obeyAll (List.replicate n .request)).2.requestRun.2 = _
      rw [hlast, hbefore]

/-- However often a run is asked for during a pause, its end calls for one run, and the end of the
next pause for none. -/
theorem Waits.burst (h : s.Waits) (hon : s.autoRun.isTrue = true) (n : Nat) :
    (s.obeyAll (List.replicate (n + 1) .request ++ [.fire, .fire])).1.countP Event.calls = 1 := by
  have hwaits := (h.obeyAll (List.replicate (n + 1) .request)).1
  obtain ⟨hcalls, timers, pending, hrequests, hpending⟩ := obeyAll_requests s (n + 1)
  obtain rfl := hpending (Nat.succ_ne_zero n) hon
  rw [obeyAll_append, countP_append, hcalls]
  rw [hrequests] at hwaits ⊢
  generalize ht : ({ s with timers, pending := true } : Session) = t at hwaits ⊢
  have hnow : t.pending = true := by rw [← ht]
  have hidle : (t.fire false).2.pending = false := by
    simpa [Event.arms, Event.disarms, hnow] using hwaits.obey_fire.pending
  simp [Session.obeyAll, Session.obey, countP_cons, Event.calls, hnow, hidle]

theorem Waits.dropped (h : s.Waits) {off : Command}
    (hoff : off ∈ [Command.cancel, .setAutoRun (.bool false)]) (n : Nat) :
    (s.obeyAll (List.replicate n .request ++ [off, .fire])).1.countP Event.calls = 0 := by
  have hwaits := (h.obeyAll (List.replicate n .request)).1
  obtain ⟨hcalls, timers, pending, hrequests, -⟩ := obeyAll_requests s n
  rw [obeyAll_append, countP_append, hcalls]
  rw [hrequests] at hwaits ⊢
  have hone := hwaits.obey off
  have hevent : (({ s with timers, pending } : Session).obey off).1 ∈
      [Event.cancelled, .turnedOff] := by
    simp only [mem_cons, not_mem_nil, or_false] at hoff
    rcases hoff with rfl | rfl
    · exact mem_cons_self
    · exact mem_cons_of_mem _ mem_cons_self
  simp only [Session.obeyAll]
  generalize ({ s with timers, pending } : Session).obey off = r at hone hevent
  obtain ⟨e, t⟩ := r
  simp only [mem_cons, not_mem_nil, or_false] at hevent
  have hidle : t.pending = false := by
    rcases hevent with rfl | rfl <;> simpa [Event.arms, Event.disarms] using hone.pending
  rcases hevent with rfl | rfl <;> simp [Session.obey, Event.calls, hidle]

/-! ## All commands -/

/-- **What came of a session's commands.** A timer is waited for if a request was granted and no
timer went off since, nor was one dropped; edits then ask for runs. There was one run for each time
that it was called for, by itself, by turning runs after edits on or by a timer that was waited for,
except where it was not finished, as the graph had no program or a program ended everything. However
often a run is asked for during a pause, one is called for at its end, and none if it was cancelled
or turned off before. -/
theorem autoRun_history (palette : Palette) (settings : Settings) (graph : Graph)
    (cs : List Command) :
    let es := ((opened palette settings graph).obeyAll cs).1
    let s := ((opened palette settings graph).obeyAll cs).2
    (s.pending = true ↔ Awaited es) ∧
    (s.pending = true → s.autoRun.isTrue = true) ∧
    s.runs + es.countP Event.failed = es.countP Event.calls ∧
    (∀ e ∈ es, ∀ raised, e.raised = some raised →
      ReasonIn (graphs graph cs) settings.whileLimit.display raised) ∧
    ∀ n, (s.autoRun.isTrue = true →
      (s.obeyAll (List.replicate (n + 1) .request ++ [.fire, .fire])).1.countP Event.calls = 1) ∧
      ∀ off ∈ [Command.cancel, .setAutoRun (.bool false)],
        (s.obeyAll (List.replicate n .request ++ [off, .fire])).1.countP Event.calls = 0 := by
  intro es s
  have hopened : (opened palette settings graph).Waits :=
    ⟨by simp [opened], by simp [opened], by simp [opened]⟩
  obtain ⟨hwaits, hpending, hruns⟩ := hopened.obeyAll cs
  have hnew : (opened palette settings graph).pending = false := rfl
  exact ⟨by simpa [hnew] using hpending, hwaits.enabled, hruns.trans (Nat.zero_add _),
    hopened.reasons rfl cs,
    fun n => ⟨fun hon => hwaits.burst hon n, fun off hoff => hwaits.dropped hoff n⟩⟩

/-- **A run of a graph without a program is called for and does not count.** -/
theorem runs_uncounted :
    ¬ ∀ (palette : Palette) (settings : Settings) (graph : Graph) (cs : List Command),
      ((opened palette settings graph).obeyAll cs).2.runs =
        ((opened palette settings graph).obeyAll cs).1.countP Event.calls := by
  intro hall
  have hraised : (raised? (opened Compile.barePalette { workspaceDir := "" }
      Compile.bareMove).run.1).isSome = true := by rfl
  have hrun := run_runs (opened Compile.barePalette { workspaceDir := "" } Compile.bareMove)
  rw [hraised] at hrun
  have hcalled := hall Compile.barePalette { workspaceDir := "" } Compile.bareMove [.run]
  simp only [obeyAll, obey, List.countP_cons, List.countP_nil, Event.calls, if_true] at hcalled
  rw [hcalled] at hrun
  cases hrun

end Sketchflow.Session
