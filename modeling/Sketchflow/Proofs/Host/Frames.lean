import Sketchflow.Proofs.Host.Ledger
import Sketchflow.Proofs.Number.Sign

/-!
# Frames in turn

What running frames comes to, whatever the callbacks do: frames are run to their end one after the
other, until there are enough of them, nothing is pending, or one is cut short.

* `Finished` are frames that were run to their end. **`runFrames_cases`**: the ways running frames
  can end.
* `Rounds` are frames that nobody disturbed.
* **`frames_in_turn`**: numbers of requests grow, no request is served twice, and a frame that is
  left alone invokes exactly what was pending when it began.
-/

namespace Sketchflow.Host

open Ledger List

section

variable {inv : Invoke Ledger} {interval : Value} {s t u : Ledger} {k : Nat} {f : Fault}

/-! ## How running frames ends -/

theorem invokeAll_error {arguments callbacks : List Value}
    (h : (invokeAll inv arguments callbacks).run s = .error f t) :
    ∃ served callback rest u, callbacks = served ++ callback :: rest ∧
      (invokeAll inv arguments served).run s = .ok () u ∧
      (inv callback arguments).run u = .error f t := by
  induction callbacks generalizing s with
  | nil => cases h
  | cons callback callbacks ih =>
    have hrun : (invokeAll inv arguments (callback :: callbacks)).run s =
        (inv callback arguments >>= fun _ => invokeAll inv arguments callbacks).run s := rfl
    rw [hrun, EStateM.run_bind] at h
    cases hfirst : (inv callback arguments).run s with
    | error f' t' =>
      rw [hfirst] at h
      cases h
      exact ⟨[], callback, callbacks, s, rfl, rfl, hfirst⟩
    | ok a u =>
      rw [hfirst] at h
      obtain ⟨served, next, rest, v, rfl, hserved, hnext⟩ := ih h
      refine ⟨callback :: served, next, rest, v, rfl, ?_, hnext⟩
      show (inv callback arguments >>= fun _ => invokeAll inv arguments served).run s = _
      rw [EStateM.run_bind, hfirst]
      exact hserved

/-- Frames that were run to their end. -/
inductive Finished (inv : Invoke Ledger) (interval : Value) : Ledger → Nat → Ledger → Prop where
  | none (s : Ledger) : Finished inv interval s 0 s
  | frame {s t u : Ledger} {time : Value} {k : Nat} (hpending : s.host.frames ≠ [])
      (htime : Value.multiply (.int s.host.framesRun) interval = .ok time)
      (hround : (invokeAll inv [time] s.pending).run s.take = .ok () t)
      (hrest : Finished inv interval { t with host := t.host.countFrame } k u) :
      Finished inv interval s (k + 1) u

/-- The time of the next frame cannot be told. It has taken what was pending. -/
def Untimed (interval : Value) (u : Ledger) (r : EStateM.Result Fault Ledger Nat) : Prop :=
  ∃ f, Value.multiply (.int u.host.framesRun) interval = .error f ∧ r = .error f u.take

/-- A frame was cut short by a callback that failed. -/
def CutShort (inv : Invoke Ledger) (interval : Value) (u : Ledger)
    (r : EStateM.Result Fault Ledger Nat) : Prop :=
  ∃ time f t, Value.multiply (.int u.host.framesRun) interval = .ok time ∧
    (invokeAll inv [time] u.pending).run u.take = .error f t ∧ r = .error f t

/-- **How running frames ends**: with as many as were wanted or nothing pending, or in a frame that
could not be run to its end. -/
theorem runFrames_cases (inv : Invoke Ledger) (interval : Value) (count ran : Nat) (s : Ledger) :
    let r := (runFrames place inv interval count ran).run s
    ∃ k u, Finished inv interval s k u ∧ k ≤ count ∧
      (r = .ok (ran + k) u ∧ (k = count ∨ u.host.frames = []) ∨
        k < count ∧ u.host.frames ≠ [] ∧ (Untimed interval u r ∨ CutShort inv interval u r)) := by
  induction count generalizing ran s with
  | zero => exact ⟨0, s, .none s, le_rfl, .inl ⟨rfl, .inl rfl⟩⟩
  | succ count ih =>
    intro r
    by_cases hpending : s.host.frames = []
    · exact ⟨0, s, .none s, Nat.zero_le _,
        .inl ⟨runFrames_nil interval count ran hpending, .inr hpending⟩⟩
    have hr : r = _ := runFrames_succ interval count ran hpending
    cases htime : Value.multiply (.int s.host.framesRun) interval with
    | error f =>
      rw [htime] at hr
      exact ⟨0, s, .none s, Nat.zero_le _, .inr ⟨count.succ_pos, hpending, .inl ⟨f, htime, hr⟩⟩⟩
    | ok time =>
      have hlift : ∀ g : Value → EStateM Fault Ledger Nat,
          (lift (.ok time) >>= g).run s.take = (g time).run s.take := fun _ => rfl
      rw [htime, hlift, EStateM.run_bind] at hr
      cases hround : (invokeAll inv [time] s.pending).run s.take with
      | error f t =>
        rw [hround] at hr
        exact ⟨0, s, .none s, Nat.zero_le _,
          .inr ⟨count.succ_pos, hpending, .inr ⟨time, f, t, htime, hround, hr⟩⟩⟩
      | ok _ t =>
        have hcount : (place.update countFrame).run t =
            .ok () { t with host := t.host.countFrame } :=
          congrArg (EStateM.Result.ok ()) (set_of_subset (List.Subset.refl t.host.frames))
        rw [hround] at hr
        simp only [EStateM.run_bind, hcount] at hr
        obtain ⟨k, u, hrest, hle, hend⟩ := ih (ran + 1) { t with host := t.host.countFrame }
        rw [← hr] at hend
        refine ⟨k + 1, u, .frame hpending htime hround hrest, Nat.succ_le_succ hle, ?_⟩
        rw [show ran + (k + 1) = ran + 1 + k by omega]
        exact hend.imp (.imp_right (.imp_left (congrArg _))) (.imp_left Nat.succ_lt_succ)

/-! ## Frames that nobody disturbs -/

/-- Frames that were left alone: each invokes what is pending when it begins, in the order of the
requests, and what is requested meanwhile is pending after it. -/
inductive Rounds : Ledger → Nat → Ledger → Prop where
  | none (s : Ledger) : Rounds s 0 s
  | frame {s t u : Ledger} {new : List Note} {k : Nat} (hpending : s.host.frames ≠ [])
      (hordered : s.host.Ordered) (hlog : t.log = s.log ++ new)
      (hcalls : frameCalls new = s.pending)
      (hmeanwhile : ∀ f ∈ t.host.frames, s.host.nextFrame ≤ f.1)
      (hkept : (t.host.frames ++ dropped new).Perm (requests new)) (hrest : Rounds t k u) :
      Rounds s (k + 1) u

theorem round_moves (hinv : Tracked inv) (hs : dropping s.log = false) (time : Value) :
    ∃ new, Moves s.pending s.take new (stateOf ((invokeAll inv [time] s.pending).run s.take)) ∧
      (Calm new → taken new = [] ∧
        ∀ t, (invokeAll inv [time] s.pending).run s.take = .ok () t →
          frameCalls new = s.pending) := by
  obtain ⟨new, hnew, hcalm⟩ := accounts_invokeAll hinv [time] s.pending s.take (dropping_take hs)
  rw [frameCalls_frame] at hnew hcalm
  exact ⟨new, hnew, fun hquiet => (hcalm trivial hquiet).imp_right fun h t => h () t⟩

/-- **Finished frames move**, and if nobody runs frames inside them, they were left alone: all that
they took was invoked, in that order. -/
theorem Finished.moves (hinv : Tracked inv) (h : Finished inv interval s k u)
    (hs : dropping s.log = false) :
    ∃ new, Moves [] s new u ∧
      (Calm new → (s.host.Ordered → Rounds s k u) ∧ (taken new).map (·.2) = frameCalls new) := by
  induction h with
  | none s => exact ⟨[], .refl s, fun _ => ⟨fun _ => .none s, rfl⟩⟩
  | @frame s t u time k hpending htime hround _ ih =>
    obtain ⟨new, hnew, hcalm⟩ := round_moves hinv hs time
    rw [hround] at hnew
    have hframe := hnew.of_take hs
    have hcount : Moves [] t [] { t with host := t.host.countFrame } := .host rfl rfl
    have hmoves := hframe.trans hcount
    obtain ⟨more, hmore, hrounds⟩ := ih (hmoves.settled hs)
    refine ⟨_, hmoves.trans hmore, fun hquiet => ?_⟩
    rw [append_nil] at hquiet
    obtain ⟨hquiet, hquiet'⟩ := calm_append.mp hquiet
    obtain ⟨htaken, hcalls⟩ := hcalm (calm_append.mp hquiet).2
    obtain ⟨hrounds, hall⟩ := hrounds hquiet'
    have hkept : (t.host.frames ++ (dropped new ++ taken new)).Perm (requests new) := by
      simpa [Ledger.take, place, takeFrames, stateOf] using hnew.frames
    have hpend : frameCalls (s.leaving s.host.takeFrames.2 ++ new) = s.pending := by
      rw [frameCalls_append, frameCalls_leaving, nil_append, hcalls t hround]
    refine ⟨fun hordered => .frame (t := { t with host := t.host.countFrame }) hpending hordered
      hframe.log hpend (fun f hf => ?_) ?_ (hrounds (hmoves.ordered hordered)), ?_⟩
    · exact (hnew.between f (hkept.subset (mem_append_left _ hf))).1
    · rw [htaken, append_nil] at hkept
      rw [dropped_append, requests_append, dropped_leaving, requests_leaving, hs]
      exact hkept
    · rw [append_nil, frameCalls_append _ more, hpend, ← hall, taken_append _ more, taken_append,
        taken_take hs, htaken, append_nil, map_append]
      rfl

theorem CutShort.notes (hinv : Tracked inv) {r : EStateM.Result Fault Ledger Nat}
    (h : CutShort inv interval u r) (hu : dropping u.log = false) :
    ∃ new, (stateOf r).log = u.log ++ new ∧ .failed ∈ new := by
  obtain ⟨time, f, t, -, hround, rfl⟩ := h
  obtain ⟨served, callback, rest, v, -, hserved, hfailed⟩ := invokeAll_error hround
  obtain ⟨before, hbefore, -⟩ := accounts_invokeAll hinv [time] served u.take (dropping_take hu)
  rw [hserved] at hbefore
  obtain ⟨after, hafter, hmem⟩ := hinv.notes callback [time] v f t hfailed
  refine ⟨u.leaving u.host.takeFrames.2 ++ before ++ after, ?_,
    mem_append_right _ hmem⟩
  have hlog : v.log = (u.log ++ u.leaving u.host.takeFrames.2) ++ before := hbefore.log
  show t.log = _
  rw [hafter, hlog]
  simp

end

/-! ## The time of a frame -/

theorem multiply_frameInterval {n : Nat} (h : n < Number.two 250) :
    ∃ time, Value.multiply (.int n) frameInterval = .ok time := by
  have hfinite : Num.floatOfInt n = .ok (Number.ofInt n) := by
    rw [Num.floatOfInt, Number.isInf_ofInt h]
    rfl
  refine ⟨.float (Number.ofInt n * (1000.0 / 60.0)), ?_⟩
  show (do Value.floatOperator .multiply (← Num.floatOfInt n) (1000.0 / 60.0) :
    Except Fault Value) = _
  rw [hfinite]
  rfl

/-- The arguments with which so many frames are run at this interval. -/
def RunsFrames (count : Int) (interval : Value) (arguments : List Value) : Prop :=
  arguments = [.int count, interval] ∨ interval = frameInterval ∧
    (arguments = [.int count] ∨ count = 1 ∧ arguments = [])

theorem call_runFrames {inv : Invoke Ledger} {count : Int} {interval : Value}
    {arguments : List Value} (h : RunsFrames count interval arguments) :
    Host.call place inv "run_frames" arguments =
      runFrames place inv interval count.toNat 0 >>= fun k => pure (.int k) := by
  obtain rfl | ⟨rfl, rfl | ⟨rfl, rfl⟩⟩ := h <;> rfl

/-- **Frames take their turn.** After any run, whatever callbacks do, the numbers of requests have
grown and every request was served at most once: the callbacks that frames invoked are, each as
often, among those requested. Frames that nobody disturbs invoke what was pending when they began;
how many there are is the answer, and only a lack of requests makes it less than what was asked,
unless the time of a frame cannot be told. -/
theorem frames_in_turn (behave : Behaviour) (depth : Nat) :
    (∀ tasks, let s := play behave depth tasks {}
      ((requests s.log).map (·.1)).Pairwise (· < ·) ∧
      (frameCalls s.log).Subperm ((requests s.log).map (·.2)) ∧
      s.host.Ordered ∧ dropping s.log = false) ∧
    ∀ (s : Ledger) (count : Int) (interval : Value) (arguments : List Value),
      s.host.Ordered → dropping s.log = false → RunsFrames count interval arguments →
      let r := (Host.call place (Ledger.invoke behave depth) "run_frames" arguments).run s
      ∀ new, (stateOf r).log = s.log ++ new → Calm new → .failed ∉ new →
        ∃ (k : Nat) (t : Ledger), Rounds s k t ∧ k ≤ count.toNat ∧
          (r = .ok (.int k) t ∧ (k = count.toNat ∨ t.host.frames = []) ∨
            (∃ f, Value.multiply (.int t.host.framesRun) interval = .error f ∧
              r = .error f t.take) ∧
              (interval = frameInterval → Number.two 250 ≤ t.host.framesRun)) := by
  constructor
  · intro tasks s
    obtain ⟨new, hnew⟩ := play_moves behave depth tasks {} rfl
    have hlog : s.log = new := hnew.log
    refine ⟨hlog ▸ hnew.numbers, ?_, hnew.ordered ⟨.nil, by simp⟩, hnew.settled rfl⟩
    rw [hlog]
    -- What was invoked was taken, and what was taken was requested.
    have htaken : (taken new).Subperm (requests new) :=
      (List.sublist_append_right _ _ |>.trans (List.sublist_append_right _ _)).subperm.trans
        hnew.frames.subperm
    have hcalls : (frameCalls new : Multiset Value) ≤ (taken new : Multiset Frame).map (·.2) := by
      simpa using hnew.calls
    exact Multiset.coe_le.mp (hcalls.trans (Multiset.map_le_map (Multiset.coe_le.mpr htaken)))
  · intro s count interval arguments hordered hs hruns r new hlog hcalm hfailed
    have hinv := invoke_tracked behave depth
    obtain ⟨k, u, hfinished, hle, hend⟩ :=
      runFrames_cases (Ledger.invoke behave depth) interval count.toNat 0 s
    obtain ⟨before, hbefore, hrounds⟩ := hfinished.moves hinv hs
    have hr : r = _ := congrArg (EStateM.run · s) (call_runFrames hruns)
    rw [EStateM.run_bind] at hr
    have hrest : ∀ more, (stateOf r).log = u.log ++ more → new = before ++ more := by
      intro more hmore
      have hsame : s.log ++ new = s.log ++ (before ++ more) := by
        rw [← hlog, hmore, hbefore.log, List.append_assoc]
      exact List.append_cancel_left hsame
    rcases hend with ⟨hrun, henough⟩ | ⟨-, -, hend⟩
    · rw [hrun, Nat.zero_add] at hr
      rw [hrest [] (by rw [hr, List.append_nil]; rfl), List.append_nil] at hcalm
      exact ⟨k, u, (hrounds hcalm).1 hordered, hle, .inl ⟨hr, henough⟩⟩
    · rcases hend with ⟨f, htime, hrun⟩ | hcut
      · rw [hrun] at hr
        rw [hrest _ (by rw [hr]; rfl)] at hcalm
        refine ⟨k, u, (hrounds (calm_append.mp hcalm).1).1 hordered, hle, .inr ⟨⟨f, htime, hr⟩, ?_⟩⟩
        rintro rfl
        refine Nat.le_of_not_lt fun hlt => ?_
        obtain ⟨time, hok⟩ := multiply_frameInterval hlt
        rw [htime] at hok
        cases hok
      · obtain ⟨more, hmore, hmem⟩ := hcut.notes hinv (hbefore.settled hs)
        obtain ⟨time, f, t, -, -, hrun⟩ := hcut
        rw [hrun] at hr hmore
        rw [hrest more (by rw [hr]; exact hmore)] at hfailed
        exact absurd (List.mem_append_right _ hmem) hfailed

/-- A callback that requests its next frame: of two frames both are run. -/
theorem frames_in_turn_resumed :
    let behave : Behaviour := fun _ callback _ => .only "request_frame" [callback]
    let s : Ledger := ⟨{ frames := [(1, .str "tick")], nextFrame := 2 }, []⟩
    ∃ t : Ledger, Rounds s 2 t ∧
      (Host.call place (Ledger.invoke behave 1) "run_frames" [.int 2, .int 16]).run s =
        .ok (.int 2) t := by
  intro behave s
  have hordered : s.host.Ordered := ⟨List.pairwise_singleton _ _, by simp [s]⟩
  let frame (id : Nat) (time : Value) : List Note :=
    [.left false [(id, .str "tick")], .invoked (.str "tick") [time],
      .asked "request_frame" [.str "tick"],
      .answered "request_frame" [.str "tick"] (.ok (.int (id + 1)))]
  obtain ⟨u, hrun⟩ : ∃ u, (Host.call place (Ledger.invoke behave 1) "run_frames"
      [.int 2, .int 16]).run s = .ok (.int 2) u := ⟨_, rfl⟩
  obtain ⟨k, t, hrounds, -, ⟨hok, -⟩ | ⟨⟨f, -, herror⟩, -⟩⟩ :=
    (frames_in_turn behave 1).2 s 2 (.int 16) [.int 2, .int 16] hordered rfl (.inl rfl)
      (frame 1 (.int 0) ++ frame 2 (.int 16)) rfl (by simp [Calm, frame]) (by simp [frame])
  · cases hrun.symm.trans hok
    exact ⟨u, hrounds, hrun⟩
  · cases hrun.symm.trans herror

end Sketchflow.Host
