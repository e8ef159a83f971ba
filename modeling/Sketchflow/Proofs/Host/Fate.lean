import Sketchflow.Proofs.Host.Frames

/-!
# What becomes of requests

A request stays pending until it is cancelled, the host is reset or a frame takes it. A frame takes
all that is pending when it begins, and from then on its callbacks are its own: nobody can cancel
them any more, and when one of them fails, those behind it are gone.

* **`cancelled_in_time`**: what is cancelled or forgotten before a frame takes it is never invoked.
  `cancelled_late` is a callback that its own frame invokes all the same.
* **`kept_or_taken`**: frames that fail lose nothing but what they have taken, and that from the
  callback that failed on. `lost_behind_failure` is such a loss.
-/

namespace Sketchflow.Host

open Ledger List

section

variable {behave : Behaviour} {depth : Nat} {s t : Ledger}

/-! ## Cancelling -/

theorem sublist_of_round {callbacks : List Value} {time : Value}
    (h : (invokeAll (Ledger.invoke behave depth) [time] callbacks).run s = .ok () t) :
    ∃ new, t.log = s.log ++ new ∧ callbacks.Sublist (frameCalls new) := by
  induction callbacks generalizing s with
  | nil =>
    cases h
    exact ⟨[], (append_nil _).symm, .slnil⟩
  | cons callback rest ih =>
    cases depth with
    | zero => cases h
    | succ depth =>
      obtain ⟨new, hnew, -⟩ := invoke_succ (invoke_tracked behave depth) callback [time] s
      have hrun : (invokeAll (Ledger.invoke behave (depth + 1)) [time] (callback :: rest)).run s =
          (Ledger.invoke behave (depth + 1) callback [time] >>= fun _ =>
            invokeAll (Ledger.invoke behave (depth + 1)) [time] rest).run s := rfl
      rw [hrun, EStateM.run_bind] at h
      cases hfirst : (Ledger.invoke behave (depth + 1) callback [time]).run s with
      | error f u =>
        rw [hfirst] at h
        cases h
      | ok a u =>
        rw [hfirst] at h hnew
        obtain ⟨more, hmore, hsub⟩ := ih h
        have hlog : u.log = s.log ++ [.invoked callback [time]] ++ new := hnew.log
        refine ⟨.invoked callback [time] :: (new ++ more), ?_, ?_⟩
        · rw [hmore, hlog]
          simp
        · show (callback :: rest).Sublist (callback :: frameCalls (new ++ more))
          rw [frameCalls_append]
          exact (hsub.trans (sublist_append_right _ _)).cons_cons callback

/-- Callbacks are invoked at most as often as they were requested and neither dropped nor left
pending. -/
theorem Moves.invoked_le {new : List Note} (h : Moves [] {} new s) :
    (frameCalls new + (dropped new).map (·.2) + s.pending : Multiset Value) ≤
      ((requests new).map (·.2) : List Value) := by
  have hperm : (s.host.frames ++ (dropped new ++ taken new)).Perm (requests new) := h.frames
  have hcalls : (frameCalls new : Multiset Value) ≤ (taken new).map (·.2) := by
    simpa using h.calls
  calc (frameCalls new + (dropped new).map (·.2) + s.pending : Multiset Value)
      ≤ (taken new).map (·.2) + (dropped new).map (·.2) + s.pending := by gcongr
    _ = ((s.host.frames ++ (dropped new ++ taken new)).map (·.2) : List Value) := by
      simp only [map_append, ← Multiset.coe_add, Ledger.pending]
      abel
    _ = ((requests new).map (·.2) : List Value) := Multiset.coe_eq_coe.mpr (hperm.map _)

theorem Moves.dropped_of_drops {before after : List Note} {n : Note} {reach : Nat → Bool}
    {f : Frame}
    (h : Moves [] {} (before ++ n :: after) s) (hn : n.drops? = some reach)
    (hf : f ∈ requests before) (hreach : reach f.1 = true) (hnot : f ∉ taken before) :
    f ∈ dropped (before ++ n :: after) ∧ f ∉ taken (before ++ n :: after) ∧ f ∉ s.host.frames := by
  obtain ⟨hpending, hafter⟩ := h.heeds before n after reach rfl hn f (.inr hf) hreach
  have hperm : (s.host.frames ++ (dropped _ ++ taken _)).Perm (requests _) := h.frames
  have htaken : f ∉ taken (before ++ n :: after) := by
    have hown : n.taken = [] := by
      cases n with
      | asked => rfl
      | _ => cases hn
    rw [taken_append, ← singleton_append, taken_append, mem_append, mem_append]
    simp [taken, hown] at hnot hafter ⊢
    exact ⟨hnot, hafter⟩
  have hmem : f ∈ requests (before ++ n :: after) := by
    rw [requests_append]
    exact mem_append_left _ hf
  have hsomewhere := hperm.mem_iff.mpr hmem
  simp only [mem_append, hpending, htaken, or_false, false_or] at hsomewhere
  exact ⟨hsomewhere, htaken, hpending⟩

/-- A callback that was requested for nothing else is invoked only if that request was taken. -/
theorem Moves.mem_taken {new : List Note} {f : Frame} (h : Moves [] {} new s)
    (honce : ∀ f' ∈ requests new, f'.2 = f.2 → f' = f) (hf : f.2 ∈ frameCalls new) :
    f ∈ taken new := by
  have hcalls : (frameCalls new : Multiset Value) ≤ (taken new).map (·.2) := by
    simpa using h.calls
  obtain ⟨f', hf', hsame⟩ := mem_map.mp (Multiset.mem_coe.mp (Multiset.mem_of_le hcalls hf))
  have hperm : (s.host.frames ++ (dropped new ++ taken new)).Perm (requests new) := h.frames
  have hmem := hperm.subset (mem_append_right _ (mem_append_right _ hf'))
  exact honce f' hmem hsame ▸ hf'

/-- **What is cancelled in time is never invoked.** In every run, a request that a client cancels or
forgets by a reset, from wherever, before a frame has taken it, is dropped and not taken. Callbacks
are invoked by frames at most as often as they were requested and not dropped; one that was
requested only once is not invoked at all. A frame invokes what it has taken, whatever is cancelled
meanwhile. -/
theorem cancelled_in_time (behave : Behaviour) (depth : Nat) :
    (∀ tasks, let s := play behave depth tasks {}
      (frameCalls s.log + (dropped s.log).map (·.2) + s.pending : Multiset Value) ≤
        ((requests s.log).map (·.2) : List Value) ∧
      ∀ before n after reach, s.log = before ++ n :: after → n.drops? = some reach →
        ∀ f ∈ requests before, reach f.1 = true → f ∉ taken before →
          f ∈ dropped s.log ∧ f ∉ taken s.log ∧ f ∉ s.host.frames ∧
          ((∀ f' ∈ requests s.log, f'.2 = f.2 → f' = f) → f.2 ∉ frameCalls s.log)) ∧
    ∀ (s t : Ledger) (time : Value),
      (invokeAll (Ledger.invoke behave depth) [time] s.pending).run s.take = .ok () t →
        ∃ new, t.log = s.take.log ++ new ∧ s.pending.Sublist (frameCalls new) := by
  refine ⟨?_, fun s t time h => sublist_of_round h⟩
  intro tasks s
  obtain ⟨new, hnew⟩ := play_moves behave depth tasks {} rfl
  obtain rfl : s.log = new := hnew.log
  refine ⟨hnew.invoked_le, fun before n after reach hsplit hn f hf hreach hnot => ?_⟩
  obtain ⟨hdropped, htaken, hpending⟩ := (hsplit ▸ hnew).dropped_of_drops hn hf hreach hnot
  rw [← hsplit] at hdropped htaken
  exact ⟨hdropped, htaken, hpending, fun honce hcall => htaken (hnew.mem_taken honce hcall)⟩

end

/-- Two requests of which the first is cancelled: the frame invokes the other one only. A frame that
was begun invokes both. -/
theorem cancelled_in_time_first :
    let begun : Ledger :=
      ⟨{ frames := [(1, .str "first"), (2, .str "second")], nextFrame := 3 }, []⟩
    (∃ s, s = play (fun _ _ _ => .finish .null) 1
        [.only "request_frame" [.str "first"], .only "request_frame" [.str "second"],
          .only "cancel_frame" [.int 1], .only "run_frames" [.int 1, .int 16]] {} ∧
      (1, .str "first") ∈ dropped s.log ∧ (1, .str "first") ∉ taken s.log ∧
      (1, .str "first") ∉ s.host.frames ∧ .str "first" ∉ frameCalls s.log) ∧
    ∃ t new, (invokeAll (Ledger.invoke (fun _ _ _ => .finish .null) 1) [.int 0] begun.pending).run
        begun.take = .ok () t ∧
      t.log = begun.take.log ++ new ∧ begun.pending.Sublist (frameCalls new) := by
  intro begun
  obtain ⟨hrun, hround⟩ := cancelled_in_time (fun _ _ _ => .finish .null) 1
  constructor
  · let before : List Note :=
      [.asked "request_frame" [.str "first"],
        .answered "request_frame" [.str "first"] (.ok (.int 1)),
        .asked "request_frame" [.str "second"],
        .answered "request_frame" [.str "second"] (.ok (.int 2))]
    let after : List Note :=
      [.left true [(1, .str "first")], .answered "cancel_frame" [.int 1] (.ok .null),
        .asked "run_frames" [.int 1, .int 16], .left false [(2, .str "second")],
        .invoked (.str "second") [.int 0], .answered "run_frames" [.int 1, .int 16] (.ok (.int 1))]
    have hcancel := (hrun [.only "request_frame" [.str "first"], .only "request_frame" [.str "second"],
      .only "cancel_frame" [.int 1], .only "run_frames" [.int 1, .int 16]]).2
    refine ⟨_, rfl, ?_⟩
    generalize hs : play (fun _ _ _ => .finish .null) 1
      [.only "request_frame" [.str "first"], .only "request_frame" [.str "second"],
        .only "cancel_frame" [.int 1], .only "run_frames" [.int 1, .int 16]] {} = s at *
    have hlog : s.log = before ++ .asked "cancel_frame" [.int 1] :: after := by
      rw [← hs]
      rfl
    have hrequests : requests s.log = [(1, .str "first"), (2, .str "second")] := by
      rw [hlog]
      rfl
    obtain ⟨hdropped, htaken, hpending, honce⟩ := hcancel before _ after _ hlog rfl
      (1, .str "first") (.head _) rfl List.not_mem_nil
    refine ⟨hdropped, htaken, hpending, honce fun f hf hname => ?_⟩
    rw [hrequests] at hf
    rcases List.mem_cons.mp hf with rfl | hf
    · rfl
    · rw [List.mem_singleton.mp hf] at hname
      exact absurd (Value.str.inj hname) (by decide)
  · obtain ⟨new, hnew⟩ := hround begun _ (.int 0) rfl
    exact ⟨_, new, rfl, hnew⟩

/-- A callback that is cancelled, or forgotten by a reset, while the frame that has taken it runs,
is invoked all the same. -/
theorem cancelled_late :
    let run (name : String) (arguments : List Value) : Ledger :=
      let behave : Behaviour := fun _ callback _ =>
        match callback with
        | .str "first" => .only name arguments
        | _ => .finish .null
      play behave 1 [.only "request_frame" [.str "first"], .only "request_frame" [.str "second"],
        .only "run_frames" [.int 1, .int 16]] {}
    let late (name : String) (arguments : List Value) : Prop :=
      ∃ before n after reach, (run name arguments).log = before ++ n :: after ∧
        n.drops? = some reach ∧ reach 2 = true ∧ (2, .str "second") ∈ requests before ∧
        .str "second" ∉ frameCalls before ∧ .str "second" ∈ frameCalls after
    late "cancel_frame" [.int 2] ∧ late "reset" [] := by
  intro run late
  let before : List Note :=
    [.asked "request_frame" [.str "first"], .answered "request_frame" [.str "first"] (.ok (.int 1)),
      .asked "request_frame" [.str "second"],
      .answered "request_frame" [.str "second"] (.ok (.int 2)),
      .asked "run_frames" [.int 1, .int 16], .left false [(1, .str "first"), (2, .str "second")],
      .invoked (.str "first") [.int 0]]
  let after (name : String) (arguments : List Value) : List Note :=
    [.answered name arguments (.ok .null), .invoked (.str "second") [.int 0],
      .answered "run_frames" [.int 1, .int 16] (.ok (.int 1))]
  have hbefore : .str "second" ∉ frameCalls before := by
    simp [before, frameCalls, Note.frameCall?]
  constructor
  · exact ⟨before, .asked "cancel_frame" [.int 2], after "cancel_frame" [.int 2], _, rfl, rfl, rfl,
      .tail _ (.head _), hbefore, .head _⟩
  · exact ⟨before, .asked "reset" [], after "reset" [], _, rfl, rfl, rfl,
      .tail _ (.head _), hbefore, .head _⟩

section

variable {behave : Behaviour} {depth : Nat} {s t : Ledger}

/-! ## Failing -/

/-- What a callback that fails has told: that it was invoked, unless calls stand too deep. -/
theorem calls_of_failure {callback : Value} {arguments : List Value} {f : Fault}
    (h : (Ledger.invoke behave depth callback arguments).run s = .error f t) :
    ∃ new, t.log = s.log ++ new ∧
      (Calm new → frameCalls new = frameCalls [.invoked callback arguments] ∨
        depth = 0 ∧ frameCalls new = []) := by
  cases depth with
  | zero =>
    cases h
    exact ⟨[.failed], rfl, fun _ => .inr ⟨rfl, rfl⟩⟩
  | succ depth =>
    obtain ⟨new, hnew, hquiet, -⟩ := invoke_succ (invoke_tracked behave depth) callback arguments s
    rw [h] at hnew
    refine ⟨[.invoked callback arguments] ++ new, ?_, fun hcalm => .inl ?_⟩
    · rw [← append_assoc]
      exact hnew.log
    · rw [frameCalls_append, (hquiet (calm_append.mp hcalm).2).2, append_nil]

/-- A frame that is cut short has served some of its callbacks, and loses those behind the one that
failed. -/
theorem cutShort_moves {time : Value} {f : Fault} (hs : dropping s.log = false)
    (h : (invokeAll (Ledger.invoke behave depth) [time] s.pending).run s.take = .error f t) :
    ∃ served callback rest u new, s.pending = served ++ callback :: rest ∧
      (invokeAll (Ledger.invoke behave depth) [time] served).run s.take = .ok () u ∧
      (Ledger.invoke behave depth callback [time]).run u = .error f t ∧ Moves [] s new t ∧
      (Calm new → (taken new).map (·.2) = frameCalls new ++ rest ∨
        depth = 0 ∧ (taken new).map (·.2) = frameCalls new ++ callback :: rest) := by
  have hinv := invoke_tracked behave depth
  obtain ⟨served, callback, rest, u, hpending, hserved, hfailed⟩ := invokeAll_error h
  obtain ⟨new, hnew, hcalm⟩ := round_moves hinv hs time
  obtain ⟨before, hbefore, hquiet⟩ :=
    accounts_invokeAll hinv [time] served s.take (dropping_take hs)
  obtain ⟨after, hafter, hlast⟩ := calls_of_failure hfailed
  rw [h] at hnew
  rw [hserved] at hbefore
  rw [frameCalls_frame] at hquiet
  obtain rfl : new = before ++ after := by
    have hsame : s.take.log ++ new = s.take.log ++ (before ++ after) := by
      rw [← hnew.log, ← append_assoc, ← hbefore.log]
      exact hafter
    exact append_cancel_left hsame
  refine ⟨served, callback, rest, u, _, hpending, hserved, hfailed, hnew.of_take hs, fun hall => ?_⟩
  obtain ⟨-, hall⟩ := calm_append.mp hall
  have htaken : (taken (s.leaving s.host.takeFrames.2 ++ (before ++ after))).map (·.2) =
      served ++ callback :: rest := by
    rw [taken_append, taken_take hs, (hcalm hall).1, append_nil]
    exact hpending
  obtain ⟨hall, hall'⟩ := calm_append.mp hall
  rw [htaken, frameCalls_append, frameCalls_leaving, nil_append, frameCalls_append,
    (hquiet trivial hall).2 () u hserved]
  refine (hlast hall').imp (fun hcall => ?_) fun ⟨hdepth, hcall⟩ => ⟨hdepth, ?_⟩
  · rw [hcall]
    simp [frameCalls, Note.frameCall?]
  · rw [hcall]
    simp

/-- **Frames lose only what they have taken.** Whatever callbacks do, and whether or not running
frames fails, what was pending before or requested meanwhile is pending afterwards, dropped, or
taken by a frame that had begun; and callbacks are invoked for nothing else. Where no frames are run
inside frames, all that was taken was invoked, but for the callbacks of the last frame behind the
one that failed. -/
theorem kept_or_taken (behave : Behaviour) (depth : Nat) (s : Ledger) (count : Int)
    (interval : Value) (arguments : List Value) (hs : dropping s.log = false)
    (hruns : RunsFrames count interval arguments) :
    let inv := Ledger.invoke behave depth
    let r := (Host.call place inv "run_frames" arguments).run s
    ∃ new, (stateOf r).log = s.log ++ new ∧
      ((stateOf r).host.frames ++ (dropped new ++ taken new)).Perm (s.host.frames ++ requests new) ∧
      (frameCalls new : Multiset Value) ≤ ((taken new).map (·.2) : List Value) ∧
      (∀ v t, r = .ok v t → Calm new → (taken new).map (·.2) = frameCalls new) ∧
      ∀ f t, r = .error f t → ∃ k u, Finished inv interval s k u ∧
        (Value.multiply (.int u.host.framesRun) interval = .error f ∧ t = u.take ∧
            (Calm new → (taken new).map (·.2) = frameCalls new ++ u.pending) ∨
          ∃ time served callback rest v, u.pending = served ++ callback :: rest ∧
            (invokeAll inv [time] served).run u.take = .ok () v ∧
            (inv callback [time]).run v = .error f t ∧
            (Calm new → (taken new).map (·.2) = frameCalls new ++ rest ∨
              depth = 0 ∧ (taken new).map (·.2) = frameCalls new ++ callback :: rest)) := by
  intro inv r
  have hinv : Tracked inv := invoke_tracked behave depth
  obtain ⟨k, u, hfinished, -, hend⟩ := runFrames_cases inv interval count.toNat 0 s
  obtain ⟨before, hbefore, hrounds⟩ := hfinished.moves hinv hs
  have hu := hbefore.settled hs
  have hr : r = _ := congrArg (EStateM.run · s) (call_runFrames hruns)
  rw [EStateM.run_bind] at hr
  have hmoves : ∀ {new t}, Moves [] s new t → (frameCalls new : Multiset Value) ≤
      ((taken new).map (·.2) : List Value) := fun h => by simpa using h.calls
  rcases hend with ⟨hrun, -⟩ | ⟨-, -, ⟨f, htime, hrun⟩ | ⟨time, f, t, -, hround, hrun⟩⟩
  · rw [hrun] at hr
    rw [hr]
    exact ⟨before, hbefore.log, hbefore.frames, hmoves hbefore,
      fun _ _ _ hcalm => (hrounds hcalm).2, fun _ _ h => by cases h⟩
  · rw [hrun] at hr
    rw [hr]
    have htake := hbefore.trans ((Moves.refl u.take).weaken u.pending |>.of_take hu)
    refine ⟨_, htake.log, htake.frames, hmoves htake, nofun, ?_⟩
    rintro _ _ ⟨⟩
    refine ⟨k, u, hfinished, .inl ⟨htime, rfl, fun hcalm => ?_⟩⟩
    rw [List.append_nil] at hcalm ⊢
    rw [taken_append, List.map_append, (hrounds (calm_append.mp hcalm).1).2, taken_take hu,
      frameCalls_append, frameCalls_leaving, List.append_nil]
    rfl
  · rw [hrun] at hr
    rw [hr]
    obtain ⟨served, callback, rest, v, new, hpending, hserved, hfailed, hnew, hlost⟩ :=
      cutShort_moves hu hround
    have hall := hbefore.trans hnew
    refine ⟨_, hall.log, hall.frames, hmoves hall, nofun, ?_⟩
    rintro _ _ ⟨⟩
    refine ⟨k, u, hfinished, .inr ⟨time, served, callback, rest, v, hpending, hserved, hfailed,
      fun hcalm => ?_⟩⟩
    obtain ⟨hcalm, hcalm'⟩ := calm_append.mp hcalm
    rw [taken_append, List.map_append, (hrounds hcalm).2, frameCalls_append, List.append_assoc,
      List.append_assoc]
    exact (hlost hcalm').imp (congrArg _) (.imp_right (congrArg _))

end

/-- The first of two callbacks fails: the second one is neither invoked nor dropped, nor is it
pending any more. -/
theorem lost_behind_failure :
    let s : Ledger := ⟨{ frames := [(1, .str "first"), (2, .str "second")], nextFrame := 3 }, []⟩
    let behave : Behaviour := fun _ callback _ =>
      match callback with
      | .str "first" => .fail .tooLarge
      | _ => .finish .null
    ∃ f t, (Host.call place (Ledger.invoke behave 1) "run_frames" [.int 1, .int 16]).run s =
        .error f t ∧
      (2, .str "second") ∈ s.host.frames ∧ .str "second" ∉ frameCalls t.log ∧
      (2, .str "second") ∉ dropped t.log ∧ (2, .str "second") ∉ t.host.frames := by
  intro s behave
  refine ⟨.tooLarge, _, rfl, .tail _ (.head _), ?_, List.not_mem_nil, List.not_mem_nil⟩
  show Value.str "second" ∉ [Value.str "first"]
  simp

/-- What is known of that loss in general. -/
theorem kept_or_taken_failure :
    let s : Ledger := ⟨{ frames := [(1, .str "first"), (2, .str "second")], nextFrame := 3 }, []⟩
    let behave : Behaviour := fun _ callback _ =>
      match callback with
      | .str "first" => .fail .tooLarge
      | _ => .finish .null
    let inv := Ledger.invoke behave 1
    let r := (Host.call place inv "run_frames" [.int 1, .int 16]).run s
    ∃ new, (stateOf r).log = s.log ++ new ∧
      ((stateOf r).host.frames ++ (dropped new ++ taken new)).Perm (s.host.frames ++ requests new) ∧
      ∃ f t, r = .error f t ∧ ∃ k u, Finished inv (.int 16) s k u ∧
        (Value.multiply (.int u.host.framesRun) (.int 16) = .error f ∧ t = u.take ∧
            (Calm new → (taken new).map (·.2) = frameCalls new ++ u.pending) ∨
          ∃ time served callback rest v, u.pending = served ++ callback :: rest ∧
            (invokeAll inv [time] served).run u.take = .ok () v ∧
            (inv callback [time]).run v = .error f t ∧
            (Calm new → (taken new).map (·.2) = frameCalls new ++ rest ∨
              1 = 0 ∧ (taken new).map (·.2) = frameCalls new ++ callback :: rest)) := by
  intro s behave inv r
  obtain ⟨new, hlog, hkept, -, -, hfailed⟩ :=
    kept_or_taken behave 1 s 1 (.int 16) [.int 1, .int 16] rfl (.inl rfl)
  exact ⟨new, hlog, hkept, _, _, rfl, hfailed _ _ rfl⟩

end Sketchflow.Host
