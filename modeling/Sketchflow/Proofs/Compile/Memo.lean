import Mathlib.Logic.Relation
import Sketchflow.Proofs.Compile.Nesting

/-!
# What is remembered does not show

A resolved input is remembered, and one that is being resolved reads as nothing when it is asked for
again. So what an input of a cycle reads as depends on where the cycle was entered, and is
remembered as it was read first. None of this reaches an input that does not depend on a cycle.

* `Plain` is the outcome of resolving an input by recursion alone: nothing is remembered, nothing is
  marked as being resolved, and nothing bounds the recursion.
* `attempt` is `resolve` with the context that a failed call leaves behind
  (`resolveWithin_eq_attemptWithin`), so that calls can be made after it.
* **`resolve_plain`**: after any calls, an input that depends on no cycle resolves to its plain
  outcome.
-/

namespace Sketchflow.Compile

open List Relation

variable {g : Graph} {n m : Node} {input : String}
variable {call : Caller} {c : Context} {resolving : List Key} {i : String}

/-! ## Dependency -/

/-- The inputs that are asked for to compute what feeds an input. -/
def Feed.asks : Feed → List (Node × String)
  | .source s m => s.asks.map (m, ·)
  | _ => []

/-- An input of a node is computed from another one. -/
def Asks (g : Graph) (k k' : Node × String) : Prop := k' ∈ (feed g k.1 k.2).asks

/-- No cycle can be reached from an input: nothing it depends on depends on itself. -/
def CycleFree (g : Graph) (n : Node) (input : String) : Prop :=
  ∀ k, ReflTransGen (Asks g) (n, input) k → ¬TransGen (Asks g) k k

theorem asks_of_feed {s : Source} (h : feed g n input = .source s m)
    (hi : i ∈ s.asks) : Asks g (n, input) (m, i) := by
  rw [Asks, h]
  exact mem_map_of_mem hi

theorem CycleFree.of_asks (h : CycleFree g n input)
    (ha : Asks g (n, input) (m, i)) : CycleFree g m i :=
  fun k hk => h k (.head ha hk)

theorem cycleFree_of_asks (h : ∀ k, Asks g (n, input) k → CycleFree g k.1 k.2) :
    CycleFree g n input := by
  intro k hk
  rcases hk.cases_head with rfl | ⟨k', hask, hk'⟩
  · -- A cycle at the input itself goes through one that it asks for.
    intro hcycle
    obtain ⟨k', hask, hback⟩ := TransGen.head'_iff.mp hcycle
    exact h k' hask k' .refl (TransGen.tail' hback hask)
  · exact h k' hask k hk'

/-! ## Plain recursion -/

/-- What an input is if nothing feeds it. -/
def ownOutcome (n : Node) (input : String) : Except Obstacle String :=
  match n.input? input with
  | none => .ok "None"
  | some p => (defaultText p.default p.dataType).mapError .badType

/-- The outcome of resolving an input by recursion alone. -/
inductive Plain (g : Graph) : Node → String → Except Obstacle String → Prop where
  | own {n : Node} {input : String} (h : feed g n input = .own) :
      Plain g n input (ownOutcome n input)
  | missing {n : Node} {input : String} {id : Int} (h : feed g n input = .missing id) :
      Plain g n input (.ok "None")
  | source {n : Node} {input : String} {s : Source} {m : Node} (h : feed g n input = .source s m)
      (answers : String → Except Obstacle String) (hasks : ∀ i ∈ s.asks, Plain g m i (answers i)) :
      Plain g n input ((s.asks.mapM answers).map (s.expression m))

theorem mapM_congr_of_mem {f f' : String → Except Obstacle String} {l : List String}
    (h : ∀ i ∈ l, f i = f' i) : l.mapM f = l.mapM f' := by
  induction l with
  | nil => rfl
  | cons i rest ih =>
    rw [mapM_cons, mapM_cons, h i mem_cons_self,
      ih fun j hj => h j (mem_cons_of_mem _ hj)]

theorem Plain.unique {r r' : Except Obstacle String} (h : Plain g n input r)
    (h' : Plain g n input r') : r = r' := by
  induction h generalizing r' with
  | own hf => cases h' with
    | own => rfl
    | missing hf' => cases hf.symm.trans hf'
    | source hf' => cases hf.symm.trans hf'
  | missing hf => cases h' with
    | own hf' => cases hf.symm.trans hf'
    | missing => rfl
    | source hf' => cases hf.symm.trans hf'
  | source hf answers hasks ih => cases h' with
    | own hf' => cases hf.symm.trans hf'
    | missing hf' => cases hf.symm.trans hf'
    | source hf' answers' hasks' =>
      cases hf.symm.trans hf'
      rw [mapM_congr_of_mem fun i hi => ih i hi (hasks' i hi)]

/-! ## Calls that may fail -/

/-- The context after an input could not be resolved. -/
def Context.abandon (c : Context) (key : Key) : Context :=
  { c with resolving := c.resolving.erase key }

/-- The outcome of a computation and the context it leaves, which is the one it found if it fails at
once. -/
def settle {α : Type} (x : Run α) (c : Context) : Except Obstacle α × Context :=
  match x c with
  | .ok (a, c') => (.ok a, c')
  | .error o => (.error o, c)

/-- A way to make calls for inputs: an outcome, and the context that is left also by a failure. -/
abbrev Caller := Node → String → Context → Except Obstacle String × Context

/-- Calls for inputs of a node, up to the first that fails. -/
def attemptEach (call : Caller) (n : Node) :
    List String → Context → Except Obstacle (List String) × Context
  | [], c => (.ok [], c)
  | input :: rest, c =>
    match call n input c with
    | (.error o, c) => (.error o, c)
    | (.ok text, c) =>
      match attemptEach call n rest c with
      | (.error o, c) => (.error o, c)
      | (.ok texts, c) => (.ok (text :: texts), c)

/-- A call for an input that is neither known nor being resolved. -/
def attemptFresh (g : Graph) (call : Caller) : Caller := fun n input c =>
  match feed g n input with
  | .own => settle (defaultOf n input) c
  | .missing id =>
    (.ok "None", c.note (s!"Error: source node {id} for " ++ inputName n input ++ " is missing"))
  | .source s m => ((attemptEach call m s.asks c).1.map (s.expression m),
      (attemptEach call m s.asks c).2)

def attemptWithin (g : Graph) : Nat → Caller
  | 0, _, _, c => (.ok "None", c)
  | bound + 1, n, input, c =>
    match c.memo.lookup (n.id, input) with
    | some text => (.ok text, c)
    | none =>
      if c.resolving.contains (n.id, input) then
        (.ok "None", c.note ("Error: data cycle through " ++ inputName n input))
      else
        match attemptFresh g (attemptWithin g bound) n input (c.enter (n.id, input)) with
        | (.ok text, c) => (.ok text, c.leave (n.id, input) text)
        | (.error o, c) => (.error o, c.abandon (n.id, input))

/-- A call for an input, as `resolve` makes it. -/
def attempt (g : Graph) : Caller := attemptWithin g (dependencyBound g)

def attemptAll (g : Graph) (calls : List (Node × String)) (c : Context) : Context :=
  calls.foldl (fun c k => (attempt g k.1 k.2 c).2) c

/-- What is left of an outcome if a failure leaves no context. -/
def answer {α : Type} (r : Except Obstacle α × Context) : Except Obstacle (α × Context) :=
  r.1.map (·, r.2)

theorem answer_settle {α : Type} (x : Run α) (c : Context) : answer (settle x c) = x c := by
  unfold answer settle
  cases x c <;> rfl

theorem resolveAll_eq_attemptEach {res : Node → String → Run String}
    (h : ∀ n input c, res n input c = answer (call n input c)) (n : Node) (inputs : List String) :
    ∀ c, resolveAll res n inputs c = answer (attemptEach call n inputs c) := by
  induction inputs with
  | nil => exact fun _ => rfl
  | cons input rest ih =>
    intro c
    show (res n input c).bind (fun r => (resolveAll res n rest r.2).bind fun q => _) = _
    rw [h, attemptEach]
    rcases call n input c with ⟨_ | text, c₁⟩
    · rfl
    · show (resolveAll res n rest c₁).bind _ = _
      rw [ih]
      simp only
      rcases attemptEach call n rest c₁ with ⟨_ | texts, c₂⟩ <;> rfl

theorem resolveWithin_eq_attemptWithin (bound : Nat) : ∀ n input c,
    resolveWithin g bound n input c = answer (attemptWithin g bound n input c) := by
  induction bound with
  | zero => exact fun _ _ _ => rfl
  | succ bound ih =>
    intro n input c
    rw [resolveWithin_succ, attemptWithin]
    cases c.memo.lookup (n.id, input) with
    | some text => rfl
    | none =>
      have hfresh : resolveFresh g (resolveWithin g bound) n input (c.enter (n.id, input)) =
          answer (attemptFresh g (attemptWithin g bound) n input (c.enter (n.id, input))) := by
        rw [resolveFresh_eq, attemptFresh]
        cases feed g n input with
        | own => exact (answer_settle _ _).symm
        | missing id => rfl
        | source s m =>
          show (resolveAll _ m s.asks _).bind _ = _
          rw [resolveAll_eq_attemptEach ih]
          simp only
          rcases attemptEach (attemptWithin g bound) m s.asks _ with ⟨_ | texts, c'⟩ <;> rfl
      simp only
      split
      · rfl
      · rw [hfresh]
        rcases attemptFresh g (attemptWithin g bound) n input _ with ⟨_ | text, c'⟩ <;> rfl

/-! ## What calls leave behind -/

/-- What is remembered of inputs that depend on no cycle is their plain outcome. -/
def Trusts (g : Graph) (c : Context) : Prop :=
  ∀ n ∈ g.nodes, ∀ input text, c.memo.lookup (n.id, input) = some text →
    CycleFree g n input → Plain g n input (.ok text)

/-- The inputs being resolved depend on an input. -/
def Await (g : Graph) (resolving : List Key) (k : Node × String) : Prop :=
  ∀ n ∈ g.nodes, ∀ input, (n.id, input) ∈ resolving → TransGen (Asks g) (n, input) k

theorem Await.ask (hd : (g.nodes.map Node.id).Nodup)
    (h : Await g resolving (n, input)) (hn : n ∈ g.nodes) {k : Node × String}
    (hask : Asks g (n, input) k) : Await g ((n.id, input) :: resolving) k := by
  intro n' hn' i hmem
  rcases mem_cons.mp hmem with he | hmem
  · obtain ⟨hid, rfl⟩ := Prod.mk.inj he
    rw [inj_on_of_nodup_map hd hn' hn hid]
    exact .single hask
  · exact (h n' hn' i hmem).tail hask

theorem Trusts.leave (hd : (g.nodes.map Node.id).Nodup) (h : Trusts g c)
    (hn : n ∈ g.nodes) {text : String} (ht : CycleFree g n input → Plain g n input (.ok text)) :
    Trusts g (c.leave (n.id, input) text) := by
  intro m hm i t hl
  rw [Context.leave, lookup_append] at hl
  cases hold : c.memo.lookup (m.id, i) with
  | some u =>
    rw [hold] at hl
    cases hl
    exact h m hm i _ hold
  | none =>
    rw [hold, Option.none_or, lookup_cons] at hl
    split at hl
    · rename_i he
      obtain ⟨hid, rfl⟩ : m.id = n.id ∧ i = input := by simpa using he
      cases hl
      rwa [inj_on_of_nodup_map hd hm hn hid]
    · cases hl

theorem room_ask {key : Key} {bound : Nat} (hm : m ∈ g.nodes)
    (hi : i ∈ askedNames) (hkey : key ∉ resolving)
    (hroom : room (insert key (askable g)) resolving < bound + 1) :
    room (insert (m.id, i) (askable g)) (key :: resolving) < bound := by
  have hless := room_cons_lt (Finset.mem_insert_self key (askable g)) hkey
  have hsub : room (askable g) (key :: resolving) ≤
      room (insert key (askable g)) (key :: resolving) :=
    Finset.card_le_card (Finset.sdiff_subset_sdiff (Finset.subset_insert _ _) subset_rfl)
  rw [Finset.insert_eq_self.mpr (mem_askable hm hi)]
  omega

theorem room_lt (key : Key) (resolving : List Key) :
    room (insert key (askable g)) resolving < dependencyBound g := by
  have hle := room_le (insert key (askable g)) resolving
  have hcard := Finset.card_insert_le key (askable g)
  have hids := Nat.mul_le_mul_right askedNames.length (card_ids_le g)
  rw [card_askable] at hcard
  unfold dependencyBound
  omega

/-- A call does its duty: it leaves contexts in order, and gives the plain outcome of an input that
depends on no cycle. -/
structure Dutiful (g : Graph) (n : Node) (input : String) (c : Context)
    (r : Except Obstacle String × Context) : Prop where
  trusts : Trusts g r.2
  resolving : r.2.resolving = c.resolving
  plain : CycleFree g n input → Plain g n input r.1

theorem attemptEach_dutiful {inputs : List String}
    (h : ∀ i ∈ inputs, ∀ c, Trusts g c → c.resolving = resolving → Dutiful g n i c (call n i c)) :
    ∀ c, Trusts g c → c.resolving = resolving →
      Trusts g (attemptEach call n inputs c).2 ∧
      (attemptEach call n inputs c).2.resolving = resolving ∧
      ∀ answers, (∀ i ∈ inputs, CycleFree g n i ∧ Plain g n i (answers i)) →
        (attemptEach call n inputs c).1 = inputs.mapM answers := by
  induction inputs with
  | nil => exact fun c hc hr => ⟨hc, hr, fun _ _ => rfl⟩
  | cons i rest ih =>
    intro c hc hr
    have hcall := h i mem_cons_self c hc hr
    have hanswer : ∀ answers : String → Except Obstacle String,
        (∀ j ∈ i :: rest, CycleFree g n j ∧ Plain g n j (answers j)) →
          (call n i c).1 = answers i := fun answers hanswers =>
      have hi := hanswers i mem_cons_self
      (hcall.plain hi.1).unique hi.2
    rw [attemptEach]
    rcases hx : call n i c with ⟨_ | text, c₁⟩ <;> rw [hx] at hcall hanswer
    · refine ⟨hcall.trusts, hcall.resolving.trans hr, fun answers hanswers => ?_⟩
      rw [mapM_cons, ← hanswer answers hanswers]
      rfl
    · obtain ⟨htrusts, hres, hrest⟩ := ih (fun j hj => h j (mem_cons_of_mem _ hj)) c₁
        hcall.trusts (hcall.resolving.trans hr)
      have hmap : ∀ answers : String → Except Obstacle String,
          (∀ j ∈ i :: rest, CycleFree g n j ∧ Plain g n j (answers j)) →
            (i :: rest).mapM answers =
              (attemptEach call n rest c₁).1.map (text :: ·) := by
        intro answers hanswers
        rw [mapM_cons, ← hanswer answers hanswers,
          hrest answers fun j hj => hanswers j (mem_cons_of_mem _ hj)]
        rfl
      simp only
      rcases hy : attemptEach call n rest c₁ with ⟨_ | texts, c₂⟩ <;> rw [hy] at htrusts hres hmap
      all_goals exact ⟨htrusts, hres, fun answers hanswers => (hmap answers hanswers).symm⟩

theorem settle_defaultOf (n : Node) (input : String) (c : Context) :
    (settle (defaultOf n input) c).1 = ownOutcome n input ∧
      (settle (defaultOf n input) c).2.memo = c.memo ∧
      (settle (defaultOf n input) c).2.resolving = c.resolving := by
  unfold settle defaultOf ownOutcome
  cases n.input? input with
  | none => exact ⟨rfl, rfl, rfl⟩
  | some p =>
    simp only
    cases defaultText p.default p.dataType <;> exact ⟨rfl, rfl, rfl⟩

theorem attemptFresh_dutiful (hc : Trusts g c)
    (h : ∀ s m, feed g n input = .source s m → ∀ i ∈ s.asks, ∀ c', Trusts g c' →
      c'.resolving = c.resolving → Dutiful g m i c' (call m i c')) :
    Dutiful g n input c (attemptFresh g call n input c) := by
  unfold attemptFresh
  cases hf : feed g n input with
  | own =>
    obtain ⟨houtcome, hmemo, hres⟩ := settle_defaultOf n input c
    refine ⟨fun m hm i t hl => hc m hm i t (hmemo ▸ hl), hres, fun _ => ?_⟩
    rw [houtcome]
    exact .own hf
  | missing id => exact ⟨hc, rfl, fun _ => .missing hf⟩
  | source s m =>
    have hduty := h s m hf
    obtain ⟨htrusts, hres, heach⟩ := attemptEach_dutiful hduty c hc rfl
    refine ⟨htrusts, hres, fun hfree => ?_⟩
    have hfrees : ∀ i ∈ s.asks, CycleFree g m i := fun i hi => hfree.of_asks (asks_of_feed hf hi)
    -- Also an input that was not asked for, because one before it failed, has a plain outcome.
    have hplain : ∀ i ∈ s.asks, Plain g m i (call m i c).1 := fun i hi =>
      (hduty i hi c hc rfl).plain (hfrees i hi)
    show Plain g n input ((attemptEach call m s.asks c).1.map (s.expression m))
    rw [heach (fun i => (call m i c).1) fun i hi => ⟨hfrees i hi, hplain i hi⟩]
    exact .source hf _ hplain

/-- **A call does its duty** if the bound is above the room that is left. -/
theorem attemptWithin_dutiful (hd : (g.nodes.map Node.id).Nodup) (bound : Nat) :
    ∀ n ∈ g.nodes, ∀ input c, Trusts g c → Await g c.resolving (n, input) →
      room (insert (n.id, input) (askable g)) c.resolving < bound →
        Dutiful g n input c (attemptWithin g bound n input c) := by
  induction bound with
  | zero => exact fun _ _ _ _ _ _ h => absurd h (Nat.not_lt_zero _)
  | succ bound ih =>
    intro n hn input c hc hawait hroom
    rw [attemptWithin]
    cases hm : c.memo.lookup (n.id, input) with
    | some text => exact ⟨hc, rfl, hc n hn input text hm⟩
    | none =>
      simp only
      split
      · rename_i hin
        have hmem : (n.id, input) ∈ c.resolving := by simpa using hin
        exact ⟨hc, rfl, fun hfree => (hfree _ .refl (hawait n hn input hmem)).elim⟩
      · rename_i hnew
        have hkey : (n.id, input) ∉ c.resolving := by simpa using hnew
        have hduty : Dutiful g n input (c.enter (n.id, input))
            (attemptFresh g (attemptWithin g bound) n input (c.enter (n.id, input))) := by
          refine attemptFresh_dutiful hc fun s m hf i hi c' hc' hres => ?_
          have hm := (mem_of_feed hf).1
          refine ih m hm i c' hc' (hres ▸ hawait.ask hd hn (asks_of_feed hf hi)) ?_
          rw [hres]
          exact room_ask hm (s.asks_subset hi) hkey hroom
        rcases hx : attemptFresh g (attemptWithin g bound) n input (c.enter (n.id, input)) with
          ⟨o | text, c'⟩ <;> rw [hx] at hduty
        all_goals have hres : c'.resolving = (n.id, input) :: c.resolving := hduty.resolving
        · exact ⟨hduty.trusts, by simp [Context.abandon, hres], hduty.plain⟩
        · exact ⟨hduty.trusts.leave hd hn hduty.plain, by simp [Context.leave, hres], hduty.plain⟩

theorem attempt_dutiful (hd : (g.nodes.map Node.id).Nodup) (hn : n ∈ g.nodes) (input : String)
    (hc : Trusts g c) (hr : c.resolving = []) : Dutiful g n input c (attempt g n input c) := by
  exact attemptWithin_dutiful hd _ n hn input c hc (by simp [hr, Await]) (room_lt _ _)

theorem attemptAll_trusts (hd : (g.nodes.map Node.id).Nodup) (calls : List (Node × String)) :
    (∀ k ∈ calls, k.1 ∈ g.nodes) → ∀ c, Trusts g c → c.resolving = [] →
      Trusts g (attemptAll g calls c) ∧ (attemptAll g calls c).resolving = [] := by
  induction calls with
  | nil => exact fun _ c hc hr => ⟨hc, hr⟩
  | cons k rest ih =>
    intro hcalls c hc hr
    have hduty := attempt_dutiful hd (hcalls k mem_cons_self) k.2 hc hr
    exact ih (fun j hj => hcalls j (mem_cons_of_mem _ hj)) _ hduty.trusts
      (hduty.resolving.trans hr)

/-- **What is remembered does not show.** In a graph whose nodes are numbered apart, an input that
depends on no cycle has one plain outcome, and it resolves to that after any calls for inputs, also
after calls for inputs of cycles and after calls that failed. -/
theorem resolve_plain (hd : (g.nodes.map Node.id).Nodup) (hn : n ∈ g.nodes)
    (hfree : CycleFree g n input) :
    ∃ r, (∀ r', Plain g n input r' ↔ r' = r) ∧
      ∀ calls : List (Node × String), (∀ k ∈ calls, k.1 ∈ g.nodes) →
        (resolve g n input (attemptAll g calls {})).map Prod.fst = r := by
  have hempty : Trusts g {} := fun _ _ _ _ h => nomatch h
  have hplain : ∀ calls : List (Node × String), (∀ k ∈ calls, k.1 ∈ g.nodes) →
      Plain g n input (attempt g n input (attemptAll g calls {})).1 := by
    intro calls hcalls
    obtain ⟨hc, hr⟩ := attemptAll_trusts hd calls hcalls {} hempty rfl
    exact (attempt_dutiful hd hn input hc hr).plain hfree
  have hfirst := hplain [] (by simp)
  refine ⟨_, fun r' => ⟨fun h => h.unique hfirst, fun h => h ▸ hfirst⟩, fun calls hcalls => ?_⟩
  rw [← (hplain calls hcalls).unique hfirst, resolve, resolveWithin_eq_attemptWithin,
    attempt, answer]
  cases (attemptWithin g _ n input (attemptAll g calls {})).1 <;> rfl

/-- Two sums that ask for each other do not spoil the other operand of the second. -/
theorem resolve_plain_beside_cycle :
    let sum (id : Int) : Node := { id, type := "add", inputs :=
      [{ id := "a", default := .int 3 }, { id := "b", default := .int 4 }] }
    let wire (source target : Int) (input : String) : Wire :=
      { id := .null, fromNode := source, fromPort := "result", toNode := target, toPort := input }
    let g : Graph :=
      { nodes := [sum 1, sum 2, sum 3], wires := [wire 2 1 "a", wire 1 2 "a", wire 3 2 "b"] }
    ¬CycleFree g (sum 1) "a" ∧ CycleFree g (sum 2) "b" ∧ Plain g (sum 2) "b" (.ok "((3) + (4))") ∧
      (resolve g (sum 2) "b" (attemptAll g [(sum 1, "a"), (sum 2, "a")] {})).map Prod.fst =
        .ok "((3) + (4))" := by
  intro sum wire g
  have hgo : feed g (sum 1) "a" = .source (.operator "+") (sum 2) := rfl
  have hback : feed g (sum 2) "a" = .source (.operator "+") (sum 1) := rfl
  have hside : feed g (sum 2) "b" = .source (.operator "+") (sum 3) := rfl
  have hleaf : ∀ k ∈ (feed g (sum 2) "b").asks, feed g k.1 k.2 = .own := by
    rw [hside]
    simp only [Feed.asks, Source.asks, List.map_cons, List.map_nil, List.forall_mem_cons]
    exact ⟨rfl, rfl, by simp⟩
  have hcycle : ¬CycleFree g (sum 1) "a" := fun h =>
    h _ .refl (.tail (.single (asks_of_feed hgo (by decide))) (asks_of_feed hback (by decide)))
  have hfree : CycleFree g (sum 2) "b" := cycleFree_of_asks fun k hk =>
    cycleFree_of_asks fun k' hk' => absurd hk' (by simp [Asks, hleaf k hk, Feed.asks])
  obtain ⟨r, hplain, hcalls⟩ := resolve_plain (by decide) (by simp [g]) hfree
  have hr : r = .ok "((3) + (4))" := (hcalls [] (by simp)).symm.trans rfl
  subst hr
  exact ⟨hcycle, hfree, (hplain _).mpr rfl, hcalls _ (by simp [g])⟩

end Sketchflow.Compile
