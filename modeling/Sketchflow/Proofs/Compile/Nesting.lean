import Mathlib.Data.Finset.Prod
import Mathlib.Order.Bounds.Defs
import Sketchflow.Proofs.Compile.Resolve

/-!
# How deep a compilation nests

Writing a node's steps writes the nodes that follow it and the paths inside its steps, and resolving
an input resolves the inputs of the node that feeds it. Neither goes on for ever, whatever the wires
of a graph are: a node that is being written is not entered again, and an input that is being
resolved is not resolved again.

* `resolveCall` and `emitCall` are one call of `resolve` and of `emit`, with the calls inside it
  left open. Nothing bounds them.
* `Query.Makes` and `Visit.Makes` say that one call makes another: what the other answers matters
  to it.
* **`nesting_bounded`**: `resolve` and `emit` answer as if they were not bounded, each call leaves
  the nodes being written and the inputs being resolved as it found them, a call inside another
  finds one more, and calls stand inside each other at most as often as there are nodes, or inputs
  that nodes ask for. This holds of every graph, also of one that no edits lead to.
-/

namespace Sketchflow.Compile

open List

variable {g : Graph} {limit : String}

/-! ## Computations that stay amid the same work -/

/-- The nodes being written and the inputs being resolved. -/
def Amid (writing : List Int) (resolving : List Key) (c : Context) : Prop :=
  c.emitting = writing ∧ c.resolving = resolving

/-- Two computations do the same amid some work, and return amid the same work. -/
def Alike {α : Type} (writing : List Int) (resolving : List Key) (x y : Run α) : Prop :=
  ∀ c, Amid writing resolving c → x c = y c ∧ ∀ a c', x c = .ok (a, c') → Amid writing resolving c'

section Alike

variable {α β : Type} {writing : List Int} {resolving : List Key}

theorem Alike.pure (a : α) : Alike writing resolving (pure a) (pure a) := by
  refine fun c hc => ⟨rfl, fun a' c' h => ?_⟩
  cases h
  exact hc

theorem Alike.throw (o : Obstacle) : Alike writing resolving (throw o : Run α) (throw o) :=
  fun _ _ => ⟨rfl, fun _ _ h => nomatch h⟩

theorem Alike.modify {f : Context → Context}
    (h : ∀ c, (f c).emitting = c.emitting ∧ (f c).resolving = c.resolving) :
    Alike writing resolving (modify f) (modify f) := by
  refine fun c hc => ⟨rfl, fun a c' he => ?_⟩
  cases he
  exact ⟨(h c).1.trans hc.1, (h c).2.trans hc.2⟩

theorem Alike.get : Alike writing resolving get get := by
  refine fun c hc => ⟨rfl, fun a c' he => ?_⟩
  cases he
  exact hc

theorem Alike.of_eq {x y : Run α} (h : ∀ c, Amid writing resolving c → x c = y c)
    (hy : Alike writing resolving y y) : Alike writing resolving x y :=
  fun c hc => ⟨h c hc, fun a c' hx => (hy c hc).2 a c' ((h c hc).symm.trans hx)⟩

theorem Alike.bind {x y : Run α} {f f' : α → Run β} (h : Alike writing resolving x y)
    (hf : ∀ a, Alike writing resolving (f a) (f' a)) :
    Alike writing resolving (x >>= f) (y >>= f') := by
  intro c hc
  obtain ⟨he, hkeep⟩ := h c hc
  show (x c).bind (fun r => f r.1 r.2) = (y c).bind (fun r => f' r.1 r.2) ∧
    ∀ a c', (x c).bind (fun r => f r.1 r.2) = .ok (a, c') → Amid writing resolving c'
  rw [← he]
  cases hx : x c with
  | error o => exact ⟨rfl, fun _ _ h => nomatch h⟩
  | ok r => exact hf r.1 r.2 (hkeep r.1 r.2 hx)

theorem noteGap_alike (note : String) : Alike writing resolving (noteGap note) (noteGap note) :=
  .modify fun _ => ⟨rfl, rfl⟩

theorem defaultOf_alike (n : Node) (input : String) :
    Alike writing resolving (defaultOf n input) (defaultOf n input) := by
  unfold defaultOf
  split
  · exact .bind (noteGap_alike _) fun _ => .pure _
  · split
    · exact .pure _
    · exact .throw _

theorem need_alike (r : Inputs) (name : String) :
    Alike writing resolving (need r name) (need r name) := by
  unfold need
  split
  · exact .pure _
  · exact .throw _

theorem flushNotes_alike (out : Listing) :
    Alike writing resolving (flushNotes out) (flushNotes out) := by
  refine .bind (fun c hc => ⟨rfl, fun notes c' h => ?_⟩) fun _ => .pure _
  cases h
  exact hc

theorem resolveAll_alike {res res' : Node → String → Run String} {n : Node} (inputs : List String)
    (h : ∀ input ∈ inputs, Alike writing resolving (res n input) (res' n input)) :
    Alike writing resolving (resolveAll res n inputs) (resolveAll res' n inputs) := by
  induction inputs with
  | nil => exact .pure _
  | cons input rest ih =>
    refine .bind (h input mem_cons_self) fun _ => ?_
    exact .bind (ih fun i hi => h i (mem_cons_of_mem _ hi)) fun _ => .pure _

end Alike

/-! ## Room to nest

Keys are pushed on a stack that never holds one twice, so there is room for as many as are not on it
yet. -/

section Room

variable {κ α : Type}

theorem forall_of_isChain {makes : α → α → Prop} {P : α → Prop} (h : ∀ u v, makes u v → P v) {u : α}
    {l : List α} (hl : (u :: l).IsChain makes) : ∀ v ∈ l, P v := by
  induction l generalizing u with
  | nil => simp
  | cons w l ih =>
    obtain ⟨huw, hrest⟩ := isChain_cons_cons.mp hl
    exact forall_mem_cons.mpr ⟨h u w huw, ih hrest⟩

/-- Calls inside each other, each of which pushes its own key, have different keys. -/
theorem nodup_of_isChain {key : α → κ} {stack : α → List κ} {makes : α → α → Prop}
    (hpush : ∀ u v, makes u v → stack v = key u :: stack u) {l : List α} (hl : l.IsChain makes)
    (hnew : ∀ u ∈ l, key u ∉ stack u) : (l.map key).Nodup := by
  -- Along the chain the stack only grows, so a key that was pushed is on the stack of what follows.
  have hgrow : ∀ (l : List α) (u : α), (u :: l).IsChain makes →
      ∀ v ∈ l, key u :: stack u ⊆ stack v := by
    intro l
    induction l with
    | nil => simp
    | cons w l ih =>
      intro u h v hv
      obtain ⟨huw, hrest⟩ := isChain_cons_cons.mp h
      have hw : stack w = key u :: stack u := hpush u w huw
      rcases mem_cons.mp hv with rfl | hv
      · exact hw ▸ List.Subset.refl _
      · exact List.Subset.trans (hw ▸ subset_cons_self _ _) (ih w hrest v hv)
  induction l with
  | nil => exact nodup_nil
  | cons u l ih =>
    refine nodup_cons.mpr
      ⟨fun hu => ?_, ih hl.tail fun v hv => hnew v (mem_cons_of_mem _ hv)⟩
    obtain ⟨v, hv, he⟩ := mem_map.mp hu
    exact hnew v (mem_cons_of_mem _ hv) (he ▸ hgrow l u hl v hv mem_cons_self)

variable [DecidableEq κ]

/-- How many keys are not on a stack. -/
def room (all : Finset κ) (stack : List κ) : Nat := (all \ stack.toFinset).card

theorem room_le (all : Finset κ) (stack : List κ) : room all stack ≤ all.card :=
  Finset.card_le_card Finset.sdiff_subset

theorem room_cons_lt {all : Finset κ} {stack : List κ} {k : κ} (hk : k ∈ all) (hnew : k ∉ stack) :
    room all (k :: stack) < room all stack := by
  apply Finset.card_lt_card
  refine Finset.ssubset_iff_of_subset (fun j hj => ?_) |>.mpr ⟨k, by simp [hk, hnew], by simp⟩
  simp only [toFinset_cons, Finset.mem_sdiff, Finset.mem_insert, mem_toFinset,
    not_or] at hj ⊢
  exact ⟨hj.1, hj.2.2⟩

theorem length_le_of_nodup_map {key : α → κ} {all : Finset κ} {l : List α}
    (hd : (l.map key).Nodup) (hall : ∀ u ∈ l, key u ∈ all) : l.length ≤ all.card := by
  rw [← length_map key, ← toFinset_card_of_nodup hd]
  refine Finset.card_le_card fun k hk => ?_
  obtain ⟨u, hu, rfl⟩ := mem_map.mp (mem_toFinset.mp hk)
  exact hall u hu

end Room

def ids (g : Graph) : Finset Int := (g.nodes.map Node.id).toFinset

theorem id_mem_ids {n : Node} (hn : n ∈ g.nodes) : n.id ∈ ids g :=
  mem_toFinset.mpr (mem_map_of_mem hn)

theorem card_ids_le (g : Graph) : (ids g).card ≤ g.nodes.length :=
  (toFinset_card_le _).trans_eq (length_map _)

/-- The inputs that nodes which compute can ask for. -/
def askable (g : Graph) : Finset Key := ids g ×ˢ askedNames.toFinset

theorem card_askable (g : Graph) : (askable g).card = (ids g).card * askedNames.length := by
  rw [askable, Finset.card_product]
  rfl

theorem Source.asks_subset (s : Source) : s.asks ⊆ askedNames := by
  cases s with
  | operator sign => exact (by decide : ["a", "b"] ⊆ askedNames)
  | _ => decide

theorem mem_askable {n : Node} (hn : n ∈ g.nodes) {input : String} (hi : input ∈ askedNames) :
    (n.id, input) ∈ askable g :=
  Finset.mem_product.mpr ⟨id_mem_ids hn, mem_toFinset.mpr hi⟩

/-! ## Resolving -/

/-- One call of `resolve`; the calls inside it go to `res`. -/
def resolveCall (g : Graph) (res : Node → String → Run String) : Node → String → Run String :=
  fun n input c =>
    match c.memo.lookup (n.id, input) with
    | some text => .ok (text, c)
    | none =>
      if c.resolving.contains (n.id, input) then
        .ok ("None", c.note ("Error: data cycle through " ++ inputName n input))
      else
        (resolveFresh g res n input (c.enter (n.id, input))).map fun r =>
          (r.1, r.2.leave (n.id, input) r.1)

theorem resolveWithin_succ_eq (bound : Nat) (n : Node) (input : String) :
    resolveWithin g (bound + 1) n input = resolveCall g (resolveWithin g bound) n input :=
  funext fun c => resolveWithin_succ bound n input c

section Resolving

variable {res res' : Node → String → Run String} {writing : List Int} {resolving : List Key}

theorem resolveFresh_alike
    (h : ∀ m ∈ g.nodes, ∀ i ∈ askedNames, Alike writing resolving (res m i) (res' m i)) (n : Node)
    (input : String) :
    Alike writing resolving (resolveFresh g res n input) (resolveFresh g res' n input) := by
  rw [resolveFresh_eq, resolveFresh_eq]
  cases hf : feed g n input with
  | own => exact defaultOf_alike n input
  | missing id => exact .bind (noteGap_alike _) fun _ => .pure _
  | source s m =>
    refine .bind (resolveAll_alike s.asks fun i hi => ?_) fun _ => .pure _
    exact h m (mem_of_feed hf).1 i (s.asks_subset hi)

/-- A call matters to another only amid one more input being resolved, and only if that one was not
being resolved before. -/
theorem resolveCall_alike {n : Node} {input : String}
    (h : (n.id, input) ∉ resolving → ∀ m ∈ g.nodes, ∀ i ∈ askedNames,
      Alike writing ((n.id, input) :: resolving) (res m i) (res' m i)) :
    Alike writing resolving (resolveCall g res n input) (resolveCall g res' n input) := by
  intro c hc
  unfold resolveCall
  cases c.memo.lookup (n.id, input) with
  | some text =>
    refine ⟨rfl, fun _ _ he => ?_⟩
    cases he
    exact hc
  | none =>
    simp only
    split
    · refine ⟨rfl, fun _ _ he => ?_⟩
      cases he
      exact hc
    · rename_i hnew
      have hkey : (n.id, input) ∉ resolving := by simpa [hc.2] using hnew
      have hin : Amid writing ((n.id, input) :: resolving) (c.enter (n.id, input)) :=
        ⟨hc.1, congrArg (_ :: ·) hc.2⟩
      obtain ⟨he, hkeep⟩ := resolveFresh_alike (h hkey) n input _ hin
      rw [← he]
      refine ⟨rfl, fun a c' hr => ?_⟩
      cases hx : resolveFresh g res n input (c.enter (n.id, input)) with
      | error o => rw [hx] at hr; cases hr
      | ok r =>
        rw [hx] at hr
        cases hr
        obtain ⟨hw, hrs⟩ := hkeep r.1 r.2 hx
        exact ⟨hw, by simp [Context.leave, hrs]⟩

theorem resolveWithin_alike (bound : Nat) (n : Node) (input : String) : ∀ resolving,
    Alike writing resolving (resolveWithin g bound n input) (resolveWithin g bound n input) := by
  induction bound generalizing n input with
  | zero => exact fun _ => .pure _
  | succ bound ih =>
    intro resolving
    rw [resolveWithin_succ_eq]
    exact resolveCall_alike fun _ m _ i _ => ih m i _

/-- A bound above the room that is left makes no difference. -/
theorem resolveWithin_stable (bound : Nat) : ∀ n ∈ g.nodes, ∀ input ∈ askedNames, ∀ resolving,
    room (askable g) resolving < bound →
      Alike writing resolving (resolveWithin g bound n input)
        (resolveWithin g (bound + 1) n input) := by
  induction bound with
  | zero => exact fun _ _ _ _ _ h => absurd h (Nat.not_lt_zero _)
  | succ bound ih =>
    intro n hn input hi resolving hroom
    rw [resolveWithin_succ_eq bound, resolveWithin_succ_eq (bound + 1)]
    refine resolveCall_alike fun hnew m hm i hi' => ih m hm i hi' _ ?_
    have := room_cons_lt (mem_askable hn hi) hnew
    omega

/-- **Resolving an input goes on as far as it needs to.** -/
theorem resolve_eq_call (n : Node) (input : String) :
    resolve g n input = resolveCall g (resolve g) n input := by
  funext c
  have hroom : ∀ resolving,
      room (askable g) resolving < g.nodes.length * askedNames.length + 1 := by
    intro resolving
    have hle := room_le (askable g) resolving
    rw [card_askable] at hle
    have := Nat.mul_le_mul_right askedNames.length (card_ids_le g)
    omega
  have hstable : Alike c.emitting c.resolving
      (resolveCall g (resolveWithin g (g.nodes.length * askedNames.length + 1)) n input)
      (resolveCall g (resolve g) n input) :=
    resolveCall_alike fun _ m hm i hi => resolveWithin_stable _ m hm i hi _ (hroom _)
  rw [← (hstable c ⟨rfl, rfl⟩).1]
  exact congrFun (resolveWithin_succ_eq _ n input) c

end Resolving

/-- A call of `resolve`. -/
structure Query where
  node : Node
  input : String
  context : Context

namespace Query

def key (q : Query) : Key := (q.node.id, q.input)

/-- The call is not answered at once: the input is neither known nor being resolved. -/
def Passes (q : Query) : Prop :=
  q.context.memo.lookup q.key = none ∧ q.key ∉ q.context.resolving

/-- What a way to resolve inputs makes of a call. -/
def answer (q : Query) (res : Node → String → Run String) : Except Obstacle (String × Context) :=
  res q.node q.input q.context

/-- A call makes another one: were that one alone answered differently, the first could be too. -/
def Makes (g : Graph) (q q' : Query) : Prop :=
  ∃ res, (∀ p, p ≠ q' → p.answer res = p.answer (resolve g)) ∧
    q.answer (resolveCall g res) ≠ q.answer (resolve g)

theorem answer_of_not_passes {q : Query} (h : ¬q.Passes) (res res' : Node → String → Run String) :
    q.answer (resolveCall g res) = q.answer (resolveCall g res') := by
  unfold Passes key at h
  unfold answer resolveCall
  cases hm : q.context.memo.lookup (q.node.id, q.input) with
  | some text => rfl
  | none =>
    have hin : (q.node.id, q.input) ∈ q.context.resolving := by simpa [hm] using h
    simp [hin]

/-- A call inside another is one for an input that a node asks for, and finds one more input being
resolved. -/
theorem Makes.inside {q q' : Query} (h : q.Makes g q') :
    q.Passes ∧ q'.context.resolving = q.key :: q.context.resolving ∧ q'.key ∈ askable g := by
  obtain ⟨res, hres, hne⟩ := h
  have hcall : q.answer (resolve g) = q.answer (resolveCall g (resolve g)) :=
    congrFun (resolve_eq_call q.node q.input) q.context
  rw [hcall] at hne
  refine ⟨by_contra fun hp => hne (answer_of_not_passes hp _ _), ?_⟩
  -- If `q'` were no such call, all such calls would be answered as by `resolve`.
  by_contra hout
  refine hne (resolveCall_alike (fun _ m hm i hi => ?_) q.context ⟨rfl, rfl⟩).1
  refine .of_eq (fun c hc => hres ⟨m, i, c⟩ ?_) (resolveWithin_alike _ m i _)
  rintro rfl
  exact hout ⟨hc.2, mem_askable hm hi⟩

/-- **Calls for inputs nest as deep as there are inputs that nodes ask for**, and the first one. -/
theorem length_le_of_isChain {l : List Query} (hl : l.IsChain (Makes g)) (hp : ∀ q ∈ l, q.Passes) :
    l.length ≤ (ids g).card * askedNames.length + 1 := by
  have hd : (l.map key).Nodup :=
    nodup_of_isChain (fun _ _ h => h.inside.2.1) hl fun q hq => (hp q hq).2
  cases l with
  | nil => exact Nat.zero_le _
  | cons q l =>
    have hall : ∀ p ∈ l, p.key ∈ askable g := forall_of_isChain (fun _ _ h => h.inside.2.2) hl
    have := length_le_of_nodup_map (nodup_cons.mp hd).2 hall
    rw [card_askable] at this
    simpa using this

end Query

/-! ## Writing steps -/

/-- The context while the steps of a node are being written. -/
def Context.open (c : Context) (id : Int) : Context :=
  { c with emitting := id :: c.emitting }

/-- The context after the steps of a node have been written. -/
def Context.close (c : Context) (id : Int) : Context :=
  { c with emitting := c.emitting.erase id }

/-- The steps of a node that is not being written; what follows it goes to `walk`. -/
def emitFresh (g : Graph) (limit : String) (walk : Walk) : Walk := fun n path out => do
  let r ← resolveInputs g n n.dataInputs
  let out ← flushNotes out
  let out ← stepLines g limit walk n r out
  if goesOn n.type then follow g walk n.id "out" (n.id :: path) out else pure out

/-- One call of `emit`; the calls inside it go to `walk`. -/
def emitCall (g : Graph) (limit : String) (walk : Walk) : Walk := fun n path out c =>
  if path.contains n.id || c.emitting.contains n.id then
    .ok (out.comment s!"Loop detected: re-entry to {n.type} (ID {n.id}) skipped in current path.", c)
  else
    (emitFresh g limit walk n path out (c.open n.id)).map fun r => (r.1, r.2.close n.id)

theorem emitWithin_succ_eq (bound : Nat) (n : Node) (path : List Int) (out : Listing) :
    emitWithin g limit (bound + 1) n path out =
      emitCall g limit (emitWithin g limit bound) n path out := by
  funext c
  show (emitWithin g limit (bound + 1) n path out).run c = _
  simp only [emitWithin, emitCall, StateT.run_bind, StateT.run_get, pure_bind]
  split
  · rfl
  · have hrun : ∀ x : Run Listing, ((do
        let out ← x
        modify fun c => { c with emitting := c.emitting.erase n.id }
        return out) : Run Listing) (c.open n.id) =
          (x (c.open n.id)).map fun r => (r.1, r.2.close n.id) := by
      intro x
      show (x (c.open n.id)).bind _ = _
      cases x (c.open n.id) <;> rfl
    have hbranch : ∀ (x : Run Listing) (out : Listing) (k : Listing → Run Listing),
        (if goesOn n.type = true then x else pure out) >>= k =
          if goesOn n.type = true then x >>= k else k out := by
      intro x out k
      split
      · rfl
      · exact pure_bind _ _
    rw [← hrun]
    simp only [emitFresh, bind_assoc, hbranch]
    rfl

section Writing

variable {walk walk' : Walk} {writing : List Int} {resolving : List Key}

theorem resolveInputs_alike (n : Node) (ports : List Port) :
    Alike writing resolving (resolveInputs g n ports) (resolveInputs g n ports) := by
  induction ports with
  | nil => exact .pure _
  | cons p rest ih =>
    exact .bind (resolveWithin_alike _ n p.id _) fun _ => .bind ih fun _ => .pure _

theorem follow_alike {path : List Int}
    (h : ∀ m ∈ g.nodes, ∀ out, Alike writing resolving (walk m path out) (walk' m path out))
    (id : Int) (port : String) (out : Listing) :
    Alike writing resolving (follow g walk id port path out) (follow g walk' id port path out) := by
  unfold follow
  split
  · exact .pure _
  · split
    · exact .pure _
    · rename_i next hnext
      exact h next (Graph.mem_of_node? hnext) out

theorem blockOf_alike {body body' : Listing → Run Listing}
    (h : ∀ out, Alike writing resolving (body out) (body' out)) (out : Listing) (header : String) :
    Alike writing resolving (blockOf out header body) (blockOf out header body') :=
  .bind (h _) fun _ => .pure _

theorem stepLines_alike
    (h : ∀ m ∈ g.nodes, ∀ out, Alike writing resolving (walk m [] out) (walk' m [] out))
    (n : Node) (r : Inputs) (out : Listing) :
    Alike writing resolving (stepLines g limit walk n r out) (stepLines g limit walk' n r out) := by
  have hinner : ∀ id port out, Alike writing resolving (follow g walk id port [] out)
      (follow g walk' id port [] out) := follow_alike h
  unfold stepLines
  split
  case h_19 => exact .bind (need_alike r _) fun _ => blockOf_alike (fun _ => hinner _ _ _) _ _
  case h_20 =>
    refine .bind (need_alike r _) fun _ =>
      .bind (blockOf_alike (fun _ => hinner _ _ _) _ _) fun _ => ?_
    exact blockOf_alike (fun _ => hinner _ _ _) _ _
  case h_21 => exact .bind (need_alike r _) fun _ => blockOf_alike (fun _ => hinner _ _ _) _ _
  -- No path stands inside the steps that are left.
  all_goals
    try unfold stepLines.change
    try unfold stepLines.assign
    repeat refine .bind (need_alike r _) fun _ => ?_
    exact .pure _

/-- The paths inside the steps of a node start anew, and the one after them has the node on it. -/
theorem emitFresh_alike {n : Node} {path : List Int}
    (h : ∀ m ∈ g.nodes, ∀ path' ∈ [[], n.id :: path], ∀ out,
      Alike writing resolving (walk m path' out) (walk' m path' out)) (out : Listing) :
    Alike writing resolving (emitFresh g limit walk n path out)
      (emitFresh g limit walk' n path out) := by
  refine .bind (resolveInputs_alike n _) fun r => .bind (flushNotes_alike out) fun out => ?_
  refine .bind (stepLines_alike (fun m hm => h m hm [] (by simp)) n r out) fun out => ?_
  split
  · exact follow_alike (fun m hm => h m hm _ (by simp)) _ _ out
  · exact .pure out

theorem emitCall_alike {n : Node} (path : List Int) (out : Listing)
    (h : n.id ∉ writing → ∀ m ∈ g.nodes, ∀ path' ∈ [[], n.id :: path], ∀ out,
      Alike (n.id :: writing) resolving (walk m path' out) (walk' m path' out)) :
    Alike writing resolving (emitCall g limit walk n path out)
      (emitCall g limit walk' n path out) := by
  intro c hc
  unfold emitCall
  split
  · refine ⟨rfl, fun _ _ he => ?_⟩
    cases he
    exact hc
  · rename_i hnew
    have hid : n.id ∉ writing := by
      intro hin
      simp [hc.1, hin] at hnew
    have hin : Amid (n.id :: writing) resolving (c.open n.id) :=
      ⟨congrArg (_ :: ·) hc.1, hc.2⟩
    obtain ⟨he, hkeep⟩ := emitFresh_alike (h hid) out _ hin
    rw [← he]
    refine ⟨rfl, fun a c' hr => ?_⟩
    cases hx : emitFresh g limit walk n path out (c.open n.id) with
    | error o => rw [hx] at hr; cases hr
    | ok r =>
      rw [hx] at hr
      cases hr
      obtain ⟨hw, hrs⟩ := hkeep r.1 r.2 hx
      exact ⟨by simp [Context.close, hw], hrs⟩

theorem emitWithin_alike (bound : Nat) (n : Node) (path : List Int) (out : Listing) : ∀ writing,
    Alike writing resolving (emitWithin g limit bound n path out)
      (emitWithin g limit bound n path out) := by
  induction bound generalizing n path out with
  | zero => exact fun _ => .pure _
  | succ bound ih =>
    intro writing
    rw [emitWithin_succ_eq]
    exact emitCall_alike path out fun _ m _ path _ out => ih m path out _

theorem emitWithin_stable (bound : Nat) : ∀ n ∈ g.nodes, ∀ path out writing,
    room (ids g) writing < bound →
      Alike writing resolving (emitWithin g limit bound n path out)
        (emitWithin g limit (bound + 1) n path out) := by
  induction bound with
  | zero => exact fun _ _ _ _ _ h => absurd h (Nat.not_lt_zero _)
  | succ bound ih =>
    intro n hn path out writing hroom
    rw [emitWithin_succ_eq bound, emitWithin_succ_eq (bound + 1)]
    refine emitCall_alike path out fun hnew m hm path _ out => ih m hm path out _ ?_
    have := room_cons_lt (id_mem_ids hn) hnew
    omega

/-- **Writing a path goes on as far as it needs to.** -/
theorem emit_eq_call (n : Node) (path : List Int) (out : Listing) :
    emit g limit n path out = emitCall g limit (emit g limit) n path out := by
  funext c
  have hroom : ∀ writing, room (ids g) writing < g.nodes.length + 1 := by
    intro writing
    have := (room_le (ids g) writing).trans (card_ids_le g)
    omega
  have hstable : Alike c.emitting c.resolving
      (emitCall g limit (emitWithin g limit (g.nodes.length + 1)) n path out)
      (emitCall g limit (emit g limit) n path out) :=
    emitCall_alike path out fun _ m hm path _ out => emitWithin_stable _ m hm path out _ (hroom _)
  rw [← (hstable c ⟨rfl, rfl⟩).1]
  exact congrFun (emitWithin_succ_eq _ n path out) c

end Writing

/-- A call of `emit`. -/
structure Visit where
  node : Node
  path : List Int
  out : Listing
  context : Context

namespace Visit

/-- The node is entered: it is neither on its path nor being written. -/
def Passes (v : Visit) : Prop :=
  v.node.id ∉ v.path ∧ v.node.id ∉ v.context.emitting

/-- What a way to write paths makes of a call. -/
def answer (v : Visit) (walk : Walk) : Except Obstacle (Listing × Context) :=
  walk v.node v.path v.out v.context

/-- A call makes another one: were that one alone answered differently, the first could be too. -/
def Makes (g : Graph) (limit : String) (v v' : Visit) : Prop :=
  ∃ walk, (∀ u, u ≠ v' → u.answer walk = u.answer (emit g limit)) ∧
    v.answer (emitCall g limit walk) ≠ v.answer (emit g limit)

open Classical in
theorem makes_of_error {v v' : Visit}
    (h : ∀ walk o, v'.answer walk = .error o → v.answer (emitCall g limit walk) = .error o) :
    v.Makes g limit v' := by
  -- One of two obstacles is not what `emit` answers anyway.
  obtain ⟨o, ho⟩ : ∃ o, v.answer (emit g limit) ≠ .error o := by
    by_contra hall
    push Not at hall
    have := (hall (.missingInput "")).symm.trans (hall (.missingInput "x"))
    simp at this
  let walk : Walk := fun n path out c =>
    if (⟨n, path, out, c⟩ : Visit) = v' then .error o else emit g limit n path out c
  have hfail : v'.answer walk = .error o := if_pos rfl
  refine ⟨walk, fun u hu => if_neg hu, ?_⟩
  rw [h walk o hfail]
  exact ho.symm

theorem answer_of_not_passes {v : Visit} (h : ¬v.Passes) (walk walk' : Walk) :
    v.answer (emitCall g limit walk) = v.answer (emitCall g limit walk') := by
  unfold Passes at h
  have hin : (v.path.contains v.node.id || v.context.emitting.contains v.node.id) = true := by
    by_contra hn
    simp only [Bool.or_eq_true, contains_iff_mem, not_or] at hn
    exact h hn
  unfold answer emitCall
  rw [if_pos hin, if_pos hin]

theorem Makes.inside {v v' : Visit} (h : v.Makes g limit v') :
    v.Passes ∧ v'.context.emitting = v.node.id :: v.context.emitting ∧ v'.node ∈ g.nodes ∧
      v'.path ∈ [[], v.node.id :: v.path] := by
  obtain ⟨walk, hwalk, hne⟩ := h
  have hcall : v.answer (emit g limit) = v.answer (emitCall g limit (emit g limit)) :=
    congrFun (emit_eq_call v.node v.path v.out) v.context
  rw [hcall] at hne
  refine ⟨by_contra fun hp => hne (answer_of_not_passes hp _ _), ?_⟩
  -- If `v'` were no such call, all such calls would be answered as by `emit`.
  by_contra hout
  refine hne (emitCall_alike v.path v.out (fun _ m hm path hpath out => ?_) v.context ⟨rfl, rfl⟩).1
  refine .of_eq (fun c hc => hwalk ⟨m, path, out, c⟩ ?_) (emitWithin_alike _ m path out _)
  rintro rfl
  exact hout ⟨hc.1, hm, hpath⟩

/-- **Calls for nodes of a graph nest as deep as there are numbers of nodes.** -/
theorem length_le_of_isChain {v : Visit} {l : List Visit} (hv : v.node ∈ g.nodes)
    (hl : (v :: l).IsChain (Makes g limit)) (hp : ∀ u ∈ v :: l, u.Passes) :
    (v :: l).length ≤ (ids g).card := by
  have hd : ((v :: l).map fun u => u.node.id).Nodup :=
    nodup_of_isChain (fun _ _ h => h.inside.2.1) hl fun u hu => (hp u hu).2
  have hnodes : ∀ u ∈ l, u.node ∈ g.nodes := forall_of_isChain (fun _ _ h => h.inside.2.2.1) hl
  exact length_le_of_nodup_map hd
    (forall_mem_cons.mpr ⟨id_mem_ids hv, fun u hu => id_mem_ids (hnodes u hu)⟩)

end Visit

/-! ## Both together -/

/-- **A compilation goes on as far as it needs to and nests no deeper than its graph allows.**
Nothing is asked of the graph. -/
theorem nesting_bounded (g : Graph) (limit : String) :
    -- Resolving is not cut off, and what is being resolved and written is as before.
    (∀ q : Query, q.answer (resolve g) = q.answer (resolveCall g (resolve g))) ∧
    (∀ (q : Query) text c', q.answer (resolve g) = .ok (text, c') →
      c'.resolving = q.context.resolving ∧ c'.emitting = q.context.emitting) ∧
    -- A call inside another finds one more input being resolved.
    (∀ q q' : Query, q.Makes g q' →
      q.Passes ∧ q'.context.resolving = q.key :: q.context.resolving) ∧
    (∀ l : List Query, l.IsChain (Query.Makes g) → (∀ q ∈ l, q.Passes) →
      l.length ≤ (ids g).card * askedNames.length + 1) ∧
    -- The same of writing.
    (∀ v : Visit, v.answer (emit g limit) = v.answer (emitCall g limit (emit g limit))) ∧
    (∀ (v : Visit) out c', v.answer (emit g limit) = .ok (out, c') →
      c'.emitting = v.context.emitting ∧ c'.resolving = v.context.resolving) ∧
    (∀ v v' : Visit, v.Makes g limit v' →
      v.Passes ∧ v'.context.emitting = v.node.id :: v.context.emitting ∧ v'.node ∈ g.nodes) ∧
    (∀ (v : Visit) (l : List Visit), v.node ∈ g.nodes → (v :: l).IsChain (Visit.Makes g limit) →
      (∀ u ∈ v :: l, u.Passes) → (v :: l).length ≤ (ids g).card) := by
  refine ⟨fun q => ?_, fun q text c' h => ?_, fun q q' h => ?_, fun l => ?_, fun v => ?_,
    fun v out c' h => ?_, fun v v' h => ?_, fun v l => ?_⟩
  · exact congrFun (resolve_eq_call q.node q.input) q.context
  · exact ((resolveWithin_alike _ _ _ _ q.context ⟨rfl, rfl⟩).2 text c' h).symm
  · exact ⟨h.inside.1, h.inside.2.1⟩
  · exact Query.length_le_of_isChain
  · exact congrFun (emit_eq_call v.node v.path v.out) v.context
  · exact (emitWithin_alike _ _ _ _ _ v.context ⟨rfl, rfl⟩).2 out c' h
  · exact ⟨h.inside.1, h.inside.2.1, h.inside.2.2.1⟩
  · exact Visit.length_le_of_isChain

/-- Two nodes that follow each other. -/
def ring : Graph :=
  { nodes := [{ id := 1, type := "start" }, { id := 2, type := "start" }]
    wires := [{ id := .str "there", fromNode := 1, fromPort := "out", toNode := 2, toPort := "in" },
      { id := .str "back", fromNode := 2, fromPort := "out", toNode := 1, toPort := "in" }] }

/-- In a ring of two nodes two calls stand inside each other, and no more. -/
theorem nesting_bounded_ring :
    IsGreatest {depth | ∃ v l, v.node ∈ ring.nodes ∧ (v :: l).IsChain (Visit.Makes ring "9") ∧
      (∀ u ∈ v :: l, u.Passes) ∧ (v :: l).length = depth} 2 := by
  let first : Visit := ⟨{ id := 1, type := "start" }, [], {}, {}⟩
  let second : Visit := ⟨{ id := 2, type := "start" }, [1],
    ({} : Listing).comment "Start node (ID 1) execution path", { emitting := [1] }⟩
  constructor
  · refine ⟨first, [second], List.mem_cons_self, ?_, by simp [first, second, Visit.Passes], rfl⟩
    refine .cons_cons (Visit.makes_of_error fun walk o h => ?_) (.singleton _)
    have hcall : first.answer (emitCall ring "9" walk) =
        (second.answer walk).map fun r => (r.1, r.2.close 1) := rfl
    exact hcall.trans (congrArg _ h)
  · rintro depth ⟨v, l, hv, hl, hp, rfl⟩
    exact (nesting_bounded ring "9").2.2.2.2.2.2.2 v l hv hl hp

end Sketchflow.Compile
