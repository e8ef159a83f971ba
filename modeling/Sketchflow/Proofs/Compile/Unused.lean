import Sketchflow.Proofs.Compile.Edited
import Sketchflow.Proofs.Compile.Nesting

/-!
# Parts of a graph that are not used

A compilation looks at the nodes its walk enters and at what feeds the inputs it resolves. Two
graphs that agree on this have the same plan, so a node that is neither can be taken away.

* `Walked` are the nodes that the walk enters, `Resolved` the inputs whose texts are computed, those
  that sources ask for among them, and `Feeds` says that a node feeds one.
* `Agree` says that two graphs agree where a compilation looks. **`Agree.plan_eq`**: they have the
  same plan. Both compilations run in step, on the same contexts.
* **`generate_remove_unused`**: taking away a node that is not used leaves the program as it is.
-/

namespace Sketchflow.Compile

open Graph List

variable {g g' : Graph}
variable {id : Int} {port : String} {α : Type}

/-! ## Bounds that make no difference -/

theorem resolveWithin_of_le {bound : Nat} (h : dependencyBound g ≤ bound) (n : Node)
    (input : String) : resolveWithin g bound n input = resolve g n input := by
  induction bound, h using Nat.le_induction with
  | base => rfl
  | succ bound hle ih =>
    rw [← ih]
    obtain ⟨b, rfl⟩ : ∃ b, bound = b + 1 := ⟨bound - 1, by unfold dependencyBound at hle; omega⟩
    funext c
    rw [resolveWithin_succ_eq (b + 1), resolveWithin_succ_eq b]
    have hstable : Alike c.emitting c.resolving (resolveCall g (resolveWithin g b) n input)
        (resolveCall g (resolveWithin g (b + 1)) n input) := by
      refine resolveCall_alike fun _ m hm i hi => resolveWithin_stable b m hm i hi _ ?_
      have hroom := room_le (askable g) ((n.id, input) :: c.resolving)
      rw [card_askable] at hroom
      have := Nat.mul_le_mul_right askedNames.length (card_ids_le g)
      unfold dependencyBound at hle
      omega
    exact (hstable c ⟨rfl, rfl⟩).1.symm

/-- The outline of a node that is not being written; what follows it goes to `survey`. -/
def outlineFresh (g : Graph) (survey : Survey) : Survey := fun n path => do
  let r ← resolveInputs g n n.dataInputs
  let notes ← drainNotes
  demandAll r (((action? n.type).map Action.asks).getD [])
  let body ← along g survey n.id ((action? n.type).bind Action.body) []
  let other ← along g survey n.id ((action? n.type).bind Action.other) []
  let next ← along g survey n.id (nextPort n.type) (n.id :: path)
  return .node n notes r body other next

theorem outlineWithin_succ (bound : Nat) (n : Node) (path : List Int) (c : Context) :
    outlineWithin g (bound + 1) n path c =
      if path.contains n.id || c.emitting.contains n.id then .ok (.again n, c)
      else (outlineFresh g (outlineWithin g bound) n path (c.open n.id)).map fun r =>
        (r.1, r.2.close n.id) := by
  show (outlineWithin g (bound + 1) n path).run c = _
  simp only [outlineWithin, StateT.run_bind, StateT.run_get, pure_bind]
  split
  · rfl
  · have hrun : ∀ x : Run Outline, (x (c.open n.id)).map (fun r => (r.1, r.2.close n.id)) =
        (x >>= fun o => do
          modify fun c => { c with emitting := c.emitting.erase n.id }
          return o : Run Outline) (c.open n.id) := by
      intro x
      show _ = (x (c.open n.id)).bind _
      cases x (c.open n.id) <;> rfl
    rw [hrun]
    simp only [outlineFresh, bind_assoc, pure_bind]
    rfl

section

variable {writing : List Int} {resolving : List Key} {survey survey' : Survey}

theorem along_alike
    (h : ∀ m ∈ g.nodes, ∀ path, Alike writing resolving (survey m path) (survey' m path)) (id : Int)
    (port : Option String) (path : List Int) :
    Alike writing resolving (along g survey id port path) (along g survey' id port path) := by
  unfold along
  cases port with
  | none => exact .pure _
  | some port =>
    dsimp only
    split
    · exact .pure _
    · split
      · exact .pure _
      · rename_i next hnext
        exact h next (mem_of_node? hnext) path

theorem demandAll_alike (r : Inputs) (names : List String) :
    Alike writing resolving (demandAll r names) (demandAll r names) := by
  induction names with
  | nil => exact .pure _
  | cons name rest ih => exact .bind (.bind (need_alike r name) fun _ => .pure _) fun _ => ih

theorem outlineFresh_alike
    (h : ∀ m ∈ g.nodes, ∀ path, Alike writing resolving (survey m path) (survey' m path)) (n : Node)
    (path : List Int) :
    Alike writing resolving (outlineFresh g survey n path) (outlineFresh g survey' n path) := by
  have hdrain : Alike writing resolving drainNotes drainNotes := fun c hc =>
    ⟨rfl, fun _ _ h => by cases h; exact hc⟩
  exact .bind (resolveInputs_alike n _) fun r => .bind hdrain fun notes =>
    .bind (demandAll_alike r _) fun _ => .bind (along_alike h _ _ _) fun _ =>
      .bind (along_alike h _ _ _) fun _ => .bind (along_alike h _ _ _) fun _ => .pure _

end

theorem outlineWithin_stable (bound : Nat) : ∀ n ∈ g.nodes, ∀ path writing resolving,
    room (ids g) writing < bound →
      Alike writing resolving (outlineWithin g bound n path)
        (outlineWithin g (bound + 1) n path) := by
  induction bound with
  | zero => exact fun _ _ _ _ _ h => absurd h (Nat.not_lt_zero _)
  | succ bound ih =>
    intro n hn path writing resolving hroom c hc
    rw [outlineWithin_succ bound, outlineWithin_succ (bound + 1)]
    split
    · exact ⟨rfl, fun _ _ he => by cases he; exact hc⟩
    rename_i hnew
    have hid : n.id ∉ writing := fun hin => by simp [hc.1, hin] at hnew
    have hfresh := outlineFresh_alike (fun m hm path => ih m hm path (n.id :: writing) resolving
      (by have := room_cons_lt (id_mem_ids hn) hid; omega)) n path
    obtain ⟨he, hkeep⟩ := hfresh (c.open n.id) ⟨congrArg (_ :: ·) hc.1, hc.2⟩
    rw [← he]
    refine ⟨rfl, fun a c' hr => ?_⟩
    cases hx : outlineFresh g (outlineWithin g bound) n path (c.open n.id) with
    | error o => rw [hx] at hr; cases hr
    | ok r =>
      rw [hx] at hr
      cases hr
      obtain ⟨hw, hrs⟩ := hkeep r.1 r.2 hx
      exact ⟨by simp [Context.close, hw], hrs⟩

theorem outlineWithin_of_le {bound : Nat} (h : nestingBound g ≤ bound) {n : Node} (hn : n ∈ g.nodes)
    (path : List Int) : outlineWithin g bound n path = outline g n path := by
  induction bound, h using Nat.le_induction with
  | base => rfl
  | succ bound hle ih =>
    rw [← ih]
    funext c
    refine ((outlineWithin_stable bound n hn path c.emitting c.resolving ?_) c ⟨rfl, rfl⟩).1.symm
    have := (room_le (ids g) c.emitting).trans (card_ids_le g)
    unfold nestingBound at hle
    omega

/-! ## What a compilation looks at -/

/-- A function whose body is written: when its turn comes, its name is one that a function can
have. -/
def Bodied (g : Graph) (f : Node) : Prop :=
  hasEntry g = true ∧ ∃ before after ds c resolved c',
    g.nodesOfType "function" = before ++ f :: after ∧
    planEach (planFunction g) before {} = .ok (ds, c) ∧
    resolve g f "name" { c with defined := f.id :: c.defined } = .ok (resolved, c') ∧
    isFunctionName (unquote resolved) = true

/-- The nodes that the walk over a graph enters. -/
inductive Walked (g : Graph) : Node → Prop where
  | start {n : Node} : (g.nodesOfType "start").head? = some n → Walked g n
  | tick {l n : Node} : (g.nodesOfType "gameLoop").head? = some l → Leads g l.id "tick" n →
      Walked g n
  | key {k n : Node} : k ∈ g.nodesOfType "whenKeyPressed" → Leads g k.id "out" n → Walked g n
  | body {f n : Node} : Bodied g f → Leads g f.id "body" n → Walked g n
  | next {m n : Node} : Walked g m → Next g m n → Walked g n

/-- The inputs whose texts are resolved by a walk over some nodes. -/
inductive Resolved (g : Graph) (walked : Node → Prop) : Node → String → Prop where
  | input {n : Node} {p : Port} : walked n → p ∈ n.dataInputs → Resolved g walked n p.id
  | name {f : Node} : hasEntry g = true → f ∈ g.nodesOfType "function" → Resolved g walked f "name"
  | key {k : Node} : k ∈ g.nodesOfType "whenKeyPressed" → Resolved g walked k "key"
  | asked {n m : Node} {input i : String} {s : Source} : Resolved g walked n input →
      feed g n input = .source s m → i ∈ s.asks → Resolved g walked m i

/-- A node feeds an input whose text is resolved. -/
def Feeds (g : Graph) (n : Node) : Prop :=
  ∃ m input w, Resolved g (Walked g) m input ∧ g.wireInto? (.int m.id) (.str input) = some w ∧
    w.fromNode = n.id

/-- Two graphs have the same flow out of an output. -/
def SameFlow (g g' : Graph) (id : Int) (port : String) : Prop :=
  g'.flowFrom? (.int id) (.str port) = g.flowFrom? (.int id) (.str port) ∧
    ∀ w, g.flowFrom? (.int id) (.str port) = some w → g'.node? (.int w.toNode) =
    g.node? (.int w.toNode)

/-- Two graphs agree where a compilation of the first looks. -/
structure Agree (g g' : Graph) : Prop where
  starts : g'.nodesOfType "start" = g.nodesOfType "start"
  loops : g'.nodesOfType "gameLoop" = g.nodesOfType "gameLoop"
  keys : g'.nodesOfType "whenKeyPressed" = g.nodesOfType "whenKeyPressed"
  functions : g'.nodesOfType "function" = g.nodesOfType "function"
  nodes : ∀ n, Walked g n → n ∈ g'.nodes
  feeds : ∀ n input, Resolved g (Walked g) n input → feed g' n input = feed g n input
  flows : ∀ n, Walked g n → ∀ port ∈ onward n.type, SameFlow g g' n.id port
  ticks : ∀ l, (g.nodesOfType "gameLoop").head? = some l → SameFlow g g' l.id "tick"
  actions : ∀ k ∈ g.nodesOfType "whenKeyPressed", SameFlow g g' k.id "out"
  bodies : ∀ f, Bodied g f → SameFlow g g' f.id "body"

/-! ## Compilations in step -/

theorem mem_of_walked {n : Node} (h : Walked g n) : n ∈ g.nodes := by
  cases h with
  | start h => exact (mem_nodesOfType.mp (mem_of_mem_head? h)).1
  | tick _ h => exact mem_of_target h
  | key _ h => exact mem_of_target h
  | body _ h => exact mem_of_target h
  | next _ h =>
    obtain ⟨_, _, h⟩ := h
    exact mem_of_target h

theorem resolveAll_congr {res res' : Node → String → Run String} {n : Node} {inputs : List String}
    (h : ∀ i ∈ inputs, res' n i = res n i) :
    resolveAll res' n inputs = resolveAll res n inputs := by
  induction inputs with
  | nil => rfl
  | cons i rest ih =>
    obtain ⟨hi, hrest⟩ := forall_mem_cons.mp h
    simp only [resolveAll, hi, ih hrest]

theorem along_congr {survey survey' : Survey} {path : List Int} (hflow : SameFlow g g' id port)
    (h : ∀ next, Leads g id port next → survey' next path = survey next path) :
    along g' survey' id (some port) path = along g survey id (some port) path := by
  simp only [along, hflow.1]
  cases hw : g.flowFrom? (.int id) (.str port) with
  | none => rfl
  | some w =>
    simp only [hflow.2 w hw]
    cases hnext : g.node? (.int w.toNode) with
    | none => rfl
    | some next => exact h next (by simp [Leads, target, hw, hnext])

theorem planEach_congr {make make' : Node → Run α} {ns : List Node}
    (h : ∀ n ∈ ns, make' n = make n) : planEach make' ns = planEach make ns := by
  induction ns with
  | nil => rfl
  | cons n ns ih =>
    obtain ⟨hn, hns⟩ := forall_mem_cons.mp h
    simp only [planEach, hn, ih hns]

theorem run_bind_error {β : Type} {m : Run α} {f : α → Run β} {c : Context} {o : Obstacle}
    (h : m c = .error o) : (m >>= f) c = .error o := by
  show (m c).bind (fun r => f r.1 r.2) = _
  rw [h]
  rfl

theorem planEach_snoc {make : Node → Run α} {ns : List Node} {n : Node} {as : List α}
    {a : α} {c c' c'' : Context} (hns : planEach make ns c = .ok (as, c'))
    (hn : make n c' = .ok (a, c'')) : planEach make (ns ++ [n]) c = .ok (as ++ [a], c'') := by
  induction ns generalizing c as with
  | nil =>
    cases hns
    rw [nil_append, planEach, run_bind hn]
    rfl
  | cons m ns ih =>
    rw [planEach] at hns
    rw [cons_append, planEach]
    cases hm : make m c with
    | error o =>
      rw [run_bind_error hm] at hns
      cases hns
    | ok r =>
      rw [run_bind hm] at hns ⊢
      cases hrest : planEach make ns r.2 with
      | error o =>
        rw [run_bind_error hrest] at hns
        cases hns
      | ok r' =>
        rw [run_bind hrest] at hns
        cases hns
        rw [run_bind (ih hrest)]
        rfl

namespace Agree

theorem resolveWithin_eq (h : Agree g g') (bound : Nat) : ∀ n input, Resolved g (Walked g) n input →
    resolveWithin g' bound n input = resolveWithin g bound n input := by
  induction bound with
  | zero => exact fun _ _ _ => rfl
  | succ bound ih =>
    intro n input hr
    have hfresh : resolveFresh g' (resolveWithin g' bound) n input =
        resolveFresh g (resolveWithin g bound) n input := by
      rw [resolveFresh_eq, resolveFresh_eq, h.feeds n input hr]
      cases hf : feed g n input with
      | own => rfl
      | missing id => rfl
      | source s m => simp only [resolveAll_congr fun i hi => ih m i (hr.asked hf hi)]
    rw [resolveWithin_succ_eq, resolveWithin_succ_eq]
    funext c
    simp only [resolveCall, hfresh]

theorem resolve_eq (h : Agree g g') {n : Node} {input : String}
    (hr : Resolved g (Walked g) n input) : resolve g' n input = resolve g n input := by
  rw [← resolveWithin_of_le (le_max_left (dependencyBound g') (dependencyBound g)),
    h.resolveWithin_eq _ n input hr, resolveWithin_of_le (le_max_right _ _)]

theorem resolveInputs_eq (h : Agree g g') {n : Node} (hn : Walked g n) {ports : List Port}
    (hports : ∀ p ∈ ports, p ∈ n.dataInputs) :
    resolveInputs g' n ports = resolveInputs g n ports := by
  induction ports with
  | nil => rfl
  | cons p rest ih =>
    obtain ⟨hp, hrest⟩ := forall_mem_cons.mp hports
    simp only [resolveInputs, h.resolve_eq (.input hn hp), ih hrest]

theorem outlineWithin_eq (h : Agree g g') (bound : Nat) : ∀ n, Walked g n → ∀ path,
    outlineWithin g' bound n path = outlineWithin g bound n path := by
  induction bound with
  | zero => exact fun _ _ _ => rfl
  | succ bound ih =>
    intro n hn path
    have halong : ∀ port : Option String, (∀ p, port = some p → p ∈ onward n.type) → ∀ path,
        along g' (outlineWithin g' bound) n.id port path =
          along g (outlineWithin g bound) n.id port path := by
      intro port hport path
      cases port with
      | none => rfl
      | some p =>
        exact along_congr (h.flows n hn p (hport p rfl)) fun next hl =>
          ih next (hn.next ⟨p, hport p rfl, hl⟩) path
    funext c
    rw [outlineWithin_succ, outlineWithin_succ]
    simp only [outlineFresh, h.resolveInputs_eq hn fun _ hp => hp]
    rw [halong _ fun p hp => by simp [onward, hp], halong _ fun p hp => by simp [onward, hp],
      halong _ fun p hp => by simp [onward, hp]]

theorem outline_eq (h : Agree g g') {n : Node} (hn : Walked g n) (path : List Int) :
    outline g' n path = outline g n path := by
  rw [← outlineWithin_of_le (le_max_left (nestingBound g') (nestingBound g)) (h.nodes n hn),
    h.outlineWithin_eq _ n hn, outlineWithin_of_le (le_max_right _ _) (mem_of_walked hn)]

theorem along_eq (h : Agree g g') (hflow : SameFlow g g' id port)
    (hwalk : ∀ n, Leads g id port n → Walked g n) :
    along g' (outline g') id (some port) [] = along g (outline g) id (some port) [] :=
  along_congr hflow fun next hl => h.outline_eq (hwalk next hl) []

theorem planFunction_eq (h : Agree g g') (hentry : hasEntry g = true) {f : Node}
    {before after : List Node} (hsplit : g.nodesOfType "function" = before ++ f :: after)
    {ds : List Definition} {c : Context}
    (hbefore : planEach (planFunction g) before {} = .ok (ds, c)) :
    planFunction g' f c = planFunction g f c := by
  have hf : f ∈ g.nodesOfType "function" := by simp [hsplit]
  let c₁ : Context := { c with defined := f.id :: c.defined }
  have hget : (get : Run Context) c = .ok (c, c) := rfl
  have hpush : (modify fun c => { c with defined := f.id :: c.defined } : Run Unit) c =
      .ok ((), c₁) := rfl
  rw [planFunction, planFunction, run_bind hget, run_bind hget]
  split
  · rfl
  rw [run_bind hpush, run_bind hpush, h.resolve_eq (.name hentry hf)]
  cases hr : resolve g f "name" c₁ with
  | error o => rw [run_bind_error hr, run_bind_error hr]
  | ok r =>
    have hdrain : drainNotes r.2 = .ok (r.2.notes, { r.2 with notes := [] }) := rfl
    rw [run_bind hr, run_bind hr, run_bind hdrain, run_bind hdrain]
    split
    · rename_i hname
      have hbody : Bodied g f :=
        ⟨hentry, before, after, ds, c, r.1, r.2, hsplit, hbefore, hr, hname⟩
      rw [h.along_eq (h.bodies f hbody) fun n hl => .body hbody hl]
    · rfl

theorem planFunctions_eq (h : Agree g g') (hentry : hasEntry g = true) (rest : List Node) :
    ∀ before ds c, g.nodesOfType "function" = before ++ rest →
      planEach (planFunction g) before {} = .ok (ds, c) →
      planEach (planFunction g') rest c = planEach (planFunction g) rest c := by
  induction rest with
  | nil => simp [planEach]
  | cons f rest ih =>
    intro before ds c hsplit hbefore
    have hf := h.planFunction_eq hentry hsplit hbefore
    rw [planEach, planEach]
    cases hd : planFunction g f c with
    | error o => rw [run_bind_error hd, run_bind_error (hf.trans hd)]
    | ok r =>
      have hrest := ih (before ++ [f]) (ds ++ [r.1]) r.2 (by simp [hsplit])
        (planEach_snoc hbefore hd)
      rw [run_bind hd, run_bind (hf.trans hd)]
      cases hr : planEach (planFunction g) rest r.2 with
      | error o => rw [run_bind_error hr, run_bind_error (hrest.trans hr)]
      | ok r' => rw [run_bind hr, run_bind (hrest.trans hr)]

/-- **Graphs that agree have the same plan.** -/
theorem plan_eq (h : Agree g g') : plan g' = plan g := by
  have hentry : hasEntry g' = hasEntry g := by
    simp only [hasEntry, h.starts, h.loops, h.keys]
  have hhandlers : planEach (planHandler g') (g.nodesOfType "whenKeyPressed") =
      planEach (planHandler g) (g.nodesOfType "whenKeyPressed") := by
    refine planEach_congr fun k hk => ?_
    simp only [planHandler, h.resolve_eq (.key hk),
      h.along_eq (h.actions k hk) fun _ hl => .key hk hl]
  have hpath : planPath g' (g.nodesOfType "start").head? =
      planPath g (g.nodesOfType "start").head? := by
    cases hs : (g.nodesOfType "start").head? with
    | none => rfl
    | some n => simp only [planPath, h.outline_eq (.start hs)]
  have hloop : planLoop g' (g.nodesOfType "gameLoop").head? =
      planLoop g (g.nodesOfType "gameLoop").head? := by
    cases hl : (g.nodesOfType "gameLoop").head? with
    | none => rfl
    | some l =>
      simp only [planLoop, h.along_eq (h.ticks l hl) fun _ ht => .tick hl ht]
  unfold plan
  rw [hentry]
  split
  · rename_i he
    have hfunctions := h.planFunctions_eq he (g.nodesOfType "function") [] [] {} rfl rfl
    have hrun : ∀ k : List Definition → Run Plan,
        (planEach (planFunction g') (g.nodesOfType "function") >>= k) {} =
          (planEach (planFunction g) (g.nodesOfType "function") >>= k) {} := by
      intro k
      cases hr : planEach (planFunction g) (g.nodesOfType "function") {} with
      | error o => rw [run_bind_error hr, run_bind_error (hfunctions.trans hr)]
      | ok r => rw [run_bind hr, run_bind (hfunctions.trans hr)]
    simp only [planProgram, h.starts, h.loops, h.keys, h.functions, hhandlers, hpath, hloop]
    exact congrArg _ (hrun _)
  · rfl

end Agree

/-! ## Taking a node away -/

theorem find?_filter_of_kept {p q : α → Bool} {l : List α}
    (h : ∀ a, l.find? p = some a → q a = true) : (l.filter q).find? p = l.find? p := by
  induction l with
  | nil => rfl
  | cons a l ih =>
    cases hp : p a with
    | true =>
      have hq : q a = true := h a (by simp [hp])
      simp [hq, hp]
    | false =>
      have ih' := ih fun b hb => h b (by simpa [hp] using hb)
      cases hq : q a <;> simp [hq, hp, ih']

theorem eraseP_eq_filter {p : α → Bool} {l : List α}
    (h : l.Pairwise fun a b => p a = true → p b = false) : l.eraseP p = l.filter fun a => !p a := by
  induction l with
  | nil => rfl
  | cons a l ih =>
    obtain ⟨ha, hl⟩ := pairwise_cons.mp h
    cases hp : p a with
    | true =>
      have hrest : l.filter (fun b => !p b) = l := filter_eq_self.mpr fun b hb => by
        rw [ha b hb hp]
        rfl
      simp [hp, hrest]
    | false => simp [hp, ih hl]

section

variable {n : Node}

theorem remove_eq (hd : (g.nodes.map Node.id).Nodup) (hn : n ∈ g.nodes) :
    (g.remove (.int n.id)).2 = { g with
      nodes := g.nodes.filter fun m => !(Value.int n.id).hasId m.id
      wires := g.wires.filter fun w => !w.touches (.int n.id) } := by
  have hone : g.nodes.Pairwise fun a b =>
      (Value.int n.id).hasId a.id = true → (Value.int n.id).hasId b.id = false :=
    (pairwise_map.mp hd).imp fun {a b} hab ha => by
      rw [Value.hasId_int, decide_eq_true_eq] at ha
      rw [Value.hasId_int, decide_eq_false_iff_not]
      exact fun hb => hab (ha.symm.trans hb)
  rw [remove, (node?_int_iff hd).mpr ⟨hn, rfl⟩]
  simp only [eraseP_eq_filter hone]

theorem remove_node? (hd : (g.nodes.map Node.id).Nodup) (hn : n ∈ g.nodes)
    (hid : id ≠ n.id) : (g.remove (.int n.id)).2.node? (.int id) = g.node? (.int id) := by
  rw [remove_eq hd hn]
  refine find?_filter_of_kept fun m hm => ?_
  rw [Value.hasId_int, node?_id hm]
  simpa using hid.symm

theorem remove_nodesOfType (hd : (g.nodes.map Node.id).Nodup) (hn : n ∈ g.nodes) {type : String}
    (ht : n.type ≠ type) : (g.remove (.int n.id)).2.nodesOfType type = g.nodesOfType type := by
  rw [remove_eq hd hn, nodesOfType, nodesOfType, filter_filter]
  refine filter_congr fun m hm => ?_
  by_cases hid : n.id = m.id
  · obtain rfl := inj_on_of_nodup_map hd hn hm hid
    simp [ht]
  · simp [hid]

theorem remove_sameFlow (hd : (g.nodes.map Node.id).Nodup) (hn : n ∈ g.nodes) (hid : id ≠ n.id)
    (hlead : ¬ Leads g id port n) : SameFlow g (g.remove (.int n.id)).2 id port := by
  have hto : ∀ w, g.flowFrom? (.int id) (.str port) = some w → w.toNode ≠ n.id := by
    intro w hw ht
    refine hlead ?_
    have hnode := (node?_int_iff hd).mpr ⟨hn, rfl⟩
    simp [Leads, target, hw, ht, hnode]
  refine ⟨?_, fun w hw => remove_node? hd hn (hto w hw)⟩
  rw [remove_eq hd hn]
  refine find?_filter_of_kept fun w hw => ?_
  have hleaves : w.leaves (.int id) (.str port) = true := by
    have h := find?_some hw
    rw [Bool.and_eq_true] at h
    exact h.1
  have hfrom : w.fromNode = id := (Wire.leaves_iff.mp hleaves).1
  simp [Wire.touches, hfrom, hid.symm, (hto w hw).symm]

/-- **A node that is not used can be taken away**: it is no entry point, the walk does not enter it,
and it feeds no input whose text is resolved. -/
theorem generate_remove_unused (hd : (g.nodes.map Node.id).Nodup) (hn : n ∈ g.nodes)
    (htype : n.type ∉ ["start", "gameLoop", "whenKeyPressed", "function"]) (hwalk : ¬ Walked g n)
    (hfeeds : ¬ Feeds g n) (limit : String) :
    generate (g.remove (.int n.id)).2 limit = generate g limit := by
  simp only [List.mem_cons, List.not_mem_nil, or_false, not_or] at htype
  obtain ⟨hstart, hloop, hkey, hfunction⟩ := htype
  have hwalked : ∀ m, Walked g m → m.id ≠ n.id := fun m hm hid =>
    hwalk (List.inj_on_of_nodup_map hd (mem_of_walked hm) hn hid ▸ hm)
  have hentry : ∀ {type m}, n.type ≠ type → m ∈ g.nodesOfType type → m.id ≠ n.id := by
    intro type m ht hm hid
    obtain ⟨hmem, hm⟩ := mem_nodesOfType.mp hm
    exact ht (List.inj_on_of_nodup_map hd hmem hn hid ▸ hm)
  have hfrom : ∀ m input w, Resolved g (Walked g) m input →
      g.wireInto? (.int m.id) (.str input) = some w → w.fromNode ≠ n.id := fun m input w hr hw he =>
      hfeeds ⟨m, input, w, hr, hw, he⟩
  have hresolved : ∀ m input, Resolved g (Walked g) m input → m.id ≠ n.id := by
    intro m input hr
    cases hr with
    | input hm _ => exact hwalked m hm
    | name _ hf => exact hentry hfunction hf
    | key hk => exact hentry hkey hk
    | asked hr hf _ =>
      obtain ⟨w, hw, hm, -⟩ := exists_wire_of_feed hf
      rw [node?_id hm]
      exact hfrom _ _ w hr hw
  have hagree : Agree g (g.remove (.int n.id)).2 := {
    starts := remove_nodesOfType hd hn hstart
    loops := remove_nodesOfType hd hn hloop
    keys := remove_nodesOfType hd hn hkey
    functions := remove_nodesOfType hd hn hfunction
    nodes := fun m hm => by
      rw [remove_eq hd hn]
      exact List.mem_filter.mpr ⟨mem_of_walked hm, by simpa using (hwalked m hm).symm⟩
    feeds := fun m input hr => by
      have hwire : (g.remove (.int n.id)).2.wireInto? (.int m.id) (.str input) =
          g.wireInto? (.int m.id) (.str input) := by
        rw [remove_eq hd hn]
        refine find?_filter_of_kept fun w hw => ?_
        have henters := List.find?_some hw
        have hto := (Wire.enters_iff.mp henters).1
        simp [Wire.touches, hto, (hresolved m input hr).symm, (hfrom m input w hr hw).symm]
      unfold feed
      rw [hwire]
      cases hw : g.wireInto? (.int m.id) (.str input) with
      | none => rfl
      | some w => simp only [remove_node? hd hn (hfrom m input w hr hw)]
    flows := fun m hm port hport =>
      remove_sameFlow hd hn (hwalked m hm) fun hl => hwalk (hm.next ⟨port, hport, hl⟩)
    ticks := fun l hl => remove_sameFlow hd hn (hentry hloop (List.mem_of_mem_head? hl))
      fun ht => hwalk (.tick hl ht)
    actions := fun k hk => remove_sameFlow hd hn (hentry hkey hk) fun hl => hwalk (.key hk hl)
    bodies := fun f hf => remove_sameFlow hd hn
      (hentry hfunction (by obtain ⟨-, _, _, _, _, _, _, h, -⟩ := hf; simp [h]))
      fun hl => hwalk (.body hf hl) }
  rw [generate_eq, generate_eq, hagree.plan_eq]

end

/-- A path of one step that a number feeds, and a number that feeds a step which no path enters. -/
def idleNumber : Graph :=
  edited .standard [.create (.str "start") .null .null, .create (.str "moveTo") .null .null,
    .create (.str "number") .null .null, .create (.str "number") .null .null,
    .create (.str "moveTo") .null .null,
    .connect "00000001" (.int 1) (.str "out") (.int 2) (.str "in"),
    .connect "00000002" (.int 3) (.str "value") (.int 2) (.str "x"),
    .connect "00000003" (.int 4) (.str "value") (.int 5) (.str "x")]

/-- The second number can be taken away. -/
theorem generate_remove_unused_number :
    idleNumber.wires.length = 3 ∧
      generate (idleNumber.remove (.int 4)).2 "9" = generate idleNumber "9" := by
  have hleads : ∀ id port m, Leads idleNumber id port m → m.id = 2 := by
    intro id port m h
    have hflow : ∀ w ∈ idleNumber.wires, w.isFlow = true → w.toNode = 2 := by decide
    obtain ⟨w, hw, hm⟩ := Option.bind_eq_some_iff.mp h
    have hfound := find?_some hw
    simp only [Bool.and_eq_true] at hfound
    rw [node?_id hm, hflow w (mem_of_find?_eq_some hw) hfound.2]
  have hwalked : ∀ m, Walked idleNumber m → m.id = 1 ∨ m.id = 2 := by
    intro m hm
    cases hm with
    | start h => cases h; exact .inl rfl
    | tick _ h => exact .inr (hleads _ _ _ h)
    | key _ h => exact .inr (hleads _ _ _ h)
    | body _ h => exact .inr (hleads _ _ _ h)
    | next _ h =>
      obtain ⟨port, -, h⟩ := h
      exact .inr (hleads _ _ _ h)
  have hresolved : ∀ m input, Resolved idleNumber (Walked idleNumber) m input → m.id ≠ 5 := by
    intro m input hm
    cases hm with
    | input h _ =>
      have hid := hwalked _ h
      omega
    | name _ h => cases h
    | key h => cases h
    | asked _ h _ =>
      have hsource : ∀ m ∈ idleNumber.nodes, m.id = 5 → source? m.type = none := by decide
      obtain ⟨hmem, hs⟩ := mem_of_feed h
      intro hid
      cases hs.symm.trans (hsource _ hmem hid)
  obtain ⟨n, hn, hid, htype⟩ : ∃ n ∈ idleNumber.nodes, n.id = 4 ∧ n.type = "number" := by decide
  refine ⟨rfl, ?_⟩
  rw [← hid]
  refine generate_remove_unused (by decide) hn (by rw [htype]; decide) (fun h => ?_) ?_ "9"
  · have hid' := hwalked _ h
    omega
  · rintro ⟨m, input, w, hm, hw, hfrom⟩
    have hfeeds : ∀ w ∈ idleNumber.wires, w.fromNode = 4 → w.toNode = 5 := by decide
    have henters := find?_some hw
    have hto : w.toNode = m.id := (Wire.enters_iff.mp henters).1
    exact hresolved m input hm (hto ▸ hfeeds w (mem_of_find?_eq_some hw) (hid ▸ hfrom))

end Sketchflow.Compile
