import Mathlib.Data.List.Nodup
import Mathlib.Data.List.Perm.Subperm
import Sketchflow.Proofs.Compile.Outline
import Sketchflow.Proofs.Compile.Resolve

/-!
# The flow of a graph

A path goes from a node to the node at the end of the first flow wire out of an output (`Leads`).
Where no two flow wires lead to one node, the paths from a node that no path leads to form a tree.

* `onward` are the outputs that a path takes, `Root` is a node that no path leads to.
* `Trail` is a path back to a root; **`Trail.nodup`**: it meets no node twice.
* `Traces` says that an outline holds all that follows a node; **`outlineWithin_traces`**: in an
  orderly graph the outline of a node does, and no node is missing or met again.
-/

namespace Sketchflow.Compile

open Graph List

variable {g : Graph}

/-! ## Steps of a path -/

/-- The node that follows an output of the node with a number. -/
def target (g : Graph) (id : Int) (port : Option String) : Option Node := do
  let port ← port
  let w ← g.flowFrom? (.int id) (.str port)
  g.node? (.int w.toNode)

def Leads (g : Graph) (id : Int) (port : String) (n : Node) : Prop :=
  target g id (some port) = some n

/-- The outputs that a path takes from a node of a type. -/
def onward (type : String) : List String :=
  ((action? type).bind Action.body).toList ++ ((action? type).bind Action.other).toList
    ++ (nextPort type).toList

/-- A path leads from one node to the next. -/
def Next (g : Graph) (m n : Node) : Prop :=
  ∃ port ∈ onward m.type, Leads g m.id port n

/-- What a graph is like whose flow wires make trees. -/
structure Orderly (g : Graph) : Prop where
  distinct : (g.nodes.map Node.id).Nodup
  typed : ∀ n ∈ g.nodes, Typed n
  /-- A node has the inputs that its steps ask for. -/
  equipped : ∀ n ∈ g.nodes, ∀ a, action? n.type = some a → ∀ name ∈ a.asks,
    ∃ p ∈ n.dataInputs, p.id = name
  /-- Flow wires lead to nodes that are there. -/
  joined : ∀ id port w, g.flowFrom? (.int id) (.str port) = some w →
    ∃ n, g.node? (.int w.toNode) = some n
  /-- No path leads to a start node. -/
  entry : ∀ id port n, Leads g id port n → n.type ≠ "start"
  /-- The name of a function is a text or a variable. -/
  titled : ∀ f ∈ g.nodes, f.type = "function" → ∀ s m, feed g f "name" = .source s m →
    s = .text ∨ s = .namedValue
  /-- No two outputs lead to one node. -/
  single : ∀ id id' port port' n, Leads g id port n → Leads g id' port' n → id = id' ∧ port = port'

theorem mem_of_target {id : Int} {port : Option String} {n : Node}
    (h : target g id port = some n) : n ∈ g.nodes := by
  simp only [target, Option.bind_eq_bind, Option.bind_eq_some_iff] at h
  obtain ⟨_, _, w, -, hn⟩ := h
  exact mem_of_node? hn

/-! ## Trails -/

/-- A node that no path leads to. -/
def Root (g : Graph) (r : Node) : Prop :=
  r ∈ g.nodes ∧ ∀ m ∈ g.nodes, ¬Next g m r

/-- A path back to a root, last node first. -/
inductive Trail (g : Graph) : List Node → Prop
  | root {r : Node} (h : Root g r) : Trail g [r]
  | step {m n : Node} {rest : List Node} (h : Trail g (m :: rest)) (hn : Next g m n) :
    Trail g (n :: m :: rest)

theorem Trail.subset {l : List Node} (h : Trail g l) : l ⊆ g.nodes := by
  induction h with
  | root h => simpa using h.1
  | step h hn ih =>
    obtain ⟨port, -, hl⟩ := hn
    exact cons_subset.mpr ⟨mem_of_target hl, ih⟩

/-- On a trail each node but the last is what its neighbour leads to. -/
theorem Trail.exists_next {n : Node} {l : List Node} (h : Trail g l) (hn : n ∈ l) :
    Root g n ∨ ∃ m ∈ l.tail, Next g m n := by
  induction h with
  | root h =>
    obtain rfl := mem_singleton.mp hn
    exact .inl h
  | @step m n' rest h hnext ih =>
    rcases mem_cons.mp hn with rfl | hn
    · exact .inr ⟨m, mem_cons_self, hnext⟩
    · rcases ih hn with hr | ⟨k, hk, hkn⟩
      · exact .inl hr
      · exact .inr ⟨k, mem_of_mem_tail hk, hkn⟩

/-- **A trail meets no node twice.** -/
theorem Trail.nodup (hg : Orderly g) {l : List Node} (h : Trail g l) : l.Nodup := by
  induction h with
  | root h => exact nodup_singleton _
  | @step m n rest h hnext ih =>
    refine nodup_cons.mpr ⟨fun hn => ?_, ih⟩
    have hm : m ∈ g.nodes := h.subset mem_cons_self
    rcases h.exists_next hn with hroot | ⟨k, hk, hkn⟩
    · exact hroot.2 m hm hnext
    · -- The node before `n` on the trail is the one that leads to it again.
      obtain ⟨port, -, hl⟩ := hnext
      obtain ⟨port', -, hl'⟩ := hkn
      have hkm := inj_on_of_nodup_map hg.distinct (h.subset (mem_cons_of_mem _ hk)) hm
        (hg.single _ _ _ _ n hl' hl).1
      exact (nodup_cons.mp ih).1 (hkm ▸ hk)

theorem Trail.length_le (hg : Orderly g) {l : List Node} (h : Trail g l) :
    l.length ≤ g.nodes.length :=
  (subperm_of_subset (h.nodup hg) h.subset).length_le

/-! ## Complete outlines -/

/-- An outline holds a node and all that follows it. -/
inductive Traces (g : Graph) : Option Node → Outline → Prop
  | stop : Traces g none .stop
  | node {n : Node} {notes : List String} {r : Inputs} {body other next : Outline}
      (hb : Traces g (target g n.id ((action? n.type).bind Action.body)) body)
      (ho : Traces g (target g n.id ((action? n.type).bind Action.other)) other)
      (hn : Traces g (target g n.id (nextPort n.type)) next) :
    Traces g (some n) (.node n notes r body other next)

/-- The context between the steps of a compilation: `trail` is being written and nothing is being
resolved. -/
structure Between (g : Graph) (trail : List Int) (c : Context) : Prop where
  emitting : c.emitting = trail
  resolving : c.resolving = []
  recalls : Recalls g c

theorem Between.keeps {trail : List Int} {c c' : Context} (h : Between g trail c) (hk : Keeps c c')
    (hr : Recalls g c') : Between g trail c' :=
  ⟨hk.emitting.trans h.emitting, hk.resolving.trans h.resolving, hr⟩

theorem run_bind {α β : Type} {m : Run α} {f : α → Run β} {c c' : Context} {a : α}
    (h : m c = .ok (a, c')) : (m >>= f) c = f a c' := by
  show (m c).bind (fun r => f r.1 r.2) = _
  rw [h]
  rfl

/-- A survey that outlines nodes completely where `trail` is being written. -/
def Completes (g : Graph) (survey : Survey) (trail : List Int) (n : Node) (path : List Int) :
    Prop :=
  ∀ c, Between g trail c → ∃ o c', survey n path c = .ok (o, c') ∧ Traces g (some n) o ∧
    Between g trail c' ∧ c'.defined = c.defined

theorem along_traces (hg : Orderly g) (survey : Survey) {trail : List Int} {id : Int}
    {port : Option String} (path : List Int)
    (h : ∀ next, target g id port = some next → Completes g survey trail next path) {c : Context}
    (hc : Between g trail c) :
    ∃ o c', along g survey id port path c = .ok (o, c') ∧ Traces g (target g id port) o ∧
      Between g trail c' ∧ c'.defined = c.defined := by
  cases port with
  | none => exact ⟨.stop, c, rfl, .stop, hc, rfl⟩
  | some port =>
    cases hw : g.flowFrom? (.int id) (.str port) with
    | none =>
      have ht : target g id (some port) = none := by simp [target, hw]
      exact ⟨.stop, c, by simp only [along, hw]; rfl, ht ▸ .stop, hc, rfl⟩
    | some w =>
      obtain ⟨next, hnext⟩ := hg.joined id port w hw
      have ht : target g id (some port) = some next := by simp [target, hw, hnext]
      obtain ⟨o, c', hs, ho, hc', hd⟩ := h next ht c hc
      exact ⟨o, c', by simp only [along, hw, hnext]; exact hs, ht ▸ ho, hc', hd⟩

theorem demandAll_ok {r : Inputs} {names : List String} (h : ∀ name ∈ names, name ∈ r.map (·.1))
    (c : Context) : demandAll r names c = .ok ((), c) := by
  induction names with
  | nil => rfl
  | cons name rest ih =>
    obtain ⟨text, ht⟩ : ∃ text, r.lookup name = some text := by
      cases hl : r.lookup name with
      | some text => exact ⟨text, rfl⟩
      | none =>
        obtain ⟨e, he, hn⟩ := mem_map.mp (h name mem_cons_self)
        have := lookup_eq_none_iff.mp hl e he
        simp [hn] at this
    have hd : demand r name c = .ok ((), c) := by
      simp only [demand, need, ht]
      rfl
    rw [demandAll, run_bind hd]
    exact ih fun name' h' => h name' (mem_cons_of_mem _ h')

/-- **The outline of a node holds all that follows it**, if the node ends a trail that is being
written. No node is missing and none is met again. -/
theorem outlineWithin_traces (hg : Orderly g) (bound : Nat) : ∀ (n : Node) (trail : List Node),
    Trail g (n :: trail) → g.nodes.length < bound + trail.length →
    ∀ path, path ⊆ trail.map Node.id →
      Completes g (outlineWithin g bound) (trail.map Node.id) n path := by
  induction bound with
  | zero =>
    intro n trail ht hlt
    have := ht.length_le hg
    simp only [length_cons] at this
    omega
  | succ bound ih =>
    intro n trail ht hlt path hpath c hc
    have hn : n ∈ g.nodes := ht.subset mem_cons_self
    have hid : n.id ∉ trail.map Node.id := fun h => by
      obtain ⟨m, hm, he⟩ := mem_map.mp h
      have hmn := inj_on_of_nodup_map hg.distinct (ht.subset (mem_cons_of_mem _ hm)) hn he
      exact (nodup_cons.mp (ht.nodup hg)).1 (hmn ▸ hm)
    have hnew : (path.contains n.id || c.emitting.contains n.id) = false := by
      have hout : n.id ∉ path := fun h => hid (hpath h)
      rw [hc.emitting]
      simpa [hout] using hid
    -- Whatever follows the node ends a longer trail.
    have hsub : ∀ port : Option String, (∀ p, port = some p → p ∈ onward n.type) → ∀ path,
        path ⊆ (n :: trail).map Node.id → ∀ next, target g n.id port = some next →
          Completes g (outlineWithin g bound) ((n :: trail).map Node.id) next path := by
      intro port hport path hpath next hnext
      cases port with
      | none => cases hnext
      | some p =>
        exact ih next (n :: trail) (ht.step ⟨p, hport p rfl, hnext⟩)
          (by simp only [length_cons]; omega) path hpath
    have hnil : ([] : List Int) ⊆ (n :: trail).map Node.id := nil_subset _
    have hcons : n.id :: path ⊆ (n :: trail).map Node.id := cons_subset_cons _ hpath
    let c₁ : Context := { c with emitting := n.id :: c.emitting }
    have hc₁ : Between g ((n :: trail).map Node.id) c₁ :=
      ⟨congrArg (n.id :: ·) hc.emitting, hc.resolving, hc.recalls⟩
    obtain ⟨r, c₂, h₂, hk₂, hr₂, hnames, -⟩ :=
      resolveInputs_spec hg.distinct hg.typed hn n.dataInputs c₁ hc₁.recalls hc₁.resolving
    let c₃ : Context := { c₂ with notes := [] }
    have hc₃ : Between g ((n :: trail).map Node.id) c₃ :=
      hc₁.keeps ⟨hk₂.emitting, hk₂.defined, hk₂.resolving⟩ hr₂
    have hneed : ∀ name ∈ ((action? n.type).map Action.asks).getD [], name ∈ r.map (·.1) := by
      intro name hname
      cases ha : action? n.type with
      | none => simp [ha] at hname
      | some a =>
        obtain ⟨p, hp, rfl⟩ := hg.equipped n hn a ha name (by simpa [ha] using hname)
        exact hnames ▸ mem_map_of_mem hp
    obtain ⟨body, c₄, h₄, hb, hc₄, hd₄⟩ := along_traces hg _ _
      (hsub ((action? n.type).bind Action.body) (fun p hp => by simp [onward, hp]) [] hnil) hc₃
    obtain ⟨other, c₅, h₅, ho, hc₅, hd₅⟩ := along_traces hg _ _
      (hsub ((action? n.type).bind Action.other) (fun p hp => by simp [onward, hp]) [] hnil) hc₄
    obtain ⟨next, c₆, h₆, hx, hc₆, hd₆⟩ := along_traces hg _ _
      (hsub (nextPort n.type) (fun p hp => by simp [onward, hp]) (n.id :: path) hcons) hc₅
    refine ⟨.node n c₂.notes r body other next, { c₆ with emitting := c₆.emitting.erase n.id }, ?_,
      .node hb ho hx, ⟨?_, hc₆.resolving, hc₆.recalls⟩, ?_⟩
    · have hget : (get : Run Context) c = .ok (c, c) := rfl
      have hpush : (modify fun c => { c with emitting := n.id :: c.emitting } : Run Unit) c =
          .ok ((), c₁) := rfl
      have hdrain : drainNotes c₂ = .ok (c₂.notes, c₃) := rfl
      rw [outlineWithin, run_bind hget, hnew, if_neg Bool.false_ne_true, run_bind hpush,
        run_bind h₂, run_bind hdrain, run_bind (demandAll_ok hneed c₃), run_bind h₄, run_bind h₅,
        run_bind h₆]
      rfl
    · rw [hc₆.emitting]
      simp
    · exact hd₆.trans (hd₅.trans (hd₄.trans hk₂.defined))

end Sketchflow.Compile
