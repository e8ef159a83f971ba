import Sketchflow.Proofs.Graph.Lookup

/-!
# Every graph is sound

An `Edit` is a call on a graph with any values as its arguments, and a history is a list of edits,
each on the palette of its moment. `Sound` says what holds of a graph after every history:

* nodes are numbered apart, from one on and below the next number;
* a wire joins ports of existing nodes that fit, carries their kinds and types, and as a flow wire
  does not lead back to its node (`Joins`);
* no two wires enter one input.

Each edit keeps `Sound` by its own lemma. Edits of one node are covered by `Sound.of_shape`: they
change nothing that `Sound` speaks of. Loading builds a graph up from nothing, and the two loops
keep the halves of `Sound` that do not mention the next number (`Numbered` and `Wired`).
-/

namespace Sketchflow.Graph

open List

variable {n n' source target : Node} {p : Palette} {input out : Port} {entry : Value} {w : Wire}

/-! ## Histories -/

/-- A call on a graph, with loose values as its arguments. -/
inductive Edit where
  | create (type x y : Value)
  | remove (id : Value)
  | move (id x y : Value)
  | setProperty (id key v : Value)
  | setDefault (id port v : Value)
  /-- `tag` is what the identifier of the new wire ends with. -/
  | connect (tag : String) (fromNode fromPort toNode toPort : Value)
  | disconnect (id : Value)
  | clear
  | load (doc : Value)

/-- The graph after an edit on a palette. An edit that fails leaves what was done before the
failure. -/
def Edit.apply (p : Palette) (g : Graph) : Edit → Graph
  | .create type x y =>
    match g.createBy p type x y with
    | .ok (_, g) => g
    | .error _ => g
  | .remove id => (g.remove id).2
  | .move id x y => (g.move id x y).2
  | .setProperty id key v =>
    match g.setPropertyBy id key v with
    | .ok (_, g) => g
    | .error _ => g
  | .setDefault id port v => (g.setDefault id port v).2
  | .connect tag fromNode fromPort toNode toPort =>
    (g.connect tag fromNode fromPort toNode toPort).2
  | .disconnect id => (g.disconnect id).2
  | .clear => empty
  | .load doc => (Graph.load p doc).1

def afterAll (g : Graph) (history : List (Palette × Edit)) : Graph :=
  history.foldl (fun g step => step.2.apply step.1 g) g

/-! ## Soundness -/

/-- A wire joins two ports and says so. -/
structure Joins (g : Graph) (w : Wire) (source target : Node) (out input : Port) : Prop where
  source_mem : source ∈ g.nodes
  target_mem : target ∈ g.nodes
  source_id : source.id = w.fromNode
  target_id : target.id = w.toNode
  output_eq : source.output? w.fromPort = some out
  input_eq : target.input? w.toPort = some input
  kinds : out.kind.same input.kind = true
  types : out.kind.isData = true → out.dataType.isAny = true ∨ input.dataType.isAny = true ∨
    out.dataType.same input.dataType = true
  fromKind : w.fromKind = out.kind
  toKind : w.toKind = input.kind
  fromType : w.fromType = if out.kind.isData then out.dataType.toDoc else .null
  toType : w.toType = if out.kind.isData then input.dataType.toDoc else .null
  apart : w.isFlow = true → w.fromNode ≠ w.toNode

/-- Nodes are numbered apart, from one on. -/
structure Numbered (g : Graph) : Prop where
  distinct : (g.nodes.map Node.id).Nodup
  positive : ∀ n ∈ g.nodes, 1 ≤ n.id

/-- Every wire joins two ports, and no two enter one input. -/
structure Wired (g : Graph) : Prop where
  joined : ∀ w ∈ g.wires, ∃ source target out input, g.Joins w source target out input
  single : g.wires.Pairwise fun v w => ¬(v.toNode = w.toNode ∧ v.toPort = w.toPort)

/-- What holds of a graph after every history. -/
structure Sound (g : Graph) : Prop extends Numbered g, Wired g where
  below : ∀ n ∈ g.nodes, n.id < g.nextId
  next : 1 ≤ g.nextId

variable {g g' : Graph}

theorem Wired.wire_eq (h : g.Wired) {v : Wire} (hv : v ∈ g.wires) (hw : w ∈ g.wires)
    (hn : v.toNode = w.toNode) (hp : v.toPort = w.toPort) : v = w := by
  obtain ⟨i, hi, rfl⟩ := mem_iff_getElem.mp hv
  obtain ⟨j, hj, rfl⟩ := mem_iff_getElem.mp hw
  have hpairs := pairwise_iff_getElem.mp h.single
  rcases Nat.lt_trichotomy i j with hij | rfl | hji
  · exact absurd ⟨hn, hp⟩ (hpairs i j hi hj hij)
  · rfl
  · exact absurd ⟨hn.symm, hp.symm⟩ (hpairs j i hj hi hji)

theorem empty_sound : empty.Sound where
  distinct := nodup_nil
  positive := by simp [empty]
  joined := by simp [empty]
  single := List.Pairwise.nil
  below := by simp [empty]
  next := by simp [empty]

/-! ## Wires that stay -/

theorem Joins.of_mem
    (h : g.Joins w source target out input) (hs : source ∈ g'.nodes) (ht : target ∈ g'.nodes) :
    g'.Joins w source target out input :=
  { h with source_mem := hs, target_mem := ht }

theorem Joins.of_nodes_subset (h : g.Joins w source target out input) (hn : g.nodes ⊆ g'.nodes) :
    g'.Joins w source target out input :=
  h.of_mem (hn h.source_mem) (hn h.target_mem)

theorem Wired.sublist (h : g.Wired) (hn : g.nodes ⊆ g'.nodes) (hw : g'.wires.Sublist g.wires) :
    g'.Wired where
  joined w hm := by
    obtain ⟨source, target, out, input, hj⟩ := h.joined w (hw.subset hm)
    exact ⟨source, target, out, input, hj.of_nodes_subset hn⟩
  single := h.single.sublist hw

theorem exists_shape_eq (h : g'.nodes.map Node.shape = g.nodes.map Node.shape)
    (hn : n ∈ g.nodes) : ∃ n' ∈ g'.nodes, n'.shape = n.shape := by
  have : n.shape ∈ g'.nodes.map Node.shape := h ▸ mem_map_of_mem hn
  simpa using this

theorem id_of_shape (h : n'.shape = n.shape) : n'.id = n.id := by
  have := congrArg Node.id h
  exact this

theorem inputs_of_shape (h : n'.shape = n.shape) :
    n'.inputs.map Port.shape = n.inputs.map Port.shape :=
  congrArg Node.inputs h

theorem outputs_of_shape (h : n'.shape = n.shape) : n'.outputs = n.outputs := by
  have := congrArg Node.outputs h
  exact this

theorem Joins.of_shape (h : g.Joins w source target out input) (g' : Graph)
    (hn : g'.nodes.map Node.shape = g.nodes.map Node.shape) :
    ∃ source' target' input', g'.Joins w source' target' out input' := by
  obtain ⟨source', hs, hss⟩ := exists_shape_eq hn h.source_mem
  obtain ⟨target', ht, hts⟩ := exists_shape_eq hn h.target_mem
  obtain ⟨input', hi, his⟩ := Port.find?_of_shape_eq (inputs_of_shape hts) h.input_eq
  obtain ⟨hk, hd⟩ := Port.kind_of_shape his
  exact ⟨source', target', input',
    { source_mem := hs
      target_mem := ht
      source_id := (id_of_shape hss).trans h.source_id
      target_id := (id_of_shape hts).trans h.target_id
      output_eq := by
        have := h.output_eq
        rwa [Node.output?, ← outputs_of_shape hss] at this
      input_eq := hi
      kinds := hk ▸ h.kinds
      types := hd ▸ h.types
      fromKind := h.fromKind
      toKind := h.toKind.trans hk.symm
      fromType := h.fromType
      toType := by rw [hd]; exact h.toType
      apart := h.apart }⟩

/-- **Soundness sees only the shape of nodes.** -/
theorem Sound.of_shape (h : g.Sound) (hn : g'.nodes.map Node.shape = g.nodes.map Node.shape)
    (hw : g'.wires = g.wires) (hi : g'.nextId = g.nextId) : g'.Sound where
  distinct := by
    have hids : ∀ l : List Node, l.map Node.id = (l.map Node.shape).map Node.id := fun l => by
      rw [map_map]
      rfl
    rw [hids, hn, ← hids]
    exact h.distinct
  positive n hm := by
    obtain ⟨n', hm', hs⟩ := exists_shape_eq hn.symm hm
    exact id_of_shape hs ▸ h.positive n' hm'
  joined w hm := by
    obtain ⟨source, target, out, input, hj⟩ := h.joined w (hw ▸ hm)
    obtain ⟨source', target', input', hj'⟩ := hj.of_shape g' hn
    exact ⟨source', target', out, input', hj'⟩
  single := hw ▸ h.single
  below n hm := by
    obtain ⟨n', hm', hs⟩ := exists_shape_eq hn.symm hm
    rw [hi, ← id_of_shape hs]
    exact h.below n' hm'
  next := hi ▸ h.next

/-! ## Edits of nodes -/

theorem seed_id (n : Node) : (seed n).id = n.id := by
  unfold seed
  split_ifs
  · split <;> rfl
  · rfl
  · rfl

theorem create_sound (h : g.Sound) {type : String} {x y : Value}
    (hc : g.create p type x y = .ok (n, g')) : g'.Sound := by
  unfold create at hc
  split at hc
  · cases hc
  · rename_i b _
    obtain ⟨rfl, rfl⟩ : _ = n ∧ _ = g' := by simpa using hc
    have hid : (seed (instantiate b g.nextId type x y)).id = g.nextId := seed_id _
    refine ⟨⟨?_, ?_⟩, h.toWired.sublist (subset_append_left _ _) (List.Sublist.refl _), ?_, ?_⟩
    · rw [map_append, nodup_append']
      refine ⟨h.distinct, by simp, ?_⟩
      simp only [map_cons, map_nil, disjoint_singleton, mem_map, not_exists,
        not_and]
      intro m hm he
      have := h.below m hm
      omega
    · intro m hm
      rcases mem_append.mp hm with hm | hm
      · exact h.positive m hm
      · rw [mem_singleton.mp hm, hid]
        exact h.next
    · intro m hm
      simp only
      rcases mem_append.mp hm with hm | hm
      · have := h.below m hm
        omega
      · rw [mem_singleton.mp hm, hid]
        omega
    · have := h.next
      simp only
      omega

theorem createBy_eq_ok {type x y : Value}
    (hc : g.createBy p type x y = .ok (n, g')) : ∃ name, g.create p name x y = .ok (n, g') := by
  unfold createBy at hc
  split at hc
  · cases hc
  · cases hc
  · rename_i name _
    split at hc
    · rename_i hok
      cases hc
      exact ⟨name, hok⟩
    · cases hc

theorem updateNode_go_shape (id : Value) (f : Node → Node) (hf : ∀ n, (f n).shape = n.shape) :
    ∀ l : List Node, (updateNode.go id f l).map Node.shape = l.map Node.shape
  | [] => rfl
  | n :: rest => by
    unfold updateNode.go
    split_ifs
    · simp [hf]
    · simp [updateNode_go_shape id f hf rest]

theorem updateNode_sound (h : g.Sound) (id : Value) {f : Node → Node}
    (hf : ∀ n, (f n).shape = n.shape) : (g.updateNode id f).2.Sound := by
  unfold updateNode
  split
  · exact h
  · exact h.of_shape (updateNode_go_shape id f hf g.nodes) rfl rfl

theorem forall_updateNode {P : Node → Prop} (id : Value) {f : Node → Node}
    (hf : ∀ n, P n → P (f n)) (h : ∀ n ∈ g.nodes, P n) :
    ∀ n ∈ (g.updateNode id f).2.nodes, P n := by
  have hgo : ∀ l : List Node, (∀ n ∈ l, P n) → ∀ n ∈ updateNode.go id f l, P n := by
    intro l hl
    induction l with
    | nil => exact hl
    | cons m rest ih =>
      obtain ⟨hm, hrest⟩ := forall_mem_cons.mp hl
      unfold updateNode.go
      split
      · exact forall_mem_cons.mpr ⟨hf m hm, hrest⟩
      · exact forall_mem_cons.mpr ⟨hm, ih hrest⟩
  unfold updateNode
  split
  · exact h
  · exact hgo g.nodes h

theorem updateNode_wires (id : Value) (f : Node → Node) :
    (g.updateNode id f).2.wires = g.wires := by
  unfold updateNode
  split <;> rfl

theorem move_sound (h : g.Sound) (id x y : Value) : (g.move id x y).2.Sound :=
  updateNode_sound h id fun _ => rfl

theorem setPropertyBy_eq_ok {id key v : Value} {b : Bool}
    (hs : g.setPropertyBy id key v = .ok (b, g')) :
    g' = g ∨ ∃ name, g' = (g.setProperty id name v).2 := by
  unfold setPropertyBy at hs
  split at hs
  · cases hk : key.checkKey with
    | error f => simp [hk, bind, Except.bind] at hs
    | ok _ =>
      simp only [hk, bind, Except.bind, Except.ok.injEq] at hs
      exact Or.inr ⟨_, by rw [hs]⟩
  · cases hs
    exact Or.inl rfl

theorem setPortDefault_shape (port v : Value) :
    ∀ l : List Port, (setPortDefault port v l).map Port.shape = l.map Port.shape
  | [] => rfl
  | p :: rest => by
    unfold setPortDefault
    split_ifs
    · rfl
    · simp [setPortDefault_shape port v rest]

theorem withDefault_shape (port v : Value) (n : Node) : (withDefault port v n).shape = n.shape := by
  simp [withDefault, Node.shape, setPortDefault_shape]

theorem setDefault_sound (h : g.Sound) (id port v : Value) : (g.setDefault id port v).2.Sound := by
  unfold setDefault
  split
  · exact h
  · exact updateNode_sound h id (withDefault_shape port v)

theorem remove_sound (h : g.Sound) (id : Value) : (g.remove id).2.Sound := by
  unfold remove
  split
  · exact h
  · have hsub : (g.nodes.eraseP fun n => id.hasId n.id).Sublist g.nodes := eraseP_sublist
    refine ⟨⟨h.distinct.sublist (hsub.map _), fun n hn => h.positive n (hsub.subset hn)⟩,
      ⟨?_, h.single.sublist filter_sublist⟩, fun n hn => h.below n (hsub.subset hn), h.next⟩
    -- A wire that is not at the node keeps its ends: only nodes of that number are taken away.
    intro w hw
    obtain ⟨hw, hu⟩ := mem_filter.mp hw
    simp only [Wire.touches, Bool.not_eq_true', Bool.or_eq_false_iff] at hu
    obtain ⟨source, target, out, input, hj⟩ := h.joined w hw
    refine ⟨source, target, out, input, hj.of_mem ?_ ?_⟩
    · exact (mem_eraseP_of_neg (by simp [hj.source_id, hu.1])).mpr hj.source_mem
    · exact (mem_eraseP_of_neg (by simp [hj.target_id, hu.2])).mpr hj.target_mem

/-! ## Edits of wires -/

theorem disconnect_sound (h : g.Sound) (id : Value) : (g.disconnect id).2.Sound :=
  { h with
    toWired := h.toWired.sublist (List.Subset.refl _) filter_sublist }

theorem mark_joins
    (hc : g.check (.int w.fromNode) (.str w.fromPort) (.int w.toNode) (.str w.toPort) =
      .ok (out, input)) :
    ∃ source target, g.Joins (mark w out input) source target out input := by
  obtain ⟨source, target, hs, ht, ho, hi, hfit⟩ := check_eq_ok.mp hc
  rw [Port.findValue?_str] at ho hi
  exact ⟨source, target,
    { source_mem := mem_of_node? hs
      target_mem := mem_of_node? ht
      source_id := node?_id hs
      target_id := node?_id ht
      output_eq := ho
      input_eq := hi
      kinds := hfit.kinds
      types := hfit.types
      fromKind := rfl
      toKind := rfl
      fromType := rfl
      toType := rfl
      apart := fun hf => of_decide_eq_false (Value.same_int _ _ ▸ hfit.apart hf) }⟩

theorem Wired.push (h : g.Wired)
    (hc : g.check (.int w.fromNode) (.str w.fromPort) (.int w.toNode) (.str w.toPort) =
      .ok (out, input))
    (hfree : ∀ v ∈ g.wires, ¬(v.toNode = w.toNode ∧ v.toPort = w.toPort)) :
    Wired { g with wires := g.wires ++ [mark w out input] } where
  joined v hv := by
    rcases mem_append.mp hv with hv | hv
    · obtain ⟨source, target, out', input', hj⟩ := h.joined v hv
      exact ⟨source, target, out', input', hj.of_nodes_subset (List.Subset.refl _)⟩
    · obtain ⟨source, target, hj⟩ := mark_joins hc
      rw [mem_singleton.mp hv]
      exact ⟨source, target, out, input, hj.of_nodes_subset (List.Subset.refl _)⟩
  single := by
    refine pairwise_append.mpr ⟨h.single, pairwise_singleton _ _, ?_⟩
    intro v hv u hu
    rw [mem_singleton.mp hu]
    exact hfree v hv

theorem check_wires (wires : List Wire) (r : Option Refusal)
    (fromNode fromPort toNode toPort : Value) :
    check { g with wires := wires, refusal := r } fromNode fromPort toNode toPort =
      g.check fromNode fromPort toNode toPort := rfl

theorem join_eq_ok {id fromNode fromPort toNode toPort fromType toType : Value}
    {fromKind toKind : PortKind}
    (h : Wire.join id fromNode fromPort toNode toPort fromKind toKind fromType toType = .ok w) :
    fromNode = .int w.fromNode ∧ fromPort = .str w.fromPort ∧ toNode = .int w.toNode ∧
      toPort = .str w.toPort ∧ w.id = id := by
  unfold Wire.join at h
  split at h
  · cases h
    exact ⟨rfl, rfl, rfl, rfl, rfl⟩
  · split at h <;> cases h

theorem connect_sound (h : g.Sound) (tag : String) (fromNode fromPort toNode toPort : Value) :
    (g.connect tag fromNode fromPort toNode toPort).2.Sound := by
  unfold connect
  split
  · exact { h with toWired := h.toWired.sublist (List.Subset.refl _) (List.Sublist.refl _) }
  · rename_i out input hc
    have hfew : Wired { g with
        wires := g.wires.filter fun w => !w.enters toNode toPort, refusal := none } :=
      h.toWired.sublist (List.Subset.refl _) filter_sublist
    dsimp only
    split_ifs
    · exact { h with toWired := h.toWired.sublist (List.Subset.refl _) filter_sublist }
    · split
      · exact { h with toWired := hfew }
      · rename_i w hj
        obtain ⟨rfl, rfl, rfl, rfl, -⟩ := join_eq_ok hj
        refine { h with toWired := hfew.push ((check_wires _ _ _ _ _ _).trans hc) ?_ }
        intro v hv
        have := (mem_filter.mp hv).2
        rwa [Bool.not_eq_true', ← Bool.not_eq_true, Wire.enters_iff] at this

/-! ## Loading -/

theorem loadAll_keeps {P : Graph → Prop} (step : Value → Graph → Except Warning Graph)
    (hstep : ∀ entry g g', P g → step entry g = .ok g' → P g') :
    ∀ (entries : List Value) (g : Graph), P g → P (loadAll step entries g).1
  | [], _, h => h
  | entry :: rest, g, h => by
    unfold loadAll
    split
    · rename_i g' hok
      exact loadAll_keeps step hstep rest g' (hstep entry g g' h hok)
    · exact loadAll_keeps step hstep rest g h

theorem migrate_id (b : Blueprint) (saved : Node) : (migrate b saved).id = saved.id :=
  seed_id _

theorem ofDoc_positive {doc : Value} (h : Node.ofDoc doc = .ok n) : 1 ≤ n.id := by
  unfold Node.ofDoc at h
  split at h
  · split at h
    · split_ifs at h with h1
      split at h
      · cases h
        simp only [Node.ofFields]
        omega
      · cases h
    · cases h
  · cases h

/-- A node that is loaded: a well-formed entry of a registered type and a number of its own. -/
theorem loadNode_eq_ok :
    loadNode p entry g = .ok g' ↔ ∃ saved b, Node.ofDoc entry = .ok saved ∧
      g.node? (.int saved.id) = none ∧ p.find? saved.type = some b ∧
      g' = { g with nodes := g.nodes ++ [migrate b saved] } := by
  unfold loadNode
  constructor
  · intro h
    split at h
    · cases h
    · rename_i saved hd
      split_ifs at h with hn
      split at h
      · cases h
      · rename_i b hb
        cases h
        exact ⟨saved, b, hd, by simpa using hn, hb, rfl⟩
  · rintro ⟨saved, b, hd, hn, hb, rfl⟩
    simp [hd, hn, hb]

/-- A wire that is loaded: a well-formed entry that `check` allows, into a free input. -/
theorem loadWire_eq_ok :
    loadWire entry g = .ok g' ↔ ∃ w out input, Wire.ofDoc entry = .ok w ∧
      g.check (.int w.fromNode) (.str w.fromPort) (.int w.toNode) (.str w.toPort) =
        .ok (out, input) ∧
      g.wireInto? (.int w.toNode) (.str w.toPort) = none ∧
      g' = { g with wires := g.wires ++ [mark w out input] } := by
  unfold loadWire
  constructor
  · intro h
    split at h
    · cases h
    · rename_i w hd
      dsimp only at h
      split at h
      · cases h
      · split at h
        · cases h
        · rename_i out input hc
          split_ifs at h with hin
          cases h
          exact ⟨w, out, input, hd, hc, by simpa using hin, rfl⟩
  · rintro ⟨w, out, input, hd, hc, hin, rfl⟩
    obtain ⟨source, target, hs, ht, -⟩ := check_eq_ok.mp hc
    simp [hd, hs, ht, hc, hin]

theorem loadNode_numbered (h : g.Numbered) (hl : loadNode p entry g = .ok g') : g'.Numbered := by
  obtain ⟨saved, b, hd, hn, -, rfl⟩ := loadNode_eq_ok.mp hl
  refine ⟨?_, ?_⟩
  · rw [map_append, nodup_append']
    refine ⟨h.distinct, by simp, ?_⟩
    simp only [map_cons, map_nil, disjoint_singleton, mem_map, not_exists,
      not_and]
    intro m hm he
    have hno := find?_eq_none.mp hn m hm
    rw [he, migrate_id] at hno
    simp at hno
  · intro m hm
    rcases mem_append.mp hm with hm | hm
    · exact h.positive m hm
    · rw [mem_singleton.mp hm, migrate_id]
      exact ofDoc_positive hd

theorem loadWire_wired (h : g.Wired) (hl : loadWire entry g = .ok g') :
    g'.Wired ∧ g'.nodes = g.nodes := by
  obtain ⟨w, out, input, -, hc, hin, rfl⟩ := loadWire_eq_ok.mp hl
  refine ⟨h.push hc fun v hv => ?_, rfl⟩
  have := find?_eq_none.mp hin v hv
  rwa [Wire.enters_iff] at this

theorem foldl_max_le (l : List Node) (m : Int) :
    m ≤ l.foldl (fun m n => max m n.id) m ∧ ∀ n ∈ l, n.id ≤ l.foldl (fun m n => max m n.id) m := by
  induction l generalizing m with
  | nil => simp
  | cons n rest ih =>
    obtain ⟨h1, h2⟩ := ih (max m n.id)
    simp only [foldl_cons, mem_cons]
    refine ⟨by omega, ?_⟩
    rintro k (rfl | hk)
    · omega
    · exact h2 k hk

theorem lt_floorId (nodes : List Node) : ∀ n ∈ nodes, n.id < floorId nodes := by
  intro n hn
  cases nodes with
  | nil => simp at hn
  | cons m rest =>
    obtain ⟨h1, h2⟩ := foldl_max_le rest m.id
    simp only [floorId]
    rcases mem_cons.mp hn with rfl | hn
    · omega
    · have := h2 n hn
      omega

theorem one_le_floorId {nodes : List Node} (h : ∀ n ∈ nodes, 1 ≤ n.id) : 1 ≤ floorId nodes := by
  cases nodes with
  | nil => simp [floorId]
  | cons m rest =>
    have h1 := lt_floorId (m :: rest) m mem_cons_self
    have h2 := h m mem_cons_self
    omega

theorem floorId_le_nextIdOf (fields : Fields) (nodes : List Node) :
    floorId nodes ≤ nextIdOf fields nodes := by
  unfold nextIdOf
  split <;> omega

/-- **Whatever is loaded is sound.** -/
theorem load_sound (p : Palette) (doc : Value) : (load p doc).1.Sound := by
  unfold load
  split
  · exact empty_sound
  · rename_i fields
    dsimp only
    -- First the nodes, without any wire; then the wires, between the same nodes.
    have hnodes : ∀ es : List Value,
        (loadAll (loadNode p) es empty).1.Numbered ∧ (loadAll (loadNode p) es empty).1.wires = [] :=
      fun es => loadAll_keeps (P := fun g => g.Numbered ∧ g.wires = []) (loadNode p)
        (fun entry g g' h hl => ⟨loadNode_numbered h.1 hl, by
          obtain ⟨_, _, _, _, _, rfl⟩ := loadNode_eq_ok.mp hl
          exact h.2⟩) es empty ⟨empty_sound.toNumbered, rfl⟩
    obtain ⟨hnum, hno⟩ := hnodes (entries fields "nodes").1
    generalize (loadAll (loadNode p) (entries fields "nodes").1 empty).1 = loaded at hnum hno ⊢
    have hstart : loaded.Wired := ⟨by simp [hno], by simp [hno]⟩
    obtain ⟨hwired, hsame⟩ := loadAll_keeps
      (P := fun g => g.Wired ∧ g.nodes = loaded.nodes) loadWire
      (fun entry g g' h hl => ⟨(loadWire_wired h.1 hl).1, (loadWire_wired h.1 hl).2.trans h.2⟩)
      (entries fields "connections").1 loaded ⟨hstart, rfl⟩
    generalize (loadAll loadWire (entries fields "connections").1 loaded).1 = wired
      at hwired hsame ⊢
    have hfloor := floorId_le_nextIdOf fields wired.nodes
    refine ⟨⟨hsame ▸ hnum.distinct, hsame ▸ hnum.positive⟩,
      hwired.sublist (List.Subset.refl _) (List.Sublist.refl _), fun n hn => ?_, ?_⟩
    · exact Int.lt_of_lt_of_le (lt_floorId _ n hn) hfloor
    · exact Int.le_trans (one_le_floorId (hsame ▸ hnum.positive)) hfloor
  · exact empty_sound

/-! ## Histories keep graphs sound -/

theorem Edit.apply_sound (h : g.Sound) (p : Palette) (e : Edit) : (e.apply p g).Sound := by
  cases e with
  | create type x y =>
    simp only [Edit.apply]
    split
    · rename_i hc
      obtain ⟨name, hc⟩ := createBy_eq_ok hc
      exact create_sound h hc
    · exact h
  | remove id => exact remove_sound h id
  | move id x y => exact move_sound h id x y
  | setProperty id key v =>
    simp only [Edit.apply]
    split
    · rename_i hs
      obtain rfl | ⟨name, rfl⟩ := setPropertyBy_eq_ok hs
      · exact h
      · exact updateNode_sound h id fun _ => rfl
    · exact h
  | setDefault id port v => exact setDefault_sound h id port v
  | connect tag fromNode fromPort toNode toPort =>
    exact connect_sound h tag fromNode fromPort toNode toPort
  | disconnect id => exact disconnect_sound h id
  | clear => exact empty_sound
  | load doc => exact load_sound p doc

theorem afterAll_keeps_sound (h : g.Sound) (history : List (Palette × Edit)) :
    (g.afterAll history).Sound := by
  induction history generalizing g with
  | nil => exact h
  | cons step rest ih => exact ih (step.2.apply_sound h step.1)

/-- **Every graph is sound**: whatever edits are made of the empty graph, with whatever arguments
and on whatever palettes. -/
theorem afterAll_sound (history : List (Palette × Edit)) : (empty.afterAll history).Sound :=
  afterAll_keeps_sound empty_sound history

end Sketchflow.Graph
