import Sketchflow.Proofs.Standard

/-!
# Saving and loading

Loading the document of a graph that was edited on one palette gives the graph back, except for
inputs whose default was cleared: these take the default of the blueprint again (`Node.refilled`).

* `load_toDoc`: what loading makes of the document of a current graph.
* `load_toDoc_edited`: the same for every graph that edits can make, and when the document of the
  loaded graph is the document that was loaded.
-/

namespace Sketchflow

open List Value

/-- An input with the default of the blueprint where it has none of its own. -/
def Port.refilled (b : Blueprint) (q : Port) : Port :=
  if q.default.isNull then
    { q with default := ((b.input? q.id).map Port.default).getD .null }
  else q

/-- A node with the defaults of its blueprint where it has none of its own. -/
def Node.refilled (p : Palette) (n : Node) : Node :=
  match p.find? n.type with
  | some b => { n with inputs := n.inputs.map (Port.refilled b) }
  | none => n

@[simp] theorem Value.isNull_null : Value.null.isNull = true := rfl

theorem Value.isNull_iff {v : Value} : v.isNull = true ↔ v = .null := by
  cases v <;> simp [Value.isNull]

/-! ## Documents read back -/

namespace Port

/-- A port as its document is read. Loading uses the identifier and the default only. -/
def reread (q : Port) : Port :=
  { q with kind := .ofDoc q.kind.toDoc, dataType := .ofDoc q.dataType.toDoc }

theorem listOfDoc_toDoc (ports : List Port) :
    listOfDoc (.list (ports.map toDoc)) = ports.map reread := by
  unfold listOfDoc
  dsimp only
  rw [filterMap_map, ← filterMap_eq_map]
  congr 1
  funext q
  by_cases hn : q.default = .null
  · simp [toDoc, hn, ofFields, Fields.get?, Fields.getD, reread, Value.display]
  · have hn' : q.default.isNull = false := by simpa [← isNull_iff] using hn
    simp [toDoc, hn', ofFields, Fields.get?, Fields.getD, reread, Value.display]

theorem find?_reread (ports : List Port) (s : String) :
    find? (ports.map reread) s = (find? ports s).map reread := by
  unfold find?
  rw [find?_map]
  rfl

end Port

theorem Node.ofDoc_toDoc {n : Node} (h : 1 ≤ n.id) :
    Node.ofDoc n.toDoc = .ok { n with
      inputs := n.inputs.map Port.reread, outputs := n.outputs.map Port.reread } := by
  have hid : ¬n.id < 1 := by omega
  simp [Node.ofDoc, Node.toDoc, Fields.get?, Fields.getD, Node.ofFields, hid,
    Port.listOfDoc_toDoc]

theorem Wire.ofDoc_toDoc {w : Wire} {s : String} (h : w.id = .str s) :
    Wire.ofDoc w.toDoc = .ok { w with
      fromKind := .ofDoc w.fromKind.toDoc, toKind := .ofDoc w.toKind.toDoc } := by
  have hnull : ∀ v : Value, v.isNull = false ∨ v = .null := fun v => by
    rw [← isNull_iff]
    cases v.isNull <;> simp
  rcases hnull w.fromType with hf | hf <;> rcases hnull w.toType with ht | ht
  all_goals
    simp [Wire.ofDoc, Wire.toDoc, Wire.ofFields, Wire.field, Wire.join, Fields.get?, Fields.getD,
      bind, Except.bind, h, hf, ht, Value.display]

/-! ## A node loaded -/

namespace Graph

variable {p : Palette} {g : Graph}

theorem find?_getElem {ports : List Port} (h : (ports.map Port.id).Nodup) {i : Nat}
    (hi : i < ports.length) : Port.find? ports ports[i].id = some ports[i] := by
  cases hf : Port.find? ports ports[i].id with
  | none =>
    have := find?_eq_none.mp hf ports[i] (getElem_mem hi)
    simp at this
  | some q =>
    have hq : q.id = ports[i].id := Port.find?_id hf
    rw [inj_on_of_nodup_map h (mem_of_find?_eq_some hf) (getElem_mem hi) hq]

theorem map_keepDefault {b : Blueprint} {n : Node} (hd : (b.inputs.map Port.id).Nodup)
    (hs : n.inputs.map Port.shape = b.inputs.map Port.shape) (saved : Node)
    (hsaved : saved.inputs = n.inputs.map Port.reread) :
    b.inputs.map (keepDefault saved) = n.inputs.map (Port.refilled b) := by
  have hlen : n.inputs.length = b.inputs.length := by simpa using congrArg List.length hs
  have hids : n.inputs.map Port.id = b.inputs.map Port.id := by
    have := congrArg (List.map Port.id) hs
    simpa [Function.comp_def, Port.shape] using this
  have hd' : (n.inputs.map Port.id).Nodup := hids ▸ hd
  apply ext_getElem
  · simpa using hlen.symm
  intro i h1 h2
  have hb : i < b.inputs.length := by simpa using h1
  have hn : i < n.inputs.length := by omega
  simp only [getElem_map]
  have hshape : n.inputs[i].shape = b.inputs[i].shape := by
    have := getElem_of_eq hs (i := i) (by simpa using hn)
    simpa using this
  have hid : n.inputs[i].id = b.inputs[i].id := Port.id_of_shape hshape
  have hfind : saved.input? b.inputs[i].id = some n.inputs[i].reread := by
    rw [Node.input?, hsaved, Port.find?_reread, ← hid, find?_getElem hd' hn]
    rfl
  have hfindb : b.input? n.inputs[i].id = some b.inputs[i] := by
    rw [Blueprint.input?, hid, find?_getElem hd hb]
  unfold keepDefault Port.refilled
  rw [hfind, hfindb]
  generalize n.inputs[i] = q at *
  generalize b.inputs[i] = r at *
  obtain ⟨qi, qn, qk, qt, qd⟩ := q
  obtain ⟨ri, rn, rk, rt, rd⟩ := r
  simp only [Port.shape, Port.mk.injEq] at hshape
  obtain ⟨rfl, rfl, rfl, rfl, -⟩ := hshape
  by_cases hnull : qd.isNull = true
  · simp [Port.reread, hnull]
  · simp [Port.reread, hnull]

/-- **A node loaded from its document** is the node, its cleared defaults refilled. -/
theorem migrate_saved {b : Blueprint} {n : Node} (hd : (b.inputs.map Port.id).Nodup)
    (hb : p.find? n.type = some b) (hn : Instance b n) :
    migrate b { n with
      inputs := n.inputs.map Port.reread, outputs := n.outputs.map Port.reread } =
      n.refilled p := by
  have hin := map_keepDefault hd hn.inputs_eq { n with
    inputs := n.inputs.map Port.reread, outputs := n.outputs.map Port.reread } rfl
  have hprops : b.properties.update n.properties = n.properties :=
    Fields.update_over hn.distinct hn.names_start
  have hrefill : (n.refilled p) = { n with inputs := n.inputs.map (Port.refilled b) } := by
    unfold Node.refilled
    rw [hb]
  have hseeded : Seeded (n.refilled p) := by
    rw [hrefill]
    refine hn.seeded.of_edit rfl ?_ (prefix_refl _)
    simp only [map_map]
    refine map_congr_left fun q _ => ?_
    simp only [Function.comp, Port.refilled]
    split_ifs <;> rfl
  unfold migrate
  simp only [instantiate, hin, hprops, ← hn.outputs_eq]
  rw [← hrefill]
  exact seed_of_seeded hseeded

theorem refilled_shape (n : Node) : (n.refilled p).shape = n.shape := by
  unfold Node.refilled
  split
  · rename_i b _
    have hq : ∀ q : Port, (q.refilled b).shape = q.shape := fun q => by
      unfold Port.refilled
      split_ifs <;> rfl
    simp [Node.shape, Function.comp_def, hq]
  · rfl

/-! ## A graph loaded -/

theorem loadAll_of_forall {α : Type} {step : Value → Graph → Except Warning Graph}
    {entry : α → Value} (add : Graph → α → Graph) (items : List α) :
    ∀ g : Graph, (∀ (front : List α) (a : α) (back : List α), items = front ++ a :: back →
      step (entry a) (front.foldl add g) = .ok (add (front.foldl add g) a)) →
      loadAll step (items.map entry) g = (items.foldl add g, []) := by
  induction items with
  | nil => exact fun _ _ => rfl
  | cons a rest ih =>
    intro g h
    have hhead := h [] a rest rfl
    simp only [foldl_nil] at hhead
    rw [map_cons, loadAll, hhead]
    refine ih (add g a) fun front b back he => ?_
    exact h (a :: front) b back (by rw [he]; rfl)

theorem foldl_push_nodes (f : Node → Node) (l : List Node) (g : Graph) :
    l.foldl (fun g n => { g with nodes := g.nodes ++ [f n] }) g =
      { g with nodes := g.nodes ++ l.map f } := by
  induction l generalizing g with
  | nil => simp
  | cons n rest ih => simp [ih]

theorem foldl_push_wires (l : List Wire) (g : Graph) :
    l.foldl (fun g w => { g with wires := g.wires ++ [w] }) g =
      { g with wires := g.wires ++ l } := by
  induction l generalizing g with
  | nil => simp
  | cons n rest ih => simp [ih]

theorem loadAll_nodes (hi : InputsDistinct p) (hs : g.Sound) (hc : g.Current p) :
    loadAll (loadNode p) (g.nodes.map Node.toDoc) empty =
      ({ nodes := g.nodes.map (Node.refilled p) }, []) := by
  rw [loadAll_of_forall fun g n => { g with nodes := g.nodes ++ [n.refilled p] },
    foldl_push_nodes]
  · rfl
  · intro front n back he
    rw [foldl_push_nodes]
    have hn : n ∈ g.nodes := by simp [he]
    obtain ⟨b, hb, hinst⟩ := hc.node n hn
    refine loadNode_eq_ok.mpr ⟨_, b, Node.ofDoc_toDoc (hs.positive n hn), ?_, hb, ?_⟩
    · -- The numbers of the nodes before it are others.
      refine find?_eq_none.mpr fun m hm => ?_
      obtain ⟨k, hk, rfl⟩ : ∃ k ∈ front, k.refilled p = m := by simpa [empty] using hm
      have hne : k.id ≠ n.id := by
        have := hs.distinct
        rw [he, map_append, nodup_append'] at this
        exact fun e => this.2.2 (mem_map_of_mem hk) (by simp [e])
      have hkid : (k.refilled p).id = k.id := id_of_shape (refilled_shape k)
      simp only [hasId_int, hkid]
      simpa using fun e => hne e.symm
    · rw [migrate_saved (hi b (find?_mem hb)) hb hinst]

theorem check_of_joins (hd : (g.nodes.map Node.id).Nodup) {w : Wire} {source target : Node}
    {out input : Port} (h : g.Joins w source target out input) :
    g.check (.int w.fromNode) (.str w.fromPort) (.int w.toNode) (.str w.toPort) =
      .ok (out, input) := by
  refine check_eq_ok.mpr ⟨source, target, (node?_int_iff hd).mpr ⟨h.source_mem, h.source_id⟩,
    (node?_int_iff hd).mpr ⟨h.target_mem, h.target_id⟩, ?_, ?_, ?_, h.kinds, h.types⟩
  · rw [Port.findValue?_str]
    exact h.output_eq
  · rw [Port.findValue?_str]
    exact h.input_eq
  · intro hf
    have hflow : w.isFlow = true := by
      rw [Wire.isFlow, h.fromKind]
      exact hf
    simpa using h.apart hflow

theorem mark_of_joins {w : Wire} {source target : Node} {out input : Port}
    (h : g.Joins w source target out input) (k k' : PortKind) :
    mark { w with fromKind := k, toKind := k' } out input = w := by
  unfold mark
  rw [← h.fromKind, ← h.toKind]
  have h1 := h.fromType
  have h2 := h.toType
  rw [← h.fromKind] at h1 h2
  rw [← h1, ← h2]

theorem loadAll_wires (hs : g.Sound) (hc : g.Current p) :
    loadAll loadWire (g.wires.map Wire.toDoc) { nodes := g.nodes.map (Node.refilled p) } =
      ({ nodes := g.nodes.map (Node.refilled p), wires := g.wires }, []) := by
  have hshape : (g.nodes.map (Node.refilled p)).map Node.shape = g.nodes.map Node.shape := by
    rw [map_map]
    exact map_congr_left fun n _ => refilled_shape n
  rw [loadAll_of_forall fun g w => { g with wires := g.wires ++ [w] }, foldl_push_wires]
  · rfl
  · intro front w back he
    rw [foldl_push_wires]
    have hw : w ∈ g.wires := by simp [he]
    obtain ⟨s, hid⟩ := hc.wire w hw
    obtain ⟨source, target, out, input, hj⟩ := hs.joined w hw
    obtain ⟨source', target', input', hj'⟩ := hj.of_shape
      { nodes := g.nodes.map (Node.refilled p), wires := front } hshape
    have hd : ((g.nodes.map (Node.refilled p)).map Node.id).Nodup := by
      rw [map_map]
      have : Node.id ∘ Node.refilled p = Node.id := funext fun n => id_of_shape (refilled_shape n)
      rw [this]
      exact hs.distinct
    have hcheck := check_of_joins hd hj'
    refine loadWire_eq_ok.mpr ⟨_, out, input', Wire.ofDoc_toDoc hid, hcheck, ?_, ?_⟩
    · refine find?_eq_none.mpr fun v hv => ?_
      rw [Wire.enters_iff]
      have := hs.single
      rw [he] at this
      exact (pairwise_append.mp this).2.2 v (by simpa [empty] using hv) w (by simp)
    · rw [mark_of_joins hj']

theorem floorId_le {nodes : List Node} {k : Int} (h : ∀ n ∈ nodes, n.id < k) (hk : 1 ≤ k) :
    floorId nodes ≤ k := by
  cases nodes with
  | nil => simpa [floorId] using hk
  | cons n rest =>
    have hmax : ∀ (l : List Node) (m : Int), m < k → (∀ n ∈ l, n.id < k) →
        l.foldl (fun m n => max m n.id) m < k := by
      intro l
      induction l with
      | nil => exact fun m hm _ => hm
      | cons a l ih =>
        intro m hm hl
        have ha := hl a mem_cons_self
        have hma : max m a.id < k := by omega
        exact ih _ hma fun b hb => hl b (mem_cons_of_mem a hb)
    obtain ⟨hn, hrest⟩ := forall_mem_cons.mp h
    have := hmax rest n.id hn hrest
    simp only [floorId]
    omega

/-- **Loading what was saved**: the same graph, its cleared defaults refilled, and no warning. -/
theorem load_toDoc (hi : InputsDistinct p) (hs : g.Sound) (hc : g.Current p) :
    load p g.toDoc = ({ g with nodes := g.nodes.map (Node.refilled p), refusal := none }, []) := by
  have hnodes := loadAll_nodes hi hs hc
  have hwires := loadAll_wires hs hc
  have hnext : nextIdOf [("nodes", .list (g.nodes.map Node.toDoc)),
      ("connections", .list (g.wires.map Wire.toDoc)), ("nextNodeId", .int g.nextId)]
      (g.nodes.map (Node.refilled p)) = g.nextId := by
    have hle : floorId (g.nodes.map (Node.refilled p)) ≤ g.nextId := by
      refine floorId_le (fun n hn => ?_) hs.next
      obtain ⟨m, hm, rfl⟩ := mem_map.mp hn
      rw [id_of_shape (refilled_shape m)]
      exact hs.below m hm
    simp only [nextIdOf, Fields.getD, Fields.get?]
    simp
    omega
  have he1 : entries [("nodes", .list (g.nodes.map Node.toDoc)),
      ("connections", .list (g.wires.map Wire.toDoc)), ("nextNodeId", .int g.nextId)] "nodes" =
      (g.nodes.map Node.toDoc, []) := by
    simp [entries, Fields.getD, Fields.get?]
  have he2 : entries [("nodes", .list (g.nodes.map Node.toDoc)),
      ("connections", .list (g.wires.map Wire.toDoc)), ("nextNodeId", .int g.nextId)]
      "connections" = (g.wires.map Wire.toDoc, []) := by
    simp [entries, Fields.getD, Fields.get?]
  simp only [load, toDoc, he1, he2, hnodes, hwires, hnext]
  rfl

/-! ## Cleared defaults -/

/-- No default is cleared where the blueprint has one. -/
def NothingCleared (p : Palette) (g : Graph) : Prop :=
  ∀ n ∈ g.nodes, ∀ b, p.find? n.type = some b → ∀ q ∈ n.inputs, q.default = .null →
    ∀ r, b.input? q.id = some r → r.default = .null

theorem NothingCleared.refilled_eq (h : NothingCleared p g) {n : Node} (hn : n ∈ g.nodes) :
    n.refilled p = n := by
  unfold Node.refilled
  split
  · rename_i b hb
    have hmap : n.inputs.map (Port.refilled b) = n.inputs := by
      refine (map_congr_left (g := id) fun q hq => ?_).trans (map_id _)
      unfold Port.refilled
      split_ifs with hnull
      · have hq0 := isNull_iff.mp hnull
        have hr : ((b.input? q.id).map Port.default).getD .null = .null := by
          cases hf : b.input? q.id with
          | none => rfl
          | some r => simpa using h n hn b hb q hq hq0 r hf
        rw [hr, ← hq0]
        rfl
      · rfl
    rw [hmap]
  · rfl

theorem NothingCleared.map_refilled (h : NothingCleared p g) :
    g.nodes.map (Node.refilled p) = g.nodes :=
  (map_congr_left (g := id) fun _ hn => h.refilled_eq hn).trans (map_id _)

theorem migrate_inputs (b : Blueprint) (saved : Node) :
    (migrate b saved).inputs = b.inputs.map (keepDefault saved) := by
  unfold migrate
  obtain ⟨_, he, -⟩ := seed_eq { instantiate b saved.id saved.type saved.x saved.y with
    inputs := b.inputs.map (keepDefault saved)
    properties := b.properties.update saved.properties }
  exact congrArg Node.inputs he

theorem default_of_keepDefault {saved : Node} {r : Port}
    (h : (keepDefault saved r).default = .null) :
    r.default = .null := by
  unfold keepDefault at h
  split at h
  · split_ifs at h with hnull
    · exact h
    · exact absurd (isNull_iff.mpr h) hnull
  · exact h

theorem keepDefault_id (saved : Node) (r : Port) : (keepDefault saved r).id = r.id :=
  Port.id_of_shape (keepDefault_shape saved r)

theorem load_nothingCleared (hi : InputsDistinct p) (doc : Value) :
    NothingCleared p (load p doc).1 := by
  have hempty : NothingCleared p empty := by simp [NothingCleared, empty]
  unfold load
  split
  · exact hempty
  · rename_i fields
    have hnodes : NothingCleared p (loadAll (loadNode p) (entries fields "nodes").1 empty).1 := by
      refine loadAll_keeps _ (fun _ g g' h hl => ?_) _ empty hempty
      obtain ⟨saved, b, -, -, hb, rfl⟩ := loadNode_eq_ok.mp hl
      intro n hn b' hb' q hq hnull r hr
      rcases mem_append.mp hn with hn | hn
      · exact h n hn b' hb' q hq hnull r hr
      · rw [mem_singleton.mp hn] at hb' hq
        rw [migrate, seed_type] at hb'
        obtain rfl : b = b' := Option.some.inj (hb.symm.trans hb')
        rw [migrate_inputs] at hq
        obtain ⟨r', hr', rfl⟩ := mem_map.mp hq
        rw [keepDefault_id] at hr
        have hrr : r = r' := inj_on_of_nodup_map (hi b (find?_mem hb))
          (mem_of_find?_eq_some hr) hr' (Port.find?_id hr)
        rw [hrr]
        exact default_of_keepDefault hnull
    have hwires := loadAll_keeps (P := NothingCleared p) loadWire (fun _ g g' h hl => by
      obtain ⟨_, _, _, _, _, _, rfl⟩ := loadWire_eq_ok.mp hl
      exact h) (entries fields "connections").1 _ hnodes
    exact hwires
  · exact hempty

/-! ## Every graph that edits can make -/

theorem edited_sound (edits : List Edit) : (edited p edits).Sound :=
  afterAll_keeps_sound empty_sound _

/-- **Saving and loading on one palette.** Whatever edits made the graph, the loaded one has its
nodes, with the defaults that were cleared taken from the blueprints again, its wires and its next
number. The documents of the two are the same where no default was cleared that the blueprint has,
and always if the graph was loaded itself. -/
theorem load_toDoc_edited (hi : InputsDistinct p) (hd : PropertiesDistinct p)
    (edits : List Edit) :
    (load p (edited p edits).toDoc).1.nodes = (edited p edits).nodes.map (Node.refilled p) ∧
    (load p (edited p edits).toDoc).1.wires = (edited p edits).wires ∧
    (load p (edited p edits).toDoc).1.nextId = (edited p edits).nextId ∧
    (NothingCleared p (edited p edits) →
      (load p (edited p edits).toDoc).1.toDoc = (edited p edits).toDoc) ∧
    ∀ doc, (load p (load p doc).1.toDoc).1.toDoc = (load p doc).1.toDoc := by
  have hreload := load_toDoc hi (edited_sound edits) (edited_current hd edits)
  refine ⟨by rw [hreload], by rw [hreload], by rw [hreload], fun h => ?_, fun doc => ?_⟩
  · rw [hreload, h.map_refilled]
    rfl
  · rw [load_toDoc hi (load_sound p doc) (load_current hd doc),
      (load_nothingCleared hi doc).map_refilled]
    rfl

/-- The standard palette is such a palette: a text node whose text was cleared, wired to a key that
is asked for, and a graph that was loaded. -/
theorem load_toDoc_edited_standard :
    InputsDistinct Palette.standard ∧ PropertiesDistinct Palette.standard ∧
    let g := edited Palette.standard [.create (.str "string") .null .null,
      .create (.str "isKeyPressed") (.int 3) (.int 4), .setDefault (.int 1) (.str "value") .null,
      .connect "00000001" (.int 1) (.str "value") (.int 2) (.str "key")]
    (load Palette.standard g.toDoc).1.nodes = g.nodes.map (Node.refilled Palette.standard) ∧
    (load Palette.standard g.toDoc).1.wires = g.wires ∧
    (load Palette.standard g.toDoc).1.nextId = g.nextId := by
  obtain ⟨hn, hw, hi, -⟩ := load_toDoc_edited standard_inputsDistinct standard_propertiesDistinct
    [.create (.str "string") .null .null, .create (.str "isKeyPressed") (.int 3) (.int 4),
      .setDefault (.int 1) (.str "value") .null,
      .connect "00000001" (.int 1) (.str "value") (.int 2) (.str "key")]
  exact ⟨standard_inputsDistinct, standard_propertiesDistinct, hn, hw, hi⟩

end Graph

end Sketchflow
