import Sketchflow.Proofs.Compile.Once
import Sketchflow.Proofs.Graph.RoundTrip

/-!
# Programs of edited graphs

Every blueprint of the catalog has at most one input for paths, and start nodes have none. As no two
wires enter one input, no two paths lead to one node, and every graph that is made on the standard
palette is orderly.

* `Regular` is what the argument needs of a blueprint; `catalog_regular` checks the catalog.
* **`edited_orderly`**: graphs made by edits on the standard palette are orderly.
* **`generate_once`**: the program of such a graph holds each node with steps that is reached once,
  and no other node with steps.
-/

namespace Sketchflow.Compile

open Graph List

/-! ## The catalog -/

/-- What a blueprint is like whose nodes keep a graph orderly. -/
structure Regular (b : Blueprint) : Prop where
  typed : ∀ p ∈ b.inputs, (absentText p.dataType).isOk = true
  equipped : ∀ a ∈ action? b.type, ∀ name ∈ a.asks,
    ∃ p ∈ b.inputs, p.kind.isData = true ∧ p.id = name
  /-- Paths enter a node at one input, and a start node nowhere. -/
  entered : ∀ p ∈ b.inputs, PortKind.flow.same p.kind = true → p.id = "in" ∧ b.type ≠ "start"
  /-- Of all that computes, the name of a function takes texts and variables. -/
  titled : b.type = "function" → ∀ p ∈ b.inputs, p.id = "name" → ∀ c ∈ Catalog.blueprints,
    ∀ s ∈ source? c.type, ∀ out ∈ c.outputs, out.accepts p = true → s = .text ∨ s = .namedValue

theorem catalog_regular {b : Blueprint} (hb : b ∈ Catalog.blueprints) : Regular b where
  typed := by
    revert b
    decide
  equipped := by
    revert b
    decide
  entered := by
    revert b
    decide
  titled := by
    revert b
    decide

/-! ## Edited graphs -/

variable {g : Graph}

theorem exists_blueprint (hc : g.Current Palette.standard) {n : Node} (hn : n ∈ g.nodes) :
    ∃ b, b ∈ Catalog.blueprints ∧ b.type = n.type ∧ Regular b ∧ Instance b n := by
  obtain ⟨b, hb, hi⟩ := hc.node n hn
  obtain ⟨hmem, ht⟩ := Palette.mem_catalog_of_find? hb
  exact ⟨b, hmem, ht, catalog_regular hmem, hi⟩

/-- The node a flow wire leads to, and where the wire enters it. -/
theorem flow_enters (hs : g.Sound) (hc : g.Current Palette.standard) {id : Int} {port : String}
    {w : Wire} (hw : g.flowFrom? (.int id) (.str port) = some w) :
    w ∈ g.wires ∧ w.fromNode = id ∧ w.fromPort = port ∧ w.toPort = "in" ∧
      ∃ n, g.node? (.int w.toNode) = some n ∧ n.type ≠ "start" := by
  have hmem : w ∈ g.wires := mem_of_find?_eq_some hw
  have htest := find?_some hw
  obtain ⟨hleaves, hflow⟩ := Bool.and_eq_true_iff.mp htest
  obtain ⟨hid, hport⟩ := Wire.leaves_iff.mp hleaves
  obtain ⟨source, n, out, input, hj⟩ := hs.joined w hmem
  obtain ⟨b, -, ht, hr, hi⟩ := exists_blueprint hc hj.target_mem
  obtain ⟨q, hq, hshape⟩ := hi.exists_input (mem_of_find?_eq_some hj.input_eq)
  have hkind : PortKind.flow.same q.kind = true := by
    have hout : out.kind = .flow := by
      have : out.kind.isFlow = true := hj.fromKind ▸ hflow
      cases hk : out.kind <;> simp_all [PortKind.isFlow]
    rw [(Port.kind_of_shape hshape).1, ← hout]
    exact hj.kinds
  obtain ⟨hin, hstart⟩ := hr.entered q hq hkind
  have hto : w.toPort = q.id := by
    rw [Port.id_of_shape hshape, Port.find?_id hj.input_eq]
  exact ⟨hmem, hid, hport, hto.trans hin, n,
    (node?_int_iff hs.distinct).mpr ⟨hj.target_mem, hj.target_id⟩, ht ▸ hstart⟩

theorem leads_iff {id : Int} {port : String} {n : Node} : Leads g id port n ↔
    ∃ w, g.flowFrom? (.int id) (.str port) = some w ∧ g.node? (.int w.toNode) = some n := by
  simp [Leads, target, Option.bind_eq_some_iff]

theorem titled_of_current (hs : g.Sound) (hc : g.Current Palette.standard) {f m : Node}
    (hf : f ∈ g.nodes) (ht : f.type = "function") {s : Source}
    (h : feed g f "name" = .source s m) : s = .text ∨ s = .namedValue := by
  obtain ⟨w, hw, hnode, hsource⟩ := exists_wire_of_feed h
  obtain ⟨hm, hid⟩ := (node?_int_iff hs.distinct).mp hnode
  have henters := find?_some hw
  obtain ⟨hto, hport⟩ := Wire.enters_iff.mp henters
  obtain ⟨source, target, out, input, hj⟩ := hs.joined w (mem_of_find?_eq_some hw)
  obtain rfl := inj_on_of_nodup_map hs.distinct hj.source_mem hm
    (hj.source_id.trans hid.symm)
  obtain rfl := inj_on_of_nodup_map hs.distinct hj.target_mem hf
    (hj.target_id.trans hto)
  obtain ⟨b, -, hbt, hr, hi⟩ := exists_blueprint hc hf
  obtain ⟨c, hcat, hct, -, hci⟩ := exists_blueprint hc hm
  obtain ⟨q, hq, hshape⟩ := hi.exists_input (mem_of_find?_eq_some hj.input_eq)
  have hname : q.id = "name" := by
    rw [Port.id_of_shape hshape, Port.find?_id hj.input_eq, hport]
  have hfit : out.accepts q = true := by
    obtain ⟨hk, hd⟩ := Port.kind_of_shape hshape
    rw [accepts_iff, hk, hd]
    exact ⟨hj.kinds, hj.types⟩
  have hout : out ∈ c.outputs := hci.outputs_eq ▸ mem_of_find?_eq_some hj.output_eq
  exact hr.titled (hbt.trans ht) q hq hname c hcat s (hct ▸ hsource) out hout hfit

/-- **Graphs made by edits on the standard palette are orderly.** -/
theorem edited_orderly (edits : List Edit) : Orderly (edited Palette.standard edits) := by
  have hs : (edited Palette.standard edits).Sound := edited_sound edits
  have hc := edited_current standard_propertiesDistinct edits
  exact {
    distinct := hs.distinct
    typed := fun n hn p hp => by
      obtain ⟨b, -, -, hr, hi⟩ := exists_blueprint hc hn
      obtain ⟨q, hq, hshape⟩ := hi.exists_input hp
      have hok := hr.typed q hq
      rw [(Port.kind_of_shape hshape).2] at hok
      cases ht : absentText p.dataType with
      | ok text => exact ⟨text, rfl⟩
      | error e => simp [ht, Except.isOk, Except.toBool] at hok
    equipped := fun n hn a ha name hname => by
      obtain ⟨b, -, ht, hr, hi⟩ := exists_blueprint hc hn
      obtain ⟨q, hq, hdata, rfl⟩ := hr.equipped a (ht ▸ ha) name hname
      obtain ⟨p, hp, hshape⟩ := hi.exists_port hq
      exact ⟨p, mem_filter.mpr ⟨hp, (Port.kind_of_shape hshape).1 ▸ hdata⟩,
        Port.id_of_shape hshape⟩
    joined := fun id port w hw => by
      obtain ⟨-, -, -, -, n, hn, -⟩ := flow_enters hs hc hw
      exact ⟨n, hn⟩
    entry := fun id port n hl => by
      obtain ⟨w, hw, hn⟩ := leads_iff.mp hl
      obtain ⟨-, -, -, -, m, hm, hstart⟩ := flow_enters hs hc hw
      obtain rfl := Option.some.inj (hm.symm.trans hn)
      exact hstart
    titled := fun f hf ht s m => titled_of_current hs hc hf ht
    single := fun id id' port port' n hl hl' => by
      obtain ⟨v, hv, hn⟩ := leads_iff.mp hl
      obtain ⟨w, hw, hn'⟩ := leads_iff.mp hl'
      obtain ⟨hvm, rfl, rfl, hin, -⟩ := flow_enters hs hc hv
      obtain ⟨hwm, rfl, rfl, hin', -⟩ := flow_enters hs hc hw
      obtain rfl := hs.wire_eq hvm hwm ((node?_id hn).symm.trans (node?_id hn'))
        (hin.trans hin'.symm)
      exact ⟨rfl, rfl⟩ }

/-! ## Programs -/

/-- **Every node once.** The program of a graph made on the standard palette is written from whole
paths only. If the graph has an entry point, a node with steps stands in the program once if it is
reached, and not at all otherwise. -/
theorem generate_once (edits : List Edit) (limit : String) :
    let g := edited Palette.standard edits
    ∃ p, plan g = .ok p ∧ generate g limit = .ok (planText limit p) ∧
      (∀ q, p = some q → ∀ o ∈ q.outlines, o.whole = true) ∧
      (hasEntry g = true → ∃ q, p = some q ∧ ∀ n ∈ g.nodes, (action? n.type).isSome = true →
        (Reached g n → countAll n q.written = 1) ∧ (¬Reached g n → countAll n q.written = 0)) := by
  intro g
  have hg : Orderly g := edited_orderly edits
  by_cases he : hasEntry g = true
  · obtain ⟨q, hq, hplanned⟩ := plan_planned hg he
    refine ⟨some q, hq, by rw [generate_eq, hq]; rfl, ?_, fun _ => ⟨q, rfl, fun n hn ha => ?_⟩⟩
    · rintro _ ⟨⟩
      exact hplanned.whole hg
    · exact hplanned.countAll_reached hg hn ha
  · have hnone : plan g = .ok none := by rw [plan, if_neg he]
    refine ⟨none, hnone, by rw [generate_eq, hnone]; rfl, ?_, fun h => absurd h he⟩
    rintro _ ⟨⟩

end Sketchflow.Compile
