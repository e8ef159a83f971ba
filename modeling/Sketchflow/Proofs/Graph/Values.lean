import Sketchflow.Proofs.Graph.RoundTrip
import Sketchflow.Proofs.Json.Document

/-!
# The values in a graph

* `Graph.values` are all values in a graph. Its document is one if they are (`isDocumentBy_toDoc`).
* `Node.Holds` is about the values that edits give a node; the others come from its blueprint.
* **`edited_isJson`**: edits with values that have a text make graphs whose documents have one.
* `isDocument_load_toDoc`: loading the document of a graph brings no integers that are too long.
-/

namespace Sketchflow

open List Value

variable {b : Blueprint} {n : Node} {q : Port} {doc v : Value}

def Port.values (q : Port) : List Value :=
  [q.name, q.kind.toDoc, q.dataType.toDoc, q.default]

def Blueprint.values (b : Blueprint) : List Value :=
  (b.inputs ++ b.outputs).flatMap Port.values ++ b.properties.map (·.2)

def Node.values (n : Node) : List Value :=
  [.int n.id, n.x, n.y] ++ (n.inputs ++ n.outputs).flatMap Port.values ++ n.properties.map (·.2)

def Wire.values (w : Wire) : List Value :=
  [w.id, .int w.fromNode, .int w.toNode, w.fromKind.toDoc, w.toKind.toDoc, w.fromType, w.toType]

def Graph.values (g : Graph) : List Value :=
  .int g.nextId :: (g.nodes.flatMap Node.values ++ g.wires.flatMap Wire.values)

/-! ## Documents -/

variable {fits : Int → Bool}

theorem Port.isDocumentBy_toDoc (h : ∀ v ∈ q.values, v.isDocumentBy fits = true) :
    q.toDoc.isDocumentBy fits = true := by
  simp only [values, forall_mem_cons] at h
  obtain ⟨hname, hkind, htype, hdefault, -⟩ := h
  rw [toDoc, isDocumentBy_object]
  split
  · refine ⟨by simp, ?_⟩
    simp [hname, hkind, htype]
  · refine ⟨by simp, ?_⟩
    simp [hname, hkind, htype, hdefault]

theorem Port.isDocumentBy_toDocs {ports : List Port}
    (h : ∀ q ∈ ports, ∀ v ∈ q.values, v.isDocumentBy fits = true) :
    (Value.list (ports.map Port.toDoc)).isDocumentBy fits = true := by
  rw [isDocumentBy_list, forall_mem_map]
  exact fun q hq => isDocumentBy_toDoc (h q hq)

theorem Node.isDocumentBy_toDoc (hdistinct : n.properties.Distinct)
    (h : ∀ v ∈ n.values, v.isDocumentBy fits = true) : n.toDoc.isDocumentBy fits = true := by
  simp only [values, forall_mem_append, forall_mem_cons, forall_mem_flatMap,
    forall_mem_map] at h
  obtain ⟨⟨⟨hid, hx, hy, -⟩, hinputs, houtputs⟩, hproperties⟩ := h
  have hobject : (Value.object n.properties).isDocumentBy fits = true :=
    isDocumentBy_object.mpr ⟨hdistinct, hproperties⟩
  rw [toDoc, isDocumentBy_object]
  refine ⟨by simp, ?_⟩
  simp only [forall_mem_cons]
  exact ⟨hid, rfl, hx, hy, Port.isDocumentBy_toDocs hinputs, Port.isDocumentBy_toDocs houtputs,
    hobject, forall_mem_nil _⟩

theorem Wire.isDocumentBy_toDoc {w : Wire} (h : ∀ v ∈ w.values, v.isDocumentBy fits = true) :
    w.toDoc.isDocumentBy fits = true := by
  simp only [values, forall_mem_cons] at h
  obtain ⟨hid, hfrom, hto, hfromKind, htoKind, hfromType, htoType, -⟩ := h
  rw [toDoc, isDocumentBy_object]
  split <;> split <;>
  · refine ⟨by simp, ?_⟩
    simp only [append_nil, forall_mem_append, forall_mem_cons]
    simp [hid, hfrom, hto, hfromKind, htoKind, hfromType, htoType]

/-- **The document of a graph is one** if the values in the graph are. -/
theorem Graph.isDocumentBy_toDoc {g : Graph} (hdistinct : ∀ n ∈ g.nodes, n.properties.Distinct)
    (h : ∀ v ∈ g.values, v.isDocumentBy fits = true) : g.toDoc.isDocumentBy fits = true := by
  simp only [values, forall_mem_append, forall_mem_cons, forall_mem_flatMap] at h
  obtain ⟨hnext, hnodes, hwires⟩ := h
  rw [toDoc, isDocumentBy_object]
  refine ⟨by simp, ?_⟩
  simp only [forall_mem_cons]
  refine ⟨?_, ?_, hnext, forall_mem_nil _⟩
  · rw [isDocumentBy_list, forall_mem_map]
    exact fun n hn => Node.isDocumentBy_toDoc (hdistinct n hn) (hnodes n hn)
  · rw [isDocumentBy_list, forall_mem_map]
    exact fun w hw => Wire.isDocumentBy_toDoc (hwires w hw)

/-! ## Fields -/

theorem Fields.mem_set {name : String} {fields : Fields} {f : String × Value}
    (h : f ∈ set name v fields) : f.2 = v ∨ f ∈ fields := by
  induction fields with
  | nil =>
    rw [set, mem_singleton] at h
    exact .inl (congrArg Prod.snd h)
  | cons e rest ih =>
    rw [set] at h
    split at h
    · rcases mem_cons.mp h with rfl | h
      · exact .inl rfl
      · exact .inr (mem_cons_of_mem _ h)
    · rcases mem_cons.mp h with rfl | h
      · exact .inr mem_cons_self
      · exact (ih h).imp_right (mem_cons_of_mem _)

def Fields.Hold (fits : Int → Bool) (fields : Fields) : Prop :=
  ∀ f ∈ fields, f.2.isDocumentBy fits = true

namespace Fields.Hold

variable {fields more : Fields}

theorem set (h : fields.Hold fits) (hv : v.isDocumentBy fits = true) (name : String) :
    (Fields.set name v fields).Hold fits := by
  intro f hf
  rcases Fields.mem_set hf with heq | hf
  · rw [heq]
    exact hv
  · exact h f hf

theorem update (h : fields.Hold fits) (hmore : more.Hold fits) :
    (fields.update more).Hold fits := by
  unfold Fields.update
  induction more generalizing fields with
  | nil => exact h
  | cons f rest ih =>
    obtain ⟨hf, hrest⟩ := forall_mem_cons.mp hmore
    exact ih (h.set hf f.1) hrest

theorem setMissing (h : fields.Hold fits) (hv : v.isDocumentBy fits = true) (name : String) :
    (Graph.setMissing name v fields).Hold fits := by
  unfold Graph.setMissing
  split
  · exact h
  · exact h.set hv name

theorem getD (h : fields.Hold fits) {d : Value} (hd : d.isDocumentBy fits = true)
    (name : String) : (fields.getD name d).isDocumentBy fits = true := by
  unfold Fields.getD Fields.get?
  cases hfind : fields.find? fun f => f.1 == name with
  | none => exact hd
  | some f => exact h f (mem_of_find?_eq_some hfind)

end Fields.Hold

theorem Value.hold_of_object {fields : Fields} (h : (object fields).isDocumentBy fits = true) :
    fields.Hold fits :=
  (isDocumentBy_object.mp h).2

/-! ## Nodes -/

/-- The values that edits give a node are such as documents hold. -/
structure Node.Holds (fits : Int → Bool) (n : Node) : Prop where
  x : n.x.isDocumentBy fits = true
  y : n.y.isDocumentBy fits = true
  defaults : ∀ q ∈ n.inputs, q.default.isDocumentBy fits = true
  properties : n.properties.Hold fits

namespace Graph

/-- The bounds that random sources start with fit. -/
def FitsBounds (fits : Int → Bool) : Prop :=
  fits 1 = true ∧ fits 100 = true

theorem seed_holds (hbounds : FitsBounds fits) (h : n.Holds fits) : (seed n).Holds fits := by
  unfold seed
  split
  · split
    · rename_i q hq
      exact ⟨h.x, h.y, h.defaults, h.properties.set (h.defaults q (mem_of_find?_eq_some hq)) _⟩
    · exact h
  · split
    · exact ⟨h.x, h.y, h.defaults,
        (h.properties.setMissing (v := .int 1) hbounds.1 _).setMissing (v := .int 100) hbounds.2 _⟩
    · exact h

theorem withDefault_holds (h : n.Holds fits) (port : Value)
    (hv : v.isDocumentBy fits = true) : (withDefault port v n).Holds fits := by
  have hports : ∀ ports : List Port, (∀ q ∈ ports, q.default.isDocumentBy fits = true) →
      ∀ q ∈ setPortDefault port v ports, q.default.isDocumentBy fits = true := by
    intro ports hports
    induction ports with
    | nil => exact hports
    | cons q rest ih =>
      obtain ⟨hq, hrest⟩ := forall_mem_cons.mp hports
      unfold setPortDefault
      split
      · exact forall_mem_cons.mpr ⟨hv, hrest⟩
      · exact forall_mem_cons.mpr ⟨hq, ih hrest⟩
  refine ⟨h.x, h.y, hports n.inputs h.defaults, ?_⟩
  unfold withDefault
  dsimp only
  split
  · exact h.properties.set hv _
  · exact h.properties

theorem listOfDoc_default (h : doc.isDocumentBy fits = true)
    (hq : q ∈ Port.listOfDoc doc) : q.default.isDocumentBy fits = true := by
  unfold Port.listOfDoc at hq
  split at hq
  · rename_i entries
    obtain ⟨entry, hentry, hport⟩ := mem_filterMap.mp hq
    have hentry := isDocumentBy_list.mp h entry hentry
    split at hport
    · rename_i fields
      split at hport
      · cases hport
        exact (hold_of_object hentry).getD rfl _
      · cases hport
    · cases hport
  · cases hq

theorem ofDoc_holds (h : doc.isDocumentBy fits = true)
    (hn : Node.ofDoc doc = .ok n) : n.Holds fits := by
  have hfields : ∀ {fields : Fields} (id : Int) (type : String), fields.Hold fits →
      (Node.ofFields id type fields).Holds fits := by
    intro fields id type hfields
    refine ⟨hfields.getD rfl _, hfields.getD rfl _,
      fun q hq => listOfDoc_default (hfields.getD rfl _) hq, ?_⟩
    have hproperties := hfields.getD (d := .null) rfl "properties"
    unfold Node.ofFields
    dsimp only
    split
    · rename_i properties heq
      rw [heq] at hproperties
      exact hold_of_object hproperties
    · exact nofun
  unfold Node.ofDoc at hn
  split at hn
  · split at hn
    · split at hn
      · cases hn
      · split at hn
        · cases hn
          exact hfields _ _ (hold_of_object h)
        · cases hn
    · cases hn
  · cases hn

/-! ## Edits -/

/-- Whether all values that an edit brings are such as documents hold. -/
def Edit.isDocumentBy (fits : Int → Bool) : Edit → Bool
  | .create _ x y => x.isDocumentBy fits && y.isDocumentBy fits
  | .move _ x y => x.isDocumentBy fits && y.isDocumentBy fits
  | .setProperty _ _ v => v.isDocumentBy fits
  | .setDefault _ _ v => v.isDocumentBy fits
  | .load doc => doc.isDocumentBy fits
  | _ => true

/-- A palette whose blueprints hold values that documents hold. -/
def BlueprintsHold (fits : Int → Bool) (p : Palette) : Prop :=
  ∀ b ∈ p.blueprints, ∀ v ∈ b.values, v.isDocumentBy fits = true

variable {p : Palette} {g g' : Graph}

theorem BlueprintsHold.port (hp : BlueprintsHold fits p) (hb : b ∈ p.blueprints)
    (hq : q ∈ b.inputs ++ b.outputs) (hv : v ∈ q.values) : v.isDocumentBy fits = true :=
  hp b hb v (mem_append_left _ (mem_flatMap.mpr ⟨q, hq, hv⟩))

theorem BlueprintsHold.default (hp : BlueprintsHold fits p) (hb : b ∈ p.blueprints)
    (hq : q ∈ b.inputs) : q.default.isDocumentBy fits = true :=
  hp.port hb (mem_append_left _ hq) (by simp [Port.values])

theorem BlueprintsHold.properties (hp : BlueprintsHold fits p) (hb : b ∈ p.blueprints) :
    b.properties.Hold fits :=
  fun _ hf => hp b hb _ (mem_append_right _ (mem_map_of_mem hf))

theorem migrate_holds (hbounds : FitsBounds fits) (hp : BlueprintsHold fits p)
    (hb : b ∈ p.blueprints)
    {saved : Node} (h : saved.Holds fits) : (migrate b saved).Holds fits := by
  refine seed_holds hbounds ⟨h.x, h.y, ?_, (hp.properties hb).update h.properties⟩
  rw [forall_mem_map]
  intro q hq
  unfold keepDefault
  split
  · rename_i old hold
    split
    · exact hp.default hb hq
    · exact h.defaults old (mem_of_find?_eq_some hold)
  · exact hp.default hb hq

theorem entries_by {fields : Fields} (h : fields.Hold fits) (name : String) :
    ∀ v ∈ (entries fields name).1, v.isDocumentBy fits = true := by
  have hlist := h.getD (d := .null) rfl name
  unfold entries
  split
  · exact nofun
  · rename_i items heq
    rw [heq] at hlist
    exact isDocumentBy_list.mp hlist
  · exact nofun

theorem load_holds (hbounds : FitsBounds fits) (hp : BlueprintsHold fits p)
    (h : doc.isDocumentBy fits = true) : ∀ n ∈ (load p doc).1.nodes, n.Holds fits := by
  have hnodes : ∀ (entries : List Value) (g : Graph), (∀ v ∈ entries, v.isDocumentBy fits = true) →
      (∀ n ∈ g.nodes, n.Holds fits) → ∀ n ∈ (loadAll (loadNode p) entries g).1.nodes,
      n.Holds fits := by
    intro entries
    induction entries with
    | nil => exact fun g _ hg => hg
    | cons entry rest ih =>
      intro g hentries hg
      obtain ⟨hentry, hrest⟩ := forall_mem_cons.mp hentries
      unfold loadAll
      split
      · rename_i g' hok
        obtain ⟨saved, b, hsaved, -, hb, rfl⟩ := loadNode_eq_ok.mp hok
        have hnew := migrate_holds hbounds hp (find?_mem hb) (ofDoc_holds hentry hsaved)
        exact ih _ hrest (forall_mem_append.mpr ⟨hg, by simpa using hnew⟩)
      · exact ih g hrest hg
  unfold load
  split
  · exact nofun
  · rename_i fields
    have hfields := hold_of_object h
    have hloaded := hnodes _ empty (entries_by hfields "nodes") nofun
    exact loadAll_keeps (P := fun g => ∀ n ∈ g.nodes, n.Holds fits) loadWire (fun _ g g' hg hl => by
      obtain ⟨_, _, _, _, _, _, rfl⟩ := loadWire_eq_ok.mp hl
      exact hg) (entries fields "connections").1 _ hloaded
  · exact nofun

theorem connect_nodes (tag : String) (fromNode fromPort toNode toPort : Value) :
    (g.connect tag fromNode fromPort toNode toPort).2.nodes = g.nodes := by
  unfold connect
  split
  · rfl
  · dsimp only
    split
    · rfl
    · split <;> rfl

theorem Edit.apply_holds (hbounds : FitsBounds fits) (hp : BlueprintsHold fits p)
    (h : ∀ n ∈ g.nodes, n.Holds fits) {e : Edit}
    (he : e.isDocumentBy fits = true) : ∀ n ∈ (e.apply p g).nodes, n.Holds fits := by
  cases e with
  | create type x y =>
    obtain ⟨hx, hy⟩ := Bool.and_eq_true_iff.mp he
    simp only [Edit.apply]
    split
    · rename_i hc
      obtain ⟨name, hc⟩ := createBy_eq_ok hc
      unfold Graph.create at hc
      split at hc
      · cases hc
      · rename_i b hb
        cases hc
        have hb := find?_mem hb
        have hnew : (instantiate b g.nextId name x y).Holds fits :=
          ⟨hx, hy, fun q hq => hp.default hb hq, hp.properties hb⟩
        exact forall_mem_append.mpr ⟨h, by simpa using seed_holds hbounds hnew⟩
    · exact h
  | remove id =>
    simp only [Edit.apply, Graph.remove]
    split
    · exact h
    · exact fun n hn => h n (eraseP_subset hn)
  | move id x y =>
    obtain ⟨hx, hy⟩ := Bool.and_eq_true_iff.mp he
    exact forall_updateNode id (fun n hn => ⟨hx, hy, hn.defaults, hn.properties⟩) h
  | setProperty id key v =>
    simp only [Edit.apply]
    split
    · rename_i hs
      obtain rfl | ⟨name, rfl⟩ := setPropertyBy_eq_ok hs
      · exact h
      · exact forall_updateNode id
          (fun n hn => ⟨hn.x, hn.y, hn.defaults, hn.properties.set he _⟩) h
    · exact h
  | setDefault id port v =>
    simp only [Edit.apply, Graph.setDefault]
    split
    · exact h
    · exact forall_updateNode id (fun n hn => withDefault_holds hn port he) h
  | connect tag fromNode fromPort toNode toPort =>
    simp only [Edit.apply, connect_nodes]
    exact h
  | disconnect id => exact h
  | clear => exact forall_mem_nil _
  | load doc => exact load_holds hbounds hp he

/-! ## Edited graphs -/

theorem Instance.values_by (hp : BlueprintsHold fits p) (hb : b ∈ p.blueprints) (hi : Instance b n)
    (hid : fits n.id = true) (h : n.Holds fits) : ∀ v ∈ n.values, v.isDocumentBy fits = true := by
  simp only [Node.values, forall_mem_append, forall_mem_cons, forall_mem_flatMap,
    forall_mem_map]
  refine ⟨⟨⟨hid, h.x, h.y, nofun⟩, fun q hq => ?_, fun q hq => ?_⟩, h.properties⟩
  · obtain ⟨r, hr, hshape⟩ := hi.exists_input hq
    have hport := fun v hv => hp.port hb (mem_append_left _ hr) (v := v) hv
    simp only [Port.values, forall_mem_cons] at hport ⊢
    obtain ⟨hkind, htype⟩ := Port.kind_of_shape hshape
    have hname : r.shape.name = q.shape.name := congrArg Port.name hshape
    change r.name = q.name at hname
    rw [← hname, ← hkind, ← htype]
    exact ⟨hport.1, hport.2.1, hport.2.2.1, h.defaults q hq, nofun⟩
  · rw [hi.outputs_eq] at hq
    exact fun v hv => hp.port hb (mem_append_right _ hq) hv

/-- **The values in a graph**, from its blueprints and its edits. -/
theorem values_by (hp : BlueprintsHold fits p) (hs : g.Sound) (hc : g.Current p)
    (hids : ∀ i, 1 ≤ i → i ≤ g.nextId → fits i = true) (h : ∀ n ∈ g.nodes, n.Holds fits) :
    ∀ v ∈ g.values, v.isDocumentBy fits = true := by
  have hid : ∀ n ∈ g.nodes, fits n.id = true := fun n hn =>
    hids n.id (hs.positive n hn) (Int.le_of_lt (hs.below n hn))
  have hnode : ∀ n ∈ g.nodes, ∀ v ∈ n.values, v.isDocumentBy fits = true := by
    intro n hn
    obtain ⟨b, hb, hi⟩ := hc.node n hn
    exact hi.values_by hp (find?_mem hb) (hid n hn) (h n hn)
  have hport : ∀ n ∈ g.nodes, ∀ q ∈ n.inputs ++ n.outputs,
      q.kind.toDoc.isDocumentBy fits = true ∧ q.dataType.toDoc.isDocumentBy fits = true := by
    intro n hn q hq
    have hq := fun v hv => hnode n hn v (mem_append_left _
      (mem_append_right _ (mem_flatMap.mpr ⟨q, hq, hv⟩)))
    exact ⟨hq _ (by simp [Port.values]), hq _ (by simp [Port.values])⟩
  simp only [values, forall_mem_append, forall_mem_cons, forall_mem_flatMap]
  refine ⟨hids _ hs.next (Int.le_refl _), hnode, fun w hw => ?_⟩
  obtain ⟨source, target, out, input, hj⟩ := hs.joined w hw
  obtain ⟨s, hid'⟩ := hc.wire w hw
  have hout := hport source hj.source_mem out
    (mem_append_right _ (mem_of_find?_eq_some hj.output_eq))
  have hinput := hport target hj.target_mem input
    (mem_append_left _ (mem_of_find?_eq_some hj.input_eq))
  have hif : ∀ (c : Bool) {v : Value}, v.isDocumentBy fits = true →
      (if c then v else .null).isDocumentBy fits = true := by
    intro c v hv
    cases c with
    | false => rfl
    | true => exact hv
  simp only [Wire.values, forall_mem_cons]
  rw [hid', hj.fromKind, hj.toKind, hj.fromType, hj.toType, ← hj.source_id, ← hj.target_id]
  exact ⟨rfl, hid _ hj.source_mem, hid _ hj.target_mem, hout.1, hinput.1, hif _ hout.2,
    hif _ hinput.2, nofun⟩

/-- **Edits with values that have a text** make graphs whose documents have one. -/
theorem edited_isJson (hd : PropertiesDistinct p) (hp : BlueprintsHold (fun _ => true) p)
    {edits : List Edit} (hedits : ∀ e ∈ edits, e.isDocumentBy (fun _ => true) = true) :
    (edited p edits).toDoc.isJson = true := by
  have hall : ∀ (edits : List Edit) (g : Graph),
      (∀ e ∈ edits, e.isDocumentBy (fun _ => true) = true) →
      (∀ n ∈ g.nodes, n.Holds fun _ => true) →
      ∀ n ∈ (g.afterAll (edits.map fun e => (p, e))).nodes, n.Holds fun _ => true := by
    intro edits
    induction edits with
    | nil => exact fun _ _ h => h
    | cons e rest ih =>
      intro g hedits h
      obtain ⟨he, hrest⟩ := forall_mem_cons.mp hedits
      exact ih _ hrest (e.apply_holds ⟨rfl, rfl⟩ hp h he)
  have hcurrent := edited_current hd edits
  refine isDocumentBy_toDoc (fun n hn => ?_)
    (values_by hp (edited_sound edits) hcurrent (fun _ _ _ => rfl) (hall edits empty hedits nofun))
  obtain ⟨b, -, hb⟩ := hcurrent.node n hn
  exact hb.distinct

theorem BlueprintsHold.json (hp : BlueprintsHold Value.isShort p) :
    BlueprintsHold (fun _ => true) p :=
  fun b hb v hv => (isDocument_iff.mp (hp b hb v hv)).1

theorem standard_blueprintsHold : BlueprintsHold Value.isShort Palette.standard := by
  unfold BlueprintsHold
  rw [Palette.standard_blueprints]
  decide +kernel

/-- A graph that was saved and loaded again can be saved again. -/
theorem isDocument_load_toDoc (hi : InputsDistinct p) (hd : PropertiesDistinct p)
    (hp : BlueprintsHold Value.isShort p) (hs : g.Sound) (hc : g.Current p)
    (h : g.toDoc.isDocument = true) : (load p g.toDoc).1.toDoc.isDocument = true := by
  have hnext : Value.isShort g.nextId = true :=
    (isDocumentBy_object.mp h).2 ("nextNodeId", .int g.nextId) (by simp)
  have hnext' : (load p g.toDoc).1.nextId = g.nextId := by rw [load_toDoc hi hs hc]
  have hcurrent := load_current hd g.toDoc
  refine isDocumentBy_toDoc (fun n hn => ?_) (values_by hp (load_sound p _) hcurrent
    (fun i hpos hle => ?_) (load_holds ⟨rfl, rfl⟩ hp h))
  · obtain ⟨b, -, hb⟩ := hcurrent.node n hn
    exact hb.distinct
  · rw [hnext'] at hle
    exact isShort_of_le (by omega) hle hnext

end Graph

end Sketchflow
