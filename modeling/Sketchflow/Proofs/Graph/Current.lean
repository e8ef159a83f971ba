import Sketchflow.Proofs.Graph.Sound

/-!
# Graphs of one palette

A graph that was edited on one palette only is current: each node is an instance of its blueprint,
with other defaults and more properties perhaps (`Instance`), and each wire has a text as its
identifier.

* `Fields.update_over`: fields written over fields whose names they start with.
* `seed_seeded`, `seed_of_seeded`: properties are filled in once.
* `edited_current`: edits on one palette keep graphs current.
-/

namespace Sketchflow

open Fields List

variable {b : Blueprint} {fields : Fields} {n : Node} {name : String}

/-! ## Fields with every name once -/

namespace Fields

def names (fields : Fields) : List String := fields.map (·.1)

/-- Every name occurs once. Objects are read and written as such. -/
def Distinct (fields : Fields) : Prop := (names fields).Nodup

@[simp] theorem names_nil : names [] = [] := rfl

@[simp] theorem names_cons (f : String × Value) (rest : Fields) :
    names (f :: rest) = f.1 :: names rest := rfl

@[simp] theorem names_append (front back : Fields) :
    names (front ++ back) = names front ++ names back := by
  simp [names]

theorem names_set (name : String) (v : Value) (fields : Fields) :
    names (set name v fields) =
      if name ∈ names fields then names fields else names fields ++ [name] := by
  induction fields with
  | nil => simp [set]
  | cons f rest ih =>
    unfold set
    by_cases h : f.1 = name
    · simp [h]
    · have h' : ¬name = f.1 := fun e => h e.symm
      simp only [beq_iff_eq, h, if_false, names_cons, mem_cons, h', false_or, ih]
      split_ifs <;> simp

theorem prefix_names_set (name : String) (v : Value) (fields : Fields) :
    names fields <+: names (set name v fields) := by
  rw [names_set]
  split_ifs
  · exact prefix_refl _
  · exact prefix_append _ _

theorem Distinct.set (h : fields.Distinct) (name : String) (v : Value) :
    Distinct (Fields.set name v fields) := by
  unfold Distinct
  rw [names_set]
  split_ifs with hm
  · exact h
  · exact nodup_append'.mpr ⟨h, by simp, by simpa using hm⟩

theorem has_iff :
    fields.has name = true ↔ name ∈ names fields := by
  simp [has, names]

theorem prefix_names_update (more : Fields) : ∀ fields : Fields,
    names fields <+: names (update fields more) := by
  induction more with
  | nil => exact fun fields => prefix_refl _
  | cons f rest ih => exact fun fields => (prefix_names_set f.1 f.2 fields).trans (ih _)

theorem Distinct.update (h : fields.Distinct) (more : Fields) :
    Distinct (Fields.update fields more) := by
  induction more generalizing fields with
  | nil => exact h
  | cons f rest ih => exact ih (h.set f.1 f.2)

theorem set_append_of_not_mem {v : Value} {front back : Fields}
    (h : name ∉ names front) : set name v (front ++ back) = front ++ set name v back := by
  induction front with
  | nil => rfl
  | cons f rest ih =>
    simp only [names_cons, mem_cons, not_or] at h
    have hf : (f.1 == name) = false := beq_eq_false_iff_ne.mpr fun e => h.1 e.symm
    simp only [cons_append, set, hf]
    rw [ih h.2]
    rfl

theorem update_append (new : Fields) : ∀ done old : Fields,
    (names done ++ names new).Nodup → names old <+: names new →
      update (done ++ old) new = done ++ new := by
  induction new with
  | nil =>
    intro done old _ hp
    have : old = [] := by simpa [names] using hp
    simp [this, update]
  | cons f rest ih =>
    intro done old hn hp
    have hf : f.1 ∉ names done := fun hm =>
      (nodup_append'.mp hn).2.2 hm (by simp)
    have hn' : (names (done ++ [f]) ++ names rest).Nodup := by simpa using hn
    have hstep : set f.1 f.2 (done ++ old) = (done ++ [f]) ++ old.tail := by
      rw [set_append_of_not_mem hf]
      cases old with
      | nil => simp [set]
      | cons e old =>
        have he : e.1 = f.1 := by
          simp only [names_cons] at hp
          exact (cons_prefix_cons.mp hp).1
        simp [set, he]
    have hp' : names old.tail <+: names rest := by
      cases old with
      | nil => exact nil_prefix
      | cons e old =>
        simp only [names_cons] at hp
        exact (cons_prefix_cons.mp hp).2
    have := ih (done ++ [f]) old.tail hn' hp'
    simp only [update, foldl_cons] at this ⊢
    rw [hstep, this]
    simp

theorem update_over {more : Fields} (hd : more.Distinct)
    (hp : names fields <+: names more) : update fields more = more := by
  have := update_append more [] fields (by simpa [Distinct] using hd) hp
  simpa using this

end Fields

/-! ## Nodes and their blueprints -/

namespace Graph

/-- The properties in which literals and random sources keep their inputs are there. -/
structure Seeded (n : Node) : Prop where
  literal : isLiteral n.type = true → (n.input? "value").isSome = true →
    n.properties.has "value" = true
  random : n.type = randomType →
    n.properties.has "min" = true ∧ n.properties.has "max" = true

/-- A node made from a blueprint and edited since. -/
structure Instance (b : Blueprint) (n : Node) : Prop where
  outputs_eq : n.outputs = b.outputs
  inputs_eq : n.inputs.map Port.shape = b.inputs.map Port.shape
  names_start : Fields.names b.properties <+: Fields.names n.properties
  distinct : n.properties.Distinct
  seeded : Seeded n

/-- Every node is an instance of its blueprint, and every wire has a text as its identifier. -/
structure Current (p : Palette) (g : Graph) : Prop where
  node : ∀ n ∈ g.nodes, ∃ b, p.find? n.type = some b ∧ Instance b n
  wire : ∀ w ∈ g.wires, ∃ s, w.id = .str s

theorem Instance.exists_input (h : Instance b n) {p : Port}
    (hp : p ∈ n.inputs) : ∃ q ∈ b.inputs, q.shape = p.shape := by
  have : p.shape ∈ b.inputs.map Port.shape := h.inputs_eq ▸ mem_map_of_mem hp
  exact mem_map.mp this

theorem Instance.exists_port (h : Instance b n) {q : Port}
    (hq : q ∈ b.inputs) : ∃ p ∈ n.inputs, p.shape = q.shape := by
  have : q.shape ∈ n.inputs.map Port.shape := h.inputs_eq ▸ mem_map_of_mem hq
  exact mem_map.mp this

/-! ### Filling in properties -/

theorem setMissing_has_self (name : String) (v : Value) (fields : Fields) :
    (setMissing name v fields).has name = true := by
  unfold setMissing
  split_ifs with h
  · exact h
  · rw [has_iff, names_set]
    split_ifs with hm
    · exact hm
    · simp

theorem prefix_names_setMissing (name : String) (v : Value) (fields : Fields) :
    Fields.names fields <+: Fields.names (setMissing name v fields) := by
  unfold setMissing
  split_ifs
  · exact prefix_refl _
  · exact prefix_names_set _ _ _

theorem setMissing_distinct (h : fields.Distinct) (name : String) (v : Value) :
    (setMissing name v fields).Distinct := by
  unfold setMissing
  split_ifs
  · exact h
  · exact h.set name v

theorem has_of_names {fields' : Fields}
    (hp : Fields.names fields <+: Fields.names fields') (h : fields.has name = true) :
    fields'.has name = true :=
  has_iff.mpr (hp.subset (has_iff.mp h))

theorem seed_eq (n : Node) : ∃ properties, seed n = { n with properties := properties } ∧
    Fields.names n.properties <+: Fields.names properties ∧
    (n.properties.Distinct → properties.Distinct) := by
  unfold seed
  split_ifs
  · split
    · exact ⟨_, rfl, prefix_names_set _ _ _, fun h => h.set _ _⟩
    · exact ⟨n.properties, rfl, prefix_refl _, id⟩
  · exact ⟨_, rfl, (prefix_names_setMissing _ _ _).trans (prefix_names_setMissing _ _ _),
      fun h => setMissing_distinct (setMissing_distinct h _ _) _ _⟩
  · exact ⟨n.properties, rfl, prefix_refl _, id⟩

theorem isLiteral_randomType : isLiteral randomType = false := by decide

theorem seed_seeded (n : Node) : Seeded (seed n) := by
  unfold seed
  split_ifs with h1 h2
  · simp only [Bool.and_eq_true, Bool.not_eq_true'] at h1
    have hr : n.type ≠ randomType := fun e => by
      rw [e, isLiteral_randomType] at h1
      exact Bool.false_ne_true h1.1
    split
    · refine ⟨fun _ _ => ?_, fun e => absurd e hr⟩
      rw [has_iff, names_set]
      split_ifs with hm
      · exact hm
      · simp
    · rename_i hn
      exact ⟨fun _ hs => by simp [hn] at hs, fun e => absurd e hr⟩
  · have ht : n.type = randomType := by simpa using h2
    refine ⟨fun hl _ => ?_, fun _ => ⟨?_, setMissing_has_self _ _ _⟩⟩
    · simp only [ht, isLiteral_randomType] at hl
      exact absurd hl Bool.false_ne_true
    · exact has_of_names (prefix_names_setMissing _ _ _) (setMissing_has_self _ _ _)
  · refine ⟨fun hl _ => ?_, fun e => by simp [e] at h2⟩
    simpa [hl] using h1

theorem seed_of_seeded (h : Seeded n) : seed n = n := by
  unfold seed
  split_ifs with h1 h2
  · simp only [Bool.and_eq_true, Bool.not_eq_true'] at h1
    split
    · rename_i hi
      have := h.literal h1.1 (by simp [hi])
      rw [h1.2] at this
      exact absurd this Bool.false_ne_true
    · rfl
  · obtain ⟨hmin, hmax⟩ := h.random (by simpa using h2)
    simp [setMissing, hmin, hmax]
  · rfl

theorem Seeded.of_edit {n' : Node} (h : Seeded n) (ht : n'.type = n.type)
    (hi : n'.inputs.map Port.shape = n.inputs.map Port.shape)
    (hp : Fields.names n.properties <+: Fields.names n'.properties) : Seeded n' where
  literal hl hs := by
    refine has_of_names hp (h.literal (ht ▸ hl) ?_)
    obtain ⟨q, hq⟩ := Option.isSome_iff_exists.mp hs
    obtain ⟨q', hq', -⟩ := Port.find?_of_shape_eq hi.symm hq
    simp [Node.input?, hq']
  random e := by
    obtain ⟨hmin, hmax⟩ := h.random (ht ▸ e)
    exact ⟨has_of_names hp hmin, has_of_names hp hmax⟩

theorem instance_seed (ho : n.outputs = b.outputs)
    (hi : n.inputs.map Port.shape = b.inputs.map Port.shape)
    (hp : Fields.names b.properties <+: Fields.names n.properties)
    (hd : n.properties.Distinct) : Instance b (seed n) := by
  obtain ⟨properties, he, hp', hd'⟩ := seed_eq n
  have hs := seed_seeded n
  rw [he] at hs ⊢
  exact ⟨ho, hi, hp.trans hp', hd' hd, hs⟩

theorem Instance.of_edit (h : Instance b n) (n' : Node)
    (ht : n'.type = n.type) (hs : n'.shape = n.shape)
    (hp : Fields.names n.properties <+: Fields.names n'.properties)
    (hd : n'.properties.Distinct) : Instance b n' where
  outputs_eq := (outputs_of_shape hs).trans h.outputs_eq
  inputs_eq := (inputs_of_shape hs).trans h.inputs_eq
  names_start := h.names_start.trans hp
  distinct := hd
  seeded := h.seeded.of_edit ht (inputs_of_shape hs) hp

/-! ## Edits keep graphs current -/

variable {p : Palette} {g g' : Graph}

theorem empty_current : empty.Current p := ⟨by simp [empty], by simp [empty]⟩

theorem seed_type (n : Node) : (seed n).type = n.type := by
  obtain ⟨_, he, -⟩ := seed_eq n
  rw [he]

theorem find?_mem {type : String} (h : p.find? type = some b) :
    b ∈ p.blueprints :=
  mem_of_find?_eq_some h

theorem Current.push_node (h : g.Current p) {nextId : Int}
    (hb : p.find? n.type = some b) (hn : Instance b n) :
    Current p { g with nodes := g.nodes ++ [n], nextId := nextId } where
  node m hm := by
    rcases mem_append.mp hm with hm | hm
    · exact h.node m hm
    · exact mem_singleton.mp hm ▸ ⟨b, hb, hn⟩
  wire := h.wire

theorem Current.sublist (h : g.Current p) (hn : g'.nodes ⊆ g.nodes) (hw : g'.wires ⊆ g.wires) :
    g'.Current p :=
  ⟨fun n hm => h.node n (hn hm), fun w hm => h.wire w (hw hm)⟩

theorem Current.push_wire (h : g.Current p) {w : Wire} {s : String} (hw : w.id = .str s) :
    Current p { g with wires := g.wires ++ [w] } where
  node := h.node
  wire v hv := by
    rcases mem_append.mp hv with hv | hv
    · exact h.wire v hv
    · exact mem_singleton.mp hv ▸ ⟨s, hw⟩

theorem updateNode_current (h : g.Current p) (id : Value) {f : Node → Node}
    (ht : ∀ n, (f n).type = n.type) (hf : ∀ b n, Instance b n → Instance b (f n)) :
    (g.updateNode id f).2.Current p where
  node := by
    refine forall_updateNode id (fun n hn => ?_) h.node
    obtain ⟨b, hb, hi⟩ := hn
    exact ⟨b, (ht n).symm ▸ hb, hf b n hi⟩
  wire := by
    rw [updateNode_wires]
    exact h.wire

theorem setProperty_current (h : g.Current p) (id : Value) (key : String) (v : Value) :
    (g.setProperty id key v).2.Current p :=
  updateNode_current h id (fun _ => rfl) fun _ n hn =>
    hn.of_edit { n with properties := Fields.set key v n.properties } rfl rfl
      (prefix_names_set _ _ _) (hn.distinct.set _ _)

theorem withDefault_instance (h : Instance b n) (port v : Value) :
    Instance b (withDefault port v n) := by
  refine h.of_edit _ rfl (withDefault_shape port v n) ?_ ?_
  · unfold withDefault
    dsimp only
    split_ifs
    · exact prefix_names_set _ _ _
    · exact prefix_refl _
  · unfold withDefault
    dsimp only
    split_ifs
    · exact h.distinct.set _ _
    · exact h.distinct

/-- A palette whose blueprints give each input an identifier of its own. -/
def InputsDistinct (p : Palette) : Prop :=
  ∀ b ∈ p.blueprints, (b.inputs.map Port.id).Nodup

/-- A palette whose blueprints hold each property once. -/
def PropertiesDistinct (p : Palette) : Prop :=
  ∀ b ∈ p.blueprints, b.properties.Distinct

theorem create_current (hp : PropertiesDistinct p) (h : g.Current p) {type : String}
    {x y : Value} (hc : g.create p type x y = .ok (n, g')) : g'.Current p := by
  unfold create at hc
  split at hc
  · cases hc
  · rename_i b hb
    cases hc
    refine h.push_node (b := b) (by rw [seed_type]; exact hb) (instance_seed rfl rfl ?_ ?_)
    · exact prefix_refl _
    · exact hp b (find?_mem hb)

theorem keepDefault_shape (saved : Node) (q : Port) : (keepDefault saved q).shape = q.shape := by
  unfold keepDefault
  split
  · split_ifs <;> rfl
  · rfl

theorem loadNode_current (hp : PropertiesDistinct p) (h : g.Current p) {entry : Value}
    (hl : loadNode p entry g = .ok g') : g'.Current p := by
  obtain ⟨saved, b, -, -, hb, rfl⟩ := loadNode_eq_ok.mp hl
  have hd := hp b (find?_mem hb)
  refine h.push_node (b := b) (by rw [migrate, seed_type]; exact hb) (instance_seed rfl ?_ ?_ ?_)
  · simp [instantiate, Function.comp_def, keepDefault_shape]
  · exact prefix_names_update _ _
  · exact hd.update _

theorem wire_ofDoc_id {doc : Value} {w : Wire} (h : Wire.ofDoc doc = .ok w) :
    ∃ s, w.id = .str s := by
  unfold Wire.ofDoc at h
  split at h
  · rename_i fields
    unfold Wire.ofFields at h
    simp only [bind, Except.bind] at h
    repeat' split at h
    all_goals first | cases h | exact ⟨_, (join_eq_ok h).2.2.2.2⟩
  · cases h

theorem loadWire_current (h : g.Current p) {entry : Value} (hl : loadWire entry g = .ok g') :
    g'.Current p := by
  obtain ⟨w, out, input, hd, -, -, rfl⟩ := loadWire_eq_ok.mp hl
  obtain ⟨s, hs⟩ := wire_ofDoc_id hd
  exact h.push_wire (s := s) hs

theorem load_current (hp : PropertiesDistinct p) (doc : Value) : (load p doc).1.Current p := by
  unfold load
  split
  · exact empty_current
  · rename_i fields
    have hnodes : Current p (loadAll (loadNode p) (entries fields "nodes").1 empty).1 :=
      loadAll_keeps _ (fun _ _ _ h hl => loadNode_current hp h hl) _ empty empty_current
    have hwires := loadAll_keeps (P := Current p) loadWire
      (fun _ _ _ h hl => loadWire_current h hl) (entries fields "connections").1 _ hnodes
    exact ⟨hwires.node, hwires.wire⟩
  · exact empty_current

theorem connect_current (h : g.Current p) (tag : String) (fromNode fromPort toNode toPort : Value) :
    (g.connect tag fromNode fromPort toNode toPort).2.Current p := by
  have hfew : ∀ r, Current p { g with
      wires := g.wires.filter fun w => !w.enters toNode toPort, refusal := r } := fun r =>
    ⟨h.node, fun w hw => h.wire w (mem_of_mem_filter hw)⟩
  unfold connect
  split
  · exact ⟨h.node, h.wire⟩
  · dsimp only
    split_ifs
    · exact hfew _
    · split
      · exact hfew _
      · rename_i hj
        exact (hfew none).push_wire (join_eq_ok hj).2.2.2.2

theorem remove_current (h : g.Current p) (id : Value) : (g.remove id).2.Current p := by
  unfold remove
  split
  · exact h
  · exact h.sublist eraseP_subset (filter_sublist).subset

theorem setDefault_current (h : g.Current p) (id port v : Value) :
    (g.setDefault id port v).2.Current p := by
  unfold setDefault
  split
  · exact h
  · exact updateNode_current h id (fun _ => rfl) fun _ _ hn => withDefault_instance hn port v

theorem Edit.apply_current (hp : PropertiesDistinct p) (h : g.Current p) (e : Edit) :
    (e.apply p g).Current p := by
  cases e with
  | create type x y =>
    simp only [Edit.apply]
    split
    · rename_i hc
      obtain ⟨name, hc⟩ := createBy_eq_ok hc
      exact create_current hp h hc
    · exact h
  | remove id => exact remove_current h id
  | move id x y =>
    exact updateNode_current h id (fun _ => rfl) fun _ n hn =>
      hn.of_edit { n with x, y } rfl rfl (prefix_refl _) hn.distinct
  | setProperty id key v =>
    simp only [Edit.apply]
    split
    · rename_i hs
      obtain rfl | ⟨name, rfl⟩ := setPropertyBy_eq_ok hs
      · exact h
      · exact setProperty_current h id name v
    · exact h
  | setDefault id port v => exact setDefault_current h id port v
  | connect tag fromNode fromPort toNode toPort =>
    exact connect_current h tag fromNode fromPort toNode toPort
  | disconnect id => exact h.sublist (List.Subset.refl _) (filter_sublist).subset
  | clear => exact empty_current
  | load doc => exact load_current hp doc

/-- The graph after edits of the empty graph on one palette. -/
def edited (p : Palette) (edits : List Edit) : Graph :=
  empty.afterAll (edits.map fun e => (p, e))

/-- **Edits on one palette keep graphs current.** -/
theorem edited_current (hp : PropertiesDistinct p) (edits : List Edit) :
    (edited p edits).Current p := by
  have hall : ∀ (edits : List Edit) (g : Graph), g.Current p →
      (g.afterAll (edits.map fun e => (p, e))).Current p := by
    intro edits
    induction edits with
    | nil => exact fun _ h => h
    | cons e rest ih => exact fun g h => ih _ (e.apply_current hp h)
  exact hall edits empty empty_current

end Graph

end Sketchflow
