import Sketchflow.Proofs.Api.Bodies
import Sketchflow.Proofs.Graph.Selection
import Sketchflow.Proofs.Json.Document

/-!
# Changes of a node

A request to change a node gives what should change: a position, properties, and defaults of inputs.
It is refused as a whole, or all of it is done.

* `Faulty` are the changes that are refused. A field of properties or inputs that is no object but
  counts as false is not among them: it stands for an empty object.
* `Changed` says what a node looks like after a change, `Replaced` what the graph does.
* **`respond_change`**: a faulty change leaves everything as it was, and any other leads to the
  changed node in its place.
* `respond_change_empty`: a list is taken for properties, and a truth value for inputs.
-/

namespace Sketchflow

open Fields List

/-! ## Changing one node -/

namespace Graph

/-- A graph with a node replaced by another; it is the first with its number. -/
structure Replaced (g : Graph) (n n' : Node) (g' : Graph) : Prop where
  nodes : ∃ front back, g.nodes = front ++ n :: back ∧ (∀ m ∈ front, m.id ≠ n.id) ∧
    g'.nodes = front ++ n' :: back
  others : g' = { g with nodes := g'.nodes }

variable {g g' : Graph} {n n' : Node}

theorem Replaced.refl (h : g.node? (.int n.id) = some n) : Replaced g n n g := by
  obtain ⟨-, front, back, hnodes, hfront⟩ := find?_eq_some_iff_append.mp h
  refine ⟨⟨front, back, hnodes, fun m hm => ?_, hnodes⟩, rfl⟩
  have hne := hfront m hm
  intro h
  simp [h] at hne

theorem updateNode_go_first {id : Int} {front back : List Node} (f : Node → Node)
    (hfront : ∀ m ∈ front, m.id ≠ id) (hn : n.id = id) :
    updateNode.go (.int id) f (front ++ n :: back) = front ++ f n :: back := by
  induction front with
  | nil => simp [updateNode.go, hn]
  | cons m rest ih =>
    obtain ⟨hm, hrest⟩ := forall_mem_cons.mp hfront
    have hid : ¬ id = m.id := fun h => hm h.symm
    simp [updateNode.go, hid, ih hrest]

theorem Replaced.node? (h : Replaced g n n' g') (hid : n'.id = n.id) :
    g'.node? (.int n.id) = some n' := by
  obtain ⟨⟨front, back, -, hfront, hnodes⟩, -⟩ := h
  unfold Graph.node?
  rw [hnodes]
  refine find?_eq_some_iff_append.mpr ⟨by simp [hid], front, back, rfl, fun m hm => ?_⟩
  have hne : ¬ n.id = m.id := fun h => hfront m hm h.symm
  simp [hne]

theorem Replaced.updateNode (h : Replaced g n n' g') (hid : n'.id = n.id) (f : Node → Node) :
    Replaced g n (f n') (g'.updateNode (.int n.id) f).2 := by
  have hfound := h.node? hid
  obtain ⟨⟨front, back, hg, hfront, hnodes⟩, hothers⟩ := h
  have hgo : updateNode.go (.int n.id) f g'.nodes = front ++ f n' :: back := by
    rw [hnodes]
    exact updateNode_go_first f hfront hid
  unfold Graph.updateNode
  rw [hfound]
  refine ⟨⟨front, back, hg, hfront, hgo⟩, ?_⟩
  conv_lhs => rw [hothers]

/-! ## Defaults of inputs -/

/-- The port at a position is the first one with its identifier. -/
def FirstAt (ports : List Port) (i : Nat) (p : Port) : Prop :=
  ports[i]? = some p ∧ ∀ j q, j < i → ports[j]? = some q → q.id ≠ p.id

variable {ports : List Port} {i : Nat} {p : Port}

theorem firstAt_cons {q : Port} :
    FirstAt (q :: ports) (i + 1) p ↔ q.id ≠ p.id ∧ FirstAt ports i p := by
  constructor
  · rintro ⟨hp, hfirst⟩
    refine ⟨hfirst 0 q (Nat.succ_pos i) rfl, hp, fun j r hj hr => ?_⟩
    exact hfirst (j + 1) r (Nat.succ_lt_succ hj) hr
  · rintro ⟨hq, hp, hfirst⟩
    refine ⟨hp, fun j r hj hr => ?_⟩
    cases j with
    | zero =>
      cases hr
      exact hq
    | succ j => exact hfirst j r (Nat.lt_of_succ_lt_succ hj) hr

theorem getElem?_setPortDefault (name : String) (v : Value) (hp : ports[i]? = some p) :
    (FirstAt ports i p → p.id = name →
      (setPortDefault (.str name) v ports)[i]? = some { p with default := v }) ∧
    ((FirstAt ports i p → p.id ≠ name) → (setPortDefault (.str name) v ports)[i]? = some p) := by
  induction ports generalizing i with
  | nil => cases hp
  | cons q rest ih =>
    have htext : (Value.str name).isText q.id = decide (q.id = name) := by
      rw [Bool.eq_iff_iff, decide_eq_true_iff, Value.isText, beq_iff_eq]
      exact eq_comm
    unfold setPortDefault
    rw [htext]
    cases i with
    | zero =>
      obtain rfl : q = p := by simpa using hp
      have hfirst : FirstAt (q :: rest) 0 q := ⟨rfl, fun j _ hj => absurd hj (Nat.not_lt_zero j)⟩
      refine ⟨fun _ hname => by simp [hname], fun hother => ?_⟩
      simp [hother hfirst]
    | succ i =>
      have hp' : rest[i]? = some p := hp
      by_cases hq : q.id = name
      · -- The name is found in front, so the port here is not the first with it.
        have hlater : FirstAt (q :: rest) (i + 1) p → p.id ≠ name := by
          intro hfirst hname
          exact (firstAt_cons.mp hfirst).1 (hq.trans hname.symm)
        refine ⟨fun hfirst hname => absurd hname (hlater hfirst), fun _ => ?_⟩
        simpa [hq] using hp'
      · have hrest : FirstAt rest i p → p.id = name → FirstAt (q :: rest) (i + 1) p :=
          fun hfirst hname => firstAt_cons.mpr ⟨fun h => hq (h.trans hname), hfirst⟩
        refine ⟨fun hfirst hname => ?_, fun hother => ?_⟩
        · simpa [hq] using (ih hp').1 (firstAt_cons.mp hfirst).2 hname
        · have := (ih hp').2 fun hfirst hname => hother (hrest hfirst hname) hname
          simpa [hq] using this

theorem setPortDefault_ids (port v : Value) (ports : List Port) :
    (setPortDefault port v ports).map (·.id) = ports.map (·.id) := by
  induction ports with
  | nil => rfl
  | cons q rest ih =>
    unfold setPortDefault
    split
    · rfl
    · rw [map_cons, ih, map_cons]

/-- Which ports are the first of their names depends on the names only. -/
theorem FirstAt.of_ids {ports' : List Port} {p' : Port} (h : FirstAt ports i p)
    (hids : ports'.map (·.id) = ports.map (·.id)) (hp : ports'[i]? = some p') (hid : p'.id = p.id) :
    FirstAt ports' i p' := by
  refine ⟨hp, fun j q hj hq => ?_⟩
  have hname : (ports.map (·.id))[j]? = some q.id := by
    rw [← hids, getElem?_map, hq]
    rfl
  rw [getElem?_map] at hname
  obtain ⟨r, hr, hrid⟩ := Option.map_eq_some_iff.mp hname
  rw [← hrid, hid]
  exact h.2 j r hj hr

def withDefaults (n : Node) (inputs : Fields) : Node :=
  inputs.foldl (fun n f => withDefault (.str f.1) f.2 n) n

end Graph

namespace Api

open Graph (Replaced FirstAt)

/-- The fields of an object that a field holds; none if it holds something else. -/
def objectAt (fields : Fields) (name : String) : Fields :=
  match fields.get? name with
  | some (.object members) => members
  | _ => []

/-- Why a change of a node is refused. -/
inductive Faulty (n : Node) (fields : Fields) : Prop
  | place {name : String} {v : Value} (isPlace : name ∈ ["x", "y"])
      (given : fields.get? name = some v) (noNumber : v.isNumber = false)
  | members {name : String} {v : Value} (isMembers : name ∈ ["properties", "inputs"])
      (given : fields.get? name = some v) (isTrue : v.isTrue = true)
      (noObject : ∀ members, v ≠ .object members)
  | input {name : String} (given : name ∈ (objectAt fields "inputs").names)
      (missing : n.input? name = none)

/-- What a node looks like after a change. -/
structure Changed (n : Node) (fields : Fields) (n' : Node) : Prop where
  id : n'.id = n.id
  type : n'.type = n.type
  outputs : n'.outputs = n.outputs
  x : n'.x = (fields.get? "x").getD n.x
  y : n'.y = (fields.get? "y").getD n.y
  /-- Every named default is the given one. -/
  named : ∀ name v, (objectAt fields "inputs").get? name = some v →
    (n'.input? name).map (·.default) = some v
  /-- Nothing else of the inputs has changed: a port differs only in its default, and that only if
  it is the first of its name and the name is given. -/
  inputs : n'.inputs.length = n.inputs.length ∧ ∀ i p, n.inputs[i]? = some p →
    (FirstAt n.inputs i p → n'.inputs[i]? =
      some { p with default := ((objectAt fields "inputs").get? p.id).getD p.default }) ∧
    (¬ FirstAt n.inputs i p → n'.inputs[i]? = some p)
  /-- A property is what the default of an input made it, or what is given, or what it was. -/
  property : ∀ key, n'.properties.get? key =
    ((if Graph.isKeptAsProperty n.type (.str key) then (objectAt fields "inputs").get? key
      else none).or
      ((objectAt fields "properties").get? key)).or (n.properties.get? key)
  /-- The properties that were there stay in their order. -/
  order : n.properties.names <+: n'.properties.names

/-! ## Reading a change -/

variable {n : Node} {fields : Fields}

theorem objectField_eq (fields : Fields) (name : String) :
    objectField fields name = .object (objectAt fields name) ∨
    ∃ v, fields.get? name = some v ∧ v.isTrue = true ∧ (∀ members, v ≠ .object members) ∧
      objectField fields name = v := by
  unfold objectField objectAt Fields.getD
  cases hget : fields.get? name with
  | none => exact .inl rfl
  | some v =>
    simp only [Option.getD_some]
    cases htrue : v.isTrue with
    | true =>
      cases v with
      | object members => exact .inl rfl
      | _ => exact .inr ⟨_, rfl, htrue, nofun, rfl⟩
    | false =>
      left
      cases v with
      | object members =>
        have hempty : members = [] := by simpa [Value.isTrue] using htrue
        simp [hempty]
      | _ => rfl

theorem read_eq_ok (h : ¬ Faulty n fields) : NodeChange.read n fields =
    .ok ⟨fields.get? "x", fields.get? "y", objectAt fields "properties",
      objectAt fields "inputs"⟩ := by
  have hplace : ∀ name ∈ ["x", "y"], (fields.get? name).all Value.isNumber = true := by
    intro name hname
    cases hget : fields.get? name with
    | none => rfl
    | some v =>
      cases hnumber : v.isNumber with
      | true => exact hnumber
      | false => exact absurd (.place hname hget hnumber) h
  have hmembers : ∀ name ∈ ["properties", "inputs"],
      objectField fields name = .object (objectAt fields name) := by
    intro name hname
    rcases objectField_eq fields name with heq | ⟨v, hget, htrue, hobject, -⟩
    · exact heq
    · exact absurd (.members hname hget htrue hobject) h
  have hknown : (((objectAt fields "inputs").map (·.1)).filter fun id =>
      (n.input? id).isNone) = [] := by
    rw [filter_eq_nil_iff]
    intro name hname hmissing
    exact h (.input hname (Option.isNone_iff_eq_none.mp hmissing))
  unfold NodeChange.read
  simp only [hplace "x" (by simp), hplace "y" (by simp), hmembers "properties" (by simp),
    hmembers "inputs" (by simp), hknown]
  rfl

theorem read_eq_error (h : Faulty n fields) :
    ∃ message, NodeChange.read n fields = .error message := by
  unfold NodeChange.read
  simp only
  split
  · rename_i hnumbers
    rw [Bool.and_eq_true] at hnumbers
    split
    · rename_i properties inputs hp hi
      cases h with
      | @place name v isPlace given noNumber =>
        have hnumber : (fields.get? name).all Value.isNumber = true := by
          rcases mem_pair.mp isPlace with rfl | rfl
          · exact hnumbers.1
          · exact hnumbers.2
        rw [given, Option.all_some, noNumber] at hnumber
        cases hnumber
      | @members name v isMembers given isTrue noObject =>
        have hfield : objectField fields name = v := by
          simp [objectField, Fields.getD, given, isTrue]
        rcases mem_pair.mp isMembers with rfl | rfl
        · exact absurd (hfield.symm.trans hp) (noObject properties)
        · exact absurd (hfield.symm.trans hi) (noObject inputs)
      | @input name given missing =>
        have hinputs : objectAt fields "inputs" = inputs := by
          rcases objectField_eq fields "inputs" with heq | ⟨v, -, -, hobject, heq⟩
          · rw [hi] at heq
            cases heq
            rfl
          · exact absurd (heq.symm.trans hi) (hobject inputs)
        rw [hinputs] at given
        have hne : ((inputs.map (·.1)).filter fun id => (n.input? id).isNone).isEmpty = false := by
          rw [Bool.eq_false_iff, ne_eq, List.isEmpty_iff, List.filter_eq_nil_iff]
          exact fun hall => hall name given (by rw [missing]; rfl)
        rw [hne]
        exact ⟨_, rfl⟩
    · exact ⟨_, rfl⟩
  · exact ⟨_, rfl⟩

/-! ## Making a change -/

def changedNode (n : Node) (fields : Fields) : Node :=
  Graph.withDefaults
    { n with
      x := (fields.get? "x").getD n.x
      y := (fields.get? "y").getD n.y
      properties := n.properties.update (objectAt fields "properties") }
    (objectAt fields "inputs")

theorem withDefaults_frame (inputs : Fields) (n : Node) :
    (Graph.withDefaults n inputs).id = n.id ∧ (Graph.withDefaults n inputs).type = n.type ∧
    (Graph.withDefaults n inputs).outputs = n.outputs ∧ (Graph.withDefaults n inputs).x = n.x ∧
    (Graph.withDefaults n inputs).y = n.y ∧
    (Graph.withDefaults n inputs).inputs.map (·.id) = n.inputs.map (·.id) := by
  induction inputs generalizing n with
  | nil => exact ⟨rfl, rfl, rfl, rfl, rfl, rfl⟩
  | cons f rest ih =>
    obtain ⟨hid, htype, houtputs, hx, hy, hids⟩ := ih (Graph.withDefault (.str f.1) f.2 n)
    refine ⟨hid, htype, houtputs, hx, hy, hids.trans ?_⟩
    exact Graph.setPortDefault_ids (.str f.1) f.2 n.inputs

theorem getElem?_withDefaults {inputs : Fields} (hd : inputs.Distinct) (n : Node) {i : Nat}
    {p : Port} (hp : n.inputs[i]? = some p) :
    (FirstAt n.inputs i p → (Graph.withDefaults n inputs).inputs[i]? =
      some { p with default := (inputs.get? p.id).getD p.default }) ∧
    (¬ FirstAt n.inputs i p → (Graph.withDefaults n inputs).inputs[i]? = some p) := by
  induction inputs generalizing n p with
  | nil => exact ⟨fun _ => hp, fun _ => hp⟩
  | cons f rest ih =>
    obtain ⟨hfresh, hrest⟩ := nodup_cons.mp hd
    have hids := Graph.setPortDefault_ids (.str f.1) f.2 n.inputs
    obtain ⟨hset, hkeep⟩ := Graph.getElem?_setPortDefault f.1 f.2 hp
    refine ⟨fun hfirst => ?_, fun hlater => ?_⟩
    · by_cases hname : p.id = f.1
      · -- The given value is set now, and the name does not come again.
        have hp' := hset hfirst hname
        have hnone : Fields.get? rest p.id = none := by
          rw [hname]
          exact get?_eq_none.mpr hfresh
        have hlast := (ih hrest (Graph.withDefault (.str f.1) f.2 n) hp').1
          (hfirst.of_ids hids hp' rfl)
        rw [get?_cons, if_pos hname.symm]
        simpa [Graph.withDefaults, hnone] using hlast
      · have hp' := hkeep fun _ => hname
        have hlast := (ih hrest (Graph.withDefault (.str f.1) f.2 n) hp').1
          (hfirst.of_ids hids hp' rfl)
        rw [get?_cons, if_neg (Ne.symm hname)]
        exact hlast
    · have hp' := hkeep fun hfirst => absurd hfirst hlater
      refine (ih hrest (Graph.withDefault (.str f.1) f.2 n) hp').2 fun hfirst => ?_
      exact hlater (hfirst.of_ids hids.symm hp rfl)

theorem get?_withDefaults {inputs : Fields} (hd : inputs.Distinct) (n : Node) (key : String) :
    (Graph.withDefaults n inputs).properties.get? key =
      (if Graph.isKeptAsProperty n.type (.str key) then inputs.get? key else none).or
        (n.properties.get? key) := by
  induction inputs generalizing n with
  | nil => simp [Graph.withDefaults, Fields.get?]
  | cons f rest ih =>
    obtain ⟨hfresh, hrest⟩ := nodup_cons.mp hd
    have hstep : (Graph.withDefaults n (f :: rest)).properties.get? key = _ :=
      ih hrest (Graph.withDefault (.str f.1) f.2 n)
    have htype : (Graph.withDefault (.str f.1) f.2 n).type = n.type := rfl
    rw [hstep, htype, get?_cons]
    by_cases hname : f.1 = key
    · have hnone : Fields.get? rest key = none := by
        rw [← hname]
        exact get?_eq_none.mpr hfresh
      subst hname
      cases hkept : Graph.isKeptAsProperty n.type (.str f.1) with
      | true => simp [hnone, Graph.withDefault, hkept, Value.display, get?_set]
      | false => simp [Graph.withDefault, hkept]
    · have hprops : (Graph.withDefault (.str f.1) f.2 n).properties.get? key =
          n.properties.get? key := by
        unfold Graph.withDefault
        simp only
        split
        · rw [get?_set, if_neg (by simpa [Value.display] using hname)]
        · rfl
      rw [hprops, if_neg hname]

theorem names_withDefaults (inputs : Fields) (n : Node) :
    n.properties.names <+: (Graph.withDefaults n inputs).properties.names := by
  induction inputs generalizing n with
  | nil => exact prefix_refl _
  | cons f rest ih =>
    refine List.IsPrefix.trans ?_ (ih (Graph.withDefault (.str f.1) f.2 n))
    unfold Graph.withDefault
    simp only
    split
    · exact prefix_names_set _ _ _
    · exact prefix_refl _

theorem firstAt_of_input? {name : String} {p : Port} (h : n.input? name = some p) :
    p.id = name ∧ ∃ i, FirstAt n.inputs i p := by
  obtain ⟨hid, front, back, hinputs, hfront⟩ := find?_eq_some_iff_append.mp h
  have hname : p.id = name := by simpa using hid
  refine ⟨hname, front.length, ?_, fun j q hj hq => ?_⟩
  · rw [hinputs]
    simp
  · rw [hinputs, getElem?_append_left hj] at hq
    have := hfront q (mem_of_getElem? hq)
    rw [hname]
    simpa using this

theorem input?_of_firstAt {i : Nat} {p : Port} (h : FirstAt n.inputs i p) :
    n.input? p.id = some p := by
  obtain ⟨hi, hp⟩ := List.getElem?_eq_some_iff.mp h.1
  refine find?_eq_some_iff_append.mpr ⟨by simp, n.inputs.take i, n.inputs.drop (i + 1), ?_, ?_⟩
  · rw [← hp, getElem_cons_drop, take_append_drop]
  · intro q hq
    obtain ⟨j, hj, hjq⟩ := mem_take_iff_getElem.mp hq
    have hlt : j < i := lt_of_lt_of_le hj (Nat.min_le_left _ _)
    have := h.2 j q hlt (List.getElem?_eq_some_iff.mpr ⟨by omega, hjq⟩)
    simpa using this

/-- **What a change makes of a node.** -/
theorem changed_changedNode (hproperties : (objectAt fields "properties").Distinct)
    (hinputs : (objectAt fields "inputs").Distinct) (h : ¬ Faulty n fields) :
    Changed n fields (changedNode n fields) := by
  let moved : Node := { n with
    x := (fields.get? "x").getD n.x
    y := (fields.get? "y").getD n.y
    properties := n.properties.update (objectAt fields "properties") }
  obtain ⟨hid, htype, houtputs, hx, hy, hids⟩ := withDefaults_frame (objectAt fields "inputs") moved
  refine ⟨hid, htype, houtputs, hx, hy, fun name v hv => ?_, ⟨?_, fun i p hp => ?_⟩,
    fun key => ?_, ?_⟩
  · cases hport : n.input? name with
    | none =>
      have hgiven : name ∈ (objectAt fields "inputs").names := by
        by_contra hout
        rw [get?_eq_none.mpr hout] at hv
        cases hv
      exact absurd (.input hgiven hport) h
    | some p =>
      obtain ⟨rfl, i, hfirst⟩ := firstAt_of_input? hport
      have hset := (getElem?_withDefaults hinputs moved hfirst.1).1 hfirst
      have hfound := input?_of_firstAt (n := changedNode n fields)
        (FirstAt.of_ids hfirst hids hset rfl)
      simp only at hfound
      rw [hfound]
      simp [hv]
  · have hlength := congrArg List.length hids
    rw [length_map, length_map] at hlength
    exact hlength
  · exact getElem?_withDefaults hinputs moved hp
  · rw [Option.or_assoc, ← get?_update hproperties]
    exact get?_withDefaults hinputs moved key
  · exact (prefix_names_update _ _).trans (names_withDefaults _ moved)

/-! ## Answering a change -/

theorem objectAt_distinct (hjson : (Value.object fields).isJson = true) (name : String) :
    (objectAt fields name).Distinct := by
  unfold objectAt Fields.get?
  cases hfind : fields.find? fun f => f.1 == name with
  | none => exact nodup_nil
  | some f =>
    have hf := (Value.isDocumentBy_object.mp hjson).2 f (mem_of_find?_eq_some hfind)
    obtain ⟨key, v⟩ := f
    cases v with
    | object members => exact (Value.isDocumentBy_object.mp hf).1
    | _ => exact nodup_nil

section

variable {g g' : Graph} {n' : Node}

theorem replaced_setProperties (h : Replaced g n n' g') (hid : n'.id = n.id) (properties : Fields) :
    Replaced g n { n' with properties := n'.properties.update properties }
      (properties.foldl (fun g f => (g.setProperty (.int n.id) f.1 f.2).2) g') := by
  induction properties generalizing g' n' with
  | nil => exact h
  | cons f rest ih =>
    exact ih (h.updateNode hid fun m => { m with properties := m.properties.set f.1 f.2 }) hid

theorem replaced_setDefaults (h : Replaced g n n' g') (hid : n'.id = n.id) (inputs : Fields)
    (hknown : ∀ name ∈ inputs.names, name ∈ n'.inputs.map (·.id)) :
    Replaced g n (Graph.withDefaults n' inputs)
      (inputs.foldl (fun g f => (g.setDefault (.int n.id) (.str f.1) f.2).2) g') := by
  induction inputs generalizing g' n' with
  | nil => exact h
  | cons f rest ih =>
    obtain ⟨hf, hrest⟩ := forall_mem_cons.mp hknown
    have hstep : g'.setDefault (.int n.id) (.str f.1) f.2 =
        g'.updateNode (.int n.id) (Graph.withDefault (.str f.1) f.2) := by
      obtain ⟨p, hp, hpid⟩ := mem_map.mp hf
      have hfound : (Port.findValue? n'.inputs (.str f.1)).isSome = true := by
        refine find?_isSome.mpr ⟨p, hp, ?_⟩
        simp [Value.isText, hpid]
      obtain ⟨q, hq⟩ := Option.isSome_iff_exists.mp hfound
      unfold Graph.setDefault
      rw [h.node? hid, Option.bind_some, hq]
    rw [foldl_cons, hstep]
    refine ih (h.updateNode hid _) hid fun name hname => ?_
    have hids : (Graph.withDefault (.str f.1) f.2 n').inputs.map (·.id) = n'.inputs.map (·.id) :=
      Graph.setPortDefault_ids (.str f.1) f.2 n'.inputs
    rw [hids]
    exact hrest name hname

end

theorem replaced_apply {g : Graph} (hn : g.node? (.int n.id) = some n) (h : ¬ Faulty n fields) :
    Replaced g n (changedNode n fields) (NodeChange.apply ⟨fields.get? "x", fields.get? "y",
      objectAt fields "properties", objectAt fields "inputs"⟩ n g) := by
  have hmoved : Replaced g n
      { n with x := (fields.get? "x").getD n.x, y := (fields.get? "y").getD n.y }
      (NodeChange.move ⟨fields.get? "x", fields.get? "y", objectAt fields "properties",
        objectAt fields "inputs"⟩ n g) := by
    unfold NodeChange.move
    split
    · exact (Replaced.refl hn).updateNode rfl fun m =>
        { m with x := (fields.get? "x").getD n.x, y := (fields.get? "y").getD n.y }
    · rename_i hstays
      simp only [Bool.or_eq_true, not_or, Bool.not_eq_true, Option.isSome_eq_false_iff,
        Option.isNone_iff_eq_none] at hstays
      simpa [hstays] using Replaced.refl hn
  refine replaced_setDefaults (replaced_setProperties hmoved rfl _) rfl _ fun name hname => ?_
  cases hport : n.input? name with
  | none => exact absurd (.input hname hport) h
  | some p =>
    refine mem_map.mpr ⟨p, mem_of_find?_eq_some hport, ?_⟩
    exact (firstAt_of_input? hport).1

/-- **What a request to change a node does.** A faulty change is refused and nothing has changed.
Any other succeeds, and the graph has the changed node in the place of the node. The answer is lost
only if the document of the node cannot be written. -/
theorem respond_change (w : Studio) (r : Request) {id : Nat} {n : Node} {fields : Fields}
    (hroute : Route.find? r.segments = some (.node id)) (hmethod : Text.upper r.method = "PATCH")
    (hn : w.graph.node? (.int id) = some n) (hbody : r.body.document = .object fields)
    (hjson : (Value.object fields).isJson = true) :
    let a := (respond w r).1
    let w' := (respond w r).2
    (Faulty n fields → a.status = 400 ∧ a.events = [] ∧ w' = w) ∧
    (¬ Faulty n fields → ∃ n', Changed n fields n' ∧ Replaced w.graph n n' w'.graph ∧
      (a.status = 200 ∨ n'.toDoc.isWritten = false)) := by
  have hperform : Route.perform? (.node id) { r with method := Text.upper r.method }
      (Text.upper r.method) w = some (changeNode w id r.body) := by
    rw [hmethod]
    rfl
  have hfields : r.body.fields? = some fields := by simp [Body.fields?, hbody]
  have hid : n.id = id := Graph.node?_id hn
  rw [respond_of_perform? w r hroute (by rw [hmethod]; decide) hperform]
  refine ⟨fun hfaulty => ?_, fun hsound => ?_⟩
  · obtain ⟨message, hread⟩ := read_eq_error hfaulty
    have hrefused : changeNode w id r.body = (refuse 400 message, w) := by
      simp [changeNode, hn, hfields, hread]
    rw [hrefused]
    exact ⟨rfl, rfl, rfl⟩
  · have hchanged := changed_changedNode (objectAt_distinct hjson "properties")
      (objectAt_distinct hjson "inputs") hsound
    rw [← hid] at hn
    have hplaced := replaced_apply hn hsound
    have hfound := hplaced.node? hchanged.id
    refine ⟨changedNode n fields, hchanged, ?_, ?_⟩
    · simp only [changeNode, ← hid, hn, hfields, read_eq_ok hsound, edited, changed_graph]
      exact hplaced
    · have hbody : (changeNode w id r.body).1.body =
          some (success (changedNode n fields).toDoc) := by
        simp [changeNode, ← hid, hn, hfields, read_eq_ok hsound, edited, hfound, done]
      have hstatus : (changeNode w id r.body).1.status = 200 := by
        simp [changeNode, ← hid, hn, hfields, read_eq_ok hsound, edited, done]
      rcases sealed_cases (changeNode w id r.body).1 with heq | ⟨-, doc, hdoc, hfails⟩
      · exact .inl (by rw [heq, hstatus])
      · obtain rfl : success (changedNode n fields).toDoc = doc := by
          rw [hbody] at hdoc
          exact Option.some.inj hdoc
        exact .inr (by simpa [success] using hfails)

/-- A change with a list for properties and a truth value for inputs. -/
def emptyChange : Request :=
  { method := "PATCH", address := "/api/nodes/1"
    body := .doc (.object [("properties", .list []), ("inputs", .bool false), ("x", .int 5)]) }

/-- Such a change succeeds: what is no object is taken for an empty one. -/
theorem respond_change_empty :
    (respond withStart emptyChange).1.status = 200 ∧
    ∃ n', Replaced withStart.graph { id := 1, type := "start" } n'
      (respond withStart emptyChange).2.graph ∧ n'.x = .int 5 := by
  have hroute : Route.find? emptyChange.segments = some (.node 1) := by
    have hsegments : emptyChange.segments = ["", "api", "nodes", "1"] := by decide +kernel
    rw [hsegments]
    rfl
  have hsound : ¬ Faulty { id := 1, type := "start" }
      [("properties", .list []), ("inputs", .bool false), ("x", .int 5)] := by
    rintro (⟨isPlace, given, noNumber⟩ | ⟨isMembers, given, isTrue, -⟩ | ⟨given, -⟩)
    · rcases List.mem_pair.mp isPlace with rfl | rfl <;> cases given
      cases noNumber
    · rcases List.mem_pair.mp isMembers with rfl | rfl <;> cases given <;> cases isTrue
    · cases given
  obtain ⟨n', hchanged, hplaced, -⟩ :=
    (respond_change withStart emptyChange hroute rfl rfl rfl rfl).2 hsound
  exact ⟨by decide +kernel, n', hplaced, hchanged.x⟩

end Api

end Sketchflow
