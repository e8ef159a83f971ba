import Sketchflow.Proofs.Standard

/-!
# Joining ports

Whether two ports are joined is decided by checks in a fixed order. The first that fails is the
reason of the refusal, and a refused attempt changes nothing else.

* `Ends` are the two ports between which a wire is asked for, `Objection` is the first check that
  fails. **`check_eq_error`**: refusals are objections.
* **`connect_settled`**: on numbers and texts an attempt is either refused for its objection, or it
  puts one wire in the place of those that entered its input.
* **`connect_unjoined`**: on values of any kind a refused attempt changes no node and no wire. An
  attempt whose ends are found by values that are no integers is given up too late: the wires that
  entered the input are gone.
-/

namespace Sketchflow.Graph

open List Value

variable {g : Graph} {a b : Int} {p q : String}

/-! ## Objections -/

/-- The port `p` of node `a` and the port `q` of node `b`. -/
structure Ends (g : Graph) (a : Int) (p : String) (b : Int) (q : String) (out input : Port) :
    Prop where
  output : ∃ n ∈ g.nodes, n.id = a ∧ n.output? p = some out
  input : ∃ n ∈ g.nodes, n.id = b ∧ n.input? q = some input

/-- The first check that fails when two ports are to be joined. -/
inductive Objection (g : Graph) (a : Int) (p : String) (b : Int) (q : String) : Refusal → Prop where
  | noSource (h : ∀ n ∈ g.nodes, n.id ≠ a) : Objection g a p b q (.noNode (.int a))
  | noTarget (hsource : ∃ n ∈ g.nodes, n.id = a) (h : ∀ n ∈ g.nodes, n.id ≠ b) :
      Objection g a p b q (.noNode (.int b))
  | noOutput (htarget : ∃ n ∈ g.nodes, n.id = b)
      (h : ∃ n ∈ g.nodes, n.id = a ∧ n.output? p = none) :
      Objection g a p b q (.noOutput (.int a) (.str p))
  | noInput (houtput : ∃ n ∈ g.nodes, n.id = a ∧ ∃ out, n.output? p = some out)
      (h : ∃ n ∈ g.nodes, n.id = b ∧ n.input? q = none) :
      Objection g a p b q (.noInput (.int b) (.str q))
  | selfFlow {out input : Port} (hends : Ends g a p b q out input) (hflow : out.isFlow = true)
      (h : a = b) : Objection g a p b q (.selfFlow (.int a))
  | kinds {out input : Port} (hends : Ends g a p b q out input)
      (hapart : out.isFlow = true → a ≠ b) (h : out.kind.same input.kind = false) :
      Objection g a p b q (.kinds out.kind input.kind)
  | types {out input : Port} (hends : Ends g a p b q out input)
      (hapart : out.isFlow = true → a ≠ b) (hkinds : out.kind.same input.kind = true)
      (hdata : out.kind.isData = true) (hout : out.dataType.isAny = false)
      (hinput : input.dataType.isAny = false) (h : out.dataType.same input.dataType = false) :
      Objection g a p b q (.types out.dataType input.dataType)

theorem node?_int_eq_none {i : Int} : g.node? (.int i) = none ↔ ∀ n ∈ g.nodes, n.id ≠ i := by
  rw [node?, find?_eq_none]
  exact forall₂_congr fun n _ => by simp [eq_comm]

theorem ends_iff (hd : (g.nodes.map Node.id).Nodup) {out input : Port} :
    Ends g a p b q out input ↔ ∃ source target, g.node? (.int a) = some source ∧
      g.node? (.int b) = some target ∧ Port.findValue? source.outputs (.str p) = some out ∧
      Port.findValue? target.inputs (.str q) = some input := by
  simp only [node?_int_iff hd, Port.findValue?_str]
  constructor
  · rintro ⟨⟨source, hs, ha, ho⟩, target, ht, hb, hi⟩
    exact ⟨source, target, ⟨hs, ha⟩, ⟨ht, hb⟩, ho, hi⟩
  · rintro ⟨source, target, ⟨hs, ha⟩, ⟨ht, hb⟩, ho, hi⟩
    exact ⟨⟨source, hs, ha, ho⟩, target, ht, hb, hi⟩

theorem check_ints_eq_ok (hd : (g.nodes.map Node.id).Nodup) {out input : Port} :
    g.check (.int a) (.str p) (.int b) (.str q) = .ok (out, input) ↔
      Ends g a p b q out input ∧ Fit (decide (a = b)) out input := by
  rw [check_eq_ok, ends_iff hd, same_int]
  constructor
  · rintro ⟨source, target, hs, ht, ho, hi, hfit⟩
    exact ⟨⟨source, target, hs, ht, ho, hi⟩, hfit⟩
  · rintro ⟨⟨source, target, hs, ht, ho, hi⟩, hfit⟩
    exact ⟨source, target, hs, ht, ho, hi, hfit⟩

theorem objection_of_check (hd : (g.nodes.map Node.id).Nodup) {why : Refusal}
    (h : g.check (.int a) (.str p) (.int b) (.str q) = .error why) : Objection g a p b q why := by
  have hnode : ∀ {i : Int} {n : Node}, g.node? (.int i) = some n → n ∈ g.nodes ∧ n.id = i :=
    fun h => (node?_int_iff hd).mp h
  cases hs : g.node? (.int a) with
  | none =>
    simp only [check, hs] at h
    cases h
    exact .noSource (node?_int_eq_none.mp hs)
  | some source =>
    obtain ⟨hsource, ha⟩ := hnode hs
    cases ht : g.node? (.int b) with
    | none =>
      simp only [check, hs, ht] at h
      cases h
      exact .noTarget ⟨source, hsource, ha⟩ (node?_int_eq_none.mp ht)
    | some target =>
      obtain ⟨htarget, hb⟩ := hnode ht
      simp only [check, hs, ht, Port.findValue?_str] at h
      cases ho : Port.find? source.outputs p with
      | none =>
        simp only [ho] at h
        cases h
        exact .noOutput ⟨target, htarget, hb⟩ ⟨source, hsource, ha, ho⟩
      | some out =>
        cases hi : Port.find? target.inputs q with
        | none =>
          simp only [ho, hi] at h
          cases h
          exact .noInput ⟨source, hsource, ha, out, ho⟩ ⟨target, htarget, hb, hi⟩
        | some input =>
          have hends : Ends g a p b q out input :=
            ⟨⟨source, hsource, ha, ho⟩, target, htarget, hb, hi⟩
          simp only [ho, hi, same_int] at h
          split_ifs at h with hself hkinds haccepts
          · cases h
            simp only [Bool.and_eq_true, decide_eq_true_eq] at hself
            exact .selfFlow hends hself.2 hself.1
          · cases h
            exact .kinds hends (fun hflow hab => hself (by simp [hflow, hab]))
              (by simpa using hkinds)
          · cases h
            have hsame : out.kind.same input.kind = true := by simpa using hkinds
            simp only [Bool.not_eq_true', Port.accepts, hsame, Bool.true_and, Bool.or_eq_false_iff,
              Bool.not_eq_false'] at haccepts
            obtain ⟨⟨⟨hdata, hout⟩, hinput⟩, htypes⟩ := haccepts
            exact .types hends (fun hflow hab => hself (by simp [hflow, hab])) hsame hdata hout
              hinput htypes

/-- An objection is the refusal: the checks in front of it pass. -/
theorem Objection.check_eq (hd : (g.nodes.map Node.id).Nodup) {why : Refusal}
    (h : Objection g a p b q why) : g.check (.int a) (.str p) (.int b) (.str q) = .error why := by
  have hnode : ∀ {i : Int} {n : Node}, n ∈ g.nodes → n.id = i → g.node? (.int i) = some n :=
    fun hn hi => (node?_int_iff hd).mpr ⟨hn, hi⟩
  cases h with
  | noSource h => simp only [check, node?_int_eq_none.mpr h]
  | noTarget hsource h =>
    obtain ⟨source, hs, ha⟩ := hsource
    simp only [check, hnode hs ha, node?_int_eq_none.mpr h]
  | noOutput htarget h =>
    obtain ⟨target, ht, hb⟩ := htarget
    obtain ⟨source, hs, ha, ho⟩ := h
    rw [Node.output?] at ho
    simp only [check, hnode hs ha, hnode ht hb, Port.findValue?_str, ho]
  | noInput houtput h =>
    obtain ⟨source, hs, ha, out, ho⟩ := houtput
    obtain ⟨target, ht, hb, hi⟩ := h
    rw [Node.output?] at ho
    rw [Node.input?] at hi
    simp only [check, hnode hs ha, hnode ht hb, Port.findValue?_str, ho, hi]
  | @selfFlow out _ hends hflow h =>
    obtain ⟨source, target, hs, ht, ho, hi⟩ := (ends_iff hd).mp hends
    have hself : (decide (a = b) && out.isFlow) = true := by simp [h, hflow]
    simp only [check, hs, ht, ho, hi, same_int, if_pos hself]
  | @kinds out _ hends hapart h =>
    obtain ⟨source, target, hs, ht, ho, hi⟩ := (ends_iff hd).mp hends
    have hself : ¬(decide (a = b) && out.isFlow) = true := by
      rw [Bool.and_eq_true, decide_eq_true_eq]
      exact fun h => hapart h.2 h.1
    simp only [check, hs, ht, ho, hi, same_int, if_neg hself, h, Bool.not_false, if_true]
  | @types out _ hends hapart hkinds hdata hout hinput h =>
    obtain ⟨source, target, hs, ht, ho, hi⟩ := (ends_iff hd).mp hends
    have hself : ¬(decide (a = b) && out.isFlow) = true := by
      rw [Bool.and_eq_true, decide_eq_true_eq]
      exact fun h => hapart h.2 h.1
    simp only [check, hs, ht, ho, hi, same_int, if_neg hself, Port.accepts, hkinds, hdata,
      hout, hinput, h]
    rfl

/-- **Refusals are objections**: the first check that fails, in the order of the checks. -/
theorem check_eq_error (hd : (g.nodes.map Node.id).Nodup) {why : Refusal} :
    g.check (.int a) (.str p) (.int b) (.str q) = .error why ↔ Objection g a p b q why :=
  ⟨objection_of_check hd, Objection.check_eq hd⟩

theorem check_ne_duplicate {fromNode fromPort toNode toPort : Value} :
    g.check fromNode fromPort toNode toPort ≠ .error .duplicate := by
  intro h
  unfold check at h
  split at h
  · cases h
  · cases h
  · split at h
    · cases h
    · cases h
    · split_ifs at h <;> cases h

theorem check_ports {fromNode fromPort toNode toPort : Value} {ports : Port × Port}
    (h : g.check fromNode fromPort toNode toPort = .ok ports) :
    ∃ p q, fromPort = .str p ∧ toPort = .str q := by
  obtain ⟨source, target, -, -, ho, hi, -⟩ := check_eq_ok.mp h
  have ho' := find?_some ho
  have hi' := find?_some hi
  exact ⟨_, _, isText_iff.mp ho', isText_iff.mp hi'⟩

/-! ## Attempts -/

/-- The wires that do not enter an input. -/
def wiresBeside (g : Graph) (toNode toPort : Value) : List Wire :=
  g.wires.filter fun w => !w.enters toNode toPort

/-- **All that an attempt can come to.** -/
theorem connect_eq (g : Graph) (tag : String) (fromNode fromPort toNode toPort : Value) :
    g.connect tag fromNode fromPort toNode toPort =
      match g.check fromNode fromPort toNode toPort with
      | .error why => (.refused why, { g with refusal := some why })
      | .ok (out, input) =>
        match Wire.join (.str (wireId fromNode fromPort toNode toPort tag)) fromNode fromPort toNode
            toPort .flow .flow .null .null with
        | .error m =>
          (.malformed m, { g with wires := g.wiresBeside toNode toPort, refusal := none })
        | .ok w =>
          (.joined (mark w out input), { g with
            wires := g.wiresBeside toNode toPort ++ [mark w out input], refusal := none }) := by
  unfold connect
  cases g.check fromNode fromPort toNode toPort with
  | error why => rfl
  | ok ports =>
    dsimp only
    rw [if_neg]
    · rfl
    -- What entered the input is gone before duplicates are looked for, so none is found.
    rw [Bool.not_eq_true, any_eq_false]
    intro w hw
    have hbeside := (mem_filter.mp hw).2
    simp only [Bool.not_eq_true'] at hbeside
    simp [hbeside]

/-- The wire that an attempt on numbers and texts makes. -/
def newWire (tag : String) (a : Int) (p : String) (b : Int) (q : String) (out input : Port) :
    Wire :=
  mark { id := .str (wireId (.int a) (.str p) (.int b) (.str q) tag)
         fromNode := a, fromPort := p, toNode := b, toPort := q } out input

/-- The graph after a wire was put in the place of those that entered its input. -/
def withWire (g : Graph) (w : Wire) : Graph :=
  { g with
    wires := g.wires.filter (fun v => !(v.toNode == w.toNode && v.toPort == w.toPort)) ++ [w]
    refusal := none }

theorem wiresBeside_int (g : Graph) (b : Int) (q : String) :
    g.wiresBeside (.int b) (.str q) =
      g.wires.filter fun v => !(v.toNode == b && v.toPort == q) := by
  refine filter_congr fun v _ => ?_
  congr 1
  rw [Bool.eq_iff_iff, Wire.enters_iff]
  simp

theorem connect_int (g : Graph) (tag : String) (a : Int) (p : String) (b : Int) (q : String) :
    g.connect tag (.int a) (.str p) (.int b) (.str q) =
      match g.check (.int a) (.str p) (.int b) (.str q) with
      | .error why => (.refused why, { g with refusal := some why })
      | .ok (out, input) =>
        (.joined (newWire tag a p b q out input), g.withWire (newWire tag a p b q out input)) := by
  rw [connect_eq, wiresBeside_int]
  rfl

/-- **Joining ports on numbers and texts.** In a graph made by any edits, an attempt succeeds iff
both ports are there and fit. It then puts the new wire, with the marks of its ports, after those
that do not enter the same input. Otherwise it is refused for the first check that fails. In both
cases nothing else changes. No attempt on any values is ever refused as a duplicate. -/
theorem connect_settled (history : List (Palette × Edit)) (tag : String) :
    let g := empty.afterAll history
    (∀ (a : Int) (p : String) (b : Int) (q : String),
      let r := g.connect tag (.int a) (.str p) (.int b) (.str q)
      ((∃ w, r.1 = .joined w) ↔
        ∃ out input, Ends g a p b q out input ∧ Fit (decide (a = b)) out input) ∧
      (∀ w, r.1 = .joined w → r.2 = g.withWire w ∧
        ∃ out input, Ends g a p b q out input ∧ w = newWire tag a p b q out input) ∧
      ((¬∃ w, r.1 = .joined w) → ∃ why, Objection g a p b q why ∧
        (∀ other, Objection g a p b q other → other = why) ∧
        r = (.refused why, { g with refusal := some why }))) ∧
    ∀ fromNode fromPort toNode toPort : Value,
      (g.connect tag fromNode fromPort toNode toPort).1 ≠ .refused .duplicate := by
  intro g
  have hd : (g.nodes.map Node.id).Nodup := (afterAll_keeps_sound empty_sound history).distinct
  refine ⟨fun a p b q => ?_, fun fromNode fromPort toNode toPort => ?_⟩
  · intro r
    have hr : r = _ := connect_int g tag a p b q
    cases hcheck : g.check (.int a) (.str p) (.int b) (.str q) with
    | error why =>
      rw [hcheck] at hr
      have hnone : ¬∃ w, r.1 = .joined w := by
        rintro ⟨w, hw⟩
        rw [hr] at hw
        cases hw
      have hwhy := (check_eq_error hd).mp hcheck
      refine ⟨⟨fun h => absurd h hnone, ?_⟩, fun w hw => absurd ⟨w, hw⟩ hnone,
        fun _ => ⟨why, hwhy, fun other hother => ?_, hr⟩⟩
      · rintro ⟨out, input, hends, hfit⟩
        cases hcheck.symm.trans ((check_ints_eq_ok hd).mpr ⟨hends, hfit⟩)
      · exact Except.error.inj (((check_eq_error hd).mpr hother).symm.trans hcheck)
    | ok ports =>
      obtain ⟨out, input⟩ := ports
      rw [hcheck] at hr
      obtain ⟨hends, hfit⟩ := (check_ints_eq_ok hd).mp hcheck
      have hjoined : r.1 = .joined (newWire tag a p b q out input) := by rw [hr]
      refine ⟨⟨fun _ => ⟨out, input, hends, hfit⟩, fun _ => ⟨_, hjoined⟩⟩, fun w hw => ?_,
        fun hnone => absurd ⟨_, hjoined⟩ hnone⟩
      cases hjoined.symm.trans hw
      exact ⟨by rw [hr], out, input, hends, rfl⟩
  · intro hdup
    rw [connect_eq] at hdup
    cases hcheck : g.check fromNode fromPort toNode toPort with
    | error why =>
      rw [hcheck] at hdup
      cases hdup
      exact check_ne_duplicate hcheck
    | ok ports =>
      rw [hcheck] at hdup
      dsimp only at hdup
      split at hdup <;> cases hdup

/-! ## Ends that are no integers -/

/-- The ends of a wire are integers. -/
def Integers (fromNode toNode : Value) : Prop :=
  ∃ i j, fromNode = .int i ∧ toNode = .int j

theorem join_isOk (id fromNode toNode : Value) (p q : String) :
    (∃ w, Wire.join id fromNode (.str p) toNode (.str q) .flow .flow .null .null = .ok w) ↔
      Integers fromNode toNode := by
  constructor
  · rintro ⟨w, hw⟩
    obtain ⟨hfrom, -, hto, -⟩ := join_eq_ok hw
    exact ⟨_, _, hfrom, hto⟩
  · rintro ⟨i, j, rfl, rfl⟩
    exact ⟨_, rfl⟩

/-- **An attempt that joins nothing.** In a graph made by any edits and on values of any kind, an
attempt that is refused changes nothing but the reason kept of it. The other attempts without a wire
are those on two ports that could be joined, one of whose nodes is named by a value that is no
integer. Such an attempt changes no node and no number, and no wire iff none enters the input. -/
theorem connect_unjoined (history : List (Palette × Edit)) (tag : String)
    (fromNode fromPort toNode toPort : Value) :
    let g := empty.afterAll history
    let r := g.connect tag fromNode fromPort toNode toPort
    (∀ why, r.1 = .refused why → r.2 = { g with refusal := some why }) ∧
    ((∃ m, r.1 = .malformed m) ↔ (∃ ports, g.check fromNode fromPort toNode toPort = .ok ports) ∧
      ¬Integers fromNode toNode) ∧
    (∀ m, r.1 = .malformed m → r.2.nodes = g.nodes ∧ r.2.nextId = g.nextId ∧
      r.2.wires = g.wires.filter (fun w => !w.enters toNode toPort) ∧
      (r.2.wires = g.wires ↔ ∀ w ∈ g.wires, w.enters toNode toPort = false)) := by
  intro g r
  have hr : r = _ := connect_eq g tag fromNode fromPort toNode toPort
  cases hcheck : g.check fromNode fromPort toNode toPort with
  | error why =>
    rw [hcheck] at hr
    refine ⟨fun why' h => ?_, ⟨?_, ?_⟩, fun m h => ?_⟩
    · rw [hr] at h ⊢
      cases h
      rfl
    · rintro ⟨m, h⟩
      rw [hr] at h
      cases h
    · rintro ⟨⟨ports, hports⟩, -⟩
      cases hports
    · rw [hr] at h
      cases h
  | ok ports =>
    rw [hcheck] at hr
    obtain ⟨p, q, rfl, rfl⟩ := check_ports hcheck
    have hjoin := join_isOk (.str (wireId fromNode (.str p) toNode (.str q) tag)) fromNode toNode p q
    cases hw : Wire.join (.str (wireId fromNode (.str p) toNode (.str q) tag)) fromNode (.str p)
        toNode (.str q) .flow .flow .null .null with
    | ok w =>
      have hints := hjoin.mp ⟨w, hw⟩
      simp only [hw] at hr
      refine ⟨fun why h => ?_, ⟨?_, fun h => absurd hints h.2⟩, fun m h => ?_⟩
      · rw [hr] at h
        cases h
      · rintro ⟨m, h⟩
        rw [hr] at h
        cases h
      · rw [hr] at h
        cases h
    | error m =>
      have hints : ¬Integers fromNode toNode := fun h => by
        obtain ⟨w, hok⟩ := hjoin.mpr h
        cases hw.symm.trans hok
      simp only [hw] at hr
      refine ⟨fun why h => ?_, ⟨fun _ => ⟨⟨ports, rfl⟩, hints⟩, fun _ => ⟨m, by rw [hr]⟩⟩,
        fun m' h => ?_⟩
      · rw [hr] at h
        cases h
      · rw [hr]
        refine ⟨rfl, rfl, rfl, ?_⟩
        simp [wiresBeside, List.filter_eq_self]

/-- `true` finds node 1, but makes no wire: the attempt to join it to node 2 once more ends with no
wire at all. -/
theorem connect_unjoined_true :
    let edits : List Edit := [.create (.str "start") (.int 0) (.int 0),
      .create (.str "moveTo") (.int 0) (.int 0),
      .connect "00000001" (.int 1) (.str "out") (.int 2) (.str "in")]
    let g := empty.afterAll (edits.map fun e => (Palette.standard, e))
    let r := g.connect "00000002" (.bool true) (.str "out") (.int 2) (.str "in")
    g.wires.length = 1 ∧ (∃ m, r.1 = .malformed m) ∧ r.2.wires.length = 0 := by
  intro edits g r
  have hpass : (g.check (.bool true) (.str "out") (.int 2) (.str "in")).isOk = true := by
    decide +kernel
  have h := connect_unjoined (edits.map fun e => (Palette.standard, e)) "00000002" (.bool true)
    (.str "out") (.int 2) (.str "in")
  cases hcheck : g.check (.bool true) (.str "out") (.int 2) (.str "in") with
  | error why =>
    rw [hcheck] at hpass
    cases hpass
  | ok ports =>
    obtain ⟨m, hm⟩ := h.2.1.mpr ⟨⟨ports, hcheck⟩, by rintro ⟨i, j, hi, -⟩; cases hi⟩
    refine ⟨by decide +kernel, ⟨m, hm⟩, ?_⟩
    rw [(h.2.2 m hm).2.2.1]
    decide +kernel

end Sketchflow.Graph
