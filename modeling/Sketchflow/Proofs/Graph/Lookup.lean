import Mathlib.Data.List.Nodup
import Sketchflow.Graph.Load

/-!
# Looking up nodes, ports and wires

Look-ups take loose values. On integers and texts they are plain equality, so that in a graph whose
nodes are numbered apart a look-up by number is membership (`node?_int_iff`).

* `Port.shape` and `Node.shape` forget what can be edited at a port and at a node: the default, the
  position and the properties. A look-up of a port sees nothing else of it (`find?_shape`).
* `check_eq_ok` says when two ports can be joined.
-/

namespace Sketchflow

open Value

variable {i : Int} {n : Node} {s : String}

theorem exists_of_bind_eq_ok {ε α β : Type} {x : Except ε α} {f : α → Except ε β} {b : β}
    (h : (x >>= f) = .ok b) : ∃ a, x = .ok a ∧ f a = .ok b := by
  cases x with
  | error e => cases h
  | ok a => exact ⟨a, rfl, h⟩

/-! ## Values as keys -/

@[simp] theorem Value.hasId_int (i j : Int) : (Value.int i).hasId j = decide (i = j) := by
  by_cases h : i = j
  · subst h
    simp [Value.hasId, Value.same, Value.number?, Num.same, Num.compare]
  · have hc : compare i j ≠ Ordering.eq := fun e => h (Std.compare_eq_iff_eq.mp e)
    simp [Value.hasId, Value.same, Value.number?, Num.same, Num.compare, h, hc]

@[simp] theorem Value.same_int (i j : Int) : (Value.int i).same (.int j) = decide (i = j) :=
  hasId_int i j

@[simp] theorem Value.isText_str (s t : String) : (Value.str s).isText t = decide (s = t) := by
  simp [Value.isText, beq_eq_decide]

theorem Value.isText_iff {v : Value} : v.isText s = true ↔ v = .str s := by
  cases v <;> simp [Value.isText]

/-! ## Ports -/

namespace Port

def shape (p : Port) : Port := { p with default := .null }

theorem kind_of_shape {p p' : Port} (h : p'.shape = p.shape) :
    p'.kind = p.kind ∧ p'.dataType = p.dataType := by
  unfold shape at h
  simp_all

theorem id_of_shape {p p' : Port} (h : p'.shape = p.shape) : p'.id = p.id := by
  have := congrArg Port.id h
  exact this

theorem findValue?_str (ports : List Port) (s : String) :
    findValue? ports (.str s) = find? ports s := by
  unfold findValue? find?
  congr 1
  funext p
  simp [beq_eq_decide, eq_comm]

theorem find?_id {ports : List Port} {p : Port} (h : find? ports s = some p) :
    p.id = s := by
  simpa using List.find?_some h

theorem find?_shape (ports : List Port) (s : String) :
    find? (ports.map shape) s = (find? ports s).map shape := by
  unfold find?
  rw [List.find?_map]
  rfl

theorem find?_of_shape_eq {ports ports' : List Port} (h : ports'.map shape = ports.map shape)
    {p : Port} (hp : find? ports s = some p) :
    ∃ p', find? ports' s = some p' ∧ p'.shape = p.shape := by
  have hs : (find? ports' s).map shape = some p.shape := by
    rw [← find?_shape, h, find?_shape, hp]
    rfl
  exact Option.map_eq_some_iff.mp hs

end Port

/-! ## Wires -/

namespace Wire

theorem enters_iff {w : Wire} :
    w.enters (.int i) (.str s) = true ↔ w.toNode = i ∧ w.toPort = s := by
  unfold enters
  rw [Bool.and_eq_true, hasId_int, isText_str, decide_eq_true_eq, decide_eq_true_eq]
  exact and_congr eq_comm eq_comm

theorem leaves_iff {w : Wire} :
    w.leaves (.int i) (.str s) = true ↔ w.fromNode = i ∧ w.fromPort = s := by
  unfold leaves
  rw [Bool.and_eq_true, hasId_int, isText_str, decide_eq_true_eq, decide_eq_true_eq]
  exact and_congr eq_comm eq_comm

end Wire

/-! ## Nodes -/

/-- A node without its position, its properties and the defaults of its inputs. -/
def Node.shape (n : Node) : Node :=
  { n with x := .null, y := .null, properties := [], inputs := n.inputs.map Port.shape }

namespace Graph

variable {g : Graph}

theorem node?_id (h : g.node? (.int i) = some n) : n.id = i := by
  have := List.find?_some h
  simpa [eq_comm] using this

theorem mem_of_node? {id : Value} (h : g.node? id = some n) : n ∈ g.nodes :=
  List.mem_of_find?_eq_some h

/-- Where nodes are numbered apart, the node of a number is the one that has it. -/
theorem node?_int_iff (hd : (g.nodes.map Node.id).Nodup) :
    g.node? (.int i) = some n ↔ n ∈ g.nodes ∧ n.id = i := by
  refine ⟨fun h => ⟨mem_of_node? h, node?_id h⟩, fun ⟨hn, hi⟩ => ?_⟩
  cases hf : g.node? (.int i) with
  | none =>
    have := List.find?_eq_none.mp hf n hn
    simp [hi] at this
  | some m =>
    have hm : m.id = n.id := (node?_id hf).trans hi.symm
    rw [List.inj_on_of_nodup_map hd (mem_of_node? hf) hn hm]

/-! ## Ports that can be joined -/

/-- What `check` asks of two ports, apart from their nodes. -/
structure Fit (loop : Bool) (out input : Port) : Prop where
  /-- A flow wire does not lead back to its node. -/
  apart : out.isFlow = true → loop = false
  kinds : out.kind.same input.kind = true
  types : out.kind.isData = true → out.dataType.isAny = true ∨ input.dataType.isAny = true ∨
    out.dataType.same input.dataType = true

theorem accepts_iff {out input : Port} : out.accepts input = true ↔
    out.kind.same input.kind = true ∧ (out.kind.isData = true → out.dataType.isAny = true ∨
      input.dataType.isAny = true ∨ out.dataType.same input.dataType = true) := by
  unfold Port.accepts
  cases out.kind.isData <;> simp [or_assoc]

/-- **Which ports can be joined**: those of existing nodes that fit. -/
theorem check_eq_ok {fromNode fromPort toNode toPort : Value} {out input : Port} :
    g.check fromNode fromPort toNode toPort = .ok (out, input) ↔
      ∃ source target, g.node? fromNode = some source ∧ g.node? toNode = some target ∧
        Port.findValue? source.outputs fromPort = some out ∧
        Port.findValue? target.inputs toPort = some input ∧
        Fit (fromNode.same toNode) out input := by
  constructor
  · intro h
    unfold check at h
    split at h
    · cases h
    · cases h
    · rename_i source target hs ht
      split at h
      · cases h
      · cases h
      · rename_i o i ho hi
        split_ifs at h with h1 h2 h3
        obtain ⟨rfl, rfl⟩ : o = out ∧ i = input := by simpa using h
        simp only [Bool.not_eq_true', Bool.not_eq_false] at h2 h3
        obtain ⟨hk, hty⟩ := accepts_iff.mp h3
        refine ⟨source, target, hs, ht, ho, hi, ?_, hk, hty⟩
        intro hf
        simpa [hf] using h1
  · rintro ⟨source, target, hs, ht, ho, hi, hfit⟩
    have h1 : (fromNode.same toNode && out.isFlow) = false := by
      cases hf : out.isFlow
      · simp
      · simp [hfit.apart hf]
    have h3 : out.accepts input = true := accepts_iff.mpr ⟨hfit.kinds, hfit.types⟩
    unfold check
    simp only [hs, ht, ho, hi, h1, hfit.kinds, h3]
    simp

end Graph

end Sketchflow
