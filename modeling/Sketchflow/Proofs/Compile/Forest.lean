import Mathlib.Algebra.Ring.Nat
import Mathlib.Logic.Relation
import Sketchflow.Proofs.Compile.Flow
import Sketchflow.Proofs.Compile.Plan

/-!
# Every node once

How often a node stands in complete outlines follows from how often the node stands that leads to
it: each occurrence of the one brings one of the other (`Traces.count_next`). So where the outlines
begin at distinct roots, the nodes that paths lead to stand there once, and no others.

* `Outline.nodes` are the nodes of an outline, in the order they are written.
* `Grown` are complete outlines from distinct roots.
* **`Grown.countAll_of_path`**: a node stands there once if a path leads to it from one of the
  roots; `Grown.exists_path`: no other node stands there.
-/

namespace Sketchflow.Compile

open Graph List Relation

variable {g : Graph}
variable {m n r : Node} {t : Option Node} {o : Outline}

/-- The nodes of an outline, in the order they are written. -/
def Outline.nodes : Outline → List Node
  | .node n _ _ body other next => n :: (body.nodes ++ other.nodes ++ next.nodes)
  | _ => []

/-- How often a node stands in an outline. Nodes are told apart by their numbers. -/
def Outline.count (n : Node) (o : Outline) : Nat :=
  (o.nodes.map Node.id).count n.id

/-- Whether a path begins at a node: once or not at all. -/
def first (t : Option Node) (n : Node) : Nat :=
  if t.map Node.id = some n.id then 1 else 0

theorem Outline.count_node (n m : Node) (notes : List String) (r : Inputs)
    (body other next : Outline) :
    (Outline.node m notes r body other next).count n =
      first (some m) n + (body.count n + other.count n + next.count n) := by
  simp [Outline.count, Outline.nodes, first, count_cons, Nat.add_comm, Nat.add_assoc]

theorem Traces.mem (h : Traces g t o) :
    ∀ n ∈ o.nodes, ∃ r, t = some r ∧ ReflTransGen (Next g) r n := by
  induction h with
  | stop => simp [Outline.nodes]
  | @node m notes r body other next _ _ _ hb ho hx =>
    -- What a path leads to after the first step, it leads to.
    have hsub : ∀ port : Option String, (∀ p, port = some p → p ∈ onward m.type) → ∀ n,
        (∃ k, target g m.id port = some k ∧ ReflTransGen (Next g) k n) →
          ReflTransGen (Next g) m n := by
      rintro port hport n ⟨k, hk, hn⟩
      cases port with
      | none => cases hk
      | some p => exact .head ⟨p, hport p rfl, hk⟩ hn
    intro n hn
    simp only [Outline.nodes, mem_cons, mem_append] at hn
    refine ⟨m, rfl, ?_⟩
    rcases hn with rfl | (hn | hn) | hn
    · exact .refl
    · exact hsub _ (fun p hp => by simp [onward, hp]) n (hb n hn)
    · exact hsub _ (fun p hp => by simp [onward, hp]) n (ho n hn)
    · exact hsub _ (fun p hp => by simp [onward, hp]) n (hx n hn)

theorem onward_count {type port : String} (h : port ∈ onward type) :
    (if (action? type).bind Action.body = some port then 1 else 0)
      + (if (action? type).bind Action.other = some port then 1 else 0)
      + (if nextPort type = some port then 1 else 0) = 1 := by
  have hbody : (action? type).bind Action.body = some port → port = "body" ∨ port = "then" := by
    cases action? type with
    | none => simp
    | some a => cases a <;> simp +contextual [Action.body, eq_comm]
  have hother : (action? type).bind Action.other = some port → port = "else" := by
    cases action? type with
    | none => simp
    | some a => cases a <;> simp [Action.other, eq_comm]
  have hnext : nextPort type = some port → port = "out" := by
    unfold nextPort
    split <;> simp [eq_comm]
  simp only [onward, mem_append, Option.mem_toList] at h
  split_ifs with hb ho hn hn
  all_goals simp_all

theorem first_eq_one (h : t = some n) : first t n = 1 := by
  rw [first, h, Option.map_some, if_pos rfl]

theorem first_eq_zero (hd : (g.nodes.map Node.id).Nodup)
    (hn : n ∈ g.nodes) (ht : ∀ k, t = some k → k ∈ g.nodes) (h : t ≠ some n) : first t n = 0 := by
  rw [first, if_neg fun he => ?_]
  obtain ⟨k, hk, hid⟩ := Option.map_eq_some_iff.mp he
  exact h (hk.trans (congrArg some (inj_on_of_nodup_map hd (ht k hk) hn hid)))

/-- Where a node leads to another, exactly one of the outputs that a path takes does. -/
theorem first_targets (hg : Orderly g) {a : Node} (ha : a ∈ g.nodes) (hm : m ∈ g.nodes)
    (hn : Next g m n) :
    first (target g a.id ((action? a.type).bind Action.body)) n
      + first (target g a.id ((action? a.type).bind Action.other)) n
      + first (target g a.id (nextPort a.type)) n = first (some a) m := by
  obtain ⟨port, hport, hl⟩ := hn
  have hn : n ∈ g.nodes := mem_of_target hl
  have hone : ∀ p : Option String, first (target g a.id p) n =
      if a.id = m.id ∧ p = some port then 1 else 0 := by
    intro p
    split
    · rename_i h
      rw [h.1, h.2]
      exact first_eq_one hl
    · rename_i h
      refine first_eq_zero hg.distinct hn (fun _ => mem_of_target) fun ht => h ?_
      cases p with
      | none => cases ht
      | some p =>
        obtain ⟨hid, hp⟩ := hg.single _ _ _ _ n ht hl
        exact ⟨hid, congrArg some hp⟩
  by_cases h : a.id = m.id
  · obtain rfl := inj_on_of_nodup_map hg.distinct ha hm h
    rw [hone, hone, hone, first_eq_one rfl]
    simpa using onward_count hport
  · rw [hone, hone, hone, first_eq_zero hg.distinct hm (by simpa using ha) fun he => h ?_]
    · simp [h]
    · exact congrArg Node.id (Option.some.inj he)

/-- **A node stands as often as the node that leads to it**, and once more if the path begins
there. -/
theorem Traces.count_next (hg : Orderly g) (hm : m ∈ g.nodes) (hn : Next g m n) (h : Traces g t o)
    (ht : ∀ r, t = some r → r ∈ g.nodes) : o.count n = first t n + o.count m := by
  induction h with
  | stop => rfl
  | @node a notes r body other next _ _ _ hb ho hx =>
    have hsum := first_targets hg (ht a rfl) hm hn
    rw [Outline.count_node, Outline.count_node, hb fun _ => mem_of_target,
      ho fun _ => mem_of_target, hx fun _ => mem_of_target]
    omega

/-- A node that no path leads to stands where the path begins. -/
theorem Traces.count_root (hg : Orderly g) (hn : Root g n) (h : Traces g t o)
    (ht : ∀ r, t = some r → r ∈ g.nodes) : o.count n = first t n := by
  induction h with
  | stop => rfl
  | @node a notes r body other next _ _ _ hb ho hx =>
    have hzero : ∀ port : Option String, (∀ p, port = some p → p ∈ onward a.type) →
        first (target g a.id port) n = 0 := by
      intro port hport
      refine first_eq_zero hg.distinct hn.1 (fun _ => mem_of_target) fun h => ?_
      cases port with
      | none => cases h
      | some p => exact hn.2 a (ht a rfl) ⟨p, hport p rfl, h⟩
    rw [Outline.count_node, hb fun _ => mem_of_target, ho fun _ => mem_of_target,
      hx fun _ => mem_of_target, hzero _ fun p hp => by simp [onward, hp],
      hzero _ fun p hp => by simp [onward, hp], hzero _ fun p hp => by simp [onward, hp]]
    rfl

/-! ## Forests -/

def countAll (n : Node) (os : List Outline) : Nat :=
  (os.map (Outline.count n)).sum

/-- Outlines that hold all that follows distinct roots. -/
structure Grown (g : Graph) (ts : List (Option Node)) (os : List Outline) : Prop where
  traces : List.Forall₂ (Traces g) ts os
  roots : ∀ r, some r ∈ ts → Root g r
  distinct : (ts.filterMap (Option.map Node.id)).Nodup

theorem exists_of_forall₂ {α β : Type} {R : α → β → Prop} {as : List α} {bs : List β}
    (h : List.Forall₂ R as bs) {b : β} (hb : b ∈ bs) : ∃ a ∈ as, R a b := by
  obtain ⟨i, hi, rfl⟩ := mem_iff_getElem.mp hb
  have hlen := h.length_eq
  exact ⟨as[i], getElem_mem _, h.get (by omega) hi⟩

theorem sum_first (ts : List (Option Node)) (n : Node) :
    (ts.map (first · n)).sum = (ts.filterMap (Option.map Node.id)).count n.id := by
  induction ts with
  | nil => rfl
  | cons t ts ih =>
    rw [map_cons, sum_cons, ih]
    cases t with
    | none => simp [first]
    | some r => simp [first, count_cons, Nat.add_comm]

/-- What holds of the count in each outline holds of the count in all of them. -/
theorem countAll_eq {ts : List (Option Node)} {os : List Outline}
    (h : List.Forall₂ (Traces g) ts os) {k : Outline → Nat}
    (hk : ∀ t ∈ ts, ∀ o, Traces g t o → o.count n = first t n + k o) :
    countAll n os = (ts.filterMap (Option.map Node.id)).count n.id + (os.map k).sum := by
  rw [← sum_first]
  induction h with
  | nil => rfl
  | @cons t o ts os ht _ ih =>
    have := ih fun t' h' => hk t' (mem_cons_of_mem _ h')
    rw [countAll] at this ⊢
    simp only [map_cons, sum_cons, this, hk t mem_cons_self o ht]
    omega

namespace Grown

variable {ts : List (Option Node)} {os : List Outline}

theorem mem (h : Grown g ts os) (t : Option Node) (ht : t ∈ ts) :
    ∀ r, t = some r → r ∈ g.nodes := by
  rintro r rfl
  exact (h.roots r ht).1

theorem exists_trace (h : Grown g ts os) (ho : o ∈ os) :
    ∃ t ∈ ts, Traces g t o :=
  exists_of_forall₂ h.traces ho

theorem countAll_root (hg : Orderly g) (h : Grown g ts os) (hr : some r ∈ ts) :
    countAll r os = 1 := by
  have hroot := h.roots r hr
  have hcount := countAll_eq h.traces (k := fun _ => 0) fun t ht o ho =>
    ho.count_root hg hroot (h.mem t ht)
  have hmem : r.id ∈ ts.filterMap (Option.map Node.id) :=
    mem_filterMap.mpr ⟨some r, hr, rfl⟩
  rw [hcount, count_eq_one_of_mem h.distinct hmem]
  simp

theorem countAll_next (hg : Orderly g) (h : Grown g ts os) (hm : m ∈ g.nodes)
    (hn : Next g m n) : countAll n os = countAll m os := by
  have hcount := countAll_eq h.traces fun t ht o ho => ho.count_next hg hm hn (h.mem t ht)
  have hout : n.id ∉ ts.filterMap (Option.map Node.id) := fun hin => by
    obtain ⟨t, ht, hid⟩ := mem_filterMap.mp hin
    obtain ⟨r, rfl, hr⟩ := Option.map_eq_some_iff.mp hid
    obtain ⟨port, -, hl⟩ := id hn
    have hroot := h.roots r ht
    have hrn := inj_on_of_nodup_map hg.distinct hroot.1 (mem_of_target hl) hr
    exact hroot.2 m hm (hrn ▸ hn)
  rw [hcount, count_eq_zero_of_not_mem hout, Nat.zero_add]
  rfl

theorem mem_of_path (hr : r ∈ g.nodes) (h : ReflTransGen (Next g) r n) :
    n ∈ g.nodes := by
  cases h with
  | refl => exact hr
  | tail _ hnext =>
    obtain ⟨port, -, hl⟩ := hnext
    exact mem_of_target hl

/-- **A node stands once if a path leads to it from a root.** -/
theorem countAll_of_path (hg : Orderly g) (h : Grown g ts os) (hr : some r ∈ ts)
    (hn : ReflTransGen (Next g) r n) : countAll n os = 1 := by
  induction hn with
  | refl => exact h.countAll_root hg hr
  | tail hm hnext ih =>
    exact (h.countAll_next hg (mem_of_path (h.roots r hr).1 hm) hnext).trans ih

/-- A node stands nowhere unless a path leads to it from a root. -/
theorem exists_path (hg : Orderly g) (h : Grown g ts os) (hn : n ∈ g.nodes)
    (hc : countAll n os ≠ 0) : ∃ r, some r ∈ ts ∧ ReflTransGen (Next g) r n := by
  obtain ⟨k, hk, hcount⟩ := List.sum_pos_iff_exists_pos_nat.mp (Nat.pos_of_ne_zero hc)
  obtain ⟨o, ho, rfl⟩ := mem_map.mp hk
  obtain ⟨t, ht, htrace⟩ := h.exists_trace ho
  obtain ⟨k, hk, hid⟩ : ∃ k ∈ o.nodes, k.id = n.id := by
    simpa using count_pos_iff.mp hcount
  obtain ⟨r, rfl, hpath⟩ := htrace.mem k hk
  have hkn := inj_on_of_nodup_map hg.distinct (mem_of_path (h.roots r ht).1 hpath) hn hid
  exact ⟨r, ht, hkn ▸ hpath⟩

end Grown

end Sketchflow.Compile
