import Sketchflow.Proofs.Compile.Forest

/-!
# The plan of an orderly graph

An orderly graph has a plan, and the outlines of the plan hold all that follows the entry points of
the graph (`entries`): the first start node, the tick of the first frame loop, the actions of each
key and the body of each function that has a name.

* `Reached` are the nodes at entry points and those that paths lead to from there.
* **`plan_planned`**: an orderly graph with an entry point has a plan that holds all of them.
* **`Planned.countAll_reached`**: a node with steps stands once in the program if it is reached, and
  not at all otherwise.
* `Planned.whole`: no path of the program ends at a missing node or comes back to itself.
-/

namespace Sketchflow.Compile

open Graph List Relation

variable {g : Graph}
variable {c : Context} {n r : Node} {p : Plan}

/-! ## Entry points -/

/-- The outputs at which paths of a program begin: functions, keys and the frame loop. -/
def entryPorts (g : Graph) : List (Int × String) :=
  ((g.nodesOfType "function").filter (named g)).map (fun f => (f.id, "body"))
    ++ (g.nodesOfType "whenKeyPressed").map (fun k => (k.id, "out"))
    ++ (g.nodesOfType "gameLoop").head?.toList.map (fun l => (l.id, "tick"))

def entries (g : Graph) : List (Option Node) :=
  (entryPorts g).map (fun e => target g e.1 (some e.2))
    ++ (g.nodesOfType "start").head?.toList.map some

theorem mem_nodesOfType {type : String} :
    n ∈ g.nodesOfType type ↔ n ∈ g.nodes ∧ n.type = type := by
  simp [Graph.nodesOfType]

theorem root_of_leads (hg : Orderly g) {m : Node} {port : String} (hm : m ∈ g.nodes)
    (hl : Leads g m.id port n) (hport : port ∉ onward m.type) : Root g n := by
  refine ⟨mem_of_target hl, fun k hk ⟨port', hport', hl'⟩ => ?_⟩
  obtain ⟨hid, rfl⟩ := hg.single _ _ _ _ n hl' hl
  obtain rfl := inj_on_of_nodup_map hg.distinct hk hm hid
  exact hport hport'

theorem mem_entryPorts {e : Int × String} (h : e ∈ entryPorts g) :
    ∃ m ∈ g.nodes, m.id = e.1 ∧ e.2 ∉ onward m.type := by
  simp only [entryPorts, mem_append, mem_map, Option.mem_toList, mem_filter] at h
  rcases h with (⟨f, ⟨hf, -⟩, rfl⟩ | ⟨k, hk, rfl⟩) | ⟨l, hl, rfl⟩
  · obtain ⟨hf, ht⟩ := mem_nodesOfType.mp hf
    exact ⟨f, hf, rfl, by show "body" ∉ onward f.type; rw [ht]; decide⟩
  · obtain ⟨hk, ht⟩ := mem_nodesOfType.mp hk
    exact ⟨k, hk, rfl, by show "out" ∉ onward k.type; rw [ht]; decide⟩
  · obtain ⟨hl, ht⟩ := mem_nodesOfType.mp (mem_of_mem_head? hl)
    exact ⟨l, hl, rfl, by show "tick" ∉ onward l.type; rw [ht]; decide⟩

theorem root_of_start (hg : Orderly g) (h : (g.nodesOfType "start").head? = some r) :
    Root g r := by
  obtain ⟨hr, ht⟩ := mem_nodesOfType.mp (mem_of_mem_head? h)
  exact ⟨hr, fun m _ ⟨port, _, hl⟩ => hg.entry _ port r hl ht⟩

theorem root_of_entry (hg : Orderly g) (h : some r ∈ entries g) : Root g r := by
  simp only [entries, mem_append, mem_map, Option.mem_toList] at h
  rcases h with ⟨e, he, hl⟩ | ⟨n, hn, hr⟩
  · obtain ⟨m, hm, hid, hport⟩ := mem_entryPorts he
    exact root_of_leads hg hm (hid ▸ hl) hport
  · obtain rfl := Option.some.inj hr
    exact root_of_start hg hn

theorem nodup_entryPorts (hd : (g.nodes.map Node.id).Nodup) : (entryPorts g).Nodup := by
  have hport : ∀ (l : List Node) (port : String), l.Sublist g.nodes →
      (l.map fun n => (n.id, port)).Nodup := fun l port hl => by
    have h : ((l.map fun n => (n.id, port)).map Prod.fst).Nodup := by
      rw [List.map_map]
      exact hd.sublist (hl.map _)
    exact h.of_map _
  have hhead : (g.nodesOfType "gameLoop").head?.toList.Sublist g.nodes := by
    refine .trans ?_ (filter_sublist (p := fun n => n.type == "gameLoop"))
    show (g.nodesOfType "gameLoop").head?.toList.Sublist (g.nodesOfType "gameLoop")
    cases g.nodesOfType "gameLoop" <;> simp
  refine nodup_append'.mpr ⟨nodup_append'.mpr ⟨?_, ?_, ?_⟩, ?_, ?_⟩
  · exact hport _ _ (filter_sublist.trans filter_sublist)
  · exact hport _ _ filter_sublist
  · intro e he he'
    obtain ⟨f, -, rfl⟩ := mem_map.mp he
    obtain ⟨k, -, hk⟩ := mem_map.mp he'
    simp at hk
  · exact hport _ _ hhead
  · intro e he he'
    obtain ⟨l, -, rfl⟩ := mem_map.mp he'
    rcases mem_append.mp he with he | he
    · obtain ⟨f, -, hf⟩ := mem_map.mp he
      simp at hf
    · obtain ⟨k, -, hk⟩ := mem_map.mp he
      simp at hk

theorem nodup_entries (hg : Orderly g) : ((entries g).filterMap (Option.map Node.id)).Nodup := by
  rw [entries, filterMap_append, filterMap_map]
  refine nodup_append'.mpr ⟨?_, ?_, ?_⟩
  · refine List.Nodup.filterMap (fun e e' id h h' => ?_) (nodup_entryPorts hg.distinct)
    obtain ⟨n, hn, hid⟩ := Option.map_eq_some_iff.mp h
    obtain ⟨n', hn', hid'⟩ := Option.map_eq_some_iff.mp h'
    obtain rfl := inj_on_of_nodup_map hg.distinct (mem_of_target hn) (mem_of_target hn')
      (hid.trans hid'.symm)
    exact Prod.ext_iff.mpr (hg.single _ _ _ _ n hn hn')
  · cases (g.nodesOfType "start").head? <;> simp
  · intro id h h'
    obtain ⟨e, -, he⟩ := mem_filterMap.mp h
    obtain ⟨n, hn, hid⟩ := Option.map_eq_some_iff.mp he
    obtain ⟨s, hs, rfl⟩ : ∃ s, (g.nodesOfType "start").head? = some s ∧ s.id = id := by
      simpa using h'
    obtain ⟨hmem, ht⟩ := mem_nodesOfType.mp (mem_of_mem_head? hs)
    obtain rfl := inj_on_of_nodup_map hg.distinct (mem_of_target hn) hmem hid
    exact hg.entry _ _ _ hn ht

/-! ## Planning an orderly graph -/

theorem outline_completes (hg : Orderly g) (hr : Root g r) :
    Completes g (outline g) [] r [] :=
  outlineWithin_traces hg (nestingBound g) r [] (.root hr) (by simp [nestingBound]) []
    (nil_subset _)

theorem entry_traces (hg : Orderly g) {m : Node} {port : String} (hm : m ∈ g.nodes)
    (hport : port ∉ onward m.type) (hc : Between g [] c) :
    ∃ o c', along g (outline g) m.id (some port) [] c = .ok (o, c') ∧
      Traces g (target g m.id (some port)) o ∧ Between g [] c' ∧ c'.defined = c.defined :=
  along_traces hg (outline g) []
    (fun _ hl => outline_completes hg (root_of_leads hg hm hl hport)) hc

/-- What becomes of a function node: it is defined if it has a name. -/
def Defines (g : Graph) (f : Node) : Definition → Prop
  | .known => False
  | .made _ _ body => named g f = true ∧ Traces g (target g f.id (some "body")) body
  | .refused _ _ _ => named g f = false

/-- A handler holds all that follows its key. -/
def Handles (g : Graph) (k : Node) (h : Handler) : Prop :=
  Traces g (target g k.id (some "out")) h.body

theorem planFunction_spec (hg : Orderly g) {f : Node} (hf : f ∈ g.nodesOfType "function")
    (hc : Between g [] c) (hnew : f.id ∉ c.defined) :
    ∃ d c', planFunction g f c = .ok (d, c') ∧ Defines g f d ∧ Between g [] c' ∧
      c'.defined = f.id :: c.defined := by
  obtain ⟨hmem, ht⟩ := mem_nodesOfType.mp hf
  let c₁ : Context := { c with defined := f.id :: c.defined }
  have hc₁ : Between g [] c₁ := ⟨hc.emitting, hc.resolving, hc.recalls⟩
  obtain ⟨text, c₂, h₂, hk₂, hr₂, hs⟩ :=
    resolve_shaped hg.distinct hg.typed hmem "name" hc₁.recalls hc₁.resolving
  let c₃ : Context := { c₂ with notes := [] }
  have hc₃ : Between g [] c₃ := hc₁.keeps ⟨hk₂.emitting, hk₂.defined, hk₂.resolving⟩ hr₂
  have hname := hs.named_eq hg.typed hmem (hg.titled f hmem ht)
  have hget : (get : Run Context) c = .ok (c, c) := rfl
  have hpush : (modify fun c => { c with defined := f.id :: c.defined } : Run Unit) c =
      .ok ((), c₁) := rfl
  have hdrain : drainNotes c₂ = .ok (c₂.notes, c₃) := rfl
  have hout : ¬c.defined.contains f.id = true := by simpa using hnew
  rw [planFunction, run_bind hget, if_neg hout, run_bind hpush, run_bind h₂, run_bind hdrain]
  by_cases hn : named g f = true
  · obtain ⟨body, c₄, h₄, hb, hc₄, hd₄⟩ :=
      entry_traces hg hmem (by rw [ht]; decide : "body" ∉ onward f.type) hc₃
    rw [if_pos (hname.trans hn), run_bind h₄]
    exact ⟨_, _, rfl, ⟨hn, hb⟩, hc₄, hd₄.trans hk₂.defined⟩
  · rw [if_neg (by rw [hname]; exact hn)]
    exact ⟨_, _, rfl, by simpa [Defines] using hn, hc₃, hk₂.defined⟩

theorem planHandler_spec (hg : Orderly g) {k : Node} (hk : k ∈ g.nodesOfType "whenKeyPressed")
    (hc : Between g [] c) :
    ∃ h c', planHandler g k c = .ok (h, c') ∧ Handles g k h ∧ Between g [] c' := by
  obtain ⟨hmem, ht⟩ := mem_nodesOfType.mp hk
  obtain ⟨text, c₁, h₁, hk₁, hr₁, -⟩ :=
    resolve_shaped hg.distinct hg.typed hmem "key" hc.recalls hc.resolving
  let c₂ : Context := { c₁ with notes := [] }
  have hc₂ : Between g [] c₂ := hc.keeps ⟨hk₁.emitting, hk₁.defined, hk₁.resolving⟩ hr₁
  have hdrain : drainNotes c₁ = .ok (c₁.notes, c₂) := rfl
  obtain ⟨body, c₃, h₃, hb, hc₃, -⟩ :=
    entry_traces hg hmem (by rw [ht]; decide : "out" ∉ onward k.type) hc₂
  rw [planHandler, run_bind h₁, run_bind hdrain, run_bind h₃]
  exact ⟨_, _, rfl, hb, hc₃⟩

/-- Planning nodes one after the other; `I` holds of the nodes that are left. -/
theorem planEach_spec {α : Type} {make : Node → Run α} {R : Node → α → Prop}
    {I : List Node → Context → Prop}
    (h : ∀ n rest c, I (n :: rest) c → ∃ a c', make n c = .ok (a, c') ∧ R n a ∧ I rest c') :
    ∀ ns c, I ns c → ∃ as c', planEach make ns c = .ok (as, c') ∧ List.Forall₂ R ns as ∧ I [] c'
  | [], c, hc => ⟨[], c, rfl, .nil, hc⟩
  | n :: rest, c, hc => by
    obtain ⟨a, c₁, h₁, hr, hc₁⟩ := h n rest c hc
    obtain ⟨as, c₂, h₂, hrs, hc₂⟩ := planEach_spec h rest c₁ hc₁
    rw [planEach, run_bind h₁, run_bind h₂]
    exact ⟨_, _, rfl, .cons hr hrs, hc₂⟩

/-- A plan holds all that follows the entry points of a graph. -/
structure Planned (g : Graph) (p : Plan) : Prop where
  functions : List.Forall₂ (Defines g) (g.nodesOfType "function") p.functions
  handlers : List.Forall₂ (Handles g) (g.nodesOfType "whenKeyPressed") p.handlers
  path : Option.Rel (fun n o => Traces g (some n) o) (g.nodesOfType "start").head? p.path
  loop : Option.Rel (fun l e => e.1 = l ∧ Traces g (target g l.id (some "tick")) e.2)
    (g.nodesOfType "gameLoop").head? p.loop

theorem planFunctions_spec (hg : Orderly g) :
    ∃ ds c', planEach (planFunction g) (g.nodesOfType "function") {} = .ok (ds, c') ∧
      List.Forall₂ (Defines g) (g.nodesOfType "function") ds ∧ Between g [] c' := by
  -- The functions that are left are not defined yet.
  let I : List Node → Context → Prop := fun ns c => ns ⊆ g.nodesOfType "function" ∧
    (ns.map Node.id).Nodup ∧ Between g [] c ∧ ∀ n ∈ ns, n.id ∉ c.defined
  have hstep : ∀ n rest c, I (n :: rest) c → ∃ d c', planFunction g n c = .ok (d, c') ∧
      Defines g n d ∧ I rest c' := by
    rintro n rest c ⟨hsub, hnodup, hc, hnew⟩
    obtain ⟨hn, hrest⟩ := cons_subset.mp hsub
    obtain ⟨hout, hnodup⟩ := nodup_cons.mp hnodup
    obtain ⟨d, c', hp, hd, hc', hdef⟩ := planFunction_spec hg hn hc (hnew n mem_cons_self)
    refine ⟨d, c', hp, hd, hrest, hnodup, hc', fun m hm => ?_⟩
    rw [hdef, mem_cons, not_or]
    exact ⟨fun he => hout (he ▸ mem_map_of_mem hm), hnew m (mem_cons_of_mem _ hm)⟩
  have hinit : I (g.nodesOfType "function") {} :=
    ⟨List.Subset.refl _, hg.distinct.sublist (filter_sublist.map _),
      ⟨rfl, rfl, fun _ _ _ _ h => by cases h⟩, by simp⟩
  obtain ⟨ds, c', hp, hds, -, -, hc', -⟩ := planEach_spec hstep _ _ hinit
  exact ⟨ds, c', hp, hds, hc'⟩

theorem planHandlers_spec (hg : Orderly g) (hc : Between g [] c) :
    ∃ hs c', planEach (planHandler g) (g.nodesOfType "whenKeyPressed") c = .ok (hs, c') ∧
      List.Forall₂ (Handles g) (g.nodesOfType "whenKeyPressed") hs ∧ Between g [] c' := by
  let I : List Node → Context → Prop := fun ns c =>
    ns ⊆ g.nodesOfType "whenKeyPressed" ∧ Between g [] c
  have hstep : ∀ k rest c, I (k :: rest) c → ∃ h c', planHandler g k c = .ok (h, c') ∧
      Handles g k h ∧ I rest c' := by
    rintro k rest c ⟨hsub, hc⟩
    obtain ⟨hk, hrest⟩ := cons_subset.mp hsub
    obtain ⟨h, c', hp, hh, hc'⟩ := planHandler_spec hg hk hc
    exact ⟨h, c', hp, hh, hrest, hc'⟩
  obtain ⟨hs, c', hp, hhs, -, hc'⟩ := planEach_spec hstep _ _ ⟨List.Subset.refl _, hc⟩
  exact ⟨hs, c', hp, hhs, hc'⟩

/-- **An orderly graph with an entry point has a plan that holds all that follows its entry
points.** -/
theorem plan_planned (hg : Orderly g) (he : hasEntry g = true) :
    ∃ p, plan g = .ok (some p) ∧ Planned g p := by
  obtain ⟨functions, c₁, h₁, hf, hc₁⟩ := planFunctions_spec hg
  obtain ⟨handlers, c₂, h₂, hh, hc₂⟩ := planHandlers_spec hg hc₁
  obtain ⟨path, c₃, h₃, hp, hc₃⟩ : ∃ path c₃,
      planPath g (g.nodesOfType "start").head? c₂ = .ok (path, c₃) ∧
      Option.Rel (fun n o => Traces g (some n) o) (g.nodesOfType "start").head? path ∧
      Between g [] c₃ := by
    cases hs : (g.nodesOfType "start").head? with
    | none => exact ⟨none, c₂, rfl, .none, hc₂⟩
    | some n =>
      obtain ⟨o, c', ho, ht, hc', -⟩ := outline_completes hg (root_of_start hg hs) c₂ hc₂
      rw [planPath, run_bind ho]
      exact ⟨_, _, rfl, .some ht, hc'⟩
  obtain ⟨loop, c₄, h₄, hl⟩ : ∃ loop c₄,
      planLoop g (g.nodesOfType "gameLoop").head? c₃ = .ok (loop, c₄) ∧
      Option.Rel (fun l e => e.1 = l ∧ Traces g (target g l.id (some "tick")) e.2)
        (g.nodesOfType "gameLoop").head? loop := by
    cases hs : (g.nodesOfType "gameLoop").head? with
    | none => exact ⟨none, c₃, rfl, .none⟩
    | some l =>
      obtain ⟨hmem, ht⟩ := mem_nodesOfType.mp (mem_of_mem_head? hs)
      obtain ⟨o, c', ho, htr, -, -⟩ :=
        entry_traces hg hmem (by rw [ht]; decide : "tick" ∉ onward l.type) hc₃
      rw [planLoop, run_bind ho]
      exact ⟨_, _, rfl, .some ⟨rfl, htr⟩⟩
  refine ⟨⟨functions, handlers, path, loop⟩, ?_, hf, hh, hp, hl⟩
  have hrun : planProgram g (g.nodesOfType "start").head? (g.nodesOfType "gameLoop").head?
      (g.nodesOfType "whenKeyPressed") {} = .ok (⟨functions, handlers, path, loop⟩, c₄) := by
    rw [planProgram, run_bind h₁, run_bind h₂, run_bind h₃, run_bind h₄]
    rfl
  rw [plan, if_pos he, StateT.run, hrun]
  rfl

/-! ## What stands in a program -/

def Definition.bodies : Definition → List Outline
  | .made _ _ body => [body]
  | _ => []

/-- Everything that is outlined for a program. -/
def Plan.outlines (p : Plan) : List Outline :=
  p.functions.flatMap Definition.bodies ++ p.handlers.map Handler.body
    ++ p.loop.toList.map Prod.snd ++ p.path.toList

/-- What ends up in a program: handlers and a setup that do nothing are left out. -/
def Plan.written (p : Plan) : List Outline :=
  p.functions.flatMap Definition.bodies ++ (p.handlers.map Handler.body).filter Outline.acts
    ++ p.loop.toList.map Prod.snd ++ p.path.toList.filter (fun o => p.loop.isNone || o.acts)

theorem traces_bodies {fs : List Node} {ds : List Definition} (h : List.Forall₂ (Defines g) fs ds) :
    List.Forall₂ (Traces g) ((fs.filter (named g)).map fun f => target g f.id (some "body"))
      (ds.flatMap Definition.bodies) := by
  induction h with
  | nil => exact .nil
  | @cons f d fs ds hd _ ih =>
    cases d with
    | known => exact hd.elim
    | made notes name body =>
      rw [filter_cons_of_pos hd.1]
      exact .cons hd.2 ih
    | refused notes n resolved =>
      have hn : named g f = false := hd
      rw [filter_cons_of_neg (by simp [hn])]
      exact ih

theorem forall₂_toList {α β : Type} {R : α → β → Prop} {a : Option α} {b : Option β}
    (h : Option.Rel R a b) : List.Forall₂ R a.toList b.toList := by
  cases h with
  | none => exact .nil
  | some h => exact .cons h .nil

theorem Planned.grown (hg : Orderly g) (h : Planned g p) :
    Grown g (entries g) p.outlines where
  traces := by
    have hloop : List.Forall₂ (Traces g) ((g.nodesOfType "gameLoop").head?.toList.map fun l =>
        target g l.id (some "tick")) (p.loop.toList.map Prod.snd) := by
      rw [List.forall₂_map_left_iff, List.forall₂_map_right_iff]
      exact (forall₂_toList h.loop).imp fun _ _ hl => hl.2
    have hpath : List.Forall₂ (Traces g) ((g.nodesOfType "start").head?.toList.map some)
        p.path.toList := by
      rw [List.forall₂_map_left_iff]
      exact forall₂_toList h.path
    simp only [entries, entryPorts, List.map_append, List.map_map, Plan.outlines]
    exact List.rel_append (List.rel_append (List.rel_append (traces_bodies h.functions)
      (List.forall₂_map_left_iff.mpr (List.forall₂_map_right_iff.mpr h.handlers))) hloop) hpath
  roots _ := root_of_entry hg
  distinct := nodup_entries hg

theorem Traces.not_acts {t : Option Node} {o : Outline} (h : Traces g t o) (ha : o.acts = false) :
    ∀ n ∈ o.nodes, action? n.type = none := by
  induction h with
  | stop => simp [Outline.nodes]
  | @node m notes r body other next hb ho _ _ _ hx =>
    simp only [Outline.acts, Bool.or_eq_false_iff, Option.isSome_eq_false_iff,
      Option.isNone_iff_eq_none] at ha
    rw [ha.1] at hb ho
    cases hb
    cases ho
    intro n hn
    simp only [Outline.nodes, nil_append, mem_cons] at hn
    rcases hn with rfl | hn
    · exact ha.1
    · exact hx ha.2 n hn

theorem countAll_append (n : Node) (os os' : List Outline) :
    countAll n (os ++ os') = countAll n os + countAll n os' := by
  simp [countAll]

theorem countAll_filter {q : Outline → Bool} {os : List Outline}
    (h : ∀ o ∈ os, q o = false → o.count n = 0) : countAll n (os.filter q) = countAll n os := by
  induction os with
  | nil => rfl
  | cons o os ih =>
    have hrest := ih fun o' h' => h o' (mem_cons_of_mem _ h')
    cases hq : q o with
    | true =>
      rw [filter_cons_of_pos hq]
      simp only [countAll, map_cons, sum_cons] at hrest ⊢
      rw [hrest]
    | false =>
      rw [filter_cons_of_neg (by simp [hq])]
      simp only [countAll, map_cons, sum_cons] at hrest ⊢
      rw [hrest, h o mem_cons_self hq, Nat.zero_add]

/-- **What is left out of a program holds no node with steps.** -/
theorem Planned.countAll_written (hg : Orderly g) (h : Planned g p)
    (hn : n ∈ g.nodes) (ha : (action? n.type).isSome = true) :
    countAll n p.written = countAll n p.outlines := by
  have hgrown := h.grown hg
  have hzero : ∀ o ∈ p.outlines, o.acts = false → o.count n = 0 := by
    intro o ho hacts
    obtain ⟨t, ht, htrace⟩ := hgrown.exists_trace ho
    refine count_eq_zero_of_not_mem fun hin => ?_
    obtain ⟨k, hk, hid⟩ := mem_map.mp hin
    obtain ⟨r, rfl, hpath⟩ := htrace.mem k hk
    have hkn := inj_on_of_nodup_map hg.distinct
      (Grown.mem_of_path (hgrown.roots r ht).1 hpath) hn hid
    rw [← hkn, htrace.not_acts hacts k hk] at ha
    cases ha
  simp only [Plan.outlines, mem_append] at hzero
  rw [Plan.written, Plan.outlines, countAll_append, countAll_append, countAll_append,
    countAll_append, countAll_append, countAll_append,
    countAll_filter fun o ho => hzero o (.inl (.inl (.inr ho))),
    countAll_filter fun o ho hq => hzero o (.inr ho) (Bool.or_eq_false_iff.mp hq).2]

/-! ## Reached nodes -/

/-- The nodes that a program runs: those at its entry points and all that paths lead to. -/
inductive Reached (g : Graph) : Node → Prop
  | start {n : Node} (h : (g.nodesOfType "start").head? = some n) : Reached g n
  | tick {l n : Node} (h : (g.nodesOfType "gameLoop").head? = some l) (hn : Leads g l.id "tick" n) :
    Reached g n
  | key {k n : Node} (h : k ∈ g.nodesOfType "whenKeyPressed") (hn : Leads g k.id "out" n) :
    Reached g n
  | body {f n : Node} (h : f ∈ g.nodesOfType "function") (hf : named g f = true)
      (hn : Leads g f.id "body" n) : Reached g n
  | next {m n : Node} (h : Reached g m) (hn : Next g m n) : Reached g n

theorem reached_of_entry (h : some r ∈ entries g) : Reached g r := by
  simp only [entries, entryPorts, mem_append, mem_map, Option.mem_toList,
    mem_filter] at h
  rcases h with ⟨e, (⟨f, ⟨hf, hn⟩, rfl⟩ | ⟨k, hk, rfl⟩) | ⟨l, hl, rfl⟩, ht⟩ | ⟨n, hn, hr⟩
  · exact .body hf hn ht
  · exact .key hk ht
  · exact .tick hl ht
  · obtain rfl := Option.some.inj hr
    exact .start hn

theorem reached_iff :
    Reached g n ↔ ∃ r, some r ∈ entries g ∧ ReflTransGen (Next g) r n := by
  constructor
  · intro h
    have hport : ∀ {e : Int × String} {n : Node}, e ∈ entryPorts g → Leads g e.1 e.2 n →
        some n ∈ entries g := fun he hl =>
      mem_append_left _ (mem_map.mpr ⟨_, he, hl⟩)
    induction h with
    | @start n h => exact ⟨n, mem_append_right _ (by simp [h]), .refl⟩
    | @tick l n h hn => exact ⟨n, hport (e := (l.id, "tick")) (by simp [entryPorts, h]) hn, .refl⟩
    | @key k n h hn =>
      refine ⟨n, hport (e := (k.id, "out")) ?_ hn, .refl⟩
      exact mem_append_left _ (mem_append_right _ (mem_map_of_mem h))
    | @body f n h hf hn =>
      refine ⟨n, hport (e := (f.id, "body")) ?_ hn, .refl⟩
      exact mem_append_left _ (mem_append_left _
        (mem_map_of_mem (mem_filter.mpr ⟨h, hf⟩)))
    | next _ hn ih =>
      obtain ⟨r, hr, hm⟩ := ih
      exact ⟨r, hr, hm.tail hn⟩
  · rintro ⟨r, hr, hn⟩
    induction hn with
    | refl => exact reached_of_entry hr
    | tail _ hn ih => exact ih.next hn

/-- **In the program of an orderly graph a node with steps stands once if it is reached, and not at
all otherwise.** -/
theorem Planned.countAll_reached (hg : Orderly g) (h : Planned g p)
    (hn : n ∈ g.nodes) (ha : (action? n.type).isSome = true) :
    (Reached g n → countAll n p.written = 1) ∧ (¬Reached g n → countAll n p.written = 0) := by
  rw [h.countAll_written hg hn ha]
  constructor
  · intro hr
    obtain ⟨r, hr, hpath⟩ := reached_iff.mp hr
    exact (h.grown hg).countAll_of_path hg hr hpath
  · intro hr
    by_contra hc
    exact hr (reached_iff.mpr ((h.grown hg).exists_path hg hn hc))

/-! ## Whole paths -/

/-- Every path of an outline goes on to its end: none leads to a node that is missing, and none
comes back to a node that is being written. -/
def Outline.whole : Outline → Bool
  | .stop => true
  | .lost _ _ _ => false
  | .again _ => false
  | .node _ _ _ body other next => body.whole && other.whole && next.whole

theorem Traces.whole {t : Option Node} {o : Outline} (h : Traces g t o) : o.whole = true := by
  induction h with
  | stop => rfl
  | node _ _ _ hb ho hx => simp [Outline.whole, hb, ho, hx]

theorem Planned.whole (hg : Orderly g) (h : Planned g p) :
    ∀ o ∈ p.outlines, o.whole = true := by
  intro o ho
  obtain ⟨t, -, ht⟩ := (h.grown hg).exists_trace ho
  exact ht.whole

end Sketchflow.Compile
