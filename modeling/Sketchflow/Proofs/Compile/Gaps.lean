import Sketchflow.Palette.Catalog
import Sketchflow.Proofs.Compile.Plan
import Sketchflow.Proofs.Compile.Resolve
import Sketchflow.Proofs.Graph.Current

/-!
# Gaps and obstacles

A graph may lack something that its program needs. Most of it is a gap, which reads as nothing and
leaves a note, but some of it is an obstacle, and then there is no program.

* `Blamed` is what there is in a graph behind an obstacle: a node that lacks an input its own steps
  need, or an input without a default whose type cannot be looked up.
* `Meets` is what holds of a compilation that can end at such obstacles only.
* **`generate_blamed`**: there is a program, or an obstacle with something behind it. An input that
  only feeds other inputs is never an obstacle: where it is missing, it is a gap.
* `generate_blamed_bare`: a step that lacks its inputs is an obstacle, on a palette that can be had
  by registering a type again.
-/

namespace Sketchflow.Compile

open List

variable {g : Graph}
variable {n : Node}

/-! ## What is behind an obstacle -/

/-- The steps of a node need an input that the node does not have. -/
def Lacks (n : Node) (name : String) : Prop :=
  ∃ a, action? n.type = some a ∧ name ∈ a.asks ∧ name ∉ n.dataInputs.map (·.id)

inductive Blamed (g : Graph) : Obstacle → Prop
  | step {n : Node} {name : String} (mem : n ∈ g.nodes) (lacks : Lacks n name) :
      Blamed g (.missingInput name)
  | type {n : Node} {p : Port} {b : BadType} (mem : n ∈ g.nodes) (input : p ∈ n.inputs)
      (absent : p.default = .null) (bad : absentText p.dataType = .error b) :
      Blamed g (.badType b)

/-- A compilation that ends with a good result, or at an obstacle that something is behind. -/
def Meets (g : Graph) {α : Type} (x : Run α) (good : α → Prop) : Prop :=
  ∀ c, match x c with
    | .ok (a, _) => good a
    | .error o => Blamed g o

section

variable {α β : Type} {good : α → Prop} {good' : β → Prop}

theorem meets_pure {a : α} (h : good a) : Meets g (pure a) good :=
  fun _ => h

theorem Meets.bind {x : Run α} {f : α → Run β} (hx : Meets g x good)
    (hf : ∀ a, good a → Meets g (f a) good') : Meets g (x >>= f) good' := by
  intro c
  show match (x c).bind fun r => f r.1 r.2 with
    | .ok (b, _) => good' b
    | .error o => Blamed g o
  have hend := hx c
  cases hrun : x c with
  | error o =>
    rw [hrun] at hend
    exact hend
  | ok r =>
    rw [hrun] at hend
    exact hf r.1 hend r.2

theorem meets_throw {o : Obstacle} (h : Blamed g o) : Meets g (throw o : Run α) good :=
  fun _ => h

theorem meets_modify (f : Context → Context) : Meets g (modify f : Run Unit) fun _ => True :=
  fun _ => trivial

theorem meets_get : Meets g (get : Run Context) fun _ => True :=
  fun _ => trivial

theorem meets_drainNotes : Meets g drainNotes fun _ => True :=
  fun _ => trivial

end

/-! ## Inputs -/

theorem defaultText_eq_error {v : Value} {type : DataType} {b : BadType}
    (h : defaultText v type = .error b) : v = .null ∧ absentText type = .error b := by
  unfold defaultText at h
  split at h
  · cases h
  · cases h
  · exact ⟨rfl, h⟩
  · cases h
  · cases h
  · cases h

theorem meets_defaultOf (hn : n ∈ g.nodes) (input : String) :
    Meets g (defaultOf n input) fun _ => True := by
  unfold defaultOf
  cases hp : n.input? input with
  | none => exact (meets_modify _).bind fun _ _ => meets_pure trivial
  | some p =>
    have hmem : p ∈ n.inputs := mem_of_find?_eq_some hp
    cases hd : defaultText p.default p.dataType with
    | ok text => simpa only [hd] using meets_pure trivial
    | error b =>
      obtain ⟨habsent, hbad⟩ := defaultText_eq_error hd
      simpa only [hd] using meets_throw (.type hn hmem habsent hbad)

theorem meets_resolveAll {res : Node → String → Run String}
    (h : ∀ input, Meets g (res n input) fun _ => True) (inputs : List String) :
    Meets g (resolveAll res n inputs) fun _ => True := by
  induction inputs with
  | nil => exact meets_pure trivial
  | cons input inputs ih => exact (h input).bind fun _ _ => ih.bind fun _ _ => meets_pure trivial

theorem meets_resolveFresh {res : Node → String → Run String}
    (h : ∀ n ∈ g.nodes, ∀ input, Meets g (res n input) fun _ => True)
    (hn : n ∈ g.nodes) (input : String) : Meets g (resolveFresh g res n input) fun _ => True := by
  unfold resolveFresh
  split
  · exact meets_defaultOf hn input
  · split
    · exact (meets_modify _).bind fun _ _ => meets_pure trivial
    · rename_i source hsource
      split
      · exact meets_defaultOf hn input
      · rename_i s _
        have hall := meets_resolveAll (h source (Graph.mem_of_node? hsource)) s.asks
        exact hall.bind fun _ _ => meets_pure trivial

theorem meets_resolveWithin (bound : Nat) : ∀ n ∈ g.nodes, ∀ input,
    Meets g (resolveWithin g bound n input) fun _ => True := by
  induction bound with
  | zero => exact fun _ _ _ => meets_pure trivial
  | succ bound ih =>
    intro n hn input
    refine meets_get.bind fun c _ => ?_
    split
    · exact meets_pure trivial
    · split
      · exact (meets_modify _).bind fun _ _ => meets_pure trivial
      · refine (meets_modify _).bind fun _ _ => ?_
        refine (meets_resolveFresh ih hn input).bind fun _ _ => ?_
        exact (meets_modify _).bind fun _ _ => meets_pure trivial

theorem meets_resolve (hn : n ∈ g.nodes) (input : String) :
    Meets g (resolve g n input) fun _ => True :=
  meets_resolveWithin _ n hn input

theorem meets_resolveInputs (hn : n ∈ g.nodes) (ports : List Port) :
    Meets g (resolveInputs g n ports) fun r => r.map (·.1) = ports.map (·.id) := by
  induction ports with
  | nil => exact meets_pure rfl
  | cons p ports ih =>
    refine (meets_resolve hn p.id).bind fun text _ => ih.bind fun r hr => meets_pure ?_
    simp [hr]

/-! ## Paths -/

theorem meets_demandAll (hn : n ∈ g.nodes) {r : Inputs}
    (hr : r.map (·.1) = n.dataInputs.map (·.id)) {a : Action} (ha : action? n.type = some a)
    {names : List String} (hnames : ∀ name ∈ names, name ∈ a.asks) :
    Meets g (demandAll r names) fun _ => True := by
  induction names with
  | nil => exact meets_pure trivial
  | cons name names ih =>
    have hrest := ih fun other hother => hnames other (mem_cons_of_mem _ hother)
    have hneed : Meets g (need r name) fun _ => True := by
      unfold need
      cases hl : r.lookup name with
      | some text => exact meets_pure trivial
      | none =>
        have hmissing : name ∉ r.map (·.1) := by
          intro hmem
          obtain ⟨e, he, rfl⟩ := mem_map.mp hmem
          exact absurd rfl (bne_iff_ne.mp (lookup_eq_none_iff.mp hl e he))
        rw [hr] at hmissing
        exact meets_throw (.step hn ⟨a, ha, hnames name (mem_cons_self ..), hmissing⟩)
    have hdemand : Meets g (demand r name) fun _ => True :=
      hneed.bind fun _ _ => meets_pure trivial
    exact hdemand.bind fun _ _ => hrest

theorem meets_along {survey : Survey}
    (h : ∀ n ∈ g.nodes, ∀ path, Meets g (survey n path) fun _ => True) (id : Int)
    (port : Option String) (path : List Int) :
    Meets g (along g survey id port path) fun _ => True := by
  unfold along
  split
  · exact meets_pure trivial
  · split
    · exact meets_pure trivial
    · split
      · exact meets_pure trivial
      · rename_i next hnext
        exact h next (Graph.mem_of_node? hnext) path

theorem meets_outlineWithin (bound : Nat) : ∀ n ∈ g.nodes, ∀ path,
    Meets g (outlineWithin g bound n path) fun _ => True := by
  induction bound with
  | zero => exact fun _ _ _ => meets_pure trivial
  | succ bound ih =>
    intro n hn path
    refine meets_get.bind fun c _ => ?_
    split
    · exact meets_pure trivial
    · refine (meets_modify _).bind fun _ _ => ?_
      refine (meets_resolveInputs hn n.dataInputs).bind fun r hr => ?_
      refine meets_drainNotes.bind fun notes _ => ?_
      have hdemands : Meets g (demandAll r (((action? n.type).map Action.asks).getD []))
          fun _ => True := by
        cases ha : action? n.type with
        | none => exact meets_pure trivial
        | some a => exact meets_demandAll hn hr ha fun _ h => h
      refine hdemands.bind fun _ _ => ?_
      refine (meets_along ih _ _ _).bind fun body _ => ?_
      refine (meets_along ih _ _ _).bind fun other _ => ?_
      refine (meets_along ih _ _ _).bind fun next _ => ?_
      exact (meets_modify _).bind fun _ _ => meets_pure trivial

theorem meets_outline : ∀ n ∈ g.nodes, ∀ path, Meets g (outline g n path) fun _ => True :=
  meets_outlineWithin _

/-! ## Whole programs -/

theorem meets_planFunction (hn : n ∈ g.nodes) :
    Meets g (planFunction g n) fun _ => True := by
  refine meets_get.bind fun c _ => ?_
  split
  · exact meets_pure trivial
  · refine (meets_modify _).bind fun _ _ => (meets_resolve hn "name").bind fun resolved _ => ?_
    refine meets_drainNotes.bind fun notes _ => ?_
    split
    · exact (meets_along meets_outline _ _ _).bind fun _ _ => meets_pure trivial
    · exact meets_pure trivial

theorem meets_planHandler (hn : n ∈ g.nodes) :
    Meets g (planHandler g n) fun _ => True := by
  refine (meets_resolve hn "key").bind fun resolved _ => ?_
  refine meets_drainNotes.bind fun notes _ => ?_
  exact (meets_along meets_outline _ _ _).bind fun _ _ => meets_pure trivial

theorem meets_planEach {α : Type} {make : Node → Run α}
    (h : ∀ n ∈ g.nodes, Meets g (make n) fun _ => True) {ns : List Node} (hns : ns ⊆ g.nodes) :
    Meets g (planEach make ns) fun _ => True := by
  induction ns with
  | nil => exact meets_pure trivial
  | cons n ns ih =>
    obtain ⟨hn, hrest⟩ := cons_subset.mp hns
    exact (h n hn).bind fun _ _ => (ih hrest).bind fun _ _ => meets_pure trivial

theorem nodesOfType_subset (type : String) : g.nodesOfType type ⊆ g.nodes :=
  filter_sublist.subset

theorem meets_planProgram {start : Option Node} (hstart : ∀ n ∈ start, n ∈ g.nodes)
    (loop : Option Node) {hats : List Node} (hhats : hats ⊆ g.nodes) :
    Meets g (planProgram g start loop hats) fun _ => True := by
  have hfunctions : g.nodesOfType "function" ⊆ g.nodes := nodesOfType_subset _
  refine (meets_planEach (fun _ hn => meets_planFunction hn) hfunctions).bind fun _ _ => ?_
  refine (meets_planEach (fun _ hn => meets_planHandler hn) hhats).bind fun _ _ => ?_
  have hpath : Meets g (planPath g start) fun _ => True := by
    cases start with
    | none => exact meets_pure trivial
    | some n => exact (meets_outline n (hstart n rfl) []).bind fun _ _ => meets_pure trivial
  have hloop : Meets g (planLoop g loop) fun _ => True := by
    cases loop with
    | none => exact meets_pure trivial
    | some n => exact (meets_along meets_outline _ _ _).bind fun _ _ => meets_pure trivial
  exact hpath.bind fun _ _ => hloop.bind fun _ _ => meets_pure trivial

theorem plan_blamed {o : Obstacle} (h : plan g = .error o) : Blamed g o := by
  unfold plan at h
  split at h
  · have hstart : ∀ n ∈ (g.nodesOfType "start").head?, n ∈ g.nodes := fun n hn =>
      nodesOfType_subset _ (mem_of_mem_head? hn)
    have hhats : g.nodesOfType "whenKeyPressed" ⊆ g.nodes := nodesOfType_subset _
    have hend := meets_planProgram hstart (g.nodesOfType "gameLoop").head? hhats {}
    rw [StateT.run] at h
    split at hend
    · rename_i hrun
      rw [hrun] at h
      cases h
    · rename_i hrun
      rw [hrun] at h
      cases h
      exact hend
  · cases h

/-- What is noted about an input that is missing. -/
def missingNote (n : Node) (input : String) : String :=
  "Error: input " ++ Text.quote input ++ s!" on {n.type} (ID {n.id}) is missing"

/-- **There is a program, or something in the graph is behind the obstacle**: a node that lacks an
input its own steps need, or an input without a default whose type cannot be looked up. A missing
input that other inputs depend on is a gap. -/
theorem generate_blamed (g : Graph) (limit : String) :
    ((∃ text, generate g limit = .ok text) ∨ ∃ o, generate g limit = .error o ∧ Blamed g o) ∧
    ∀ (n : Node) (input : String) (c : Context),
      g.wireInto? (.int n.id) (.str input) = none → n.input? input = none →
      c.memo.lookup (n.id, input) = none → c.resolving.contains (n.id, input) = false →
      ∃ c', resolve g n input c = .ok ("None", c') ∧
        c'.notes = c.notes ++ [missingNote n input] ∧ c'.gaps = c.gaps + 1 := by
  refine ⟨?_, fun n input c hwire hport hmemo hfree =>
    ⟨((c.enter (n.id, input)).note (missingNote n input)).leave (n.id, input) "None", ?_, rfl, rfl⟩⟩
  rotate_left
  · have hfresh : ∀ res, resolveFresh g res n input (c.enter (n.id, input)) =
        .ok ("None", (c.enter (n.id, input)).note (missingNote n input)) := by
      intro res
      show (resolveFresh g res n input).run _ = _
      simp only [resolveFresh, hwire, defaultOf, hport]
      rfl
    rw [resolve, dependencyBound, resolveWithin_succ, hmemo, hfree, hfresh]
    rfl
  rw [generate_eq]
  cases hp : plan g with
  | ok p => exact .inl ⟨planText limit p, rfl⟩
  | error o => exact .inr ⟨o, rfl, plan_blamed hp⟩

/-! ## A palette with a type registered again -/

/-- The standard palette, with nodes that move the pen but do not ask where to. -/
def barePalette : Palette :=
  match Palette.standard.register (Blueprint.make "moveTo" "" "" "").thenIn.thenOut with
  | .ok p => p
  | .error _ => .standard

def bareMove : Graph :=
  Graph.edited barePalette [.create (.str "start") (.int 0) (.int 0),
    .create (.str "moveTo") (.int 0) (.int 0),
    .connect "00000001" (.int 1) (.str "out") (.int 2) (.str "in")]

/-- **A step that lacks an input is an obstacle, and not a gap.** -/
theorem generate_blamed_bare :
    generate bareMove "25000" = .error (.missingInput "x") ∧
    Blamed bareMove (.missingInput "x") := by
  have hfails : generate bareMove "25000" = .error (.missingInput "x") := by rfl
  refine ⟨hfails, ?_⟩
  rcases (generate_blamed bareMove "25000").1 with ⟨text, h⟩ | ⟨o, h, hblamed⟩
  · rw [hfails] at h
    cases h
  · rw [hfails] at h
    cases h
    exact hblamed

end Sketchflow.Compile
