import Sketchflow.Compile.Program
import Sketchflow.Proofs.Graph.Lookup

/-!
# Resolving inputs

Where every input is of a type that can be looked up (`Typed`), an input always has a text, and
resolving it leaves what is being written, defined and resolved as it was (`resolveWithin_spec`).

* `Shaped` says which texts an input can have when nothing is known of the inputs it depends on:
  its default, or the expression of the node that feeds it.
* **`resolve_shaped`**: between the steps of a compilation every input gets such a text, whatever
  has been resolved before, also in a graph whose inputs depend on themselves.
-/

namespace Sketchflow.Compile

open List

variable {g : Graph}
variable {c : Context} {n : Node} {input text : String}

/-! ## Contexts -/

structure Keeps (c c' : Context) : Prop where
  emitting : c'.emitting = c.emitting
  defined : c'.defined = c.defined
  resolving : c'.resolving = c.resolving

theorem Keeps.refl (c : Context) : Keeps c c := ⟨rfl, rfl, rfl⟩

theorem Keeps.trans {c₁ c₂ c₃ : Context} (h : Keeps c₁ c₂) (k : Keeps c₂ c₃) : Keeps c₁ c₃ :=
  ⟨k.emitting.trans h.emitting, k.defined.trans h.defined, k.resolving.trans h.resolving⟩

def Context.note (c : Context) (note : String) : Context :=
  { c with notes := c.notes ++ [note], gaps := c.gaps + 1 }

def Context.enter (c : Context) (key : Key) : Context :=
  { c with resolving := key :: c.resolving }

def Context.leave (c : Context) (key : Key) (text : String) : Context :=
  { c with resolving := c.resolving.erase key, memo := c.memo ++ [(key, text)] }

theorem resolveWithin_succ (bound : Nat) (n : Node) (input : String) (c : Context) :
    resolveWithin g (bound + 1) n input c =
      match c.memo.lookup (n.id, input) with
      | some text => .ok (text, c)
      | none =>
        if c.resolving.contains (n.id, input) then
          .ok ("None", c.note ("Error: data cycle through " ++ inputName n input))
        else
          (resolveFresh g (resolveWithin g bound) n input (c.enter (n.id, input))).map fun r =>
            (r.1, r.2.leave (n.id, input) r.1) := by
  show (resolveWithin g (bound + 1) n input).run c = _
  simp only [resolveWithin, StateT.run_bind, StateT.run_get, pure_bind]
  cases c.memo.lookup (n.id, input) with
  | some text => rfl
  | none =>
    simp only
    split
    · rfl
    · simp only [StateT.run_bind, StateT.run_modify]
      show (resolveFresh g (resolveWithin g bound) n input (c.enter (n.id, input))).bind _ = _
      cases resolveFresh g (resolveWithin g bound) n input (c.enter (n.id, input)) <;> rfl

/-! ## Texts of inputs -/

/-- A node whose inputs are of types that can be looked up. -/
def Typed (n : Node) : Prop :=
  ∀ p ∈ n.inputs, ∃ text, absentText p.dataType = .ok text

theorem defaultText_eq_ok {type : DataType} (h : ∃ text, absentText type = .ok text) (v : Value) :
    ∃ text, defaultText v type = .ok text := by
  unfold defaultText
  split
  · exact ⟨_, rfl⟩
  · exact ⟨_, rfl⟩
  · exact h
  · exact ⟨_, rfl⟩
  · exact ⟨_, rfl⟩
  · exact ⟨_, rfl⟩

/-- The text of an input that nothing feeds. -/
def OwnText (n : Node) (input text : String) : Prop :=
  match n.input? input with
  | none => text = "None"
  | some p => defaultText p.default p.dataType = .ok text

inductive Feed where
  /-- Nothing that computes: the input is its default. -/
  | own
  /-- A wire from a node that is not there. -/
  | missing (id : Int)
  | source (s : Source) (n : Node)

def feed (g : Graph) (n : Node) (input : String) : Feed :=
  match g.wireInto? (.int n.id) (.str input) with
  | none => .own
  | some w =>
    match g.node? (.int w.fromNode) with
    | none => .missing w.fromNode
    | some source =>
      match source? source.type with
      | none => .own
      | some s => .source s source

theorem exists_wire_of_feed {m : Node} {s : Source}
    (h : feed g n input = .source s m) : ∃ w, g.wireInto? (.int n.id) (.str input) = some w ∧
      g.node? (.int w.fromNode) = some m ∧ source? m.type = some s := by
  unfold feed at h
  split at h
  · cases h
  · rename_i w hw
    split at h
    · cases h
    · rename_i hm
      split at h
      · cases h
      · rename_i hs
        cases h
        exact ⟨w, hw, hm, hs⟩

theorem mem_of_feed {m : Node} {s : Source} (h : feed g n input = .source s m) :
    m ∈ g.nodes ∧ source? m.type = some s := by
  obtain ⟨w, -, hm, hs⟩ := exists_wire_of_feed h
  exact ⟨Graph.mem_of_node? hm, hs⟩

theorem resolveFresh_eq (res : Node → String → Run String) (n : Node) (input : String) :
    resolveFresh g res n input =
      match feed g n input with
      | .own => defaultOf n input
      | .missing id => do
        noteGap (s!"Error: source node {id} for " ++ inputName n input ++ " is missing")
        return "None"
      | .source s m => do return s.expression m (← resolveAll res m s.asks) := by
  unfold resolveFresh feed
  cases g.wireInto? (.int n.id) (.str input) with
  | none => rfl
  | some w =>
    simp only
    cases g.node? (.int w.fromNode) with
    | none => rfl
    | some source =>
      simp only
      cases source? source.type <;> rfl

/-- The texts that an input can have, whatever the texts of the inputs it depends on. -/
def Shaped (g : Graph) (n : Node) (input text : String) : Prop :=
  match feed g n input with
  | .own => OwnText n input text
  | .missing _ => text = "None"
  | .source s m => ∃ texts : List String, texts.length = s.asks.length ∧
      text = s.expression m texts

/-- The text of an input that nothing feeds, if it has one. -/
def ownText (n : Node) (input : String) : String :=
  match n.input? input with
  | none => "None"
  | some p => (defaultText p.default p.dataType).toOption.getD "None"

theorem OwnText.eq (h : OwnText n input text) :
    text = ownText n input := by
  unfold OwnText at h
  unfold ownText
  split at h <;> simp_all [Except.toOption]

/-- The text of an input by plain recursion: nothing is remembered, and the bound alone ends it. -/
def inputTextWithin (g : Graph) : Nat → Node → String → String
  | 0, _, _ => "None"
  | bound + 1, n, input =>
    match feed g n input with
    | .own => ownText n input
    | .missing _ => "None"
    | .source s m => s.expression m (s.asks.map (inputTextWithin g bound m))

/-- The text of an input by plain recursion. -/
def inputText (g : Graph) (n : Node) (input : String) : String :=
  inputTextWithin g (dependencyBound g) n input

theorem inputText_shaped (hg : ∀ n ∈ g.nodes, Typed n) (hn : n ∈ g.nodes)
    (input : String) : Shaped g n input (inputText g n input) := by
  have hbound : inputText g n input =
      inputTextWithin g (g.nodes.length * askedNames.length + 1 + 1) n input := rfl
  rw [hbound, inputTextWithin, Shaped]
  cases hf : feed g n input with
  | own =>
    unfold OwnText ownText
    cases hp : n.input? input with
    | none => rfl
    | some p =>
      obtain ⟨text, ht⟩ := defaultText_eq_ok (hg n hn p (mem_of_find?_eq_some hp)) p.default
      simp only [ht]
      rfl
  | missing id => rfl
  | source s m => exact ⟨_, length_map _, rfl⟩

theorem defaultOf_spec (h : Typed n) (input : String) (c : Context) :
    ∃ text c', defaultOf n input c = .ok (text, c') ∧ OwnText n input text ∧ Keeps c c' ∧
      c'.memo = c.memo := by
  unfold defaultOf OwnText
  cases hp : n.input? input with
  | none => exact ⟨_, _, rfl, rfl, ⟨rfl, rfl, rfl⟩, rfl⟩
  | some p =>
    obtain ⟨text, ht⟩ := defaultText_eq_ok (h p (mem_of_find?_eq_some hp)) p.default
    refine ⟨text, c, ?_, ht, .refl c, rfl⟩
    simp only [ht]
    rfl

/-- Known texts are of the shape of their inputs. -/
def Recalls (g : Graph) (c : Context) : Prop :=
  ∀ n ∈ g.nodes, ∀ input text, c.memo.lookup (n.id, input) = some text → Shaped g n input text

/-- A way to resolve inputs that always gives a text and keeps contexts in order. -/
def Steady (g : Graph) (res : Node → String → Run String) : Prop :=
  ∀ n ∈ g.nodes, ∀ input c, Recalls g c → ∃ text c', res n input c = .ok (text, c') ∧
    Keeps c c' ∧ Recalls g c'

theorem resolveAll_spec {res : Node → String → Run String} (h : Steady g res)
    (hn : n ∈ g.nodes) (inputs : List String) : ∀ c, Recalls g c →
    ∃ texts c', resolveAll res n inputs c = .ok (texts, c') ∧ texts.length = inputs.length ∧
      Keeps c c' ∧ Recalls g c' := by
  induction inputs with
  | nil => exact fun c hc => ⟨[], c, rfl, rfl, .refl c, hc⟩
  | cons input rest ih =>
    intro c hc
    obtain ⟨text, c₁, h₁, hk₁, hc₁⟩ := h n hn input c hc
    obtain ⟨texts, c₂, h₂, hl, hk₂, hc₂⟩ := ih c₁ hc₁
    refine ⟨text :: texts, c₂, ?_, by simp [hl], hk₁.trans hk₂, hc₂⟩
    show (res n input c).bind (fun r => _) = _
    rw [h₁]
    show (resolveAll res n rest c₁).bind (fun r => _) = _
    rw [h₂]
    rfl

theorem resolveFresh_spec {res : Node → String → Run String} (h : Steady g res)
    (hg : ∀ n ∈ g.nodes, Typed n) (hn : n ∈ g.nodes) (input : String)
    (hc : Recalls g c) :
    ∃ text c', resolveFresh g res n input c = .ok (text, c') ∧ Shaped g n input text ∧
      Keeps c c' ∧ Recalls g c' := by
  have hdefault : ∃ text c', defaultOf n input c = .ok (text, c') ∧ OwnText n input text ∧
      Keeps c c' ∧ Recalls g c' := by
    obtain ⟨text, c', hd, ho, hk, hm⟩ := defaultOf_spec (hg n hn) input c
    exact ⟨text, c', hd, ho, hk, fun m hm' i t ht => hc m hm' i t (hm ▸ ht)⟩
  simp only [resolveFresh_eq, Shaped]
  cases hf : feed g n input with
  | own => exact hdefault
  | missing id => exact ⟨_, _, rfl, rfl, ⟨rfl, rfl, rfl⟩, hc⟩
  | source s m =>
    obtain ⟨texts, c', hr, hl, hk, hc'⟩ := resolveAll_spec h (mem_of_feed hf).1 s.asks c hc
    refine ⟨s.expression m texts, c', ?_, ⟨texts, hl, rfl⟩, hk, hc'⟩
    show (resolveAll res m s.asks c).bind (fun r => _) = _
    rw [hr]
    rfl

theorem Recalls.leave (hc : Recalls g c) (hd : (g.nodes.map Node.id).Nodup)
    (hn : n ∈ g.nodes) (ht : Shaped g n input text) :
    Recalls g (c.leave (n.id, input) text) := by
  intro m hm i t h
  rw [Context.leave, lookup_append] at h
  cases hl : c.memo.lookup (m.id, i) with
  | some u =>
    rw [hl] at h
    cases h
    exact hc m hm i _ hl
  | none =>
    rw [hl, Option.none_or, lookup_cons] at h
    split at h
    · rename_i he
      obtain ⟨hid, rfl⟩ : m.id = n.id ∧ i = input := by simpa using he
      cases h
      rwa [inj_on_of_nodup_map hd hm hn hid]
    · cases h

/-- Resolving always gives a text; one that is not being resolved gets a text of its shape. -/
theorem resolveWithin_spec (hd : (g.nodes.map Node.id).Nodup) (hg : ∀ n ∈ g.nodes, Typed n)
    (bound : Nat) : ∀ n ∈ g.nodes, ∀ input c, Recalls g c →
      ∃ text c', resolveWithin g bound n input c = .ok (text, c') ∧ Keeps c c' ∧ Recalls g c' ∧
        (0 < bound → (n.id, input) ∉ c.resolving → Shaped g n input text) := by
  induction bound with
  | zero => exact fun n _ input c hc => ⟨"None", c, rfl, .refl c, hc, fun h => absurd h (by omega)⟩
  | succ bound ih =>
    intro n hn input c hc
    have hsteady : Steady g (resolveWithin g bound) := fun n hn input c hc => by
      obtain ⟨text, c', hr, hk, hc', -⟩ := ih n hn input c hc
      exact ⟨text, c', hr, hk, hc'⟩
    rw [resolveWithin_succ]
    cases hm : c.memo.lookup (n.id, input) with
    | some text => exact ⟨text, c, rfl, .refl c, hc, fun _ _ => hc n hn input text hm⟩
    | none =>
      simp only
      split
      · rename_i hin
        exact ⟨_, _, rfl, ⟨rfl, rfl, rfl⟩, hc, fun _ hout => absurd (by simpa using hin) hout⟩
      · have hc₁ : Recalls g (c.enter (n.id, input)) := hc
        obtain ⟨text, c', hr, hs, hk, hc'⟩ := resolveFresh_spec hsteady hg hn input hc₁
        rw [hr]
        refine ⟨text, _, rfl, ⟨hk.emitting, hk.defined, ?_⟩, hc'.leave hd hn hs, fun _ _ => hs⟩
        simp [Context.leave, hk.resolving, Context.enter]

/-- **Every input gets a text of its shape**, whatever has been resolved before. -/
theorem resolve_shaped (hd : (g.nodes.map Node.id).Nodup) (hg : ∀ n ∈ g.nodes, Typed n)
    (hn : n ∈ g.nodes) (input : String) (hc : Recalls g c) (hr : c.resolving = []) :
    ∃ text c', resolve g n input c = .ok (text, c') ∧ Keeps c c' ∧ Recalls g c' ∧
      Shaped g n input text := by
  obtain ⟨text, c', h, hk, hc', hs⟩ := resolveWithin_spec hd hg (dependencyBound g) n hn input c hc
  exact ⟨text, c', h, hk, hc', hs (by unfold dependencyBound; omega) (by simp [hr])⟩

theorem resolveInputs_spec (hd : (g.nodes.map Node.id).Nodup) (hg : ∀ n ∈ g.nodes, Typed n)
    (hn : n ∈ g.nodes) (ports : List Port) : ∀ c, Recalls g c → c.resolving = [] →
    ∃ r c', resolveInputs g n ports c = .ok (r, c') ∧ Keeps c c' ∧ Recalls g c' ∧
      r.map (·.1) = ports.map (·.id) ∧ ∀ e ∈ r, Shaped g n e.1 e.2 := by
  induction ports with
  | nil => exact fun c hc _ => ⟨[], c, rfl, .refl c, hc, rfl, by simp⟩
  | cons p rest ih =>
    intro c hc hr
    obtain ⟨text, c₁, h₁, hk₁, hc₁, hs⟩ := resolve_shaped hd hg hn p.id hc hr
    obtain ⟨r, c₂, h₂, hk₂, hc₂, hnames, hall⟩ := ih c₁ hc₁ (hk₁.resolving.trans hr)
    refine ⟨(p.id, text) :: r, c₂, ?_, hk₁.trans hk₂, hc₂, by simp [hnames], ?_⟩
    · show (resolve g n p.id c).bind (fun r => _) = _
      rw [h₁]
      show (resolveInputs g n rest c₁).bind (fun r => _) = _
      rw [h₂]
      rfl
    · intro e he
      rcases mem_cons.mp he with rfl | he
      · exact hs
      · exact hall e he

/-! ## Names of functions -/

/-- Whether the name of a function node is one that a function can have. -/
def named (g : Graph) (f : Node) : Bool :=
  isFunctionName (unquote (inputText g f "name"))

theorem isFunctionName_variable (name : String) :
    isFunctionName (unquote s!"variables.get({name})") = false := by
  have hcs : (s!"variables.get({name})").toList =
      "variables.get(".toList ++ (name.toList ++ [')']) := by
    simp [String.toList_append, toString]
  have hquote : unquote s!"variables.get({name})" = s!"variables.get({name})" := by
    unfold unquote
    rw [if_neg (by rw [hcs]; simp)]
  rw [hquote, isFunctionName, hcs]
  simp

/-- The name of a function node is settled by what feeds it, if that is a text or a variable. -/
theorem Shaped.named_eq (hg : ∀ n ∈ g.nodes, Typed n) {f : Node} (hf : f ∈ g.nodes)
    (hs : ∀ s m, feed g f "name" = .source s m → s = .text ∨ s = .namedValue)
    (h : Shaped g f "name" text) : isFunctionName (unquote text) = named g f := by
  have hplain := inputText_shaped hg hf "name"
  unfold named
  unfold Shaped at h hplain
  cases hfeed : feed g f "name" with
  | own =>
    rw [hfeed] at h hplain
    rw [OwnText.eq h, OwnText.eq hplain]
  | missing id =>
    rw [hfeed] at h hplain
    simp only at h hplain
    rw [h, hplain]
  | source s m =>
    rw [hfeed] at h hplain
    obtain ⟨texts, hl, rfl⟩ := h
    obtain ⟨texts', hl', he⟩ := hplain
    rw [he]
    rcases hs s m hfeed with rfl | rfl
    · rfl
    · obtain ⟨name, rfl⟩ := length_eq_one_iff.mp hl
      obtain ⟨name', rfl⟩ := length_eq_one_iff.mp hl'
      exact (isFunctionName_variable name).trans (isFunctionName_variable name').symm

end Sketchflow.Compile
