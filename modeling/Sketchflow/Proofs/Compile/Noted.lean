import Sketchflow.Proofs.Compile.Edited
import Sketchflow.Proofs.Compile.Memo
import Sketchflow.Proofs.Compile.Unused
import Sketchflow.Proofs.Script.Literal

/-!
# Notes about data cycles

An input that is asked for while it is being resolved is a gap: it reads as nothing, and a note goes
into the program. Here is when that happens, and that the program keeps every note.

* `Circular` are the inputs that are resolved and depend on themselves.
* `Noted` is what resolving inputs adds to a context. **`noted_resolve`**: every new note is about a
  circular input, and without a gap the input depends on no cycle.
* `Reports` is what a compilation does with the notes it meets: it writes each as a comment. What is
  left out of a program has none, because a node without steps has no inputs.
* **`generate_noted`**: a graph made by edits on the standard palette has a program with one comment
  for each gap, and there is a gap if and only if an input is circular.
-/

namespace Sketchflow.Compile

open Graph List Outline Relation Text
open Listing (Step lastAll write commentLines)

variable {g : Graph} {settled : Prop} {n m : Node} {input : String}
variable {c c' : Context} {r : Inputs}

/-! ## Circular inputs -/

/-- How notes about cycles begin. -/
def cycleStart : String := "Error: data cycle through "

/-- What is noted about an input that depends on itself. -/
def cycleNote (n : Node) (input : String) : String :=
  cycleStart ++ inputName n input

/-- An input is resolved and depends on itself. -/
def Circular (g : Graph) (n : Node) (input : String) : Prop :=
  Resolved g (Reached g) n input ∧ TransGen (Asks g) (n, input) (n, input)

/-- Notes are about circular inputs. -/
def AreCycles (g : Graph) (notes : List String) : Prop :=
  ∀ note ∈ notes, ∃ n input, Circular g n input ∧ note = cycleNote n input

theorem AreCycles.append {l l' : List String} (h : AreCycles g l) (h' : AreCycles g l') :
    AreCycles g (l ++ l') := fun note hnote =>
  (mem_append.mp hnote).elim (h note) (h' note)

/-- What a graph is like whose only gaps are cycles. -/
structure Supplied (g : Graph) : Prop extends Orderly g where
  input : ∀ n input, Resolved g (Reached g) n input → n ∈ g.nodes ∧ ∃ p, n.input? input = some p
  source : ∀ n input id, feed g n input ≠ .missing id
  /-- A node without steps has no inputs on a path, but for the name of a function. -/
  idle : ∀ n, Reached g n → action? n.type = none → ∀ p ∈ n.dataInputs,
    n.type = "function" ∧ p.id = "name"

theorem Reached.mem (h : Reached g n) : n ∈ g.nodes := by
  cases h with
  | start h => exact (mem_nodesOfType.mp (mem_of_mem_head? h)).1
  | tick _ h => exact mem_of_target h
  | key _ h => exact mem_of_target h
  | body _ _ h => exact mem_of_target h
  | next _ h =>
    obtain ⟨_, _, h⟩ := h
    exact mem_of_target h

/-! ## Resolving -/

/-- What is remembered depends on no cycle, unless there is a gap. -/
def Remembered (g : Graph) (c : Context) : Prop :=
  c.gaps = 0 → ∀ n ∈ g.nodes, ∀ input text, c.memo.lookup (n.id, input) = some text →
    CycleFree g n input

/-- An input has been resolved. -/
def Context.Knows (c : Context) (k : Key) : Prop := (c.memo.lookup k).isSome = true

/-- What resolving inputs adds to a context; `free` holds of them unless there is a gap. -/
structure Noted (g : Graph) (c c' : Context) (free : Prop) : Prop where
  resolving : c'.resolving = c.resolving
  knows : ∀ k, c.Knows k → c'.Knows k
  remembered : Remembered g c'
  notes : ∃ l, c'.notes = c.notes ++ l ∧ c'.gaps = c.gaps + l.length ∧ AreCycles g l
  free : c'.gaps = 0 → free

theorem Noted.refl (h : Remembered g c) {p : Prop} (hp : c.gaps = 0 → p) :
    Noted g c c p :=
  ⟨rfl, fun _ hk => hk, h, ⟨[], by simp [AreCycles]⟩, hp⟩

theorem Noted.trans {c₁ c₂ c₃ : Context} {p q : Prop} (h : Noted g c₁ c₂ p) (k : Noted g c₂ c₃ q) :
    Noted g c₁ c₃ (p ∧ q) := by
  obtain ⟨l, hl, hgaps, hcycles⟩ := h.notes
  obtain ⟨l', hl', hgaps', hcycles'⟩ := k.notes
  refine ⟨k.resolving.trans h.resolving, fun i hi => k.knows i (h.knows i hi), k.remembered,
    ⟨l ++ l', ?_, ?_, hcycles.append hcycles'⟩, fun hzero => ⟨h.free (by omega), k.free hzero⟩⟩
  · rw [hl', hl, append_assoc]
  · rw [hgaps', hgaps, length_append, Nat.add_assoc]

theorem Noted.imp {p q : Prop} (h : Noted g c c' p) (himp : p → q) :
    Noted g c c' q :=
  { h with free := fun hzero => himp (h.free hzero) }

theorem exists_of_bind {α β : Type} {x : Run α} {f : α → Run β} {r : β × Context}
    (h : (x >>= f) c = .ok r) : ∃ a c', x c = .ok (a, c') ∧ f a c' = .ok r := by
  cases hx : x c with
  | error o =>
    rw [run_bind_error hx] at h
    cases h
  | ok r' =>
    rw [run_bind hx] at h
    exact ⟨r'.1, r'.2, rfl, h⟩

theorem noted_resolveAll {res : Node → String → Run String} {resolving : List Key}
    {inputs : List String}
    (h : ∀ i ∈ inputs, ∀ c text c', c.resolving = resolving → Remembered g c →
      res m i c = .ok (text, c') → Noted g c c' (CycleFree g m i)) :
    ∀ c texts c', c.resolving = resolving → Remembered g c →
      resolveAll res m inputs c = .ok (texts, c') →
        Noted g c c' (∀ i ∈ inputs, CycleFree g m i) := by
  induction inputs with
  | nil =>
    intro c texts c' _ hc hrun
    cases hrun
    exact .refl hc (by simp)
  | cons i rest ih =>
    intro c texts c' hres hc hrun
    obtain ⟨text, c₁, hfirst, hrun⟩ := exists_of_bind hrun
    obtain ⟨others, c₂, hrest, hrun⟩ := exists_of_bind hrun
    cases hrun
    have hnoted := h i mem_cons_self c text c₁ hres hc hfirst
    have hmore := ih (fun j hj => h j (mem_cons_of_mem _ hj)) c₁ others c'
      (hnoted.resolving.trans hres) hnoted.remembered hrest
    exact (hnoted.trans hmore).imp forall_mem_cons.mpr

theorem Noted.leave (hd : (g.nodes.map Node.id).Nodup) (hn : n ∈ g.nodes)
    (h : Noted g (c.enter (n.id, input)) c' (CycleFree g n input)) (text : String) :
    Noted g c (c'.leave (n.id, input) text) (CycleFree g n input) := by
  refine ⟨by simp [Context.leave, h.resolving, Context.enter], fun k hk => ?_,
    fun hzero k hk i t hl => ?_, h.notes, h.free⟩
  · rw [Context.Knows, Context.leave, lookup_append, Option.isSome_or, Bool.or_eq_true]
    exact .inl (h.knows k hk)
  rw [Context.leave, lookup_append] at hl
  cases hold : c'.memo.lookup (k.id, i) with
  | some u => exact h.remembered hzero k hk i u hold
  | none =>
    rw [hold, Option.none_or, lookup_cons] at hl
    split at hl
    · rename_i he
      obtain ⟨hid, rfl⟩ : k.id = n.id ∧ i = input := by simpa using he
      rw [inj_on_of_nodup_map hd hk hn hid]
      exact h.free hzero
    · cases hl

/-- **Resolving an input notes cycles only**, and notes one if the input depends on one. -/
theorem noted_resolveWithin (hg : Supplied g) (bound : Nat) : ∀ n input c text c',
    Resolved g (Reached g) n input → Await g c.resolving (n, input) →
    room (insert (n.id, input) (askable g)) c.resolving < bound → Remembered g c →
      resolveWithin g bound n input c = .ok (text, c') → Noted g c c' (CycleFree g n input) := by
  induction bound with
  | zero => exact fun _ _ _ _ _ _ _ h => absurd h (Nat.not_lt_zero _)
  | succ bound ih =>
    intro n input c text c' hr hawait hroom hc hrun
    obtain ⟨hn, p, hp⟩ := hg.input n input hr
    rw [resolveWithin_succ] at hrun
    cases hm : c.memo.lookup (n.id, input) with
    | some known =>
      rw [hm] at hrun
      cases hrun
      exact .refl hc fun hzero => hc hzero n hn input _ hm
    | none =>
      rw [hm] at hrun
      simp only at hrun
      split at hrun
      · -- The input is being resolved, so it waits for itself.
        rename_i hin
        cases hrun
        have hcircular : Circular g n input := ⟨hr, hawait n hn input (by simpa using hin)⟩
        exact ⟨rfl, fun _ hk => hk, nofun,
          ⟨[cycleNote n input], rfl, rfl, by simpa [AreCycles] using
          ⟨n, input, hcircular, rfl⟩⟩, nofun⟩
      · rename_i hnew
        have hkey : (n.id, input) ∉ c.resolving := by simpa using hnew
        cases hfresh : resolveFresh g (resolveWithin g bound) n input (c.enter (n.id, input)) with
        | error o =>
          rw [hfresh] at hrun
          cases hrun
        | ok r =>
          rw [hfresh] at hrun
          cases hrun
          refine Noted.leave hg.distinct hn ?_ r.1
          have hin : Remembered g (c.enter (n.id, input)) := hc
          rw [resolveFresh_eq] at hfresh
          cases hf : feed g n input with
          | own =>
            simp only [hf, defaultOf, hp] at hfresh
            have hfree : CycleFree g n input := cycleFree_of_asks fun k hk => by
              simp [Asks, hf, Feed.asks] at hk
            cases hd : defaultText p.default p.dataType with
            | error b => rw [hd] at hfresh; cases hfresh
            | ok own =>
              rw [hd] at hfresh
              cases hfresh
              exact .refl hin fun _ => hfree
          | missing id => exact absurd hf (hg.source n input id)
          | source s m =>
            simp only [hf] at hfresh
            obtain ⟨texts, c₁, hall, hfresh⟩ := exists_of_bind hfresh
            cases hfresh
            refine (noted_resolveAll (fun i hi c₂ t c₃ hres hc₂ hask => ?_) _ texts c₁ rfl hin
              hall).imp fun hfrees => cycleFree_of_asks fun k hk => ?_
            · have hm := (mem_of_feed hf).1
              refine ih m i c₂ t c₃ (hr.asked hf hi) ?_ ?_ hc₂ hask
              · rw [hres]
                exact hawait.ask hg.distinct hn (asks_of_feed hf hi)
              · rw [hres]
                exact room_ask hm (s.asks_subset hi) hkey hroom
            · rw [Asks, hf] at hk
              obtain ⟨i, hi, rfl⟩ := mem_map.mp hk
              exact hfrees i hi

/-! ## Between the steps of a compilation -/

/-- The context between the steps of a compilation: all notes are written. Once the names of the
functions are settled, they are known. -/
structure Ready (g : Graph) (settled : Prop) (c : Context) : Prop where
  notes : c.notes = []
  resolving : c.resolving = []
  remembered : Remembered g c
  recalls : Recalls g c
  knows : settled → ∀ f ∈ g.nodesOfType "function", c.Knows (f.id, "name")

theorem noted_resolve (hg : Supplied g) (hr : Resolved g (Reached g) n input)
    {text : String} (hres : c.resolving = []) (hc : Remembered g c)
    (h : resolve g n input c = .ok (text, c')) : Noted g c c' (CycleFree g n input) :=
  noted_resolveWithin hg _ n input c text c' hr (by simp [hres, Await]) (room_lt _ _) hc h

theorem noted_resolveInputs (hg : Supplied g) (hn : Reached g n) (ports : List Port)
    (hports : ∀ p ∈ ports, p ∈ n.dataInputs) : ∀ c r c', c.resolving = [] → Remembered g c →
      resolveInputs g n ports c = .ok (r, c') →
        Noted g c c' (∀ p ∈ ports, CycleFree g n p.id) := by
  induction ports with
  | nil =>
    intro c r c' _ hc hrun
    cases hrun
    exact .refl hc (by simp)
  | cons p rest ih =>
    intro c r c' hres hc hrun
    obtain ⟨hp, hrest⟩ := forall_mem_cons.mp hports
    obtain ⟨text, c₁, hfirst, hrun⟩ := exists_of_bind hrun
    obtain ⟨others, c₂, hmore, hrun⟩ := exists_of_bind hrun
    cases hrun
    have hnoted := noted_resolve hg (.input hn hp) hres hc hfirst
    exact (hnoted.trans (ih hrest c₁ others c' (hnoted.resolving.trans hres) hnoted.remembered
      hmore)).imp fun hfree => forall_mem_cons.mpr hfree

/-- A part of a compilation that resolves inputs between its steps. -/
def Gathers (g : Graph) (settled : Prop) {α : Type} (x : Run α) (free : Prop) (good : α → Prop) :
    Prop :=
  ∀ c a c', Ready g settled c → x c = .ok (a, c') → Noted g c c' free ∧ Recalls g c' ∧ good a

theorem gathers_resolve (hg : Supplied g) (hr : Resolved g (Reached g) n input) :
    Gathers g settled (resolve g n input) (CycleFree g n input) (Shaped g n input) := by
  intro c text c' hc hrun
  obtain ⟨text', c'', hspec, -, hrecalls, hshaped⟩ := resolve_shaped hg.distinct hg.typed
    (hg.input n input hr).1 input hc.recalls hc.resolving
  obtain ⟨rfl, rfl⟩ := Prod.mk.inj (Except.ok.inj (hrun.symm.trans hspec))
  exact ⟨noted_resolve hg hr hc.resolving hc.remembered hrun, hrecalls, hshaped⟩

theorem gathers_resolveInputs (hg : Supplied g) (hn : Reached g n) (hmem : n ∈ g.nodes) :
    Gathers g settled (resolveInputs g n n.dataInputs)
      (∀ p ∈ n.dataInputs, CycleFree g n p.id) fun _ => True := by
  intro c r c' hc hrun
  obtain ⟨r', c'', hspec, -, hrecalls, -⟩ := resolveInputs_spec hg.distinct hg.typed hmem
    n.dataInputs c hc.recalls hc.resolving
  obtain ⟨-, rfl⟩ := Prod.mk.inj (Except.ok.inj (hrun.symm.trans hspec))
  exact ⟨noted_resolveInputs hg hn _ (fun _ hp => hp) c r c' hc.resolving hc.remembered hrun,
    hrecalls, trivial⟩

theorem knows_resolve {text : String} (hres : c.resolving = [])
    (h : resolve g n input c = .ok (text, c')) : c'.Knows (n.id, input) := by
  rw [resolve, dependencyBound, resolveWithin_succ, hres] at h
  split at h
  · rename_i hm
    cases h
    exact Option.isSome_iff_exists.mpr ⟨_, hm⟩
  · rw [if_neg (by simp)] at h
    cases hr : resolveFresh g (resolveWithin g (g.nodes.length * askedNames.length + 1)) n input
        (c.enter (n.id, input)) with
    | error o =>
      rw [hr] at h
      cases h
    | ok r =>
      rw [hr] at h
      cases h
      simp [Context.Knows, Context.leave, lookup_append]

theorem resolveInputs_known (ports : List Port)
    (h : ∀ p ∈ ports, c.Knows (n.id, p.id)) : ∃ r, resolveInputs g n ports c = .ok (r, c) := by
  induction ports with
  | nil => exact ⟨[], rfl⟩
  | cons p rest ih =>
    obtain ⟨hp, hrest⟩ := forall_mem_cons.mp h
    obtain ⟨text, htext⟩ := Option.isSome_iff_exists.mp hp
    obtain ⟨r, hr⟩ := ih hrest
    have hfirst : resolve g n p.id c = .ok (text, c) := by
      rw [resolve, dependencyBound, resolveWithin_succ, htext]
    exact ⟨(p.id, text) :: r, by rw [resolveInputs, run_bind hfirst, run_bind hr]; rfl⟩

/-- A part of a compilation that makes a result with these notes in it; `free` holds of it unless
there is a gap. -/
def Reports (g : Graph) (settled : Prop) {α : Type} (x : Run α) (told : α → List String → Prop)
    (free : α → Prop) : Prop :=
  ∀ c a c', Ready g settled c → x c = .ok (a, c') → Ready g settled c' ∧
    (∀ k, c.Knows k → c'.Knows k) ∧ (∃ l, told a l ∧ AreCycles g l ∧ c'.gaps = c.gaps + l.length) ∧
    (c'.gaps = 0 → free a)

section

variable {α β : Type} {told : α → List String → Prop} {told' : β → List String → Prop}
  {free : α → Prop} {free' : β → Prop} {x : Run α}

theorem reports_pure {a : α} (h : told a []) (hfree : free a) :
    Reports g settled (pure a) told free := by
  intro c b c' hc hrun
  cases hrun
  exact ⟨hc, fun _ hk => hk, ⟨[], h, by simp [AreCycles]⟩, fun _ => hfree⟩

theorem Reports.bind {f : α → Run β} (hx : Reports g settled x told free)
    (hf : ∀ a l, told a l → AreCycles g l →
      Reports g settled (f a) (fun b l' => told' b (l ++ l')) fun b => free a → free' b) :
    Reports g settled (x >>= f) told' free' := by
  intro c b c' hc hrun
  obtain ⟨a, c₁, hfirst, hrun⟩ := exists_of_bind hrun
  obtain ⟨hc₁, hknows, ⟨l, hl, hcycles, hgaps⟩, hfree⟩ := hx c a c₁ hc hfirst
  obtain ⟨hc', hknows', ⟨l', hl', hcycles', hgaps'⟩, hfree'⟩ := hf a l hl hcycles c₁ b c' hc₁ hrun
  refine ⟨hc', fun k hk => hknows' k (hknows k hk), ⟨l ++ l', hl', hcycles.append hcycles', ?_⟩,
    fun hzero => hfree' hzero (hfree (by omega))⟩
  rw [hgaps', hgaps, length_append, Nat.add_assoc]

theorem Gathers.ready {p : Prop} {good : α → Prop} (hx : Gathers g settled x p good) {a : α}
    (hc : Ready g settled c) (h : x c = .ok (a, c')) : Ready g settled { c' with notes := [] } := by
  obtain ⟨hnoted, hrecalls, -⟩ := hx c a c' hc h
  exact ⟨rfl, hnoted.resolving.trans hc.resolving, hnoted.remembered, hrecalls,
    fun hsettled f hf => hnoted.knows _ (hc.knows hsettled f hf)⟩

/-- Inputs are resolved, and what was noted about them is taken to be written. There is nothing if
`quiet` holds. -/
theorem Gathers.reports {p quiet : Prop} {good : α → Prop} {f : α → List String → Run β}
    (hx : Gathers g settled x p good) (hquiet : quiet → ∀ c a c', Ready g settled c →
      x c = .ok (a, c') → c'.notes = c.notes)
    (hf : ∀ a notes, good a → AreCycles g notes → (quiet → notes = []) →
      Reports g settled (f a notes) (fun b l => told' b (notes ++ l)) fun b => p → free' b) :
    Reports g settled (x >>= fun a => drainNotes >>= f a) told' free' := by
  intro c b c' hc hrun
  obtain ⟨a, c₁, hfirst, hrun⟩ := exists_of_bind hrun
  obtain ⟨notes, c₂, hdrain, hrun⟩ := exists_of_bind hrun
  cases hdrain
  obtain ⟨hnoted, hrecalls, ha⟩ := hx c a c₁ hc hfirst
  obtain ⟨l, hl, hgaps, hcycles⟩ := hnoted.notes
  rw [hc.notes, nil_append] at hl
  obtain ⟨hc', hknows, ⟨l', hl', hcycles', hgaps'⟩, hfree'⟩ := hf a c₁.notes ha (hl ▸ hcycles)
    (fun hq => (hquiet hq c a c₁ hc hfirst).trans hc.notes) _ b c' (hx.ready hc hfirst) hrun
  have hsum : c'.gaps = c₁.gaps + l'.length := hgaps'
  refine ⟨hc', fun k hk => hknows k (hnoted.knows k hk),
    ⟨c₁.notes ++ l', hl', (hl ▸ hcycles).append hcycles', ?_⟩,
    fun hzero => hfree' hzero (hnoted.free (by omega))⟩
  rw [hsum, hgaps, hl, length_append, Nat.add_assoc]

theorem reports_modify {f : Context → Context}
    (h : ∀ c, (f c).notes = c.notes ∧ (f c).resolving = c.resolving ∧ (f c).memo = c.memo ∧
      (f c).gaps = c.gaps) :
    Reports g settled (modify f : Run Unit) (fun _ l => l = []) fun _ => True := by
  intro c a c' hc hrun
  cases hrun
  obtain ⟨hnotes, hres, hmemo, hgaps⟩ := h c
  have hremembered : Remembered g (f c) := fun hzero k hk i t hl =>
    hc.remembered (hgaps ▸ hzero) k hk i t (hmemo ▸ hl)
  have hrecalls : Recalls g (f c) := fun k hk i t hl => hc.recalls k hk i t (hmemo ▸ hl)
  have hknows : ∀ k, c.Knows k → (f c).Knows k := fun k hk => by rwa [Context.Knows, hmemo]
  exact ⟨⟨hnotes.trans hc.notes, hres.trans hc.resolving, hremembered, hrecalls,
    fun hsettled k hk => hknows _ (hc.knows hsettled k hk)⟩, hknows,
    ⟨[], rfl, by simp [AreCycles], by simpa using hgaps⟩, fun _ => trivial⟩

theorem reports_get : Reports g settled (get : Run Context) (fun _ l => l = []) fun _ => True :=
  fun c _ _ hc h => by
    cases h
    exact ⟨hc, fun _ hk => hk, ⟨[], rfl, by simp [AreCycles]⟩, fun _ => trivial⟩

theorem reports_demandAll (names : List String) :
    Reports g settled (demandAll r names) (fun _ l => l = []) fun _ => True := by
  induction names with
  | nil => exact reports_pure rfl trivial
  | cons name rest ih =>
    have hdemand : Reports g settled (demand r name) (fun _ l => l = []) fun _ => True := by
      unfold demand need
      cases r.lookup name with
      | some text => exact reports_pure rfl trivial
      | none => exact fun _ _ _ _ h => nomatch h
    exact hdemand.bind fun _ l hl _ => by
      subst hl
      simpa using ih

end

/-! ## Comments about cycles -/

def isCycleNote (text : String) : Bool :=
  cycleStart.toList.isPrefixOf text.toList

def cycleComments (steps : List Step) : List String :=
  (Listing.commentsAll steps).filter isCycleNote

section

variable {limit : String} {steps rest : List Step}

theorem isCycleNote_cycleNote (n : Node) (input : String) :
    isCycleNote (cycleNote n input) = true := by
  have hprefix : ∀ a b : List Char, a.isPrefixOf (a ++ b) = true := fun a b => by simp
  rw [isCycleNote, cycleNote, String.toList_append, hprefix]

@[simp] theorem cycleComments_nil : cycleComments [] = [] := rfl

@[simp] theorem cycleComments_cons (s : Step) :
    cycleComments (s :: rest) = s.comments.filter isCycleNote ++ cycleComments rest :=
  filter_append ..

@[simp] theorem cycleComments_append :
    cycleComments (steps ++ rest) = cycleComments steps ++ cycleComments rest := by
  induction steps with
  | nil => rfl
  | cons s steps ih => simp [ih]

@[simp] theorem comments_block (header : String) :
    (Step.block header steps).comments.filter isCycleNote = cycleComments steps := rfl

@[simp] theorem comments_child (extra : Int) :
    (Step.child extra true steps).comments.filter isCycleNote = cycleComments steps := rfl

@[simp] theorem comments_line (text : String) : (Step.line text).comments = [] := rfl

@[simp] theorem comments_blank : Step.blank.comments = [] := rfl

@[simp] theorem cycleComments_lines (texts : List String) :
    cycleComments (texts.map .line) = [] := by
  induction texts with
  | nil => rfl
  | cons text texts ih => simp [ih]

theorem cycleComments_notes {notes : List String} (h : AreCycles g notes) :
    cycleComments (notes.map .comment) = notes := by
  induction notes with
  | nil => rfl
  | cons note notes ih =>
    obtain ⟨⟨n, input, -, rfl⟩, hrest⟩ := forall_mem_cons.mp h
    simp [ih hrest, Step.comments, isCycleNote_cycleNote]

@[simp] theorem cycleComments_comment (text : String) :
    (Step.comment text).comments.filter isCycleNote = if isCycleNote text then [text] else [] := by
  cases h : isCycleNote text <;> simp [Step.comments, h]

theorem isCycleNote_append (first : String) {c : Char} {cs : List Char} (h : first.toList = c :: cs)
    (hc : ('E' == c) = false) {rest : String} : isCycleNote (first ++ rest) = false := by
  have hstart : cycleStart.toList = 'E' :: "rror: data cycle through ".toList := rfl
  rw [isCycleNote, String.toList_append, h, hstart, cons_append, List.isPrefixOf, hc,
    Bool.false_and]

@[simp] theorem isCycleNote_remark (n : Node) : isCycleNote (remark n) = false := by
  unfold remark
  split <;> simp only [String.append_assoc]
  · exact isCycleNote_append "Start node (ID " rfl rfl
  · exact isCycleNote_append "Game loop node (ID " rfl rfl
  · exact isCycleNote_append "When-key-pressed node (ID " rfl rfl
  · exact isCycleNote_append "Function node (ID " rfl rfl
  · exact isCycleNote_append "Node type " rfl rfl

theorem cycleComments_action {a : Action} (hb : a.body = none → steps = [])
    (ho : a.other = none → rest = []) :
    cycleComments (a.steps limit n r steps rest) = cycleComments steps ++ cycleComments rest := by
  cases a <;> simp_all [Action.steps, Action.body, Action.other, Action.guardSteps]

end

/-! ## Paths -/

def Outline.allNotes : Outline → List String
  | .node _ notes _ body other next => notes ++ (body.allNotes ++ (other.allNotes ++ next.allNotes))
  | _ => []

/-- The notes on a path are its comments about cycles, and a path without steps has none once the
names of the functions are settled. -/
structure Outline.Tells (limit : String) (settled : Prop) (o : Outline) (l : List String) :
    Prop where
  comments : cycleComments (o.steps limit) = l
  notes : o.allNotes = l
  idle : settled → o.acts = false → l = []

theorem Outline.tells_stop (limit : String) : Outline.stop.Tells limit settled [] :=
  ⟨rfl, rfl, fun _ _ => rfl⟩

/-- The inputs of the nodes on a path depend on no cycle. -/
def Outline.Free (g : Graph) (o : Outline) : Prop :=
  ∀ n ∈ o.nodes, ∀ p ∈ n.dataInputs, CycleFree g n p.id

section

variable {limit : String}

theorem reports_stop :
    Reports g settled (pure .stop) (Outline.Tells limit settled) (Outline.Free g) :=
  reports_pure (tells_stop limit) (by simp [Outline.Free, Outline.nodes])

theorem reports_along (hg : Supplied g) {survey : Survey} {id : Int} {port : Option String}
    {path : List Int} (h : ∀ next, target g id port = some next →
      Reports g settled (survey next path) (Outline.Tells limit settled) (Outline.Free g)) :
    Reports g settled (along g survey id port path)
      (fun o l => o.Tells limit settled l ∧ (port = none → o = .stop)) (Outline.Free g) := by
  unfold along
  cases port with
  | none =>
    exact reports_pure ⟨tells_stop limit, fun _ => rfl⟩
      (by simp [Outline.Free, Outline.nodes])
  | some port =>
    simp only [reduceCtorEq, false_implies, and_true]
    cases hw : g.flowFrom? (.int id) (.str port) with
    | none => exact reports_stop
    | some w =>
      obtain ⟨next, hnext⟩ := hg.joined id port w hw
      simpa only [hnext] using h next (by simp [target, hw, hnext])

/-- The comments about cycles at a node are its notes and those of the paths inside its steps. -/
theorem Outline.tells_node {notes : List String} (hnotes : AreCycles g notes)
    (hquiet : settled ∧ action? n.type = none → notes = []) {body other next : Outline}
    {lb lo ln : List String} (hb : body.Tells limit settled lb)
    (hbody : (action? n.type).bind Action.body = none → body = .stop)
    (ho : other.Tells limit settled lo)
    (hother : (action? n.type).bind Action.other = none → other = .stop)
    (hx : next.Tells limit settled ln) :
    (Outline.node n notes r body other next).Tells limit settled (notes ++ (lb ++ (lo ++ ln))) := by
  have hall : (node n notes r body other next).allNotes = notes ++ (lb ++ (lo ++ ln)) := by
    rw [allNotes, hb.notes, ho.notes, hx.notes]
  suffices h : cycleComments ((node n notes r body other next).steps limit) =
      notes ++ (lb ++ (lo ++ ln)) ∧ (settled → (node n notes r body other next).acts = false →
        notes ++ (lb ++ (lo ++ ln)) = []) from ⟨h.1, hall, h.2⟩
  rw [steps, cycleComments_append, cycleComments_append, cycleComments_notes hnotes, hx.comments,
    nodeSteps, acts]
  cases ha : action? n.type with
  | some a =>
    rw [ha] at hbody hother
    have haction : cycleComments (a.steps limit n r (body.steps limit) (other.steps limit)) =
        cycleComments (body.steps limit) ++ cycleComments (other.steps limit) :=
      cycleComments_action (fun h => by rw [hbody h]; rfl) fun h => by rw [hother h]; rfl
    exact ⟨by simp [haction, hb.comments, ho.comments], by simp⟩
  | none =>
    rw [ha] at hbody hother
    obtain rfl := hbody rfl
    obtain rfl := hother rfl
    obtain rfl : [] = lb := hb.comments
    obtain rfl : [] = lo := ho.comments
    exact ⟨by simp, fun hs hacts => by
      simp [hquiet ⟨hs, ha⟩, hx.idle hs (by simpa using hacts)]⟩

theorem reports_outlineWithin (limit : String) (hg : Supplied g) (bound : Nat) :
    ∀ n, Reached g n → ∀ path, Reports g settled (outlineWithin g bound n path)
      (Outline.Tells limit settled) (Outline.Free g) := by
  induction bound with
  | zero => exact fun _ _ _ => reports_stop
  | succ bound ih =>
    intro n hn path
    have halong : ∀ (port : Option String) path, (∀ p, port = some p → p ∈ onward n.type) →
        Reports g settled (along g (outlineWithin g bound) n.id port path)
          (fun o l => o.Tells limit settled l ∧ (port = none → o = .stop)) (Outline.Free g) :=
      fun port path hport => reports_along hg fun next hnext => by
        cases port with
        | none => cases hnext
        | some p => exact ih next (hn.next ⟨p, hport p rfl, hnext⟩) path
    unfold outlineWithin
    refine reports_get.bind fun c l hl _ => ?_
    subst hl
    split
    · refine reports_pure ⟨?_, rfl, fun _ _ => rfl⟩ (by simp [Outline.Free, Outline.nodes])
      have hother : isCycleNote
          s!"Loop detected: re-entry to {n.type} (ID {n.id}) skipped in current path." = false := by
        simp only [String.append_assoc]
        exact isCycleNote_append "Loop detected: re-entry to " rfl rfl
      rw [Outline.steps, cycleComments_cons, cycleComments_comment, hother]
      rfl
    refine Reports.bind (reports_modify fun _ => ⟨rfl, rfl, rfl, rfl⟩) fun _ l hl _ => ?_
    subst hl
    have hmem : n ∈ g.nodes := hn.mem
    refine (gathers_resolveInputs hg hn hmem).reports
      (fun (hidle : settled ∧ action? n.type = none) c r c' hc hrun => ?_)
      fun r notes _ hnotes hquiet => ?_
    · obtain ⟨r', hr'⟩ := resolveInputs_known n.dataInputs fun p hp => by
        obtain ⟨ht, hid⟩ := hg.idle n hn hidle.2 p hp
        exact hid ▸ hc.knows hidle.1 n (mem_nodesOfType.mpr ⟨hmem, ht⟩)
      rw [hr'] at hrun
      cases hrun
      rfl
    refine (reports_demandAll _).bind fun _ l hl _ => ?_
    subst hl
    refine (halong _ [] fun p hp => by simp [onward, hp]).bind fun body lb hb _ => ?_
    refine (halong _ [] fun p hp => by simp [onward, hp]).bind fun other lo ho _ => ?_
    refine (halong _ (n.id :: path) fun p hp => by simp [onward, hp]).bind fun next ln hx _ => ?_
    refine Reports.bind (reports_modify fun _ => ⟨rfl, rfl, rfl, rfl⟩) fun _ l hl _ => ?_
    subst hl
    refine reports_pure ?_ ?_
    · simpa using tells_node hnotes hquiet hb.1 hb.2 ho.1 ho.2 hx.1
    · intro _ hnext hother hbody _ hinputs _ _ m hm
      simp only [Outline.nodes, mem_append, mem_cons] at hm
      rcases hm with rfl | (hm | hm) | hm
      · exact hinputs
      · exact hbody m hm
      · exact hother m hm
      · exact hnext m hm

theorem reports_outline (limit : String) (hg : Supplied g) {id : Int} {port : String}
    (h : ∀ next, Leads g id port next → Reached g next) :
    Reports g settled (along g (outline g) id (some port) []) (Outline.Tells limit settled)
      (Outline.Free g) := by
  have halong : Reports g settled (along g (outline g) id (some port) [])
      (fun o l => o.Tells limit settled l ∧ (some port = none → o = .stop)) (Outline.Free g) :=
    reports_along hg fun next hnext => reports_outlineWithin limit hg _ next (h next hnext) []
  simpa using halong

/-! ## Programs -/

def Definition.notes : Definition → List String
  | .known => []
  | .made notes _ body => notes ++ body.allNotes
  | .refused notes _ _ => notes

def Plan.notes (p : Plan) : List String :=
  p.functions.flatMap Definition.notes ++ p.handlers.flatMap (fun h => h.notes ++ h.body.allNotes)
    ++ (p.path.toList.flatMap Outline.allNotes
    ++ p.loop.toList.flatMap fun e => e.2.allNotes)

def Definition.Free (g : Graph) (f : Node) : Definition → Prop
  | .known => True
  | .made _ _ body => CycleFree g f "name" ∧ body.Free g
  | .refused _ _ _ => CycleFree g f "name"

def Handler.Free (g : Graph) (k : Node) (h : Handler) : Prop :=
  CycleFree g k "key" ∧ h.body.Free g

theorem reports_planFunction (limit : String) (hg : Supplied g) (he : hasEntry g = true) {f : Node}
    (hf : f ∈ g.nodesOfType "function") :
    Reports g settled (planFunction g f)
      (fun d l => cycleComments (d.steps limit) = l ∧ d.notes = l) (Definition.Free g f) := by
  obtain ⟨hmem, ht⟩ := mem_nodesOfType.mp hf
  unfold planFunction
  refine reports_get.bind fun c l hl _ => ?_
  subst hl
  split
  · exact reports_pure ⟨rfl, rfl⟩ fun _ => trivial
  refine Reports.bind (reports_modify fun _ => ⟨rfl, rfl, rfl, rfl⟩) fun _ l hl _ => ?_
  subst hl
  refine (gathers_resolve hg (.name he hf)).reports False.elim
    fun resolved notes hshaped hnotes _ => ?_
  have hname := hshaped.named_eq hg.typed hmem (hg.titled f hmem ht)
  split
  · rename_i hnamed
    refine (reports_outline limit hg fun next hl => .body hf (hname ▸ hnamed) hl).bind
      fun body l hb _ => reports_pure ?_ fun hbody hfree _ _ => ⟨hfree, hbody⟩
    simp [Definition.steps, cycleComments_notes hnotes, hb.comments, Definition.notes, hb.notes]
  · have hother : isCycleNote
        s!"Invalid function name: {resolved} (node ID {f.id}). Skipping definition." = false := by
      simp only [String.append_assoc]
      exact isCycleNote_append "Invalid function name: " rfl rfl
    refine reports_pure ⟨?_, by simp [Definition.notes]⟩ fun hfree _ _ => hfree
    rw [Definition.steps, cycleComments_append, cycleComments_notes hnotes, cycleComments_cons,
      cycleComments_comment, hother]
    simp

theorem planFunction_knows (hg : Supplied g) (he : hasEntry g = true) {f : Node}
    (hf : f ∈ g.nodesOfType "function") {d : Definition} (hc : Ready g False c)
    (h : planFunction g f c = .ok (d, c')) : d = .known ∨ c'.Knows (f.id, "name") := by
  obtain ⟨c₀, c₁, hget, h⟩ := exists_of_bind h
  cases hget
  split at h
  · cases h
    exact .inl rfl
  obtain ⟨_, c₁, hpush, h⟩ := exists_of_bind h
  obtain ⟨resolved, c₂, hresolve, h⟩ := exists_of_bind h
  obtain ⟨notes, c₃, hdrain, h⟩ := exists_of_bind h
  cases hpush
  cases hdrain
  have hc₁ : Ready g False { c with defined := f.id :: c.defined } :=
    ⟨hc.notes, hc.resolving, hc.remembered, hc.recalls, hc.knows⟩
  have hgathers : Gathers g False (resolve g f "name") (CycleFree g f "name") (Shaped g f "name") :=
    gathers_resolve hg (.name he hf)
  have hknows : c₂.Knows (f.id, "name") := knows_resolve hc₁.resolving hresolve
  split at h
  · rename_i hnamed
    obtain ⟨body, c₄, hbody, h⟩ := exists_of_bind h
    cases h
    obtain ⟨hmem, ht⟩ := mem_nodesOfType.mp hf
    have hname := (hgathers _ _ _ hc₁ hresolve).2.2.named_eq hg.typed hmem (hg.titled f hmem ht)
    exact .inr ((reports_outline "" hg (fun next hl => .body hf (hname ▸ hnamed) hl) _ _ _
      (hgathers.ready hc₁ hresolve) hbody).2.1 _ hknows)
  · cases h
    exact .inr hknows

theorem reports_planHandler (limit : String) (hg : Supplied g) {k : Node}
    (hk : k ∈ g.nodesOfType "whenKeyPressed") :
    Reports g True (planHandler g k)
      (fun h l => cycleComments (h.steps limit) = l ∧ h.notes ++ h.body.allNotes = l)
      (Handler.Free g k) := by
  unfold planHandler
  refine (gathers_resolve hg (.key hk)).reports False.elim fun resolved notes _ hnotes _ => ?_
  refine (reports_outline limit hg fun next hl => .key hk hl).bind fun body l hb _ =>
    reports_pure ⟨?_, by simp [hb.notes]⟩ fun hbody hfree => ⟨hfree, hbody⟩
  rw [Handler.steps, cycleComments_append, cycleComments_notes hnotes, append_nil]
  split
  · simp [hb.comments]
  · rename_i hidle
    have hother : isCycleNote ("'When Key Pressed' for "
        ++ Json.literal (lower (unquote resolved))
        ++ s!" (ID {k.id}) has no actions connected or actions were skipped.") = false := by
      simp only [String.append_assoc]
      exact isCycleNote_append "'When Key Pressed' for " rfl rfl
    rw [cycleComments_cons, cycleComments_comment, hother, hb.idle trivial (by simpa using hidle)]
    rfl

theorem reports_planEach {α : Type} {make : Node → Run α} {steps : α → List Step}
    {notes : α → List String} {free : Node → α → Prop} {ns : List Node}
    (h : ∀ n ∈ ns, Reports g settled (make n) (fun a l => cycleComments (steps a) = l ∧ notes a = l)
      (free n)) :
    Reports g settled (planEach make ns)
      (fun as l => cycleComments (as.flatMap steps) = l ∧ as.flatMap notes = l)
      (List.Forall₂ free ns) := by
  induction ns with
  | nil => exact reports_pure ⟨rfl, rfl⟩ .nil
  | cons n ns ih =>
    obtain ⟨hn, hns⟩ := forall_mem_cons.mp h
    rw [planEach]
    exact hn.bind fun a l hl _ => (ih hns).bind fun as l' hl' _ =>
      reports_pure (by simp [hl, hl']) fun hrest hfirst => .cons hfirst hrest

/-- What a program resolves depends on no cycle. -/
structure Plan.Free (g : Graph) (p : Plan) : Prop where
  functions : List.Forall₂ (Definition.Free g) (g.nodesOfType "function") p.functions
  handlers : List.Forall₂ (Handler.Free g) (g.nodesOfType "whenKeyPressed") p.handlers
  path : ∀ o ∈ p.path, o.Free g
  loop : ∀ e ∈ p.loop, e.2.Free g

theorem reports_planPath (limit : String) (hg : Supplied g) :
    Reports g True (planPath g (g.nodesOfType "start").head?)
      (fun path l => (path.getD .stop).Tells limit True l) fun path => ∀ o ∈ path, o.Free g := by
  cases hs : (g.nodesOfType "start").head? with
  | none => exact reports_pure (tells_stop limit) (by simp)
  | some n =>
    exact (reports_outlineWithin limit hg _ n (.start hs) []).bind fun o l hl _ =>
      reports_pure (by simpa using hl) fun hfree => by simpa using hfree

theorem reports_planLoop (limit : String) (hg : Supplied g) :
    Reports g True (planLoop g (g.nodesOfType "gameLoop").head?)
      (fun loop l => ((loop.map Prod.snd).getD .stop).Tells limit True l)
      fun loop => ∀ e ∈ loop, e.2.Free g := by
  cases hs : (g.nodesOfType "gameLoop").head? with
  | none => exact reports_pure (tells_stop limit) (by simp)
  | some n =>
    exact (reports_outline limit hg fun next hl => .tick hs hl).bind fun o l hl _ =>
      reports_pure (by simpa using hl) fun hfree => by simpa using hfree

theorem cycleComments_loop (n : Node) (tick : Outline) :
    cycleComments (loopSteps limit n tick) = cycleComments (tick.steps limit) := by
  have hother : isCycleNote s!"Game loop (node ID {n.id})" = false := by
    simp only [String.append_assoc]
    exact isCycleNote_append "Game loop (node ID " rfl rfl
  simp only [loopSteps, cancelSteps, cycleComments_cons, cycleComments_comment, hother]
  simp

theorem cycleComments_path (idle : Bool) (o : Outline) :
    cycleComments (pathSteps limit idle o) = cycleComments (o.steps limit) := by
  rw [pathSteps, cycleComments_cons, comments_child]
  split
  · cases idle <;> exact append_nil _
  · exact append_nil _

theorem cycleComments_setup {setup : Outline} {l : List String} (h : setup.Tells limit True l) :
    cycleComments (setupSteps limit setup) = l := by
  rw [setupSteps]
  split
  · rw [cycleComments_cons, cycleComments_cons, cycleComments_cons, comments_child, h.comments]
    exact append_nil _
  · rename_i hidle
    rw [h.idle trivial (by simpa using hidle)]
    rfl

/-- The frame loop stands after the path of the start node, which is left out if it has no steps. -/
theorem cycleComments_main {idle : Bool} {path : Option Outline} {loop : Option (Node × Outline)}
    {lp ll : List String} (hp : (path.getD .stop).Tells limit True lp)
    (hl : ((loop.map Prod.snd).getD .stop).Tells limit True ll) :
    cycleComments (mainSteps limit idle path loop) = lp ++ ll := by
  cases loop with
  | none =>
    obtain rfl : [] = ll := hl.comments
    rw [append_nil]
    cases path with
    | none => exact (cycleComments_path ..).trans hp.comments
    | some path => exact (cycleComments_path ..).trans hp.comments
  | some e =>
    have hloop : cycleComments [.child 0 true (loopSteps limit e.1 e.2)] = ll := by
      rw [cycleComments_cons, comments_child, cycleComments_loop, cycleComments_nil,
        append_nil]
      exact hl.comments
    cases path with
    | none =>
      obtain rfl : [] = lp := hp.comments
      exact hloop
    | some path =>
      have hsetup : cycleComments (setupSteps limit path) = lp := cycleComments_setup hp
      rw [mainSteps, cycleComments_append, hsetup, hloop]

theorem planFunctions_knows (hg : Supplied g) (he : hasEntry g = true) {fs : List Node}
    (hfs : fs ⊆ g.nodesOfType "function") : ∀ c ds c', Ready g False c →
      planEach (planFunction g) fs c = .ok (ds, c') →
        List.Forall₂ (fun f d => d = .known ∨ c'.Knows (f.id, "name")) fs ds := by
  induction fs with
  | nil =>
    intro c ds c' _ hrun
    cases hrun
    exact .nil
  | cons f fs ih =>
    obtain ⟨hf, hrest⟩ := cons_subset.mp hfs
    intro c ds c' hc hrun
    obtain ⟨d, c₁, hfirst, hrun⟩ := exists_of_bind hrun
    obtain ⟨ds, c₂, hmore, hrun⟩ := exists_of_bind hrun
    cases hrun
    have hc₁ := (reports_planFunction "" hg he hf c d c₁ hc hfirst).1
    have hknows := (reports_planEach (fun f hf => reports_planFunction "" hg he (hrest hf))
      c₁ ds c' hc₁ hmore).2.1
    exact .cons ((planFunction_knows hg he hf hc hfirst).imp_right (hknows _))
      (ih hrest c₁ ds c' hc₁ hmore)

theorem reports_planMain (limit : String) (hg : Supplied g) (functions : List Definition) :
    Reports g True (do
      let handlers ← planEach (planHandler g) (g.nodesOfType "whenKeyPressed")
      let path ← planPath g (g.nodesOfType "start").head?
      return (⟨functions, handlers, path, ← planLoop g (g.nodesOfType "gameLoop").head?⟩ : Plan))
      (fun p l => p.functions = functions ∧
        cycleComments (handlersSteps limit p.handlers
          ++ mainSteps limit p.handlers.isEmpty p.path p.loop) = l ∧
        p.notes = functions.flatMap Definition.notes ++ l)
      fun p => List.Forall₂ (Handler.Free g) (g.nodesOfType "whenKeyPressed") p.handlers ∧
        (∀ o ∈ p.path, o.Free g) ∧ ∀ e ∈ p.loop, e.2.Free g := by
  refine (reports_planEach fun k => reports_planHandler limit hg).bind fun handlers lh hh _ => ?_
  refine (reports_planPath limit hg).bind fun path lp hp _ => ?_
  refine (reports_planLoop limit hg).bind fun loop ll hl _ => ?_
  refine reports_pure ⟨rfl, ?_, ?_⟩ fun hloop hpath hhandlers => ⟨hhandlers, hpath, hloop⟩
  · have hhandlers : cycleComments (handlersSteps limit handlers) = lh := hh.1
    simp [hhandlers, cycleComments_main hp hl]
  · have hpath : path.toList.flatMap Outline.allNotes = lp := by
      cases path <;> simpa [Outline.allNotes] using hp.notes
    have hloop : (loop.toList.flatMap fun e => e.2.allNotes) = ll := by
      cases loop <;> simpa [Outline.allNotes] using hl.notes
    simp [Plan.notes, hh.2, hpath, hloop]

/-- **A program has a comment for each note that was taken**, and one for each gap. Without a gap
nothing in it depends on a cycle. -/
theorem planProgram_noted (limit : String) (hg : Supplied g) (he : hasEntry g = true) {p : Plan}
    (h : planProgram g (g.nodesOfType "start").head? (g.nodesOfType "gameLoop").head?
      (g.nodesOfType "whenKeyPressed") {} = .ok (p, c)) :
    c.notes = [] ∧ cycleComments (p.steps limit) = p.notes ∧ AreCycles g p.notes ∧
      c.gaps = p.notes.length ∧ (c.gaps = 0 → p.Free g) := by
  have hinit : Ready g False {} :=
    ⟨rfl, rfl, fun _ _ _ _ _ => nofun, fun _ _ _ _ => nofun, False.elim⟩
  obtain ⟨functions, c₁, hfirst, hmain⟩ := exists_of_bind h
  obtain ⟨hc₁, -, ⟨lf, ⟨hf, hnf⟩, hcf, hgf⟩, hfree⟩ :=
    reports_planEach (fun f hf => reports_planFunction limit hg he hf) {} functions c₁ hinit hfirst
  -- No function has been defined before, so each name has been resolved.
  have hknows : ∀ f ∈ g.nodesOfType "function", c₁.Knows (f.id, "name") := by
    obtain ⟨ds, c₂, hspec, hds, -⟩ := planFunctions_spec hg.toOrderly
    obtain ⟨rfl, rfl⟩ := Prod.mk.inj (Except.ok.inj (hfirst.symm.trans hspec))
    have hall := (planFunctions_knows hg he (List.Subset.refl _) {} functions c₁ hinit hfirst).mp
      (S := fun f d => c₁.Knows (f.id, "name") ∧ Defines g f d)
      (fun f d hknown hd => ⟨hknown.resolve_left fun he => by rw [he] at hd; exact hd, hd⟩) hds
    exact ((List.forall₂_and_left _ _).mp hall).1
  have hready : Ready g True c₁ := { hc₁ with knows := fun _ => hknows }
  obtain ⟨hc, -, ⟨l, ⟨rfl, hl, hn⟩, hcl, hgl⟩, hrest⟩ :=
    reports_planMain limit hg functions c₁ p c hready hmain
  have hfunctions : cycleComments (functionsSteps limit p.functions) = lf := by
    rw [functionsSteps]
    split
    · rename_i hnone
      rw [isEmpty_iff.mp hnone] at hf
      exact hf
    · exact hf
  have hpreamble : cycleComments preambleSteps = [] := rfl
  rw [hnf] at hn
  refine ⟨hc.notes, ?_, hn ▸ hcf.append hcl, ?_, fun hzero => ?_⟩
  · rw [Plan.steps, append_assoc (preambleSteps ++ _), cycleComments_append,
      cycleComments_append, cycleComments_append, hpreamble, hfunctions, hl, hn]
    simp
  · rw [hgl, hgf, hn, length_append]
    exact congrArg (· + _) (Nat.zero_add _)
  · obtain ⟨hhandlers, hpath, hloop⟩ := hrest hzero
    exact ⟨hfree (by omega), hhandlers, hpath, hloop⟩

end

/-! ## Cycles that are reached -/

theorem Planned.exists_outline (hg : Orderly g) {p : Plan} (h : Planned g p) (hn : Reached g n) :
    ∃ o ∈ p.outlines, n ∈ o.nodes := by
  have hgrown := h.grown hg
  obtain ⟨r, hr, hpath⟩ := reached_iff.mp hn
  have hcount : countAll n p.outlines ≠ 0 := by
    rw [hgrown.countAll_of_path hg hr hpath]
    decide
  obtain ⟨k, hk, hpos⟩ := List.sum_pos_iff_exists_pos_nat.mp (Nat.pos_of_ne_zero hcount)
  obtain ⟨o, ho, rfl⟩ := mem_map.mp hk
  obtain ⟨m, hm, hid⟩ := mem_map.mp (count_pos_iff.mp hpos)
  obtain ⟨t, ht, htrace⟩ := hgrown.exists_trace ho
  obtain ⟨r, rfl, hpath⟩ := htrace.mem m hm
  obtain rfl := inj_on_of_nodup_map hg.distinct
    (Grown.mem_of_path (hgrown.roots r ht).1 hpath) hn.mem hid
  exact ⟨o, ho, hm⟩

theorem Plan.Free.outlines {p : Plan} (h : p.Free g) : ∀ o ∈ p.outlines, o.Free g := by
  have hfunctions : ∀ o ∈ p.functions.flatMap Definition.bodies, o.Free g := by
    intro o ho
    obtain ⟨d, hd, ho⟩ := mem_flatMap.mp ho
    obtain ⟨f, -, hfree⟩ := exists_of_forall₂ h.functions hd
    cases d with
    | made notes name body =>
      obtain rfl := mem_singleton.mp ho
      exact hfree.2
    | known => cases ho
    | refused => cases ho
  intro o ho
  simp only [Plan.outlines, mem_append, mem_map, Option.mem_toList] at ho
  rcases ho with ((ho | ⟨d, hd, rfl⟩) | ⟨e, he, rfl⟩) | ho
  · exact hfunctions o ho
  · obtain ⟨k, -, hfree⟩ := exists_of_forall₂ h.handlers hd
    exact hfree.2
  · exact h.loop e he
  · exact h.path o ho

/-- **Without a gap nothing that is resolved depends on a cycle.** -/
theorem Plan.Free.resolved (hg : Orderly g) {p : Plan} (hp : Planned g p) (h : p.Free g)
    (hr : Resolved g (Reached g) n input) : CycleFree g n input := by
  induction hr with
  | input hn hport =>
    obtain ⟨o, ho, hn⟩ := hp.exists_outline hg hn
    exact h.outlines o ho _ hn _ hport
  | name _ hf =>
    have hnames : List.Forall₂ (fun f d => CycleFree g f "name" ∧ Defines g f d)
        (g.nodesOfType "function") p.functions := by
      refine h.functions.mp (fun f d hfree hd => ⟨?_, hd⟩) hp.functions
      cases d with
      | known => exact hd.elim
      | made => exact hfree.1
      | refused => exact hfree
    exact ((List.forall₂_and_left _ _).mp hnames).1 _ hf
  | key hk => exact ((List.forall₂_and_left _ _).mp h.handlers).1 _ hk
  | asked _ hfeed hi ih => exact ih.of_asks (asks_of_feed hfeed hi)

/-! ## Edited graphs -/

/-- What a blueprint is like whose nodes have every input that is asked for. -/
structure Furnished (b : Blueprint) : Prop where
  name : b.type = "function" → ∃ p ∈ b.inputs, p.id = "name"
  key : b.type = "whenKeyPressed" → ∃ p ∈ b.inputs, p.id = "key"
  asked : ∀ s ∈ source? b.type, ∀ i ∈ s.asks, ∃ p ∈ b.inputs, p.id = i
  idle : action? b.type = none → b.type = "start" ∨ (∃ p ∈ b.inputs, p.id = "in") →
    ∀ p ∈ b.inputs, p.kind.isData = true → b.type = "function" ∧ p.id = "name"
  typed : b.type.toList.all (fun c => c.isAlphanum || c == '_') = true
  words : ∀ p ∈ b.inputs, p.id.toList ≠ [] ∧
    p.id.toList.all (fun c => c.isAlphanum || c == '_') = true

theorem catalog_furnished {b : Blueprint} (hb : b ∈ Catalog.blueprints) : Furnished b where
  name := by
    revert b
    decide
  key := by
    revert b
    decide
  asked := by
    revert b
    decide
  idle := by
    revert b
    decide
  typed := by
    revert b
    decide
  words := by
    revert b
    decide

theorem Reached.enters (hs : g.Sound) (hc : g.Current Palette.standard) (h : Reached g n) :
    n.type = "start" ∨ ∃ p ∈ n.inputs, p.id = "in" := by
  have hleads : ∀ {id port}, Leads g id port n → ∃ p ∈ n.inputs, p.id = "in" := by
    intro id port hl
    obtain ⟨w, hw, hn⟩ := leads_iff.mp hl
    obtain ⟨hmem, -, -, hin, -⟩ := flow_enters hs hc hw
    obtain ⟨source, target, out, input, hj⟩ := hs.joined w hmem
    obtain ⟨hm, hid⟩ := (node?_int_iff hs.distinct).mp hn
    obtain rfl := inj_on_of_nodup_map hs.distinct hj.target_mem hm (hj.target_id.trans hid.symm)
    exact ⟨input, mem_of_find?_eq_some hj.input_eq, (Port.find?_id hj.input_eq).trans hin⟩
  cases h with
  | start h => exact .inl (mem_nodesOfType.mp (mem_of_mem_head? h)).2
  | tick _ hl => exact .inr (hleads hl)
  | key _ hl => exact .inr (hleads hl)
  | body _ _ hl => exact .inr (hleads hl)
  | next _ hn =>
    obtain ⟨port, -, hl⟩ := hn
    exact .inr (hleads hl)

/-- **The only gaps in graphs made by edits on the standard palette are cycles.** -/
theorem edited_supplied (edits : List Edit) : Supplied (edited Palette.standard edits) := by
  have hs : (edited Palette.standard edits).Sound := edited_sound edits
  have hc := edited_current standard_propertiesDistinct edits
  have hinput : ∀ {n : Node} {b : Blueprint} {i : String}, Instance b n →
      (∃ p ∈ b.inputs, p.id = i) → ∃ p, n.input? i = some p := by
    rintro n b i hi ⟨q, hq, rfl⟩
    obtain ⟨p, hp, hshape⟩ := hi.exists_port hq
    exact Option.isSome_iff_exists.mp (find?_isSome.mpr
      ⟨p, hp, by simpa using Port.id_of_shape hshape⟩)
  exact { edited_orderly edits with
    input := fun n input hr => by
      cases hr with
      | input hn hp =>
        exact ⟨hn.mem, Option.isSome_iff_exists.mp (find?_isSome.mpr
          ⟨_, mem_of_mem_filter hp, by simp⟩)⟩
      | name _ hf =>
        obtain ⟨hmem, ht⟩ := mem_nodesOfType.mp hf
        obtain ⟨b, hb, hbt, -, hi⟩ := exists_blueprint hc hmem
        exact ⟨hmem, hinput hi ((catalog_furnished hb).name (hbt.trans ht))⟩
      | key hk =>
        obtain ⟨hmem, ht⟩ := mem_nodesOfType.mp hk
        obtain ⟨b, hb, hbt, -, hi⟩ := exists_blueprint hc hmem
        exact ⟨hmem, hinput hi ((catalog_furnished hb).key (hbt.trans ht))⟩
      | asked _ hfeed hasked =>
        obtain ⟨hmem, hsource⟩ := mem_of_feed hfeed
        obtain ⟨b, hb, hbt, -, hi⟩ := exists_blueprint hc hmem
        exact ⟨hmem, hinput hi ((catalog_furnished hb).asked _ (hbt ▸ hsource) _ hasked)⟩
    source := fun n input id hf => by
      unfold feed at hf
      split at hf
      · cases hf
      · rename_i w hw
        obtain ⟨source, target, out, port, hj⟩ := hs.joined w (mem_of_find?_eq_some hw)
        rw [(node?_int_iff hs.distinct).mpr ⟨hj.source_mem, hj.source_id⟩] at hf
        simp only at hf
        split at hf <;> cases hf
    idle := fun n hn ha p hp => by
      obtain ⟨b, hb, hbt, -, hi⟩ := exists_blueprint hc hn.mem
      have henters : b.type = "start" ∨ ∃ p ∈ b.inputs, p.id = "in" := by
        refine (hn.enters hs hc).imp (fun ht => hbt.trans ht) ?_
        rintro ⟨p, hp, hid⟩
        obtain ⟨q, hq, hshape⟩ := hi.exists_input hp
        exact ⟨q, hq, (Port.id_of_shape hshape).trans hid⟩
      obtain ⟨hp, hdata⟩ := mem_filter.mp hp
      obtain ⟨q, hq, hshape⟩ := hi.exists_input hp
      obtain ⟨ht, hid⟩ := (catalog_furnished hb).idle (hbt ▸ ha) henters q hq
        ((Port.kind_of_shape hshape).1 ▸ hdata)
      exact ⟨hbt ▸ ht, Port.id_of_shape hshape ▸ hid⟩ }

theorem isAlphanum_toString {i : Int} (h : 0 ≤ i) :
    ∀ c ∈ (toString i).toList, (c.isAlphanum || c == '_') = true := by
  obtain ⟨k, rfl⟩ := Int.eq_ofNat_of_zero_le h
  have hdigits : (toString (k : Int)).toList = Nat.toDigits 10 k := by
    show (toString k).toList = _
    rw [Nat.toString_eq_ofList_toDigits, String.toList_ofList]
  intro c hc
  rw [hdigits] at hc
  simp [Char.isAlphanum, Script.areDigits_toDigits k c hc]

theorem commentLines_cycleNote {edits : List Edit} {p : Port}
    (hn : n ∈ (edited Palette.standard edits).nodes) (hp : n.input? input = some p) :
    commentLines (cycleNote n input) = ["# " ++ cycleNote n input] := by
  obtain ⟨b, hb, hbt, -, hi⟩ :=
    exists_blueprint (edited_current standard_propertiesDistinct edits) hn
  have hfurnished := catalog_furnished hb
  obtain ⟨q, hq, hshape⟩ := hi.exists_input (mem_of_find?_eq_some hp)
  have hid : q.id = input := (Port.id_of_shape hshape).trans (Port.find?_id hp)
  obtain ⟨hne, hword⟩ := hid ▸ hfurnished.words q hq
  have hpositive : 0 ≤ n.id := by
    have := (edited_sound (p := Palette.standard) edits).positive n hn
    omega
  obtain ⟨cs, c, hlast⟩ := (eq_nil_or_concat input.toList).resolve_left hne
  rw [concat_eq_append] at hlast
  have hname : cycleNote n input =
      cycleStart ++ (n.type ++ " (ID " ++ toString n.id ++ ")." ++ input) := rfl
  have htext : (cycleNote n input).toList = (cycleStart.toList ++ (n.type.toList ++ " (ID ".toList
      ++ (toString n.id).toList ++ ").".toList ++ cs)) ++ [c] := by
    simp [hname, hlast]
  have hplain : ∀ {ds : List Char}, (∀ d ∈ ds, (d.isAlphanum || d == '_') = true) →
      ∀ d ∈ ds, isLineEnd d = false ∧ isBlank d = false := fun hds d hd => by
    have hrange := Script.range_of_isAlphanum (hds d hd)
    simp [isLineEnd, isBlank]
    omega
  have hstart : cycleStart.toList.all (! isLineEnd ·) = true := rfl
  have hid : " (ID ".toList.all (! isLineEnd ·) = true := rfl
  have hdot : ").".toList.all (! isLineEnd ·) = true := rfl
  have htype := all_eq_true.mp (hbt ▸ hfurnished.typed)
  have hinput := all_eq_true.mp hword
  refine Listing.commentLines_of_oneLine htext (fun d hd => ?_)
    (hplain hinput c (by simp [hlast])).2
  simp only [hname, String.toList_append, mem_append] at hd
  rcases hd with hd | (((hd | hd) | hd) | hd) | hd
  · simpa using all_eq_true.mp hstart d hd
  · exact (hplain htype d hd).1
  · simpa using all_eq_true.mp hid d hd
  · exact (hplain (isAlphanum_toString hpositive) d hd).1
  · simpa using all_eq_true.mp hdot d hd
  · exact (hplain hinput d hd).1

/-- **Every note is told.** A graph made by edits on the standard palette has a program. What is
noted while it is written are the inputs that are resolved and depend on themselves, there is such
a note if and only if there is such an input, and each note stands in the program as a comment of
its own, on one line. No other comment begins as these do, so there are as many as gaps. -/
theorem generate_noted (edits : List Edit) (limit : String) :
    let g := edited Palette.standard edits
    (hasEntry g = false → generate g limit = .ok noEntryProgram) ∧
    (hasEntry g = true → ∃ p c, plan g = .ok (some p) ∧
      programLines g limit (g.nodesOfType "start").head? (g.nodesOfType "gameLoop").head?
        (g.nodesOfType "whenKeyPressed") {} = .ok (write (p.steps limit) {}, c) ∧
      generate g limit = .ok (write (p.steps limit) {}).render ∧
      c.notes = [] ∧ c.gaps = p.notes.length ∧
      (∀ note ∈ p.notes, ∃ n input, Circular g n input ∧ note = cycleNote n input) ∧
      (p.notes ≠ [] ↔ ∃ n input, Circular g n input) ∧
      (Listing.commentsAll (p.steps limit)).filter isCycleNote = p.notes ∧
      (∀ note ∈ p.notes, commentLines note = ["# " ++ note]) ∧
      (p.notes.map ("# " ++ ·)).Sublist
        ((write (p.steps limit) {}).lines.toList.map Listing.unindented)) := by
  intro g
  have hg : Supplied g := edited_supplied edits
  refine ⟨fun he => ?_, fun he => ?_⟩
  · rw [generate_eq, plan, if_neg (by simp [he])]
    rfl
  obtain ⟨p, hp, hplanned⟩ := plan_planned hg.toOrderly he
  obtain ⟨c, hrun⟩ : ∃ c, planProgram g (g.nodesOfType "start").head?
      (g.nodesOfType "gameLoop").head? (g.nodesOfType "whenKeyPressed") {} = .ok (p, c) := by
    rw [plan, if_pos he, StateT.run] at hp
    cases hx : planProgram g (g.nodesOfType "start").head? (g.nodesOfType "gameLoop").head?
        (g.nodesOfType "whenKeyPressed") {} with
    | error o =>
      rw [hx] at hp
      cases hp
    | ok r =>
      rw [hx] at hp
      cases hp
      exact ⟨r.2, rfl⟩
  obtain ⟨hnotes, hcomments, hcycles, hgaps, hfree⟩ := planProgram_noted limit hg he hrun
  have hline : ∀ note ∈ p.notes, commentLines note = ["# " ++ note] := by
    intro note hnote
    obtain ⟨n, input, hcircular, rfl⟩ := hcycles note hnote
    obtain ⟨hn, port, hport⟩ := hg.input n input hcircular.1
    exact commentLines_cycleNote hn hport
  refine ⟨p, c, hp, ?_, by rw [generate_eq, hp]; rfl, hnotes, hgaps, hcycles, ⟨fun hne => ?_, ?_⟩,
    hcomments, hline, ?_⟩
  · show (programLines g limit _ _ _).run {} = _
    rw [programLines_eq, StateT.run_map, StateT.run, hrun]
    rfl
  · obtain ⟨note, hnote⟩ := List.exists_mem_of_ne_nil _ hne
    obtain ⟨n, input, hcircular, -⟩ := hcycles note hnote
    exact ⟨n, input, hcircular⟩
  · rintro ⟨n, input, hr, hcycle⟩ hnil
    have hzero : c.gaps = 0 := by rw [hgaps, hnil]; rfl
    exact (hfree hzero).resolved hg.toOrderly hplanned hr (n, input) .refl hcycle
  · obtain ⟨marks, hmarks, htexts, -⟩ :=
      Listing.runAll_shows (p.steps limit) {} (by simp [Plan.steps, Step.lasts])
    have hlines : (write (p.steps limit) {}).lines.toList = marks.map Prod.snd := hmarks
    have hnotes : p.notes.map ("# " ++ ·) = p.notes.flatMap commentLines := by
      rw [List.map_eq_flatMap]
      exact List.flatMap_congr fun note hnote => (hline note hnote).symm
    rw [hlines, hnotes, ← hcomments]
    refine (List.filter_sublist.flatMap _).trans ?_
    rw [← htexts, List.map_map]
    exact List.filter_sublist.map _

/-- A name with line separators in it. The comment that refuses it has the line of a note about a
cycle among its own. -/
def forgedName : String := "x\u2028Error: data cycle through add (ID 2).a\u2028y"

/-- There can be more lines with the text of a note than gaps: here are two for one. -/
theorem note_forged :
    let g := edited Palette.standard [.create (.str "start") .null .null,
      .create (.str "add") .null .null, .create (.str "moveTo") .null .null,
      .create (.str "function") .null .null,
      .connect "00000001" (.int 1) (.str "out") (.int 3) (.str "in"),
      .connect "00000002" (.int 2) (.str "result") (.int 2) (.str "a"),
      .connect "00000003" (.int 2) (.str "result") (.int 3) (.str "x"),
      .setDefault (.int 4) (.str "name") (.str forgedName)]
    ((programLines g "25000" (g.nodesOfType "start").head? (g.nodesOfType "gameLoop").head?
      (g.nodesOfType "whenKeyPressed") {}).toOption.map fun r => (r.2.gaps,
        r.1.lines.toList.count "# Error: data cycle through add (ID 2).a")) = some (1, 2) := by
  decide +kernel

end Sketchflow.Compile
