import Mathlib.Data.List.Induction
import Sketchflow.Proofs.Graph.Joining

/-!
# Identifiers of wires

The identifier of a new wire ends with a tag, and a loaded wire has the identifier of its entry. If
every tag is fresh when it is drawn (`FreshTags`), a new wire has an identifier of its own. Loading
does not look for identifiers that come twice, so two wires of one document can share theirs.

* `Edit.apply_wires`: an edit replaces all wires, or it takes wires away and adds at most one, which
  ends with its tag.
* `wiresApart_iff`: identifiers are apart iff each finds its wire and takes away nothing else.
* **`twin_identifiers`**: wires that share an identifier were loaded together.
-/

namespace Sketchflow.Graph

open List

variable {g : Graph} {history : List (Palette × Edit)}

/-! ## Tags -/

def EndsWith (w : Wire) (tag : String) : Prop :=
  ∃ s, w.id = .str s ∧ tag.toList <:+ s.toList

def Edit.tag? : Edit → Option String
  | .connect tag .. => some tag
  | _ => none

/-- The wires that an edit puts in the place of all others. -/
def Edit.loads? (p : Palette) : Edit → Option (List Wire)
  | .load doc => some (Graph.load p doc).1.wires
  | .clear => some []
  | _ => none

/-- A tag is in use after an edit: the edit draws it, or loads a wire that ends with it. -/
def Edit.Uses (p : Palette) (e : Edit) (tag : String) : Prop :=
  e.tag? = some tag ∨ ∃ ws, e.loads? p = some ws ∧ ∃ w ∈ ws, EndsWith w tag

/-- Tags have eight characters, and each is new when it is drawn: no edit before uses it. -/
structure FreshTags (history : List (Palette × Edit)) : Prop where
  length : ∀ step ∈ history, ∀ tag, step.2.tag? = some tag → tag.length = 8
  fresh : history.Pairwise fun earlier later =>
    ∀ tag, later.2.tag? = some tag → ¬earlier.2.Uses earlier.1 tag

/-- The wires that the last document was loaded with, if the graph was not cleared since. -/
def loadedWires (history : List (Palette × Edit)) : List Wire :=
  history.foldl (fun loaded step => (step.2.loads? step.1).getD loaded) []

theorem loadedWires_append (history : List (Palette × Edit)) (step : Palette × Edit) :
    loadedWires (history ++ [step]) = (step.2.loads? step.1).getD (loadedWires history) := by
  rw [loadedWires, foldl_append]
  rfl

theorem EndsWith.tag_eq {w : Wire} {s t : String} (hs : EndsWith w s) (ht : EndsWith w t)
    (hlen : s.length = t.length) : s = t := by
  obtain ⟨id, hid, hs⟩ := hs
  obtain ⟨id', hid', ht⟩ := ht
  obtain rfl : id = id' := by simpa [hid] using hid'
  exact String.toList_inj.mp
    ((suffix_of_suffix_length_le hs ht (Nat.le_of_eq hlen)).eq_of_length hlen)

theorem suffix_wireId (fromNode fromPort toNode toPort : Value) (tag : String) :
    tag.toList <:+ (wireId fromNode fromPort toNode toPort tag).toList := by
  simp only [wireId, Text.joinWith, foldl_cons, foldl_nil, String.toList_append]
  exact suffix_append _ _

/-! ## What an edit does to wires -/

theorem create_wires {g' : Graph} {p : Palette} {type : String} {x y : Value} {n : Node}
    (h : g.create p type x y = .ok (n, g')) : g'.wires = g.wires := by
  unfold create at h
  split at h
  · cases h
  · cases h
    rfl

theorem remove_wires (id : Value) : (g.remove id).2.wires.Sublist g.wires := by
  unfold remove
  split
  · exact List.Sublist.refl _
  · exact filter_sublist

theorem setDefault_wires (id port v : Value) : (g.setDefault id port v).2.wires = g.wires := by
  unfold setDefault
  split
  · rfl
  · exact updateNode_wires id _

/-- **What an edit does to wires**: it replaces all, or it takes some away and adds at most one,
which ends with the tag it draws. -/
theorem Edit.apply_wires (p : Palette) (g : Graph) (e : Edit) :
    e.loads? p = some (e.apply p g).wires ∨
      e.loads? p = none ∧ ∃ rest new, (e.apply p g).wires = rest ++ new ∧ rest.Sublist g.wires ∧
        (new = [] ∨ ∃ w tag, new = [w] ∧ e.tag? = some tag ∧ EndsWith w tag) := by
  have hfewer : (e.apply p g).wires.Sublist g.wires →
      ∃ rest new, (e.apply p g).wires = rest ++ new ∧ rest.Sublist g.wires ∧
        (new = [] ∨ ∃ w tag, new = [w] ∧ e.tag? = some tag ∧ EndsWith w tag) :=
    fun h => ⟨_, [], (append_nil _).symm, h, .inl rfl⟩
  have hsame : ∀ ws : List Wire, ws = g.wires → ws.Sublist g.wires :=
    fun _ h => h ▸ List.Sublist.refl _
  cases e with
  | load doc => exact .inl rfl
  | clear => exact .inl rfl
  | create type x y =>
    refine .inr ⟨rfl, hfewer ?_⟩
    simp only [apply]
    split
    · rename_i hc
      obtain ⟨name, hc⟩ := createBy_eq_ok hc
      rw [create_wires hc]
    · exact List.Sublist.refl _
  | remove id => exact .inr ⟨rfl, hfewer (remove_wires id)⟩
  | move id x y => exact .inr ⟨rfl, hfewer (hsame _ (updateNode_wires id _))⟩
  | setProperty id key v =>
    refine .inr ⟨rfl, hfewer ?_⟩
    simp only [apply]
    split
    · rename_i hs
      obtain rfl | ⟨name, rfl⟩ := setPropertyBy_eq_ok hs
      · exact List.Sublist.refl _
      · exact hsame _ (updateNode_wires id _)
    · exact List.Sublist.refl _
  | setDefault id port v => exact .inr ⟨rfl, hfewer (hsame _ (setDefault_wires id port v))⟩
  | connect tag fromNode fromPort toNode toPort =>
    refine .inr ⟨rfl, ?_⟩
    simp only [apply]
    rw [connect_eq]
    split
    · exact ⟨g.wires, [], (append_nil _).symm, List.Sublist.refl _, .inl rfl⟩
    · split
      · exact ⟨_, [], (append_nil _).symm, filter_sublist, .inl rfl⟩
      · rename_i w hjoin
        obtain ⟨-, -, -, -, hid⟩ := join_eq_ok hjoin
        exact ⟨_, _, rfl, filter_sublist, .inr ⟨_, tag, rfl, rfl, _, hid, suffix_wireId ..⟩⟩
  | disconnect id => exact .inr ⟨rfl, hfewer filter_sublist⟩

theorem load_id (p : Palette) (doc : Value) :
    ∀ w ∈ (load p doc).1.wires, ∃ s, w.id = .str s := by
  have hnodes : ∀ es, (loadAll (loadNode p) es empty).1.wires = [] := fun es =>
    loadAll_keeps (P := fun g => g.wires = []) (loadNode p) (fun entry g g' h hl => by
      obtain ⟨_, _, _, _, _, rfl⟩ := loadNode_eq_ok.mp hl
      exact h) es empty rfl
  unfold load
  split
  · simp [empty]
  · refine loadAll_keeps (P := fun g => ∀ w ∈ g.wires, ∃ s, w.id = .str s) loadWire ?_ _ _ ?_
    · intro entry g g' h hl w hw
      obtain ⟨v, out, input, hv, -, -, rfl⟩ := loadWire_eq_ok.mp hl
      rcases mem_append.mp hw with hw | hw
      · exact h w hw
      · obtain ⟨s, hs⟩ := wire_ofDoc_id hv
        exact ⟨s, by rw [mem_singleton.mp hw]; exact hs⟩
    · simp [hnodes]
  · simp [empty]

theorem Edit.loads?_id {p : Palette} {e : Edit} {ws : List Wire} (h : e.loads? p = some ws) :
    ∀ w ∈ ws, ∃ s, w.id = .str s := by
  unfold loads? at h
  split at h
  · cases h
    exact load_id p _
  · cases h
    simp
  · cases h

/-! ## Identifiers along a history -/

/-- What is known of identifiers after a history: they are texts, the tags they end with are in
use, and two wires with one identifier were loaded together. -/
structure Identified (history : List (Palette × Edit)) (g : Graph) : Prop where
  text : ∀ w ∈ g.wires, ∃ s, w.id = .str s
  used : ∀ w ∈ g.wires, ∀ tag, tag.length = 8 → EndsWith w tag →
    ∃ step ∈ history, step.2.Uses step.1 tag
  twins : g.wires.Pairwise fun v w => v.id = w.id → [v, w].Sublist (loadedWires history)

theorem Identified.step {step : Palette × Edit} (h : Identified history g)
    (hlen : ∀ tag, step.2.tag? = some tag → tag.length = 8)
    (hfresh : ∀ earlier ∈ history, ∀ tag, step.2.tag? = some tag → ¬earlier.2.Uses earlier.1 tag) :
    Identified (history ++ [step]) (step.2.apply step.1 g) := by
  rcases step.2.apply_wires step.1 g with hall | ⟨hnone, rest, new, hwires, hrest, hnew⟩
  · refine ⟨Edit.loads?_id hall,
      fun w hw tag _ hends => ⟨step, by simp, .inr ⟨_, hall, w, hw, hends⟩⟩, ?_⟩
    rw [loadedWires_append, hall]
    exact pairwise_iff_forall_sublist.mpr fun hsub _ => hsub
  · have hloaded : loadedWires (history ++ [step]) = loadedWires history := by
      rw [loadedWires_append, hnone]
      rfl
    have hused : ∀ w ∈ rest, ∀ tag, tag.length = 8 → EndsWith w tag →
        ∃ s ∈ history ++ [step], s.2.Uses s.1 tag := fun w hw tag htag hends => by
      obtain ⟨s, hs, huses⟩ := h.used w (hrest.subset hw) tag htag hends
      exact ⟨s, mem_append_left _ hs, huses⟩
    obtain rfl | ⟨w, tag, rfl, htag, hends⟩ := hnew
    · rw [append_nil] at hwires
      exact ⟨fun v hv => h.text v (hrest.subset (hwires ▸ hv)), fun v hv => hused v (hwires ▸ hv),
        by rw [hwires, hloaded]; exact h.twins.sublist hrest⟩
    · refine ⟨fun v hv => ?_, fun v hv tag' hlen' hends' => ?_, ?_⟩
      · rcases mem_append.mp (hwires ▸ hv) with hv | hv
        · exact h.text v (hrest.subset hv)
        · obtain ⟨s, hs, -⟩ := hends
          exact ⟨s, by rw [mem_singleton.mp hv]; exact hs⟩
      · rcases mem_append.mp (hwires ▸ hv) with hv | hv
        · exact hused v hv tag' hlen' hends'
        · rw [mem_singleton.mp hv] at hends'
          obtain rfl := hends.tag_eq hends' ((hlen tag htag).trans hlen'.symm)
          exact ⟨step, by simp, .inl htag⟩
      · rw [hwires, hloaded]
        refine pairwise_append.mpr
          ⟨h.twins.sublist hrest, pairwise_singleton _ _, fun v hv u hu hid => ?_⟩
        -- A wire that was there has another identifier: it does not end with the fresh tag.
        rw [mem_singleton.mp hu] at hid
        obtain ⟨name, hname, hsuffix⟩ := hends
        obtain ⟨s, hs, huses⟩ := h.used v (hrest.subset hv) tag (hlen tag htag)
          ⟨name, hid.trans hname, hsuffix⟩
        exact absurd huses (hfresh s hs tag htag)

theorem afterAll_identified : ∀ {history : List (Palette × Edit)}, FreshTags history →
    Identified history (empty.afterAll history) := by
  intro history
  induction history using List.reverseRecOn with
  | nil => exact fun _ => ⟨by simp [afterAll, empty], by simp [afterAll, empty],
      by simp [afterAll, empty]⟩
  | append_singleton history step ih =>
    intro h
    obtain ⟨hfresh, -, hlast⟩ := pairwise_append.mp h.fresh
    rw [afterAll, foldl_append]
    exact (ih ⟨fun s hs => h.length s (mem_append_left _ hs), hfresh⟩).step
      (h.length step (by simp))
      fun earlier hearlier => hlast earlier hearlier step (by simp)

/-! ## Finding and taking away by identifier -/

/-- An identifier finds its wire and takes away this wire only. -/
def WiresApart (g : Graph) : Prop :=
  ∀ front w back, g.wires = front ++ w :: back →
    g.wire? w.id = some w ∧ g.disconnect w.id = (true, { g with wires := front ++ back })

/-- **Identifiers are apart iff each stands for one wire.** -/
theorem wiresApart_iff (htext : ∀ w ∈ g.wires, ∃ s, w.id = .str s) :
    g.WiresApart ↔ (g.wires.map Wire.id).Nodup := by
  have hid : ∀ v ∈ g.wires, ∀ w ∈ g.wires, (v.hasId w.id = true ↔ v.id = w.id) := by
    intro v hv w hw
    obtain ⟨s, hs⟩ := htext v hv
    obtain ⟨t, ht⟩ := htext w hw
    simp [Wire.hasId, Value.same, hs, ht]
  constructor
  · intro h
    refine pairwise_map.mpr (pairwise_iff_getElem.mpr fun i j hi hj hij heq => ?_)
    -- Taking away the later of two twins would take the earlier one away as well.
    have hsplit : g.wires = g.wires.take j ++ g.wires[j] :: g.wires.drop (j + 1) := by
      rw [getElem_cons_drop, take_append_drop]
    have htake := congrArg (fun r => r.2.wires) (h _ _ _ hsplit).2
    have hmem : g.wires[i] ∈ (g.disconnect g.wires[j].id).2.wires := by
      rw [htake]
      refine mem_append_left _ (mem_iff_getElem.mpr ⟨i, by simp; omega, by simp⟩)
    have hkept := (mem_filter.mp hmem).2
    rw [(hid _ (getElem_mem hi) _ (getElem_mem hj)).mpr heq] at hkept
    cases hkept
  · intro h front w back hsplit
    have hw : w ∈ g.wires := by simp [hsplit]
    have hothers : ∀ v ∈ front ++ back, v.hasId w.id = false := fun v hv => by
      have hmem : v ∈ g.wires := by
        rw [hsplit, mem_append, mem_cons]
        exact (mem_append.mp hv).imp_right .inr
      rw [Bool.eq_false_iff, Ne, hid v hmem w hw]
      intro heq
      rw [hsplit, map_append, map_cons, nodup_middle, nodup_cons,
        ← map_append] at h
      exact h.1 (heq ▸ mem_map_of_mem hv)
    have hself : w.hasId w.id = true := (hid w hw w hw).mpr rfl
    have hfront : front.find? (fun v => v.hasId w.id) = none :=
      find?_eq_none.mpr fun v hv => by simp [hothers v (mem_append_left _ hv)]
    have hkept : (front ++ back).filter (fun v => !v.hasId w.id) = front ++ back :=
      filter_eq_self.mpr fun v hv => by simp [hothers v hv]
    refine ⟨by simp [wire?, hsplit, hfront, hself], ?_⟩
    have hwires : g.wires.filter (fun v => !v.hasId w.id) = front ++ back := by
      rw [hsplit, filter_append, filter_cons_of_neg (by simp [hself]),
        ← filter_append, hkept]
    have hlen : (front ++ back).length ≠ g.wires.length := by simp [hsplit]
    simp only [disconnect, hwires, bne_iff_ne.mpr hlen]

/-! ## Twins -/

/-- **Wires that share an identifier were loaded together.** Let every tag be fresh when it is
drawn. In a graph made by any edits and loads, two wires have one identifier only if the last
document that was loaded has both. So identifiers are apart unless a document brought twins, and an
identifier stands for one wire as long as they are apart. -/
theorem twin_identifiers (history : List (Palette × Edit)) (hfresh : FreshTags history) :
    let g := empty.afterAll history
    (g.wires.Pairwise fun v w => v.id = w.id → [v, w].Sublist (loadedWires history)) ∧
      (((loadedWires history).map Wire.id).Nodup → (g.wires.map Wire.id).Nodup) ∧
      (g.WiresApart ↔ (g.wires.map Wire.id).Nodup) := by
  intro g
  have h := afterAll_identified hfresh
  refine ⟨h.twins, fun hloaded => ?_, wiresApart_iff h.text⟩
  refine List.pairwise_map.mpr (h.twins.imp fun {v w} htwins heq => ?_)
  have hpair := List.pairwise_iff_forall_sublist.mp (List.pairwise_map.mp hloaded) (htwins heq)
  exact hpair heq

/-- A document with one identifier on two wires: both are kept, and taken away at once. -/
theorem twin_identifiers_loaded :
    let node (id : Int) (type : String) : Value := .object [("id", .int id), ("type", .str type)]
    let wire (target : Int) : Value := .object [("id", .str "c"), ("fromNode", .int 1),
      ("fromPort", .str "out"), ("toNode", .int target), ("toPort", .str "in")]
    let doc : Value := .object [("nodes", .list [node 1 "start", node 2 "moveTo", node 3 "moveTo"]),
      ("connections", .list [wire 2, wire 3])]
    let history := [(Palette.standard, Edit.load doc)]
    let g := empty.afterAll history
    FreshTags history ∧ ¬g.WiresApart ∧ g.wires.length = 2 ∧
      (g.disconnect (.str "c")).2.wires.length = 0 := by
  intro node wire doc history g
  have hfresh : FreshTags history := ⟨by simp [history, Edit.tag?], List.pairwise_singleton _ _⟩
  refine ⟨hfresh, fun hapart => ?_, by decide +kernel, by decide +kernel⟩
  have hnodup := (twin_identifiers history hfresh).2.2.mp hapart
  have htwins : g.wires.map Wire.id = [.str "c", .str "c"] := by rfl
  rw [htwins] at hnodup
  simp at hnodup

end Sketchflow.Graph
