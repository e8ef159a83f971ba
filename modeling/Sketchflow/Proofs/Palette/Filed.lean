import Mathlib.Data.List.Nodup
import Mathlib.Data.List.Perm.Basic
import Sketchflow.Proofs.Standard

/-!
# The two indexes of a palette

A palette keeps blueprints by type and lists them by category, and each change works on both. As
long as no category is replaced the two agree; replacing one takes blueprints off their list, and a
change that has to take them off again fails.

* `Filed` is what every change keeps: blueprints are listed once, in their own category and only if
  they are registered. `Complete` says that all registered ones are listed.
* `Filed.register_cases`, `Filed.unregister_cases`: what the two changes do to both indexes, and
  exactly when they fail.
* **`listed_once`**: without replaced categories nothing fails and the indexes agree.
* **`failed_change`**: a failed registration changes nothing, but a failed removal has taken the
  type away. `removal_half_done` is such a failure.
-/

namespace Sketchflow.Palette

open List

variable {p q : Palette} {b d : Blueprint} {c : Category} {type : String}

/-! ## Lists -/

/-- The listed blueprints, category by category. -/
def listed (p : Palette) : List Blueprint :=
  p.categories.flatMap (·.members)

theorem find?_key {α : Type} {key : α → String} {l : List α} (h : (l.map key).Nodup) {k : String}
    {x : α} : l.find? (fun y => key y == k) = some x ↔ x ∈ l ∧ key x = k := by
  constructor
  · exact fun hfind => ⟨mem_of_find?_eq_some hfind, by simpa using find?_some hfind⟩
  · rintro ⟨hx, rfl⟩
    cases hfind : l.find? (fun y => key y == key x) with
    | none =>
      have hnot := find?_eq_none.mp hfind x hx
      exact absurd (beq_self_eq_true _) hnot
    | some y =>
      have hy : key y = key x := by simpa using find?_some hfind
      rw [inj_on_of_nodup_map h (mem_of_find?_eq_some hfind) hx hy]

/-- The blueprints of other types. -/
abbrev without (type : String) (l : List Blueprint) : List Blueprint :=
  l.filter fun d => d.type != type

section

variable {l : List Blueprint}

theorem without_eq_self (h : type ∉ l.map (·.type)) : without type l = l :=
  filter_eq_self.mpr fun x hx => bne_iff_ne.mpr fun htype => h (mem_map.mpr ⟨x, hx, htype⟩)

theorem without_append (l' : List Blueprint) :
    without type (l ++ l') = without type l ++ without type l' :=
  filter_append ..

theorem eraseP_type (h : (l.map (·.type)).Nodup) (type : String) :
    l.eraseP (fun d => d.type == type) = without type l := by
  induction l with
  | nil => rfl
  | cons d l ih =>
    rw [map_cons, nodup_cons] at h
    by_cases hd : d.type = type
    · rw [eraseP_cons_of_pos (by simpa using hd), without, filter_cons_of_neg (by simpa using hd)]
      exact (without_eq_self (hd ▸ h.1)).symm
    · rw [eraseP_cons_of_neg (by simpa using hd), without, filter_cons_of_pos (by simpa using hd),
        ih h.2]

theorem putBlueprint_perm (h : (l.map (·.type)).Nodup) (b : Blueprint) :
    (putBlueprint b l).Perm (b :: without b.type l) := by
  induction l with
  | nil => exact .refl _
  | cons d l ih =>
    rw [map_cons, nodup_cons] at h
    by_cases hd : d.type = b.type
    · rw [putBlueprint, if_pos (by simpa using hd), without, filter_cons_of_neg (by simpa using hd)]
      exact .of_eq (congrArg (b :: ·) (without_eq_self (hd ▸ h.1)).symm)
    · rw [putBlueprint, if_neg (by simpa using hd), without, filter_cons_of_pos (by simpa using hd)]
      exact ((ih h.2).cons d).trans (.swap b d _)

end

theorem putCategory_replace {l : List Category} {old : Category}
    (h : l.find? (fun d => d.name == c.name) = some old) :
    old.name = c.name ∧ ∃ l₁ l₂, l = l₁ ++ old :: l₂ ∧ putCategory c l = l₁ ++ c :: l₂ := by
  obtain ⟨hname, l₁, l₂, rfl, hbefore⟩ := find?_eq_some_iff_append.mp h
  refine ⟨by simpa using hname, l₁, l₂, rfl, ?_⟩
  clear h
  induction l₁ with
  | nil => exact if_pos hname
  | cons d l₁ ih =>
    have hd : (d.name == c.name) = false := by simpa using hbefore d mem_cons_self
    show (if d.name == c.name then _ else _) = _
    rw [hd]
    exact congrArg (d :: ·) (ih fun a ha => hbefore a (mem_cons_of_mem _ ha))

theorem putCategory_new {l : List Category} (h : l.find? (fun d => d.name == c.name) = none) :
    putCategory c l = l ++ [c] := by
  induction l with
  | nil => rfl
  | cons d l ih =>
    rw [find?_cons] at h
    split at h
    · cases h
    · rename_i hd
      show (if d.name == c.name then _ else _) = _
      rw [hd]
      exact congrArg (d :: ·) (ih h)

/-! ## Taking off and putting on lists -/

/-- Blueprints are listed in their own category. -/
def Own (p : Palette) : Prop :=
  ∀ c ∈ p.categories, ∀ b ∈ c.members, b.category = c.name

theorem mem_listed : b ∈ p.listed ↔ ∃ c ∈ p.categories, b ∈ c.members :=
  mem_flatMap

theorem addCategory_replace {old : Category} (h : p.category? c.name = some old) :
    ∃ before after, p.listed = before ++ (old.members ++ after) ∧
      (p.addCategory c).listed = before ++ (c.members ++ after) ∧
      (p.addCategory c).categories.map (·.name) = p.categories.map (·.name) ∧
      (p.Own → (∀ b ∈ c.members, b.category = c.name) → (p.addCategory c).Own) := by
  obtain ⟨hname, l₁, l₂, hsplit, hput⟩ := putCategory_replace h
  refine ⟨l₁.flatMap (·.members), l₂.flatMap (·.members), ?_, ?_, ?_, ?_⟩
  · rw [listed, hsplit, flatMap_append, flatMap_cons]
  · rw [listed, addCategory, hput, flatMap_append, flatMap_cons]
  · rw [addCategory, hput, hsplit]
    simp [hname]
  · intro hown hc d hd
    rw [addCategory, hput] at hd
    rw [Own, hsplit] at hown
    rcases mem_append.mp hd with hd | hd
    · exact hown d (mem_append_left _ hd)
    · rcases mem_cons.mp hd with rfl | hd
      · exact hc
      · exact hown d (mem_append_right _ (mem_cons_of_mem _ hd))

theorem addCategory_new (h : p.category? c.name = none) :
    (p.addCategory c).listed = p.listed ++ c.members ∧
      (p.addCategory c).categories.map (·.name) = p.categories.map (·.name) ++ [c.name] ∧
      (p.Own → (∀ b ∈ c.members, b.category = c.name) → (p.addCategory c).Own) := by
  have hput : (p.addCategory c).categories = p.categories ++ [c] := putCategory_new h
  refine ⟨?_, ?_, fun hown hc d hd => ?_⟩
  · simp [listed, hput]
  · simp [hput]
  · rw [hput] at hd
    rcases mem_append.mp hd with hd | hd
    · exact hown d hd
    · rw [mem_singleton.mp hd]
      exact hc

theorem unlist_cases (hnames : (p.categories.map (·.name)).Nodup) (hown : p.Own)
    (honce : (p.listed.map (·.type)).Nodup) (hunique : ∀ d ∈ p.listed, d.type = b.type → d = b)
    (hcategory : b.category ∈ p.categories.map (·.name)) :
    (b ∈ p.listed ∧ ∃ q, p.unlist b = .ok q ∧ q.blueprints = p.blueprints ∧
      q.categories.map (·.name) = p.categories.map (·.name) ∧ q.Own ∧
      q.listed = without b.type p.listed) ∨
    b ∉ p.listed ∧ p.unlist b = .error {} := by
  obtain ⟨c, hc, hname⟩ := mem_map.mp hcategory
  have hfind : p.category? b.category = some c := (find?_key hnames).mpr ⟨hc, hname⟩
  have hmember : (c.members.any fun d => d.type == b.type) = true ↔ b ∈ p.listed := by
    rw [any_eq_true]
    constructor
    · rintro ⟨d, hd, htype⟩
      have hlisted := mem_listed.mpr ⟨c, hc, hd⟩
      exact hunique d hlisted (beq_iff_eq.mp htype) ▸ hlisted
    · intro hb
      obtain ⟨c', hc', hb⟩ := mem_listed.mp hb
      have hsame : c'.name = c.name := (hown c' hc' b hb).symm.trans hname.symm
      rw [inj_on_of_nodup_map hnames hc' hc hsame] at hb
      exact ⟨b, hb, beq_self_eq_true _⟩
  unfold unlist
  rw [hfind]
  by_cases hb : b ∈ p.listed
  · obtain ⟨before, after, hlisted, hlisted', hnames', hown'⟩ :=
      addCategory_replace (c := { c with members := c.members.eraseP fun d => d.type == b.type })
        (hname ▸ hfind)
    refine .inl ⟨hb, _, if_pos (hmember.mpr hb), rfl, hnames', hown' hown fun d hd =>
      hown c hc d (mem_of_mem_eraseP hd), ?_⟩
    rw [hlisted, map_append, map_append, nodup_append', nodup_append'] at honce
    obtain ⟨-, ⟨hmembers, -, hafter⟩, hbefore⟩ := honce
    obtain ⟨d, hd, htype⟩ := any_eq_true.mp (hmember.mpr hb)
    have hhere : b.type ∈ c.members.map (·.type) := mem_map.mpr ⟨d, hd, beq_iff_eq.mp htype⟩
    have hbefore : b.type ∉ before.map (·.type) := fun h => hbefore h (mem_append_left _ hhere)
    rw [hlisted', hlisted, without_append, without_append, eraseP_type hmembers,
      without_eq_self hbefore, without_eq_self (hafter hhere)]
  · exact .inr ⟨hb, if_neg (mt hmember.mp hb)⟩

theorem list_effect (hnames : (p.categories.map (·.name)).Nodup) (b : Blueprint) :
    (p.list b).listed.Perm (b :: p.listed) ∧
    ((p.list b).categories.map (·.name)).Nodup ∧
    (∀ name, name ∈ (p.list b).categories.map (·.name) ↔
      name = b.category ∨ name ∈ p.categories.map (·.name)) ∧
    (p.Own → (p.list b).Own) := by
  unfold list
  cases hfind : p.category? b.category with
  | some c =>
    obtain ⟨hc, hname⟩ := (find?_key hnames).mp hfind
    obtain ⟨before, after, hlisted, hlisted', hnames', hown⟩ :=
      addCategory_replace (c := { c with members := c.members ++ [b] }) (hname ▸ hfind)
    refine ⟨?_, hnames' ▸ hnames, fun name => ?_, fun h => hown h fun d hd => ?_⟩
    · rw [hlisted, hlisted', append_assoc, ← append_assoc, ← append_assoc before]
      exact perm_middle
    · rw [hnames']
      exact ⟨.inr, fun h => h.elim (fun h => h ▸ hname ▸ mem_map_of_mem hc) id⟩
    · rcases mem_append.mp hd with hd | hd
      · exact h c hc d hd
      · rw [mem_singleton.mp hd]
        exact hname.symm
  | none =>
    obtain ⟨hlisted, hnames', hown⟩ :=
      addCategory_new (c := { name := b.category, members := [b] }) hfind
    have hnew : b.category ∉ p.categories.map (·.name) := by
      simpa [category?] using hfind
    refine ⟨hlisted ▸ perm_append_singleton b _, ?_, fun name => ?_, fun h => hown h fun d hd => ?_⟩
    · rw [hnames']
      exact nodup_append'.mpr ⟨hnames, nodup_singleton _, by simpa using hnew⟩
    · rw [hnames', mem_append, mem_singleton, or_comm]
    · rw [mem_singleton.mp hd]

/-! ## What every change keeps -/

/-- Blueprints are listed once, in their own category and only if they are registered. -/
structure Filed (p : Palette) : Prop where
  types : p.types.Nodup
  names : (p.categories.map (·.name)).Nodup
  once : (p.listed.map (·.type)).Nodup
  registered : p.listed ⊆ p.blueprints
  own : p.Own
  categorized : ∀ b ∈ p.blueprints, b.category ∈ p.categories.map (·.name)

/-- All registered blueprints are listed. -/
def Complete (p : Palette) : Prop :=
  p.blueprints ⊆ p.listed

theorem Filed.find?_iff (h : p.Filed) : p.find? type = some b ↔ b ∈ p.blueprints ∧ b.type = type :=
  find?_key h.types

theorem Filed.unique (h : p.Filed) (hb : b ∈ p.blueprints) :
    ∀ d ∈ p.listed, d.type = b.type → d = b := fun _ hd htype =>
  inj_on_of_nodup_map h.types (h.registered hd) hb htype

theorem nodup_renewed {l l' : List Blueprint} (h : (l.map (·.type)).Nodup)
    (hperm : l'.Perm (b :: without b.type l)) : (l'.map (·.type)).Nodup := by
  refine (hperm.map _).nodup_iff.mpr (nodup_cons.mpr ⟨?_, h.sublist (filter_sublist.map _)⟩)
  rintro hmem
  obtain ⟨d, hd, htype⟩ := mem_map.mp hmem
  exact bne_iff_ne.mp (mem_filter.mp hd).2 htype

/-- Both indexes with a blueprint in the place of the one of its type. -/
structure Renewed (p : Palette) (b : Blueprint) (q : Palette) : Prop where
  blueprints : q.blueprints.Perm (b :: without b.type p.blueprints)
  listed : q.listed.Perm (b :: without b.type p.listed)

theorem Renewed.complete (h : Renewed p b q) (hp : p.Complete) : q.Complete := by
  intro d hd
  rcases mem_cons.mp (h.blueprints.subset hd) with rfl | hd
  · exact h.listed.mem_iff.mpr mem_cons_self
  · obtain ⟨hd, htype⟩ := mem_filter.mp hd
    exact h.listed.mem_iff.mpr (mem_cons_of_mem _ (mem_filter.mpr ⟨hp hd, htype⟩))

/-- Registering, once the blueprint of the type is off the lists. -/
theorem Filed.renew {r : Palette} (h : p.Filed) (hblueprints : r.blueprints = p.blueprints)
    (hnames : r.categories.map (·.name) = p.categories.map (·.name)) (hown : r.Own)
    (hlisted : r.listed = without b.type p.listed) :
    let q := { r with blueprints := putBlueprint b r.blueprints }.list b
    q.Filed ∧ Renewed p b q := by
  intro q
  obtain ⟨hlist, hnodup, hmem, hown'⟩ :=
    list_effect (p := { r with blueprints := putBlueprint b r.blueprints }) (hnames ▸ h.names) b
  have hq : q.blueprints = putBlueprint b p.blueprints := by rw [list_blueprints, hblueprints]
  have hrenewed : Renewed p b q := ⟨hq ▸ putBlueprint_perm h.types b, hlisted ▸ hlist⟩
  refine ⟨⟨nodup_renewed h.types hrenewed.blueprints, hnodup, nodup_renewed h.once hrenewed.listed,
    fun d hd => ?_, hown' hown, fun d hd => (hmem _).mpr ?_⟩, hrenewed⟩
  · refine hrenewed.blueprints.mem_iff.mpr ?_
    rcases mem_cons.mp (hrenewed.listed.subset hd) with rfl | hd
    · exact mem_cons_self
    · obtain ⟨hd, htype⟩ := mem_filter.mp hd
      exact mem_cons_of_mem _ (mem_filter.mpr ⟨h.registered hd, htype⟩)
  · rcases mem_cons.mp (hrenewed.blueprints.subset hd) with rfl | hd
    · exact .inl rfl
    · refine .inr ?_
      show d.category ∈ r.categories.map (·.name)
      rw [hnames]
      exact h.categorized d (mem_filter.mp hd).1

/-- **Registering** renews both indexes, unless the blueprint it replaces is not listed. -/
theorem Filed.register_cases (h : p.Filed) (b : Blueprint) :
    (∃ q, p.register b = .ok q ∧ q.Filed ∧ Renewed p b q ∧
      ∀ old, p.find? b.type = some old → old ∈ p.listed) ∨
    ∃ old, p.find? b.type = some old ∧ old ∉ p.listed ∧ p.register b = .error {} := by
  cases hfind : p.find? b.type with
  | none =>
    have hnew : b.type ∉ p.listed.map (·.type) := fun hb =>
      find?_eq_none_iff.mp hfind (map_subset _ h.registered hb)
    obtain ⟨hq, hrenewed⟩ := h.renew (b := b) rfl rfl h.own (without_eq_self hnew).symm
    refine .inl ⟨_, ?_, hq, hrenewed, nofun⟩
    unfold register
    rw [hfind]
    rfl
  | some old =>
    obtain ⟨hold, htype⟩ := h.find?_iff.mp hfind
    have hregister : p.register b = (p.unlist old).bind fun r =>
        .ok ({ r with blueprints := putBlueprint b r.blueprints }.list b) := by
      unfold register
      rw [hfind]
      rfl
    rcases unlist_cases h.names h.own h.once (h.unique hold) (h.categorized old hold) with
      ⟨hlisted, r, hr, hblueprints, hnames, hown, hrest⟩ | ⟨hnot, hr⟩
    · rw [htype] at hrest
      obtain ⟨hq, hrenewed⟩ := h.renew hblueprints hnames hown hrest
      rw [hregister, hr]
      exact .inl ⟨_, rfl, hq, hrenewed, fun _ h => Option.some.inj h ▸ hlisted⟩
    · rw [hregister, hr]
      exact .inr ⟨old, rfl, hnot, rfl⟩

theorem Filed.removed (h : p.Filed) (hblueprints : q.blueprints = without type p.blueprints)
    (hnames : q.categories.map (·.name) = p.categories.map (·.name)) (hown : q.Own)
    (hlisted : q.listed = without type p.listed) : q.Filed where
  types := by
    rw [Palette.types, hblueprints]
    exact h.types.sublist (filter_sublist.map _)
  names := hnames ▸ h.names
  once := by
    rw [hlisted]
    exact h.once.sublist (filter_sublist.map _)
  registered := by
    rw [hblueprints, hlisted]
    exact fun d hd => mem_filter.mpr ⟨h.registered (mem_filter.mp hd).1, (mem_filter.mp hd).2⟩
  own := hown
  categorized d hd := by
    rw [hblueprints] at hd
    rw [hnames]
    exact h.categorized d (mem_filter.mp hd).1

theorem unregister_some (hfind : p.find? b.type = some b) :
    let r : Palette := { p with blueprints := without b.type p.blueprints }
    p.unregister b.type = match r.unlist b with
      | .ok p => (p, .ok true)
      | .error f => (r, .error f) := by
  unfold unregister
  generalize p.find? b.type = found at hfind
  subst hfind
  rfl

/-- **Removing** a type takes it out of both indexes. If it is not listed this fails, and the type
is not registered any more. -/
theorem Filed.unregister_cases (h : p.Filed) (type : String) :
    (p.find? type = none ∧ p.unregister type = (p, .ok false)) ∨
    ∃ b q, p.find? type = some b ∧ q.Filed ∧
      q.blueprints = without type p.blueprints ∧
      (b ∈ p.listed ∧ p.unregister type = (q, .ok true) ∧
          q.listed = without type p.listed ∨
        b ∉ p.listed ∧ p.unregister type = (q, .error {}) ∧ q.categories = p.categories) := by
  cases hfind : p.find? type with
  | none =>
    refine .inl ⟨rfl, ?_⟩
    unfold unregister
    rw [hfind]
  | some b =>
    obtain ⟨hb, rfl⟩ := h.find?_iff.mp hfind
    let r : Palette := { p with blueprints := without b.type p.blueprints }
    right
    rcases unlist_cases (p := r) h.names h.own h.once (h.unique hb) (h.categorized b hb) with
      ⟨hlisted, q, hq, hblueprints, hnames, hown, hrest⟩ | ⟨hnot, hr⟩
    · rw [unregister_some hfind, hq]
      exact ⟨b, q, rfl, h.removed hblueprints hnames hown hrest, hblueprints,
        .inl ⟨hlisted, rfl, hrest⟩⟩
    · -- Nothing of the type was listed.
      have hrest : p.listed = without b.type p.listed :=
        (filter_eq_self.mpr fun d hd => bne_iff_ne.mpr fun htype =>
          hnot (h.unique hb d hd htype ▸ hd)).symm
      rw [unregister_some hfind, hr]
      exact ⟨b, r, rfl, h.removed (q := r) rfl rfl h.own hrest, rfl, .inr ⟨hnot, rfl, rfl⟩⟩

theorem Filed.addCategory (h : p.Filed) (hc : c.members = []) :
    (p.addCategory c).Filed ∧
      (p.category? c.name = none → (p.addCategory c).listed = p.listed) := by
  have hnone : ∀ b ∈ c.members, b.category = c.name := by simp [hc]
  cases hfind : p.category? c.name with
  | some old =>
    obtain ⟨before, after, hlisted, hlisted', hnames, hown⟩ := addCategory_replace hfind
    have hsub : (p.addCategory c).listed.Sublist p.listed := by
      rw [hlisted, hlisted', hc, nil_append]
      exact (sublist_append_right _ _).append_left _
    exact ⟨⟨h.types, hnames ▸ h.names, h.once.sublist (hsub.map _),
      fun _ hd => h.registered (hsub.subset hd), hown h.own hnone, hnames ▸ h.categorized⟩, nofun⟩
  | none =>
    obtain ⟨hlisted, hnames, hown⟩ := addCategory_new hfind
    rw [hc, append_nil] at hlisted
    have hnew : c.name ∉ p.categories.map (·.name) := by
      simpa [category?] using hfind
    refine ⟨⟨h.types, ?_, hlisted ▸ h.once, hlisted ▸ h.registered, hown h.own hnone, fun b hb => ?_⟩,
      fun _ => hlisted⟩
    · rw [hnames]
      exact nodup_append'.mpr ⟨h.names, nodup_singleton _, by simpa using hnew⟩
    · rw [hnames]
      exact mem_append_left _ (h.categorized b hb)

/-! ## Changes -/

inductive Change where
  | register (b : Blueprint)
  | unregister (type : String)
  | loadStandard
  | addCategory (c : Category)

def Change.make (p : Palette) : Change → Palette × Except NotListed Unit
  | .register b =>
    match p.register b with
    | .ok q => (q, .ok ())
    | .error f => (p, .error f)
  | .unregister type => ((p.unregister type).1, (p.unregister type).2.map fun _ => ())
  | .loadStandard => p.loadStandard
  | .addCategory c => (p.addCategory c, .ok ())

/-- A category is added without blueprints. -/
def Change.AddsEmpty : Change → Prop
  | .addCategory c => c.members = []
  | _ => True

/-- A category is added without blueprints, under a name that is not in use. -/
def Change.AddsNew (p : Palette) (change : Change) : Prop :=
  change.AddsEmpty ∧ ∀ c, change = .addCategory c → p.category? c.name = none

/-- The palettes that changes of a kind lead to, also those that fail. -/
inductive Reached (allowed : Palette → Change → Prop) : Palette → Prop where
  | blank : Reached allowed .blank
  | standard : Reached allowed .standard
  | change {p : Palette} (change : Change) (h : Reached allowed p) (hallowed : allowed p change) :
      Reached allowed (change.make p).1

theorem Filed.registerAll (h : p.Filed) (bs : List Blueprint) :
    (p.registerAll bs).1.Filed ∧
      (p.Complete → (p.registerAll bs).2 = .ok () ∧ (p.registerAll bs).1.Complete) := by
  induction bs generalizing p with
  | nil => exact ⟨h, fun hp => ⟨rfl, hp⟩⟩
  | cons b bs ih =>
    unfold Palette.registerAll
    rcases h.register_cases b with ⟨q, hq, hfiled, hrenewed, -⟩ | ⟨old, hold, hnot, hq⟩
    · rw [hq]
      exact ⟨(ih hfiled).1, fun hp => (ih hfiled).2 (hrenewed.complete hp)⟩
    · rw [hq]
      exact ⟨h, fun hp => absurd (hp (h.find?_iff.mp hold).1) hnot⟩

theorem Filed.loadStandard (h : p.Filed) :
    p.loadStandard.1.Filed ∧
      (p.Complete → p.loadStandard.2 = .ok () ∧ p.loadStandard.1.Complete) := by
  unfold Palette.loadStandard
  split
  · exact ⟨h, fun hp => ⟨rfl, hp⟩⟩
  · exact Filed.registerAll (p := { p with standardLoaded := true })
      ⟨h.types, h.names, h.once, h.registered, h.own, h.categorized⟩ _

theorem filed_blank : blank.Filed :=
  ⟨.nil, by decide, .nil, nofun, by simp [Own, blank, Catalog.categories], nofun⟩

/-- **Every change keeps the palette filed**, whether it fails or not. -/
theorem Filed.make (h : p.Filed) {change : Change} (hchange : change.AddsEmpty) :
    (change.make p).1.Filed := by
  cases change with
  | register b =>
    rcases h.register_cases b with ⟨q, hq, hfiled, -⟩ | ⟨old, -, -, hq⟩
    · simp only [Change.make, hq]
      exact hfiled
    · simp only [Change.make, hq]
      exact h
  | unregister type =>
    rcases h.unregister_cases type with ⟨-, hq⟩ | ⟨b, q, -, hfiled, -, ⟨-, hq, -⟩ | ⟨-, hq, -⟩⟩
    · simp only [Change.make, hq]
      exact h
    · simp only [Change.make, hq]
      exact hfiled
    · simp only [Change.make, hq]
      exact hfiled
  | loadStandard => exact h.loadStandard.1
  | addCategory c => exact (h.addCategory hchange).1

/-- **Where all is listed, no change fails**, and all stays listed unless a category is replaced. -/
theorem Filed.make_complete (h : p.Filed) (hp : p.Complete) {change : Change}
    (hchange : change.AddsNew p) : (change.make p).2 = .ok () ∧ (change.make p).1.Complete := by
  cases change with
  | register b =>
    rcases h.register_cases b with ⟨q, hq, -, hrenewed, -⟩ | ⟨old, hold, hnot, -⟩
    · simp only [Change.make, hq]
      exact ⟨trivial, hrenewed.complete hp⟩
    · exact absurd (hp (h.find?_iff.mp hold).1) hnot
  | unregister type =>
    rcases h.unregister_cases type with ⟨-, hq⟩ |
      ⟨b, q, hb, -, hblueprints, ⟨-, hq, hlisted⟩ | ⟨hnot, -⟩⟩
    · simp only [Change.make, hq]
      exact ⟨rfl, hp⟩
    · simp only [Change.make, hq]
      refine ⟨rfl, ?_⟩
      rw [Complete, hblueprints, hlisted]
      exact filter_subset _ hp
    · exact absurd (hp (h.find?_iff.mp hb).1) hnot
  | loadStandard => exact h.loadStandard.2 hp
  | addCategory c =>
    refine ⟨rfl, ?_⟩
    show p.blueprints ⊆ (p.addCategory c).listed
    rw [(h.addCategory hchange.1).2 (hchange.2 c rfl)]
    exact hp

theorem Reached.filed {allowed : Palette → Change → Prop}
    (hallowed : ∀ p change, allowed p change → change.AddsEmpty) (h : Reached allowed p) :
    p.Filed := by
  induction h with
  | blank => exact filed_blank
  | standard => exact filed_blank.loadStandard.1
  | change change _ hchange ih => exact ih.make (hallowed _ _ hchange)

theorem Reached.complete (h : Reached (fun p change => change.AddsNew p) p) : p.Complete := by
  induction h with
  | blank => exact nofun
  | standard => exact (filed_blank.loadStandard.2 nofun).2
  | change change h hchange ih =>
    exact ((h.filed fun _ _ h => h.1).make_complete ih hchange).2

/-- The types that the document of a palette lists. -/
def documented (fields : Fields) : List (Option Value) :=
  fields.flatMap fun f =>
    match f.2 with
    | .list docs => docs.map fun doc =>
      match doc with
      | .object fields => Fields.get? fields "type"
      | _ => none
    | _ => []

theorem documented_toFields (p : Palette) :
    documented p.toFields = p.listed.map fun b => some (.str b.type) := by
  simp only [documented, toFields, flatMap_map, map_map, listed, map_flatMap]
  rfl

/-- **The two indexes agree.** In every palette that registering, removing, loading the standard
catalog and adding new categories make of a fresh one, no such change fails. Every registered
blueprint is listed exactly once, in its own category, and every listed one is the one registered
under its type; so the document of the palette lists every type exactly once. -/
theorem listed_once {p : Palette} (h : Reached (fun p change => change.AddsNew p) p) :
    (∀ change : Change, change.AddsNew p → (change.make p).2 = .ok ()) ∧
    p.types.Nodup ∧ p.listed.Perm p.blueprints ∧
    (∀ b ∈ p.blueprints, b ∈ p.inCategory b.category) ∧
    (∀ c ∈ p.categories, ∀ b ∈ c.members, b.category = c.name ∧ p.find? b.type = some b) ∧
    (documented p.toFields).Perm (p.types.map fun type => some (.str type)) := by
  have hfiled : p.Filed := h.filed fun _ _ h => h.1
  have hcomplete := h.complete
  have hperm : p.listed.Perm p.blueprints :=
    (List.perm_ext_iff_of_nodup (List.Nodup.of_map _ hfiled.once)
      (List.Nodup.of_map _ hfiled.types)).mpr fun b => ⟨(hfiled.registered ·), (hcomplete ·)⟩
  refine ⟨fun change hchange => (hfiled.make_complete hcomplete hchange).1, hfiled.types, hperm,
    fun b hb => ?_, fun c hc b hb => ⟨hfiled.own c hc b hb, ?_⟩, ?_⟩
  · obtain ⟨c, hc, hmember⟩ := mem_listed.mp (hcomplete hb)
    have hfind : p.category? b.category = some c :=
      (find?_key hfiled.names).mpr ⟨hc, (hfiled.own c hc b hmember).symm⟩
    rw [inCategory, hfind]
    exact hmember
  · exact hfiled.find?_iff.mpr ⟨hfiled.registered (mem_listed.mpr ⟨c, hc, hb⟩), rfl⟩
  · rw [documented_toFields, types, List.map_map]
    exact hperm.map _

/-- **What a failed change leaves.** In every palette that registering, removing, loading the
standard catalog and adding any empty categories make of a fresh one: registering a blueprint fails
exactly if the one of its type is not listed, and changes nothing then. Removing a type fails
exactly if its blueprint is not listed, and then the lists are as before, but the type is not
registered any more. -/
theorem failed_change {p : Palette} (h : Reached (fun _ change => change.AddsEmpty) p) :
    (∀ b, let r := (Change.register b).make p
      (r.2 = .error {} ↔ ∃ old, p.find? b.type = some old ∧ old ∉ p.listed) ∧
      (r.2 = .error {} → r.1 = p)) ∧
    ∀ type, let r := (Change.unregister type).make p
      (r.2 = .error {} ↔ ∃ b, p.find? type = some b ∧ b ∉ p.listed) ∧
      (r.2 = .error {} → r.1.categories = p.categories ∧ type ∉ r.1.types ∧
        r.1.types = p.types.filter (· != type) ∧
        ∀ other, other ≠ type → r.1.find? other = p.find? other) := by
  have hfiled : p.Filed := h.filed fun _ _ h => h
  refine ⟨fun b => ?_, fun type => ?_⟩
  · rcases hfiled.register_cases b with ⟨q, hq, -, -, hold⟩ | ⟨old, hold, hnot, hq⟩
    · simp only [Change.make, hq]
      exact ⟨⟨nofun, fun ⟨old, hfind, hnot⟩ => absurd (hold old hfind) hnot⟩, nofun⟩
    · simp only [Change.make, hq]
      exact ⟨⟨fun _ => ⟨old, hold, hnot⟩, fun _ => trivial⟩, fun _ => trivial⟩
  · rcases hfiled.unregister_cases type with ⟨hnone, hq⟩ |
      ⟨b, q, hb, -, hblueprints, ⟨hlisted, hq, -⟩ | ⟨hnot, hq, hcategories⟩⟩
    · simp only [Change.make, hq, hnone]
      exact ⟨⟨nofun, nofun⟩, nofun⟩
    · simp only [Change.make, hq, hb]
      refine ⟨⟨nofun, fun ⟨b', hfind, hnot⟩ => ?_⟩, nofun⟩
      exact absurd (Option.some.inj hfind ▸ hlisted) hnot
    · simp only [Change.make, hq, hb]
      have htypes : q.types = p.types.filter (· != type) := by
        rw [types, hblueprints, types, List.filter_map]
        rfl
      refine ⟨⟨fun _ => ⟨b, rfl, hnot⟩, fun _ => rfl⟩, fun _ => ⟨hcategories, ?_, htypes, ?_⟩⟩
      · rw [htypes]
        simp
      · intro other hother
        rw [find?, find?, hblueprints, List.find?_filter]
        congr 1
        funext d
        grind

/-- Two blueprints, one of them moved to another category, and one type removed. -/
def shapesMoved : Palette :=
  let dot : Blueprint := { type := "dot", title := "Dot", category := "Shapes" }
  let line : Blueprint := { type := "line", title := "Line", category := "Shapes" }
  [Change.register dot, .register line, .register { dot with category := "Marks" },
    .unregister "line", .loadStandard].foldl (fun p change => (change.make p).1) .blank

/-- The blueprint that moved is listed where it went, and nowhere else. -/
theorem listed_once_moved :
    shapesMoved.types.Nodup ∧ shapesMoved.listed.Perm shapesMoved.blueprints ∧
      ∃ moved ∈ shapesMoved.inCategory "Marks", shapesMoved.find? "dot" = some moved ∧
        ∀ c ∈ shapesMoved.categories, ∀ b ∈ c.members, b.type = "dot" →
          b = moved ∧ c.name = "Marks" := by
  have hreached : Reached (fun p change => change.AddsNew p) shapesMoved := by
    refine .change _ (.change _ (.change _ (.change _ (.change _ .blank ?_) ?_) ?_) ?_) ?_
    all_goals exact ⟨trivial, nofun⟩
  obtain ⟨-, htypes, hperm, hin, hmembers, -⟩ := listed_once hreached
  have hmarks : (shapesMoved.find? "dot").map Blueprint.category = some "Marks" := by
    decide +kernel
  obtain ⟨moved, hfind, hmoved⟩ := Option.map_eq_some_iff.mp hmarks
  refine ⟨htypes, hperm, moved, ?_, hfind, fun c hc b hb hdot => ?_⟩
  · rw [← hmoved]
    exact hin moved (List.mem_of_find?_eq_some hfind)
  · obtain ⟨hname, hb⟩ := hmembers c hc b hb
    rw [hdot, hfind] at hb
    cases hb
    exact ⟨rfl, hname.symm.trans hmoved⟩

/-- A category is replaced and a type of it removed: the removal fails, and still the type is
gone. -/
theorem removal_half_done :
    let dot : Blueprint := { type := "dot", title := "Dot", category := "Shapes" }
    let p := [Change.register dot, .addCategory { name := "Shapes" }].foldl
      (fun p change => (change.make p).1) .blank
    let r := (Change.unregister "dot").make p
    r.2 = .error {} ∧ p.types = ["dot"] ∧ r.1.types = [] := by
  exact ⟨rfl, rfl, rfl⟩

/-- What is known of that removal in general, and of registering the type again instead. -/
theorem failed_change_removal :
    let dot : Blueprint := { type := "dot", title := "Dot", category := "Shapes" }
    let p := [Change.register dot, .addCategory { name := "Shapes" }].foldl
      (fun p change => (change.make p).1) .blank
    let r := (Change.register dot).make p
    let r' := (Change.unregister "dot").make p
    r.2 = .error {} ∧ r.1 = p ∧ r'.2 = .error {} ∧ r'.1.categories = p.categories ∧
      "dot" ∉ r'.1.types := by
  intro dot p r r'
  obtain ⟨hregister, hremove⟩ := failed_change (p := p)
    (.change _ (.change _ .blank trivial) rfl)
  exact ⟨rfl, (hregister dot).2 rfl, rfl, ((hremove "dot").2 rfl).1, ((hremove "dot").2 rfl).2.1⟩

end Sketchflow.Palette
