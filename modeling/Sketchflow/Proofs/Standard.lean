import Sketchflow.Palette.Catalog
import Sketchflow.Proofs.Graph.Current

/-!
# The standard palette

Registering blueprints of new types one after the other lists them all (`registerAll_blueprints`),
so that the standard palette holds the catalog (`standard_blueprints`), and what holds of every
blueprint of the catalog holds of its blueprints.
-/

namespace Sketchflow

open List

namespace Palette

variable {p : Palette}

theorem find?_eq_none_iff {type : String} :
    p.find? type = none ↔ type ∉ p.types := by
  simp [find?, types]

theorem putBlueprint_of_new {b : Blueprint} :
    ∀ l : List Blueprint, b.type ∉ l.map (·.type) → putBlueprint b l = l ++ [b]
  | [], _ => rfl
  | d :: rest, h => by
    simp only [map_cons, mem_cons, not_or] at h
    have hd : (d.type == b.type) = false := beq_eq_false_iff_ne.mpr fun e => h.1 e.symm
    simp [putBlueprint, hd, putBlueprint_of_new rest h.2]

theorem list_blueprints (p : Palette) (b : Blueprint) : (p.list b).blueprints = p.blueprints := by
  unfold list
  split <;> rfl

theorem register_of_new {b : Blueprint} (h : b.type ∉ p.types) :
    ∃ q, p.register b = .ok q ∧ q.blueprints = p.blueprints ++ [b] := by
  refine ⟨{ p with blueprints := putBlueprint b p.blueprints }.list b, ?_, ?_⟩
  · unfold register
    rw [find?_eq_none_iff.mpr h]
    rfl
  · rw [list_blueprints]
    exact putBlueprint_of_new _ h

theorem registerAll_blueprints (bs : List Blueprint) : ∀ p : Palette,
    (p.types ++ bs.map (·.type)).Nodup → (p.registerAll bs).1.blueprints = p.blueprints ++ bs := by
  induction bs with
  | nil => exact fun p _ => (append_nil _).symm
  | cons b rest ih =>
    intro p h
    have hb : b.type ∉ p.types := fun hm => (nodup_append'.mp h).2.2 hm (by simp)
    obtain ⟨q, hq, hqb⟩ := register_of_new hb
    have hq' : (q.types ++ rest.map (·.type)).Nodup := by
      have : q.types = p.types ++ [b.type] := by simp [types, hqb]
      rw [this]
      simpa using h
    rw [registerAll, hq]
    simp only
    rw [ih q hq', hqb, append_assoc]
    rfl

/-- **The standard palette holds the catalog.** -/
theorem standard_blueprints : standard.blueprints = Catalog.blueprints := by
  have h := registerAll_blueprints Catalog.blueprints { blank with standardLoaded := true }
    (by decide)
  exact h

theorem mem_catalog_of_find? {type : String} {b : Blueprint} (h : standard.find? type = some b) :
    b ∈ Catalog.blueprints ∧ b.type = type := by
  refine ⟨standard_blueprints ▸ mem_of_find?_eq_some h, ?_⟩
  simpa using find?_some h

end Palette

namespace Graph

theorem standard_inputsDistinct : InputsDistinct Palette.standard := by
  unfold InputsDistinct
  rw [Palette.standard_blueprints]
  decide

theorem standard_propertiesDistinct : PropertiesDistinct Palette.standard := by
  unfold PropertiesDistinct
  rw [Palette.standard_blueprints]
  unfold Fields.Distinct
  decide

end Graph

end Sketchflow
