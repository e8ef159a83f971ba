import Mathlib.Algebra.Ring.Nat
import Mathlib.Tactic.Common
import Sketchflow.Value.Operators

/-!
# Values that documents hold

* `Value.isJson` are the values that have a text: no tuples and nothing that only a program has,
  and no two fields of one name.
* `Value.isDocument` are those of them without an integer that is too long to write
  (`isDocument_iff`).
-/

namespace Sketchflow

mutual

/-- Whether a value is one that documents hold, its integers being such that `fits`. -/
def Value.isDocumentBy (fits : Int → Bool) : Value → Bool
  | .null => true
  | .bool _ => true
  | .int i => fits i
  | .float _ => true
  | .str _ => true
  | .list items => areDocumentsBy fits items
  | .object fields => decide (fields.map (·.1)).Nodup && areFieldDocumentsBy fits fields
  | _ => false
termination_by structural v => v

def areDocumentsBy (fits : Int → Bool) : List Value → Bool
  | [] => true
  | v :: rest => Value.isDocumentBy fits v && areDocumentsBy fits rest
termination_by structural items => items

def areFieldDocumentsBy (fits : Int → Bool) : List (String × Value) → Bool
  | [] => true
  | (_, v) :: rest => Value.isDocumentBy fits v && areFieldDocumentsBy fits rest
termination_by structural fields => fields

end

variable {fits : Int → Bool}

theorem areDocumentsBy_eq (items : List Value) :
    areDocumentsBy fits items = items.all (Value.isDocumentBy fits) := by
  induction items with
  | nil => rfl
  | cons v rest ih => rw [areDocumentsBy, ih, List.all_cons]

theorem areFieldDocumentsBy_eq (fields : Fields) :
    areFieldDocumentsBy fits fields = fields.all fun f => f.2.isDocumentBy fits := by
  induction fields with
  | nil => rfl
  | cons f rest ih => rw [areFieldDocumentsBy, ih, List.all_cons]

namespace Value

/-- Whether an integer is not too long to write. -/
def isShort (i : Int) : Bool := !isLong i

/-- Whether a value is one that documents hold. -/
def isDocument (v : Value) : Bool := v.isDocumentBy isShort

/-- The same without a bound on integers. -/
def isJson (v : Value) : Bool := v.isDocumentBy fun _ => true

@[simp] theorem isDocumentBy_str (s : String) : (str s).isDocumentBy fits = true := rfl

@[simp] theorem isDocumentBy_null : null.isDocumentBy fits = true := rfl

theorem isDocumentBy_list {items : List Value} :
    (list items).isDocumentBy fits = true ↔ ∀ v ∈ items, v.isDocumentBy fits = true := by
  rw [isDocumentBy, areDocumentsBy_eq, List.all_eq_true]

theorem isDocumentBy_object {fields : Fields} :
    (object fields).isDocumentBy fits = true ↔
      (fields.map (·.1)).Nodup ∧ ∀ f ∈ fields, f.2.isDocumentBy fits = true := by
  rw [isDocumentBy, Bool.and_eq_true, decide_eq_true_iff, areFieldDocumentsBy_eq, List.all_eq_true]

end Value

/-! ## Long integers -/

mutual

theorem isDocumentBy_isShort (v : Value) :
    v.isDocumentBy Value.isShort = (v.isJson && v.isWritten) := by
  cases v with
  | list items => exact areDocumentsBy_isShort items
  | object fields =>
    rw [Value.isJson, Value.isDocumentBy, Value.isDocumentBy, Value.isWritten, Value.first?,
      Bool.and_assoc, areFieldDocumentsBy_isShort fields]
  | int i =>
    show (!Value.isLong i) = (true && (if Value.isLong i = true then some _ else none).isNone)
    cases Value.isLong i <;> rfl
  | null => rfl
  | bool b => rfl
  | float x => rfl
  | str s => rfl
  | tuple items => rfl
  | complex z => rfl
  | nan mark => rfl
  | handle k => rfl

theorem areDocumentsBy_isShort (items : List Value) :
    areDocumentsBy Value.isShort items =
      (areDocumentsBy (fun _ => true) items &&
        (Value.firstItem? Value.isForeign items).isNone) := by
  cases items with
  | nil => rfl
  | cons v rest =>
    rw [areDocumentsBy, areDocumentsBy, Value.firstItem?, isDocumentBy_isShort v,
      areDocumentsBy_isShort rest, Value.isJson, Value.isWritten, Option.isNone_or]
    ac_rfl

theorem areFieldDocumentsBy_isShort (fields : List (String × Value)) :
    areFieldDocumentsBy Value.isShort fields =
      (areFieldDocumentsBy (fun _ => true) fields &&
        (Value.firstField? Value.isForeign fields).isNone) := by
  cases fields with
  | nil => rfl
  | cons f rest =>
    obtain ⟨name, v⟩ := f
    rw [areFieldDocumentsBy, areFieldDocumentsBy, Value.firstField?, isDocumentBy_isShort v,
      areFieldDocumentsBy_isShort rest, Value.isJson, Value.isWritten, Option.isNone_or]
    ac_rfl

end

namespace Value

theorem natAbs_lt_of_isLong {i : Int} (h : isLong i = false) :
    i.natAbs < 10 ^ Number.maxDigits := by
  simp only [isLong, Bool.and_eq_false_iff, decide_eq_false_iff_not, Nat.not_lt,
    Nat.not_le] at h
  rcases h with hlog | hbound
  · have hpower : ∀ k n, k ≤ 23 * n → 7 * n ≤ Number.maxDigits → 2 ^ k ≤ 10 ^ Number.maxDigits := by
      intro k n hk hn
      calc 2 ^ k ≤ 2 ^ (23 * n) := Nat.pow_le_pow_right (by decide) hk
        _ = (2 ^ 23) ^ n := Nat.pow_mul 2 23 n
        _ ≤ (10 ^ 7) ^ n := Nat.pow_le_pow_left (by decide) n
        _ = 10 ^ (7 * n) := (Nat.pow_mul 10 7 n).symm
        _ ≤ 10 ^ Number.maxDigits := Nat.pow_le_pow_right (by decide) hn
    exact Nat.lt_of_lt_of_le Nat.lt_log2_self (hpower _ 609 (by omega) (by decide))
  · exact hbound

theorem isShort_of_le {i j : Int} (hi : 0 ≤ i) (hij : i ≤ j) (h : isShort j = true) :
    isShort i = true := by
  have hle : i.natAbs ≤ j.natAbs := by omega
  have hlog : i.natAbs.log2 ≤ j.natAbs.log2 := by
    by_cases hzero : i.natAbs = 0
    · rw [hzero]
      exact Nat.zero_le _
    · exact (Nat.le_log2 (by omega)).mpr (Nat.le_trans (Nat.log2_self_le hzero) hle)
  simp only [isShort, isLong, Bool.not_eq_true', Bool.and_eq_false_iff,
    decide_eq_false_iff_not] at h ⊢
  exact h.imp (fun h hlong => h (Nat.lt_of_lt_of_le hlong hlog))
    (fun h hlong => h (Nat.le_trans hlong hle))

theorem isDocument_iff {v : Value} :
    v.isDocument = true ↔ v.isJson = true ∧ v.isWritten = true := by
  rw [isDocument, isDocumentBy_isShort, Bool.and_eq_true]

end Value

end Sketchflow
