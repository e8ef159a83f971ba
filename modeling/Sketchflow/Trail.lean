/-!
# Trails

A trail is a list that grows at its end. It is kept newest first, so that growing it is one step;
`toList` is the view in order.
-/

namespace Sketchflow

/-- Things in the order they came, kept newest first. -/
structure Trail (α : Type) where
  newestFirst : List α := []

namespace Trail

variable {α : Type}

instance : Inhabited (Trail α) := ⟨{}⟩

/-- The trail without anything. -/
def empty : Trail α := ⟨[]⟩

/-- The trail of things in order. -/
def ofList (items : List α) : Trail α := ⟨items.reverse⟩

/-- Add one thing at the end. -/
def push (t : Trail α) (a : α) : Trail α :=
  ⟨a :: t.newestFirst⟩

/-- The things in order. -/
def toList (t : Trail α) : List α :=
  t.newestFirst.reverse

/-- How many things there are. -/
def size (t : Trail α) : Nat :=
  t.newestFirst.length

@[simp] theorem toList_empty : (empty : Trail α).toList = [] := rfl

@[simp] theorem toList_ofList (items : List α) : (ofList items).toList = items := by
  simp [ofList, toList]

@[simp] theorem toList_push (t : Trail α) (a : α) : (t.push a).toList = t.toList ++ [a] := by
  simp [push, toList]

@[simp] theorem length_toList (t : Trail α) : t.toList.length = t.size := by
  simp [toList, size]

end Trail

end Sketchflow
