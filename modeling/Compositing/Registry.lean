/-!
Numbered slots. A key is a slot's number; a slot is filled once and, when it is emptied, stays
empty, so no key ever names two things.
-/

namespace Compositing

inductive Kind
  | surface
  | buffer
  | painter
  | output
  | viewport
  | timer
  deriving DecidableEq, Repr

structure Key (kind : Kind) where
  index : Nat
  deriving DecidableEq, Repr, Inhabited

abbrev SurfaceId := Key .surface
abbrev BufferId := Key .buffer
abbrev PainterId := Key .painter
abbrev OutputId := Key .output
abbrev ViewportId := Key .viewport
abbrev TimerId := Key .timer

structure Registry (kind : Kind) (α : Type) where
  slots : List (Option α) := []

namespace Registry

variable {kind : Kind} {α : Type}

instance : Inhabited (Registry kind α) := ⟨{}⟩

def nextKey (r : Registry kind α) : Key kind := ⟨r.slots.length⟩

def add (r : Registry kind α) (value : α) : Registry kind α := ⟨r.slots ++ [some value]⟩

def get? (r : Registry kind α) (key : Key kind) : Option α := r.slots[key.index]?.join

def modify (r : Registry kind α) (key : Key kind) (change : α → α) : Registry kind α :=
  ⟨r.slots.modify key.index (Option.map change)⟩

def set (r : Registry kind α) (key : Key kind) (value : α) : Registry kind α :=
  r.modify key fun _ => value

def remove (r : Registry kind α) (key : Key kind) : Registry kind α := ⟨r.slots.set key.index none⟩

/-- Everything held, lowest key first. -/
def toList (r : Registry kind α) : List (Key kind × α) :=
  r.slots.zipIdx.filterMap fun (slot, index) => slot.map fun value => (⟨index⟩, value)

def keys (r : Registry kind α) : List (Key kind) := r.toList.map (·.1)

def count (r : Registry kind α) : Nat := r.toList.length

@[simp] theorem get?_add_next (r : Registry kind α) (value : α) :
    (r.add value).get? r.nextKey = some value := by
  simp [add, get?, nextKey]

@[simp] theorem get?_add_other (r : Registry kind α) (value : α) {key : Key kind}
    (other : key ≠ r.nextKey) : (r.add value).get? key = r.get? key := by
  have apart : key.index ≠ r.slots.length := fun same => other (by cases key; simp_all [nextKey])
  simp only [add, get?, List.getElem?_append]
  split
  · rfl
  · rw [List.getElem?_eq_none (by simp; omega), List.getElem?_eq_none (by omega)]

@[simp] theorem get?_modify_self (r : Registry kind α) (key : Key kind) (change : α → α) :
    (r.modify key change).get? key = (r.get? key).map change := by
  simp only [modify, get?, List.getElem?_modify]
  cases r.slots[key.index]? <;> simp

@[simp] theorem get?_modify_other (r : Registry kind α) (change : α → α) {key other : Key kind}
    (apart : other ≠ key) : (r.modify key change).get? other = r.get? other := by
  have different : key.index ≠ other.index := fun same => apart (by cases key; cases other; simp_all)
  simp only [modify, get?, List.getElem?_modify]
  cases r.slots[other.index]? <;> simp [different]

@[simp] theorem get?_remove_self (r : Registry kind α) (key : Key kind) :
    (r.remove key).get? key = none := by
  simp only [remove, get?, List.getElem?_set]
  split <;> simp_all
  split <;> rfl

@[simp] theorem get?_remove_other (r : Registry kind α) {key other : Key kind}
    (apart : other ≠ key) : (r.remove key).get? other = r.get? other := by
  have different : key.index ≠ other.index := fun same => apart (by cases key; cases other; simp_all)
  simp [remove, get?, different]

end Registry

end Compositing
