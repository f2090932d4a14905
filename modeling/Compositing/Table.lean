/-!
A finite map as a list of entries: a key that is already there keeps its place, a new one goes to
the end.
-/

namespace Compositing

structure Table (κ α : Type) where
  entries : List (κ × α) := []

namespace Table

variable {κ α : Type} [DecidableEq κ]

instance : Inhabited (Table κ α) := ⟨{}⟩

def get? (t : Table κ α) (key : κ) : Option α :=
  (t.entries.find? fun entry => entry.1 = key).map (·.2)

def insert (t : Table κ α) (key : κ) (value : α) : Table κ α :=
  if t.entries.any fun entry => entry.1 = key then
    ⟨t.entries.map fun entry => if entry.1 = key then (key, value) else entry⟩
  else ⟨t.entries ++ [(key, value)]⟩

def erase (t : Table κ α) (key : κ) : Table κ α := ⟨t.entries.filter fun entry => entry.1 ≠ key⟩

def values (t : Table κ α) : List α := t.entries.map (·.2)

end Table

end Compositing
