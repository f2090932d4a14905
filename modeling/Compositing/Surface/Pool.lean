import Compositing.Fault
import Compositing.Registry
import Compositing.Surface.Resize

/-!
The surfaces of a program, each under a key. The bytes of a surface are counted in 63 bits, so
there are sizes for which no storage can be had; what would need such a storage is refused.
-/

namespace Compositing

abbrev Surfaces := Registry .surface Surface

/-- The most words that a storage can have: one less than 2^61. -/
def Surface.maxWords : Nat := 0x1FFFFFFFFFFFFFFF

def Surface.checkSize (format : Format) (size : Size) : Except Fault Unit :=
  if wordsFor format size.width size.height ≤ maxWords then .ok () else .error (.tooLarge size)

namespace Surfaces

def create (surfaces : Surfaces) (format : Format) (size : Size) :
    Except Fault (Surfaces × SurfaceId) := do
  Surface.checkSize format size
  return (surfaces.add (.blank format size.width size.height), surfaces.nextKey)

def withRoom (surfaces : Surfaces) (id : SurfaceId) (size : Size) (change : Surface → Surface) :
    Except Fault Surfaces := do
  let some s := surfaces.get? id | return surfaces
  Surface.checkSize s.format size
  return surfaces.set id (change s)

def resize (surfaces : Surfaces) (id : SurfaceId) (size : Size) : Except Fault Surfaces :=
  surfaces.withRoom id size (·.resize size.width size.height)

def reserve (surfaces : Surfaces) (id : SurfaceId) (largest : Size) : Except Fault Surfaces :=
  surfaces.withRoom id largest (·.reserve largest.width largest.height)

section Laws

variable {surfaces after : Surfaces} {id : SurfaceId} {format : Format} {size : Size}
  {change : Surface → Surface} {s : Surface}

theorem of_create (made : surfaces.create format size = .ok (after, id)) :
    after = surfaces.add (.blank format size.width size.height) ∧ id = surfaces.nextKey := by
  rcases ok_of_bind made with ⟨_, _, same⟩
  cases same
  exact ⟨rfl, rfl⟩

theorem withRoom_of_found (found : surfaces.get? id = some s)
    (fits : Surface.wordsFor s.format size.width size.height ≤ Surface.maxWords) :
    surfaces.withRoom id size change = .ok (surfaces.set id (change s)) := by
  simp [withRoom, found, Surface.checkSize, fits]

theorem of_withRoom (found : surfaces.get? id = some s)
    (done : surfaces.withRoom id size change = .ok after) :
    Surface.wordsFor s.format size.width size.height ≤ Surface.maxWords ∧
      after = surfaces.set id (change s) := by
  by_cases fits : Surface.wordsFor s.format size.width size.height ≤ Surface.maxWords
  · rw [withRoom_of_found found fits] at done
    cases done
    exact ⟨fits, rfl⟩
  · simp [withRoom, found, Surface.checkSize, fits] at done

/-- Nothing changes where there is no surface. -/
theorem withRoom_cases (done : surfaces.withRoom id size change = .ok after) :
    after = surfaces ∨ ∃ s, surfaces.get? id = some s ∧ after = surfaces.set id (change s) := by
  cases found : surfaces.get? id with
  | none =>
      simp only [withRoom, found] at done
      cases done
      exact .inl rfl
  | some s => exact .inr ⟨s, rfl, (of_withRoom found done).2⟩

end Laws

end Surfaces

end Compositing
