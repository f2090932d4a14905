import Compositing.Painter

/-!
A buffer is a surface that painters draw on. While one is open the buffer keeps its size, since
the painter's clip was taken from it.
-/

namespace Compositing

structure Buffer where
  format : Format
  size : Size
  surface : SurfaceId
  /-- The painters open on the buffer, first opened first. -/
  painters : List PainterId := []
  /-- The largest size to expect, while a resize is in progress. -/
  expected : Option Size := none
  deriving DecidableEq, Repr, Inhabited

namespace Buffer

def isResizing (b : Buffer) : Bool := b.expected.isSome

def setSize (b : Buffer) (surfaces : Surfaces) (size : Size) :
    Except Fault (Buffer × Surfaces) :=
  if b.painters.isEmpty then do
    let resized ← surfaces.resize b.surface size
    return ({ b with size := ((resized.get? b.surface).map Surface.size).getD b.size }, resized)
  else .error (.paintersOpen b.painters.length)

/-- Starts a resize, making room for any size up to `largest`. -/
def beginResize (b : Buffer) (surfaces : Surfaces) (largest : Size) :
    Except Fault (Buffer × Surfaces) :=
  if b.isResizing then .error .resizeOpen
  else do
    return ({ b with expected := some largest }, ← surfaces.reserve b.surface largest)

def endResize (b : Buffer) (surfaces : Surfaces) : Except Fault (Buffer × Surfaces) :=
  if b.isResizing then
    .ok ({ b with expected := none }, surfaces.modify b.surface Surface.shrink)
  else .error .resizeNotOpen

def describe (b : Buffer) : String :=
  s!"Buffer \x7b format: {b.format.name}, width: {b.size.width}, height: {b.size.height}, " ++
    s!"painters: {b.painters.length}, resizing: {b.isResizing} \x7d"

section Laws

variable {b c : Buffer} {surfaces later : Surfaces} {size : Size}

theorem of_setSize (done : b.setSize surfaces size = .ok (c, later)) :
    b.painters = [] ∧ surfaces.resize b.surface size = .ok later ∧
      ∃ own, c = { b with size := own } := by
  rw [setSize] at done
  split at done
  · rename_i unused
    rcases ok_of_bind done with ⟨_, resized, same⟩
    cases same
    exact ⟨List.isEmpty_iff.mp unused, resized, _, rfl⟩
  · cases done

theorem of_beginResize (done : b.beginResize surfaces size = .ok (c, later)) :
    surfaces.reserve b.surface size = .ok later ∧ c = { b with expected := some size } := by
  rw [beginResize] at done
  split at done
  · cases done
  · rcases ok_of_bind done with ⟨_, reserved, same⟩
    cases same
    exact ⟨reserved, rfl⟩

theorem of_endResize (done : b.endResize surfaces = .ok (c, later)) :
    c = { b with expected := none } ∧ later = surfaces.modify b.surface Surface.shrink := by
  rw [endResize] at done
  split at done
  · cases done
    exact ⟨rfl, rfl⟩
  · cases done

end Laws

end Buffer

end Compositing
