import Compositing.Buffer

/-!
A studio holds buffers and the painters open on them. Each names the other: a painter its buffer,
a buffer its painters.
-/

namespace Compositing

structure Studio where
  buffers : Registry .buffer Buffer := {}
  painters : Registry .painter Painter := {}
  deriving Inhabited

namespace Studio

def create (s : Studio) (surfaces : Surfaces) (format : Format) (size : Size) :
    Except Fault (Studio × Surfaces × BufferId) := do
  let (surfaces, surface) ← surfaces.create format size
  let buffer : Buffer := { format, surface, size := ⟨max size.width 0, max size.height 0⟩ }
  return ({ s with buffers := s.buffers.add buffer }, surfaces, s.buffers.nextKey)

theorem of_create {s after : Studio} {surfaces later : Surfaces} {format : Format} {size : Size}
    {id : BufferId} (made : s.create surfaces format size = .ok (after, later, id)) :
    ∃ b, surfaces.create format size = .ok (later, b.surface) ∧ b.painters = [] ∧
      after = { s with buffers := s.buffers.add b } := by
  rcases ok_of_bind made with ⟨_, created, same⟩
  cases same
  exact ⟨_, created, rfl, rfl⟩

def openPainter (s : Studio) (id : BufferId) : Except Fault (Studio × PainterId) :=
  match s.buffers.get? id with
  | none => .error .deadBuffer
  | some buffer =>
      let painter := s.painters.nextKey
      .ok (⟨s.buffers.set id { buffer with painters := buffer.painters ++ [painter] },
        s.painters.add (.attach id buffer.surface buffer.size)⟩, painter)

def closePainter (s : Studio) (id : PainterId) : Except Fault Studio :=
  match s.painters.get? id with
  | none => .error .deadPainter
  | some painter =>
      let buffers := match painter.attached with
        | some a => s.buffers.modify a.buffer fun buffer =>
            { buffer with painters := buffer.painters.filter (· ≠ id) }
        | none => s.buffers
      .ok ⟨buffers, s.painters.remove id⟩

def closePainters (s : Studio) (id : BufferId) : Except Fault (Studio × Nat) :=
  match s.buffers.get? id with
  | none => .error .deadBuffer
  | some buffer =>
      .ok (⟨s.buffers.set id { buffer with painters := [] },
        buffer.painters.foldl Registry.remove s.painters⟩, buffer.painters.length)

def discard (s : Studio) (id : BufferId) : Except Fault Studio := do
  let (s, _) ← s.closePainters id
  return { s with buffers := s.buffers.remove id }

def withBuffer (s : Studio) (surfaces : Surfaces) (id : BufferId)
    (change : Buffer → Surfaces → Except Fault (Buffer × Surfaces)) :
    Except Fault (Studio × Surfaces) := do
  let some buffer := s.buffers.get? id | throw .deadBuffer
  let (buffer, surfaces) ← change buffer surfaces
  return ({ s with buffers := s.buffers.set id buffer }, surfaces)

end Studio

end Compositing
