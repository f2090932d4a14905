import Compositing.Surface.Basic

/-!
Resizing in place. Rows move within the storage, so that it never has to grow while the new size
fits what was reserved; pixels that come into view are cleared, padding is not.
-/

namespace Compositing.Surface

/-- The words after the rows have moved: the common part of each common row comes from its old
place, and every other word keeps what the storage held there. -/
def moveRows (old : Array UInt32) (oldRow newRow rows length : Nat) : Array UInt32 :=
  Array.ofFn fun index : Fin length =>
    let row := index / newRow
    let column := index % newRow
    if row < rows ∧ column < min oldRow newRow then old.getD (row * oldRow + column) 0
    else old.getD index 0

/-- The points of a `width` by `height` surface outside its first `keptHeight` rows and
`keptWidth` columns. -/
def exposed (width height keptWidth keptHeight : Int32) : List Point :=
  if (Rect.mk 0 0 width height).isEmpty then [] else
    (coordinates 0 height).flatMap fun y =>
      (coordinates (if y < keptHeight then keptWidth else 0) width).map fun x => ⟨x, y⟩

def roomFor (capacity length : Nat) : Nat := max capacity length

def resize (s : Surface) (width height : Int32) : Surface :=
  let width := max width 0
  let height := max height 0
  if width = s.width ∧ height = s.height then s else
    let keptWidth := min s.width width
    let keptHeight := min s.height height
    let length := wordsFor s.format width height
    let words := moveRows s.words (s.format.wordsPerRow s.width) (s.format.wordsPerRow width)
      keptHeight.toNatClampNeg length
    let moved : Surface := ⟨s.format, width, height, words, roomFor s.capacity length⟩
    (exposed width height keptWidth keptHeight).foldl (fun s p => s.setPixel p 0) moved

def reserve (s : Surface) (width height : Int32) : Surface :=
  { s with capacity := roomFor s.capacity (wordsFor s.format width height) }

def shrink (s : Surface) : Surface := { s with capacity := s.words.size }

def capacityBytes (s : Surface) : Nat := 4 * s.capacity

end Compositing.Surface
