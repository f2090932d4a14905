import Compositing.Color
import Compositing.Geometry.Rect
import Compositing.Surface.Format

/-!
Pixel surfaces: a rectangle of pixels from the origin, packed row by row into words. Reading
outside the surface gives nothing and writing there changes nothing.
-/

namespace Compositing

structure Surface where
  format : Format
  width : Int32
  height : Int32
  words : Array UInt32
  /-- How many words the storage has room for. -/
  capacity : Nat
  deriving DecidableEq, Repr, Inhabited

namespace Surface

def wordsFor (format : Format) (width height : Int32) : Nat :=
  format.wordsPerRow width * height.toNatClampNeg

/-- A surface of zeros. A negative dimension counts as zero. -/
def blank (format : Format) (width height : Int32) : Surface :=
  let length := wordsFor format width height
  ⟨format, max width 0, max height 0, Array.replicate length 0, length⟩

def size (s : Surface) : Size := ⟨s.width, s.height⟩

def bounds (s : Surface) : Rect := .ofSize s.size

def stride (s : Surface) : Nat := s.format.stride s.width

def wordIndex (s : Surface) (p : Point) : Nat :=
  p.y.toNatClampNeg * s.format.wordsPerRow s.width + p.x.toNatClampNeg / s.format.cellsPerWord

def pixel? (s : Surface) (p : Point) : Option Pixel :=
  if p ∈ s.bounds then
    some (s.format.load p.x.toNatClampNeg (s.words.getD (s.wordIndex p) 0))
  else none

/-- The pixel at a point, where nothing counts as transparent. -/
def pixelOrClear (s : Surface) (p : Point) : Pixel := (s.pixel? p).getD 0

def setPixel (s : Surface) (p : Point) (pixel : Pixel) : Surface :=
  if p ∈ s.bounds then
    let index := s.wordIndex p
    { s with words := s.words.modify index (s.format.store p.x.toNatClampNeg pixel) }
  else s

def paint (s : Surface) (area : Rect) (change : Point → Pixel → Pixel) : Surface :=
  area.points.foldl (fun s p => s.setPixel p (change p (s.pixelOrClear p))) s

def clear (s : Surface) (color : Color) : Surface :=
  let pixel := color.toPixel
  s.paint s.bounds fun _ _ => pixel

def describe (s : Surface) : String :=
  s!"Surface \x7b format: {s.format.name}, width: {s.width}, height: {s.height}, " ++
    s!"stride: {s.stride} \x7d"

end Surface

end Compositing
