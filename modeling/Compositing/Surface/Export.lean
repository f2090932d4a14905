import Compositing.Surface.Basic

/-!
A surface as bytes, and as rows of pixels.
-/

namespace Compositing.Surface

def wordBytes (word : UInt32) : List UInt8 :=
  [word.toUInt8, (word >>> 8).toUInt8, (word >>> 16).toUInt8, (word >>> 24).toUInt8]

/-- The storage, lowest byte of each word first, padding included. -/
def bytes (s : Surface) : List UInt8 := s.words.toList.flatMap wordBytes

def byteCount (s : Surface) : Nat := 4 * s.words.size

def row (s : Surface) (y : Int32) : List Pixel :=
  (coordinates 0 s.width).map fun x => s.pixelOrClear ⟨x, y⟩

def straightBytes (p : Pixel) : List UInt8 :=
  let c := (Color.ofPixel p).straight
  [c.red, c.green, c.blue, c.alpha].map fun value => (Color.quantize value).toUInt8

end Compositing.Surface
