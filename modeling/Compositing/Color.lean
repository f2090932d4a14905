import Compositing.Pixel

/-!
Colours with single precision channels, held premultiplied by alpha.
-/

namespace Compositing

structure Color where
  red : Float32
  green : Float32
  blue : Float32
  alpha : Float32
  deriving Inhabited

namespace Color

def ofStraight (red green blue alpha : Float32) : Color :=
  ⟨red * alpha, green * alpha, blue * alpha, alpha⟩

def opaqueRgb (red green blue : Float32) : Color := ⟨red, green, blue, 1⟩

def ofByte (value : UInt8) : Float32 := value.toFloat32 / 255

def ofStraightBytes (red green blue alpha : UInt8) : Color :=
  ofStraight (ofByte red) (ofByte green) (ofByte blue) (ofByte alpha)

def opaqueBytes (red green blue : UInt8) : Color :=
  opaqueRgb (ofByte red) (ofByte green) (ofByte blue)

/-- The colour of a pixel whose channels are not premultiplied. -/
def ofStraightPixel (p : Pixel) : Color :=
  ofStraightBytes (p.channel 16).toUInt8 (p.channel 8).toUInt8 (p.channel 0).toUInt8
    (p.channel 24).toUInt8

def ofPixel (p : Pixel) : Color :=
  let part (offset : UInt32) : Float32 := (p.channel offset).toFloat32 / 255
  ⟨part 16, part 8, part 0, part 24⟩

/-- Holds a value between 0 and 1. What is not a number stays as it is. -/
def clampUnit (value : Float32) : Float32 :=
  if value < 0 then 0 else if value > 1 then 1 else value

/-- The nearest of the 256 steps from 0 to 1, a half going up; 0 for what is not a number. -/
def quantize (value : Float32) : UInt32 := ((clampUnit value) * 255).round.toUInt32

def toPixel (c : Color) : Pixel :=
  .ofChannels (quantize c.alpha) (quantize c.red) (quantize c.green) (quantize c.blue)

/-- The colour with its channels divided by alpha again, and zero where alpha is. -/
def straight (c : Color) : Color :=
  if c.alpha == 0 then ⟨0, 0, 0, 0⟩
  else ⟨c.red / c.alpha, c.green / c.alpha, c.blue / c.alpha, c.alpha⟩

def withAlpha (c : Color) (alpha : Float32) : Color :=
  if c.alpha == 0 then ⟨0, 0, 0, alpha⟩
  else
    let factor := alpha / c.alpha
    ⟨c.red * factor, c.green * factor, c.blue * factor, alpha⟩

def transparent : Color := ⟨0, 0, 0, 0⟩

def black : Color := opaqueRgb 0 0 0

def white : Color := opaqueRgb 1 1 1

def pureRed : Color := opaqueRgb 1 0 0

def pureGreen : Color := opaqueRgb 0 1 0

def pureBlue : Color := opaqueRgb 0 0 1

def named? (name : String) : Option Color :=
  [("TRANSPARENT", transparent), ("DEFAULT", transparent), ("BLACK", black), ("WHITE", white),
    ("RED", pureRed), ("GREEN", pureGreen), ("BLUE", pureBlue)].lookup name

end Color

end Compositing
