/-!
Packed pixels: one word `0xAARRGGBB` whose colour channels are already multiplied by alpha, and
the two ways of putting one pixel on another.
-/

namespace Compositing

abbrev Pixel := UInt32

namespace Pixel

def alpha (p : Pixel) : UInt32 := p >>> 24

def channel (p : Pixel) (offset : UInt32) : UInt32 := (p >>> offset) &&& 0xFF

def ofChannels (alpha red green blue : UInt32) : Pixel :=
  (alpha <<< 24) ||| (red <<< 16) ||| (green <<< 8) ||| blue

/-- One channel of `source` over one of `target`, where `through` is what alpha lets through:
the product is rounded to the nearest of 255 steps. -/
def blendChannel (through source target : UInt32) : UInt32 :=
  min (source + (target * through + 127) / 255) 255

def onto (source target : Pixel) : Pixel :=
  let through := 255 - source.alpha
  if through = 0 then source else
    let mix (offset : UInt32) := blendChannel through (source.channel offset) (target.channel offset)
    ofChannels (mix 24) (mix 16) (mix 8) (mix 0)

end Pixel

inductive Operator
  | sourceOver
  | sourceOnly
  deriving DecidableEq, Repr, Inhabited

def Operator.name : Operator → String
  | .sourceOver => "Over"
  | .sourceOnly => "Source"

def Operator.blend : Operator → Pixel → Pixel → Pixel
  | .sourceOver, source, target => source.onto target
  | .sourceOnly, source, _ => source

end Compositing
