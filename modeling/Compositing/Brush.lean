import Compositing.Surface.Pool

/-!
A brush draws on one surface. It moves, clips and blends what it is told to draw, and keeps a
stack of these settings.
-/

namespace Compositing

namespace Brush

structure Frame where
  /-- Where the user's origin lies on the surface. -/
  origin : Point := .origin
  /-- The part of the surface that may be drawn on; all of it when there is none. -/
  clip : Option Rect := none
  operator : Operator := .sourceOver
  deriving DecidableEq, Repr, Inhabited

namespace Frame

def clipTo (f : Frame) (r : Rect) : Frame :=
  { f with clip := some (match f.clip with | some clip => clip.overlap r | none => r) }

def reach (f : Frame) (bounds : Rect) : Rect :=
  match f.clip with
  | some clip => clip.overlap bounds
  | none => bounds

def fill (f : Frame) (target : Surface) (color : Color) (r : Rect) : Surface :=
  let pixel := color.toPixel
  target.paint ((r.shift f.origin).overlap (f.reach target.bounds)) fun _ => f.operator.blend pixel

/-- Blends a part of a source surface onto the target, its corner at the user's point `place`.
What lies outside the source counts as transparent. -/
def compose (f : Frame) (target source : Surface) (place : Point) (part : Rect) : Surface :=
  let start := place + f.origin
  let area := (Rect.mk start.x start.y part.width part.height).overlap (f.reach target.bounds)
  target.paint area fun p => f.operator.blend (source.pixelOrClear (part.corner + (p - start)))

end Frame

end Brush

structure Brush where
  target : SurfaceId
  frame : Brush.Frame := {}
  /-- The saved frames, last saved first. -/
  saved : List Brush.Frame := []
  deriving DecidableEq, Repr, Inhabited

namespace Brush

def save (b : Brush) : Brush := { b with saved := b.frame :: b.saved }

def restore? (b : Brush) : Option Brush :=
  match b.saved with
  | [] => none
  | frame :: saved => some { b with frame, saved }

def depth (b : Brush) : Nat := b.saved.length

def placeOrigin (b : Brush) (p : Point) : Brush := { b with frame := { b.frame with origin := p } }

def moveOrigin (b : Brush) (step : Point) : Brush := b.placeOrigin (b.frame.origin + step)

def clipTo (b : Brush) (r : Rect) : Brush := { b with frame := b.frame.clipTo r }

def clipLocal (b : Brush) (r : Rect) : Brush := b.clipTo (r.shift b.frame.origin)

def setOperator (b : Brush) (operator : Operator) : Brush :=
  { b with frame := { b.frame with operator } }

def reach (b : Brush) (surfaces : Surfaces) : Rect :=
  b.frame.reach ((surfaces.get? b.target).elim .zero Surface.bounds)

def fill (b : Brush) (surfaces : Surfaces) (color : Color) (r : Rect) : Surfaces :=
  surfaces.modify b.target fun target => b.frame.fill target color r

/-- Composes a surface, as it is before the call, even when it is the brush's own target. -/
def compose (b : Brush) (surfaces : Surfaces) (source : SurfaceId) (place : Point) (part : Rect) :
    Surfaces :=
  match surfaces.get? source with
  | some image => surfaces.modify b.target fun target => b.frame.compose target image place part
  | none => surfaces

def describe (b : Brush) : String :=
  let clip := match b.frame.clip with
    | some r => s!"Some({r.describe})"
    | none => "None"
  s!"DrawContext \x7b translation: IVec2({b.frame.origin.x}, {b.frame.origin.y}), clip: {clip}, " ++
    s!"operator: {b.frame.operator.name}, depth: {b.depth} \x7d"

end Brush

end Compositing
