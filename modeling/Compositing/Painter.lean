import Compositing.Brush

/-!
A painter is what a widget draws with: an origin and a clip in buffer coordinates, saved and
restored together. On a buffer it holds a brush, and every change of its own is made to the brush
too, so what is drawn through either lands in the same place.
-/

namespace Compositing

namespace Painter

structure Frame where
  origin : Point := .origin
  /-- The clip in buffer coordinates, once there is one. -/
  clip : Option Rect := none
  owner : Option UInt64 := none
  deriving DecidableEq, Repr, Inhabited

namespace Frame

/-- The rectangle, with neither width nor height when it is empty. -/
def collapse (r : Rect) : Rect := if r.isEmpty then ⟨r.x, r.y, 0, 0⟩ else r

def narrowed (f : Frame) (r : Rect) : Rect :=
  collapse (match f.clip with | some clip => clip.overlap r | none => r)

end Frame

structure Attachment where
  buffer : BufferId
  brush : Brush
  deriving DecidableEq, Repr

end Painter

structure Painter where
  frame : Painter.Frame := {}
  /-- The saved frames, last saved first. -/
  saved : List Painter.Frame := []
  attached : Option Painter.Attachment := none
  deriving DecidableEq, Repr, Inhabited

namespace Painter

def onBrush (p : Painter) (change : Brush → Brush) : Painter :=
  { p with attached := p.attached.map fun a => { a with brush := change a.brush } }

def clip (p : Painter) : Rect := p.frame.clip.getD .zero

/-- Narrows the clip to a rectangle of the buffer. Without a clip the rectangle becomes it. -/
def clipTo (p : Painter) (r : Rect) : Painter :=
  let clip := p.frame.narrowed r
  { p with frame := { p.frame with clip := some clip } }.onBrush (·.clipTo clip)

def clipLocal (p : Painter) (r : Rect) : Painter := p.clipTo (r.shift p.frame.origin)

def attach (buffer : BufferId) (surface : SurfaceId) (size : Size) : Painter :=
  ({ attached := some ⟨buffer, ⟨surface, {}, []⟩⟩ } : Painter).clipTo (.ofSize size)

def depth (p : Painter) : Nat := p.saved.length + 1

def save (p : Painter) : Painter := { p with saved := p.frame :: p.saved }.onBrush Brush.save

def restore (p : Painter) : Except Fault Painter :=
  match p.saved with
  | [] => .error .unmatchedRestore
  | frame :: saved =>
      .ok ({ p with frame, saved }.onBrush fun brush => brush.restore?.getD brush)

def placeOrigin (p : Painter) (origin : Point) : Painter :=
  { p with frame := { p.frame with origin } }.onBrush (·.placeOrigin origin)

def moveOrigin (p : Painter) (step : Point) : Painter := p.placeOrigin (p.frame.origin + step)

def toBuffer (p : Painter) (place : Point) : Point := place + p.frame.origin

def isFullyClipped (p : Painter) : Bool := p.frame.clip.any Rect.isEmpty

/-- The clip seen from the origin. What lies before the origin is moved up to it. -/
def localClip (p : Painter) : Rect :=
  let corner := p.clip.corner - p.frame.origin
  ⟨max corner.x 0, max corner.y 0, p.clip.width, p.clip.height⟩

def localClip? (p : Painter) : Option Rect :=
  if p.isFullyClipped then none else
    let visible := (p.clip.shift (-p.frame.origin)).overlap
      ⟨0, 0, Int32.maxValue, Int32.maxValue⟩
    if visible.isEmpty then none else some visible

def setOwner (p : Painter) (owner : Option UInt64) : Painter :=
  { p with frame := { p.frame with owner } }

def setOperator (p : Painter) (operator : Operator) : Painter :=
  p.onBrush (·.setOperator operator)

def fill (p : Painter) (surfaces : Surfaces) (color : Color) (r : Rect) : Surfaces :=
  match p.attached with
  | some a => if p.isFullyClipped then surfaces else a.brush.fill surfaces color r
  | none => surfaces

def draw (p : Painter) (surfaces : Surfaces) (source : SurfaceId) (place : Point) : Surfaces :=
  match p.attached, surfaces.get? source with
  | some a, some image =>
      if p.isFullyClipped then surfaces else a.brush.compose surfaces source place image.bounds
  | _, _ => surfaces

end Painter

end Compositing
