import Compositing.Output.Basic

/-!
An output in memory: renderers draw on a surface, and a batch that is closed counts as an update.
-/

namespace Compositing

namespace Framebuffer

structure PointerImage where
  surface : SurfaceId
  /-- The point of the image that points. -/
  hot : Point
  deriving DecidableEq, Repr

structure Config where
  size : Size := ⟨800, 600⟩
  format : Format := .argb32
  /-- The sizes to choose from, besides the first. -/
  resolutions : List Size := []
  deriving DecidableEq, Repr, Inhabited

end Framebuffer

structure Framebuffer where
  surface : SurfaceId
  resolutions : List Size
  openBatches : Nat := 0
  updates : Nat := 0
  pointer : Option Framebuffer.PointerImage := none
  deriving DecidableEq, Repr

namespace Framebuffer

def create (surfaces : Surfaces) (config : Config) : Except Fault (Framebuffer × Surfaces) := do
  let add (known : List Size) (size : Size) := if size ∈ known then known else known ++ [size]
  let resolutions := config.resolutions.foldl add [config.size]
  let (surfaces, surface) ← surfaces.create config.format config.size
  return ({ surface, resolutions }, surfaces)

def isUpdating (f : Framebuffer) : Bool := 0 < f.openBatches

def bounds (f : Framebuffer) (surfaces : Surfaces) : Rect :=
  (surfaces.get? f.surface).elim .zero Surface.bounds

def beginBatch (f : Framebuffer) : Framebuffer := { f with openBatches := f.openBatches + 1 }

/-- Closes a batch. The outermost one counts as an update. -/
def endBatch (f : Framebuffer) : Framebuffer :=
  match f.openBatches with
  | 0 => f
  | 1 => { f with openBatches := 0, updates := f.updates + 1 }
  | n + 1 => { f with openBatches := n }

def renderer? (f : Framebuffer) (surfaces : Surfaces) (area : Rect) : Option Renderer :=
  let visible := area.overlap (f.bounds surfaces)
  if visible.isEmpty then none else some (.within (.surface f.surface) visible .origin)

def special (f : Framebuffer) (surfaces : Surfaces) : List Value → Surfaces × Value
  | [.text "clear", .number argb] =>
      let color := Color.ofStraightPixel argb.toUInt64.toUInt32
      (surfaces.modify f.surface (·.clear color), .nothing)
  | [.text "update-count"] => (surfaces, .number (.ofNat f.updates))
  | [.text "format"] =>
      (surfaces, .text ((surfaces.get? f.surface).elim "" fun surface => surface.format.name))
  | _ => (surfaces, .unsupported)

instance : Output Framebuffer where
  size rig := (rig.device.bounds rig.surfaces).size
  beginUpdates rig := { rig with device := rig.device.beginBatch }
  endUpdates rig :=
    let log : List Log.Entry :=
      if rig.device.isUpdating then []
      else [⟨.warn, .video, "end_updates without begin_updates", []⟩]
    { rig with device := rig.device.endBatch, log := rig.log ++ log }
  renderer rig area := (rig, rig.device.renderer? rig.surfaces area)
  resolutions rig := rig.device.resolutions
  setResolution rig size :=
    if size ∈ rig.device.resolutions then
      match rig.surfaces.resize rig.device.surface size with
      | .ok surfaces => ({ rig with surfaces }, .ok ())
      | .error fault => (rig, .error (.misuse fault))
    else
      let refused : Log.Entry := ⟨.warn, .video, "unsupported resolution",
        [("width", toString size.width), ("height", toString size.height)]⟩
      ({ rig with log := rig.log ++ [refused] }, .error (.unsupportedResolution size))
  special rig arguments :=
    let (surfaces, value) := rig.device.special rig.surfaces arguments
    ({ rig with surfaces }, value)
  setPointer rig image hot :=
    { rig with device := { rig.device with pointer := image.map fun surface => ⟨surface, hot⟩ } }

end Framebuffer

end Compositing
