import Compositing.Fault
import Compositing.Output.Value
import Compositing.Render.Program

/-!
Outputs put pixels in front of someone. A viewport asks one for its size, opens a batch, asks for
a renderer per damaged area and closes the batch. What an output does not offer has a default.
-/

namespace Compositing

/-- An output's own state, with the surfaces that it can reach and what it has to report. -/
structure Rig (δ : Type) where
  surfaces : Surfaces
  device : δ
  log : List Log.Entry := []

class Output (δ : Type) where
  /-- The size in device pixels. It is unknown where it is not positive. -/
  size : Rig δ → Size
  beginUpdates : Rig δ → Rig δ := id
  endUpdates : Rig δ → Rig δ := id
  /-- A renderer for an area, or none to leave the area as it is. -/
  renderer : Rig δ → Rect → Rig δ × Option Renderer
  resolutions : Rig δ → List Size := fun rig => [size rig]
  setResolution : Rig δ → Size → Rig δ × Except ScreenFault Unit :=
    fun rig size => (rig, .error (.unsupportedResolution size))
  special : Rig δ → List Value → Rig δ × Value := fun rig _ => (rig, .unsupported)
  /-- Shows a surface as the pointer, `hot` being the point in it that points; or shows none. -/
  setPointer : Rig δ → Option SurfaceId → Point → Rig δ := fun rig _ _ => rig

inductive Event
  | logged (entry : Log.Entry)
  | begun (output : OutputId)
  | ended (output : OutputId)
  | requested (output : OutputId) (area : Rect)
  | played (backend : Backend) (call : Call)
  /-- A widget tree was asked to draw in a region. -/
  | visited (region : Option Region) (replies : List Reply)
  deriving Inhabited

/-- The surfaces and the outputs, and all that has happened on them, oldest first. -/
structure Stage (δ : Type) where
  surfaces : Surfaces := {}
  outputs : Registry .output δ := {}
  events : List Event := []

namespace Stage

variable {δ : Type}

instance : Inhabited (Stage δ) := ⟨{}⟩

def record (s : Stage δ) (events : List Event) : Stage δ := { s with events := s.events ++ events }

def report (s : Stage δ) (entries : List Log.Entry) : Stage δ := s.record (entries.map .logged)

def play (s : Stage δ) (backend : Backend) (call : Call) : Stage δ :=
  { s.record [.played backend call] with surfaces := backend.play s.surfaces call }

def perform (s : Stage δ) (r : Renderer) : Stage δ :=
  r.calls.foldl (·.play r.backend ·) (s.report r.log)

def addOutput (s : Stage δ) (device : δ) : Stage δ := { s with outputs := s.outputs.add device }

/-- Lets an output act. One that is not there does nothing and gives the answer at hand. -/
def act {α : Type} (s : Stage δ) (id : OutputId) (otherwise : α) (f : Rig δ → Rig δ × α) :
    Stage δ × α :=
  match s.outputs.get? id with
  | none => (s, otherwise)
  | some device =>
      let (rig, result) := f { surfaces := s.surfaces, device }
      let changed := { s with surfaces := rig.surfaces, outputs := s.outputs.set id rig.device }
      (changed.report rig.log, result)

variable [Output δ]

def sizeOf (s : Stage δ) (id : OutputId) : Size :=
  (s.outputs.get? id).elim ⟨0, 0⟩ fun device => Output.size ⟨s.surfaces, device, []⟩

def resolutionsOf (s : Stage δ) (id : OutputId) : List Size :=
  (s.outputs.get? id).elim [] fun device => Output.resolutions ⟨s.surfaces, device, []⟩

def beginUpdates (s : Stage δ) (id : OutputId) : Stage δ :=
  ((s.record [.begun id]).act id () fun rig => (Output.beginUpdates rig, ())).1

def endUpdates (s : Stage δ) (id : OutputId) : Stage δ :=
  ((s.record [.ended id]).act id () fun rig => (Output.endUpdates rig, ())).1

def requestRenderer (s : Stage δ) (id : OutputId) (area : Rect) : Stage δ × Option Renderer :=
  (s.record [.requested id area]).act id none (Output.renderer · area)

def setResolution (s : Stage δ) (id : OutputId) (size : Size) :
    Stage δ × Except ScreenFault Unit :=
  s.act id (.error (.unsupportedResolution size)) (Output.setResolution · size)

def special (s : Stage δ) (id : OutputId) (arguments : List Value) : Stage δ × Value :=
  s.act id .unsupported (Output.special · arguments)

def setPointer (s : Stage δ) (id : OutputId) (image : Option SurfaceId) (hot : Point) : Stage δ :=
  (s.act id () fun rig => (Output.setPointer rig image hot, ())).1

end Stage

end Compositing
