import Compositing.Desktop
import Compositing.Viewport

/-!
A screen owns viewports and all that they show: it spreads damage over the viewports that it
touches, turns timers that fire into redraws, and keeps the pointer on the desktop.
-/

namespace Compositing

structure Screen where
  config : Config
  /-- The widget tree that the viewports show. -/
  root : Tree
  viewports : Registry .viewport Viewport := {}
  desktop : Desktop := {}
  timers : Timers := {}
  /-- The viewport that each timer belongs to. -/
  pending : Table TimerId ViewportId := {}
  studio : Studio := {}
  pointer : Point := .origin

namespace Screen

variable {δ : Type} [Output δ]

abbrev Reports := List (ViewportId × Report)

/-- Puts a viewport back after a change, and enters the timer that this started as its own. -/
def settle (s : Screen) (changed : Viewport × Timers × Option TimerId) : Screen :=
  let (v, timers, started) := changed
  let pending := match started with
    | some timer => s.pending.insert timer v.id
    | none => s.pending
  { s with timers, pending, viewports := s.viewports.set v.id v }

def damageViewport (s : Screen) (v : Viewport) (r : Rect) : Screen :=
  s.settle (v.invalidate s.timers r)

/-- Adds a viewport on an output at the desktop's origin, to be painted as a whole. -/
def attach (s : Screen) (stage : Stage δ) (output : OutputId) : Screen × ViewportId :=
  let id := s.viewports.nextKey
  let v := Viewport.create id output stage s.config
  let s := { s with viewports := s.viewports.add v, desktop := s.desktop.put id v.bounds }
  (s.damageViewport v v.bounds, id)

def find (s : Screen) (id : ViewportId) : Except ScreenFault Viewport :=
  match s.viewports.get? id with
  | some v => .ok v
  | none => .error (.unknownViewport id)

def cancel (s : Screen) (v : Viewport) : Except ScreenFault (Screen × Viewport) := do
  let (idle, timers, cancelled) ← v.cancel s.timers
  let pending := match cancelled with
    | some timer => s.pending.erase timer
    | none => s.pending
  return ({ s with timers, pending, viewports := s.viewports.set v.id idle }, idle)

def detach (s : Screen) (id : ViewportId) : Except ScreenFault (Screen × Viewport) := do
  let v ← s.find id
  let (s, idle) ← s.cancel v
  return ({ s with viewports := s.viewports.remove id, desktop := s.desktop.remove id }, idle)

def touched (s : Screen) (r : Rect) : List Viewport :=
  (s.viewports.toList.map (·.2)).filter fun v => !(r.overlap v.bounds).isEmpty

def invalidate (s : Screen) (r : Rect) : Screen × Nat :=
  ((s.touched r).foldl (fun s v => s.damageViewport v r) s, (s.touched r).length)

def setRoot (s : Screen) (root : Tree) : Screen :=
  let s := { s with root }
  match s.desktop.hull? with
  | some hull => (s.invalidate hull).1
  | none => s

def rebound (s : Screen) (changed : Desktop × Viewport × Timers × Option TimerId) : Screen :=
  { s with desktop := changed.1 }.settle changed.2

def setSize (s : Screen) (id : ViewportId) (size : Size) : Except ScreenFault Screen := do
  let v ← s.find id
  return s.rebound (v.setSize s.timers s.desktop.put size)

def moveTo (s : Screen) (id : ViewportId) (corner : Point) : Except ScreenFault Screen := do
  let v ← s.find id
  return s.rebound (v.moveTo s.timers s.desktop.put corner)

def setResolution (s : Screen) (stage : Stage δ) (id : ViewportId) (size : Size) :
    Stage δ × Except ScreenFault Screen :=
  match s.find id with
  | .error fault => (stage, .error fault)
  | .ok v =>
      let (stage, changed) := v.setResolution s.timers s.desktop.put stage size
      (stage, changed.map s.rebound)

def untilNext (s : Screen) : Option Nat := s.timers.untilNext

def redraw (s : Screen) (stage : Stage δ) (v : Viewport) :
    Except ScreenFault (Screen × Stage δ × Report) := do
  let (v, timers, stage, report) ← v.update s.root s.studio s.timers stage
  return ({ s with timers, viewports := s.viewports.set v.id v }, stage, report)

/-- Redraws the viewport of a timer that has fired, if it is still waiting for that timer. -/
def answerTimer (progress : Screen × Stage δ × Reports) (timer : TimerId) :
    Except ScreenFault (Screen × Stage δ × Reports) := do
  let (s, stage, reports) := progress
  let some id := s.pending.get? timer | return progress
  let s := { s with pending := s.pending.erase timer }
  let some v := s.viewports.get? id | return (s, stage, reports)
  if v.pending ≠ some timer then
    return (s, stage, reports)
  let (s, stage, report) ← s.redraw stage v
  return (s, stage, reports ++ [(id, report)])

def processTimers (s : Screen) (stage : Stage δ) (instant : Nat) :
    Except ScreenFault (Screen × Stage δ × Reports) :=
  (s.timers.dueBy instant).foldlM answerTimer
    ({ s with timers := s.timers.expire instant }, stage, [])

def flushViewport (progress : Screen × Stage δ × Reports) (id : ViewportId) :
    Except ScreenFault (Screen × Stage δ × Reports) := do
  let (s, stage, reports) := progress
  let some v := s.viewports.get? id | return progress
  let (s, idle) ← s.cancel v
  if idle.damage.isEmpty then
    return (s, stage, reports)
  let (s, stage, report) ← s.redraw stage idle
  return (s, stage, reports ++ [(id, report)])

def flush (s : Screen) (stage : Stage δ) : Except ScreenFault (Screen × Stage δ × Reports) :=
  s.viewports.keys.foldlM flushViewport (s, stage, [])

def movePointer? (s : Screen) (p : Point) : Option Screen :=
  (s.desktop.confine? p).map fun pointer => { s with pointer }

def setPointerImage (s : Screen) (stage : Stage δ) (image : Option BufferId) (hot : Point) :
    Except ScreenFault (Stage δ) :=
  let outputs := s.viewports.toList.map (·.2.output)
  let install (surface : Option SurfaceId) : Stage δ :=
    outputs.foldl (fun stage output => stage.setPointer output surface hot) stage
  match image with
  | none => .ok (install none)
  | some id =>
      match s.studio.buffers.get? id with
      | some buffer => .ok (install (some buffer.surface))
      | none => .error (.misuse .deadBuffer)

end Screen

end Compositing
