import Compositing.Damage
import Compositing.Output.Basic

/-!
A viewport shows a rectangle of the desktop on an output. Damage waits in it for a timer, so that
what is damaged in quick succession is painted in one batch.
-/

namespace Compositing

structure Config where
  /-- The ticks from the first damage to the redraw. -/
  delay : Nat
  /-- The size on outputs that know none. -/
  fallback : Size := ⟨800, 600⟩
  deriving DecidableEq, Repr, Inhabited

structure Report where
  /-- Damaged rectangles after merging. -/
  rects : Nat := 0
  passes : Nat := 0
  /-- Rectangles for which the output gave no renderer. -/
  dropped : Nat := 0
  tally : Tally := {}
  deriving DecidableEq, Repr, Inhabited

structure Viewport where
  id : ViewportId
  /-- The rectangle of the desktop that is shown. -/
  bounds : Rect
  output : OutputId
  delay : Nat
  damage : Damage := {}
  /-- The timer of the redraw to come. -/
  pending : Option TimerId := none
  deriving DecidableEq, Repr, Inhabited

namespace Viewport

variable {δ : Type} [Output δ]

def create (id : ViewportId) (output : OutputId) (stage : Stage δ) (config : Config) : Viewport :=
  let size := stage.sizeOf output
  { id, output, delay := config.delay,
    bounds := .ofSize (if size.isUsable then size else config.fallback) }

/-- Adds damage, and starts a timer unless one is pending. An empty rectangle is no damage. Returns
the timer only when a new one was started. -/
def invalidate (v : Viewport) (timers : Timers) (r : Rect) : Viewport × Timers × Option TimerId :=
  if r.isEmpty then (v, timers, none) else
    let damaged := { v with damage := v.damage.add r }
    if v.pending.isSome then (damaged, timers, none) else
      let timer := timers.nextId
      ({ damaged with pending := some timer }, timers.start v.delay, some timer)

/-- Forgets the pending redraw, stopping its timer unless that has fired, and returns the timer.
Damage is kept. -/
def cancel (v : Viewport) (timers : Timers) :
    Except ScreenFault (Viewport × Timers × Option TimerId) :=
  match v.pending with
  | none => .ok (v, timers, none)
  | some timer =>
      let idle := { v with pending := none }
      if timers.isActive timer then
        match timers.stop timer with
        | .ok stopped => .ok (idle, stopped, some timer)
        | .error fault => .error (.timer fault)
      else .ok (idle, timers, some timer)

/-- The area of the output, which is as large as the viewport when the output does not know. -/
def outputArea (v : Viewport) (stage : Stage δ) : Rect :=
  let size := stage.sizeOf v.output
  .ofSize (if size.isUsable then size else v.bounds.size)

def deviceArea? (v : Viewport) (output : Rect) (r : Rect) : Option Rect :=
  let shown := r.overlap v.bounds
  if shown.isEmpty then none else
    let device := (shown.shift (-v.bounds.corner)).overlap output
    if device.isEmpty then none else some device

/-- Lets the tree draw in a region of desktop coordinates, and leaves all that it entered. -/
def visit (v : Viewport) (tree : Tree) (studio : Studio) (r : Renderer) (area : Rect) :
    Renderer × List Event :=
  match r.enter? area (-v.bounds.corner) with
  | none => (r, [])
  | some entered =>
      let (drawn, replies) := Step.runAll studio entered (tree entered studio)
      let unbalanced : List Log.Entry :=
        if drawn.depth = entered.depth then [] else
          [⟨.warn, .viewport, "render tree left regions unbalanced",
            [("expected", toString entered.depth), ("actual", toString drawn.depth)]⟩]
      ((drawn.report unbalanced).unwind entered.depth, [.visited entered.region? replies])

def repaint (v : Viewport) (tree : Tree) (studio : Studio) (output : Rect)
    (progress : Stage δ × Report) (r : Rect) : Stage δ × Report :=
  match v.deviceArea? output r with
  | none => progress
  | some area =>
      let (stage, report) := progress
      match stage.requestRenderer v.output area with
      | (stage, none) =>
          let refused : Log.Entry := ⟨.warn, .viewport, "driver returned no renderer",
            [("device", area.describe)]⟩
          (stage.report [refused], { report with dropped := report.dropped + 1 })
      | (stage, some renderer) =>
          let (drawn, visits) := v.visit tree studio renderer area
          let done := drawn.complete
          ((stage.record visits).perform done,
            { report with passes := report.passes + 1, tally := report.tally + done.tally })

/-- Paints all damage in one batch. A redraw that was still to come is cancelled. -/
def update (v : Viewport) (tree : Tree) (studio : Studio) (timers : Timers) (stage : Stage δ) :
    Except ScreenFault (Viewport × Timers × Stage δ × Report) := do
  let (v, timers, _) ← v.cancel timers
  if v.damage.isEmpty then
    return (v, timers, stage, {})
  let rects := v.damage.coalesce.rects
  let output := v.outputArea stage
  let (stage, report) := rects.foldl (v.repaint tree studio output)
    (stage.beginUpdates v.output, { rects := rects.length })
  return ({ v with damage := {} }, timers, stage.endUpdates v.output, report)

section Rebound

variable {σ : Type} (v : Viewport) (timers : Timers) (hear : ViewportId → Rect → σ)

def rebound (bounds : Rect) : σ × Viewport × Timers × Option TimerId :=
  let v := { v with bounds }
  (hear v.id v.bounds, v.invalidate timers v.bounds)

def setSize (size : Size) : σ × Viewport × Timers × Option TimerId :=
  v.rebound timers hear ⟨v.bounds.x, v.bounds.y, size.width, size.height⟩

def moveTo (corner : Point) : σ × Viewport × Timers × Option TimerId :=
  v.rebound timers hear ⟨corner.x, corner.y, v.bounds.width, v.bounds.height⟩

def setResolution (stage : Stage δ) (size : Size) :
    Stage δ × Except ScreenFault (σ × Viewport × Timers × Option TimerId) :=
  let (stage, result) := stage.setResolution v.output size
  (stage, result.map fun _ => v.setSize timers hear size)

end Rebound

end Viewport

end Compositing
