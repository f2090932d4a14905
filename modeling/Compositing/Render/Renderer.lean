import Compositing.Buffer
import Compositing.Render.Call
import Compositing.Table

/-!
A renderer serves one pass over an output. It keeps a stack of regions, each with a clip inside
that of the region beneath, and turns drawing in the innermost region into calls for its backend,
which hold only what shows.
-/

namespace Compositing

structure Region where
  clip : Rect
  /-- Where the region's origin lies on the device. -/
  origin : Point
  deriving DecidableEq, Repr, Inhabited

/-- A region opened inside another, unless nothing of it would show. -/
def Region.within? (outer : Region) (area : Rect) (offset : Point) : Option Region :=
  let clip := (area.shift outer.origin).overlap outer.clip
  if clip.isEmpty then none
  else some ⟨clip, saturatingAdd outer.origin.x offset.x, saturatingAdd outer.origin.y offset.y⟩

structure Tally where
  blits : Nat := 0
  fills : Nat := 0
  skipped : Nat := 0
  deriving DecidableEq, Repr, Inhabited

instance : Add Tally := ⟨fun a b => ⟨a.blits + b.blits, a.fills + b.fills, a.skipped + b.skipped⟩⟩

inductive Phase
  | active
  | completed
  deriving DecidableEq, Repr, Inhabited

def Phase.name : Phase → String
  | active => "Active"
  | completed => "Completed"

structure Renderer where
  backend : Backend
  /-- The regions entered and not left, innermost first. -/
  regions : List Region := []
  /-- How many of them came with the renderer and are never left. -/
  baseline : Nat := 0
  options : Table String String := {}
  phase : Phase := .active
  tally : Tally := {}
  /-- The calls that the backend has yet to play, oldest first. -/
  calls : List Call := []
  /-- What there is to report, oldest first. -/
  log : List Log.Entry := []
  deriving Inhabited

namespace Renderer

def within (backend : Backend) (clip : Rect) (origin : Point) : Renderer :=
  { backend, regions := [⟨clip, origin⟩], baseline := 1 }

def depth (r : Renderer) : Nat := r.regions.length

def region? (r : Renderer) : Option Region := r.regions.head?

def report (r : Renderer) (entries : List Log.Entry) : Renderer := { r with log := r.log ++ entries }

/-- Enters a region, unless nothing of it would show. The first region is taken as it is. -/
def enter? (r : Renderer) (area : Rect) (offset : Point) : Option Renderer :=
  match r.regions with
  | [] => some { r with regions := [⟨area, offset⟩] }
  | outer :: _ => (outer.within? area offset).map fun inner => { r with regions := inner :: r.regions }

def leave (r : Renderer) : Except Fault Renderer :=
  if r.depth ≤ r.baseline then .error (.unmatchedLeave r.depth)
  else .ok { r with regions := r.regions.tail }

theorem depth_leave {r left : Renderer} (leaving : r.leave = .ok left) :
    left.depth + 1 = r.depth := by
  unfold leave at leaving
  split at leaving
  · cases leaving
  · cases leaving
    simp only [depth, List.length_tail] at *
    omega

def leaveOrReport (r : Renderer) : Renderer × Option Fault :=
  match r.leave with
  | .ok left => (left, none)
  | .error fault => (r.report fault.log, some fault)

/-- Leaves regions until fewer than `depth` are entered, or none is left to leave. -/
def unwind (r : Renderer) (depth : Nat) : Renderer :=
  if depth ≤ r.depth then
    match leaving : r.leave with
    | .ok left =>
        have := depth_leave leaving
        left.unwind depth
    | .error fault => r.report fault.log
  else r
termination_by r.depth

def place (r : Renderer) (area : Rect) : Rect :=
  match r.region? with
  | none => area
  | some region => area.shift region.origin

def visible (r : Renderer) (area : Rect) : Rect :=
  match r.region? with
  | none => area
  | some region => (area.shift region.origin).overlap region.clip

/-- Sends on what shows of a rectangle, or counts it as skipped. A completed renderer draws
nothing. -/
def dispatch (r : Renderer) (area : Rect) (count : Tally) (call : Rect → Call) : Renderer :=
  if r.phase = .completed then
    r.report [⟨.error, .renderer, "draw issued on a completed renderer", []⟩]
  else
    let visible := r.visible area
    if visible.isEmpty then { r with tally := r.tally + { skipped := 1 } }
    else { r with tally := r.tally + count, calls := r.calls ++ [call visible] }

def blit (r : Renderer) (operator : Operator) (buffer : Buffer) (corner : Point) : Renderer :=
  let area : Rect := ⟨corner.x, corner.y, buffer.size.width, buffer.size.height⟩
  let whole := r.place area
  r.dispatch area { blits := 1 } fun visible =>
    .compose operator buffer.surface whole.corner
      ⟨saturatingSub visible.x whole.x, saturatingSub visible.y whole.y,
        visible.width, visible.height⟩

def fill (r : Renderer) (color : Color) (area : Rect) : Renderer :=
  r.dispatch area { fills := 1 } (.fill color)

def setOption (r : Renderer) (key : String) (value : Option String) : Renderer :=
  match value with
  | some value => { r with options := r.options.insert key value }
  | none => { r with options := r.options.erase key }

def option? (r : Renderer) (key : String) : Option String := r.options.get? key

/-- Ends the pass. Doing so again only reports it. -/
def complete (r : Renderer) : Renderer :=
  match r.phase with
  | .completed => r.report [⟨.warn, .renderer, "renderer completed twice", []⟩]
  | .active =>
      let entered : List Log.Entry :=
        if r.depth = r.baseline then [] else
          [⟨.warn, .renderer, "renderer completed with regions still entered",
            [("open", toString (r.depth - r.baseline))]⟩]
      { r with phase := .completed, calls := r.calls ++ [.complete], log := r.log ++ entered }

/-- What is reported when the renderer is given up. -/
def discardLog (r : Renderer) : List Log.Entry :=
  match r.phase with
  | .completed => []
  | .active => [⟨.warn, .renderer, "renderer destroyed without complete; output undefined", []⟩]

end Renderer

end Compositing
