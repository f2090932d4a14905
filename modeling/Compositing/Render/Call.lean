import Compositing.Brush

/-!
What a renderer asks of a backend: drawing that is already moved to device coordinates and
clipped. A surface backend plays it onto its surface; a device backend stands for an output
beyond this library.
-/

namespace Compositing

inductive Backend
  | surface (target : SurfaceId)
  | device (number : Nat)
  deriving DecidableEq, Repr, Inhabited

inductive Call
  /-- Draw the visible part of a surface whose corner lies at a point. -/
  | compose (operator : Operator) (source : SurfaceId) (place : Point) (visible : Rect)
  | fill (color : Color) (area : Rect)
  | complete
  deriving Inhabited

def Backend.play (backend : Backend) (surfaces : Surfaces) (call : Call) : Surfaces :=
  match backend, call with
  | .surface target, .compose operator source place visible =>
      (Brush.mk target { operator } []).compose surfaces source (place + visible.corner) visible
  | .surface target, .fill color area => (Brush.mk target {} []).fill surfaces color area
  | _, _ => surfaces

end Compositing
