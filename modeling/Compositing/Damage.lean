import Compositing.Geometry.Separate

/-!
Damage: the rectangles waiting to be painted again, in the order in which they were reported.
-/

namespace Compositing

structure Damage where
  rects : List Rect := []
  deriving DecidableEq, Repr, Inhabited

namespace Damage

def isEmpty (d : Damage) : Bool := d.rects.isEmpty

def add (d : Damage) (r : Rect) : Damage := ⟨d.rects ++ [r]⟩

/-- Merges what meets, so that each point is painted once. -/
def coalesce (d : Damage) : Damage := ⟨Rect.separate d.rects⟩

def hullOf : List Rect → Option Rect
  | [] => none
  | r :: rest => some (rest.foldl Rect.hull r)

def hull? (d : Damage) : Option Rect := hullOf d.rects

end Damage

end Compositing
