import Compositing.Damage
import Compositing.Registry
import Compositing.Table

/-!
The desktop: where each viewport lies, lowest id first.
-/

namespace Compositing

structure Desktop where
  places : Table ViewportId Rect := {}
  deriving Inhabited

namespace Desktop

def put (d : Desktop) (id : ViewportId) (bounds : Rect) : Desktop := ⟨d.places.insert id bounds⟩

def remove (d : Desktop) (id : ViewportId) : Desktop := ⟨d.places.erase id⟩

def hull? (d : Desktop) : Option Rect := Damage.hullOf d.places.values

/-- Holds a coordinate between two others, which have to be in order. -/
def clamp? (value low high : Int32) : Option Int32 :=
  if high < low then none else if value < low then low else if high < value then high else value

/-- The point of a rectangle nearest to `p`. There is none in a rectangle whose far edge cannot
lie beyond its near one. -/
def nearestIn? (r : Rect) (p : Point) : Option Point := do
  return ⟨← clamp? p.x r.x (r.right - 1), ← clamp? p.y r.y (r.bottom - 1)⟩

def distance (p q : Point) : Int64 :=
  let dx := (q.x - p.x).toInt64
  let dy := (q.y - p.y).toInt64
  dx * dx + dy * dy

/-- Searches the rectangles for the point nearest to `p`, the earlier of two at one distance, and
stops at a rectangle that holds `p` itself. -/
def nearest? (p : Point) (best : Option (Point × Int64)) : List Rect → Option Point
  | [] => some (best.elim p (·.1))
  | r :: rest => do
      let q ← nearestIn? r p
      let away := distance p q
      if away = 0 then
        return p
      if best.all (away < ·.2) then nearest? p (some (q, away)) rest else nearest? p best rest

/-- The point of the desktop nearest to `p`, or `p` itself when the desktop is empty. -/
def confine? (d : Desktop) (p : Point) : Option Point :=
  nearest? p none (d.places.values.filter fun r => !r.isEmpty)

end Desktop

end Compositing
