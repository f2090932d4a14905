/-!
Points and rectangles on a 32-bit integer plane. A rectangle is half open and its far edges
saturate, so every operation is total on every input; sums of points wrap round instead.
-/

namespace Compositing

structure Point where
  x : Int32
  y : Int32
  deriving DecidableEq, Repr, Inhabited

def Point.origin : Point := ⟨0, 0⟩

instance : Add Point := ⟨fun p q => ⟨p.x + q.x, p.y + q.y⟩⟩

instance : Sub Point := ⟨fun p q => ⟨p.x - q.x, p.y - q.y⟩⟩

instance : Neg Point := ⟨fun p => ⟨-p.x, -p.y⟩⟩

structure Size where
  width : Int32
  height : Int32
  deriving DecidableEq, Repr, Inhabited

def Size.isUsable (size : Size) : Bool := 0 < size.width && 0 < size.height

def saturatingAdd (a b : Int32) : Int32 := Int32.ofIntClamp (a.toInt + b.toInt)

def saturatingSub (a b : Int32) : Int32 := Int32.ofIntClamp (a.toInt - b.toInt)

/-- The distance from `start` up to `stop`: none when `stop` comes first, and the largest
coordinate when it is longer than that. -/
def extent (start stop : Int32) : Int32 := Int32.ofIntClamp (max 0 (stop.toInt - start.toInt))

def coordinates (start stop : Int32) : List Int32 :=
  (List.range (stop.toInt - start.toInt).toNat).map fun i => start + Int32.ofNat i

structure Rect where
  x : Int32
  y : Int32
  width : Int32
  height : Int32
  deriving DecidableEq, Repr, Inhabited

namespace Rect

def zero : Rect := ⟨0, 0, 0, 0⟩

def ofSize (size : Size) : Rect := ⟨0, 0, size.width, size.height⟩

def corner (r : Rect) : Point := ⟨r.x, r.y⟩

def size (r : Rect) : Size := ⟨r.width, r.height⟩

def right (r : Rect) : Int32 := saturatingAdd r.x r.width

def bottom (r : Rect) : Int32 := saturatingAdd r.y r.height

def area (r : Rect) : Int64 := r.width.toInt64 * r.height.toInt64

def isEmpty (r : Rect) : Bool := r.width ≤ 0 || r.height ≤ 0

instance : Membership Point Rect :=
  ⟨fun r p => r.x ≤ p.x ∧ p.x < r.right ∧ r.y ≤ p.y ∧ p.y < r.bottom⟩

instance (p : Point) (r : Rect) : Decidable (p ∈ r) :=
  inferInstanceAs (Decidable (r.x ≤ p.x ∧ p.x < r.right ∧ r.y ≤ p.y ∧ p.y < r.bottom))

theorem mem_def (p : Point) (r : Rect) :
    p ∈ r ↔ r.x ≤ p.x ∧ p.x < r.right ∧ r.y ≤ p.y ∧ p.y < r.bottom := Iff.rfl

/-- Every edge of `b` lies on or inside the same edge of `a`. -/
def Encloses (a b : Rect) : Prop :=
  a.x ≤ b.x ∧ a.y ≤ b.y ∧ b.right ≤ a.right ∧ b.bottom ≤ a.bottom

instance (a b : Rect) : Decidable (a.Encloses b) :=
  inferInstanceAs (Decidable (a.x ≤ b.x ∧ a.y ≤ b.y ∧ b.right ≤ a.right ∧ b.bottom ≤ a.bottom))

def shift (r : Rect) (offset : Point) : Rect :=
  ⟨saturatingAdd r.x offset.x, saturatingAdd r.y offset.y, r.width, r.height⟩

def overlap (a b : Rect) : Rect :=
  let x := max a.x b.x
  let y := max a.y b.y
  ⟨x, y, extent x (min a.right b.right), extent y (min a.bottom b.bottom)⟩

/-- The rectangles share a point or an edge. -/
def Meets (a b : Rect) : Prop :=
  max a.x b.x ≤ min a.right b.right ∧ max a.y b.y ≤ min a.bottom b.bottom

instance (a b : Rect) : Decidable (a.Meets b) :=
  inferInstanceAs (Decidable
    (max a.x b.x ≤ min a.right b.right ∧ max a.y b.y ≤ min a.bottom b.bottom))

def hull (a b : Rect) : Rect :=
  let x := min a.x b.x
  let y := min a.y b.y
  ⟨x, y, extent x (max a.right b.right), extent y (max a.bottom b.bottom)⟩

/-- Painting the hull costs no more than painting both rectangles. -/
def worthMerging (a b : Rect) : Bool := (a.hull b).area ≤ a.area + b.area

def points (r : Rect) : List Point :=
  if r.isEmpty then [] else
    (coordinates r.y r.bottom).flatMap fun y => (coordinates r.x r.right).map fun x => ⟨x, y⟩

def describe (r : Rect) : String :=
  s!"Rect \x7b x: {r.x}, y: {r.y}, width: {r.width}, height: {r.height} \x7d"

end Rect

end Compositing
