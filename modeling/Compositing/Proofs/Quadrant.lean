import Compositing.Proofs.Fitting
import Compositing.Proofs.Nesting
import Compositing.Proofs.Painting

/-! What a painter sees of its clip from its own origin, to the right of it and below. Places are
held at the ends of the plane on their way there; but the clip of an open painter ends on the plane,
so that nothing is seen that is not there and nothing is missed. -/

namespace Compositing

def Point.InQuadrant (q : Point) : Prop :=
  (0 ≤ q.x ∧ q.x < Int32.maxValue) ∧ 0 ≤ q.y ∧ q.y < Int32.maxValue

instance (q : Point) : Decidable q.InQuadrant := inferInstanceAs (Decidable ((_ ∧ _) ∧ _ ∧ _))

namespace Rect

def quadrant : Rect := ⟨0, 0, Int32.maxValue, Int32.maxValue⟩

theorem mem_quadrant {q : Point} : q ∈ quadrant ↔ q.InQuadrant := by
  rw [mem_def, right, bottom, quadrant, zero_saturatingAdd, Point.InQuadrant, and_assoc]

theorem EndsOnPlane.overlap (a b : Rect) : (a.overlap b).EndsOnPlane := by
  have across := toInt_bounds a.right
  have down := toInt_bounds a.bottom
  have left := toInt_bounds (a.overlap b).x
  have top := toInt_bounds (a.overlap b).y
  constructor
  · rw [toInt_overlap_width]
    rw [toInt_overlap_x] at left ⊢
    omega
  · rw [toInt_overlap_height]
    rw [toInt_overlap_y] at top ⊢
    omega

theorem EndsOnPlane.holdsPair_iff {r : Rect} (ends : r.EndsOnPlane) {x y : Int} :
    r.HoldsPair x y ↔ ∃ place ∈ r, place.x.toInt = x ∧ place.y.toInt = y := by
  have left := toInt_bounds r.x
  have top := toInt_bounds r.y
  constructor
  · intro holds
    rcases ends with ⟨across, down⟩
    rcases holds with ⟨horizontal, vertical⟩
    have column : (Int32.ofIntClamp x).toInt = x := by
      rw [toInt_ofIntClamp]
      omega
    have row : (Int32.ofIntClamp y).toInt = y := by
      rw [toInt_ofIntClamp]
      omega
    refine ⟨⟨Int32.ofIntClamp x, Int32.ofIntClamp y⟩, ?_, column, row⟩
    rw [mem_axes, column, row, right, bottom, toInt_saturatingAdd, toInt_saturatingAdd]
    omega
  · intro there
    rcases there with ⟨place, inside, rfl, rfl⟩
    have across := right_bounds r
    have down := bottom_bounds r
    rw [mem_toInt] at inside
    rw [HoldsPair]
    omega

/-- What is after an origin of a rectangle, seen from there. -/
def seenFrom (r : Rect) (origin : Point) : Rect := (r.shift (-origin)).overlap quadrant

theorem mem_seenFrom {r : Rect} {origin q : Point} (across : origin.x ≠ Int32.minValue)
    (down : origin.y ≠ Int32.minValue) :
    q ∈ r.seenFrom origin ↔
      q.InQuadrant ∧ r.HoldsPair (q.x.toInt + origin.x.toInt) (q.y.toInt + origin.y.toInt) := by
  rw [seenFrom, mem_overlap, mem_quadrant, and_comm]
  apply and_congr_right
  intro seen
  have right : 0 ≤ q.x.toInt := Int32.le_iff_toInt_le.mp seen.1.1
  have below : 0 ≤ q.y.toInt := Int32.le_iff_toInt_le.mp seen.2.1
  have back : (-origin).x.toInt = -origin.x.toInt := toInt_neg_of_fits origin.x across
  have up : (-origin).y.toInt = -origin.y.toInt := toInt_neg_of_fits origin.y down
  rw [mem_shift_iff (mem_quadrant.mpr seen) right below, back, up, sub_neg_eq_add, sub_neg_eq_add]

theorem seenFrom_isEmpty_iff {r : Rect} {origin : Point} :
    (r.seenFrom origin).isEmpty = true ↔ ∀ q, q ∉ r.seenFrom origin := by
  rw [seenFrom, overlap_isEmpty_iff_forall]
  simp only [mem_overlap, not_and]

theorem seenFrom_isEmpty {r : Rect} (empty : r.isEmpty = true) (origin : Point) :
    (r.seenFrom origin).isEmpty = true := overlap_isEmpty_of_left empty

end Rect

namespace Painter

/-- The clip holds the point where it lies when it is counted on from the origin. -/
def Sees (p : Painter) (q : Point) : Prop :=
  ∃ place ∈ p.clip, place.x.toInt = q.x.toInt + p.frame.origin.x.toInt ∧
    place.y.toInt = q.y.toInt + p.frame.origin.y.toInt

def Frame.Ends (f : Frame) : Prop := ∃ clip, f.clip = some clip ∧ clip.EndsOnPlane

theorem Frame.ends_collapse (f : Frame) {r : Rect} (ends : r.EndsOnPlane) :
    { f with clip := some (collapse r) }.Ends := by
  have left := (toInt_bounds r.x).2
  have top := (toInt_bounds r.y).2
  refine ⟨_, rfl, ?_⟩
  rw [collapse]
  split
  · constructor
    · dsimp only
      rw [toInt_zero]
      omega
    · dsimp only
      rw [toInt_zero]
      omega
  · exact ends

theorem Frame.Ends.narrowed {f : Frame} (ends : f.Ends) (r : Rect) :
    { f with clip := some (f.narrowed r) }.Ends := by
  rcases ends with ⟨clip, active, _⟩
  rw [Frame.narrowed, active]
  exact f.ends_collapse (.overlap clip r)

theorem attach_ends (id : BufferId) (surface : SurfaceId) (size : Size) :
    (attach id surface size).Above Frame.Ends [] :=
  ⟨Frame.ends_collapse {} (.ofSize size), [], rfl, by simp⟩

section Local

variable {p : Painter} {clip : Rect} (active : p.frame.clip = some clip)

include active

/-- A clip of which nothing is left need not be looked at apart: nothing of it is seen. -/
theorem localClip?_eq :
    p.localClip? = if (clip.seenFrom p.frame.origin).isEmpty then none
      else some (clip.seenFrom p.frame.origin) := by
  have same : p.clip = clip := by rw [Painter.clip, active, Option.getD_some]
  have shut : p.isFullyClipped = clip.isEmpty := by rw [isFullyClipped, active, Option.any_some]
  rw [localClip?, shut, same]
  cases empty : clip.isEmpty with
  | true => rw [if_pos rfl, if_pos (Rect.seenFrom_isEmpty empty p.frame.origin)]
  | false =>
      rw [if_neg (by decide)]
      rfl

theorem localClip?_eq_none_iff :
    p.localClip? = none ↔ ∀ q, q ∉ clip.seenFrom p.frame.origin := by
  rw [localClip?_eq active, ← Rect.seenFrom_isEmpty_iff]
  split <;> simp_all

theorem mem_localClip?_iff {q : Point} :
    (∃ visible, p.localClip? = some visible ∧ q ∈ visible) ↔ q ∈ clip.seenFrom p.frame.origin := by
  rw [localClip?_eq active]
  split
  · rename_i empty
    simp [Rect.not_mem_of_isEmpty empty q]
  · simp

theorem mem_seenFrom_iff_sees (ends : clip.EndsOnPlane)
    (across : p.frame.origin.x ≠ Int32.minValue) (down : p.frame.origin.y ≠ Int32.minValue)
    {q : Point} : q ∈ clip.seenFrom p.frame.origin ↔ q.InQuadrant ∧ p.Sees q := by
  have same : p.clip = clip := by rw [Painter.clip, active, Option.getD_some]
  rw [Rect.mem_seenFrom across down, ends.holdsPair_iff, Sees, same]

end Local

end Painter

namespace Studio

theorem Leads.painters {motive : Painter → Prop}
    (attach : ∀ id surface size, motive (.attach id surface size))
    (answer : ∀ p request after, motive p → p.answer request = .ok after → motive after)
    {first later : Scene} (leads : Leads first later) (each : first.1.painters.Each motive) :
    later.1.painters.Each motive := by
  induction leads with
  | refl => exact each
  | @tail middle after _ follows ih =>
      cases follows with
      | perform operation =>
          have free : operation.Asks fun _ => True := by cases operation <;> trivial
          exact perform_painters attach (fun p request after holds _ => answer p request after holds)
            ih middle.2 free
      | adopt b unused => exact ih

/-- What an open painter tells of its clip from its own origin is exactly what lies there, right of
the origin and below, and it tells of nothing exactly when nothing does. Its origin may lie anywhere
but at the least coordinates, of which there is no negative. -/
theorem localClip_is_visible_quadrant {surfaces : Surfaces} {scene : Scene}
    (reached : Leads ({}, surfaces) scene) {painter : PainterId} {p : Painter}
    (opened : scene.1.painters.get? painter = some p) (across : p.frame.origin.x ≠ Int32.minValue)
    (down : p.frame.origin.y ≠ Int32.minValue) :
    (∀ q : Point, q.InQuadrant →
        ((∃ visible, p.localClip? = some visible ∧ q ∈ visible) ↔ p.Sees q)) ∧
      (p.localClip? = none ↔ ¬ ∃ q : Point, q.InQuadrant ∧ p.Sees q) := by
  have each : scene.1.painters.Each fun p => p.Above Painter.Frame.Ends [] := by
    refine reached.painters Painter.attach_ends ?_ ?_
    · intro p request after above answered
      exact above.answer (fun _ _ _ ends => ends) (fun _ r ends => ends.narrowed r) answered
    · intro id p found
      cases found
  rcases (each painter p opened).1 with ⟨clip, active, ends⟩
  have visible (q : Point) : q ∈ clip.seenFrom p.frame.origin ↔ q.InQuadrant ∧ p.Sees q :=
    Painter.mem_seenFrom_iff_sees active ends across down
  constructor
  · intro q seen
    rw [Painter.mem_localClip?_iff active, visible]
    exact and_iff_right seen
  · rw [Painter.localClip?_eq_none_iff active, not_exists]
    exact forall_congr' fun q => not_congr (visible q)

/-- Two painters on one buffer, of which one has its origin in the middle of its clip and above, the
other so far to the left that no place on the plane is as far from it as the buffer. -/
def askew : List Operation :=
  [.create .argb32 ⟨20, 20⟩, .openPainter ⟨0⟩, .ask ⟨0⟩ (.clipTo ⟨4, 4, 30, 30⟩),
    .ask ⟨0⟩ (.placeOrigin ⟨9, -6⟩), .openPainter ⟨0⟩, .ask ⟨1⟩ (.clipTo ⟨4, 4, 30, 30⟩),
    .ask ⟨1⟩ (.placeOrigin ⟨-2147483647, -6⟩)]

theorem localClip_is_visible_quadrant_askew :
    let scene := performAll ({}, {}) askew
    (∃ p, scene.1.painters.get? ⟨0⟩ = some p ∧ p.clip = ⟨4, 4, 16, 16⟩ ∧
      p.localClip? = some ⟨0, 10, 11, 16⟩ ∧ p.Sees ⟨10, 25⟩ ∧ ¬ p.Sees ⟨11, 25⟩) ∧
      ∃ p, scene.1.painters.get? ⟨1⟩ = some p ∧ p.clip = ⟨4, 4, 16, 16⟩ ∧
        p.localClip? = none ∧ ¬ ∃ q : Point, q.InQuadrant ∧ p.Sees q := by
  intro scene
  have reached : Leads ({}, {}) scene := Leads.performAll ({}, {}) askew
  obtain ⟨p, opened, clip, visible, across, down⟩ : ∃ p, scene.1.painters.get? ⟨0⟩ = some p ∧
      p.clip = ⟨4, 4, 16, 16⟩ ∧ p.localClip? = some ⟨0, 10, 11, 16⟩ ∧
      p.frame.origin.x ≠ Int32.minValue ∧ p.frame.origin.y ≠ Int32.minValue :=
    ⟨_, rfl, by decide +kernel, by decide +kernel, by decide +kernel, by decide +kernel⟩
  obtain ⟨far, held, narrowed, hidden, left, above⟩ : ∃ p, scene.1.painters.get? ⟨1⟩ = some p ∧
      p.clip = ⟨4, 4, 16, 16⟩ ∧ p.localClip? = none ∧
      p.frame.origin.x ≠ Int32.minValue ∧ p.frame.origin.y ≠ Int32.minValue :=
    ⟨_, rfl, by decide +kernel, by decide +kernel, by decide +kernel, by decide +kernel⟩
  rcases localClip_is_visible_quadrant reached opened across down with ⟨points, _⟩
  rcases localClip_is_visible_quadrant reached held left above with ⟨_, nothing⟩
  refine ⟨⟨p, opened, clip, visible, ?_, ?_⟩, far, held, narrowed, hidden, nothing.mp hidden⟩
  · exact (points ⟨10, 25⟩ (by decide)).mp ⟨_, visible, by decide⟩
  · intro sees
    rcases (points ⟨11, 25⟩ (by decide)).mpr sees with ⟨r, same, inside⟩
    rw [visible] at same
    cases same
    exact absurd inside (by decide)

end Studio

end Compositing
