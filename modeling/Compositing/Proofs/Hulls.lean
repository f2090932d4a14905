import Compositing.Proofs.LeastCover

/-! How long a hull can be relied on: as long as its sides can be counted. Areas are counted with
twice as many digits, so that no pair of rectangles is too large to be compared. -/

namespace Compositing

namespace Rect

section Pair

variable {a b : Rect}

theorem hull_encloses_iff :
    (a.hull b).Encloses a ∧ (a.hull b).Encloses b ↔
      max a.right.toInt b.right.toInt - min a.x.toInt b.x.toInt ≤ Int32.maxValue.toInt ∧
        max a.bottom.toInt b.bottom.toInt - min a.y.toInt b.y.toInt ≤ Int32.maxValue.toInt := by
  have largest : Int32.maxValue.toInt = 2147483647 := rfl
  rw [encloses_toInt, encloses_toInt, toInt_hull_x, toInt_hull_y, toInt_hull_right,
    toInt_hull_bottom, largest]
  omega

theorem hull_upright (a b : Rect) : 0 ≤ (a.hull b).width ∧ 0 ≤ (a.hull b).height := by
  rw [Int32.le_iff_toInt_le, Int32.le_iff_toInt_le, toInt_zero, toInt_hull_width,
    toInt_hull_height]
  omega

end Pair

section Area

variable {a b : Rect}

theorem area_bounds (upright : 0 ≤ a.width ∧ 0 ≤ a.height) :
    0 ≤ a.width.toInt * a.height.toInt ∧
      a.width.toInt * a.height.toInt ≤ 2147483647 * 2147483647 := by
  have wide := Int32.le_iff_toInt_le.mp upright.1
  have high := Int32.le_iff_toInt_le.mp upright.2
  exact ⟨Int.mul_nonneg wide high,
    Int.mul_le_mul (toInt_bounds a.width).2 (toInt_bounds a.height).2 high (by decide)⟩

theorem toInt_area (upright : 0 ≤ a.width ∧ 0 ≤ a.height) :
    a.area.toInt = a.width.toInt * a.height.toInt := by
  have bounds := area_bounds upright
  rw [area, Int64.toInt_mul, Int32.toInt_toInt64, Int32.toInt_toInt64, Int.bmod_eq_of_le] <;> omega

variable (first : 0 ≤ a.width ∧ 0 ≤ a.height) (second : 0 ≤ b.width ∧ 0 ≤ b.height)

include first second

theorem toInt_area_add : (a.area + b.area).toInt = a.area.toInt + b.area.toInt := by
  have bounds := area_bounds first
  have others := area_bounds second
  rw [← toInt_area first] at bounds
  rw [← toInt_area second] at others
  rw [Int64.toInt_add, Int.bmod_eq_of_le] <;> omega

theorem worthMerging_iff :
    a.worthMerging b ↔ (a.hull b).width.toInt * (a.hull b).height.toInt ≤
      a.width.toInt * a.height.toInt + b.width.toInt * b.height.toInt := by
  rw [worthMerging, decide_eq_true_iff, Int64.le_iff_toInt_le, toInt_area (hull_upright a b),
    toInt_area_add first second, toInt_area first, toInt_area second]

end Area

/-- The order in which several rectangles are put into one hull, two at a time. -/
inductive Grouping
  | one (r : Rect)
  | both (first second : Grouping)

namespace Grouping

def rects : Grouping → List Rect
  | one r => [r]
  | both first second => first.rects ++ second.rects

def hull : Grouping → Rect
  | one r => r
  | both first second => first.hull.hull second.hull

end Grouping

section Grouping

variable {left top : Int}

theorem foldl_hull_hull {rects : List Rect} (ordered : ∀ r ∈ rects, r.OrderedIn left top)
    {a b : Rect} (first : a.OrderedIn left top) (second : b.OrderedIn left top) :
    rects.foldl hull (a.hull b) = a.hull (rects.foldl hull b) := by
  induction rects generalizing b with
  | nil => rfl
  | cons r rest ih =>
      rcases List.forall_mem_cons.mp ordered with ⟨third, others⟩
      rw [List.foldl_cons, List.foldl_cons, first.hull_assoc second third,
        ih others (second.hull third)]

theorem hullOf_append {rects others : List Rect}
    (ordered : ∀ r ∈ rects ++ others, r.OrderedIn left top) {a b : Rect}
    (first : a.OrderedIn left top) (early : Damage.hullOf rects = some a)
    (late : Damage.hullOf others = some b) :
    Damage.hullOf (rects ++ others) = some (a.hull b) := by
  cases rects with
  | nil => cases early
  | cons r rest =>
      cases others with
      | nil => cases late
      | cons s rest' =>
          cases early
          cases late
          rcases List.forall_mem_append.mp ordered with ⟨_, later⟩
          rcases List.forall_mem_cons.mp later with ⟨second, later⟩
          change some ((rest ++ s :: rest').foldl hull r) = _
          rw [List.foldl_append, List.foldl_cons, foldl_hull_hull later first second]

theorem Grouping.hull_orderedIn (g : Grouping) (ordered : ∀ r ∈ g.rects, r.OrderedIn left top) :
    g.hull.OrderedIn left top := by
  induction g with
  | one r => exact ordered r List.mem_cons_self
  | both first second ih ih' =>
      rcases List.forall_mem_append.mp ordered with ⟨early, late⟩
      exact (ih early).hull (ih' late)

theorem Grouping.hullOf_rects (g : Grouping) (ordered : ∀ r ∈ g.rects, r.OrderedIn left top) :
    Damage.hullOf g.rects = some g.hull := by
  induction g with
  | one r => rfl
  | both first second ih ih' =>
      rcases List.forall_mem_append.mp ordered with ⟨early, late⟩
      exact hullOf_append ordered (first.hull_orderedIn early) (ih early) (ih' late)

theorem Grouping.hull_eq_of_perm {g h : Grouping} (rearranged : g.rects.Perm h.rects)
    (ordered : ∀ r ∈ g.rects, r.OrderedIn left top) : g.hull = h.hull := by
  have ordered' : ∀ r ∈ h.rects, r.OrderedIn left top :=
    fun r member => ordered r (rearranged.mem_iff.mpr member)
  apply Option.some_injective
  calc some g.hull
      = Damage.hullOf g.rects := (g.hullOf_rects ordered).symm
    _ = Damage.hullOf h.rects := hullOf_perm rearranged ordered
    _ = some h.hull := h.hullOf_rects ordered'

end Grouping

/-- The hull of two rectangles encloses both just when neither side has to be longer than the
largest coordinate. Whatever encloses both encloses it in any case. It does not depend on the order
of the two; nor, while all edges lie within one window, does the hull of several depend on their
order or on how they are grouped. Whether merging is worthwhile is decided by the true areas. -/
theorem hull_least_while_fits (a b : Rect)
    (upright : (0 ≤ a.width ∧ 0 ≤ a.height) ∧ 0 ≤ b.width ∧ 0 ≤ b.height) :
    ((a.hull b).Encloses a ∧ (a.hull b).Encloses b ↔
        max a.right.toInt b.right.toInt - min a.x.toInt b.x.toInt ≤ Int32.maxValue.toInt ∧
          max a.bottom.toInt b.bottom.toInt - min a.y.toInt b.y.toInt ≤ Int32.maxValue.toInt) ∧
      (∀ c : Rect, c.Encloses a → c.Encloses b → c.Encloses (a.hull b)) ∧
      a.hull b = b.hull a ∧
      (∀ g h : Grouping, g.rects.Perm h.rects →
        (∀ r ∈ g.rects, 0 ≤ r.width ∧ 0 ≤ r.height) →
        (∀ r ∈ g.rects, ∀ s ∈ g.rects, s.right.toInt - r.x.toInt ≤ Int32.maxValue.toInt ∧
          s.bottom.toInt - r.y.toInt ≤ Int32.maxValue.toInt) → g.hull = h.hull) ∧
      a.area.toInt = a.width.toInt * a.height.toInt ∧
      b.area.toInt = b.width.toInt * b.height.toInt ∧
      (a.area + b.area).toInt = a.area.toInt + b.area.toInt ∧
      (a.worthMerging b ↔ (a.hull b).width.toInt * (a.hull b).height.toInt ≤
        a.width.toInt * a.height.toInt + b.width.toInt * b.height.toInt) := by
  rcases upright with ⟨first, second⟩
  refine ⟨hull_encloses_iff, ?_, hull_comm a b, ?_, toInt_area first, toInt_area second,
    toInt_area_add first second, worthMerging_iff first second⟩
  · intro c outer other
    exact encloses_hull (across_of_width first.1) (down_of_height first.2) outer other
  · intro g h rearranged standing narrow
    rcases exists_frame standing narrow with ⟨left, top, ordered⟩
    exact Grouping.hull_eq_of_perm rearranged ordered

def largest : Rect := ⟨0, 0, 2147483647, 2147483647⟩

/-- A rectangle without points, one step outside the largest one, is enough. -/
theorem hull_least_while_fits_largest :
    ¬ ((largest.hull ⟨-1, 0, 0, 0⟩).Encloses largest ∧
        (largest.hull ⟨-1, 0, 0, 0⟩).Encloses ⟨-1, 0, 0, 0⟩) ∧
      ((largest.hull ⟨0, 9, 0, 0⟩).Encloses largest ∧
        (largest.hull ⟨0, 9, 0, 0⟩).Encloses ⟨0, 9, 0, 0⟩) ∧
      (largest.area + largest.area).toInt = 9223372028264841218 ∧
      (Grouping.both (.one largest) (.both (.one ⟨3, 4, 0, 9⟩) (.one ⟨1, 2, 7, 0⟩))).hull =
        (Grouping.both (.both (.one ⟨1, 2, 7, 0⟩) (.one largest)) (.one ⟨3, 4, 0, 9⟩)).hull := by
  rcases hull_least_while_fits largest ⟨-1, 0, 0, 0⟩ (by decide) with ⟨beyond, -, -, grouped, -⟩
  rcases hull_least_while_fits largest ⟨0, 9, 0, 0⟩ (by decide) with ⟨within, -⟩
  rcases hull_least_while_fits largest largest (by decide) with ⟨-, -, -, -, area, -, sum, -⟩
  have counted : (largest.area + largest.area).toInt = 9223372028264841218 := by
    rw [sum, area]
    decide
  exact ⟨mt beyond.mp (by decide), within.mpr (by decide), counted,
    grouped _ _ (by decide) (by decide) (by decide)⟩

end Rect

end Compositing
