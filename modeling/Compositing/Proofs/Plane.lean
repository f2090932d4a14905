import Mathlib.Data.List.Nodup
import Compositing.Geometry.Separate

/-! Coordinates and rectangles read as integers. A rectangle is a product of two ranges, so each
fact is proved for one axis and then used for both. -/

namespace Compositing

theorem toInt_ofIntClamp (n : Int) :
    (Int32.ofIntClamp n).toInt = max (-2147483648) (min 2147483647 n) := by
  have low : Int32.minValue.toInt = -2147483648 := rfl
  have high : Int32.maxValue.toInt = 2147483647 := rfl
  rw [Int32.ofIntClamp]
  split
  · split
    · rw [Int32.toInt_ofIntLE]
      omega
    · rw [high]
      omega
  · rw [low]
    omega

theorem toInt_bounds (a : Int32) : -2147483648 ≤ a.toInt ∧ a.toInt ≤ 2147483647 := by
  have low := a.le_toInt
  have high := a.toInt_lt
  omega

@[simp] theorem toInt_max (a b : Int32) : (max a b).toInt = max a.toInt b.toInt := by
  change (if a ≤ b then b else a).toInt = _
  split <;> rename_i order <;> rw [Int32.le_iff_toInt_le] at order <;> omega

@[simp] theorem toInt_min (a b : Int32) : (min a b).toInt = min a.toInt b.toInt := by
  change (if a ≤ b then a else b).toInt = _
  split <;> rename_i order <;> rw [Int32.le_iff_toInt_le] at order <;> omega

@[simp] theorem toInt_zero : (0 : Int32).toInt = 0 := rfl

@[simp] theorem toInt_saturatingAdd (a b : Int32) :
    (saturatingAdd a b).toInt = max (-2147483648) (min 2147483647 (a.toInt + b.toInt)) :=
  toInt_ofIntClamp _

@[simp] theorem toInt_saturatingSub (a b : Int32) :
    (saturatingSub a b).toInt = max (-2147483648) (min 2147483647 (a.toInt - b.toInt)) :=
  toInt_ofIntClamp _

theorem toInt_extent (start stop : Int32) :
    (extent start stop).toInt = min 2147483647 (max 0 (stop.toInt - start.toInt)) := by
  rw [extent, toInt_ofIntClamp]
  omega

@[simp] theorem saturatingAdd_zero (a : Int32) : saturatingAdd a 0 = a := by
  rw [← Int32.toInt_inj, toInt_saturatingAdd, toInt_zero]
  have bounds := toInt_bounds a
  omega

@[simp] theorem zero_saturatingAdd (a : Int32) : saturatingAdd 0 a = a := by
  rw [← Int32.toInt_inj, toInt_saturatingAdd, toInt_zero]
  have bounds := toInt_bounds a
  omega

theorem toInt_add_of_fits (a b : Int32) (low : -2147483648 ≤ a.toInt + b.toInt)
    (high : a.toInt + b.toInt ≤ 2147483647) : (a + b).toInt = a.toInt + b.toInt := by
  rw [Int32.toInt_add, Int.bmod_eq_of_le] <;> omega

theorem toInt_sub_of_fits (a b : Int32) (low : -2147483648 ≤ a.toInt - b.toInt)
    (high : a.toInt - b.toInt ≤ 2147483647) : (a - b).toInt = a.toInt - b.toInt := by
  rw [Int32.toInt_sub, Int.bmod_eq_of_le] <;> omega

/-- A sum that wraps round is off by the size of the plane. -/
theorem toInt_add_cases (a b : Int32) :
    (a + b).toInt = a.toInt + b.toInt ∨ (a + b).toInt = a.toInt + b.toInt - 4294967296 ∨
      (a + b).toInt = a.toInt + b.toInt + 4294967296 := by
  have first := toInt_bounds a
  have second := toInt_bounds b
  rw [Int32.toInt_add, Int.bmod_def]
  split <;> omega

theorem toInt_neg_of_fits (a : Int32) (inner : a ≠ Int32.minValue) :
    (-a).toInt = -a.toInt := by
  have bounds := toInt_bounds a
  have above : a.toInt ≠ -2147483648 := by
    intro least
    apply inner
    rw [← Int32.toInt_inj]
    exact least
  rw [Int32.toInt_neg, Int.bmod_eq_of_le] <;> omega

theorem coordinates_toInt (start stop : Int32) (i : Nat)
    (within : i < (stop.toInt - start.toInt).toNat) :
    (start + Int32.ofNat i).toInt = start.toInt + i := by
  have first := toInt_bounds start
  have last := toInt_bounds stop
  have size : (Int32.size : Int) = 4294967296 := rfl
  rw [Int32.toInt_add, Int32.toInt_ofNat', Int.add_bmod_bmod, Int.bmod_eq_of_le] <;> omega

theorem mem_coordinates (start stop a : Int32) :
    a ∈ coordinates start stop ↔ start.toInt ≤ a.toInt ∧ a.toInt < stop.toInt := by
  simp only [coordinates, List.mem_map, List.mem_range]
  constructor
  · intro reached
    rcases reached with ⟨i, within, rfl⟩
    rw [coordinates_toInt start stop i within]
    omega
  · intro between
    refine ⟨(a.toInt - start.toInt).toNat, by omega, ?_⟩
    rw [← Int32.toInt_inj, coordinates_toInt start stop _ (by omega)]
    omega

theorem coordinates_nodup (start stop : Int32) : (coordinates start stop).Nodup := by
  refine List.Nodup.map_on ?_ List.nodup_range
  intro i first j second same
  rw [List.mem_range] at first second
  have values := congrArg Int32.toInt same
  rw [coordinates_toInt start stop i first, coordinates_toInt start stop j second] at values
  omega

theorem toInt_end (start stop : Int32) :
    (saturatingAdd start (extent start stop)).toInt =
      min (start.toInt + 2147483647) (max start.toInt stop.toInt) := by
  rw [toInt_saturatingAdd, toInt_extent]
  have first := toInt_bounds start
  have last := toInt_bounds stop
  omega

theorem reach_bounds (start length : Int32) :
    (saturatingAdd start length).toInt ≤ max start.toInt (start.toInt + length.toInt) ∧
      (saturatingAdd start length).toInt ≤ start.toInt + 2147483647 := by
  rw [toInt_saturatingAdd]
  have first := toInt_bounds start
  have last := toInt_bounds length
  omega

theorem between_shift (start length a : Int32) {origin : Int32} (inner : origin ≠ Int32.minValue)
    (after : origin.toInt ≤ start.toInt) (some : 0 ≤ length.toInt)
    (fits : start.toInt + length.toInt ≤ origin.toInt + 2147483647)
    (onPlane : start.toInt + length.toInt ≤ 2147483647) :
    ((saturatingAdd start (-origin)).toInt ≤ a.toInt ∧
        a.toInt < (saturatingAdd (saturatingAdd start (-origin)) length).toInt) ↔
      start.toInt ≤ (a + origin).toInt ∧
        (a + origin).toInt < (saturatingAdd start length).toInt := by
  have inside := toInt_bounds (a + origin)
  have first := toInt_bounds origin
  have second := toInt_bounds a
  have fourth := toInt_bounds start
  have moved : (saturatingAdd start (-origin)).toInt = start.toInt - origin.toInt := by
    rw [toInt_saturatingAdd, toInt_neg_of_fits _ inner]
    omega
  rw [toInt_saturatingAdd _ length, toInt_saturatingAdd start length, moved]
  rcases toInt_add_cases a origin with sum | sum | sum <;> omega

/-- A range moved by an offset and held at the ends of the plane, seen from a surface: as no pixel
has a negative coordinate or the largest one, it is as if nothing had been held. -/
theorem between_translated (start offset length a : Int32) (low : 0 ≤ a.toInt)
    (high : a.toInt < 2147483647) :
    ((saturatingAdd start offset).toInt ≤ a.toInt ∧
        a.toInt < (saturatingAdd (saturatingAdd start offset) length).toInt) ↔
      0 ≤ a.toInt - (start.toInt + offset.toInt) ∧
        a.toInt - (start.toInt + offset.toInt) < length.toInt := by
  have wide := toInt_bounds length
  rw [toInt_saturatingAdd _ length, toInt_saturatingAdd start offset]
  omega

theorem toInt_sub_translated (start offset length a : Int32) (low : 0 ≤ a.toInt)
    (high : a.toInt < 2147483647) (after : 0 ≤ a.toInt - (start.toInt + offset.toInt))
    (before : a.toInt - (start.toInt + offset.toInt) < length.toInt) :
    (a - saturatingAdd start offset).toInt = a.toInt - (start.toInt + offset.toInt) := by
  have wide := toInt_bounds length
  have moved : (saturatingAdd start offset).toInt = start.toInt + offset.toInt := by
    rw [toInt_saturatingAdd]
    omega
  rw [toInt_sub_of_fits] <;> omega

theorem Point.ext_toInt {p q : Point} (across : p.x.toInt = q.x.toInt)
    (down : p.y.toInt = q.y.toInt) : p = q := by
  cases p
  cases q
  simp_all [Int32.toInt_inj]

theorem rows_nodup {rows : List Int32} {columns : Int32 → List Int32} (down : rows.Nodup)
    (across : ∀ y, (columns y).Nodup) :
    (rows.flatMap fun y => (columns y).map fun x => Point.mk x y).Nodup := by
  rw [List.nodup_flatMap]
  constructor
  · intro y _
    refine (across y).map ?_
    intro a b same
    exact congrArg Point.x same
  · refine down.imp ?_
    intro first second apart p left right
    obtain ⟨_, _, rfl⟩ := List.mem_map.mp left
    obtain ⟨_, _, same⟩ := List.mem_map.mp right
    exact apart (congrArg Point.y same).symm

namespace Rect

theorem mem_toInt (p : Point) (r : Rect) :
    p ∈ r ↔ r.x.toInt ≤ p.x.toInt ∧ p.x.toInt < r.right.toInt ∧
      r.y.toInt ≤ p.y.toInt ∧ p.y.toInt < r.bottom.toInt := by
  rw [mem_def, Int32.le_iff_toInt_le, Int32.lt_iff_toInt_lt, Int32.le_iff_toInt_le,
    Int32.lt_iff_toInt_lt]

theorem mem_axes (p : Point) (r : Rect) :
    p ∈ r ↔ (r.x.toInt ≤ p.x.toInt ∧ p.x.toInt < r.right.toInt) ∧
      r.y.toInt ≤ p.y.toInt ∧ p.y.toInt < r.bottom.toInt := by
  rw [mem_toInt, and_assoc]

theorem isEmpty_toInt (r : Rect) :
    r.isEmpty = true ↔ r.width.toInt ≤ 0 ∨ r.height.toInt ≤ 0 := by
  simp only [isEmpty, Bool.or_eq_true, decide_eq_true_eq, Int32.le_iff_toInt_le, toInt_zero]

theorem encloses_toInt (a b : Rect) :
    a.Encloses b ↔ a.x.toInt ≤ b.x.toInt ∧ a.y.toInt ≤ b.y.toInt ∧
      b.right.toInt ≤ a.right.toInt ∧ b.bottom.toInt ≤ a.bottom.toInt := by
  simp only [Encloses, Int32.le_iff_toInt_le]

theorem meets_toInt (a b : Rect) :
    a.Meets b ↔ max a.x.toInt b.x.toInt ≤ min a.right.toInt b.right.toInt ∧
      max a.y.toInt b.y.toInt ≤ min a.bottom.toInt b.bottom.toInt := by
  simp only [Meets, Int32.le_iff_toInt_le, toInt_max, toInt_min]

theorem Encloses.mem {a b : Rect} (encloses : a.Encloses b) {p : Point} (inside : p ∈ b) :
    p ∈ a := by
  rw [encloses_toInt] at encloses
  rw [mem_toInt] at inside ⊢
  omega

theorem Encloses.refl (a : Rect) : a.Encloses a := by
  rw [encloses_toInt]
  omega

theorem Encloses.trans {a b c : Rect} (outer : a.Encloses b) (inner : b.Encloses c) :
    a.Encloses c := by
  rw [encloses_toInt] at *
  omega

/-- Rectangles with a point in common meet; the converse fails for those that share only an
edge. -/
theorem Meets.of_mem {a b : Rect} {p : Point} (left : p ∈ a) (right : p ∈ b) : a.Meets b := by
  rw [mem_toInt] at left right
  rw [meets_toInt]
  omega

theorem right_bounds (r : Rect) :
    r.right.toInt ≤ max r.x.toInt (r.x.toInt + r.width.toInt) ∧
      r.right.toInt ≤ r.x.toInt + 2147483647 := reach_bounds r.x r.width

theorem bottom_bounds (r : Rect) :
    r.bottom.toInt ≤ max r.y.toInt (r.y.toInt + r.height.toInt) ∧
      r.bottom.toInt ≤ r.y.toInt + 2147483647 := reach_bounds r.y r.height

theorem across_of_width {r : Rect} (upright : 0 ≤ r.width) : r.x.toInt ≤ r.right.toInt := by
  rw [Int32.le_iff_toInt_le, toInt_zero] at upright
  rw [right, toInt_saturatingAdd]
  have start := toInt_bounds r.x
  omega

theorem down_of_height {r : Rect} (upright : 0 ≤ r.height) : r.y.toInt ≤ r.bottom.toInt := by
  rw [Int32.le_iff_toInt_le, toInt_zero] at upright
  rw [bottom, toInt_saturatingAdd]
  have start := toInt_bounds r.y
  omega

theorem edges_of_shows {r : Rect} (shows : r.isEmpty = false) :
    r.x.toInt ≤ r.right.toInt ∧ r.y.toInt ≤ r.bottom.toInt := by
  have filled : ¬ (r.width.toInt ≤ 0 ∨ r.height.toInt ≤ 0) := by
    rw [← isEmpty_toInt, shows]
    decide
  constructor
  · apply across_of_width
    rw [Int32.le_iff_toInt_le, toInt_zero]
    omega
  · apply down_of_height
    rw [Int32.le_iff_toInt_le, toInt_zero]
    omega

theorem not_mem_of_isEmpty {r : Rect} (empty : r.isEmpty = true) (p : Point) : p ∉ r := by
  intro inside
  rw [mem_toInt] at inside
  rw [isEmpty_toInt] at empty
  have across := right_bounds r
  have down := bottom_bounds r
  omega

theorem ext_toInt {a b : Rect} (x : a.x.toInt = b.x.toInt) (y : a.y.toInt = b.y.toInt)
    (width : a.width.toInt = b.width.toInt) (height : a.height.toInt = b.height.toInt) : a = b := by
  cases a
  cases b
  simp_all [Int32.toInt_inj]

@[simp] theorem mem_points {p : Point} {r : Rect} : p ∈ r.points ↔ p ∈ r := by
  rw [points]
  split
  · rename_i empty
    simp [not_mem_of_isEmpty empty p]
  · simp only [List.mem_flatMap, List.mem_map, mem_coordinates]
    rw [mem_toInt]
    constructor
    · intro listed
      rcases listed with ⟨y, down, x, across, rfl⟩
      exact ⟨across.1, across.2, down⟩
    · intro inside
      exact ⟨p.y, inside.2.2, p.x, ⟨inside.1, inside.2.1⟩, rfl⟩

theorem points_nodup (r : Rect) : r.points.Nodup := by
  rw [points]
  split
  · exact List.nodup_nil
  · exact rows_nodup (coordinates_nodup _ _) fun _ => coordinates_nodup _ _

section Overlap

variable (a b : Rect)

@[simp] theorem toInt_overlap_x : (a.overlap b).x.toInt = max a.x.toInt b.x.toInt := toInt_max _ _

@[simp] theorem toInt_overlap_y : (a.overlap b).y.toInt = max a.y.toInt b.y.toInt := toInt_max _ _

/-- The width of an overlap is never cut short: it is no more than that of either rectangle. -/
theorem toInt_overlap_right :
    (a.overlap b).right.toInt =
      max (max a.x.toInt b.x.toInt) (min a.right.toInt b.right.toInt) := by
  rw [right, overlap]
  dsimp only
  rw [toInt_end, toInt_max, toInt_min]
  have reach := (right_bounds a).2
  omega

theorem toInt_overlap_bottom :
    (a.overlap b).bottom.toInt =
      max (max a.y.toInt b.y.toInt) (min a.bottom.toInt b.bottom.toInt) := by
  rw [bottom, overlap]
  dsimp only
  rw [toInt_end, toInt_max, toInt_min]
  have reach := (bottom_bounds a).2
  omega

theorem toInt_overlap_width :
    (a.overlap b).width.toInt =
      max 0 (min a.right.toInt b.right.toInt - max a.x.toInt b.x.toInt) := by
  rw [overlap]
  dsimp only
  rw [toInt_extent, toInt_max, toInt_min]
  have reach := (right_bounds a).2
  omega

theorem toInt_overlap_height :
    (a.overlap b).height.toInt =
      max 0 (min a.bottom.toInt b.bottom.toInt - max a.y.toInt b.y.toInt) := by
  rw [overlap]
  dsimp only
  rw [toInt_extent, toInt_max, toInt_min]
  have reach := (bottom_bounds a).2
  omega

variable {a b}

@[simp] theorem mem_overlap {p : Point} : p ∈ a.overlap b ↔ p ∈ a ∧ p ∈ b := by
  simp only [mem_toInt, toInt_overlap_x, toInt_overlap_y, toInt_overlap_right,
    toInt_overlap_bottom]
  omega

theorem overlap_isEmpty_iff :
    (a.overlap b).isEmpty = true ↔
      min a.right.toInt b.right.toInt ≤ max a.x.toInt b.x.toInt ∨
        min a.bottom.toInt b.bottom.toInt ≤ max a.y.toInt b.y.toInt := by
  rw [isEmpty_toInt, toInt_overlap_width, toInt_overlap_height]
  omega

theorem overlap_shows_iff :
    (a.overlap b).isEmpty = false ↔
      max a.x.toInt b.x.toInt < min a.right.toInt b.right.toInt ∧
        max a.y.toInt b.y.toInt < min a.bottom.toInt b.bottom.toInt := by
  rw [← Bool.not_eq_true, overlap_isEmpty_iff]
  omega

theorem corner_mem_overlap (shows : (a.overlap b).isEmpty = false) :
    (a.overlap b).corner ∈ a.overlap b := by
  rw [overlap_shows_iff] at shows
  rw [mem_toInt, toInt_overlap_right, toInt_overlap_bottom]
  change (a.overlap b).x.toInt ≤ (a.overlap b).x.toInt ∧ (a.overlap b).x.toInt < _ ∧
    (a.overlap b).y.toInt ≤ (a.overlap b).y.toInt ∧ (a.overlap b).y.toInt < _
  rw [toInt_overlap_x, toInt_overlap_y]
  omega

theorem overlap_isEmpty_iff_forall :
    (a.overlap b).isEmpty = true ↔ ∀ p, p ∈ a → p ∉ b := by
  constructor
  · intro empty p left right
    exact not_mem_of_isEmpty empty p (mem_overlap.mpr ⟨left, right⟩)
  · intro apart
    cases shows : (a.overlap b).isEmpty with
    | true => rfl
    | false =>
        have inside := mem_overlap.mp (corner_mem_overlap shows)
        exact absurd inside.2 (apart _ inside.1)

theorem encloses_overlap_left (shows : (a.overlap b).isEmpty = false) :
    a.Encloses (a.overlap b) := by
  rw [overlap_shows_iff] at shows
  rw [encloses_toInt, toInt_overlap_x, toInt_overlap_y, toInt_overlap_right, toInt_overlap_bottom]
  omega

theorem encloses_overlap_right (shows : (a.overlap b).isEmpty = false) :
    b.Encloses (a.overlap b) := by
  rw [overlap_shows_iff] at shows
  rw [encloses_toInt, toInt_overlap_x, toInt_overlap_y, toInt_overlap_right, toInt_overlap_bottom]
  omega

theorem overlap_comm (a b : Rect) : a.overlap b = b.overlap a := by
  apply ext_toInt
  · simp only [toInt_overlap_x]
    omega
  · simp only [toInt_overlap_y]
    omega
  · simp only [toInt_overlap_width]
    omega
  · simp only [toInt_overlap_height]
    omega

/-- Where the start of a range takes the place of its end, nothing of the range is left, and no
other range changes that. -/
theorem length_of_held (start stop other last : Int) :
    max 0 (min (max start stop) last - max start other) =
      max 0 (min stop last - max start other) := by
  omega

theorem length_assoc (a b c r s t : Int) :
    max 0 (min (max (max a b) (min r s)) t - max (max a b) c) =
      max 0 (min r (max (max b c) (min s t)) - max a (max b c)) :=
  calc max 0 (min (max (max a b) (min r s)) t - max (max a b) c)
      = max 0 (min (min r s) t - max (max a b) c) := length_of_held _ _ _ _
    _ = max 0 (min (min s t) r - max (max b c) a) := by
        rw [Int.min_assoc, Int.max_assoc, Int.min_comm r, Int.max_comm a]
    _ = max 0 (min (max (max b c) (min s t)) r - max (max b c) a) :=
        (length_of_held _ _ _ _).symm
    _ = max 0 (min r (max (max b c) (min s t)) - max a (max b c)) := by
        rw [Int.min_comm _ r, Int.max_comm _ a]

theorem overlap_assoc (a b c : Rect) : (a.overlap b).overlap c = a.overlap (b.overlap c) := by
  apply ext_toInt
  · simp only [toInt_overlap_x]
    omega
  · simp only [toInt_overlap_y]
    omega
  · simp only [toInt_overlap_width, toInt_overlap_right, toInt_overlap_x]
    exact length_assoc _ _ _ _ _ _
  · simp only [toInt_overlap_height, toInt_overlap_bottom, toInt_overlap_y]
    exact length_assoc _ _ _ _ _ _

theorem overlap_right_comm (a b c : Rect) :
    (a.overlap b).overlap c = (a.overlap c).overlap b := by
  rw [overlap_assoc, overlap_comm b c, ← overlap_assoc]

theorem overlap_isEmpty_of_left (empty : a.isEmpty = true) : (a.overlap b).isEmpty = true :=
  overlap_isEmpty_iff_forall.mpr fun p inside => absurd inside (not_mem_of_isEmpty empty p)

theorem overlap_overlap (a b : Rect) : a.overlap (a.overlap b) = a.overlap b := by
  have reach := (right_bounds a).2
  have depth := (bottom_bounds a).2
  apply ext_toInt
  · simp only [toInt_overlap_x]
    omega
  · simp only [toInt_overlap_y]
    omega
  · simp only [toInt_overlap_width, toInt_overlap_right, toInt_overlap_x]
    omega
  · simp only [toInt_overlap_height, toInt_overlap_bottom, toInt_overlap_y]
    omega

/-- Moving what shows of `bounds` to the origin loses nothing, and no sum that wraps round comes
into it from elsewhere. -/
theorem mem_shift_neg_corner {r bounds : Rect} {p : Point} (across : bounds.x ≠ Int32.minValue)
    (down : bounds.y ≠ Int32.minValue) (shows : (r.overlap bounds).isEmpty = false) :
    p ∈ (r.overlap bounds).shift (-bounds.corner) ↔ p + bounds.corner ∈ r.overlap bounds := by
  have right := toInt_overlap_right r bounds
  have bottom := toInt_overlap_bottom r bounds
  have wide := (right_bounds bounds).2
  have high := (bottom_bounds bounds).2
  have corner_x := toInt_overlap_x r bounds
  have corner_y := toInt_overlap_y r bounds
  have farthest := toInt_bounds bounds.right
  have lowest := toInt_bounds bounds.bottom
  have width := toInt_overlap_width r bounds
  have height := toInt_overlap_height r bounds
  rw [overlap_shows_iff] at shows
  have horizontal := between_shift (r.overlap bounds).x (r.overlap bounds).width p.x across
    (by omega) (by omega) (by omega) (by omega)
  have vertical := between_shift (r.overlap bounds).y (r.overlap bounds).height p.y down
    (by omega) (by omega) (by omega) (by omega)
  rw [mem_axes, mem_axes]
  generalize r.overlap bounds = shown at horizontal vertical ⊢
  exact and_congr horizontal vertical

end Overlap

section Part

def partOf (visible whole : Rect) : Rect :=
  ⟨saturatingSub visible.x whole.x, saturatingSub visible.y whole.y, visible.width, visible.height⟩

/-- The rectangle moved to where its origin lies at `place`; a sum that leaves the plane wraps. -/
def placed (part : Rect) (place : Point) : Rect :=
  ⟨place.x + part.x, place.y + part.y, part.width, part.height⟩

@[simp] theorem partOf_width (visible whole : Rect) :
    (visible.partOf whole).width = visible.width := rfl

@[simp] theorem partOf_height (visible whole : Rect) :
    (visible.partOf whole).height = visible.height := rfl

section Inside

variable {visible whole : Rect} (inside : whole.Encloses visible) (shows : visible.isEmpty = false)

include inside shows

theorem toInt_partOf_x : (visible.partOf whole).x.toInt = visible.x.toInt - whole.x.toInt := by
  have across := (edges_of_shows shows).1
  have reach := (right_bounds whole).2
  rw [encloses_toInt] at inside
  rw [partOf, toInt_saturatingSub]
  omega

theorem toInt_partOf_y : (visible.partOf whole).y.toInt = visible.y.toInt - whole.y.toInt := by
  have down := (edges_of_shows shows).2
  have reach := (bottom_bounds whole).2
  rw [encloses_toInt] at inside
  rw [partOf, toInt_saturatingSub]
  omega

theorem toInt_placed_x :
    ((visible.partOf whole).placed whole.corner).x.toInt =
      whole.x.toInt + (visible.partOf whole).x.toInt := by
  have part := toInt_partOf_x inside shows
  have bounds := toInt_bounds visible.x
  refine toInt_add_of_fits whole.x _ ?_ ?_ <;> omega

theorem toInt_placed_y :
    ((visible.partOf whole).placed whole.corner).y.toInt =
      whole.y.toInt + (visible.partOf whole).y.toInt := by
  have part := toInt_partOf_y inside shows
  have bounds := toInt_bounds visible.y
  refine toInt_add_of_fits whole.y _ ?_ ?_ <;> omega

theorem placed_partOf : (visible.partOf whole).placed whole.corner = visible := by
  have across : ((visible.partOf whole).placed whole.corner).x = visible.x := by
    rw [← Int32.toInt_inj, toInt_placed_x inside shows, toInt_partOf_x inside shows]
    omega
  have down : ((visible.partOf whole).placed whole.corner).y = visible.y := by
    rw [← Int32.toInt_inj, toInt_placed_y inside shows, toInt_partOf_y inside shows]
    omega
  exact congr (congrArg (fun x y => Rect.mk x y visible.width visible.height) across) down

end Inside

theorem ofSize_encloses_partOf {whole clip : Rect}
    (shows : (whole.overlap clip).isEmpty = false) :
    (Rect.ofSize whole.size).Encloses ((whole.overlap clip).partOf whole) := by
  have left := toInt_partOf_x (encloses_overlap_left shows) shows
  have top := toInt_partOf_y (encloses_overlap_left shows) shows
  have start := toInt_overlap_x whole clip
  have above := toInt_overlap_y whole clip
  have width := toInt_overlap_width whole clip
  have height := toInt_overlap_height whole clip
  have across := (right_bounds whole).1
  have down := (bottom_bounds whole).1
  have wide := toInt_bounds whole.width
  have high := toInt_bounds whole.height
  rw [overlap_shows_iff] at shows
  simp only [encloses_toInt, ofSize, Rect.size, right, bottom, zero_saturatingAdd,
    toInt_saturatingAdd, toInt_zero, partOf_width, partOf_height]
  omega

end Part

end Rect

end Compositing
