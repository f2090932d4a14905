import Compositing.Proofs.Cells
import Compositing.Proofs.Plane
import Compositing.Surface.Resize

/-! A surface as an array of pixels: what a write does to the pixel at its point and to the others,
and what painting an area does to every pixel at once. -/

namespace Compositing.Surface

/-- The surfaces differ in no more than what their words hold. -/
structure Alike (s t : Surface) : Prop where
  format : s.format = t.format
  width : s.width = t.width
  height : s.height = t.height
  length : s.words.size = t.words.size

theorem Alike.refl (s : Surface) : s.Alike s := ⟨rfl, rfl, rfl, rfl⟩

theorem Alike.trans {s t u : Surface} (first : s.Alike t) (second : t.Alike u) : s.Alike u :=
  ⟨first.format.trans second.format, first.width.trans second.width,
    first.height.trans second.height, first.length.trans second.length⟩

theorem Alike.bounds {s t : Surface} (alike : s.Alike t) : s.bounds = t.bounds := by
  rw [Surface.bounds, Surface.bounds, Surface.size, Surface.size, alike.width, alike.height]

theorem Alike.wordIndex {s t : Surface} (alike : s.Alike t) (p : Point) :
    s.wordIndex p = t.wordIndex p := by
  rw [Surface.wordIndex, Surface.wordIndex, alike.format, alike.width]

/-- What the pixel at a point reads as once `pixel` has been written there. A point for which
there is no word keeps reading as an empty cell. -/
def landing (s : Surface) (p : Point) (pixel : Pixel) : Pixel :=
  if s.wordIndex p < s.words.size then s.format.readBack pixel
  else s.format.load p.x.toNatClampNeg 0

theorem Alike.landing {s t : Surface} (alike : s.Alike t) (p : Point) (pixel : Pixel) :
    s.landing p pixel = t.landing p pixel := by
  rw [Surface.landing, Surface.landing, alike.wordIndex, alike.format, alike.length]

theorem mem_bounds {s : Surface} {p : Point} :
    p ∈ s.bounds ↔ 0 ≤ p.x.toInt ∧ p.x.toInt < s.width.toInt ∧
      0 ≤ p.y.toInt ∧ p.y.toInt < s.height.toInt := by
  have right : s.bounds.right = s.width := zero_saturatingAdd s.width
  have bottom : s.bounds.bottom = s.height := zero_saturatingAdd s.height
  rw [Rect.mem_toInt, right, bottom]
  exact Iff.rfl

theorem toNatClampNeg_eq (a : Int32) : a.toNatClampNeg = a.toInt.toNat := rfl

/-- No row reaches into the words of the next. -/
theorem column_lt {s : Surface} {p : Point} (inside : p ∈ s.bounds) :
    p.x.toNatClampNeg / s.format.cellsPerWord < s.format.wordsPerRow s.width := by
  have some := s.format.cellsPerWord_pos
  rw [mem_bounds] at inside
  simp only [Format.wordsPerRow, toNatClampNeg_eq]
  rw [Nat.div_lt_iff_lt_mul some]
  have whole := Nat.lt_div_mul_add (a := s.width.toInt.toNat + s.format.cellsPerWord - 1) some
  omega

theorem cell_apart {s : Surface} {p q : Point} (first : p ∈ s.bounds) (second : q ∈ s.bounds)
    (apart : p ≠ q) (shared : s.wordIndex p = s.wordIndex q) :
    p.x.toNatClampNeg % s.format.cellsPerWord ≠ q.x.toNatClampNeg % s.format.cellsPerWord := by
  intro same
  apply apart
  -- The word tells the row, and the word within the row.
  have left := column_lt first
  have right := column_lt second
  rw [mem_bounds] at first second
  simp only [wordIndex, toNatClampNeg_eq] at shared same left right
  generalize s.format.cellsPerWord = cells at *
  generalize s.format.wordsPerRow s.width = words at *
  have down : p.y.toInt.toNat = q.y.toInt.toNat := by
    have quotients := congrArg (· / words) shared
    have positive : 0 < words := Nat.lt_of_le_of_lt (Nat.zero_le _) left
    simp only [Nat.mul_comm _ words] at quotients
    rwa [Nat.mul_add_div positive, Nat.mul_add_div positive, Nat.div_eq_of_lt left,
      Nat.div_eq_of_lt right] at quotients
  have across : p.x.toInt.toNat / cells = q.x.toInt.toNat / cells := by
    rw [down] at shared
    omega
  have column : p.x.toInt.toNat = q.x.toInt.toNat := by
    rw [← Nat.div_add_mod p.x.toInt.toNat cells, across, same, Nat.div_add_mod]
  apply Point.ext_toInt <;> omega

theorem setPixel_alike (s : Surface) (p : Point) (pixel : Pixel) :
    (s.setPixel p pixel).Alike s := by
  rw [setPixel]
  split
  · exact ⟨rfl, rfl, rfl, Array.size_modify⟩
  · exact .refl s

theorem pixel?_setPixel_self {s : Surface} {p : Point} (inside : p ∈ s.bounds) (pixel : Pixel) :
    (s.setPixel p pixel).pixel? p = some (s.landing p pixel) := by
  have still : p ∈ (s.setPixel p pixel).bounds := by rwa [(setPixel_alike s p pixel).bounds]
  rw [pixel?, if_pos still, (setPixel_alike s p pixel).wordIndex, (setPixel_alike s p pixel).format]
  simp only [setPixel, if_pos inside, landing]
  by_cases held : s.wordIndex p < s.words.size
  · rw [if_pos held, ← Array.getElem_eq_getD (h := by rwa [Array.size_modify]),
      Array.getElem_modify_self, Format.load_store_self]
  · rw [if_neg held]
    simp [Array.getD, held]

theorem pixel?_setPixel_other {s : Surface} {p q : Point} (pixel : Pixel) (apart : q ≠ p) :
    (s.setPixel p pixel).pixel? q = s.pixel? q := by
  rw [pixel?, pixel?, (setPixel_alike s p pixel).bounds, (setPixel_alike s p pixel).wordIndex,
    (setPixel_alike s p pixel).format]
  by_cases inside : q ∈ s.bounds
  · rw [if_pos inside, if_pos inside]
    by_cases target : p ∈ s.bounds
    · simp only [setPixel, if_pos target]
      congr 1
      by_cases held : s.wordIndex q < s.words.size
      · rw [← Array.getElem_eq_getD (h := by rwa [Array.size_modify]),
          ← Array.getElem_eq_getD (h := held)]
        by_cases shared : s.wordIndex p = s.wordIndex q
        · simp only [Array.getElem_modify, shared, if_true]
          exact Format.load_store_other _ _ _ (cell_apart target inside apart.symm shared)
        · rw [Array.getElem_modify_of_ne shared]
      · simp [Array.getD, held]
    · rw [setPixel, if_neg target]
  · rw [if_neg inside, if_neg inside]

theorem pixelOrClear_eq {s t : Surface} {p : Point} (same : s.pixel? p = t.pixel? p) :
    s.pixelOrClear p = t.pixelOrClear p := by
  rw [pixelOrClear, pixelOrClear, same]

theorem pixel?_of_not_mem {s : Surface} {p : Point} (outside : p ∉ s.bounds) : s.pixel? p = none :=
  if_neg outside

theorem pixel?_of_mem {s : Surface} {p : Point} (inside : p ∈ s.bounds) :
    s.pixel? p = some (s.pixelOrClear p) := by
  rw [pixelOrClear, pixel?, if_pos inside]
  rfl

section Paint

variable (change : Point → Pixel → Pixel)

def paintAll (s : Surface) (points : List Point) : Surface :=
  points.foldl (fun s p => s.setPixel p (change p (s.pixelOrClear p))) s

theorem paintAll_alike (s : Surface) (points : List Point) :
    (s.paintAll change points).Alike s := by
  induction points generalizing s with
  | nil => exact .refl s
  | cons p rest ih =>
      exact (ih (s.setPixel p (change p (s.pixelOrClear p)))).trans (setPixel_alike ..)

theorem pixel?_paintAll_of_not_mem (s : Surface) {points : List Point} {q : Point}
    (untouched : q ∉ points) : (s.paintAll change points).pixel? q = s.pixel? q := by
  induction points generalizing s with
  | nil => rfl
  | cons p rest ih =>
      rw [List.mem_cons, not_or] at untouched
      let next := s.setPixel p (change p (s.pixelOrClear p))
      calc (next.paintAll change rest).pixel? q
          = next.pixel? q := ih next untouched.2
        _ = s.pixel? q := pixel?_setPixel_other _ untouched.1

/-- No point comes twice, so that each is changed from what it was at the start. -/
theorem pixel?_paintAll_of_mem (s : Surface) {points : List Point} (once : points.Nodup) {q : Point}
    (painted : q ∈ points) (inside : q ∈ s.bounds) :
    (s.paintAll change points).pixel? q = some (s.landing q (change q (s.pixelOrClear q))) := by
  induction points generalizing s with
  | nil => cases painted
  | cons p rest ih =>
      obtain ⟨fresh, distinct⟩ := List.nodup_cons.mp once
      let next := s.setPixel p (change p (s.pixelOrClear p))
      have alike : next.Alike s := setPixel_alike ..
      rcases List.mem_cons.mp painted with rfl | later
      · calc (next.paintAll change rest).pixel? q
            = next.pixel? q := pixel?_paintAll_of_not_mem change next fresh
          _ = some (s.landing q (change q (s.pixelOrClear q))) := pixel?_setPixel_self inside _
      · have apart : q ≠ p := fun same => fresh (same ▸ later)
        have unchanged : next.pixelOrClear q = s.pixelOrClear q :=
          pixelOrClear_eq (pixel?_setPixel_other _ apart)
        calc (next.paintAll change rest).pixel? q
            = some (next.landing q (change q (next.pixelOrClear q))) :=
              ih next distinct later (by rwa [alike.bounds])
          _ = some (s.landing q (change q (s.pixelOrClear q))) := by
              rw [alike.landing, unchanged]

variable (s : Surface) (area : Rect)

theorem paint_alike : (s.paint area change).Alike s := paintAll_alike change s area.points

theorem pixel?_paint (q : Point) :
    (s.paint area change).pixel? q =
      if q ∈ area then (s.pixel? q).map fun old => s.landing q (change q old) else s.pixel? q := by
  by_cases inside : q ∈ s.bounds
  · by_cases painted : q ∈ area
    · rw [if_pos painted, pixel?_of_mem inside]
      exact pixel?_paintAll_of_mem change s area.points_nodup (Rect.mem_points.mpr painted) inside
    · rw [if_neg painted]
      exact pixel?_paintAll_of_not_mem change s fun member => painted (Rect.mem_points.mp member)
  · have outside : q ∉ (s.paint area change).bounds := by rwa [(paint_alike change s area).bounds]
    rw [pixel?_of_not_mem outside, pixel?_of_not_mem inside]
    simp

end Paint

def Stored (s : Surface) : Prop := s.words.size = wordsFor s.format s.width s.height

section Stored

variable {s t : Surface}

theorem Alike.stored (alike : s.Alike t) (stored : t.Stored) : s.Stored := by
  rw [Stored, alike.length, alike.format, alike.width, alike.height]
  exact stored

theorem wordIndex_lt (stored : s.Stored) {p : Point} (inside : p ∈ s.bounds) :
    s.wordIndex p < s.words.size := by
  have column := column_lt inside
  rw [mem_bounds] at inside
  rw [stored, wordIndex, wordsFor, Nat.mul_comm (s.format.wordsPerRow s.width)]
  simp only [toNatClampNeg_eq] at column ⊢
  have below : p.y.toInt.toNat + 1 ≤ s.height.toInt.toNat := by omega
  calc p.y.toInt.toNat * s.format.wordsPerRow s.width + p.x.toInt.toNat / s.format.cellsPerWord
      < (p.y.toInt.toNat + 1) * s.format.wordsPerRow s.width := by
        rw [Nat.add_mul, Nat.one_mul]
        exact Nat.add_lt_add_left column _
    _ ≤ s.height.toInt.toNat * s.format.wordsPerRow s.width := Nat.mul_le_mul_right _ below

theorem landing_of_stored (stored : s.Stored) {p : Point} (inside : p ∈ s.bounds) (pixel : Pixel) :
    s.landing p pixel = s.format.readBack pixel := if_pos (wordIndex_lt stored inside)

@[simp] theorem toNatClampNeg_max_zero (a : Int32) : (max a 0).toNatClampNeg = a.toNatClampNeg := by
  rw [toNatClampNeg_eq, toNatClampNeg_eq, toInt_max, toInt_zero]
  omega

@[simp] theorem wordsFor_max_zero (format : Format) (width height : Int32) :
    wordsFor format (max width 0) (max height 0) = wordsFor format width height := by
  simp only [wordsFor, Format.wordsPerRow, toNatClampNeg_max_zero]

theorem blank_stored (format : Format) (width height : Int32) :
    (blank format width height).Stored := by
  change (Array.replicate (wordsFor format width height) 0).size =
    wordsFor format (max width 0) (max height 0)
  rw [Array.size_replicate, wordsFor_max_zero]

theorem resize_stored (stored : s.Stored) (width height : Int32) :
    (s.resize width height).Stored := by
  rw [resize]
  dsimp only
  split
  · exact stored
  · apply (paintAll_alike (fun _ _ => 0) ..).stored
    exact Array.size_ofFn

theorem reserve_stored (stored : s.Stored) (width height : Int32) :
    (s.reserve width height).Stored := stored

theorem shrink_stored (stored : s.Stored) : s.shrink.Stored := stored

end Stored

end Compositing.Surface
