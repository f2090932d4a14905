import Compositing.Proofs.RowMoves

/-! What of a surface survives when it is resized: the pixels that never leave it, and nothing else.
What the storage holds besides the pixels, in padding and in rows that have moved away, never comes
to light again. -/

namespace Compositing

namespace Format

def blank : Format → Pixel
  | rgb24 => 0xFF000000
  | argb32 | a8 | a1 => 0

theorem readBack_zero (format : Format) : format.readBack 0 = format.blank := by
  cases format <;> rfl

end Format

namespace Surface

theorem mem_ofSize_max {size : Size} {p : Point} :
    p ∈ Rect.mk 0 0 (max size.width 0) (max size.height 0) ↔ p ∈ Rect.ofSize size := by
  have axis (length a : Int32) : 0 ≤ a ∧ a < max length 0 ↔ 0 ≤ a ∧ a < length := by
    simp only [Int32.le_iff_toInt_le, Int32.lt_iff_toInt_lt, toInt_max, toInt_zero]
    omega
  have edges (width height : Int32) : p ∈ Rect.mk 0 0 width height ↔
      (0 ≤ p.x ∧ p.x < width) ∧ 0 ≤ p.y ∧ p.y < height := by
    rw [Rect.mem_def, Rect.right, Rect.bottom, zero_saturatingAdd, zero_saturatingAdd, and_assoc]
  rw [Rect.ofSize, edges, edges, axis, axis]

/-- What `t` is to be when `s` takes another size. -/
structure Resized (s t : Surface) (size : Size) : Prop where
  format : t.format = s.format
  dimensions : t.size = ⟨max size.width 0, max size.height 0⟩
  stride : t.stride = s.format.stride size.width
  length : t.words.size = t.stride / 4 * size.height.toNatClampNeg
  kept : ∀ p ∈ t.bounds, p ∈ s.bounds → t.pixel? p = s.pixel? p
  fresh : ∀ p ∈ t.bounds, p ∉ s.bounds → t.pixel? p = some s.format.blank
  outside : ∀ p, p ∉ t.bounds → t.pixel? p = none

section Resize

variable {s t : Surface}

theorem resize_bounds (s : Surface) (size : Size) (p : Point) :
    p ∈ (s.resize size.width size.height).bounds ↔ p ∈ Rect.ofSize size := by
  rw [bounds, (s.resize_frame size.width size.height).2]
  exact mem_ofSize_max

theorem resize_resized (stored : s.Stored) (size : Size) :
    s.Resized (s.resize size.width size.height) size := by
  rcases s.resize_frame size.width size.height with ⟨format, dimensions⟩
  have wide : (s.resize size.width size.height).width = max size.width 0 :=
    congrArg Size.width dimensions
  have high : (s.resize size.width size.height).height = max size.height 0 :=
    congrArg Size.height dimensions
  have read := s.pixel?_resize size.width size.height
  have inside (p : Point) : p ∈ (s.resize size.width size.height).bounds ↔
      p ∈ Rect.mk 0 0 (max size.width 0) (max size.height 0) := by
    rw [resize_bounds, mem_ofSize_max]
  constructor
  · exact format
  · exact dimensions
  · rw [stride, format, wide, Format.stride, Format.stride, Format.wordsPerRow,
      Format.wordsPerRow, toNatClampNeg_max_zero]
  · rw [resize_stored stored size.width size.height, wordsFor, stride, Format.stride,
      Nat.mul_div_cancel_left _ (by decide), high, toNatClampNeg_max_zero]
  · intro p after before
    rw [read, if_pos ((inside p).mp after), if_pos before]
  · intro p after fresh
    rw [read, if_pos ((inside p).mp after), if_neg fresh, Format.readBack_zero]
  · exact fun p outside => pixel?_of_not_mem outside

def resizeAll (s : Surface) (sizes : List Size) : Surface :=
  sizes.foldl (fun s size => s.resize size.width size.height) s

theorem resizeAll_cons (s : Surface) (size : Size) (rest : List Size) :
    s.resizeAll (size :: rest) = (s.resize size.width size.height).resizeAll rest :=
  List.foldl_cons ..

/-- What is left of a pixel once all sizes have been taken: it is still the same if it has been
inside all the time, and else what a pixel of a new surface is. -/
theorem pixel?_resizeAll (stored : s.Stored) (sizes : List Size) (p : Point) :
    (s.resizeAll sizes).pixel? p =
      if p ∈ (s.resizeAll sizes).bounds then
        if p ∈ s.bounds ∧ ∀ size ∈ sizes, p ∈ Rect.ofSize size then s.pixel? p
        else some s.format.blank
      else none := by
  induction sizes generalizing s with
  | nil =>
      by_cases inside : p ∈ s.bounds
      · simp [resizeAll, inside]
      · simp [resizeAll, inside, pixel?_of_not_mem inside]
  | cons size rest ih =>
      have resized := resize_resized stored size
      have within := s.resize_bounds size p
      have later := ih (resize_stored stored size.width size.height)
      rw [resized.format] at later
      rw [resizeAll_cons, later]
      simp only [List.forall_mem_cons]
      by_cases first : p ∈ (s.resize size.width size.height).bounds
      · by_cases before : p ∈ s.bounds
        · rw [resized.kept p first before]
          simp only [first, before, within.mp first, true_and]
        · rw [resized.fresh p first before]
          simp only [before, false_and, if_false, ite_self]
      · have gone : p ∉ Rect.ofSize size := fun inside => first (within.mpr inside)
        simp only [first, gone, false_and, and_false, if_false]

theorem Alike.size (alike : s.Alike t) : s.size = t.size := by
  rw [Surface.size, Surface.size, alike.width, alike.height]

theorem clear_alike (s : Surface) (color : Color) : (s.clear color).Alike s :=
  paint_alike (fun _ _ => color.toPixel) s s.bounds

theorem pixel?_clear (stored : s.Stored) (color : Color) (p : Point) :
    (s.clear color).pixel? p =
      if p ∈ s.bounds then some (s.format.kept color.toPixel) else none := by
  rw [clear, pixel?_paint]
  split
  · rename_i inside
    rw [pixel?_of_mem inside, Option.map_some, landing_of_stored stored inside, Format.readBack_eq]
  · rename_i outside
    exact pixel?_of_not_mem outside

end Resize

/-- The surfaces have the same pixels. The rest of what their storages hold may differ. -/
structure LooksLike (s t : Surface) : Prop where
  format : s.format = t.format
  size : s.size = t.size
  pixels : ∀ p, s.pixel? p = t.pixel? p

namespace LooksLike

variable {s t : Surface} (looks : s.LooksLike t)

include looks

theorem bounds : s.bounds = t.bounds := by
  rw [Surface.bounds, Surface.bounds, looks.size]

theorem painted {s' t' : Surface} (first : s'.Alike s) (second : t'.Alike t)
    (pixels : ∀ p, s'.pixel? p = t'.pixel? p) : s'.LooksLike t' where
  format := first.format.trans (looks.format.trans second.format.symm)
  size := by
    rw [first.size, second.size]
    exact looks.size
  pixels := pixels

theorem resize (width height : Int32) :
    (s.resize width height).LooksLike (t.resize width height) where
  format := by
    rw [(s.resize_frame width height).1, (t.resize_frame width height).1, looks.format]
  size := by
    rw [(s.resize_frame width height).2, (t.resize_frame width height).2]
  pixels p := by
    rw [pixel?_resize, pixel?_resize, looks.bounds, looks.pixels, looks.format]

variable (formed : s.Formed) (well : t.Formed)

include formed well

theorem setPixel (p : Point) (pixel : Pixel) :
    (s.setPixel p pixel).LooksLike (t.setPixel p pixel) := by
  apply looks.painted (s.setPixel_alike p pixel) (t.setPixel_alike p pixel)
  intro q
  by_cases apart : q ≠ p
  · rw [pixel?_setPixel_other pixel apart, pixel?_setPixel_other pixel apart, looks.pixels]
  · rw [not_ne_iff.mp apart]
    by_cases inside : p ∈ s.bounds
    · rw [formed.isArray.same p inside, well.isArray.same p (looks.bounds ▸ inside), looks.format]
    · rw [(formed.isArray.outside p inside).2, (well.isArray.outside p (looks.bounds ▸ inside)).2,
        looks.pixels]

theorem clear (color : Color) : (s.clear color).LooksLike (t.clear color) := by
  apply looks.painted (clear_alike s color) (clear_alike t color)
  intro p
  rw [pixel?_clear formed.stored, pixel?_clear well.stored, looks.bounds, looks.format]

theorem answer (request : Request) : (s.answer request).LooksLike (t.answer request) := by
  cases request with
  | setPixel p pixel => exact looks.setPixel formed well p pixel
  | clear color => exact looks.clear formed well color
  | resize width height => exact looks.resize width height
  | reserve width height => exact ⟨looks.format, looks.size, looks.pixels⟩
  | shrink => exact ⟨looks.format, looks.size, looks.pixels⟩

/-- What is hidden in a storage is of no account for anything that is read later. -/
theorem answerAll (requests : List Request) :
    (s.answerAll requests).LooksLike (t.answerAll requests) := by
  induction requests generalizing s t with
  | nil => exact looks
  | cons request rest ih =>
      exact ih (looks.answer formed well request) (answer_formed formed request).2
        (answer_formed well request).2

end LooksLike

/-- Whatever has been asked of a surface, and whatever size it then takes, it keeps the pixels that
both sizes have and is blank elsewhere, and its storage is resized in place. So a pixel that lasts
through many sizes has been inside all of them, and surfaces that look the same go on doing so,
whatever their storages have kept of other pixels. -/
theorem resize_keeps_common (format : Format) (width height : Int32) (requests : List Request) :
    let s := (blank format width height).answerAll requests
    (∀ size, s.resizeInPlace? size.width size.height = some (s.resize size.width size.height) ∧
      s.Resized (s.resize size.width size.height) size) ∧
    (∀ sizes p, (s.resizeAll sizes).pixel? p =
      if p ∈ (s.resizeAll sizes).bounds then
        if p ∈ s.bounds ∧ ∀ size ∈ sizes, p ∈ Rect.ofSize size then s.pixel? p
        else some format.blank
      else none) ∧
    ∀ other : Surface, other.Formed → other.LooksLike s → ∀ later,
      (other.answerAll later).LooksLike (s.answerAll later) := by
  intro s
  rcases answerAll_formed (blank_formed format width height) requests with ⟨same, formed⟩
  have own : s.format = format := same
  refine ⟨?_, ?_, ?_⟩
  · intro size
    exact ⟨resizeInPlace?_eq formed.stored size.width size.height,
      resize_resized formed.stored size⟩
  · intro sizes p
    rw [pixel?_resizeAll formed.stored, own]
  · intro other well looks later
    exact looks.answerAll well formed later

end Surface

end Compositing
