import Compositing.Proofs.Pixels

/-! Resizing a surface, pixel by pixel. A pixel that lies in the old size and in the new one stays
what it was, wherever its word has moved to; every other one of the new size is as if cleared. -/

namespace Compositing.Surface

section MoveRows

variable (old : Array UInt32) {oldRow newRow rows length row column : Nat}

theorem getD_moveRows (kept : row < rows) (before : column < oldRow) (after : column < newRow)
    (held : row * newRow + column < length) :
    (moveRows old oldRow newRow rows length).getD (row * newRow + column) 0 =
      old.getD (row * oldRow + column) 0 := by
  have size : row * newRow + column < (moveRows old oldRow newRow rows length).size := by
    rwa [moveRows, Array.size_ofFn]
  have wide : 0 < newRow := Nat.lt_of_le_of_lt (Nat.zero_le column) after
  have quotient : (row * newRow + column) / newRow = row := by
    rw [Nat.mul_comm, Nat.mul_add_div wide, Nat.div_eq_of_lt after, Nat.add_zero]
  have remainder : (row * newRow + column) % newRow = column := by
    rw [Nat.mul_comm, Nat.mul_add_mod, Nat.mod_eq_of_lt after]
  rw [← Array.getElem_eq_getD (h := size)]
  simp only [moveRows, Array.getElem_ofFn, quotient, remainder]
  rw [if_pos ⟨kept, Nat.lt_min.mpr ⟨before, after⟩⟩]

end MoveRows

variable (s : Surface) (width height : Int32)

def moved : Surface :=
  let length := wordsFor s.format (max width 0) (max height 0)
  ⟨s.format, max width 0, max height 0,
    moveRows s.words (s.format.wordsPerRow s.width) (s.format.wordsPerRow (max width 0))
      (min s.height (max height 0)).toNatClampNeg length,
    roomFor s.capacity length⟩

def uncovered : List Point :=
  exposed (max width 0) (max height 0) (min s.width (max width 0)) (min s.height (max height 0))

theorem resize_eq :
    s.resize width height =
      if max width 0 = s.width ∧ max height 0 = s.height then s
      else (s.moved width height).paintAll (fun _ _ => 0) (s.uncovered width height) := rfl

theorem moved_stored : (s.moved width height).Stored := Array.size_ofFn

theorem mem_uncovered {p : Point} (inside : p ∈ (s.moved width height).bounds) :
    p ∈ s.uncovered width height ↔ p ∉ s.bounds := by
  have shows : (Rect.mk 0 0 (max width 0) (max height 0)).isEmpty = false :=
    eq_false_of_ne_true fun empty => Rect.not_mem_of_isEmpty empty p inside
  rw [mem_bounds] at inside ⊢
  simp only [moved] at inside
  simp only [uncovered, exposed, shows, Bool.false_eq_true, if_false, List.mem_flatMap,
    List.mem_map, mem_coordinates]
  have rows := toInt_min s.height (max height 0)
  have columns := toInt_min s.width (max width 0)
  constructor
  · intro listed
    rcases listed with ⟨y, down, x, across, rfl⟩
    dsimp only at inside ⊢
    split at across
    · omega
    · rename_i below
      rw [Int32.lt_iff_toInt_lt] at below
      omega
  · intro outside
    refine ⟨p.y, ⟨inside.2.2.1, inside.2.2.2⟩, p.x, ⟨?_, inside.2.1⟩, rfl⟩
    split
    · rename_i above
      rw [Int32.lt_iff_toInt_lt] at above
      omega
    · exact inside.1

theorem uncovered_nodup : (s.uncovered width height).Nodup := by
  rw [uncovered, exposed]
  split
  · exact List.nodup_nil
  · exact rows_nodup (coordinates_nodup _ _) fun _ => coordinates_nodup _ _

theorem pixel?_moved {p : Point} (before : p ∈ s.bounds)
    (after : p ∈ (s.moved width height).bounds) :
    (s.moved width height).pixel? p = s.pixel? p := by
  have length : (s.moved width height).words.size = _ := s.moved_stored width height
  have held := wordIndex_lt (s.moved_stored width height) after
  have first := column_lt before
  have second := column_lt after
  have kept : p.y.toNatClampNeg < (min s.height (max height 0)).toNatClampNeg := by
    rw [mem_bounds] at before after
    simp only [moved] at after
    rw [toNatClampNeg_eq, toNatClampNeg_eq, toInt_min]
    omega
  rw [length] at held
  have word := getD_moveRows s.words kept first second held
  rw [pixel?, pixel?, if_pos before, if_pos after]
  exact congrArg (some <| s.format.load p.x.toNatClampNeg ·) word

theorem pixel?_resize (p : Point) :
    (s.resize width height).pixel? p =
      if p ∈ Rect.mk 0 0 (max width 0) (max height 0) then
        if p ∈ s.bounds then s.pixel? p else some (s.format.readBack 0)
      else none := by
  rw [resize_eq]
  split
  · rename_i same
    rw [same.1, same.2]
    change s.pixel? p = if p ∈ s.bounds then _ else _
    split
    · rfl
    · rename_i outside
      exact pixel?_of_not_mem outside
  · have alike := paintAll_alike (fun _ _ => 0) (s.moved width height) (s.uncovered width height)
    change _ = if p ∈ (s.moved width height).bounds then _ else _
    by_cases inside : p ∈ (s.moved width height).bounds
    · rw [if_pos inside]
      split
      · rename_i before
        have shown : p ∉ s.uncovered width height := by
          rw [s.mem_uncovered width height inside]
          exact not_not.mpr before
        rw [pixel?_paintAll_of_not_mem _ _ shown, s.pixel?_moved width height before inside]
      · rename_i fresh
        have cleared := (s.mem_uncovered width height inside).mpr fresh
        rw [pixel?_paintAll_of_mem _ _ (s.uncovered_nodup width height) cleared inside,
          landing_of_stored (s.moved_stored width height) inside]
        rfl
    · rw [if_neg inside]
      exact pixel?_of_not_mem (by rwa [alike.bounds])

end Compositing.Surface
