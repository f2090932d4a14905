import Compositing.Proofs.Plane

/-! Separating rectangles. No two of the rectangles that are left meet, whatever they were made
from; and as long as all edges lie within one frame, every rectangle that went in is enclosed by
one that came out. -/

namespace Compositing.Rect

def Apart (a b : Rect) : Prop := ¬ a.Meets b

theorem not_mem_of_apart {a b : Rect} (apart : a.Apart b) {p : Point} (inside : p ∈ a) : p ∉ b :=
  fun other => apart (.of_mem inside other)

/-- Of rectangles that are apart, just one has a property that no two have unless they meet. -/
theorem countP_of_apart {rects : List Rect} (disjoint : rects.Pairwise Apart) {holds : Rect → Bool}
    (meets : ∀ a b, holds a → holds b → a.Meets b) (found : ∃ r ∈ rects, holds r) :
    rects.countP holds = 1 := by
  induction rects with
  | nil =>
      rcases found with ⟨r, member, _⟩
      cases member
  | cons r rest ih =>
      rcases List.pairwise_cons.mp disjoint with ⟨alone, disjoint⟩
      by_cases own : holds r
      · have elsewhere : rest.countP holds = 0 := by
          apply List.countP_eq_zero.mpr
          intro other member again
          exact alone other member (meets r other own again)
        simp [own, elsewhere]
      · rcases found with ⟨other, member, there⟩
        rcases List.mem_cons.mp member with rfl | later
        · exact absurd there own
        · simp [own, ih disjoint ⟨other, later, there⟩]

/-- All edges of the rectangle lie within a frame as wide and as high as a coordinate can
count. -/
structure InFrame (left top : Int) (r : Rect) : Prop where
  left_le : left ≤ r.x.toInt
  x_le : r.x.toInt ≤ left + 2147483647
  right_le : r.right.toInt ≤ left + 2147483647
  top_le : top ≤ r.y.toInt
  y_le : r.y.toInt ≤ top + 2147483647
  bottom_le : r.bottom.toInt ≤ top + 2147483647

/-- All edges of the rectangle, exact even where they lie beyond the plane, are within a window as
wide and as high as a coordinate can count. -/
structure InWindow (left top : Int) (r : Rect) : Prop where
  x : left ≤ r.x.toInt ∧ r.x.toInt ≤ left + 2147483647
  right : left ≤ r.x.toInt + r.width.toInt ∧ r.x.toInt + r.width.toInt ≤ left + 2147483647
  y : top ≤ r.y.toInt ∧ r.y.toInt ≤ top + 2147483647
  bottom : top ≤ r.y.toInt + r.height.toInt ∧ r.y.toInt + r.height.toInt ≤ top + 2147483647

instance (left top : Int) (r : Rect) : Decidable (r.InWindow left top) :=
  decidable_of_iff
    ((left ≤ r.x.toInt ∧ r.x.toInt ≤ left + 2147483647) ∧
      (left ≤ r.x.toInt + r.width.toInt ∧ r.x.toInt + r.width.toInt ≤ left + 2147483647) ∧
      (top ≤ r.y.toInt ∧ r.y.toInt ≤ top + 2147483647) ∧
      top ≤ r.y.toInt + r.height.toInt ∧ r.y.toInt + r.height.toInt ≤ top + 2147483647)
    ⟨fun edges => ⟨edges.1, edges.2.1, edges.2.2.1, edges.2.2.2⟩,
      fun within => ⟨within.x, within.right, within.y, within.bottom⟩⟩

theorem InWindow.inFrame {left top : Int} {r : Rect} (within : r.InWindow left top) :
    r.InFrame left top := by
  have start := toInt_bounds r.x
  have above := toInt_bounds r.y
  rcases within with ⟨x, right, y, bottom⟩
  refine ⟨x.1, x.2, ?_, y.1, y.2, ?_⟩
  · rw [Rect.right, toInt_saturatingAdd]
    omega
  · rw [Rect.bottom, toInt_saturatingAdd]
    omega

section Sides

variable (a b : Rect)

theorem toInt_hull_x : (a.hull b).x.toInt = min a.x.toInt b.x.toInt := toInt_min ..

theorem toInt_hull_y : (a.hull b).y.toInt = min a.y.toInt b.y.toInt := toInt_min ..

theorem toInt_hull_width :
    (a.hull b).width.toInt = min 2147483647
      (max 0 (max a.right.toInt b.right.toInt - min a.x.toInt b.x.toInt)) := by
  change (extent (min a.x b.x) (max a.right b.right)).toInt = _
  rw [toInt_extent, toInt_min, toInt_max]

theorem toInt_hull_height :
    (a.hull b).height.toInt = min 2147483647
      (max 0 (max a.bottom.toInt b.bottom.toInt - min a.y.toInt b.y.toInt)) := by
  change (extent (min a.y b.y) (max a.bottom b.bottom)).toInt = _
  rw [toInt_extent, toInt_min, toInt_max]

theorem toInt_hull_right :
    (a.hull b).right.toInt = min (min a.x.toInt b.x.toInt + 2147483647)
      (max (min a.x.toInt b.x.toInt) (max a.right.toInt b.right.toInt)) := by
  change (saturatingAdd (min a.x b.x) (extent (min a.x b.x) (max a.right b.right))).toInt = _
  rw [toInt_end, toInt_min, toInt_max]

theorem toInt_hull_bottom :
    (a.hull b).bottom.toInt = min (min a.y.toInt b.y.toInt + 2147483647)
      (max (min a.y.toInt b.y.toInt) (max a.bottom.toInt b.bottom.toInt)) := by
  change (saturatingAdd (min a.y b.y) (extent (min a.y b.y) (max a.bottom b.bottom))).toInt = _
  rw [toInt_end, toInt_min, toInt_max]

end Sides

section Hull

variable {left top : Int} {a b : Rect} (first : a.InFrame left top) (second : b.InFrame left top)

include first second

/-- Within a frame no side of a hull is cut short. -/
theorem hull_edges :
    (a.hull b).x.toInt = min a.x.toInt b.x.toInt ∧
      (a.hull b).right.toInt = max (min a.x.toInt b.x.toInt) (max a.right.toInt b.right.toInt) ∧
      (a.hull b).y.toInt = min a.y.toInt b.y.toInt ∧
      (a.hull b).bottom.toInt =
        max (min a.y.toInt b.y.toInt) (max a.bottom.toInt b.bottom.toInt) := by
  refine ⟨toInt_hull_x a b, ?_, toInt_hull_y a b, ?_⟩
  · rw [toInt_hull_right]
    cases first
    cases second
    omega
  · rw [toInt_hull_bottom]
    cases first
    cases second
    omega

theorem hull_inFrame : (a.hull b).InFrame left top := by
  have edges := hull_edges first second
  cases first
  cases second
  constructor <;> omega

theorem hull_encloses_left : (a.hull b).Encloses a := by
  have edges := hull_edges first second
  rw [encloses_toInt]
  omega

theorem hull_encloses_right : (a.hull b).Encloses b := by
  have edges := hull_edges first second
  rw [encloses_toInt]
  omega

end Hull

/-- Every rectangle of the second list is enclosed by one of the first. -/
def Covers (covering covered : List Rect) : Prop :=
  ∀ r ∈ covered, ∃ cover ∈ covering, cover.Encloses r

theorem Covers.trans {a b c : List Rect} (outer : Covers a b) (inner : Covers b c) :
    Covers a c := by
  intro r member
  obtain ⟨middle, present, closer⟩ := inner r member
  obtain ⟨cover, found, wider⟩ := outer middle present
  exact ⟨cover, found, wider.trans closer⟩

theorem takeMeeting_none {r : Rect} {rects : List Rect} (none_meets : takeMeeting r rects = none) :
    ∀ other ∈ rects, r.Apart other := by
  induction rects with
  | nil => intro other member; cases member
  | cons next rest ih =>
      rw [takeMeeting] at none_meets
      split at none_meets
      · cases none_meets
      · rename_i apart
        intro other member
        rcases List.mem_cons.mp member with rfl | member
        · exact apart
        · exact ih (Option.map_eq_none_iff.mp none_meets) other member

theorem takeMeeting_some {r found : Rect} {rects left : List Rect}
    (taken : takeMeeting r rects = some (found, left)) :
    r.Meets found ∧ rects.Perm (found :: left) := by
  induction rects generalizing left with
  | nil => cases taken
  | cons next rest ih =>
      rw [takeMeeting] at taken
      split at taken
      · rename_i meets
        cases taken
        exact ⟨meets, .refl _⟩
      · obtain ⟨⟨inner, remaining⟩, inside, same⟩ := Option.map_eq_some_iff.mp taken
        cases same
        obtain ⟨meets, rearranged⟩ := ih inside
        exact ⟨meets, (rearranged.cons next).trans (.swap found next remaining)⟩

theorem absorb_apart (r : Rect) (rects : List Rect) :
    ∀ other ∈ (absorb r rects).2, (absorb r rects).1.Apart other := by
  fun_induction absorb r rects with
  | case1 r rects none_meets => exact takeMeeting_none none_meets
  | case2 r rects found left taken shorter ih => exact ih

theorem absorb_of_none {r : Rect} {rects : List Rect} (none_meets : takeMeeting r rects = none) :
    absorb r rects = (r, rects) := by
  rw [absorb]
  split
  · rfl
  · rename_i taken
    rw [none_meets] at taken
    cases taken

theorem absorb_of_some {r found : Rect} {rects left : List Rect}
    (taken : takeMeeting r rects = some (found, left)) :
    absorb r rects = absorb (r.hull found) left := by
  rw [absorb]
  split
  · rename_i none_meets
    rw [none_meets] at taken
    cases taken
  · rename_i again
    rw [again] at taken
    cases taken
    rfl

theorem absorb_of_length {r : Rect} {rects : List Rect}
    (kept : (absorb r rects).2.length = rects.length) : absorb r rects = (r, rects) := by
  cases taken : takeMeeting r rects with
  | none => exact absorb_of_none taken
  | some pair =>
      have shorter := takeMeeting_length taken
      have bound := absorb_length (r.hull pair.1) pair.2
      rw [absorb_of_some taken] at kept
      omega

/-- Merging two rectangles that meet, wherever they stand in the list, any number of times. -/
inductive Merges : List Rect → List Rect → Prop
  | done {before after : List Rect} (rearranged : before.Perm after) : Merges before after
  | merge {before left after : List Rect} {a b : Rect} (meets : a.Meets b)
      (found : before.Perm (a :: b :: left)) (rest : Merges (a.hull b :: left) after) :
      Merges before after

namespace Merges

variable {before middle after : List Rect}

theorem of_perm (rearranged : before.Perm middle) (merges : Merges middle after) :
    Merges before after := by
  cases merges with
  | done again => exact .done (rearranged.trans again)
  | merge meets found rest => exact .merge meets (rearranged.trans found) rest

theorem trans (first : Merges before middle) (second : Merges middle after) :
    Merges before after := by
  induction first with
  | done rearranged => exact second.of_perm rearranged
  | merge meets found rest ih => exact .merge meets found (ih second)

theorem cons (r : Rect) (merges : Merges before after) : Merges (r :: before) (r :: after) := by
  induction merges with
  | done rearranged => exact .done (rearranged.cons r)
  | @merge before left after a b meets found rest ih =>
      have moved : (r :: before).Perm (a :: b :: r :: left) := calc
        (r :: before).Perm (r :: a :: b :: left) := found.cons r
        _ |>.Perm (a :: r :: b :: left) := .swap a r (b :: left)
        _ |>.Perm (a :: b :: r :: left) := (List.Perm.swap b r left).cons a
      exact .merge meets moved (ih.of_perm (.swap r (a.hull b) left))

/-- What holds of the rectangles, and of the hull of any two that meet, holds of what they are
merged into. -/
theorem forall_mem {holds : Rect → Prop} (merges : Merges before after)
    (hull : ∀ a b, holds a → holds b → a.Meets b → holds (a.hull b))
    (start : ∀ r ∈ before, holds r) : ∀ r ∈ after, holds r := by
  induction merges with
  | done rearranged => exact fun r member => start r (rearranged.mem_iff.mpr member)
  | merge meets found rest ih =>
      simp only [found.mem_iff, List.forall_mem_cons] at start
      rcases start with ⟨first, second, others⟩
      exact ih (List.forall_mem_cons.mpr ⟨hull _ _ first second meets, others⟩)

theorem covers {left top : Int} (merges : Merges before after)
    (framed : ∀ r ∈ before, r.InFrame left top) : Covers after before := by
  induction merges with
  | done rearranged => exact fun r member => ⟨r, rearranged.mem_iff.mp member, .refl r⟩
  | merge meets found rest ih =>
      simp only [found.mem_iff, List.forall_mem_cons] at framed
      rcases framed with ⟨first, second, others⟩
      have merged := ih (List.forall_mem_cons.mpr ⟨hull_inFrame first second, others⟩)
      refine merged.trans ?_
      simp only [Covers, found.mem_iff, List.forall_mem_cons]
      refine ⟨⟨_, List.mem_cons_self, hull_encloses_left first second⟩,
        ⟨_, List.mem_cons_self, hull_encloses_right first second⟩, ?_⟩
      exact fun r member => ⟨r, List.mem_cons_of_mem _ member, .refl r⟩

end Merges

theorem absorb_merges (r : Rect) (rects : List Rect) :
    Merges (r :: rects) ((absorb r rects).1 :: (absorb r rects).2) := by
  fun_induction absorb r rects with
  | case1 r rects none_meets => exact .done (.refl _)
  | case2 r rects found left taken shorter ih =>
      have first := takeMeeting_some taken
      exact .merge first.1 (first.2.cons r) ih

theorem sweep_merges (rects : List Rect) : Merges rects (sweep rects) := by
  fun_induction sweep rects with
  | case1 => exact .done (.refl [])
  | case2 r rest ih => exact (absorb_merges r rest).trans (ih.cons _)

theorem separate_merges (rects : List Rect) : Merges rects (separate rects) := by
  fun_induction separate rects with
  | case1 rects shrunk ih => exact (sweep_merges rects).trans ih
  | case2 rects kept => exact sweep_merges rects

theorem sweep_of_length {rects : List Rect} (kept : (sweep rects).length = rects.length) :
    sweep rects = rects ∧ rects.Pairwise Apart := by
  fun_induction sweep rects with
  | case1 => exact ⟨rfl, .nil⟩
  | case2 r rest ih =>
      have bound := absorb_length r rest
      have shorter := sweep_length (absorb r rest).2
      simp only [List.length_cons] at kept
      have alone : absorb r rest = (r, rest) := absorb_of_length (by omega)
      have apart := absorb_apart r rest
      simp only [alone] at kept ih apart ⊢
      obtain ⟨same, pairwise⟩ := ih (by omega)
      exact ⟨by rw [same], pairwise.cons apart⟩

theorem separate_nil : separate [] = [] := by
  simp [separate, sweep]

theorem separate_pairwise (rects : List Rect) : (separate rects).Pairwise Apart := by
  fun_induction separate rects with
  | case1 rects shrunk ih => exact ih
  | case2 rects kept =>
      have bound := sweep_length rects
      obtain ⟨same, pairwise⟩ : sweep rects = rects ∧ rects.Pairwise Apart :=
        sweep_of_length (by omega)
      rw [same]
      exact pairwise

theorem separate_covers {left top : Int} {rects : List Rect}
    (framed : ∀ r ∈ rects, r.InFrame left top) : Covers (separate rects) rects :=
  (separate_merges rects).covers framed

end Compositing.Rect
