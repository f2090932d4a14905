import Mathlib.Data.List.Pairwise
import Compositing.Proofs.LeastCover

/-! What rectangles have in common, whatever their sides: an extent may be negative, and a far edge
may be held at the end of the plane. -/

namespace Compositing.Rect

/-- The rectangles have no point in common; their edges may still touch. -/
def Disjoint (a b : Rect) : Prop := ∀ p, p ∈ a → p ∉ b

theorem meets_comm {a b : Rect} : a.Meets b ↔ b.Meets a := ⟨.symm, .symm⟩

/-- The converse fails for rectangles that meet at no more than an edge. -/
theorem Meets.of_shows {a b : Rect} (shows : (a.overlap b).isEmpty = false) : a.Meets b :=
  have inside := mem_overlap.mp (corner_mem_overlap shows)
  .of_mem inside.1 inside.2

section Lists

variable {rects others : List Rect}

theorem mem_overlaps {r : Rect} :
    r ∈ overlaps rects others ↔
      (∃ a ∈ rects, ∃ b ∈ others, a.overlap b = r) ∧ r.isEmpty = false := by
  simp only [overlaps, List.mem_filter, List.mem_flatMap, List.mem_map, Bool.not_eq_true']

theorem mem_some_overlap {p : Point} :
    (∃ r ∈ overlaps rects others, p ∈ r) ↔ (∃ a ∈ rects, p ∈ a) ∧ ∃ b ∈ others, p ∈ b := by
  constructor
  · rintro ⟨r, listed, inside⟩
    rcases mem_overlaps.mp listed with ⟨⟨a, first, b, second, rfl⟩, _⟩
    rw [mem_overlap] at inside
    exact ⟨⟨a, first, inside.1⟩, b, second, inside.2⟩
  · rintro ⟨⟨a, first, left⟩, b, second, right⟩
    have inside : p ∈ a.overlap b := mem_overlap.mpr ⟨left, right⟩
    have shows : (a.overlap b).isEmpty = false :=
      eq_false_of_ne_true fun empty => not_mem_of_isEmpty empty p inside
    exact ⟨a.overlap b, mem_overlaps.mpr ⟨⟨a, first, b, second, rfl⟩, shows⟩, inside⟩

theorem Disjoint.overlap_left {a b : Rect} (disjoint : a.Disjoint b) (c d : Rect) :
    (a.overlap c).Disjoint (b.overlap d) :=
  fun p left right => disjoint p (mem_overlap.mp left).1 (mem_overlap.mp right).1

theorem Disjoint.overlap_right {a b : Rect} (disjoint : a.Disjoint b) (c d : Rect) :
    (c.overlap a).Disjoint (d.overlap b) :=
  fun p left right => disjoint p (mem_overlap.mp left).2 (mem_overlap.mp right).2

/-- Two of the results are cut from different rectangles of the first list, or from the same one by
different rectangles of the second. -/
theorem overlaps_disjoint (first : rects.Pairwise Disjoint) (second : others.Pairwise Disjoint) :
    (overlaps rects others).Pairwise Disjoint := by
  apply List.Pairwise.filter
  rw [List.pairwise_flatMap]
  constructor
  · intro a _
    rw [List.pairwise_map]
    exact second.imp fun disjoint => disjoint.overlap_right a a
  · apply first.imp
    intro a b disjoint r from_a s from_b
    rcases List.mem_map.mp from_a with ⟨c, _, rfl⟩
    rcases List.mem_map.mp from_b with ⟨d, _, rfl⟩
    exact disjoint.overlap_left c d

end Lists

/-- What rectangles have in common is exact for all of them: it holds the points that both hold,
does not depend on order or grouping, and is empty unless they meet. Of two lists, what each
rectangle of one shares with each of the other covers the points that both lists cover, with nothing
empty among it, and holds no point twice if neither list does. -/
theorem overlap_exact (a b c : Rect) (p : Point) (rects others : List Rect) :
    (p ∈ a.overlap b ↔ p ∈ a ∧ p ∈ b) ∧
      a.overlap b = b.overlap a ∧
      (a.overlap b).overlap c = a.overlap (b.overlap c) ∧
      ((a.overlap b).isEmpty = false → a.Meets b) ∧
      (a.Meets b ↔ b.Meets a) ∧
      (∀ r ∈ overlaps rects others, r.isEmpty = false) ∧
      ((∃ r ∈ overlaps rects others, p ∈ r) ↔ (∃ r ∈ rects, p ∈ r) ∧ ∃ r ∈ others, p ∈ r) ∧
      ((rects.Pairwise fun r s => ∀ q, q ∈ r → q ∉ s) →
        (others.Pairwise fun r s => ∀ q, q ∈ r → q ∉ s) →
        (overlaps rects others).Pairwise fun r s => ∀ q, q ∈ r → q ∉ s) := by
  refine ⟨mem_overlap, overlap_comm a b, overlap_assoc a b c, .of_shows, meets_comm, ?_,
    mem_some_overlap, overlaps_disjoint⟩
  exact fun r listed => (mem_overlaps.mp listed).2

def atFarEdge : List Rect := [⟨2147483642, 0, 10, 10⟩, ⟨2147483640, 0, 2, 8⟩, ⟨0, 0, -5, 7⟩]

theorem overlap_exact_at_far_edge :
    overlaps atFarEdge [⟨2147483639, 5, 100, 100⟩, ⟨0, 0, 1, -1⟩] =
        [⟨2147483642, 5, 5, 5⟩, ⟨2147483640, 5, 2, 3⟩] ∧
      (overlaps atFarEdge [⟨2147483639, 5, 100, 100⟩, ⟨0, 0, 1, -1⟩]).Pairwise
        fun r s => ∀ q, q ∈ r → q ∉ s := by
  rcases overlap_exact ⟨0, 0, 0, 0⟩ ⟨0, 0, 0, 0⟩ ⟨0, 0, 0, 0⟩ .origin atFarEdge
    [⟨2147483639, 5, 100, 100⟩, ⟨0, 0, 1, -1⟩] with ⟨_, _, _, _, _, _, _, disjoint⟩
  refine ⟨by decide, disjoint ?_ ?_⟩
  all_goals simp only [atFarEdge, List.pairwise_cons, ← overlap_isEmpty_iff_forall]
  · decide
  · decide

end Compositing.Rect
