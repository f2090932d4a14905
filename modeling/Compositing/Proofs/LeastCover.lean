import Mathlib.Data.Finset.Max
import Mathlib.Data.List.Pairwise
import Compositing.Damage
import Compositing.Proofs.Separation

/-! Separating computes the least cover by rectangles that are apart. So what comes out depends on
what there is to cover, and not on the order, on repetition, or on what was merged before. -/

namespace Compositing

namespace Rect

structure OrderedIn (left top : Int) (r : Rect) : Prop extends InFrame left top r where
  across : r.x.toInt ≤ r.right.toInt
  down : r.y.toInt ≤ r.bottom.toInt

structure Exact (r : Rect) : Prop where
  right : r.right.toInt = r.x.toInt + r.width.toInt
  bottom : r.bottom.toInt = r.y.toInt + r.height.toInt

structure ExactIn (left top : Int) (r : Rect) : Prop extends OrderedIn left top r, Exact r

section Frame

variable {rects : List Rect}

theorem exists_least (filled : rects ≠ []) (edge : Rect → Int) :
    ∃ first ∈ rects, ∀ r ∈ rects, edge first ≤ edge r := by
  rcases rects.toFinset.exists_min_image edge (by simpa using filled) with ⟨first, member, least⟩
  exact ⟨first, List.mem_toFinset.mp member, fun r other => least r (List.mem_toFinset.mpr other)⟩

theorem exists_frame (upright : ∀ r ∈ rects, 0 ≤ r.width ∧ 0 ≤ r.height)
    (narrow : ∀ a ∈ rects, ∀ b ∈ rects, b.right.toInt - a.x.toInt ≤ Int32.maxValue.toInt ∧
      b.bottom.toInt - a.y.toInt ≤ Int32.maxValue.toInt) :
    ∃ left top, ∀ r ∈ rects, r.OrderedIn left top := by
  by_cases filled : rects = []
  · exact ⟨0, 0, by simp [filled]⟩
  · rcases exists_least filled (·.x.toInt) with ⟨leftmost, first, left_le⟩
    rcases exists_least filled (·.y.toInt) with ⟨topmost, second, top_le⟩
    refine ⟨leftmost.x.toInt, topmost.y.toInt, ?_⟩
    intro r member
    have largest : Int32.maxValue.toInt = 2147483647 := rfl
    have across := across_of_width (upright r member).1
    have down := down_of_height (upright r member).2
    have wide := (narrow leftmost first r member).1
    have high := (narrow topmost second r member).2
    have starts := left_le r member
    have tops := top_le r member
    constructor
    · constructor <;> omega
    · exact across
    · exact down

theorem InWindow.exactIn {left top : Int} {r : Rect} (within : r.InWindow left top)
    (upright : 0 ≤ r.width ∧ 0 ≤ r.height)
    (onPlane : r.x.toInt + r.width.toInt ≤ Int32.maxValue.toInt ∧
      r.y.toInt + r.height.toInt ≤ Int32.maxValue.toInt) : r.ExactIn left top := by
  have wide := Int32.le_iff_toInt_le.mp upright.1
  have high := Int32.le_iff_toInt_le.mp upright.2
  have largest : Int32.maxValue.toInt = 2147483647 := rfl
  have x := toInt_bounds r.x
  have y := toInt_bounds r.y
  rw [toInt_zero] at wide high
  refine ⟨⟨within.inFrame, across_of_width upright.1, down_of_height upright.2⟩, ?_, ?_⟩
  · rw [Rect.right, toInt_saturatingAdd]
    omega
  · rw [Rect.bottom, toInt_saturatingAdd]
    omega

end Frame

theorem Meets.mono {a b c d : Rect} (outer : a.Encloses c) (other : b.Encloses d)
    (meets : c.Meets d) : a.Meets b := by
  rw [encloses_toInt] at outer other
  rw [meets_toInt] at meets ⊢
  omega

theorem Meets.symm {a b : Rect} (meets : a.Meets b) : b.Meets a := by
  rw [meets_toInt] at meets ⊢
  omega

instance : Std.Symm Apart := ⟨fun _ _ apart meets => apart meets.symm⟩

theorem eq_of_meets {rects : List Rect} (disjoint : rects.Pairwise Apart) {a b : Rect}
    (first : a ∈ rects) (second : b ∈ rects) (meets : a.Meets b) : a = b := by
  by_contra different
  exact disjoint.forall first second different meets

theorem Exact.eq_of_encloses {a b : Rect} (first : a.Exact) (second : b.Exact)
    (outer : a.Encloses b) (inner : b.Encloses a) : a = b := by
  rw [encloses_toInt] at outer inner
  rcases first with ⟨right, bottom⟩
  rcases second with ⟨right', bottom'⟩
  have x : a.x = b.x := Int32.toInt_inj.mp (by omega)
  have y : a.y = b.y := Int32.toInt_inj.mp (by omega)
  have width : a.width = b.width := Int32.toInt_inj.mp (by omega)
  have height : a.height = b.height := Int32.toInt_inj.mp (by omega)
  cases a
  cases b
  simp_all

theorem hull_exact (a b : Rect) : (a.hull b).Exact := by
  have right := toInt_bounds (max a.right b.right)
  have bottom := toInt_bounds (max a.bottom b.bottom)
  have left := toInt_bounds (min a.x b.x)
  have top := toInt_bounds (min a.y b.y)
  rw [toInt_max] at right bottom
  rw [toInt_min] at left top
  constructor
  · rw [Rect.right, toInt_saturatingAdd, toInt_hull_x, toInt_hull_width]
    omega
  · rw [Rect.bottom, toInt_saturatingAdd, toInt_hull_y, toInt_hull_height]
    omega

theorem hull_comm (a b : Rect) : a.hull b = b.hull a := by
  apply ext_toInt
  · simp only [toInt_hull_x]
    omega
  · simp only [toInt_hull_y]
    omega
  · simp only [toInt_hull_width]
    omega
  · simp only [toInt_hull_height]
    omega

/-- Nothing that encloses two rectangles is smaller than their hull, even one that is cut short. -/
theorem encloses_hull {a b c : Rect} (across : a.x.toInt ≤ a.right.toInt)
    (down : a.y.toInt ≤ a.bottom.toInt) (outer : c.Encloses a) (other : c.Encloses b) :
    c.Encloses (a.hull b) := by
  rw [encloses_toInt] at outer other
  rw [encloses_toInt, toInt_hull_x, toInt_hull_y, toInt_hull_right, toInt_hull_bottom]
  omega

namespace OrderedIn

variable {left top : Int} {a b c : Rect}

theorem meets_self (ordered : a.OrderedIn left top) : a.Meets a := by
  have across := ordered.across
  have down := ordered.down
  rw [meets_toInt]
  omega

variable (first : a.OrderedIn left top) (second : b.OrderedIn left top)

include first second

theorem hull : (a.hull b).OrderedIn left top := by
  have edges := hull_edges first.toInFrame second.toInFrame
  constructor
  · exact hull_inFrame first.toInFrame second.toInFrame
  · omega
  · omega

theorem hull_encloses_hull (third : c.OrderedIn left top) :
    ((a.hull b).hull c).Encloses ((a.hull c).hull b) := by
  have outer := hull_encloses_left (first.hull second).toInFrame third.toInFrame
  have left_inside := outer.trans (hull_encloses_left first.toInFrame second.toInFrame)
  have right_inside := outer.trans (hull_encloses_right first.toInFrame second.toInFrame)
  have closer := first.hull third
  apply encloses_hull closer.across closer.down _ right_inside
  exact encloses_hull first.across first.down left_inside
    (hull_encloses_right (first.hull second).toInFrame third.toInFrame)

theorem hull_right_comm (third : c.OrderedIn left top) :
    (a.hull b).hull c = (a.hull c).hull b :=
  (hull_exact _ _).eq_of_encloses (hull_exact _ _) (first.hull_encloses_hull second third)
    (first.hull_encloses_hull third second)

theorem hull_assoc (third : c.OrderedIn left top) :
    (a.hull b).hull c = a.hull (b.hull c) := calc
  (a.hull b).hull c = (b.hull a).hull c := by rw [hull_comm a b]
  _ = (b.hull c).hull a := second.hull_right_comm first third
  _ = a.hull (b.hull c) := hull_comm _ _

end OrderedIn

section Hull

variable {left top : Int} {rects others : List Rect}

theorem foldl_hull_perm (rearranged : rects.Perm others)
    (ordered : ∀ r ∈ rects, r.OrderedIn left top) {start : Rect}
    (first : start.OrderedIn left top) : rects.foldl hull start = others.foldl hull start := by
  induction rearranged generalizing start with
  | nil => rfl
  | cons r rest ih =>
      rcases List.forall_mem_cons.mp ordered with ⟨next, ordered⟩
      exact ih ordered (first.hull next)
  | swap r s rest =>
      simp only [List.forall_mem_cons] at ordered
      rw [List.foldl_cons, List.foldl_cons, List.foldl_cons, List.foldl_cons,
        first.hull_right_comm ordered.1 ordered.2.1]
  | trans early late early_ih late_ih =>
      apply (early_ih ordered first).trans (late_ih _ first)
      exact fun r member => ordered r (early.mem_iff.mpr member)

theorem hullOf_perm (rearranged : rects.Perm others)
    (ordered : ∀ r ∈ rects, r.OrderedIn left top) :
    Damage.hullOf rects = Damage.hullOf others := by
  induction rearranged with
  | nil => rfl
  | cons r rest _ =>
      rcases List.forall_mem_cons.mp ordered with ⟨first, ordered⟩
      rw [Damage.hullOf, Damage.hullOf, foldl_hull_perm rest ordered first]
  | swap r s rest =>
      simp only [List.forall_mem_cons] at ordered
      rw [Damage.hullOf, Damage.hullOf, List.foldl_cons, List.foldl_cons, hull_comm]
  | trans early late early_ih late_ih =>
      apply (early_ih ordered).trans (late_ih _)
      exact fun r member => ordered r (early.mem_iff.mpr member)

end Hull

namespace Merges

variable {left top : Int} {before after : List Rect} (merges : Merges before after)
  (ordered : ∀ r ∈ before, r.OrderedIn left top)

include merges ordered

theorem orderedIn : ∀ r ∈ after, r.OrderedIn left top :=
  merges.forall_mem (fun _ _ first second _ => first.hull second) ordered

/-- Rectangles that are apart and cover what there was cover what it is merged into: two that meet
lie in the same one of them. -/
theorem covered {cover : List Rect} (disjoint : cover.Pairwise Apart)
    (covers : Covers cover before) : Covers cover after := by
  let inside (r : Rect) : Prop := r.OrderedIn left top ∧ ∃ outer ∈ cover, outer.Encloses r
  have kept : ∀ r ∈ after, inside r := by
    refine merges.forall_mem ?_ fun r member => ⟨ordered r member, covers r member⟩
    rintro a b ⟨first, outer, member, around⟩ ⟨second, other, there, enclosing⟩ meets
    have same : outer = other := eq_of_meets disjoint member there (meets.mono around enclosing)
    subst same
    exact ⟨first.hull second, outer, member,
      encloses_hull first.across first.down around enclosing⟩
  exact fun r member => (kept r member).2

theorem hullOf_eq : Damage.hullOf after = Damage.hullOf before := by
  induction merges with
  | done rearranged => exact (hullOf_perm rearranged ordered).symm
  | @merge before rest after a b meets found merges ih =>
      have rearranged := hullOf_perm found ordered
      simp only [found.mem_iff, List.forall_mem_cons] at ordered
      rcases ordered with ⟨first, second, others⟩
      calc Damage.hullOf after
          = Damage.hullOf (a.hull b :: rest) :=
            ih (List.forall_mem_cons.mpr ⟨first.hull second, others⟩)
        _ = Damage.hullOf (a :: b :: rest) := rfl
        _ = Damage.hullOf before := rearranged.symm

end Merges

section Separate

variable {left top : Int} {rects : List Rect} (ordered : ∀ r ∈ rects, r.OrderedIn left top)

include ordered

theorem separate_covers_of_ordered : Covers (separate rects) rects :=
  separate_covers fun r member => (ordered r member).toInFrame

theorem separate_encloses_once {r : Rect} (member : r ∈ rects) :
    (separate rects).countP (·.Encloses r) = 1 := by
  apply countP_of_apart (separate_pairwise rects)
  · intro a b outer other
    exact (ordered r member).meets_self.mono (of_decide_eq_true outer) (of_decide_eq_true other)
  · simpa using separate_covers_of_ordered ordered r member

theorem separate_nodup : (separate rects).Nodup := by
  have kept := (separate_merges rects).orderedIn ordered
  apply (separate_pairwise rects).imp_of_mem
  intro a b member _ apart same
  subst same
  exact apart (kept a member).meets_self

end Separate

theorem Covers.append {cover first second : List Rect} :
    Covers cover (first ++ second) ↔ Covers cover first ∧ Covers cover second :=
  List.forall_mem_append

section Members

variable {left top : Int} {rects others : List Rect}

theorem covers_separate (ordered : ∀ r ∈ rects, r.OrderedIn left top) {cover : List Rect}
    (disjoint : cover.Pairwise Apart) : Covers cover (separate rects) ↔ Covers cover rects := by
  constructor
  · exact fun covers => covers.trans (separate_covers_of_ordered ordered)
  · exact fun covers => (separate_merges rects).covered ordered disjoint covers

theorem separate_exactIn (exact : ∀ r ∈ rects, r.ExactIn left top) :
    ∀ r ∈ separate rects, r.ExactIn left top := by
  apply (separate_merges rects).forall_mem _ exact
  intro a b first second _
  exact ⟨first.toOrderedIn.hull second.toOrderedIn, hull_exact a b⟩

/-- What encloses a rectangle of the list is enclosed by one of the list in turn, which can only
be the same rectangle. -/
theorem subset_of_covers (exact : ∀ r ∈ rects, r.ExactIn left top)
    (exact_others : ∀ r ∈ others, r.ExactIn left top) (disjoint : rects.Pairwise Apart)
    (inner : Covers others rects) (outer : Covers rects others) : rects ⊆ others := by
  intro r member
  obtain ⟨around, there, closer⟩ := inner r member
  obtain ⟨wider, back, farther⟩ := outer around there
  have meets : wider.Meets r :=
    (exact r member).toOrderedIn.meets_self.mono (farther.trans closer) (.refl r)
  have same : wider = r := eq_of_meets disjoint back member meets
  subst same
  have equal : wider = around :=
    (exact wider member).toExact.eq_of_encloses (exact_others around there).toExact farther closer
  rw [equal]
  exact there

theorem separate_perm (exact : ∀ r ∈ rects, r.ExactIn left top)
    (exact_others : ∀ r ∈ others, r.ExactIn left top)
    (alike : ∀ cover : List Rect, cover.Pairwise Apart →
      (Covers cover rects ↔ Covers cover others)) :
    (separate rects).Perm (separate others) := by
  have ordered : ∀ r ∈ rects, r.OrderedIn left top := fun r member => (exact r member).toOrderedIn
  have ordered_others : ∀ r ∈ others, r.OrderedIn left top :=
    fun r member => (exact_others r member).toOrderedIn
  have inner : Covers (separate others) (separate rects) :=
    (covers_separate ordered (separate_pairwise others)).mpr
      ((alike _ (separate_pairwise others)).mpr (separate_covers_of_ordered ordered_others))
  have outer : Covers (separate rects) (separate others) :=
    (covers_separate ordered_others (separate_pairwise rects)).mpr
      ((alike _ (separate_pairwise rects)).mp (separate_covers_of_ordered ordered))
  have kept := separate_exactIn exact
  have kept_others := separate_exactIn exact_others
  rw [List.perm_ext_iff_of_nodup (separate_nodup ordered) (separate_nodup ordered_others)]
  intro r
  constructor
  · exact fun member =>
      subset_of_covers kept kept_others (separate_pairwise rects) inner outer member
  · exact fun member =>
      subset_of_covers kept_others kept (separate_pairwise others) outer inner member

end Members

/-- Rectangles are separated into a cover whose members are apart and no larger than they have to
be: each rectangle lies in exactly one of them, and any other such cover has a member around each.
The hull of everything stays the same. -/
theorem separate_least_cover (rects : List Rect)
    (upright : ∀ r ∈ rects, 0 ≤ r.width ∧ 0 ≤ r.height)
    (narrow : ∀ a ∈ rects, ∀ b ∈ rects, b.right.toInt - a.x.toInt ≤ Int32.maxValue.toInt ∧
      b.bottom.toInt - a.y.toInt ≤ Int32.maxValue.toInt) :
    (separate rects).Pairwise (fun a b => ¬ a.Meets b) ∧
      (∀ r ∈ rects, (separate rects).countP (·.Encloses r) = 1) ∧
      (∀ cover : List Rect, cover.Pairwise (fun a b => ¬ a.Meets b) →
        (∀ r ∈ rects, ∃ outer ∈ cover, outer.Encloses r) →
        ∀ r ∈ separate rects, ∃ outer ∈ cover, outer.Encloses r) ∧
      (Damage.mk rects).coalesce.hull? = (Damage.mk rects).hull? := by
  rcases exists_frame upright narrow with ⟨left, top, ordered⟩
  refine ⟨separate_pairwise rects, ?_, ?_, ?_⟩
  · exact fun r member => separate_encloses_once ordered member
  · exact fun cover disjoint covers => (separate_merges rects).covered ordered disjoint covers
  · exact (separate_merges rects).hullOf_eq ordered

def cascade : List Rect := [⟨12, 2, 5, 5⟩, ⟨0, 0, 10, 10⟩, ⟨5, 0, 10, 1⟩, ⟨40, 40, 3, 3⟩]

/-- The first rectangle meets none of the others, only the hull of the next two. -/
theorem separate_least_cover_cascade :
    separate cascade = [⟨0, 0, 17, 10⟩, ⟨40, 40, 3, 3⟩] ∧
      (separate cascade).countP (·.Encloses ⟨12, 2, 5, 5⟩) = 1 ∧
      (∀ r ∈ separate cascade, ∃ outer ∈ ([⟨0, 0, 20, 20⟩, ⟨30, 30, 20, 20⟩] : List Rect),
        outer.Encloses r) ∧
      (Damage.mk cascade).coalesce.hull? = some ⟨0, 0, 43, 43⟩ := by
  have merged : separate cascade = [⟨0, 0, 17, 10⟩, ⟨40, 40, 3, 3⟩] := by decide +kernel
  rcases separate_least_cover cascade (by decide) (by decide) with ⟨_, once, least, hull⟩
  refine ⟨merged, once _ (by decide), least _ (by decide) (by decide), ?_⟩
  rw [hull]
  decide

/-- What rectangles are separated into depends only on which there are: not on their order, not on
how often each is listed, and not on whether some of them had been separated before. -/
theorem separate_confluent (left top : Int) (first second : List Rect)
    (upright : ∀ r ∈ first ++ second, 0 ≤ r.width ∧ 0 ≤ r.height)
    (onPlane : ∀ r ∈ first ++ second, r.x.toInt + r.width.toInt ≤ Int32.maxValue.toInt ∧
      r.y.toInt + r.height.toInt ≤ Int32.maxValue.toInt)
    (window : ∀ r ∈ first ++ second, r.InWindow left top) :
    ((∀ r, r ∈ first ↔ r ∈ second) → (separate first).Perm (separate second)) ∧
      (separate (separate first ++ second)).Perm (separate (first ++ second)) := by
  have exact : ∀ r ∈ first ++ second, r.ExactIn left top :=
    fun r member => (window r member).exactIn (upright r member) (onPlane r member)
  rcases List.forall_mem_append.mp exact with ⟨early, late⟩
  have ordered : ∀ r ∈ first, r.OrderedIn left top := fun r member => (early r member).toOrderedIn
  constructor
  · intro same
    apply separate_perm early late
    intro cover _
    simp only [Covers, same]
  · apply separate_perm (List.forall_mem_append.mpr ⟨separate_exactIn early, late⟩) exact
    intro cover disjoint
    rw [Covers.append, Covers.append, covers_separate ordered disjoint]

theorem separate_confluent_cascade :
    (separate cascade).Perm (separate (cascade.reverse ++ cascade)) ∧
      (separate (separate cascade ++ [⟨17, 10, 30, 30⟩])).Perm
        (separate (cascade ++ [⟨17, 10, 30, 30⟩])) := by
  constructor
  · exact (separate_confluent 0 0 cascade (cascade.reverse ++ cascade) (by decide) (by decide)
      (by decide)).1 (by simp)
  · exact (separate_confluent 0 0 cascade [⟨17, 10, 30, 30⟩] (by decide) (by decide)
      (by decide)).2

end Rect

end Compositing
