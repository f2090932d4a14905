import Compositing.Proofs.Pointer

/-! Which point of the desktop the pointer is moved to: of all that viewports show the nearest, and
of several that are equally near the one on the viewport attached first. Distances are exact as long
as all of the desktop, and where the pointer is to go, can be spanned by a coordinate. -/

namespace Compositing

namespace Desktop

def away (p q : Point) : Int :=
  (q.x.toInt - p.x.toInt) ^ 2 + (q.y.toInt - p.y.toInt) ^ 2

theorem away_nonneg (p q : Point) : 0 ≤ away p q := add_nonneg (sq_nonneg _) (sq_nonneg _)

theorem away_self (p : Point) : away p p = 0 := by simp [away]

theorem away_pos {p q : Point} (apart : q ≠ p) : 0 < away p q := by
  apply lt_of_le_of_ne (away_nonneg p q)
  intro none
  have flat := (add_eq_zero_iff_of_nonneg (sq_nonneg (q.x.toInt - p.x.toInt))
    (sq_nonneg (q.y.toInt - p.y.toInt))).mp none.symm
  apply apart
  apply Point.ext_toInt
  · exact sub_eq_zero.mp (pow_eq_zero_iff two_ne_zero |>.mp flat.1)
  · exact sub_eq_zero.mp (pow_eq_zero_iff two_ne_zero |>.mp flat.2)

/-- Neither sum nor product in the distance between two points leaves its range. -/
structure Measured (p q : Point) : Prop where
  across : (q.x - p.x).toInt = q.x.toInt - p.x.toInt
  down : (q.y - p.y).toInt = q.y.toInt - p.y.toInt
  width : ((q.x - p.x).toInt64 * (q.x - p.x).toInt64).toInt = (q.x.toInt - p.x.toInt) ^ 2
  height : ((q.y - p.y).toInt64 * (q.y - p.y).toInt64).toInt = (q.y.toInt - p.y.toInt) ^ 2
  distance : (distance p q).toInt = away p q

/-- A window on the plane, as wide and as high as the largest coordinate. -/
structure Window where
  left : Int
  top : Int

def Window.Holds (w : Window) (x y : Int) : Prop :=
  (w.left ≤ x ∧ x ≤ w.left + 2147483647) ∧ w.top ≤ y ∧ y ≤ w.top + 2147483647

instance (w : Window) (x y : Int) : Decidable (w.Holds x y) :=
  inferInstanceAs (Decidable ((_ ∧ _) ∧ _ ∧ _))

def Window.Frames (w : Window) (r : Rect) : Prop :=
  w.Holds r.x.toInt r.y.toInt ∧ w.Holds r.right.toInt r.bottom.toInt

instance (w : Window) (r : Rect) : Decidable (w.Frames r) :=
  inferInstanceAs (Decidable (_ ∧ _))

theorem Window.Frames.holds {w : Window} {r : Rect} (frames : w.Frames r) {q : Point}
    (inside : q ∈ r) : w.Holds q.x.toInt q.y.toInt := by
  rcases frames with ⟨⟨⟨_, _⟩, _, _⟩, ⟨_, _⟩, _, _⟩
  rw [Rect.mem_toInt] at inside
  rw [Window.Holds]
  omega

theorem toInt_square {d : Int32} (small : -2147483647 ≤ d.toInt ∧ d.toInt ≤ 2147483647) :
    (d.toInt64 * d.toInt64).toInt = d.toInt ^ 2 ∧ d.toInt ^ 2 ≤ 4611686014132420609 := by
  have bound : d.toInt ^ 2 ≤ 4611686014132420609 := by nlinarith
  have low : 0 ≤ d.toInt ^ 2 := sq_nonneg _
  rw [Int64.toInt_mul, Int32.toInt_toInt64, ← sq, Int.bmod_eq_of_le (by omega) (by omega)]
  exact ⟨rfl, bound⟩

theorem Window.measured {w : Window} {p q : Point} (first : w.Holds p.x.toInt p.y.toInt)
    (second : w.Holds q.x.toInt q.y.toInt) : Measured p q := by
  rcases first with ⟨⟨_, _⟩, _, _⟩
  rcases second with ⟨⟨_, _⟩, _, _⟩
  have across : (q.x - p.x).toInt = q.x.toInt - p.x.toInt := by
    rw [toInt_sub_of_fits] <;> omega
  have down : (q.y - p.y).toInt = q.y.toInt - p.y.toInt := by
    rw [toInt_sub_of_fits] <;> omega
  rcases toInt_square (d := q.x - p.x) (by omega) with ⟨width, wide⟩
  rcases toInt_square (d := q.y - p.y) (by omega) with ⟨height, high⟩
  have low_x := sq_nonneg (q.x - p.x).toInt
  have low_y := sq_nonneg (q.y - p.y).toInt
  refine ⟨across, down, across ▸ width, down ▸ height, ?_⟩
  rw [distance, Int64.toInt_add, width, height, Int.bmod_eq_of_le (by omega) (by omega), away,
    across, down]

theorem clamp?_nearest {value low high held : Int32} (clamped : clamp? value low high = some held)
    {a : Int32} (above : low ≤ a) (below : a ≤ high) :
    (held.toInt - value.toInt) ^ 2 ≤ (a.toInt - value.toInt) ^ 2 := by
  rw [Int32.le_iff_toInt_le] at above below
  rw [clamp?] at clamped
  simp only [Int32.lt_iff_toInt_lt] at clamped
  split at clamped
  · cases clamped
  · split at clamped
    · cases clamped
      nlinarith
    · split at clamped
      · cases clamped
        nlinarith
      · cases clamped
        rw [sub_self]
        positivity

theorem clamp?_eq_none (value : Int32) {low high : Int32} :
    clamp? value low high = none ↔ high < low := by
  rw [clamp?]
  split
  · simp_all
  · split
    · simp_all
    · split <;> simp_all

def AtEnd (r : Rect) : Prop := r.x = Int32.maxValue ∨ r.y = Int32.maxValue

section Within

variable {r : Rect} (filled : r.isEmpty = false)

include filled

/-- Only at the far end of the plane, a rectangle that is not empty has no point. -/
theorem nearestIn?_eq_none (p : Point) :
    nearestIn? r p = none ↔ AtEnd r := by
  rcases sides_pos filled with ⟨wide, high⟩
  rw [AtEnd, ← last_lt_start wide, ← last_lt_start high, ← clamp?_eq_none p.x,
    ← clamp?_eq_none p.y, nearestIn?, Rect.right, Rect.bottom]
  cases clamp? p.x r.x (saturatingAdd r.x r.width - 1) with
  | none => simp
  | some x => cases clamp? p.y r.y (saturatingAdd r.y r.height - 1) <;> simp

theorem nearestIn?_nearest {p c : Point} (found : nearestIn? r p = some c) :
    c ∈ r ∧ (p ∈ r → c = p) ∧ ∀ q ∈ r, away p c ≤ away p q := by
  rcases sides_pos filled with ⟨wide, high⟩
  have inner : ¬ AtEnd r := by
    rw [← nearestIn?_eq_none filled p, found]
    nofun
  rw [AtEnd, not_or] at inner
  rcases nearestIn?_spec ⟨filled, inner.1, inner.2⟩ p with ⟨_, same, inside, itself⟩
  rw [found] at same
  cases same
  refine ⟨inside, itself, ?_⟩
  intro q within
  rcases Option.bind_eq_some_iff.mp found with ⟨x, across, rest⟩
  rcases Option.bind_eq_some_iff.mp rest with ⟨y, down, made⟩
  cases made
  rcases within with ⟨left, right, above, below⟩
  have last {a start size : Int32} (positive : 0 < size.toInt)
      (before : a < saturatingAdd start size) : a ≤ saturatingAdd start size - 1 := by
    rw [Int32.lt_iff_toInt_lt] at before
    rw [Int32.le_iff_toInt_le, toInt_last start positive]
    omega
  exact add_le_add (clamp?_nearest across left (last wide right))
    (clamp?_nearest down above (last high below))

end Within

section Leading

variable {α β : Type} {wanted barred : α → Prop} {x : α} {xs : List α}

/-- An entry of the list is wanted, and none before it is barred. -/
inductive Leading (wanted barred : α → Prop) : List α → Prop
  | here {x : α} {xs : List α} (here : wanted x) : Leading wanted barred (x :: xs)
  | later {x : α} {xs : List α} (passed : ¬ barred x) (after : Leading wanted barred xs) :
      Leading wanted barred (x :: xs)

theorem leading_nil : ¬ Leading wanted barred [] := nofun

theorem leading_cons :
    Leading wanted barred (x :: xs) ↔ wanted x ∨ ¬ barred x ∧ Leading wanted barred xs := by
  constructor
  · intro leading
    cases leading with
    | here here => exact .inl here
    | later passed after => exact .inr ⟨passed, after⟩
  · rintro (here | ⟨passed, after⟩)
    · exact .here here
    · exact .later passed after

theorem Leading.exists_mem (leading : Leading wanted barred xs) : ∃ x ∈ xs, wanted x := by
  induction leading with
  | here here => exact ⟨_, List.mem_cons_self, here⟩
  | later passed after ih =>
      rcases ih with ⟨x, member, here⟩
      exact ⟨x, List.mem_cons_of_mem _ member, here⟩

theorem Leading.mono {also : α → Prop} (leading : Leading wanted barred xs)
    (weaker : ∀ x, wanted x → also x) : Leading also barred xs := by
  induction leading with
  | here here => exact .here (weaker _ here)
  | later passed after ih => exact .later passed ih

theorem Leading.append (leading : Leading wanted barred xs) (more : List α) :
    Leading wanted barred (xs ++ more) := by
  induction leading with
  | here here => exact .here here
  | later passed after ih => exact .later passed ih

theorem Leading.after {before : List α} (passed : ∀ e ∈ before, ¬ barred e)
    (leading : Leading wanted barred xs) : Leading wanted barred (before ++ xs) := by
  induction before with
  | nil => exact leading
  | cons e rest ih =>
      rcases List.forall_mem_cons.mp passed with ⟨first, others⟩
      exact .later first (ih others)

theorem leading_of_mem (member : x ∈ xs) (here : wanted x) (none : ∀ e ∈ xs, ¬ barred e) :
    Leading wanted barred xs := by
  rcases List.append_of_mem member with ⟨before, rest, rfl⟩
  exact .after (fun e early => none e (List.mem_append_left _ early)) (.here here)

theorem leading_filter {keep : α → Bool} (kept : ∀ x, barred x → keep x = true) :
    Leading wanted barred (xs.filter keep) ↔
      Leading (fun x => keep x = true ∧ wanted x) barred xs := by
  induction xs with
  | nil => exact iff_of_false leading_nil leading_nil
  | cons x rest ih =>
      rw [leading_cons]
      cases own : keep x with
      | false =>
          have passed : ¬ barred x := fun bars => Bool.noConfusion (own.symm.trans (kept x bars))
          simp [own, ih, passed]
      | true => simp [own, leading_cons, ih]

theorem leading_map {f : β → α} {ys : List β} :
    Leading wanted barred (ys.map f) ↔
      Leading (fun y => wanted (f y)) (fun y => barred (f y)) ys := by
  induction ys with
  | nil => exact iff_of_false leading_nil leading_nil
  | cons y rest ih => rw [List.map_cons, leading_cons, leading_cons, ih]

theorem leading_of_sorted {key : α → Nat} (sorted : xs.Pairwise fun a b => key a < key b) :
    Leading wanted barred xs ↔ ∃ x ∈ xs, wanted x ∧ ∀ e ∈ xs, key e < key x → ¬ barred e := by
  induction xs with
  | nil => exact iff_of_false leading_nil (by simp)
  | cons x rest ih =>
      rcases List.pairwise_cons.mp sorted with ⟨first, sorted⟩
      rw [leading_cons, ih sorted]
      constructor
      · rintro (here | ⟨passed, y, member, here, early⟩)
        · refine ⟨x, List.mem_cons_self, here, List.forall_mem_cons.mpr ⟨?_, ?_⟩⟩
          · exact fun less => absurd less (Nat.lt_irrefl _)
          · exact fun e member less => absurd less (Nat.not_lt_of_gt (first e member))
        · exact ⟨y, List.mem_cons_of_mem x member, here,
            List.forall_mem_cons.mpr ⟨fun _ => passed, early⟩⟩
      · rintro ⟨y, member, here, early⟩
        rcases List.forall_mem_cons.mp early with ⟨before, early⟩
        rcases List.mem_cons.mp member with rfl | member
        · exact .inl here
        · exact .inr ⟨before (first y member), y, member, here, early⟩

end Leading

/-- Of all that the rectangles hold, `c` is nearest to `p`; it lies in one of them, and none that
comes before has a point as near. -/
structure Nearest (p c : Point) (rects : List Rect) : Prop where
  first : Leading (c ∈ ·) (fun r => ∃ q ∈ r, away p q ≤ away p c) rects
  least : ∀ r ∈ rects, ∀ q ∈ r, away p c ≤ away p q

theorem Nearest.append {p c : Point} {rects more : List Rect} (nearest : Nearest p c rects)
    (farther : ∀ e ∈ more, ∀ q ∈ e, away p c ≤ away p q) : Nearest p c (rects ++ more) where
  first := nearest.first.append more
  least e member := (List.mem_append.mp member).elim (nearest.least e) (farther e)

theorem Nearest.last {p c : Point} {seen : List Rect} {r : Rect} (inside : c ∈ r)
    (farther : ∀ e ∈ seen, ∀ q ∈ e, away p c < away p q)
    (least : ∀ q ∈ r, away p c ≤ away p q) : Nearest p c (seen ++ [r]) where
  first := by
    refine .after ?_ (.here inside)
    rintro e member ⟨q, within, near⟩
    exact absurd near (not_le_of_gt (farther e member q within))
  least := by
    intro e member q within
    rcases List.mem_append.mp member with member | member
    · exact le_of_lt (farther e member q within)
    · rw [List.mem_singleton.mp member] at within
      exact least q within

theorem Nearest.of_filter {p c : Point} {rects : List Rect}
    (nearest : Nearest p c (rects.filter fun r => !r.isEmpty)) : Nearest p c rects := by
  have shown {e : Rect} {q : Point} (within : q ∈ e) : (!e.isEmpty) = true := by
    rw [Rect.isEmpty_of_mem within]
    rfl
  constructor
  · have first := (leading_filter fun r ⟨_, within, _⟩ => shown within).mp nearest.first
    exact first.mono fun r shows => shows.2
  · intro e member q within
    exact nearest.least e (List.mem_filter.mpr ⟨member, shown within⟩) q within

theorem Nearest.eq_iff {p c : Point} {rects : List Rect} (nearest : Nearest p c rects) :
    c = p ↔ ∃ r ∈ rects, p ∈ r := by
  constructor
  · rintro rfl
    exact nearest.first.exists_mem
  · rintro ⟨r, member, within⟩
    by_contra apart
    have near := nearest.least r member p within
    rw [away_self] at near
    exact absurd near (not_le_of_gt (away_pos apart))

section Search

variable {p c : Point} {r : Rect} {rest rects seen : List Rect} {best : Option (Point × Int64)}

def Known (p : Point) (seen : List Rect) : Option (Point × Int64) → Prop
  | none => seen = []
  | some (c, d) => Nearest p c seen ∧ d.toInt = away p c

theorem Known.next (known : Known p seen best) (inside : c ∈ r)
    (least : ∀ q ∈ r, away p c ≤ away p q) (exact : (distance p c).toInt = away p c) :
    Known p (seen ++ [r])
      (if best.all (distance p c < ·.2) then some (c, distance p c) else best) := by
  cases best with
  | none =>
      have nothing : seen = [] := known
      rw [nothing]
      exact ⟨.last inside (by simp) least, exact⟩
  | some entry =>
      rcases entry with ⟨b, d⟩
      rcases known with ⟨nearest, known⟩
      simp only [Option.all_some, decide_eq_true_eq, Int64.lt_iff_toInt_lt, exact, known]
      split
      · rename_i closer
        refine ⟨.last inside ?_ least, exact⟩
        intro e member q within
        exact lt_of_lt_of_le closer (nearest.least e member q within)
      · rename_i farther
        refine ⟨nearest.append ?_, known⟩
        intro e member q within
        rw [List.mem_singleton.mp member] at within
        exact le_trans (le_of_not_gt farther) (least q within)

theorem nearest?_of_stuck (stuck : nearestIn? r p = none) :
    nearest? p best (r :: rest) = none := by
  rw [nearest?, stuck]
  rfl

theorem nearest?_eq_none (filled : ∀ r ∈ rects, r.isEmpty = false) :
    nearest? p best rects = none ↔ Leading AtEnd (p ∈ ·) rects := by
  induction rects generalizing best with
  | nil => simp [nearest?, leading_nil]
  | cons r rest ih =>
      rcases List.forall_mem_cons.mp filled with ⟨here, later⟩
      rw [leading_cons, ← nearestIn?_eq_none here p]
      cases found : nearestIn? r p with
      | none => simp [nearest?_of_stuck found]
      | some c =>
          rcases nearestIn?_nearest here found with ⟨inside, itself, _⟩
          by_cases within : p ∈ r
          · simp [nearest?_of_mem found inside itself within, within]
          · simp [nearest?_of_not_mem found inside itself within, ih later, within]

/-- A search that has found something finds what is nearest, whether it comes to the end of the list
or breaks off at a rectangle that holds `p`. -/
theorem nearest?_nearest (filled : ∀ r ∈ rects, r.isEmpty = false)
    (measured : ∀ r ∈ rects, ∀ q ∈ r, Measured p q) (known : Known p seen best)
    (outside : ∀ e ∈ seen, p ∉ e) (found : nearest? p best rects = some c) :
    c = p ∧ seen ++ rects = [] ∨ Nearest p c (seen ++ rects) := by
  induction rects generalizing seen best with
  | nil =>
      rw [List.append_nil]
      cases best with
      | none =>
          cases found
          exact .inl ⟨rfl, known⟩
      | some entry =>
          cases found
          exact .inr known.1
  | cons r rest ih =>
      rcases List.forall_mem_cons.mp filled with ⟨here, later⟩
      rcases List.forall_mem_cons.mp measured with ⟨exact, others⟩
      -- the first of the rectangles still to be searched becomes the last of those seen
      rw [← List.singleton_append, ← List.append_assoc]
      cases reached : nearestIn? r p with
      | none =>
          rw [nearest?_of_stuck reached] at found
          cases found
      | some q =>
          rcases nearestIn?_nearest here reached with ⟨inside, itself, least⟩
          by_cases within : p ∈ r
          · rw [nearest?_of_mem reached inside itself within] at found
            cases found
            rw [itself within] at least
            right
            refine Nearest.append (.last within ?_ least) ?_
            · intro e member q held
              rw [away_self]
              exact away_pos fun same => outside e member (same ▸ held)
            · intro e member q held
              rw [away_self]
              exact away_nonneg p q
          · rw [nearest?_of_not_mem reached inside itself within] at found
            apply ih later others (known.next inside least (exact q inside).distance) ?_ found
            intro e member
            rcases List.mem_append.mp member with member | member
            · exact outside e member
            · rwa [List.mem_singleton.mp member]

end Search

section Confine

variable {d : Desktop} {p c : Point}

theorem mem_shown {r : Rect} :
    r ∈ d.places.values.filter (fun r => !r.isEmpty) ↔
      r ∈ d.places.values ∧ r.isEmpty = false := by
  rw [List.mem_filter, Bool.not_eq_true']

theorem confine?_eq_none : d.confine? p = none ↔
    Leading (fun r => r.isEmpty = false ∧ AtEnd r) (p ∈ ·) d.places.values := by
  have filled : ∀ r ∈ d.places.values.filter (fun r => !r.isEmpty), r.isEmpty = false :=
    fun r member => (mem_shown.mp member).2
  have shown : ∀ r : Rect, p ∈ r → (!r.isEmpty) = true := by
    intro r inside
    rw [Rect.isEmpty_of_mem inside]
    rfl
  rw [confine?, nearest?_eq_none filled, leading_filter shown]
  simp only [Bool.not_eq_true']

theorem confine?_of_empty (empty : ∀ r ∈ d.places.values, r.isEmpty = true) :
    d.confine? p = some p := by
  have none : d.places.values.filter (fun r => !r.isEmpty) = [] := by
    rw [List.filter_eq_nil_iff]
    intro r member
    rw [empty r member]
    decide
  rw [confine?, none]
  rfl

variable {w : Window} (holds : w.Holds p.x.toInt p.y.toInt)
  (frames : ∀ r ∈ d.places.values, r.isEmpty = false → w.Frames r)
  (filled : ∃ r ∈ d.places.values, r.isEmpty = false) (found : d.confine? p = some c)

include holds frames filled found

theorem confine?_nearest : Nearest p c d.places.values := by
  have every : ∀ r ∈ d.places.values.filter (fun r => !r.isEmpty), r.isEmpty = false :=
    fun r member => (mem_shown.mp member).2
  have measured : ∀ r ∈ d.places.values.filter (fun r => !r.isEmpty), ∀ q ∈ r, Measured p q := by
    intro r member q inside
    rcases mem_shown.mp member with ⟨listed, shows⟩
    exact Window.measured holds ((frames r listed shows).holds inside)
  have start : Known p [] none := rfl
  rcases nearest?_nearest every measured start (by simp) found with ⟨_, none⟩ | nearest
  · rcases filled with ⟨r, member, shows⟩
    have listed := mem_shown.mpr ⟨member, shows⟩
    rw [List.nil_append] at none
    rw [none] at listed
    cases listed
  · exact nearest.of_filter

theorem confine?_again : d.confine? c = some c := by
  have nearest := confine?_nearest holds frames filled found
  by_cases same : c = p
  · rw [same] at found ⊢
    exact found
  · have outside : ¬ ∃ r ∈ d.places.values, p ∈ r := fun there => same (nearest.eq_iff.mpr there)
    -- the search has come by every rectangle, so that none of them is at the far end
    have pointable : ∀ r ∈ d.places.values, r.isEmpty = false → Pointable r := by
      intro r member shows
      have inner : ¬ AtEnd r := by
        intro far
        have stuck : d.confine? p = none := by
          refine confine?_eq_none.mpr (leading_of_mem member ⟨shows, far⟩ ?_)
          exact fun e listed inside => outside ⟨e, listed, inside⟩
        rw [stuck] at found
        cases found
      rw [AtEnd, not_or] at inner
      exact ⟨shows, inner.1, inner.2⟩
    rcases confine?_spec (p := c) pointable filled with ⟨q, again, _, itself⟩
    rw [again, itself nearest.first.exists_mem]

end Confine

end Desktop

namespace Screen

variable {δ : Type} [Output δ] {s : Screen}

theorem askAll_ordered (inStep : s.InStep []) (laid : s.Laid) (ordered : s.Ordered)
    (stage : Stage δ) (requests : List (Request δ)) :
    (askAll (s, stage) requests).1.Ordered := by
  induction requests generalizing s stage with
  | nil => exact ordered
  | cons request rest ih =>
      rcases ask_laid inStep laid stage request with ⟨stepped, placed⟩
      refine ih stepped placed ?_ _
      cases request with
      | operation operation => exact ordered.perform laid inStep stage operation
      | point p =>
          rw [ask]
          cases moves : s.movePointer? p with
          | none => exact ordered
          | some moved =>
              rw [Option.getD_some, movePointer?_frame moves]
              exact ordered

/-- What comes first on the desktop belongs to the viewport with the lowest id. -/
theorem Laid.leading_iff (laid : s.Laid) (ordered : s.Ordered) {wanted barred : Rect → Prop} :
    Desktop.Leading wanted barred s.desktop.places.values ↔
      ∃ id v, s.viewports.get? id = some v ∧ wanted v.bounds ∧
        ∀ other w, s.viewports.get? other = some w → other.index < id.index →
          ¬ barred w.bounds := by
  have listed (id : ViewportId) (r : Rect) : (id, r) ∈ s.desktop.places.entries ↔
      ∃ v, s.viewports.get? id = some v ∧ v.bounds = r := by
    rw [Table.mem_entries laid.distinct, laid.places, bounds?_eq_some]
  rw [Ordered, Table.keys, List.pairwise_map] at ordered
  rw [Table.values, Desktop.leading_map, Desktop.leading_of_sorted ordered]
  constructor
  · rintro ⟨⟨id, r⟩, member, here, early⟩
    rcases (listed id r).mp member with ⟨v, found, rfl⟩
    refine ⟨id, v, found, here, ?_⟩
    intro other w there less
    exact early (other, w.bounds) ((listed other _).mpr ⟨w, there, rfl⟩) less
  · rintro ⟨id, v, found, here, early⟩
    refine ⟨(id, v.bounds), (listed id _).mpr ⟨v, found, rfl⟩, here, ?_⟩
    rintro ⟨other, r⟩ member less
    rcases (listed other r).mp member with ⟨w, there, rfl⟩
    exact early other w there less

/-- Where the pointer goes, whatever the screen has been asked for. It goes nowhere just where a
viewport begins at the far end of the plane and none attached before it holds the point that it is
to go to. Otherwise it goes to a point of a viewport: to no other point is the distance less, and to
none of a viewport attached before is it as little. That is the very point it is to go to if a
viewport holds it, and so it stays when it is to go there again. The desktop and the point have to
lie in a window as large as a coordinate; then no distance leaves its range. -/
theorem pointer_goes_nearest (config : Config) (root : Tree) (stage : Stage δ)
    (requests : List (Request δ)) (p : Point) (window : Desktop.Window)
    (holds : window.Holds p.x.toInt p.y.toInt)
    (frames : ∀ id v, (askAll (create config root, stage) requests).1.viewports.get? id = some v →
      v.bounds.isEmpty = false → window.Frames v.bounds) :
    let s := (askAll (create config root, stage) requests).1
    (s.desktop.confine? p = none ↔ ∃ id v, s.viewports.get? id = some v ∧
        (v.bounds.isEmpty = false ∧ Desktop.AtEnd v.bounds) ∧
        ∀ other w, s.viewports.get? other = some w → other.index < id.index → p ∉ w.bounds) ∧
      ((∀ id v, s.viewports.get? id = some v → v.bounds.isEmpty = true) →
        s.desktop.confine? p = some p) ∧
      (∀ c, s.desktop.confine? p = some c →
        (∃ id v, s.viewports.get? id = some v ∧ v.bounds.isEmpty = false) →
        (∃ id v, s.viewports.get? id = some v ∧ c ∈ v.bounds ∧
          ∀ other w, s.viewports.get? other = some w → other.index < id.index →
            ∀ q ∈ w.bounds, Desktop.away p c < Desktop.away p q) ∧
        (∀ id v, s.viewports.get? id = some v → ∀ q ∈ v.bounds,
          Desktop.away p c ≤ Desktop.away p q) ∧
        (c = p ↔ ∃ id v, s.viewports.get? id = some v ∧ p ∈ v.bounds) ∧
        s.desktop.confine? c = some c) ∧
      ∀ id v, s.viewports.get? id = some v → v.bounds.isEmpty = false →
        (v.bounds.right - 1).toInt = v.bounds.right.toInt - 1 ∧
          (v.bounds.bottom - 1).toInt = v.bounds.bottom.toInt - 1 ∧
          ∀ q ∈ v.bounds, Desktop.Measured p q := by
  intro s
  rcases askAll_laid (.create config root) (.create config root) stage requests with
    ⟨_, laid⟩
  have ordered : s.Ordered :=
    askAll_ordered (.create config root) (.create config root) (.create config root) stage requests
  have framed : ∀ r ∈ s.desktop.places.values, r.isEmpty = false → window.Frames r :=
    laid.forall_values.mpr frames
  refine ⟨?_, ?_, ?_, ?_⟩
  · rw [Desktop.confine?_eq_none, laid.leading_iff ordered]
  · exact fun empty => Desktop.confine?_of_empty (laid.forall_values.mpr empty)
  · intro c found filled
    have shown : ∃ r ∈ s.desktop.places.values, r.isEmpty = false :=
      laid.exists_values.mpr filled
    have nearest := Desktop.confine?_nearest holds framed shown found
    refine ⟨?_, laid.forall_values.mp nearest.least, nearest.eq_iff.trans laid.exists_values,
      Desktop.confine?_again holds framed shown found⟩
    rcases (laid.leading_iff ordered).mp nearest.first with ⟨id, v, there, inside, early⟩
    refine ⟨id, v, there, inside, ?_⟩
    intro other w held less q within
    by_contra near
    exact early other w held less ⟨q, within, not_lt.mp near⟩
  · intro id v there shows
    rcases Desktop.sides_pos shows with ⟨wide, high⟩
    exact ⟨Desktop.toInt_last _ wide, Desktop.toInt_last _ high, fun q inside =>
      Desktop.Window.measured holds ((frames id v there shows).holds inside)⟩

section Small

def gapped : List (Request Framebuffer) :=
  [.operation (.attach ⟨0⟩), .operation (.attach ⟨0⟩), .operation (.moveTo ⟨1⟩ ⟨9, 0⟩)]

theorem pointer_goes_nearest_between :
    let s := (askAll (create { delay := 1 } fun _ _ => Viewport.smallProgram,
      Viewport.smallStage) gapped).1
    s.desktop.confine? ⟨5, 0⟩ = some ⟨1, 0⟩ ∧
      (∀ id v, s.viewports.get? id = some v → ∀ q ∈ v.bounds, 16 ≤ Desktop.away ⟨5, 0⟩ q) ∧
      s.desktop.confine? ⟨1, 0⟩ = some ⟨1, 0⟩ := by
  intro s
  have bounds : s.viewports.toList.map (·.2.bounds) = [⟨0, 0, 2, 2⟩, ⟨9, 0, 2, 2⟩] := by decide
  have frames : ∀ id v, s.viewports.get? id = some v → v.bounds.isEmpty = false →
      Desktop.Window.Frames ⟨0, 0⟩ v.bounds := by
    intro id v found _
    have every : ∀ r ∈ [⟨0, 0, 2, 2⟩, ⟨9, 0, 2, 2⟩], Desktop.Window.Frames ⟨0, 0⟩ r := by decide
    exact every v.bounds (bounds ▸ bounds_listed found)
  have found : s.desktop.confine? ⟨5, 0⟩ = some ⟨1, 0⟩ := by decide
  rcases pointer_goes_nearest { delay := 1 } (fun _ _ => Viewport.smallProgram)
    Viewport.smallStage gapped ⟨5, 0⟩ ⟨0, 0⟩ (by decide) frames with ⟨_, _, result, _⟩
  rcases result ⟨1, 0⟩ found ⟨⟨0⟩, _, rfl, rfl⟩ with ⟨_, least, _, again⟩
  exact ⟨found, least, again⟩

end Small

end Screen

end Compositing
