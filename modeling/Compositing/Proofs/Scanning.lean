import Compositing.Proofs.LeastCover

/-! Looking for rectangles that meet with two nested loops over the places of a list, pass after
pass, until a pass merges nothing. The loops come to an end on every list, even where hulls are cut
short and no longer hold what they were made from, and they leave what `separate` leaves. -/

namespace Compositing.Rect

/-- The loops at work: the list as it is, the place of the rectangle that grows, the place of the
one that it is compared with, and whether this pass has merged anything. -/
structure Scan where
  rects : List Rect
  growing : Nat := 0
  other : Nat := 1
  merged : Bool := false

namespace Scan

def turn? (s : Scan) : Option Scan :=
  match s.rects[s.growing]?, s.rects[s.other]? with
  | some r, some met =>
      if r.Meets met then
        some ⟨(s.rects.eraseIdx s.other).set s.growing (r.hull met), s.growing, s.growing + 1, true⟩
      else some { s with other := s.other + 1 }
  | some _, none => some { s with growing := s.growing + 1, other := s.growing + 2 }
  | none, _ => if s.merged then some { rects := s.rects } else none

inductive Ends : Scan → List Rect → Prop
  | stop {s : Scan} (last : s.turn? = none) : Ends s s.rects
  | turn {s next : Scan} {result : List Rect} (turned : s.turn? = some next)
      (rest : Ends next result) : Ends s result

theorem Ends.unique {s : Scan} {result other : List Rect} (ends : s.Ends result)
    (again : s.Ends other) : result = other := by
  induction ends with
  | stop last =>
      cases again with
      | stop => rfl
      | turn turned =>
          rw [last] at turned
          cases turned
  | turn turned rest ih =>
      cases again with
      | stop last =>
          rw [last] at turned
          cases turned
      | turn same rest =>
          rw [turned] at same
          cases same
          exact ih rest

section Turn

variable (before skipped rest : List Rect) (r : Rect) (merged : Bool)

theorem turn?_of_next (next : Rect) :
    turn? ⟨before ++ r :: (skipped ++ next :: rest), before.length,
        before.length + 1 + skipped.length, merged⟩ =
      some (if r.Meets next then
        ⟨before ++ r.hull next :: (skipped ++ rest), before.length, before.length + 1, true⟩
      else
        ⟨before ++ r :: (skipped ++ next :: rest), before.length,
          before.length + 1 + skipped.length + 1, merged⟩) := by
  have here : (before ++ r :: (skipped ++ next :: rest))[before.length]? = some r := by simp
  have there : (before ++ r :: (skipped ++ next :: rest))[before.length + 1 + skipped.length]? =
      some next := by
    rw [Nat.add_assoc, List.getElem?_append_right (Nat.le_add_right ..)]
    simp [Nat.add_comm 1]
  have without : ((before ++ r :: (skipped ++ next :: rest)).eraseIdx
      (before.length + 1 + skipped.length)).set before.length (r.hull next) =
        before ++ r.hull next :: (skipped ++ rest) := by
    rw [Nat.add_assoc, List.eraseIdx_append_of_length_le (Nat.le_add_right ..)]
    simp [Nat.add_comm 1, List.eraseIdx_append_of_length_le]
  rw [turn?, here, there]
  dsimp only
  rw [without]
  split <;> rfl

theorem turn?_of_last :
    turn? ⟨before ++ r :: rest, before.length, before.length + 1 + rest.length, merged⟩ =
      some ⟨before ++ r :: rest, before.length + 1, before.length + 2, merged⟩ := by
  have here : (before ++ r :: rest)[before.length]? = some r := by simp
  have beyond : (before ++ r :: rest)[before.length + 1 + rest.length]? = none := by
    apply List.getElem?_eq_none
    simp only [List.length_append, List.length_cons]
    omega
  rw [turn?, here, beyond]

theorem turn?_of_end (rects : List Rect) (other : Nat) :
    turn? ⟨rects, rects.length, other, merged⟩ = if merged then some { rects } else none := by
  have beyond : rects[rects.length]? = none := List.getElem?_eq_none (Nat.le_refl _)
  rw [turn?, beyond]

end Turn

section Inner

variable {before rest left result : List Rect} {r found : Rect}

/-- The inner loop finds nothing to merge, and the outer one goes on. -/
theorem ends_of_takeMeeting_none (none_meets : takeMeeting r rest = none) (skipped : List Rect)
    (merged : Bool)
    (after : Ends ⟨before ++ r :: (skipped ++ rest), before.length + 1, before.length + 2, merged⟩
      result) :
    Ends ⟨before ++ r :: (skipped ++ rest), before.length, before.length + 1 + skipped.length,
      merged⟩ result := by
  induction rest generalizing skipped with
  | nil =>
      rw [List.append_nil] at after ⊢
      exact .turn (turn?_of_last ..) after
  | cons next rest ih =>
      rw [takeMeeting] at none_meets
      split at none_meets
      · cases none_meets
      · rename_i apart
        have passed := ih (Option.map_eq_none_iff.mp none_meets) (skipped ++ [next])
        rw [List.append_assoc, List.singleton_append, List.length_append] at passed
        refine .turn (turn?_of_next ..) ?_
        rw [if_neg apart]
        exact passed after

/-- The inner loop finds a rectangle to merge, and starts again beside the one that has grown. -/
theorem ends_of_takeMeeting_some (taken : takeMeeting r rest = some (found, left))
    (skipped : List Rect) (merged : Bool)
    (after : Ends ⟨before ++ r.hull found :: (skipped ++ left), before.length, before.length + 1,
      true⟩ result) :
    Ends ⟨before ++ r :: (skipped ++ rest), before.length, before.length + 1 + skipped.length,
      merged⟩ result := by
  induction rest generalizing left skipped with
  | nil => cases taken
  | cons next rest ih =>
      refine .turn (turn?_of_next ..) ?_
      rw [takeMeeting] at taken
      split at taken
      · rename_i meets
        cases taken
        rw [if_pos meets]
        exact after
      · rename_i apart
        rcases Option.map_eq_some_iff.mp taken with ⟨⟨met, remaining⟩, inside, same⟩
        cases same
        have passed := ih inside (skipped ++ [next])
        simp only [List.append_assoc, List.singleton_append, List.length_append] at passed
        rw [if_neg apart]
        exact passed after

end Inner

theorem ends_of_absorb {before result : List Rect} (r : Rect) (rest : List Rect) (merged : Bool)
    (after : Ends ⟨before ++ (absorb r rest).1 :: (absorb r rest).2, before.length + 1,
      before.length + 2, merged || decide ((absorb r rest).2.length < rest.length)⟩ result) :
    Ends ⟨before ++ r :: rest, before.length, before.length + 1, merged⟩ result := by
  fun_induction absorb r rest generalizing merged with
  | case1 r rest none_meets =>
      rw [decide_eq_false (Nat.lt_irrefl _), Bool.or_false] at after
      exact ends_of_takeMeeting_none none_meets [] merged after
  | case2 r rest found left taken shorter ih =>
      have bound := absorb_length (r.hull found) left
      rw [decide_eq_true (by omega), Bool.or_true] at after
      refine ends_of_takeMeeting_some taken [] merged (ih true ?_)
      rw [Bool.true_or]
      exact after

theorem ends_of_sweep {result : List Rect} (before rects : List Rect) (merged : Bool)
    (after : Ends ⟨before ++ sweep rects, (before ++ sweep rects).length,
      (before ++ sweep rects).length + 1,
      merged || decide ((sweep rects).length < rects.length)⟩ result) :
    Ends ⟨before ++ rects, before.length, before.length + 1, merged⟩ result := by
  fun_induction sweep rects generalizing before merged with
  | case1 =>
      rw [decide_eq_false (Nat.lt_irrefl _), Bool.or_false, List.append_nil] at after
      rw [List.append_nil]
      exact after
  | case2 r rest ih =>
      have absorbed := absorb_length r rest
      have swept := sweep_length (absorb r rest).2
      have passed := ih (before ++ [(absorb r rest).1])
        (merged || decide ((absorb r rest).2.length < rest.length))
      simp only [List.append_assoc, List.singleton_append, List.length_append,
        List.length_singleton] at passed
      refine ends_of_absorb r rest merged (passed ?_)
      have either : (decide ((absorb r rest).2.length < rest.length) ||
          decide ((sweep (absorb r rest).2).length < (absorb r rest).2.length)) =
            decide ((sweep (absorb r rest).2).length + 1 < rest.length + 1) := by
        rw [← Bool.decide_or, decide_eq_decide]
        omega
      rw [Bool.or_assoc, either]
      simpa only [List.length_append, List.length_cons] using after

theorem ends_separate (rects : List Rect) : Ends { rects } (separate rects) := by
  fun_induction separate rects with
  | case1 rects shrunk ih =>
      apply ends_of_sweep [] rects false
      rw [decide_eq_true shrunk]
      exact .turn (turn?_of_end true (sweep rects) _) ih
  | case2 rects kept =>
      apply ends_of_sweep [] rects false
      rw [decide_eq_false kept]
      exact .stop (turn?_of_end false (sweep rects) _)

theorem ends_iff (rects result : List Rect) : Ends { rects } result ↔ result = separate rects := by
  constructor
  · exact fun ends => ends.unique (ends_separate rects)
  · rintro rfl
    exact ends_separate rects

end Scan

theorem takeMeeting_of_apart {r : Rect} {rects : List Rect}
    (alone : ∀ other ∈ rects, r.Apart other) : takeMeeting r rects = none := by
  induction rects with
  | nil => rfl
  | cons next rest ih =>
      rcases List.forall_mem_cons.mp alone with ⟨apart, others⟩
      rw [takeMeeting, if_neg apart, ih others]
      rfl

theorem sweep_of_pairwise {rects : List Rect} (apart : rects.Pairwise Apart) :
    sweep rects = rects := by
  induction rects with
  | nil => rw [sweep]
  | cons r rest ih =>
      rcases List.pairwise_cons.mp apart with ⟨alone, others⟩
      rw [sweep, absorb_of_none (takeMeeting_of_apart alone), ih others]

theorem separate_eq_self_iff {rects : List Rect} :
    separate rects = rects ↔ rects.Pairwise Apart := by
  constructor
  · intro same
    rw [← same]
    exact separate_pairwise rects
  · intro apart
    have kept := sweep_of_pairwise apart
    rw [separate, kept, if_neg (Nat.lt_irrefl _)]

/-- Whatever the rectangles, the loops come to an end, and what they leave is what `separate` gives:
at no two places do rectangles meet, so that no pixel is in both, and going through such a list once
more changes nothing. -/
theorem scan_settles (rects : List Rect) :
    (∀ result, Scan.Ends { rects } result ↔ result = separate rects) ∧
      (∀ (i j : Nat) (first : i < (separate rects).length) (second : j < (separate rects).length),
        i ≠ j → ¬ (separate rects)[i].Meets (separate rects)[j] ∧
          ∀ p ∈ (separate rects)[i], p ∉ (separate rects)[j]) ∧
      separate (separate rects) = separate rects ∧
      (separate rects = rects ↔ rects.Pairwise fun a b => ¬ a.Meets b) := by
  have apart := separate_pairwise rects
  refine ⟨Scan.ends_iff rects, ?_, separate_eq_self_iff.mpr apart, separate_eq_self_iff⟩
  intro i j first second different
  have alone : (separate rects)[i].Apart (separate rects)[j] := by
    rcases Nat.lt_or_gt_of_ne different with earlier | later
    · exact List.pairwise_iff_getElem.mp apart i j first second earlier
    · exact fun meets => List.pairwise_iff_getElem.mp apart j i second first later meets.symm
  exact ⟨alone, fun p inside => not_mem_of_apart alone inside⟩

end Compositing.Rect
