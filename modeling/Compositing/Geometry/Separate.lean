import Compositing.Geometry.Rect

/-!
Lists of rectangles. `separate` replaces rectangles that meet by their hull until no two do;
`overlaps` lists what two lists have in common.
-/

namespace Compositing.Rect

/-- Takes the first rectangle of the list that meets `r`, and returns it with the others. -/
def takeMeeting (r : Rect) : List Rect → Option (Rect × List Rect)
  | [] => none
  | other :: rest =>
      if r.Meets other then some (other, rest)
      else (takeMeeting r rest).map fun (found, left) => (found, other :: left)

theorem takeMeeting_length {r found : Rect} {rects left : List Rect}
    (taken : takeMeeting r rects = some (found, left)) : left.length + 1 = rects.length := by
  induction rects generalizing left with
  | nil => simp [takeMeeting] at taken
  | cons other rest ih =>
      unfold takeMeeting at taken
      split at taken
      · simp_all
      · simp only [Option.map_eq_some_iff, Prod.mk.injEq, Prod.exists] at taken
        obtain ⟨_, inner, inside, rfl, rfl⟩ := taken
        simp [ih inside]

/-- Grows `r` by every rectangle that it meets, looking again from the start after each, and
returns it with the rectangles left over. -/
def absorb (r : Rect) (rects : List Rect) : Rect × List Rect :=
  match taken : takeMeeting r rects with
  | none => (r, rects)
  | some (found, left) =>
      have := takeMeeting_length taken
      absorb (r.hull found) left
termination_by rects.length

theorem absorb_length (r : Rect) (rects : List Rect) :
    (absorb r rects).2.length ≤ rects.length := by
  fun_induction absorb r rects with
  | case1 => simp
  | case2 r rects found left taken ih =>
      have := takeMeeting_length taken
      omega

def sweep : List Rect → List Rect
  | [] => []
  | r :: rest => (absorb r rest).1 :: sweep (absorb r rest).2
termination_by rects => rects.length
decreasing_by have := absorb_length r rest; simp; omega

theorem sweep_length (rects : List Rect) : (sweep rects).length ≤ rects.length := by
  fun_induction sweep rects with
  | case1 => simp
  | case2 r rest ih =>
      have := absorb_length r rest
      simp only [List.length_cons]
      omega

/-- Sweeps until a pass merges nothing. -/
def separate (rects : List Rect) : List Rect :=
  if (sweep rects).length < rects.length then separate (sweep rects) else sweep rects
termination_by rects.length

def overlaps (a b : List Rect) : List Rect :=
  (a.flatMap fun r => b.map r.overlap).filter fun r => !r.isEmpty

end Compositing.Rect
