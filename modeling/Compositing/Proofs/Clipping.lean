import Mathlib.Data.List.Infix
import Compositing.Proofs.Links
import Compositing.Proofs.Plane

/-! What a painter's clip comes to. It is what all rectangles applied have in common, whichever was
applied first, also where nothing is left on the way; and once nothing is left, nothing comes back
before the frame is restored. -/

namespace Compositing

namespace Painter

namespace Frame

theorem mem_collapse {p : Point} {r : Rect} : p ∈ collapse r ↔ p ∈ r := by
  rw [collapse]
  split
  · rename_i empty
    have none : p ∉ r := Rect.not_mem_of_isEmpty empty p
    have flat : p ∉ (⟨r.x, r.y, 0, 0⟩ : Rect) := Rect.not_mem_of_isEmpty (by rfl) p
    exact iff_of_false flat none
  · exact Iff.rfl

theorem collapse_isEmpty (r : Rect) : (collapse r).isEmpty = r.isEmpty := by
  rw [collapse]
  split
  · rename_i empty
    rw [empty]
    rfl
  · rfl

/-- The rectangle has neither width nor height, if it is empty. -/
def Flat (r : Rect) : Prop := r.isEmpty = true → r.width = 0 ∧ r.height = 0

theorem flat_collapse (r : Rect) : Flat (collapse r) := by
  intro empty
  rw [collapse_isEmpty] at empty
  rw [collapse, if_pos empty]
  exact ⟨rfl, rfl⟩

theorem collapse_of_flat {r : Rect} (flat : Flat r) : collapse r = r := by
  rw [collapse]
  split
  · rename_i empty
    rcases flat empty with ⟨width, height⟩
    exact (congr (congrArg (Rect.mk r.x r.y) width) height).symm
  · rfl

/-- Only the place of an empty rectangle matters to what it has in common with another, and that
stays. -/
theorem collapse_overlap_collapse (a b : Rect) :
    collapse ((collapse a).overlap b) = collapse (a.overlap b) := by
  by_cases empty : a.isEmpty = true
  · have left : ((⟨a.x, a.y, 0, 0⟩ : Rect).overlap b).isEmpty = true :=
      Rect.overlap_isEmpty_of_left (by rfl)
    have right : (a.overlap b).isEmpty = true := Rect.overlap_isEmpty_of_left empty
    rw [collapse, collapse, if_pos empty, if_pos left, collapse, if_pos right]
    rfl
  · rw [collapse.eq_def a, if_neg empty]

def narrow (clip : Option Rect) (r : Rect) : Option Rect := some (narrowed { clip } r)

theorem narrow_some (clip r : Rect) : narrow (some clip) r = some (collapse (clip.overlap r)) := rfl

theorem narrow_none (r : Rect) : narrow none r = some (collapse r) := rfl

theorem narrow_right_comm (clip : Option Rect) (a b : Rect) :
    narrow (narrow clip a) b = narrow (narrow clip b) a := by
  cases clip with
  | none =>
      calc narrow (narrow none a) b
          = some (collapse (a.overlap b)) := congrArg some (collapse_overlap_collapse a b)
        _ = some (collapse (b.overlap a)) := by rw [Rect.overlap_comm]
        _ = narrow (narrow none b) a := congrArg some (collapse_overlap_collapse b a).symm
  | some clip =>
      calc narrow (narrow (some clip) a) b
          = some (collapse ((clip.overlap a).overlap b)) :=
            congrArg some (collapse_overlap_collapse _ b)
        _ = some (collapse ((clip.overlap b).overlap a)) := by rw [Rect.overlap_right_comm]
        _ = narrow (narrow (some clip) b) a :=
            congrArg some (collapse_overlap_collapse _ a).symm

theorem mem_narrow {clip : Option Rect} {r : Rect} {p : Point} :
    (∀ c ∈ narrow clip r, p ∈ c) ↔ (∀ c ∈ clip, p ∈ c) ∧ p ∈ r := by
  cases clip with
  | none => simp [narrow_none, mem_collapse]
  | some clip => simp [narrow_some, mem_collapse]

theorem mem_narrowAll {clip : Option Rect} {rects : List Rect} {p : Point} :
    (∀ c ∈ rects.foldl narrow clip, p ∈ c) ↔ (∀ c ∈ clip, p ∈ c) ∧ ∀ r ∈ rects, p ∈ r := by
  induction rects generalizing clip with
  | nil => simp
  | cons r rest ih => rw [List.foldl_cons, ih, mem_narrow, and_assoc, List.forall_mem_cons]

theorem narrowAll_isSome {clip : Option Rect} {rects : List Rect} :
    (rects.foldl narrow clip).isSome ↔ clip.isSome ∨ rects ≠ [] := by
  induction rects generalizing clip with
  | nil => simp
  | cons r rest ih =>
      rw [List.foldl_cons, ih]
      simp [narrow]

theorem narrowAll_eq {clip : Option Rect} (flat : ∀ c ∈ clip, Flat c) (rects : List Rect) :
    rects.foldl narrow clip = (clip.toList ++ rects).foldl narrow none := by
  cases clip with
  | none => rfl
  | some clip =>
      rw [Option.toList_some, List.singleton_append, List.foldl_cons, narrow_none,
        collapse_of_flat (flat clip rfl)]

theorem narrowAll_perm {first second : Option Rect} {rects others : List Rect}
    (flat : ∀ c ∈ first, Flat c) (other_flat : ∀ c ∈ second, Flat c)
    (same : (first.toList ++ rects).Perm (second.toList ++ others)) :
    rects.foldl narrow first = others.foldl narrow second := by
  rw [narrowAll_eq flat, narrowAll_eq other_flat]
  exact same.foldl_eq' (fun a _ b _ clip => narrow_right_comm clip a b) none

theorem narrow_flat (clip : Option Rect) (r : Rect) : ∀ c ∈ narrow clip r, Flat c := by
  intro c there
  cases there
  exact flat_collapse _

def Shut (f : Frame) : Prop := f.clip.any Rect.isEmpty = true

theorem Shut.clipTo {f : Frame} (shut : f.Shut) (r : Rect) :
    { f with clip := some (f.narrowed r) }.Shut := by
  change (f.narrowed r).isEmpty = true
  rw [Shut] at shut
  rw [narrowed, collapse_isEmpty]
  cases there : f.clip with
  | none =>
      rw [there] at shut
      cases shut
  | some clip =>
      rw [there] at shut
      exact Rect.overlap_isEmpty_of_left shut

end Frame

def begun : Option (BufferId × SurfaceId × Size) → Painter
  | none => {}
  | some (buffer, surface, size) => attach buffer surface size

def ask (p : Painter) (request : Request) : Painter := (p.answer request).toOption.getD p

def askAll (p : Painter) (requests : List Request) : Painter := requests.foldl ask p

theorem askAll_append (p : Painter) (first second : List Request) :
    p.askAll (first ++ second) = (p.askAll first).askAll second := List.foldl_append

def Request.area? (origin : Point) : Request → Option Rect
  | .clipTo r => some r
  | .clipLocal r => some (r.shift origin)
  | _ => none

def areas (p : Painter) : List Request → List Rect
  | [] => []
  | request :: rest => (request.area? p.frame.origin).toList ++ areas (p.ask request) rest

section Requests

variable {p : Painter} {request : Request}

theorem ask_clip (kept : request ≠ .restore) :
    (p.ask request).frame.clip =
      (request.area? p.frame.origin).toList.foldl Frame.narrow p.frame.clip := by
  cases request with
  | restore => exact absurd rfl kept
  | _ => rfl

theorem askAll_clip {requests : List Request} (kept : .restore ∉ requests) :
    (p.askAll requests).frame.clip = (p.areas requests).foldl Frame.narrow p.frame.clip := by
  induction requests generalizing p with
  | nil => rfl
  | cons request rest ih =>
      have first : request ≠ .restore := fun same => kept (same ▸ List.mem_cons_self)
      have later : .restore ∉ rest := fun there => kept (List.mem_cons_of_mem _ there)
      calc (p.askAll (request :: rest)).frame.clip
          = (areas (p.ask request) rest).foldl Frame.narrow (p.ask request).frame.clip := ih later
        _ = (p.areas (request :: rest)).foldl Frame.narrow p.frame.clip := by
            rw [ask_clip first, areas, List.foldl_append]

end Requests

section Above

/-- The frame in use has the property, and so have those saved above the ones that lie below. -/
def Above (holds : Frame → Prop) (below : List Frame) (p : Painter) : Prop :=
  holds p.frame ∧ ∃ above, p.saved = above ++ below ∧ ∀ f ∈ above, holds f

variable {holds : Frame → Prop} {below : List Frame} {p : Painter}
  (moved : ∀ f origin owner, holds f → holds { f with origin, owner })
  (clipped : ∀ f r, holds f → holds { f with clip := some (f.narrowed r) })

include moved clipped

theorem Above.ask (above : Above holds below p) {request : Request}
    (high : below.length < (p.ask request).depth) : Above holds below (p.ask request) := by
  rcases above with ⟨here, above, saved, each⟩
  cases request with
  | save => exact ⟨here, p.frame :: above, congrArg _ saved, List.forall_mem_cons.mpr ⟨here, each⟩⟩
  | restore =>
      cases above with
      | nil =>
          -- only the frames below could be restored, and that would be too deep
          cases below with
          | nil =>
              rw [Painter.ask, answer, restore, saved]
              exact ⟨here, [], saved, each⟩
          | cons f rest =>
              rw [Painter.ask, answer, restore, saved] at high
              exact absurd high (Nat.lt_irrefl _)
      | cons f rest =>
          rw [Painter.ask, answer, restore, saved]
          rcases List.forall_mem_cons.mp each with ⟨next, each⟩
          exact ⟨next, rest, rfl, each⟩
  | placeOrigin origin => exact ⟨moved _ _ _ here, above, saved, each⟩
  | moveOrigin step => exact ⟨moved _ _ _ here, above, saved, each⟩
  | setOwner owner => exact ⟨moved _ _ _ here, above, saved, each⟩
  | clipTo r => exact ⟨clipped _ _ here, above, saved, each⟩
  | clipLocal r => exact ⟨clipped _ _ here, above, saved, each⟩
  | onBrush change => exact ⟨here, above, saved, each⟩

theorem Above.answer (above : Above holds [] p) {request : Request} {after : Painter}
    (answered : p.answer request = .ok after) : Above holds [] after := by
  have asked : p.ask request = after := by rw [Painter.ask, answered]; rfl
  rw [← asked]
  exact above.ask moved clipped (Nat.succ_pos _)

theorem Above.askAll (above : Above holds below p) {requests : List Request}
    (high : ∀ done, done <+: requests → below.length < (p.askAll done).depth) :
    Above holds below (p.askAll requests) := by
  induction requests generalizing p with
  | nil => exact above
  | cons request rest ih =>
      apply ih (above.ask moved clipped (high [request] ⟨rest, rfl⟩))
      intro done early
      exact high (request :: done) (List.cons_prefix_cons.mpr ⟨rfl, early⟩)

end Above

/-- Every clip has come of narrowing, so that nothing of its size is left when it is empty. -/
theorem askAll_flat (home : Option (BufferId × SurfaceId × Size)) (requests : List Request) :
    ∀ c ∈ ((begun home).askAll requests).frame.clip, Frame.Flat c := by
  have start : Above (fun f => ∀ c ∈ f.clip, Frame.Flat c) [] (begun home) := by
    refine ⟨?_, [], ?_, ?_⟩
    · cases home with
      | none =>
          intro c there
          cases there
      | some place => exact Frame.narrow_flat none _
    · cases home <;> rfl
    · intro f member
      cases member
  have run : Above (fun f => ∀ c ∈ f.clip, Frame.Flat c) [] ((begun home).askAll requests) :=
    start.askAll (fun _ _ _ flat => flat) (fun f r _ => Frame.narrow_flat f.clip r)
      fun _ _ => Nat.zero_lt_succ _
  exact run.1

/-- Nothing comes back while the frame in which nothing is left has not been popped. -/
theorem isFullyClipped_askAll {p : Painter} (shut : p.isFullyClipped = true)
    {requests : List Request} (high : ∀ done, done <+: requests → p.depth ≤ (p.askAll done).depth) :
    (p.askAll requests).isFullyClipped = true := by
  have start : Above Frame.Shut p.saved p := ⟨shut, [], rfl, by simp⟩
  exact (start.askAll (fun _ _ _ shut => shut) (fun _ r shut => shut.clipTo r) high).1

theorem clipped_iff {p : Painter} {q : Point} :
    (∀ c ∈ p.frame.clip, q ∈ c) ↔ (p.frame.clip.isSome → q ∈ p.clip) := by
  rw [Painter.clip]
  cases p.frame.clip <;> simp

theorem mem_clip {p : Painter} (there : p.frame.clip.isSome) {q : Point} :
    q ∈ p.clip ↔ ∀ c ∈ p.frame.clip, q ∈ c := by
  rw [clipped_iff]
  simp only [there, true_imp_iff]

/-- The clip that rectangles are applied to, one after the other, and however the origin moves
and frames are saved between them. Once there is a clip, it holds the points that were in it
before, if it was there, and that all the rectangles hold; so none is ever gained. When nothing is
left of it, it has no width and no height, and it stays like that until its frame is popped. And
whatever painter the same rectangles are applied to, in whatever order, they come to the same clip,
where one that was there before counts as a rectangle. -/
theorem clip_intersects (home : Option (BufferId × SurfaceId × Size))
    (earlier requests : List Request) (unrestored : .restore ∉ requests) :
    let p := (begun home).askAll earlier
    let after := p.askAll requests
    (after.frame.clip.isSome ↔ p.frame.clip.isSome ∨ p.areas requests ≠ []) ∧
      (after.frame.clip.isSome → ∀ q, q ∈ after.clip ↔
        (p.frame.clip.isSome → q ∈ p.clip) ∧ ∀ r ∈ p.areas requests, q ∈ r) ∧
      (p.frame.clip.isSome → ∀ q ∈ after.clip, q ∈ p.clip) ∧
      (after.frame.clip.isSome → after.clip.isEmpty = true →
        after.clip.width = 0 ∧ after.clip.height = 0 ∧
          ∀ later, (∀ done, done <+: later → after.depth ≤ (after.askAll done).depth) →
            (after.askAll later).isFullyClipped = true) ∧
      ∀ other before others, .restore ∉ others →
        let q := (begun other).askAll before
        (q.frame.clip.toList ++ q.areas others).Perm (p.frame.clip.toList ++ p.areas requests) →
          (q.askAll others).frame.clip = after.frame.clip := by
  intro p after
  have clip : after.frame.clip = (p.areas requests).foldl Frame.narrow p.frame.clip :=
    askAll_clip unrestored
  have active : after.frame.clip.isSome ↔ p.frame.clip.isSome ∨ p.areas requests ≠ [] := by
    rw [clip, Frame.narrowAll_isSome]
  have flat := askAll_flat home earlier
  have points : after.frame.clip.isSome → ∀ q, q ∈ after.clip ↔
      (p.frame.clip.isSome → q ∈ p.clip) ∧ ∀ r ∈ p.areas requests, q ∈ r := by
    intro there q
    rw [mem_clip there, clip, Frame.mem_narrowAll, clipped_iff]
  refine ⟨active, points, ?_, ?_, ?_⟩
  · intro there q inside
    exact ((points (active.mpr (.inl there)) q).mp inside).1 there
  · intro there empty
    rcases Option.isSome_iff_exists.mp there with ⟨c, found⟩
    have same : after.clip = c := by rw [Painter.clip, found, Option.getD_some]
    have left : Frame.Flat c := by
      apply askAll_flat home (earlier ++ requests)
      rw [askAll_append]
      exact found
    have shut : after.isFullyClipped = true := by
      rw [isFullyClipped, found, Option.any_some, ← same, empty]
    rw [same] at empty ⊢
    exact ⟨(left empty).1, (left empty).2, fun later high => isFullyClipped_askAll shut high⟩
  · intro other before others kept q same
    calc (q.askAll others).frame.clip
        = (q.areas others).foldl Frame.narrow q.frame.clip := askAll_clip kept
      _ = (p.areas requests).foldl Frame.narrow p.frame.clip :=
          Frame.narrowAll_perm (askAll_flat other before) flat same
      _ = after.frame.clip := clip.symm

def disjointly : List Request :=
  [.clipTo ⟨0, 0, 8, 8⟩, .placeOrigin ⟨3, 4⟩, .clipLocal ⟨0, 0, 1, 1⟩, .clipTo ⟨5, -5, 4, 4⟩]

theorem clip_intersects_disjointly :
    let after := (begun none).askAll disjointly
    after.clip = ⟨5, 4, 0, 0⟩ ∧
      (after.askAll [.save, .clipTo ⟨0, 0, 9, 9⟩]).isFullyClipped = true ∧
      ((begun (some (⟨0⟩, ⟨0⟩, ⟨8, 8⟩))).askAll
        [.clipTo ⟨5, -5, 4, 4⟩, .clipTo ⟨3, 4, 1, 1⟩]).frame.clip = some ⟨5, 4, 0, 0⟩ := by
  intro after
  have kept : .restore ∉ disjointly := by simp [disjointly]
  rcases clip_intersects none [] disjointly kept with ⟨_, _, _, shut, order⟩
  have clip : after.clip = ⟨5, 4, 0, 0⟩ := by decide +kernel
  rcases shut rfl (by decide +kernel) with ⟨_, _, stays⟩
  refine ⟨clip, stays _ ?_, ?_⟩
  · intro done early
    have depths : ∀ done ∈ ([.save, .clipTo ⟨0, 0, 9, 9⟩] : List Request).inits,
        after.depth ≤ (after.askAll done).depth := by decide +kernel
    exact depths done ((List.mem_inits ..).mpr early)
  · refine (order (some (⟨0⟩, ⟨0⟩, ⟨8, 8⟩)) [] _ (by simp) ?_).trans ?_
    · decide +kernel
    · decide +kernel

/-- Before there is a clip, the painter tells of an empty one that holds no point, although it is
not in force: nothing is clipped away, and the first rectangle is taken as it is. -/
theorem clip_of_unclipped :
    let p := begun none
    p.clip.isEmpty = true ∧ p.isFullyClipped = false ∧ p.areas [] = [] ∧
      ¬ (∀ q, q ∈ (p.askAll []).clip ↔
        (p.frame.clip.isSome → q ∈ p.clip) ∧ ∀ r ∈ p.areas [], q ∈ r) ∧
      ∃ q ∈ (p.askAll [.clipTo ⟨0, 0, 1, 1⟩]).clip, q ∉ p.clip := by
  refine ⟨rfl, rfl, rfl, ?_, ⟨0, 0⟩, by decide, by decide⟩
  intro holds
  have outside : (⟨0, 0⟩ : Point) ∉ ((begun none).askAll []).clip := by decide
  exact outside ((holds ⟨0, 0⟩).mpr ⟨by decide, by decide⟩)

end Painter

end Compositing
