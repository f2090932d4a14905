import Compositing.Proofs.Dispatch
import Compositing.Proofs.Playback
import Compositing.Render.Program

/-! Paint programs, point by point. What such a program makes of a pixel depends on where the origin
of its region lies and not on the clip, which only decides whether the pixel is reached. -/

namespace Compositing

def Studio.Spares (studio : Studio) (target : SurfaceId) : Prop :=
  ∀ id buffer, studio.buffers.get? id = some buffer → buffer.surface ≠ target

namespace Step

mutual

/-- Fills, draws and regions that are left again. -/
def isPaint : Step → Bool
  | render _ _ | copy _ _ | fill _ _ => true
  | within _ _ body => arePaint body
  | _ => false

def arePaint : List Step → Bool
  | [] => true
  | step :: steps => isPaint step && arePaint steps

end

section Ink

variable (studio : Studio) (surfaces : Surfaces) (canvas : Surface) (p : Point)

def fillInk (origin : Point) (color : Color) (area : Rect) (old : Pixel) : Pixel :=
  if p ∈ area.shift origin then canvas.landing p (Operator.blend .sourceOver color.toPixel old)
  else old

def blitInk (origin : Point) (operator : Operator) (buffer : Buffer) (corner : Point)
    (old : Pixel) : Pixel :=
  match surfaces.get? buffer.surface with
  | none => old
  | some image =>
      if p ∈ (buffer.areaAt corner).shift origin then
        canvas.landing p (operator.blend
          (image.pixelOrClear (p - ((buffer.areaAt corner).shift origin).corner)) old)
      else old

def drawInk (origin : Point) (operator : Operator) (buffer : BufferId) (corner : Point)
    (old : Pixel) : Pixel :=
  match studio.buffers.get? buffer with
  | none => old
  | some found => blitInk surfaces canvas p origin operator found corner old

mutual

def ink (origin : Point) : Step → Pixel → Pixel
  | render buffer corner, old =>
      drawInk studio surfaces canvas p origin .sourceOver buffer corner old
  | copy buffer corner, old =>
      drawInk studio surfaces canvas p origin .sourceOnly buffer corner old
  | fill color area, old => fillInk canvas p origin color area old
  | within area offset body, old =>
      if p ∈ area.shift origin then
        inkAll ⟨saturatingAdd origin.x offset.x, saturatingAdd origin.y offset.y⟩ body old
      else old
  | _, old => old

def inkAll (origin : Point) : List Step → Pixel → Pixel
  | [], old => old
  | step :: steps, old => inkAll origin steps (ink origin step old)

end

end Ink

end Step

/-- From `before` to `after` a renderer has only drawn, without reading the target: what it has sent
makes `ink` of the pixels of the clip and leaves the others. -/
structure Draws (target : SurfaceId) (surfaces : Surfaces) (canvas : Surface) (clip : Rect)
    (ink : Point → Pixel → Pixel) (before after : Renderer) : Prop where
  frame : ∃ tally calls log, after = { before with tally, calls, log }
  sends : ∃ sent, after.calls = before.calls ++ sent ∧
    (∀ call ∈ sent, target ∉ call.source?) ∧
    ∀ p old, Call.inkAll surfaces canvas p sent old = if p ∈ clip then ink p old else old

section Draws

variable {target : SurfaceId} {surfaces : Surfaces} {canvas : Surface} {clip : Rect}

theorem Draws.refl (r : Renderer) : Draws target surfaces canvas clip (fun _ old => old) r r where
  frame := ⟨_, _, _, rfl⟩
  sends := ⟨[], by simp, by simp, fun p old => by simp [Call.inkAll]⟩

theorem Draws.trans {first second : Point → Pixel → Pixel} {before middle after : Renderer}
    (start : Draws target surfaces canvas clip first before middle)
    (rest : Draws target surfaces canvas clip second middle after) :
    Draws target surfaces canvas clip (fun p old => second p (first p old)) before after where
  frame := by
    obtain ⟨_, _, _, early⟩ := start.frame
    obtain ⟨_, _, _, late⟩ := rest.frame
    rw [late, early]
    exact ⟨_, _, _, rfl⟩
  sends := by
    obtain ⟨early, calls, apart, makes⟩ := start.sends
    obtain ⟨late, after_calls, later_apart, later_makes⟩ := rest.sends
    refine ⟨early ++ late, by rw [after_calls, calls, List.append_assoc], ?_, ?_⟩
    · intro call member
      rcases List.mem_append.mp member with member | member
      · exact apart call member
      · exact later_apart call member
    · intro p old
      rw [Call.inkAll_append, makes, later_makes]
      split <;> rfl

theorem Draws.congr {ink other : Point → Pixel → Pixel} {before after : Renderer}
    (draws : Draws target surfaces canvas clip ink before after)
    (same : ∀ p ∈ clip, ∀ old, ink p old = other p old) :
    Draws target surfaces canvas clip other before after where
  frame := draws.frame
  sends := by
    obtain ⟨sent, calls, apart, makes⟩ := draws.sends
    refine ⟨sent, calls, apart, ?_⟩
    intro p old
    rw [makes]
    split
    · rename_i inside
      exact same p inside old
    · rfl

theorem leave_draws {r : Renderer} (settled : r.baseline ≤ r.depth) {inner : Region}
    {drawn : Renderer} {ink : Point → Pixel → Pixel}
    (body : Draws target surfaces canvas inner.clip ink
      { r with regions := inner :: r.regions } drawn) :
    Draws target surfaces canvas inner.clip ink r drawn.leaveOrReport.1 := by
  obtain ⟨tally, calls, log, same⟩ := body.frame
  have left : drawn.leaveOrReport.1 = { r with tally, calls, log } := by
    rw [same]
    exact Renderer.leaveOrReport_of_deep (Nat.lt_succ_of_le settled)
  constructor
  · exact ⟨_, _, _, left⟩
  · have sends := body.sends
    rw [same] at sends
    rw [left]
    exact sends

variable {r : Renderer} {region : Region} (active : r.phase = .active)

include active

theorem dispatch_draws {after : Renderer} {drawn : Rect} {call : Call} {ink : Point → Pixel → Pixel}
    (frame : ∃ tally calls log, after = { r with tally, calls, log })
    (calls : after.calls =
      if r.phase = .active ∧ (drawn.overlap region.clip).isEmpty = false then r.calls ++ [call]
      else r.calls)
    (apart : target ∉ call.source?) (missed : ∀ p old, p ∉ drawn → ink p old = old)
    (makes : (drawn.overlap region.clip).isEmpty = false → ∀ p old,
      call.ink surfaces canvas p old = if p ∈ region.clip then ink p old else old) :
    Draws target surfaces canvas region.clip ink r after where
  frame := frame
  sends := by
    cases shows : (drawn.overlap region.clip).isEmpty with
    | true =>
        refine ⟨[], by simpa [shows] using calls, by simp, ?_⟩
        intro p old
        rw [Call.inkAll, List.foldl_nil]
        split
        · rename_i inside
          have outside : p ∉ drawn :=
            fun hit => Rect.overlap_isEmpty_iff_forall.mp shows p hit inside
          rw [missed p old outside]
        · rfl
    | false =>
        refine ⟨[call], by simpa [active, shows] using calls, ?_, makes shows⟩
        intro other member
        rw [List.mem_singleton.mp member]
        exact apart

variable (current : r.region? = some region)

include current

theorem fill_draws (color : Color) (area : Rect) :
    Draws target surfaces canvas region.clip
      (fun p => Step.fillInk canvas p region.origin color area) r (r.fill color area) := by
  apply dispatch_draws active (r.fill_frame area color) (Renderer.fill_calls current color area)
  · intro reads
    cases reads
  · intro p old missed
    rw [Step.fillInk, if_neg missed]
  · intro _ p old
    simp only [Call.ink, Step.fillInk, Rect.mem_overlap]
    by_cases inside : p ∈ region.clip <;> simp [inside]

theorem blit_draws (operator : Operator) (buffer : Buffer) (corner : Point)
    (apart : buffer.surface ≠ target) :
    Draws target surfaces canvas region.clip
      (fun p => Step.blitInk surfaces canvas p region.origin operator buffer corner) r
      (r.blit operator buffer corner) := by
  apply dispatch_draws active (r.blit_frame operator buffer corner)
    (Renderer.blit_calls current operator buffer corner)
  · intro reads
    exact apart (Option.mem_some.mp reads)
  · intro p old missed
    rw [Step.blitInk]
    split
    · rfl
    · rw [if_neg missed]
  · intro shows p old
    simp only [Call.ink, Step.blitInk,
      Rect.placed_partOf (Rect.encloses_overlap_left shows) shows, Rect.mem_overlap]
    cases surfaces.get? buffer.surface with
    | none => simp
    | some image => by_cases inside : p ∈ region.clip <;> simp [inside]

end Draws

namespace Step

variable {studio : Studio} {target : SurfaceId} {surfaces : Surfaces} {canvas : Surface}

theorem draw_draws (apart : studio.Spares target) {r : Renderer} {region : Region}
    (active : r.phase = .active) (current : r.region? = some region) (operator : Operator)
    (buffer : BufferId) (corner : Point) :
    Draws target surfaces canvas region.clip
      (fun p => drawInk studio surfaces canvas p region.origin operator buffer corner) r
      (draw studio r operator buffer corner).1 := by
  unfold draw drawInk
  cases found : studio.buffers.get? buffer with
  | none => exact .refl r
  | some held => exact blit_draws active current operator held corner (apart buffer held found)

mutual

theorem run_draws (apart : studio.Spares target) {r : Renderer} {region : Region}
    (active : r.phase = .active) (current : r.region? = some region)
    (settled : r.baseline ≤ r.depth) (step : Step) (paint : step.isPaint = true) :
    Draws target surfaces canvas region.clip
      (fun p => ink studio surfaces canvas p region.origin step) r (run studio r step).1 := by
  cases step with
  | fill color area => exact fill_draws active current color area
  | render buffer corner => exact draw_draws apart active current .sourceOver buffer corner
  | copy buffer corner => exact draw_draws apart active current .sourceOnly buffer corner
  | within area offset body =>
      rw [run, Renderer.enter?_of_region current]
      cases opened : region.within? area offset with
      | none =>
          refine (Draws.refl r).congr ?_
          intro p inside old
          simp only [ink, if_neg (Region.within?_none opened inside)]
      | some inner =>
          have body_draws := runAll_draws (r := { r with regions := inner :: r.regions }) apart
            active rfl (Nat.le_succ_of_le settled) body paint
          obtain ⟨frame, sent, calls, reads, makes⟩ := leave_draws settled body_draws
          refine ⟨frame, sent, calls, reads, ?_⟩
          intro p old
          rw [makes]
          simp only [ink, (Region.within?_some opened).1, Rect.mem_overlap]
          by_cases inside : p ∈ region.clip <;> simp [inside]
  | enter _ _ | leave | setOption _ _ | option _ | complete | inspect | describe => cases paint

theorem runAll_draws (apart : studio.Spares target) {r : Renderer} {region : Region}
    (active : r.phase = .active) (current : r.region? = some region)
    (settled : r.baseline ≤ r.depth) (steps : List Step) (paint : arePaint steps = true) :
    Draws target surfaces canvas region.clip
      (fun p => inkAll studio surfaces canvas p region.origin steps) r
      (runAll studio r steps).1 := by
  cases steps with
  | nil => exact .refl r
  | cons step rest =>
      rw [arePaint, Bool.and_eq_true] at paint
      have first := run_draws apart active current settled step paint.1
      obtain ⟨tally, calls, log, same⟩ := first.frame
      have second := runAll_draws (r := (run studio r step).1) apart (by rw [same]; exact active)
        (by rw [same]; exact current) (by rw [same]; exact settled) rest paint.2
      exact first.trans second

end

end Step

end Compositing
