import Compositing.Output.Framebuffer
import Compositing.Proofs.Ink
import Compositing.Proofs.Separation
import Compositing.Proofs.Update

/-! Painting what is damaged, one rectangle after the other, puts into the damaged pixels what
painting everything at once would have put there. -/

namespace Compositing

def Renderer.paint (backend : Backend) (clip area : Rect) (offset : Point) (studio : Studio)
    (program : List Step) : Renderer :=
  let fresh := within backend clip .origin
  match fresh.enter? area offset with
  | none => fresh
  | some entered => (Step.runAll studio entered program).1

/-- A pass over a surface that has made up its calls, and what they make of each pixel. -/
structure Inks (target : SurfaceId) (surfaces : Surfaces) (canvas : Surface)
    (ink : Point → Pixel → Pixel) (r : Renderer) : Prop where
  backend : r.backend = .surface target
  active : r.phase = .active
  apart : ∀ call ∈ r.calls, target ∉ call.source?
  makes : ∀ p old, Call.inkAll surfaces canvas p r.calls old = ink p old

section Pass

variable {target : SurfaceId} {surfaces : Surfaces} {canvas : Surface} {studio : Studio}
  {program : List Step}

theorem paint_inks (apart : studio.Spares target) (paint : Step.arePaint program = true)
    (clip area : Rect) (offset : Point) :
    Inks target surfaces canvas
      (fun p old =>
        if p ∈ area ∧ p ∈ clip then
          Step.inkAll studio surfaces canvas p
            ⟨saturatingAdd 0 offset.x, saturatingAdd 0 offset.y⟩ program old
        else old)
      (Renderer.paint (.surface target) clip area offset studio program) := by
  let outer : Region := ⟨clip, .origin⟩
  let fresh := Renderer.within (.surface target) clip .origin
  have current : fresh.region? = some outer := rfl
  have unmoved : area.shift outer.origin = area := Rect.shift_origin area
  unfold Renderer.paint
  dsimp only
  rw [Renderer.enter?_of_region current]
  cases opened : outer.within? area offset with
  | none =>
      refine ⟨rfl, rfl, fun call member => absurd member List.not_mem_nil, ?_⟩
      intro p old
      have hidden : ¬ (p ∈ area ∧ p ∈ clip) := by
        intro shown
        have outside := Region.within?_none opened shown.2
        rw [unmoved] at outside
        exact outside shown.1
      rw [if_neg hidden]
      rfl
  | some inner =>
      let entered : Renderer := { fresh with regions := inner :: fresh.regions }
      have draws : Draws target surfaces canvas _ _ entered
          (Step.runAll studio entered program).1 :=
        Step.runAll_draws apart rfl rfl (Nat.le_succ 1) program paint
      rcases draws.frame with ⟨tally, calls, log, same⟩
      rcases draws.sends with ⟨sent, sends, reads, makes⟩
      change Inks target surfaces canvas _ (Step.runAll studio entered program).1
      rw [same] at sends ⊢
      refine ⟨rfl, rfl, ?_, ?_⟩
      · rw [sends]
        exact reads
      · intro p old
        rw [sends]
        have inked := makes p old
        simp only [(Region.within?_some opened).1, Rect.mem_overlap, unmoved] at inked
        exact inked

theorem Inks.of_frame {ink : Point → Pixel → Pixel} {r : Renderer}
    (inks : Inks target surfaces canvas ink r) (regions : List Region) (log : List Log.Entry) :
    Inks target surfaces canvas ink { r with regions, log } :=
  ⟨inks.backend, inks.active, inks.apart, inks.makes⟩

theorem Inks.perform {ink : Point → Pixel → Pixel} {r : Renderer}
    (inks : Inks target surfaces canvas ink r) {δ : Type} (stage : Stage δ) {old : Surface}
    (found : stage.surfaces.get? target = some old) (alike : old.Alike canvas)
    (others : ∀ id, id ≠ target → stage.surfaces.get? id = surfaces.get? id) :
    Inked target canvas ink stage.surfaces (stage.perform r.complete).surfaces := by
  have completed : r.complete.calls = r.calls ++ [.complete] ∧
      r.complete.backend = .surface target := by
    rw [Renderer.complete, inks.active]
    exact ⟨rfl, inks.backend⟩
  have reads : ∀ call ∈ r.complete.calls, target ∉ call.source? := by
    rw [completed.1]
    intro call member
    rcases List.mem_append.mp member with sent | last
    · exact inks.apart call sent
    · rw [List.mem_singleton.mp last]
      simp [Call.source?]
  rw [Stage.perform_eq, completed.2]
  refine (playAll_inked found alike r.complete.calls reads).congr ?_
  intro p _ pixel
  have sources : ∀ call ∈ r.complete.calls, ∀ source ∈ call.source?,
      stage.surfaces.get? source = surfaces.get? source :=
    fun call member source read => others source fun own => reads call member (own ▸ read)
  calc Call.inkAll stage.surfaces canvas p r.complete.calls pixel
      = Call.inkAll surfaces canvas p (r.calls ++ [.complete]) pixel := by
        rw [Call.inkAll_congr canvas p r.complete.calls sources, completed.1]
    _ = Call.inkAll surfaces canvas p r.calls pixel := by
        rw [Call.inkAll_append]
        rfl
    _ = ink p pixel := inks.makes p pixel

end Pass

namespace Stage

def Shows (stage : Stage Framebuffer) (id : OutputId) (target : SurfaceId) : Prop :=
  ∃ device, stage.outputs.get? id = some device ∧ device.surface = target

theorem Shows.of_outputs {stage after : Stage Framebuffer} {id : OutputId} {target : SurfaceId}
    (shows : stage.Shows id target) (same : after.outputs = stage.outputs) :
    after.Shows id target := by
  rcases shows with ⟨device, found, draws⟩
  exact ⟨device, same ▸ found, draws⟩

theorem act_shows {stage : Stage Framebuffer} {id : OutputId} {target : SurfaceId}
    (shows : stage.Shows id target) {α : Type} (otherwise : α)
    (f : Rig Framebuffer → Rig Framebuffer × α)
    (surfaces : ∀ rig, (f rig).1.surfaces = rig.surfaces)
    (surface : ∀ rig, (f rig).1.device.surface = rig.device.surface) :
    (stage.act id otherwise f).1.surfaces = stage.surfaces ∧
      (stage.act id otherwise f).1.Shows id target := by
  rcases shows with ⟨device, found, draws⟩
  rw [act]
  rw [found]
  constructor
  · exact surfaces _
  · refine ⟨(f ⟨stage.surfaces, device, []⟩).1.device, ?_, (surface _).trans draws⟩
    change (stage.outputs.set id _).get? id = _
    simp [Registry.set, found]

theorem act_answer {δ α : Type} {stage : Stage δ} {id : OutputId} {device : δ}
    (found : stage.outputs.get? id = some device) (otherwise : α) (f : Rig δ → Rig δ × α) :
    (stage.act id otherwise f).2 = (f ⟨stage.surfaces, device, []⟩).2 := by
  rw [act, found]

theorem beginUpdates_shows {stage : Stage Framebuffer} {id : OutputId} {target : SurfaceId}
    (shows : stage.Shows id target) :
    (stage.beginUpdates id).surfaces = stage.surfaces ∧
      (stage.beginUpdates id).Shows id target := by
  have recorded : (stage.record [.begun id]).Shows id target := shows.of_outputs rfl
  rw [beginUpdates]
  exact act_shows recorded () _ (fun _ => rfl) (fun _ => rfl)

theorem endUpdates_shows {stage : Stage Framebuffer} {id : OutputId} {target : SurfaceId}
    (shows : stage.Shows id target) :
    (stage.endUpdates id).surfaces = stage.surfaces ∧ (stage.endUpdates id).Shows id target := by
  have recorded : (stage.record [.ended id]).Shows id target := shows.of_outputs rfl
  rw [endUpdates]
  refine act_shows recorded () _ (fun _ => rfl) ?_
  intro rig
  change rig.device.endBatch.surface = rig.device.surface
  rw [Framebuffer.endBatch]
  split <;> rfl

theorem requestRenderer_shows {stage : Stage Framebuffer} {id : OutputId} {target : SurfaceId}
    (shows : stage.Shows id target) (area : Rect) :
    (stage.requestRenderer id area).1.surfaces = stage.surfaces ∧
      (stage.requestRenderer id area).1.Shows id target := by
  have recorded : (stage.record [.requested id area]).Shows id target := shows.of_outputs rfl
  rw [requestRenderer]
  exact act_shows recorded none _ (fun _ => rfl) (fun _ => rfl)

theorem requestRenderer_renderer {stage : Stage Framebuffer} {id : OutputId} {target : SurfaceId}
    (shows : stage.Shows id target) {canvas : Surface}
    (found : stage.surfaces.get? target = some canvas) (area : Rect) :
    (stage.requestRenderer id area).2 =
      if (area.overlap canvas.bounds).isEmpty then none
      else some (.within (.surface target) (area.overlap canvas.bounds) .origin) := by
  rcases shows with ⟨device, there, rfl⟩
  have bounds : device.bounds (stage.record [.requested id area]).surfaces = canvas.bounds := by
    change (stage.surfaces.get? device.surface).elim _ _ = _
    rw [found]
    rfl
  have recorded : (stage.record [.requested id area]).outputs.get? id = some device := there
  rw [requestRenderer, act_answer recorded]
  simp only [Output.renderer]
  rw [Framebuffer.renderer?, bounds]

end Stage

/-- A program painted on the whole of a framebuffer in one pass, in the coordinates of a desktop of
which the framebuffer shows the part from `corner` on. -/
def Framebuffer.paintWhole (f : Framebuffer) (stage : Stage Framebuffer) (corner : Point)
    (studio : Studio) (program : List Step) : Stage Framebuffer :=
  let whole := f.bounds stage.surfaces
  let drawn := Renderer.paint (.surface f.surface) whole whole (-corner) studio program
  stage.perform drawn.complete

theorem Damage.coalesce_empty : ({} : Damage).coalesce.rects = [] := Rect.separate_nil

namespace Viewport

theorem visit_frame (v : Viewport) (studio : Studio) (program : List Step) (backend : Backend)
    (clip area : Rect) :
    ∃ regions log, (v.visit (fun _ _ => program) studio (.within backend clip .origin) area).1 =
      { Renderer.paint backend clip area (-v.bounds.corner) studio program with regions, log } := by
  unfold visit Renderer.paint
  dsimp only
  cases (Renderer.within backend clip .origin).enter? area (-v.bounds.corner) with
  | none => exact ⟨_, _, rfl⟩
  | some entered =>
      dsimp only
      rcases Renderer.unwind_frame (Renderer.report (Step.runAll studio entered program).1 _)
        entered.depth with ⟨regions, log, same⟩
      rw [same]
      exact ⟨_, _, rfl⟩

def ink (v : Viewport) (studio : Studio) (surfaces : Surfaces) (canvas : Surface)
    (program : List Step) (p : Point) (old : Pixel) : Pixel :=
  Step.inkAll studio surfaces canvas p
    ⟨saturatingAdd 0 (-v.bounds.corner).x, saturatingAdd 0 (-v.bounds.corner).y⟩ program old

theorem visit_inks (v : Viewport) {studio : Studio} {program : List Step} {target : SurfaceId}
    {surfaces : Surfaces} {canvas : Surface} (apart : studio.Spares target)
    (paint : Step.arePaint program = true) (clip area : Rect) :
    Inks target surfaces canvas
      (fun p old =>
        if p ∈ area ∧ p ∈ clip then v.ink studio surfaces canvas program p old else old)
      (v.visit (fun _ _ => program) studio (.within (.surface target) clip .origin) area).1 := by
  rcases v.visit_frame studio program (.surface target) clip area with ⟨regions, log, same⟩
  rw [same]
  exact (paint_inks apart paint clip area (-v.bounds.corner)).of_frame regions log

theorem mem_deviceArea (v : Viewport) (x : v.bounds.x ≠ Int32.minValue)
    (y : v.bounds.y ≠ Int32.minValue) (output r : Rect) (p : Point) :
    (∃ area, v.deviceArea? output r = some area ∧ p ∈ area) ↔
      p ∈ output ∧ p + v.bounds.corner ∈ v.bounds ∧ p + v.bounds.corner ∈ r := by
  rw [deviceArea?]
  dsimp only
  cases shown : (r.overlap v.bounds).isEmpty with
  | true =>
      have missed := Rect.overlap_isEmpty_iff_forall.mp shown (p + v.bounds.corner)
      simp only [if_true, reduceCtorEq, false_and, exists_false, false_iff]
      exact fun inside => missed inside.2.2 inside.2.1
  | false =>
      -- What shows in the viewport is clipped once more, on the device.
      have moved := Rect.mem_shift_neg_corner x y shown (p := p)
      rw [Rect.mem_overlap] at moved
      cases device : (((r.overlap v.bounds).shift (-v.bounds.corner)).overlap output).isEmpty with
      | true =>
          have missed := Rect.overlap_isEmpty_iff_forall.mp device p
          simp only [Bool.false_eq_true, if_false, if_true, reduceCtorEq, false_and,
            exists_false, false_iff]
          exact fun inside => missed (moved.mpr ⟨inside.2.2, inside.2.1⟩) inside.1
      | false =>
          simp only [Bool.false_eq_true, if_false, Option.some.injEq, exists_eq_left',
            Rect.mem_overlap, moved]
          constructor
          · exact fun inside => ⟨inside.2, inside.1.2, inside.1.1⟩
          · exact fun inside => ⟨⟨inside.2.2, inside.2.1⟩, inside.1⟩

section Shown

variable {v : Viewport} (x : v.bounds.x ≠ Int32.minValue) (y : v.bounds.y ≠ Int32.minValue)
  {output r : Rect} {p : Point} (inside : p ∈ output)

include x y inside

theorem not_shown_of_none (hidden : v.deviceArea? output r = none) :
    ¬ (p + v.bounds.corner ∈ v.bounds ∧ p + v.bounds.corner ∈ r) := by
  intro shown
  rcases (v.mem_deviceArea x y output r p).mpr ⟨inside, shown⟩ with ⟨area, there, _⟩
  rw [hidden] at there
  cases there

theorem mem_area_of_some {area : Rect} (device : v.deviceArea? output r = some area) :
    p ∈ area ↔ p + v.bounds.corner ∈ v.bounds ∧ p + v.bounds.corner ∈ r := by
  have points := v.mem_deviceArea x y output r p
  simp only [device, Option.some.injEq, exists_eq_left', inside, true_and] at points
  exact points

end Shown

section Repaint

variable {v : Viewport} {studio : Studio} {program : List Step} {target : SurfaceId}
  {surfaces : Surfaces} {canvas : Surface} {stage : Stage Framebuffer} {output : Rect}

variable (x : v.bounds.x ≠ Int32.minValue) (y : v.bounds.y ≠ Int32.minValue)
  (apart : studio.Spares target) (paint : Step.arePaint program = true)
  (covers : ∀ p ∈ canvas.bounds, p ∈ output)

include x y apart paint covers

theorem repaint_inked (shows : stage.Shows v.output target) {old : Surface}
    (found : stage.surfaces.get? target = some old) (alike : old.Alike canvas)
    (others : ∀ id, id ≠ target → stage.surfaces.get? id = surfaces.get? id) (report : Report)
    (r : Rect) :
    (v.repaint (fun _ _ => program) studio output (stage, report) r).1.Shows v.output target ∧
      Inked target canvas
        (fun p old =>
          if p + v.bounds.corner ∈ v.bounds ∧ p + v.bounds.corner ∈ r then
            v.ink studio surfaces canvas program p old
          else old)
        stage.surfaces
        (v.repaint (fun _ _ => program) studio output (stage, report) r).1.surfaces := by
  cases device : v.deviceArea? output r with
  | none =>
      rw [repaint_of_hidden device]
      refine ⟨shows, (Inked.refl found alike).congr ?_⟩
      intro p inside pixel
      rw [if_neg (not_shown_of_none x y (covers p inside) device)]
  | some area =>
      have member : ∀ p ∈ canvas.bounds,
          (p ∈ area ↔ p + v.bounds.corner ∈ v.bounds ∧ p + v.bounds.corner ∈ r) :=
        fun p inside => mem_area_of_some x y (covers p inside) device
      rcases request : stage.requestRenderer v.output area with ⟨next, renderer⟩
      have asked := Stage.requestRenderer_shows shows area
      have given := Stage.requestRenderer_renderer shows found area
      simp only [request, alike.bounds] at asked given
      rw [← asked.1]
      have there : next.surfaces.get? target = some old := by rw [asked.1, found]
      -- An area without a pixel of the framebuffer is refused.
      by_cases hidden : (area.overlap canvas.bounds).isEmpty
      · rw [if_pos hidden] at given
        rw [given] at request
        rw [repaint_of_refusal device request]
        refine ⟨asked.2.of_outputs rfl, (Inked.refl there alike).congr ?_⟩
        intro p inside pixel
        have missed := Rect.overlap_isEmpty_iff_forall.mp hidden p
        rw [if_neg fun shown => missed ((member p inside).mpr shown) inside]
      · rw [if_neg hidden] at given
        rw [given] at request
        rw [repaint_of_renderer device request]
        have inks : Inks target surfaces canvas _ _ :=
          v.visit_inks apart paint (area.overlap canvas.bounds) area
        generalize v.visit _ studio _ area = visited at inks ⊢
        rcases visited with ⟨drawn, visits⟩
        have elsewhere : ∀ id, id ≠ target → next.surfaces.get? id = surfaces.get? id := by
          rw [asked.1]
          exact others
        have outputs : ((next.record visits).perform drawn.complete).outputs = next.outputs := by
          rw [Stage.perform_eq]
          rfl
        have performed := inks.perform (next.record visits) there alike elsewhere
        refine ⟨asked.2.of_outputs outputs, performed.congr ?_⟩
        intro p inside pixel
        simp only [Rect.mem_overlap, inside, and_true, and_self, member p inside]

/-- Rectangles that are apart share no point, so each point is painted in one pass at most. -/
theorem repaints_inked {rects : List Rect} (disjoint : rects.Pairwise Rect.Apart)
    (shows : stage.Shows v.output target) {ink : Point → Pixel → Pixel}
    (start : Inked target canvas ink surfaces stage.surfaces) (report : Report) :
    (rects.foldl (v.repaint (fun _ _ => program) studio output) (stage, report)).1.Shows v.output
        target ∧
      Inked target canvas
        (fun p old =>
          if p + v.bounds.corner ∈ v.bounds ∧ ∃ r ∈ rects, p + v.bounds.corner ∈ r then
            v.ink studio surfaces canvas program p (ink p old)
          else ink p old)
        surfaces
        (rects.foldl (v.repaint (fun _ _ => program) studio output)
          (stage, report)).1.surfaces := by
  induction rects generalizing stage ink report with
  | nil => exact ⟨shows, start.congr (by simp)⟩
  | cons r rest ih =>
      rcases List.pairwise_cons.mp disjoint with ⟨alone, disjoint⟩
      rcases start.target with ⟨_, now, _, there, _, alike, _⟩
      have first := repaint_inked x y apart paint covers shows there alike start.others report r
      rw [List.foldl_cons]
      rcases painted : v.repaint (fun _ _ => program) studio output (stage, report) r with
        ⟨next, done⟩
      rw [painted] at first
      have later := ih disjoint first.1 (start.trans first.2) done
      refine ⟨later.1, later.2.congr ?_⟩
      intro p _ old
      by_cases inside : p + v.bounds.corner ∈ r
      · have passed : ¬ ∃ other ∈ rest, p + v.bounds.corner ∈ other := by
          intro twice
          rcases twice with ⟨other, member, again⟩
          exact Rect.not_mem_of_apart (alone other member) inside again
        simp [inside, passed]
      · simp [inside]

end Repaint

theorem outputArea_eq {v : Viewport} {stage : Stage Framebuffer} {f : Framebuffer}
    {canvas : Surface} (shows : stage.outputs.get? v.output = some f)
    (found : stage.surfaces.get? f.surface = some canvas) {p : Point} (inside : p ∈ canvas.bounds) :
    v.outputArea stage = canvas.bounds := by
  have size : stage.sizeOf v.output = canvas.size := by
    rw [Stage.sizeOf, shows]
    change (f.bounds stage.surfaces).size = _
    rw [Framebuffer.bounds, found]
    rfl
  have usable : canvas.size.isUsable = true := by
    rcases Surface.mem_bounds.mp inside with ⟨left, right, top, bottom⟩
    have wide : (0 : Int32) < canvas.width :=
      Int32.lt_iff_toInt_lt.mpr (Int.lt_of_le_of_lt left right)
    have high : (0 : Int32) < canvas.height :=
      Int32.lt_iff_toInt_lt.mpr (Int.lt_of_le_of_lt top bottom)
    rw [Size.isUsable, Surface.size, decide_eq_true wide, decide_eq_true high]
    rfl
  unfold outputArea
  dsimp only
  rw [size, usable]
  rfl

theorem paintWhole_inked (v : Viewport) {studio : Studio} {program : List Step} {f : Framebuffer}
    {stage : Stage Framebuffer} {canvas : Surface} (apart : studio.Spares f.surface)
    (paint : Step.arePaint program = true)
    (found : stage.surfaces.get? f.surface = some canvas) :
    Inked f.surface canvas (v.ink studio stage.surfaces canvas program) stage.surfaces
      (f.paintWhole stage v.bounds.corner studio program).surfaces := by
  have bounds : f.bounds stage.surfaces = canvas.bounds := by
    rw [Framebuffer.bounds, found]
    rfl
  have inks : Inks f.surface stage.surfaces canvas _ _ :=
    paint_inks apart paint canvas.bounds canvas.bounds (-v.bounds.corner)
  rw [Framebuffer.paintWhole, bounds]
  apply (inks.perform stage found (.refl canvas) (fun _ _ => rfl)).congr
  intro p inside old
  rw [if_pos ⟨inside, inside⟩]
  rfl

theorem repaintAll_inked {v : Viewport} (x : v.bounds.x ≠ Int32.minValue)
    (y : v.bounds.y ≠ Int32.minValue) {studio : Studio} {program : List Step}
    {target : SurfaceId} {stage : Stage Framebuffer} {canvas : Surface}
    (apart : studio.Spares target) (paint : Step.arePaint program = true)
    (shows : stage.Shows v.output target) (found : stage.surfaces.get? target = some canvas) :
    Inked target canvas
      (fun p old =>
        if p + v.bounds.corner ∈ v.bounds ∧
            ∃ r ∈ v.damage.coalesce.rects, p + v.bounds.corner ∈ r then
          v.ink studio stage.surfaces canvas program p old
        else old)
      stage.surfaces (v.repaintAll (fun _ _ => program) studio stage).1.surfaces := by
  have covers : ∀ p ∈ canvas.bounds, p ∈ v.outputArea stage := by
    intro p inside
    rcases shows with ⟨f, there, rfl⟩
    rwa [outputArea_eq there found inside]
  have begun := Stage.beginUpdates_shows shows
  have start : Inked target canvas (fun _ old => old) stage.surfaces
      (stage.beginUpdates v.output).surfaces := by
    rw [begun.1]
    exact .refl found (.refl canvas)
  have disjoint : v.damage.coalesce.rects.Pairwise Rect.Apart :=
    Rect.separate_pairwise v.damage.rects
  have painted := repaints_inked x y apart paint covers disjoint begun.2 start
    { rects := v.damage.coalesce.rects.length }
  have ended := Stage.endUpdates_shows painted.1
  rw [repaintAll]
  cases damaged : v.damage.isEmpty with
  | false =>
      simp only [Bool.false_eq_true, if_false, ended.1]
      exact painted.2
  | true =>
      apply (Inked.refl found (.refl canvas)).congr
      rw [Damage.eq_empty damaged, Damage.coalesce_empty]
      simp

/-- After an update every damaged pixel of the framebuffer is what one pass over all of it would
have made of it, and every other pixel is what it was. -/
theorem update_agrees_with_whole (v : Viewport) (x : v.bounds.x ≠ Int32.minValue)
    (y : v.bounds.y ≠ Int32.minValue) (program : List Step)
    (paint : Step.arePaint program = true) (studio : Studio) (timers : Timers)
    (stage : Stage Framebuffer) (f : Framebuffer) (canvas : Surface)
    (shows : stage.outputs.get? v.output = some f)
    (found : stage.surfaces.get? f.surface = some canvas)
    (apart : ∀ id buffer, studio.buffers.get? id = some buffer → buffer.surface ≠ f.surface) :
    ∃ idle rest after report repainted whole,
      v.update (fun _ _ => program) studio timers stage = .ok (idle, rest, after, report) ∧
        after.surfaces.get? f.surface = some repainted ∧
        (f.paintWhole stage v.bounds.corner studio program).surfaces.get? f.surface = some whole ∧
        repainted.format = canvas.format ∧ repainted.size = canvas.size ∧
        ∀ p, repainted.pixel? p =
          if p + v.bounds.corner ∈ v.bounds ∧
              ∃ r ∈ v.damage.coalesce.rects, p + v.bounds.corner ∈ r then
            whole.pixel? p
          else canvas.pixel? p := by
  have whole_inked := paintWhole_inked v apart paint found
  have damage_inked := repaintAll_inked x y apart paint ⟨f, shows, rfl⟩ found
  rcases whole_inked.target with ⟨_, whole, there, done, _, _, made⟩
  rw [found] at there
  cases there
  rcases damage_inked.target with ⟨_, repainted, there, after, _, alike, painted⟩
  rw [found] at there
  cases there
  refine ⟨_, _, _, _, repainted, whole, update_eq v _ studio timers stage, after, done,
    alike.format, by rw [Surface.size, Surface.size, alike.width, alike.height], ?_⟩
  intro p
  rw [painted, made]
  split
  · rfl
  · rw [Option.map_id']

section Small

def smallStage : Stage Framebuffer where
  surfaces := ⟨[some (.blank .argb32 2 2)]⟩
  outputs := ⟨[some { surface := ⟨0⟩, resolutions := [] }]⟩

def smallViewport : Viewport :=
  { id := ⟨0⟩, bounds := ⟨1, 0, 2, 2⟩, output := ⟨0⟩, delay := 0, damage := ⟨[⟨0, 0, 2, 2⟩]⟩ }

def smallProgram : List Step :=
  [.within ⟨1, 0, 2, 1⟩ ⟨1, 0⟩ [.fill (.opaqueRgb 1 0 0) ⟨0, 0, 2, 2⟩], .render ⟨0⟩ ⟨0, 0⟩]

theorem update_agrees_on_small_stage :
    ∃ idle rest after report repainted whole,
      smallViewport.update (fun _ _ => smallProgram) {} {} smallStage =
        .ok (idle, rest, after, report) ∧
      after.surfaces.get? ⟨0⟩ = some repainted ∧
      (Framebuffer.paintWhole { surface := ⟨0⟩, resolutions := [] } smallStage ⟨1, 0⟩ {}
        smallProgram).surfaces.get? ⟨0⟩ = some whole ∧
      repainted.pixel? ⟨0, 1⟩ = whole.pixel? ⟨0, 1⟩ ∧ repainted.pixel? ⟨1, 0⟩ = some 0 := by
  rcases update_agrees_with_whole smallViewport (by decide) (by decide) smallProgram rfl {} {}
      smallStage { surface := ⟨0⟩, resolutions := [] } (.blank .argb32 2 2) rfl rfl
      (by simp [Registry.get?]) with
    ⟨idle, rest, after, report, repainted, whole, updated, found, painted, _, _, pixels⟩
  have rects : smallViewport.damage.coalesce.rects = [⟨0, 0, 2, 2⟩] := by
    simp [smallViewport, Damage.coalesce, Rect.separate, Rect.sweep, Rect.absorb, Rect.takeMeeting]
  refine ⟨idle, rest, after, report, repainted, whole, updated, found, painted, ?_, ?_⟩
  · rw [pixels, rects, if_pos (by decide)]
  · rw [pixels, rects, if_neg (by decide)]
    decide

end Small

end Viewport

end Compositing
