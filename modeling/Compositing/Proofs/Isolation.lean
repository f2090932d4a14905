import Compositing.Output.Framebuffer
import Compositing.Proofs.Protocol
import Compositing.Proofs.Tables

/-! Outputs that keep to themselves. What such an output does depends on itself, on the surfaces that
it owns and on those that are read for it, and nothing but the output and its own surfaces changes.
So does all that is painted on it. -/

namespace Compositing

def Surfaces.Agree (seen : SurfaceId → Prop) (a b : Surfaces) : Prop :=
  ∀ id, seen id → a.get? id = b.get? id

namespace Surfaces.Agree

variable {seen : SurfaceId → Prop} {a b : Surfaces}

theorem modify (agree : Agree seen a b) (target : SurfaceId) (change : Surface → Surface) :
    Agree seen (a.modify target change) (b.modify target change) := by
  intro id shown
  by_cases same : id = target
  · subst same
    simp [agree id shown]
  · simp [same, agree id shown]

theorem play (agree : Agree seen a b) (backend : Backend) {call : Call}
    (reads : ∀ source ∈ call.source?, seen source) :
    Agree seen (backend.play a call) (backend.play b call) := by
  cases backend with
  | device number => exact agree
  | surface target =>
      cases call with
      | complete => exact agree
      | fill color area => exact agree.modify target _
      | compose operator source place visible =>
          simp only [Backend.play, Brush.compose, ← agree source (reads source rfl)]
          cases a.get? source with
          | none => exact agree
          | some image => exact agree.modify target _

theorem playAll (agree : Agree seen a b) (backend : Backend) {calls : List Call}
    (reads : ∀ call ∈ calls, ∀ source ∈ call.source?, seen source) :
    Agree seen (calls.foldl backend.play a) (calls.foldl backend.play b) := by
  induction calls generalizing a b with
  | nil => exact agree
  | cons call rest ih =>
      rcases List.forall_mem_cons.mp reads with ⟨here, later⟩
      exact ih (agree.play backend here) later

end Surfaces.Agree

theorem Backend.playAll_other (backend : Backend) {id : SurfaceId} (other : backend ≠ .surface id)
    (calls : List Call) (surfaces : Surfaces) :
    (calls.foldl backend.play surfaces).get? id = surfaces.get? id := by
  induction calls generalizing surfaces with
  | nil => rfl
  | cons call rest ih =>
      rw [List.foldl_cons, ih]
      cases backend with
      | device number => rfl
      | surface target =>
          have apart : id ≠ target := fun same => other (by rw [same])
          cases call with
          | complete => rfl
          | fill color area => simp [Backend.play, Brush.fill, apart]
          | compose operator source place visible =>
              simp only [Backend.play, Brush.compose]
              cases surfaces.get? source with
              | none => rfl
              | some image => simp [apart]

def Studio.Holds (studio : Studio) (surface : SurfaceId) : Prop :=
  ∃ id buffer, studio.buffers.get? id = some buffer ∧ buffer.surface = surface

namespace Renderer

def Reads (sources : SurfaceId → Prop) (r : Renderer) : Prop :=
  ∀ call ∈ r.calls, ∀ source ∈ call.source?, sources source

variable {sources : SurfaceId → Prop} {r : Renderer}

theorem Reads.of_calls (reads : r.Reads sources) {after : Renderer} (same : after.calls = r.calls) :
    after.Reads sources := by
  rw [Reads, same]
  exact reads

theorem Reads.dispatch (reads : r.Reads sources) (area : Rect) (count : Tally) {call : Rect → Call}
    (draws : ∀ visible, ∀ source ∈ (call visible).source?, sources source) :
    (r.dispatch area count call).Reads sources := by
  have calls := r.dispatch_calls area count call
  split at calls
  · intro other member
    rw [calls] at member
    rcases List.mem_append.mp member with before | now
    · exact reads other before
    · rw [List.mem_singleton.mp now]
      exact draws _
  · exact reads.of_calls calls

theorem Reads.complete (reads : r.Reads sources) : r.complete.Reads sources := by
  rw [Renderer.complete]
  cases r.phase with
  | completed => exact reads
  | active =>
      intro call member
      rcases List.mem_append.mp member with before | now
      · exact reads call before
      · rw [List.mem_singleton.mp now]
        intro source listed
        cases listed

theorem Reads.enter (reads : r.Reads sources) {area : Rect} {offset : Point} {entered : Renderer}
    (entering : r.enter? area offset = some entered) : entered.Reads sources := by
  rcases enter?_frame entering with ⟨inner, same⟩
  exact reads.of_calls (by rw [same])

theorem Reads.leave (reads : r.Reads sources) : r.leaveOrReport.1.Reads sources := by
  rcases r.leaveOrReport_frame with ⟨regions, log, same⟩
  exact reads.of_calls (by rw [same])

end Renderer

namespace Step

mutual

theorem run_reads {studio : Studio} {r : Renderer} (reads : r.Reads studio.Holds) (step : Step) :
    (run studio r step).1.Reads studio.Holds := by
  have drawn (operator : Operator) (buffer : BufferId) (corner : Point) :
      (draw studio r operator buffer corner).1.Reads studio.Holds := by
    rw [draw]
    cases found : studio.buffers.get? buffer with
    | none => exact reads
    | some there =>
        apply reads.dispatch
        intro visible source listed
        cases listed
        exact ⟨buffer, there, found, rfl⟩
  cases step with
  | enter area offset =>
      simp only [run]
      cases entering : r.enter? area offset with
      | none => exact reads
      | some entered => exact reads.enter entering
  | leave => exact reads.leave
  | render buffer corner => exact drawn .sourceOver buffer corner
  | copy buffer corner => exact drawn .sourceOnly buffer corner
  | fill color area => exact reads.dispatch _ _ (fun _ _ listed => by cases listed)
  | setOption key value =>
      cases value <;> exact reads
  | option key => exact reads
  | complete => exact reads.complete
  | inspect => exact reads
  | describe => exact reads
  | within area offset body =>
      simp only [run]
      cases entering : r.enter? area offset with
      | none => exact reads
      | some entered => exact (runAll_reads (reads.enter entering) body).leave

theorem runAll_reads {studio : Studio} {r : Renderer} (reads : r.Reads studio.Holds)
    (steps : List Step) : (runAll studio r steps).1.Reads studio.Holds := by
  cases steps with
  | nil => exact reads
  | cons step rest => exact runAll_reads (run_reads reads step) rest

end

end Step

theorem Viewport.visit_reads (v : Viewport) (tree : Tree) {studio : Studio} {given : Renderer}
    (reads : given.Reads studio.Holds) (area : Rect) :
    (v.visit tree studio given area).1.Reads studio.Holds := by
  rw [visit]
  cases entering : given.enter? area (-v.bounds.corner) with
  | none => exact reads
  | some entered =>
      dsimp only
      have drawn := Step.runAll_reads (reads.enter entering) (tree entered studio)
      rcases Renderer.unwind_frame (Renderer.report (Step.runAll studio entered _).1 _)
        entered.depth with ⟨regions, log, unwound⟩
      rw [unwound]
      exact drawn

class Output.Owner (δ : Type) where
  owns : δ → SurfaceId → Prop

open Output.Owner (owns)

section Rig

variable {δ α : Type} [Output.Owner δ]

structure Rig.Alike (a b : Rig δ) : Prop where
  device : a.device = b.device
  surfaces : Surfaces.Agree (owns a.device) a.surfaces b.surfaces

/-- An action that depends on nothing and changes nothing but the output and its own surfaces. -/
structure Rig.Isolated (f : Rig δ → Rig δ × α) : Prop where
  answer : ∀ {a b}, a.Alike b → (f a).2 = (f b).2
  alike : ∀ {a b}, a.Alike b → (f a).1.Alike (f b).1
  owner : ∀ rig, owns (f rig).1.device = owns rig.device
  others : ∀ rig id, ¬ owns rig.device id → (f rig).1.surfaces.get? id = rig.surfaces.get? id

end Rig

/-- An output that keeps to itself in all that a redraw asks of it. A renderer that it hands out has
nothing to play yet and draws on a surface only if that is the output's own. -/
class Output.Isolated (δ : Type) [Output δ] extends Output.Owner δ where
  size : Rig.Isolated fun rig : Rig δ => (rig, Output.size rig)
  beginUpdates : Rig.Isolated fun rig : Rig δ => (Output.beginUpdates rig, ())
  endUpdates : Rig.Isolated fun rig : Rig δ => (Output.endUpdates rig, ())
  renderer : ∀ area, Rig.Isolated fun rig : Rig δ => Output.renderer rig area
  granted : ∀ (rig : Rig δ) area {given : Renderer}, (Output.renderer rig area).2 = some given →
    given.calls = [] ∧ ∀ target, given.backend = .surface target → owns rig.device target

namespace Framebuffer

instance : Output.Owner Framebuffer := ⟨fun f id => id = f.surface⟩

theorem owns_iff (f : Framebuffer) (id : SurfaceId) : owns f id ↔ id = f.surface := Iff.rfl

theorem bounds_alike {a b : Rig Framebuffer} (alike : a.Alike b) :
    a.device.bounds a.surfaces = b.device.bounds b.surfaces := by
  rw [bounds, alike.surfaces a.device.surface rfl, alike.device, bounds]

theorem isolated {α : Type} {f : Rig Framebuffer → Rig Framebuffer × α}
    (answer : ∀ {a b}, a.Alike b → (f a).2 = (f b).2)
    (device : ∀ {a b}, a.device = b.device → (f a).1.device = (f b).1.device)
    (surface : ∀ rig, (f rig).1.device.surface = rig.device.surface)
    (surfaces : ∀ rig, (f rig).1.surfaces = rig.surfaces) : Rig.Isolated f := by
  have owner : ∀ rig, owns (f rig).1.device = owns rig.device := by
    intro rig
    funext id
    exact propext (by rw [owns_iff, owns_iff, surface])
  refine ⟨answer, ?_, owner, ?_⟩
  · intro a b alike
    refine ⟨device alike.device, ?_⟩
    rw [owner, surfaces, surfaces]
    exact alike.surfaces
  · intro rig id _
    rw [surfaces]

instance : Output.Isolated Framebuffer where
  size := isolated (fun alike => congrArg Rect.size (bounds_alike alike)) (fun same => same)
    (fun _ => rfl) (fun _ => rfl)
  beginUpdates := isolated (fun _ => rfl) (fun same => by simp only [Output.beginUpdates, same])
    (fun _ => rfl) (fun _ => rfl)
  endUpdates := by
    refine isolated (fun _ => rfl) (fun same => by simp only [Output.endUpdates, same]) ?_
      (fun _ => rfl)
    intro rig
    change rig.device.endBatch.surface = rig.device.surface
    rw [endBatch]
    split <;> rfl
  renderer area := by
    refine isolated ?_ (fun same => same) (fun _ => rfl) (fun _ => rfl)
    intro a b alike
    simp only [Output.renderer, renderer?]
    rw [bounds_alike alike, alike.device]
  granted rig area given handed := by
    simp only [Output.renderer, renderer?] at handed
    split at handed
    · cases handed
    · cases handed
      refine ⟨rfl, ?_⟩
      intro target draws
      cases draws
      rfl

end Framebuffer

namespace Stage

variable {δ α β : Type} [Output.Owner δ]

section Local

variable (id : OutputId) (own read : SurfaceId → Prop)

/-- Two stages that are the same for an output: they have it and the surfaces that it owns and those
that are read for it in common. -/
structure Alike (a b : Stage δ) : Prop where
  output : a.outputs.get? id = b.outputs.get? id
  owner : ∀ device, a.outputs.get? id = some device → owns device = own
  surfaces : Surfaces.Agree (fun surface => own surface ∨ read surface) a.surfaces b.surfaces

structure Spared (a after : Stage δ) : Prop where
  outputs : ∀ other, other ≠ id → after.outputs.get? other = a.outputs.get? other
  surfaces : Surfaces.Agree (fun surface => ¬ own surface) after.surfaces a.surfaces

/-- What depends on nothing but the output and the surfaces that it owns and reads, and changes
nothing but the output and the surfaces that it owns. -/
structure Local (f : Stage δ → Stage δ × α) : Prop where
  answer : ∀ {a b}, Alike id own read a b → (f a).2 = (f b).2
  alike : ∀ {a b}, Alike id own read a b → Alike id own read (f a).1 (f b).1
  spared : ∀ {a}, Alike id own read a a → Spared id own a (f a).1

end Local

variable {id : OutputId} {own read : SurfaceId → Prop} {a b after last : Stage δ}

theorem Alike.self (alike : Alike id own read a b) : Alike id own read a a :=
  ⟨rfl, alike.owner, fun _ _ => rfl⟩

theorem Alike.rig (alike : Alike id own read a b) {device : δ}
    (found : a.outputs.get? id = some device) :
    (⟨a.surfaces, device, []⟩ : Rig δ).Alike ⟨b.surfaces, device, []⟩ := by
  refine ⟨rfl, ?_⟩
  intro surface owned
  rw [alike.owner device found] at owned
  exact alike.surfaces surface (.inl owned)

omit [Output.Owner δ] in
@[simp] theorem act_of_absent (f : Rig δ → Rig δ × α) {otherwise : α}
    (absent : a.outputs.get? id = none) : a.act id otherwise f = (a, otherwise) := by
  rw [act, absent]

omit [Output.Owner δ] in
@[simp] theorem act_of_found (f : Rig δ → Rig δ × α) {otherwise : α} {device : δ}
    (found : a.outputs.get? id = some device) :
    a.act id otherwise f =
      (({ a with
          surfaces := (f ⟨a.surfaces, device, []⟩).1.surfaces
          outputs := a.outputs.set id (f ⟨a.surfaces, device, []⟩).1.device } : Stage δ).report
        (f ⟨a.surfaces, device, []⟩).1.log, (f ⟨a.surfaces, device, []⟩).2) := by
  rw [act, found]

omit [Output.Owner δ] in
theorem Spared.refl (a : Stage δ) : Spared id own a a := ⟨fun _ _ => rfl, fun _ _ => rfl⟩

omit [Output.Owner δ] in
theorem Spared.trans (first : Spared id own a after) (second : Spared id own after last) :
    Spared id own a last where
  outputs other apart := (second.outputs other apart).trans (first.outputs other apart)
  surfaces surface strange := (second.surfaces surface strange).trans (first.surfaces surface strange)

namespace Local

theorem pure (result : Stage δ → α)
    (answer : ∀ {a b : Stage δ}, Alike id own read a b → result a = result b) :
    Local id own read fun s : Stage δ => (s, result s) :=
  ⟨answer, fun alike => alike, fun _ => .refl _⟩

theorem bind_of {P : α → Prop} {f : Stage δ → Stage δ × α} {g : α → Stage δ → Stage δ × β}
    (first : Local id own read f) (gives : ∀ {a b}, Alike id own read a b → P (f a).2)
    (second : ∀ x, P x → Local id own read (g x)) :
    Local id own read fun s => g (f s).2 (f s).1 where
  answer alike := by
    rw [← first.answer alike]
    exact (second _ (gives alike)).answer (first.alike alike)
  alike alike := by
    rw [← first.answer alike]
    exact (second _ (gives alike)).alike (first.alike alike)
  spared alike :=
    (first.spared alike).trans ((second _ (gives alike)).spared (first.alike alike))

theorem bind {f : Stage δ → Stage δ × α} {g : α → Stage δ → Stage δ × β}
    (first : Local id own read f) (second : ∀ x, Local id own read (g x)) :
    Local id own read fun s => g (f s).2 (f s).1 :=
  bind_of (P := fun _ => True) first (fun _ => trivial) fun x _ => second x

theorem map {f : Stage δ → Stage δ × α} (first : Local id own read f) (result : α → β) :
    Local id own read fun s => ((f s).1, result (f s).2) :=
  first.bind fun answer => .pure (fun _ => result answer) fun _ => rfl

theorem foldl {f : Stage δ × β → α → Stage δ × β}
    (each : ∀ x entry, Local id own read fun s => f (s, x) entry) (entries : List α) (x : β) :
    Local id own read fun s => entries.foldl f (s, x) := by
  induction entries generalizing x with
  | nil => exact .pure _ fun _ => rfl
  | cons entry rest ih => exact (each x entry).bind ih

theorem record (events : List Event) :
    Local id own read fun s : Stage δ => (s.record events, ()) :=
  ⟨fun _ => rfl, fun alike => ⟨alike.output, alike.owner, alike.surfaces⟩,
    fun _ => ⟨fun _ _ => rfl, fun _ _ => rfl⟩⟩

theorem act {f : Rig δ → Rig δ × α} (isolated : Rig.Isolated f) (otherwise : α) :
    Local id own read fun s : Stage δ => s.act id otherwise f where
  answer {a b} alike := by
    cases found : a.outputs.get? id with
    | none => simp [found, ← alike.output]
    | some device => simpa [found, ← alike.output] using isolated.answer (alike.rig found)
  alike {a b} alike := by
    cases found : a.outputs.get? id with
    | none => simpa [found, ← alike.output] using alike
    | some device =>
        have there : b.outputs.get? id = some device := alike.output ▸ found
        have same := isolated.alike (alike.rig found)
        have owner := (isolated.owner ⟨a.surfaces, device, []⟩).trans (alike.owner device found)
        rw [act_of_found f found, act_of_found f there]
        refine ⟨?_, ?_, ?_⟩
        · change (a.outputs.set id _).get? id = (b.outputs.set id _).get? id
          simp [found, there, same.device]
        · intro changed held
          change (a.outputs.set id _).get? id = some changed at held
          rw [Registry.get?_set_self found] at held
          rw [← Option.some.inj held, owner]
        · intro surface shown
          by_cases owned : own surface
          · exact same.surfaces surface (by rwa [owner])
          · have strange : ¬ owns device surface := by rwa [alike.owner device found]
            calc (f ⟨a.surfaces, device, []⟩).1.surfaces.get? surface
                = a.surfaces.get? surface := isolated.others _ _ strange
              _ = b.surfaces.get? surface := alike.surfaces surface shown
              _ = (f ⟨b.surfaces, device, []⟩).1.surfaces.get? surface :=
                (isolated.others ⟨b.surfaces, device, []⟩ _ strange).symm
  spared {a} alike := by
    cases found : a.outputs.get? id with
    | none => simpa [found] using .refl a
    | some device =>
        rw [act_of_found f found]
        refine ⟨fun other apart => a.outputs.get?_set_other apart _, ?_⟩
        intro surface strange
        exact isolated.others _ _ (by rwa [alike.owner device found])

theorem perform {r : Renderer} (reads : r.Reads read)
    (draws : ∀ target, r.backend = .surface target → own target) :
    Local id own read fun s : Stage δ => (s.perform r, ()) where
  answer _ := rfl
  alike same := by
    rw [Stage.perform_eq, Stage.perform_eq]
    refine ⟨same.output, same.owner, same.surfaces.playAll r.backend ?_⟩
    exact fun call member source listed => .inr (reads call member source listed)
  spared _ := by
    rw [Stage.perform_eq]
    refine ⟨fun _ _ => rfl, ?_⟩
    intro surface strange
    exact r.backend.playAll_other (fun same => strange (draws surface same)) r.calls _

end Local

end Stage

section Redraw

variable {δ : Type} [Output δ] [Output.Isolated δ] {id : OutputId} {own read : SurfaceId → Prop}
  {a b : Stage δ}

namespace Stage

theorem sizeOf_alike (alike : Alike id own read a b) : a.sizeOf id = b.sizeOf id := by
  rw [sizeOf, sizeOf, ← alike.output]
  cases found : a.outputs.get? id with
  | none => rfl
  | some device => exact Output.Isolated.size.answer (alike.rig found)

theorem beginUpdates_local : Local id own read fun s : Stage δ => (s.beginUpdates id, ()) :=
  (Local.record [.begun id]).bind fun _ => .act Output.Isolated.beginUpdates ()

theorem endUpdates_local : Local id own read fun s : Stage δ => (s.endUpdates id, ()) :=
  (Local.record [.ended id]).bind fun _ => .act Output.Isolated.endUpdates ()

theorem requestRenderer_local (area : Rect) :
    Local id own read fun s : Stage δ => s.requestRenderer id area :=
  (Local.record [.requested id area]).bind fun _ => .act (Output.Isolated.renderer area) none

def Fresh (own : SurfaceId → Prop) (r : Renderer) : Prop :=
  r.calls = [] ∧ ∀ target, r.backend = .surface target → own target

theorem requestRenderer_fresh (alike : Alike id own read a b) (area : Rect) :
    ∀ given ∈ (a.requestRenderer id area).2, Fresh own given := by
  intro given handed
  rw [Option.mem_def, requestRenderer] at handed
  cases found : a.outputs.get? id with
  | none =>
      rw [act_of_absent (a := a.record _) _ found] at handed
      cases handed
  | some device =>
      rw [act_of_found (a := a.record _) _ found] at handed
      rw [Fresh, ← alike.owner device found]
      exact Output.Isolated.granted _ area handed

end Stage

namespace Viewport

variable (v : Viewport) (tree : Tree) (studio : Studio)

open Stage (Local Alike Fresh)

theorem outputArea_alike (alike : Alike v.output own read a b) : v.outputArea a = v.outputArea b := by
  rw [outputArea, outputArea, Stage.sizeOf_alike alike]

def paintArea (area : Rect) (report : Report) (given : Option Renderer) (s : Stage δ) :
    Stage δ × Report :=
  match given with
  | none => (s.report [⟨.warn, .viewport, "driver returned no renderer",
      [("device", area.describe)]⟩], { report with dropped := report.dropped + 1 })
  | some given => ((s.record (v.visit tree studio given area).2).perform
      (v.visit tree studio given area).1.complete,
    { report with
      passes := report.passes + 1
      tally := report.tally + (v.visit tree studio given area).1.complete.tally })

omit [Output.Isolated δ] in
theorem repaint_of_shown {output r area : Rect} (shown : v.deviceArea? output r = some area)
    (report : Report) (s : Stage δ) :
    v.repaint tree studio output (s, report) r =
      v.paintArea tree studio area report (s.requestRenderer v.output area).2
        (s.requestRenderer v.output area).1 := by
  cases asked : s.requestRenderer v.output area with
  | mk next given =>
      cases given with
      | none => exact repaint_of_refusal shown asked
      | some given => exact repaint_of_renderer shown asked

theorem paintArea_local {given : Option Renderer} (fresh : ∀ r ∈ given, Fresh own r) (area : Rect)
    (report : Report) :
    Local v.output own studio.Holds fun s : Stage δ =>
      v.paintArea tree studio area report given s := by
  cases given with
  | none => exact (Local.record _).map fun _ => _
  | some given =>
      rcases fresh given rfl with ⟨nothing, owned⟩
      have silent : given.Reads studio.Holds := by
        rw [Renderer.Reads, nothing]
        exact fun call member => absurd member List.not_mem_nil
      have backend : (v.visit tree studio given area).1.complete.backend = given.backend :=
        ((v.visit tree studio given area).1.backend_obey .complete).trans
          (v.visit_backend tree studio given area)
      have performed : Local v.output own studio.Holds fun s : Stage δ =>
          (s.perform (v.visit tree studio given area).1.complete, ()) :=
        .perform (v.visit_reads tree silent area).complete fun target draws =>
          owned target (backend ▸ draws)
      exact ((Local.record _).bind fun _ => performed).map fun _ => _

theorem repaint_local (output : Rect) (report : Report) (r : Rect) :
    Local v.output own studio.Holds fun s : Stage δ =>
      v.repaint tree studio output (s, report) r := by
  cases shown : v.deviceArea? output r with
  | none =>
      simp only [repaint_of_hidden shown]
      exact .pure _ fun _ => rfl
  | some area =>
      simp only [v.repaint_of_shown tree studio shown]
      exact (Stage.requestRenderer_local area).bind_of
        (P := fun handed => ∀ given ∈ handed, Fresh own given)
        (fun alike => Stage.requestRenderer_fresh alike area)
        fun _ fresh => v.paintArea_local tree studio fresh area report

theorem repaintAll_local :
    Local v.output own studio.Holds fun s : Stage δ => v.repaintAll tree studio s := by
  unfold repaintAll
  cases v.damage.isEmpty with
  | true => exact .pure _ fun _ => rfl
  | false =>
      have area : Local v.output own studio.Holds fun s : Stage δ => (s, v.outputArea s) :=
        .pure _ (v.outputArea_alike ·)
      have painted : ∀ area, Local v.output own studio.Holds fun s : Stage δ =>
          v.damage.coalesce.rects.foldl (v.repaint tree studio area)
            (s.beginUpdates v.output, { rects := v.damage.coalesce.rects.length }) := fun area =>
        Stage.beginUpdates_local.bind fun _ =>
          .foldl (fun report r => v.repaint_local tree studio area report r) _ _
      exact (area.bind painted).bind fun report =>
        Stage.endUpdates_local.bind fun _ => .pure (fun _ => report) fun _ => rfl

end Viewport

end Redraw

end Compositing
