import Compositing.Output.Framebuffer
import Compositing.Proofs.Pointer
import Compositing.Proofs.ScreenCalls

/-! Calls that can be refused, on all objects at once. A call is refused exactly where it is
misused, and then every object is as it was before the call. -/

namespace Compositing

open InPlace

structure World (δ : Type) where
  screen : Screen
  stage : Stage δ
  brush : Brush
  painter : Painter
  renderer : Renderer
  timers : Timers

inductive Refusal
  | plain
  | fault (fault : Fault)
  | timer (fault : TimerFault)
  | screen (fault : ScreenFault)

/-- An output that stays as it is when it refuses a resolution, and at most reports that. -/
def Output.Steadfast (δ : Type) [Output δ] : Prop :=
  ∀ (rig after : Rig δ) (size : Size) (fault : ScreenFault),
    Output.setResolution rig size = (after, .error fault) →
      after.surfaces = rig.surfaces ∧ after.device = rig.device

theorem Framebuffer.steadfast : Output.Steadfast Framebuffer := by
  intro rig after size fault refused
  simp only [Output.setResolution] at refused
  split at refused
  · split at refused
    · cases refused
    · cases refused
      exact ⟨rfl, rfl⟩
  · cases refused
    exact ⟨rfl, rfl⟩

theorem Stage.report_nil {δ : Type} (s : Stage δ) : s.report [] = s :=
  congrArg (Stage.mk s.surfaces s.outputs) (List.append_nil s.events)

variable {δ : Type} [Output δ]

theorem Stage.setResolution_refused (steadfast : Output.Steadfast δ) {s after : Stage δ}
    {id : OutputId} {size : Size} {fault : ScreenFault}
    (refused : s.setResolution id size = (after, .error fault)) :
    ∃ entries, after = s.report entries := by
  rw [Stage.setResolution] at refused
  cases found : s.outputs.get? id with
  | none =>
      simp only [Stage.act, found] at refused
      cases refused
      exact ⟨[], (Stage.report_nil _).symm⟩
  | some device =>
      rcases switched : Output.setResolution ⟨s.surfaces, device, []⟩ size with ⟨rig, result⟩
      simp only [Stage.act, found, switched] at refused
      cases refused
      rcases steadfast _ _ _ _ switched with ⟨surfaces, same⟩
      refine ⟨rig.log, ?_⟩
      rw [surfaces, same, Registry.set_held found]

theorem Screen.setResolution_refused (steadfast : Output.Steadfast δ) {s : Screen}
    {stage after : Stage δ} {id : ViewportId} {size : Size} {fault : ScreenFault}
    (refused : s.setResolution stage id size = (after, .error fault)) :
    ∃ entries, after = stage.report entries := by
  rw [Screen.setResolution, Screen.find] at refused
  cases found : s.viewports.get? id with
  | none =>
      simp only [found] at refused
      cases refused
      exact ⟨[], (Stage.report_nil _).symm⟩
  | some v =>
      simp only [found, Viewport.setResolution] at refused
      rcases switched : stage.setResolution v.output size with ⟨next, result⟩
      rw [switched] at refused
      cases result with
      | ok _ => cases refused
      | error reason =>
          cases refused
          exact Stage.setResolution_refused steadfast switched

namespace World

inductive Call : Type → Type
  | restoreBrush : Call Unit
  | restorePainter : Call Unit
  | leave : Call Unit
  | resizeBuffer (id : BufferId) (size : Size) : Call Unit
  | beginResize (id : BufferId) (largest : Size) : Call Unit
  | endResize (id : BufferId) : Call Unit
  | openPainter (id : BufferId) : Call PainterId
  | closePainter (id : PainterId) : Call Unit
  /-- Closes all painters on a buffer and counts them. -/
  | closePainters (id : BufferId) : Call Nat
  | discard (id : BufferId) : Call Unit
  | stopTimer (id : TimerId) : Call Unit
  | detach (id : ViewportId) : Call Viewport
  | setSize (id : ViewportId) (size : Size) : Call Unit
  | moveTo (id : ViewportId) (corner : Point) : Call Unit
  | setResolution (id : ViewportId) (size : Size) : Call Unit
  | setPointerImage (image : Option BufferId) (hot : Point) : Call Unit

section Parts

variable (δ)

def brushPart : Part (World δ) Brush := ⟨brush, fun brush w => { w with brush }, fun _ => rfl⟩

def painterPart : Part (World δ) Painter :=
  ⟨painter, fun painter w => { w with painter }, fun _ => rfl⟩

def rendererPart : Part (World δ) Renderer :=
  ⟨renderer, fun renderer w => { w with renderer }, fun _ => rfl⟩

def timersPart : Part (World δ) Timers := ⟨timers, fun timers w => { w with timers }, fun _ => rfl⟩

def screenPart : Part (World δ) Screen := ⟨screen, fun screen w => { w with screen }, fun _ => rfl⟩

def scenePart : Part (World δ) (Screen × Stage δ) :=
  ⟨fun w => (w.screen, w.stage), fun scene w => { w with screen := scene.1, stage := scene.2 },
    fun _ => rfl⟩

def studioPart : Part (World δ) Studio :=
  ⟨(·.screen.studio), fun studio w => { w with screen := { w.screen with studio } }, fun _ => rfl⟩

def buffersPart : Part (World δ) (Studio × Surfaces) where
  get w := (w.screen.studio, w.stage.surfaces)
  put held w := { w with
    screen := { w.screen with studio := held.1 }
    stage := { w.stage with surfaces := held.2 } }
  put_get _ := rfl

end Parts

namespace Call

def run {α : Type} : Call α → EStateM Refusal (World δ) α
  | restoreBrush => (brushPart δ).run (fun _ => .plain) Brush.restoreInPlace
  | restorePainter => (painterPart δ).run .fault Painter.restoreInPlace
  | leave => (rendererPart δ).run .fault Renderer.leaveInPlace
  | resizeBuffer id size =>
      (buffersPart δ).run .fault (Studio.onBuffer id (Buffer.setSizeInPlace size))
  | beginResize id largest =>
      (buffersPart δ).run .fault (Studio.onBuffer id (Buffer.beginResizeInPlace largest))
  | endResize id => (buffersPart δ).run .fault (Studio.onBuffer id Buffer.endResizeInPlace)
  | openPainter id => (studioPart δ).run .fault (Studio.openPainterInPlace id)
  | closePainter id => (studioPart δ).run .fault (Studio.closePainterInPlace id)
  | closePainters id => (studioPart δ).run .fault (Studio.closePaintersInPlace id)
  | discard id => (studioPart δ).run .fault (Studio.discardInPlace id)
  | stopTimer id => (timersPart δ).run .timer (Timers.stopInPlace id)
  | detach id => (screenPart δ).run .screen (Screen.detachInPlace id)
  | setSize id size => (screenPart δ).run .screen (Screen.reboundInPlace id (·.setSize · · size))
  | moveTo id corner => (screenPart δ).run .screen (Screen.reboundInPlace id (·.moveTo · · corner))
  | setResolution id size => (scenePart δ).run .screen (Screen.setResolutionInPlace id size)
  | setPointerImage image hot => (scenePart δ).run .screen (Screen.setPointerImageInPlace image hot)

def answer {α : Type} : Call α → World δ → Except Refusal (α × World δ)
  | restoreBrush => (brushPart δ).apply (fun _ => .plain) Brush.restored
  | restorePainter => (painterPart δ).apply .fault fun p => p.restore.map fun after => ((), after)
  | leave => (rendererPart δ).apply .fault fun r => r.leave.map fun after => ((), after)
  | resizeBuffer id size => (buffersPart δ).apply .fault fun s =>
      (s.1.withBuffer s.2 id (·.setSize · size)).map fun after => ((), after)
  | beginResize id largest => (buffersPart δ).apply .fault fun s =>
      (s.1.withBuffer s.2 id (·.beginResize · largest)).map fun after => ((), after)
  | endResize id => (buffersPart δ).apply .fault fun s =>
      (s.1.withBuffer s.2 id Buffer.endResize).map fun after => ((), after)
  | openPainter id => (studioPart δ).apply .fault fun s => (s.openPainter id).map Prod.swap
  | closePainter id => (studioPart δ).apply .fault fun s =>
      (s.closePainter id).map fun after => ((), after)
  | closePainters id => (studioPart δ).apply .fault fun s => (s.closePainters id).map Prod.swap
  | discard id => (studioPart δ).apply .fault fun s => (s.discard id).map fun after => ((), after)
  | stopTimer id => (timersPart δ).apply .timer fun t => (t.stop id).map fun after => ((), after)
  | detach id => (screenPart δ).apply .screen fun s => (s.detach id).map Prod.swap
  | setSize id size => (screenPart δ).apply .screen fun s =>
      (s.setSize id size).map fun after => ((), after)
  | moveTo id corner => (screenPart δ).apply .screen fun s =>
      (s.moveTo id corner).map fun after => ((), after)
  | setResolution id size => (scenePart δ).apply .screen fun scene =>
      (scene.1.setResolution scene.2 id size).2.map fun after =>
        ((), after, (scene.1.setResolution scene.2 id size).1)
  | setPointerImage image hot => (scenePart δ).apply .screen fun scene =>
      (scene.1.setPointerImage scene.2 image hot).map fun after => ((), scene.1, after)

def buffer? {α : Type} : Call α → Option BufferId
  | resizeBuffer id _ | beginResize id _ | endResize id | openPainter id | closePainters id
  | discard id => some id
  | _ => none

def viewport? {α : Type} : Call α → Option ViewportId
  | detach id | setSize id _ | moveTo id _ | setResolution id _ => some id
  | _ => none

end Call

inductive Misuse (w : World δ) : {α : Type} → Call α → Refusal → Prop
  | noFrame (base : w.brush.saved = []) : Misuse w .restoreBrush .plain
  | noSavedFrame (base : w.painter.saved = []) :
      Misuse w .restorePainter (.fault .unmatchedRestore)
  | noRegion (matched : w.renderer.depth ≤ w.renderer.baseline) :
      Misuse w .leave (.fault (.unmatchedLeave w.renderer.depth))
  | deadBuffer {α : Type} {call : Call α} {id : BufferId} (names : call.buffer? = some id)
      (dead : w.screen.studio.buffers.get? id = none) : Misuse w call (.fault .deadBuffer)
  | paintersOpen {id : BufferId} {size : Size} {b : Buffer}
      (found : w.screen.studio.buffers.get? id = some b) (opened : b.painters ≠ []) :
      Misuse w (.resizeBuffer id size) (.fault (.paintersOpen b.painters.length))
  | resizeOpen {id : BufferId} {largest : Size} {b : Buffer}
      (found : w.screen.studio.buffers.get? id = some b) (resizing : b.isResizing = true) :
      Misuse w (.beginResize id largest) (.fault .resizeOpen)
  | resizeNotOpen {id : BufferId} {b : Buffer}
      (found : w.screen.studio.buffers.get? id = some b) (still : b.isResizing = false) :
      Misuse w (.endResize id) (.fault .resizeNotOpen)
  | noRoom {id : BufferId} {size : Size} {b : Buffer}
      (found : w.screen.studio.buffers.get? id = some b) (closed : b.painters = [])
      (large : w.stage.surfaces.TooLarge b.surface size) :
      Misuse w (.resizeBuffer id size) (.fault (.tooLarge size))
  | noReserve {id : BufferId} {largest : Size} {b : Buffer}
      (found : w.screen.studio.buffers.get? id = some b) (still : b.isResizing = false)
      (large : w.stage.surfaces.TooLarge b.surface largest) :
      Misuse w (.beginResize id largest) (.fault (.tooLarge largest))
  | deadPainter {id : PainterId} (dead : w.screen.studio.painters.get? id = none) :
      Misuse w (.closePainter id) (.fault .deadPainter)
  | idleTimer {id : TimerId} (idle : w.timers.isActive id = false) :
      Misuse w (.stopTimer id) (.timer .inactive)
  | unknownViewport {α : Type} {call : Call α} {id : ViewportId} (names : call.viewport? = some id)
      (absent : w.screen.viewports.get? id = none) :
      Misuse w call (.screen (.unknownViewport id))
  | resolution {id : ViewportId} {size : Size} {v : Viewport} {fault : ScreenFault}
      (found : w.screen.viewports.get? id = some v)
      (refused : (w.stage.setResolution v.output size).2 = .error fault) :
      Misuse w (.setResolution id size) (.screen fault)
  | deadImage {id : BufferId} {hot : Point} (dead : w.screen.studio.buffers.get? id = none) :
      Misuse w (.setPointerImage (some id) hot) (.screen (.misuse .deadBuffer))

namespace Call

variable {α : Type} {call : Call α} {w : World δ}

theorem misuse_of_refused {refusal : Refusal} (refused : call.answer w = .error refusal) :
    Misuse w call refusal := by
  cases call with
  | restoreBrush =>
      simp only [answer, Part.apply_eq_error, Brush.restored_eq_error] at refused
      rcases refused with ⟨_, base, rfl⟩
      exact .noFrame base
  | restorePainter =>
      simp only [answer, Part.apply_map_eq_error, Painter.restore_eq_error] at refused
      rcases refused with ⟨_, ⟨base, rfl⟩, rfl⟩
      exact .noSavedFrame base
  | leave =>
      simp only [answer, Part.apply_map_eq_error, Renderer.leave_eq_error] at refused
      rcases refused with ⟨_, ⟨matched, rfl⟩, rfl⟩
      exact .noRegion matched
  | resizeBuffer id size =>
      simp only [answer, Part.apply_map_eq_error, Studio.withBuffer_eq_error,
        Buffer.setSize_eq_error] at refused
      rcases refused with
        ⟨_, ⟨dead, rfl⟩ | ⟨b, found, ⟨opened, rfl⟩ | ⟨closed, large, rfl⟩⟩, rfl⟩
      · exact .deadBuffer rfl dead
      · exact .paintersOpen found opened
      · exact .noRoom found closed large
  | beginResize id largest =>
      simp only [answer, Part.apply_map_eq_error, Studio.withBuffer_eq_error,
        Buffer.beginResize_eq_error] at refused
      rcases refused with
        ⟨_, ⟨dead, rfl⟩ | ⟨b, found, ⟨resizing, rfl⟩ | ⟨still, large, rfl⟩⟩, rfl⟩
      · exact .deadBuffer rfl dead
      · exact .resizeOpen found resizing
      · exact .noReserve found still large
  | endResize id =>
      simp only [answer, Part.apply_map_eq_error, Studio.withBuffer_eq_error,
        Buffer.endResize_eq_error] at refused
      rcases refused with ⟨_, ⟨dead, rfl⟩ | ⟨b, found, still, rfl⟩, rfl⟩
      · exact .deadBuffer rfl dead
      · exact .resizeNotOpen found still
  | openPainter id =>
      simp only [answer, Part.apply_map_eq_error, Studio.openPainter_eq_error] at refused
      rcases refused with ⟨_, ⟨dead, rfl⟩, rfl⟩
      exact .deadBuffer rfl dead
  | closePainter id =>
      simp only [answer, Part.apply_map_eq_error, Studio.closePainter_eq_error] at refused
      rcases refused with ⟨_, ⟨dead, rfl⟩, rfl⟩
      exact .deadPainter dead
  | closePainters id =>
      simp only [answer, Part.apply_map_eq_error, Studio.closePainters_eq_error]
        at refused
      rcases refused with ⟨_, ⟨dead, rfl⟩, rfl⟩
      exact .deadBuffer rfl dead
  | discard id =>
      simp only [answer, Part.apply_map_eq_error, Studio.discard_eq_error] at refused
      rcases refused with ⟨_, ⟨dead, rfl⟩, rfl⟩
      exact .deadBuffer rfl dead
  | stopTimer id =>
      simp only [answer, Part.apply_map_eq_error, Timers.stop_eq_error] at refused
      rcases refused with ⟨⟨⟩, ⟨idle, _⟩, rfl⟩
      exact .idleTimer idle
  | detach id =>
      simp only [answer, Part.apply_map_eq_error, Screen.detach_eq_error] at refused
      rcases refused with ⟨_, ⟨absent, rfl⟩, rfl⟩
      exact .unknownViewport rfl absent
  | setSize id size =>
      simp only [answer, Part.apply_map_eq_error, Screen.setSize_eq_error] at refused
      rcases refused with ⟨_, ⟨absent, rfl⟩, rfl⟩
      exact .unknownViewport rfl absent
  | moveTo id corner =>
      simp only [answer, Part.apply_map_eq_error, Screen.moveTo_eq_error] at refused
      rcases refused with ⟨_, ⟨absent, rfl⟩, rfl⟩
      exact .unknownViewport rfl absent
  | setResolution id size =>
      simp only [answer, Part.apply_map_eq_error, Screen.setResolution_eq_error]
        at refused
      rcases refused with ⟨_, ⟨absent, rfl⟩ | ⟨v, found, refused⟩, rfl⟩
      · exact .unknownViewport rfl absent
      · exact .resolution found refused
  | setPointerImage image hot =>
      simp only [answer, Part.apply_map_eq_error, Screen.setPointerImage_eq_error]
        at refused
      rcases refused with ⟨_, ⟨⟨id, rfl, dead⟩, rfl⟩, rfl⟩
      exact .deadImage dead

theorem refused_of_misuse {refusal : Refusal} (misuse : Misuse w call refusal) :
    call.answer w = .error refusal := by
  cases misuse with
  | noFrame base =>
      rw [answer, Part.apply_eq_error]
      exact ⟨(), Brush.restored_eq_error.mpr base, rfl⟩
  | noSavedFrame base =>
      rw [answer, Part.apply_map_eq_error]
      exact ⟨_, Painter.restore_eq_error.mpr ⟨base, rfl⟩, rfl⟩
  | noRegion matched =>
      rw [answer, Part.apply_map_eq_error]
      exact ⟨_, Renderer.leave_eq_error.mpr ⟨matched, rfl⟩, rfl⟩
  | deadBuffer names dead =>
      cases call <;> cases names <;> rw [answer, Part.apply_map_eq_error]
      case openPainter.refl => exact ⟨_, (Studio.openPainter_eq_error ..).mpr ⟨dead, rfl⟩, rfl⟩
      case closePainters.refl => exact ⟨_, (Studio.closePainters_eq_error ..).mpr ⟨dead, rfl⟩, rfl⟩
      case discard.refl => exact ⟨_, (Studio.discard_eq_error ..).mpr ⟨dead, rfl⟩, rfl⟩
      all_goals exact ⟨_, (Studio.withBuffer_eq_error ..).mpr (.inl ⟨dead, rfl⟩), rfl⟩
  | paintersOpen found opened =>
      rw [answer, Part.apply_map_eq_error]
      refine ⟨_, (Studio.withBuffer_eq_error ..).mpr (.inr ⟨_, found, ?_⟩), rfl⟩
      exact (Buffer.setSize_eq_error ..).mpr (.inl ⟨opened, rfl⟩)
  | noRoom found closed large =>
      rw [answer, Part.apply_map_eq_error]
      refine ⟨_, (Studio.withBuffer_eq_error ..).mpr (.inr ⟨_, found, ?_⟩), rfl⟩
      exact (Buffer.setSize_eq_error ..).mpr (.inr ⟨closed, large, rfl⟩)
  | resizeOpen found resizing =>
      rw [answer, Part.apply_map_eq_error]
      refine ⟨_, (Studio.withBuffer_eq_error ..).mpr (.inr ⟨_, found, ?_⟩), rfl⟩
      exact (Buffer.beginResize_eq_error ..).mpr (.inl ⟨resizing, rfl⟩)
  | noReserve found still large =>
      rw [answer, Part.apply_map_eq_error]
      refine ⟨_, (Studio.withBuffer_eq_error ..).mpr (.inr ⟨_, found, ?_⟩), rfl⟩
      exact (Buffer.beginResize_eq_error ..).mpr (.inr ⟨still, large, rfl⟩)
  | resizeNotOpen found still =>
      rw [answer, Part.apply_map_eq_error]
      refine ⟨_, (Studio.withBuffer_eq_error ..).mpr (.inr ⟨_, found, ?_⟩), rfl⟩
      exact (Buffer.endResize_eq_error ..).mpr ⟨still, rfl⟩
  | deadPainter dead =>
      rw [answer, Part.apply_map_eq_error]
      exact ⟨_, (Studio.closePainter_eq_error ..).mpr ⟨dead, rfl⟩, rfl⟩
  | idleTimer idle =>
      rw [answer, Part.apply_map_eq_error]
      exact ⟨_, (Timers.stop_eq_error ..).mpr ⟨idle, rfl⟩, rfl⟩
  | unknownViewport names absent =>
      cases call <;> cases names <;> rw [answer, Part.apply_map_eq_error]
      case detach.refl => exact ⟨_, Screen.detach_eq_error.mpr ⟨absent, rfl⟩, rfl⟩
      case setSize.refl => exact ⟨_, Screen.setSize_eq_error.mpr ⟨absent, rfl⟩, rfl⟩
      case moveTo.refl => exact ⟨_, Screen.moveTo_eq_error.mpr ⟨absent, rfl⟩, rfl⟩
      case setResolution.refl =>
        exact ⟨_, Screen.setResolution_eq_error.mpr (.inl ⟨absent, rfl⟩), rfl⟩
  | resolution found refused =>
      rw [answer, Part.apply_map_eq_error]
      exact ⟨_, Screen.setResolution_eq_error.mpr (.inr ⟨_, found, refused⟩), rfl⟩
  | deadImage dead =>
      rw [answer, Part.apply_map_eq_error]
      exact ⟨_, Screen.setPointerImage_eq_error.mpr ⟨⟨_, rfl, dead⟩, rfl⟩, rfl⟩

/-- A call that is made does what it is to do. It is refused exactly where it is misused, and then
changes nothing, though an output may have reported why. -/
structure Sound (call : Call α) (w : World δ) : Prop where
  done : ∀ given after, call.run w = .ok given after → call.answer w = .ok (given, after)
  refused : ∀ refusal after, call.run w = .error refusal after →
    Misuse w call refusal ∧ ∃ entries, after = { w with stage := w.stage.report entries }
  misused : ∀ refusal, Misuse w call refusal → ∃ after, call.run w = .error refusal after

theorem Sound.of_outcome (same : call.run w = outcome w (call.answer w)) : call.Sound w := by
  constructor
  · intro given after done
    rw [same] at done
    cases answered : call.answer w with
    | ok result =>
        rw [answered] at done
        cases done
        rfl
    | error refusal =>
        rw [answered] at done
        cases done
  · intro refusal after failed
    rw [same] at failed
    cases answered : call.answer w with
    | ok result =>
        rw [answered] at failed
        cases failed
    | error reason =>
        rw [answered] at failed
        cases failed
        exact ⟨misuse_of_refused answered, [], by rw [Stage.report_nil]⟩
  · intro refusal misuse
    rw [same, refused_of_misuse misuse]
    exact ⟨w, rfl⟩

theorem sound_setResolution (steadfast : Output.Steadfast δ) (id : ViewportId) (size : Size)
    (w : World δ) : (setResolution id size).Sound w := by
  rcases switched : w.screen.setResolution w.stage id size with ⟨stage, result⟩
  have ran := Screen.setResolutionInPlace_eq w.screen w.stage id size
  rw [switched] at ran
  cases result with
  | ok after =>
      apply Sound.of_outcome
      simp only [run, answer, Part.run, Part.apply, scenePart, ran, switched, Except.map, outcome]
  | error fault =>
      have failed : (setResolution id size).run w = .error (.screen fault) { w with stage } := by
        simp only [run, Part.run, scenePart, ran]
      have answered : (setResolution id size).answer w = .error (.screen fault) := by
        simp only [answer, Part.apply, scenePart, switched, Except.map]
      constructor
      · intro given after done
        rw [failed] at done
        cases done
      · intro refusal after refused
        rw [failed] at refused
        cases refused
        rcases Screen.setResolution_refused steadfast switched with ⟨entries, rfl⟩
        exact ⟨misuse_of_refused answered, entries, rfl⟩
      · intro refusal misuse
        rw [refused_of_misuse misuse] at answered
        cases answered
        exact ⟨_, failed⟩

theorem sound (steadfast : Output.Steadfast δ)
    (named : ∀ id v, w.screen.viewports.get? id = some v → v.id = id) : call.Sound w := by
  cases call
  case setResolution id size => exact sound_setResolution steadfast id size w
  all_goals
    apply Sound.of_outcome
    rw [run, answer]
    apply Part.run_eq
  case restoreBrush => exact Brush.restoreInPlace_eq _
  case restorePainter => exact Painter.restoreInPlace_eq _
  case leave => exact Renderer.leaveInPlace_eq _
  case resizeBuffer id size => exact Studio.onBuffer_eq _ _ _ fun b => b.setSizeInPlace_eq _ size
  case beginResize id largest =>
    exact Studio.onBuffer_eq _ _ _ fun b => b.beginResizeInPlace_eq _ largest
  case endResize id => exact Studio.onBuffer_eq _ _ _ fun b => b.endResizeInPlace_eq _
  case openPainter id => exact Studio.openPainterInPlace_eq _ id
  case closePainter id => exact Studio.closePainterInPlace_eq _ id
  case closePainters id => exact Studio.closePaintersInPlace_eq _ id
  case discard id => exact Studio.discardInPlace_eq _ id
  case stopTimer id => exact Timers.stopInPlace_eq _ id
  case detach id => exact Screen.detachInPlace_eq named id
  case setSize id size => exact Screen.reboundInPlace_eq _ id _
  case moveTo id corner => exact Screen.reboundInPlace_eq _ id _
  case setPointerImage image hot => exact Screen.setPointerImageInPlace_eq _ _ image hot

end Call

/-- Whatever a screen has been asked for, and whatever else there is by then: a call is refused
exactly where it is misused, and every object is then as it was. The redraws of a screen are not
calls that can be misused: none of them ever fails. Outputs have to stay as they are when they
refuse a resolution. -/
theorem refused_call_changes_nothing (steadfast : Output.Steadfast δ) (config : Config)
    (root : Tree) (stage : Stage δ) (requests : List (Screen.Request δ)) (brush : Brush)
    (painter : Painter) (renderer : Renderer) (timers : Timers) :
    let scene := Screen.askAll (Screen.create config root, stage) requests
    let w : World δ := ⟨scene.1, scene.2, brush, painter, renderer, timers⟩
    (∀ (α : Type) (call : Call α), call.Sound w) ∧
      (∀ now : Stage δ, ∃ next, w.screen.flush now = .ok next) ∧
      ∀ (now : Stage δ) (instant : Nat), ∃ next, w.screen.processTimers now instant = .ok next := by
  intro scene w
  have inStep : w.screen.InStep [] :=
    (Screen.askAll_laid (.create config root) (.create config root) stage requests).1
  refine ⟨fun _ call => call.sound steadfast inStep.named, ?_, ?_⟩
  · intro now
    rcases Screen.flush_turns inStep now with ⟨next, flushed, _⟩
    exact ⟨next, flushed⟩
  · intro now instant
    rcases Screen.processTimers_turns inStep now instant with ⟨next, fired, _⟩
    exact ⟨next, fired⟩

section Small

/-- Of a screen with one viewport, another one cannot be detached, and its own cannot have a
resolution that its framebuffer does not know. -/
theorem refused_calls_on_small_stage :
    let scene := Screen.askAll (Screen.create { delay := 1 } fun _ _ => [], Viewport.smallStage)
      [.operation (.attach ⟨0⟩)]
    let w : World Framebuffer := ⟨scene.1, scene.2, { target := ⟨0⟩ }, {}, default, {}⟩
    (∃ entries, (Call.detach ⟨1⟩).run w =
        .error (.screen (.unknownViewport ⟨1⟩)) { w with stage := w.stage.report entries }) ∧
      (∃ entries, (Call.setResolution ⟨0⟩ ⟨9, 9⟩).run w =
        .error (.screen (.unsupportedResolution ⟨9, 9⟩)) { w with
          stage := w.stage.report entries }) ∧
      ∃ next, w.screen.flush w.stage = .ok next := by
  intro scene w
  rcases refused_call_changes_nothing Framebuffer.steadfast { delay := 1 } (fun _ _ => [])
      Viewport.smallStage [.operation (.attach ⟨0⟩)] { target := ⟨0⟩ } {} default {} with
    ⟨sound, flushes, _⟩
  refine ⟨?_, ?_, flushes w.stage⟩
  · rcases (sound _ (.detach ⟨1⟩)).misused _ (.unknownViewport rfl rfl) with ⟨after, ran⟩
    rcases ((sound _ _).refused _ _ ran).2 with ⟨entries, rfl⟩
    exact ⟨entries, ran⟩
  · rcases (sound _ (.setResolution ⟨0⟩ ⟨9, 9⟩)).misused _ (.resolution rfl rfl) with ⟨after, ran⟩
    rcases ((sound _ _).refused _ _ ran).2 with ⟨entries, rfl⟩
    exact ⟨entries, ran⟩

end Small

end World

end Compositing
