import Compositing.Proofs.InPlace

/-! The calls of a screen that can be refused, step by step. Where a viewport's redraw is cancelled
on the way, its timer is stopped only while it is active, so that this never fails. -/

namespace Compositing

open InPlace

namespace Timers

variable (t : Timers) (id : TimerId)

/-- The timer is gone before it is known whether it was active. -/
def stopInPlace : EStateM TimerFault Timers Unit := do
  let _ ← take .inactive fun t => (if t.isActive id then some () else none, t.drop (some id))
  return

theorem stopInPlace_eq :
    stopInPlace id t = outcome t ((t.stop id).map fun after => ((), after)) := by
  refine take_bind (by rfl) ?_ ?_
  · intro absent
    have idle : ¬ t.isActive id := by simpa using absent
    rw [t.drop_of_idle idle, stop, if_neg idle]
    exact ⟨rfl, rfl⟩
  · intro _ present
    have active : t.isActive id := by
      by_contra idle
      rw [if_neg idle] at present
      cases present
    rw [t.stop_of_active active]
    rfl

theorem stop_eq_error {fault : TimerFault} :
    t.stop id = .error fault ↔ t.isActive id = false ∧ fault = .inactive := by
  rw [stop]
  cases t.isActive id <;> simp [eq_comm]

def haltInPlace : EStateM ScreenFault Timers Unit := fun t =>
  if t.isActive id then (stopInPlace id).adaptExcept .timer t else .ok () t

theorem haltInPlace_eq : haltInPlace id t = .ok () (t.drop (some id)) := by
  rw [haltInPlace]
  split
  · rename_i active
    rw [EStateM.adaptExcept, stopInPlace_eq, t.stop_of_active active]
    rfl
  · rename_i idle
    rw [t.drop_of_idle idle]

end Timers

namespace Viewport

def cancelInPlace : EStateM ScreenFault (Viewport × Timers) (Option TimerId) := do
  let pending ← modifyGet fun s => (s.1.pending, ({ s.1 with pending := none }, s.2))
  match pending with
  | none => pure ()
  | some timer => Part.second.run (fun fault => fault) (Timers.haltInPlace timer)
  return pending

theorem cancelInPlace_eq (v : Viewport) (timers : Timers) :
    cancelInPlace (v, timers) =
      .ok v.pending ({ v with pending := none }, timers.drop v.pending) := by
  rcases v with ⟨id, bounds, output, delay, damage, pending⟩
  cases pending with
  | none =>
      simp [cancelInPlace]
      rfl
  | some timer =>
      have halted : Part.second.run (fun fault => fault) (Timers.haltInPlace timer)
          (({ id, bounds, output, delay, damage } : Viewport), timers) =
            .ok () ({ id, bounds, output, delay, damage }, timers.drop (some timer)) := by
        simp only [Part.run, Part.second, Timers.haltInPlace_eq]
      exact bind_of_ok halted

end Viewport

namespace Screen

variable {δ : Type} [Output δ]

def cancelApart (v : Viewport) : EStateM ScreenFault Screen (Viewport × Option TimerId) := fun s =>
  match Viewport.cancelInPlace (v, s.timers) with
  | .ok timer (idle, timers) => .ok (idle, timer) { s with timers }
  | .error fault (_, timers) => .error fault { s with timers }

def detachInPlace (id : ViewportId) : EStateM ScreenFault Screen Viewport := do
  let v ← take (.unknownViewport id) fun s =>
    (s.viewports.get? id, { s with viewports := s.viewports.remove id })
  let (idle, timer) ← cancelApart v
  modify fun s => { s with pending := unlist s.pending timer }
  modify fun s => { s with desktop := s.desktop.remove id }
  return idle

theorem detachInPlace_eq {s : Screen} (named : ∀ id v, s.viewports.get? id = some v → v.id = id)
    (id : ViewportId) : detachInPlace id s = outcome s ((s.detach id).map Prod.swap) := by
  refine take_bind (by rfl) ?_ ?_
  · intro absent
    rw [Registry.remove_absent absent, detach, find, absent]
    exact ⟨rfl, rfl⟩
  · intro v found
    have own := named id v found
    subst own
    have cancelled : cancelApart v { s with viewports := s.viewports.remove v.id } =
        .ok ({ v with pending := none }, v.pending)
          { s with viewports := s.viewports.remove v.id, timers := s.timers.drop v.pending } := by
      simp only [cancelApart, Viewport.cancelInPlace_eq]
    refine (bind_of_ok cancelled).trans ?_
    rw [detach_eq found rfl]
    rfl

theorem find_eq_error {s : Screen} {id : ViewportId} {fault : ScreenFault} :
    s.find id = .error fault ↔ s.viewports.get? id = none ∧ fault = .unknownViewport id := by
  rw [find]
  cases s.viewports.get? id <;> simp [eq_comm]

theorem detach_eq_error {s : Screen} {id : ViewportId} {fault : ScreenFault} :
    s.detach id = .error fault ↔ s.viewports.get? id = none ∧ fault = .unknownViewport id := by
  rw [← find_eq_error, detach]
  cases s.find id <;> simp

def reboundInPlace (id : ViewportId)
    (change : Viewport → Timers → (ViewportId → Rect → Desktop) →
      Desktop × Viewport × Timers × Option TimerId) :
    EStateM ScreenFault Screen Unit := do
  let v ← lookup (.unknownViewport id) (·.viewports.get? id)
  modify fun s => s.rebound (change v s.timers s.desktop.put)

theorem reboundInPlace_eq (s : Screen) (id : ViewportId)
    (change : Viewport → Timers → (ViewportId → Rect → Desktop) →
      Desktop × Viewport × Timers × Option TimerId) :
    reboundInPlace id change s =
      outcome s (((s.find id).map fun v => s.rebound (change v s.timers s.desktop.put)).map
        fun after => ((), after)) := by
  apply lookup_bind
  · intro absent
    rw [find, absent]
    rfl
  · intro v found
    rw [find, found]
    rfl

/-- Switches an output, which may change even where it refuses. -/
def switchOutput (output : OutputId) (size : Size) :
    EStateM ScreenFault (Screen × Stage δ) Unit := fun s =>
  match s.2.setResolution output size with
  | (stage, .ok _) => .ok () (s.1, stage)
  | (stage, .error fault) => .error fault (s.1, stage)

def setResolutionInPlace (id : ViewportId) (size : Size) :
    EStateM ScreenFault (Screen × Stage δ) Unit := do
  let v ← lookup (.unknownViewport id) (·.1.viewports.get? id)
  switchOutput v.output size
  modify fun s => (s.1.rebound (v.setSize s.1.timers s.1.desktop.put size), s.2)

theorem setResolutionInPlace_eq (s : Screen) (stage : Stage δ) (id : ViewportId) (size : Size) :
    setResolutionInPlace id size (s, stage) =
      match s.setResolution stage id size with
      | (stage, .ok after) => .ok () (after, stage)
      | (stage, .error fault) => .error fault (s, stage) := by
  rw [setResolution, find]
  cases found : s.viewports.get? id with
  | none => simp only [setResolutionInPlace, lookup, take, found, bind, EStateM.bind]
  | some v =>
      have looked : lookup (ScreenFault.unknownViewport id)
          (fun s : Screen × Stage δ => s.1.viewports.get? id) (s, stage) = .ok v (s, stage) := by
        simp only [lookup, take, found]
      refine (bind_of_ok looked).trans ?_
      simp only [Viewport.setResolution, bind, EStateM.bind, switchOutput]
      rcases stage.setResolution v.output size with ⟨next, switched⟩
      cases switched <;> rfl

theorem setSize_eq_error {s : Screen} {id : ViewportId} {size : Size} {fault : ScreenFault} :
    s.setSize id size = .error fault ↔
      s.viewports.get? id = none ∧ fault = .unknownViewport id :=
  map_eq_error.trans find_eq_error

theorem moveTo_eq_error {s : Screen} {id : ViewportId} {corner : Point} {fault : ScreenFault} :
    s.moveTo id corner = .error fault ↔
      s.viewports.get? id = none ∧ fault = .unknownViewport id :=
  map_eq_error.trans find_eq_error

theorem setResolution_eq_error {s : Screen} {stage : Stage δ} {id : ViewportId} {size : Size}
    {fault : ScreenFault} :
    (s.setResolution stage id size).2 = .error fault ↔
      s.viewports.get? id = none ∧ fault = .unknownViewport id ∨
        ∃ v, s.viewports.get? id = some v ∧
          (stage.setResolution v.output size).2 = .error fault := by
  rw [setResolution, find]
  cases s.viewports.get? id with
  | none => simp [eq_comm]
  | some v =>
      simp only [reduceCtorEq, false_and, false_or, Option.some.injEq, exists_eq_left']
      exact map_eq_error.trans map_eq_error

def pointerSurface : Option BufferId → EStateM ScreenFault (Screen × Stage δ) (Option SurfaceId)
  | none => pure none
  | some id => do
      let b ← lookup (.misuse .deadBuffer) (·.1.studio.buffers.get? id)
      return some b.surface

def setPointerImageInPlace (image : Option BufferId) (hot : Point) :
    EStateM ScreenFault (Screen × Stage δ) Unit := do
  let surface ← pointerSurface image
  let outputs := (← get).1.viewports.toList.map (·.2.output)
  outputs.forM fun output => modify fun s => (s.1, s.2.setPointer output surface hot)

theorem setPointerImageInPlace_eq (s : Screen) (stage : Stage δ) (image : Option BufferId)
    (hot : Point) :
    setPointerImageInPlace image hot (s, stage) =
      outcome (s, stage)
        ((s.setPointerImage stage image hot).map fun after => ((), (s, after))) := by
  have installed (surface : Option SurfaceId) := forM_modify (ε := ScreenFault)
    (fun output (s : Screen × Stage δ) => (s.1, s.2.setPointer output surface hot))
    (fun stage => (s, stage)) (fun stage output => stage.setPointer output surface hot)
    (fun _ _ => rfl) (s.viewports.toList.map (·.2.output)) stage
  cases image with
  | none => exact installed none
  | some id =>
      cases found : s.studio.buffers.get? id with
      | none =>
          simp only [setPointerImage, found, setPointerImageInPlace, pointerSurface, lookup, take,
            bind, EStateM.bind]
          rfl
      | some b =>
          have looked : pointerSurface (some id) (s, stage) = .ok (some b.surface) (s, stage) := by
            simp only [pointerSurface, lookup, take, found, bind, EStateM.bind]
            rfl
          simp only [setPointerImage, found]
          exact (bind_of_ok looked).trans (installed (some b.surface))

theorem setPointerImage_eq_error {s : Screen} {stage : Stage δ} {image : Option BufferId}
    {hot : Point} {fault : ScreenFault} :
    s.setPointerImage stage image hot = .error fault ↔
      (∃ id, image = some id ∧ s.studio.buffers.get? id = none) ∧ fault = .misuse .deadBuffer := by
  cases image with
  | none => simp [setPointerImage]
  | some id => cases found : s.studio.buffers.get? id <;> simp [setPointerImage, found, eq_comm]

end Screen

end Compositing
