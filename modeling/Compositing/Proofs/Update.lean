import Compositing.Viewport

/-! What damaging, cancelling, repainting and updating a viewport come to. Nothing here can fail,
since a timer is only stopped while it is active. -/

namespace Compositing

namespace Timers

variable (timers : Timers) {timer : TimerId}

def drop (timer : Option TimerId) : Timers :=
  { timers with queue := timers.queue.filter fun entry => timer ≠ some entry.1 }

@[simp] theorem drop_none : timers.drop none = timers := by
  have kept : timers.queue.filter (fun _ => true) = timers.queue :=
    List.filter_eq_self.mpr (by simp)
  simp [drop, kept]

theorem isActive_iff : timers.isActive timer ↔ ∃ entry ∈ timers.queue, entry.1 = timer := by
  simp [isActive]

theorem stop_of_active (active : timers.isActive timer) :
    timers.stop timer = .ok (timers.drop (some timer)) := by
  have same : timers.queue.filter (fun entry => some timer ≠ some entry.1) =
      timers.queue.filter (·.1 ≠ timer) := by
    apply List.filter_congr
    intro entry _
    simp [eq_comm]
  rw [stop, if_pos active, drop, same]

theorem drop_of_idle (idle : ¬ timers.isActive timer) : timers.drop (some timer) = timers := by
  have kept : timers.queue.filter (fun entry => some timer ≠ some entry.1) = timers.queue := by
    apply List.filter_eq_self.mpr
    intro entry member
    have other : entry.1 ≠ timer :=
      fun own => idle (timers.isActive_iff.mpr ⟨entry, member, own⟩)
    simp [other.symm]
  rw [drop, kept]

end Timers

namespace Damage

theorem eq_empty {d : Damage} (empty : d.isEmpty = true) : d = {} :=
  congrArg mk (List.isEmpty_iff.mp empty)

@[simp] theorem isEmpty_add (d : Damage) (r : Rect) : (d.add r).isEmpty = false := by
  simp [add, isEmpty]

end Damage

namespace Viewport

section Invalidate

variable {v : Viewport} {r : Rect}

theorem invalidate_of_empty (timers : Timers) (empty : r.isEmpty = true) :
    v.invalidate timers r = (v, timers, none) := by
  rw [invalidate, if_pos empty]

variable (timers : Timers) (filled : r.isEmpty = false)

include filled

theorem invalidate_of_waiting {timer : TimerId} (waits : v.pending = some timer) :
    v.invalidate timers r = ({ v with damage := v.damage.add r }, timers, none) := by
  simp [invalidate, filled, waits]

theorem invalidate_of_idle (idle : v.pending = none) :
    v.invalidate timers r =
      ({ v with damage := v.damage.add r, pending := some timers.nextId },
        timers.start v.delay, some timers.nextId) := by
  simp [invalidate, filled, idle]

end Invalidate

theorem invalidate_frame (v : Viewport) (timers : Timers) (r : Rect) :
    ∃ pending, (v.invalidate timers r).1 =
      { v with pending, damage := if r.isEmpty then v.damage else v.damage.add r } := by
  cases filled : r.isEmpty with
  | true =>
      rw [invalidate_of_empty timers filled]
      exact ⟨v.pending, rfl⟩
  | false =>
      cases pends : v.pending with
      | some timer =>
          rw [invalidate_of_waiting timers filled pends]
          exact ⟨v.pending, rfl⟩
      | none =>
          rw [invalidate_of_idle timers filled pends]
          exact ⟨some timers.nextId, rfl⟩

@[simp] theorem invalidate_id (v : Viewport) (timers : Timers) (r : Rect) :
    (v.invalidate timers r).1.id = v.id := by
  rcases v.invalidate_frame timers r with ⟨pending, same⟩
  rw [same]

@[simp] theorem cancel_eq (v : Viewport) (timers : Timers) :
    v.cancel timers = .ok ({ v with pending := none }, timers.drop v.pending, v.pending) := by
  rcases v with ⟨id, bounds, output, delay, damage, pending⟩
  rw [cancel]
  cases pending with
  | none => simp
  | some timer =>
      dsimp only
      split
      · rename_i active
        rw [timers.stop_of_active active]
      · rename_i idle
        rw [timers.drop_of_idle idle]

variable {δ : Type} [Output δ] (v : Viewport) (tree : Tree) (studio : Studio) (timers : Timers)
  (stage : Stage δ)

section Repaint

variable {v tree studio stage} {output r area : Rect} {report : Report} {next : Stage δ}

theorem repaint_of_hidden (hidden : v.deviceArea? output r = none) :
    v.repaint tree studio output (stage, report) r = (stage, report) := by
  unfold repaint
  rw [hidden]

variable (shown : v.deviceArea? output r = some area)

include shown

theorem repaint_of_refusal (refused : stage.requestRenderer v.output area = (next, none)) :
    v.repaint tree studio output (stage, report) r =
      (next.report [⟨.warn, .viewport, "driver returned no renderer",
        [("device", area.describe)]⟩], { report with dropped := report.dropped + 1 }) := by
  unfold repaint
  simp only [shown, refused]

theorem repaint_of_renderer {renderer : Renderer}
    (given : stage.requestRenderer v.output area = (next, some renderer)) :
    v.repaint tree studio output (stage, report) r =
      ((next.record (v.visit tree studio renderer area).2).perform
          (v.visit tree studio renderer area).1.complete,
        { report with
          passes := report.passes + 1
          tally := report.tally + (v.visit tree studio renderer area).1.complete.tally }) := by
  unfold repaint
  simp only [shown, given]

end Repaint

def repaintAll : Stage δ × Report :=
  if v.damage.isEmpty then (stage, {})
  else
    let rects := v.damage.coalesce.rects
    let painted := rects.foldl (v.repaint tree studio (v.outputArea stage))
      (stage.beginUpdates v.output, { rects := rects.length })
    (painted.1.endUpdates v.output, painted.2)

@[simp] theorem repaint_pending (pending : Option TimerId) (output : Rect)
    (progress : Stage δ × Report) (r : Rect) :
    ({ v with pending } : Viewport).repaint tree studio output progress r =
      v.repaint tree studio output progress r := by
  have area : ({ v with pending } : Viewport).deviceArea? output r = v.deviceArea? output r := rfl
  have visits : ({ v with pending } : Viewport).visit tree studio = v.visit tree studio := rfl
  unfold repaint
  rw [area, visits]

@[simp] theorem repaintAll_pending (pending : Option TimerId) :
    ({ v with pending } : Viewport).repaintAll tree studio stage =
      v.repaintAll tree studio stage := by
  have repaints : ({ v with pending } : Viewport).repaint tree studio (δ := δ) =
      v.repaint tree studio := by
    funext output progress r
    exact v.repaint_pending tree studio pending output progress r
  have area : ({ v with pending } : Viewport).outputArea stage = v.outputArea stage := rfl
  rw [repaintAll, repaintAll, repaints, area]

@[simp] theorem update_eq :
    v.update tree studio timers stage = .ok ({ v with pending := none, damage := {} },
      timers.drop v.pending, v.repaintAll tree studio stage) := by
  cases damaged : v.damage.isEmpty with
  | false =>
      simp only [update, repaintAll, cancel_eq, ok_bind, damaged]
      rfl
  | true => simp [update, repaintAll, damaged, ← Damage.eq_empty damaged]

end Viewport

end Compositing
