import Compositing.Proofs.Completion
import Compositing.Proofs.Repaint

/-! What an output sees of one redraw: the batch is opened, renderers are asked for one area after
the other and each is completed before the next, and the batch is closed. -/

namespace Compositing

/-- The events of a redraw that an output and its backends take part in, draws apart. -/
def Event.isMark : Event → Bool
  | .begun _ | .ended _ | .requested _ _ => true
  | .played _ call => call.isComplete
  | _ => false

/-- From `before` to `after` just these marks were recorded. -/
def Marks {δ : Type} (marks : List Event) (before after : Stage δ) : Prop :=
  ∃ events, after.events = before.events ++ events ∧ events.filter Event.isMark = marks

namespace Marks

variable {δ : Type} {before middle after : Stage δ} {first second : List Event}

theorem refl (stage : Stage δ) : Marks [] stage stage := ⟨[], by simp, rfl⟩

theorem trans (start : Marks first before middle) (rest : Marks second middle after) :
    Marks (first ++ second) before after := by
  rcases start with ⟨early, events, rfl⟩
  rcases rest with ⟨late, later, rfl⟩
  refine ⟨early ++ late, by rw [later, events, List.append_assoc], ?_⟩
  exact List.filter_append ..

theorem extends_events {marks : List Event} (recorded : Marks marks before after) :
    before.events <+: after.events := by
  rcases recorded with ⟨events, later, _⟩
  rw [later]
  exact List.prefix_append ..

theorem record (stage : Stage δ) (events : List Event) :
    Marks (events.filter Event.isMark) stage (stage.record events) := ⟨events, rfl, rfl⟩

theorem report (stage : Stage δ) (entries : List Log.Entry) :
    Marks [] stage (stage.report entries) := by
  refine ⟨entries.map .logged, rfl, ?_⟩
  simp [List.filter_map, Function.comp_def, Event.isMark]

theorem perform (stage : Stage δ) (r : Renderer) :
    Marks ((r.calls.filter Call.isComplete).map (.played r.backend)) stage (stage.perform r) := by
  rw [Stage.perform_eq]
  refine ⟨_, rfl, ?_⟩
  simp [List.filter_map, Function.comp_def, Event.isMark]

theorem act {α : Type} (stage : Stage δ) (id : OutputId) (otherwise : α) (f : Rig δ → Rig δ × α) :
    Marks [] stage (stage.act id otherwise f).1 := by
  rw [Stage.act]
  split
  · exact .refl stage
  · exact report _ _

variable [Output δ] (stage : Stage δ) (id : OutputId)

theorem beginUpdates : Marks [.begun id] stage (stage.beginUpdates id) :=
  (record stage [.begun id]).trans (act ..)

theorem endUpdates : Marks [.ended id] stage (stage.endUpdates id) :=
  (record stage [.ended id]).trans (act ..)

theorem requestRenderer (area : Rect) :
    Marks [.requested id area] stage (stage.requestRenderer id area).1 :=
  (record stage [.requested id area]).trans (act ..)

end Marks

namespace Viewport

structure Pass where
  area : Rect
  granted : Option (Renderer × Renderer)

def Pass.marks (pass : Pass) (output : OutputId) : List Event :=
  .requested output pass.area ::
    match pass.granted with
    | none => []
    | some (_, done) => (done.calls.filter Call.isComplete).map (.played done.backend)

def Pass.count (report : Report) (pass : Pass) : Report :=
  match pass.granted with
  | none => { report with dropped := report.dropped + 1 }
  | some (_, done) =>
      { report with passes := report.passes + 1, tally := report.tally + done.tally }

variable {δ : Type} [Output δ] (v : Viewport) (tree : Tree) (studio : Studio)

def pass? (output : Rect) (stage : Stage δ) (r : Rect) : Option Pass :=
  (v.deviceArea? output r).map fun area =>
    ⟨area, (stage.requestRenderer v.output area).2.map fun given =>
      (given, (v.visit tree studio given area).1.complete)⟩

def passes (output : Rect) (progress : Stage δ × Report) : List Rect → List Pass
  | [] => []
  | r :: rest =>
      (v.pass? tree studio output progress.1 r).toList ++
        passes output (v.repaint tree studio output progress r) rest

section Visit

/-- A visit comes to some commands to the renderer, with what was left entered put right. -/
theorem visit_obeys (given : Renderer) (area : Rect) :
    ∃ commands regions log, (v.visit tree studio given area).1 =
      { given.obeyAll commands with regions, log } := by
  rw [visit]
  cases entering : given.enter? area (-v.bounds.corner) with
  | none => exact ⟨[], _, _, rfl⟩
  | some entered =>
      dsimp only
      have same := Step.runAll_obeys studio entered (tree entered studio)
      rcases Renderer.unwind_frame (Renderer.report (Step.runAll studio entered _).1 _)
        entered.depth with ⟨regions, log, unwound⟩
      have opened : given.obey (.enter area (-v.bounds.corner)) = entered := by
        rw [Renderer.obey, entering, Option.getD_some]
      refine ⟨.enter area (-v.bounds.corner) ::
        Step.allCommands studio entered (tree entered studio), regions, log, ?_⟩
      change _ = { (given.obey (.enter area (-v.bounds.corner))).obeyAll _ with regions, log }
      rw [unwound, opened, ← same]
      rfl

theorem visit_backend (given : Renderer) (area : Rect) :
    (v.visit tree studio given area).1.backend = given.backend := by
  rcases v.visit_obeys tree studio given area with ⟨commands, regions, log, same⟩
  rw [same]
  exact given.backend_obeyAll commands

theorem visit_marks (given : Renderer) (area : Rect) :
    (v.visit tree studio given area).2.filter Event.isMark = [] := by
  rw [visit]
  split <;> rfl

end Visit

section Repaint

variable {output area : Rect} {stage next : Stage δ} {r : Rect}

theorem pass?_of_refusal (device : v.deviceArea? output r = some area)
    (request : stage.requestRenderer v.output area = (next, none)) :
    v.pass? tree studio output stage r = some ⟨area, none⟩ := by
  rw [pass?, device, Option.map_some, request]
  rfl

theorem pass?_of_renderer {given : Renderer} (device : v.deviceArea? output r = some area)
    (request : stage.requestRenderer v.output area = (next, some given)) :
    v.pass? tree studio output stage r =
      some ⟨area, some (given, (v.visit tree studio given area).1.complete)⟩ := by
  rw [pass?, device, Option.map_some, request]
  rfl

variable (output stage r) (report : Report)

theorem repaint_marks :
    Marks ((v.pass? tree studio output stage r).toList.flatMap (·.marks v.output)) stage
      (v.repaint tree studio output (stage, report) r).1 := by
  cases device : v.deviceArea? output r with
  | none =>
      rw [repaint_of_hidden device, pass?, device]
      exact .refl stage
  | some area =>
      have asked := Marks.requestRenderer stage v.output area
      rcases request : stage.requestRenderer v.output area with ⟨next, renderer⟩
      rw [request] at asked
      cases renderer with
      | none =>
          rw [repaint_of_refusal device request, v.pass?_of_refusal tree studio device request]
          exact asked.trans (.report next _)
      | some given =>
          rw [repaint_of_renderer device request, v.pass?_of_renderer tree studio device request]
          have visited := Marks.record next (v.visit tree studio given area).2
          have performed := Marks.perform (next.record (v.visit tree studio given area).2)
            (v.visit tree studio given area).1.complete
          rw [v.visit_marks] at visited
          simpa [Pass.marks] using asked.trans (visited.trans performed)

end Repaint

section Passes

variable (output : Rect) (progress : Stage δ × Report) (rects : List Rect)

theorem passes_marks :
    Marks ((v.passes tree studio output progress rects).flatMap (·.marks v.output)) progress.1
      (rects.foldl (v.repaint tree studio output) progress).1 := by
  induction rects generalizing progress with
  | nil => exact .refl progress.1
  | cons r rest ih =>
      rw [passes, List.flatMap_append, List.foldl_cons]
      exact (v.repaint_marks tree studio output progress.1 r progress.2).trans (ih _)

theorem mem_passes {pass : Pass} (member : pass ∈ v.passes tree studio output progress rects) :
    ∃ (stage : Stage δ) (r : Rect), v.pass? tree studio output stage r = some pass := by
  induction rects generalizing progress with
  | nil => cases member
  | cons r rest ih =>
      rcases List.mem_append.mp member with now | later
      · exact ⟨_, r, Option.mem_toList.mp now⟩
      · exact ih _ later

end Passes

theorem granted_of_mem {output : Rect} {progress : Stage δ × Report} {rects : List Rect}
    {pass : Pass} (member : pass ∈ v.passes tree studio output progress rects)
    {given done : Renderer} (granted : pass.granted = some (given, done)) :
    done = (v.visit tree studio given pass.area).1.complete := by
  rcases v.mem_passes tree studio output progress rects member with ⟨stage, r, made⟩
  rcases Option.map_eq_some_iff.mp made with ⟨area, _, rfl⟩
  rcases Option.map_eq_some_iff.mp granted with ⟨given, _, same⟩
  cases same
  rfl

variable (stage : Stage δ)

def allPasses : List Pass :=
  v.passes tree studio (v.outputArea stage)
    (stage.beginUpdates v.output, { rects := v.damage.coalesce.rects.length })
    v.damage.coalesce.rects

end Viewport

end Compositing
