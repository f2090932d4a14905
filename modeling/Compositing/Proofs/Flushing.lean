import Compositing.Proofs.Furnishing
import Compositing.Proofs.Rounds

/-! A flush and firing timers are the same redraw, when all timers are due. The lists of viewports
that they paint then differ in nothing but their order, and the order makes no difference. -/

namespace Compositing

namespace Screen

variable {δ : Type} [Output δ] {s : Screen} {stage : Stage δ} {v : Viewport} {vs : List Viewport}
  {fired : List TimerId}

section Agreement

/-- No two viewports share an output, and no output shares a surface. -/
structure KeptApart [Output.Isolated δ] (s : Screen) (stage : Stage δ) : Prop where
  outputs : ∀ {id other v w}, s.viewports.get? id = some v → s.viewports.get? other = some w →
    v.output = w.output → id = other
  unshared : stage.Unshared s.studio

def DueAt (s : Screen) (id : ViewportId) (deadline : Nat) : Prop :=
  ∃ v timer, s.viewports.get? id = some v ∧ v.pending = some timer ∧
    (timer, deadline) ∈ s.timers.queue

structure Settled (s after : Screen) : Prop where
  desktop : after.desktop = s.desktop
  viewports : ∀ id, after.viewports.get? id = (s.viewports.get? id).map Viewport.cleared
  queue : after.timers.queue = []
  pending : after.pending.entries = []

theorem distinct_of_found (found : ∀ v ∈ vs, s.viewports.get? v.id = some v) (once : vs.Nodup) :
    (vs.map (·.id)).Nodup := by
  apply (List.nodup_map_iff_inj_on once).mpr
  intro v first w second same
  have again := found w second
  rw [← same, found v first] at again
  exact Option.some.inj again

theorem dirty_once (inStep : s.InStep fired) : (s.dirty s.viewports.keys).Nodup := by
  apply List.Nodup.filter
  apply s.viewports.keys_nodup.filterMap
  intro id other v first second
  rw [← inStep.named id v first, ← inStep.named other v second]

theorem dueBy_once (inStep : s.InStep []) (instant : Nat) : (s.dueBy instant).Nodup := by
  have timers : ((s.timers.dueBy instant).map some).Nodup := by
    have all : (s.timers.dueBy instant ++ (s.timers.expire instant).ids).Nodup := by
      rw [s.timers.ids_expire instant]
      exact inStep.schedule.distinct
    exact (List.nodup_append.mp all).1.map (Option.some_injective _)
  rw [← awaiting_pending inStep (s.dueBy_owed instant)] at timers
  exact timers.of_map _

theorem mem_dueBy (inStep : s.InStep []) (ordered : s.timers.Ordered) {instant : Nat} :
    v ∈ s.dueBy instant ↔
      s.viewports.get? v.id = some v ∧ ∃ deadline ≤ instant, s.DueAt v.id deadline := by
  rw [dueBy, mem_awaiting inStep (s.dueBy_owed instant), Timers.dueBy,
    Timers.takeWhile_of_sorted ordered.sorted]
  simp only [List.mem_map, List.mem_filter, decide_eq_true_eq]
  constructor
  · intro shown
    rcases shown with ⟨found, timer, ⟨entry, ⟨queued, due⟩, rfl⟩, pends⟩
    exact ⟨found, entry.2, due, v, entry.1, found, pends, queued⟩
  · intro shown
    rcases shown with ⟨found, deadline, due, w, timer, there, pends, queued⟩
    rw [found] at there
    cases there
    exact ⟨found, timer, ⟨(timer, deadline), ⟨queued, due⟩, rfl⟩, pends⟩

theorem due_of_damaged (inStep : s.InStep []) (found : s.viewports.get? v.id = some v) :
    v.damage.isEmpty = false ↔ ∃ deadline, s.DueAt v.id deadline := by
  have waits := (inStep.tidy v.id v found).waits
  constructor
  · intro damaged
    rw [damaged] at waits
    rcases Option.isSome_iff_exists.mp waits with ⟨timer, pends⟩
    have active := (inStep.active timer).mpr ⟨v.id, v, found, pends⟩
    rcases s.timers.isActive_iff.mp active with ⟨entry, queued, rfl⟩
    exact ⟨entry.2, v, entry.1, found, pends, queued⟩
  · intro due
    rcases due with ⟨deadline, w, timer, there, pends, queued⟩
    rw [found] at there
    cases there
    rw [pends] at waits
    simpa using waits.symm

theorem mem_dueBy_of_late (inStep : s.InStep []) (ordered : s.timers.Ordered) {instant : Nat}
    (late : ∀ id deadline, s.DueAt id deadline → deadline ≤ instant) :
    v ∈ s.dueBy instant ↔ s.viewports.get? v.id = some v ∧ v.damage.isEmpty = false := by
  rw [mem_dueBy inStep ordered]
  apply and_congr_right
  intro found
  rw [due_of_damaged inStep found]
  exact ⟨fun ⟨deadline, _, due⟩ => ⟨deadline, due⟩,
    fun ⟨deadline, due⟩ => ⟨deadline, late v.id deadline due, due⟩⟩

theorem cleared_of_clean (inStep : s.InStep []) (found : s.viewports.get? v.id = some v)
    (clean : v.damage.isEmpty = true) : v.cleared = v := by
  have same := get?_painted_self found
  rw [painted_of_clean inStep found clean, found] at same
  exact (Option.some.inj same).symm

theorem settled_of_dirty {start : Screen} (inStep : s.InStep [])
    (viewports : start.viewports = s.viewports) (desktop : start.desktop = s.desktop)
    (found : ∀ v ∈ vs, s.viewports.get? v.id = some v) (once : vs.Nodup)
    (all : ∀ v, s.viewports.get? v.id = some v → v.damage.isEmpty = false → v ∈ vs)
    (after : (vs.foldl painted start).InStep []) : s.Settled (vs.foldl painted start) := by
  have distinct := distinct_of_found found once
  have shown : ∀ id, (vs.foldl painted start).viewports.get? id =
      (s.viewports.get? id).map Viewport.cleared := by
    intro id
    by_cases painting : ∃ v ∈ vs, v.id = id
    · rcases painting with ⟨v, member, rfl⟩
      rw [get?_paintedAll (by rw [viewports]; exact found) distinct member, found v member,
        Option.map_some]
    · have apart : ∀ v ∈ vs, v.id ≠ id := fun v member same => painting ⟨v, member, same⟩
      rw [get?_paintedAll_other start apart, viewports]
      cases there : s.viewports.get? id with
      | none => rfl
      | some v =>
          have own := inStep.named id v there
          subst own
          have clean : v.damage.isEmpty = true := by
            cases damaged : v.damage.isEmpty with
            | true => rfl
            | false => exact absurd rfl (apart v (all v there damaged))
          rw [Option.map_some, cleared_of_clean inStep there clean]
  have idle : ∀ id timer, waiting (vs.foldl painted start).viewports id ≠ some timer := by
    intro id timer waits
    rcases waiting_eq_some.mp waits with ⟨v, there, pends⟩
    rw [shown] at there
    rcases Option.map_eq_some_iff.mp there with ⟨w, _, rfl⟩
    cases pends
  refine ⟨(paintedAll_frame start vs).2.2.trans desktop, shown, ?_, ?_⟩
  · have none : (vs.foldl painted start).timers.ids = [] := by
      apply List.eq_nil_iff_forall_not_mem.mpr
      intro timer member
      rcases (after.schedule.awaited timer).mp member with ⟨id, waits⟩
      exact idle id timer waits
    exact List.map_eq_nil_iff.mp none
  · apply Table.entries_eq_nil
    intro timer
    cases listed : (vs.foldl painted start).pending.get? timer with
    | none => rfl
    | some id => exact absurd ((after.schedule.owner timer id).mp listed) (idle id timer)

variable [Output.Isolated δ]

theorem KeptApart.pairwise (apart : s.KeptApart stage)
    (found : ∀ v ∈ vs, s.viewports.get? v.id = some v) (once : vs.Nodup) :
    vs.Pairwise (·.output ≠ ·.output) := by
  apply once.pairwise_of_forall_ne
  intro v first w second different same
  have own := apart.outputs (found v first) (found w second) same
  have again := found w second
  rw [← own, found v first] at again
  exact different (Option.some.inj again)

/-- What firing the timers due by an instant comes to. The viewports that are due are painted, each
once and in order of deadline, and each as it would be if it were updated alone. Everything of every
other viewport is untouched: its damage, its timer, its output and the surfaces of that. -/
structure Firing (s : Screen) (stage : Stage δ) (instant : Nat) (after : Screen) (next : Stage δ)
    (reports : Reports) : Prop where
  due : ∀ id, id ∈ reports.map (·.1) ↔ ∃ deadline ≤ instant, s.DueAt id deadline
  once : (reports.map (·.1)).Nodup
  inOrder : reports.Pairwise fun first later =>
    ∀ x y, s.DueAt first.1 x → s.DueAt later.1 y → x ≤ y
  redrawn : ∀ id report, (id, report) ∈ reports → ∃ v timers alone,
    s.viewports.get? id = some v ∧ after.viewports.get? id = some v.cleared ∧
      v.update s.root s.studio s.timers stage = .ok (v.cleared, timers, alone, report) ∧
      next.outputs.get? v.output = alone.outputs.get? v.output ∧
      ∀ surface, stage.Owned v.output surface →
        next.surfaces.get? surface = alone.surfaces.get? surface
  untouched : ∀ id v, s.viewports.get? id = some v → id ∉ reports.map (·.1) →
    after.viewports.get? id = some v ∧
      next.outputs.get? v.output = stage.outputs.get? v.output ∧
      ∀ surface, stage.Owned v.output surface →
        next.surfaces.get? surface = stage.surfaces.get? surface
  timers : after.timers = s.timers.expire instant
  desktop : after.desktop = s.desktop

theorem dueBy_inOrder (inStep : s.InStep []) (ordered : s.timers.Ordered) (instant : Nat) :
    (s.dueBy instant).Pairwise fun v w =>
      ∀ x y, s.DueAt v.id x → s.DueAt w.id y → x ≤ y := by
  have found : ∀ v ∈ s.dueBy instant, s.viewports.get? v.id = some v :=
    fun v member => ((mem_dueBy inStep ordered).mp member).1
  have waits : ((s.dueBy instant).map (·.pending)).Pairwise s.timers.InTime := by
    rw [dueBy, awaiting_pending inStep (s.dueBy_owed instant)]
    exact Timers.dueBy_inTime ordered instant
  apply (List.pairwise_map.mp waits).imp_of_mem
  intro v w first later inTime x y due dueLater
  rcases due with ⟨v', t, here, pends, queued⟩
  rcases dueLater with ⟨w', u, there, pends', queued'⟩
  rw [found v first] at here
  rw [found w later] at there
  cases here
  cases there
  exact inTime t u x y pends pends' queued queued'

theorem dueBy_stopped (inStep : s.InStep []) (instant : Nat) (member : v ∈ s.dueBy instant) :
    ∀ timer ∈ v.pending, ¬ (s.timers.expire instant).isActive timer := by
  intro timer pends
  rcases ((mem_awaiting inStep (s.dueBy_owed instant)).mp member).2 with ⟨other, due, pends'⟩
  rw [Option.mem_def, pends'] at pends
  cases pends
  have apart : (s.timers.dueBy instant ++ (s.timers.expire instant).ids).Nodup := by
    rw [s.timers.ids_expire instant]
    exact inStep.schedule.distinct
  rw [← Timers.mem_ids]
  intro active
  exact (List.nodup_append.mp apart).2.2 _ due _ active rfl

theorem firing (inStep : s.InStep []) (ordered : s.timers.Ordered) (apart : s.KeptApart stage)
    (instant : Nat) : ∃ after next reports,
      s.processTimers stage instant = .ok (after, next, reports) ∧
        s.Firing stage instant after next reports := by
  have found : ∀ v ∈ s.dueBy instant, s.viewports.get? v.id = some v :=
    fun v member => ((mem_dueBy inStep ordered).mp member).1
  have once := dueBy_once inStep instant
  have distinct := distinct_of_found found once
  rcases paintAll s.root s.studio apart.unshared (s.dueBy instant) (apart.pairwise found once) []
    with ⟨painted, reported⟩
  refine ⟨_, _, _, processTimers_eq inStep stage instant, ?_⟩
  rw [reported, List.nil_append]
  have ids : ((s.dueBy instant).map fun v => (v.id, (v.repaintAll s.root s.studio stage).2)).map
      (·.1) = (s.dueBy instant).map (·.id) := by
    rw [List.map_map]
    rfl
  constructor
  · intro id
    rw [ids, List.mem_map]
    constructor
    · intro listed
      rcases listed with ⟨v, member, rfl⟩
      exact ((mem_dueBy inStep ordered).mp member).2
    · intro due
      rcases due with ⟨deadline, early, v, timer, there, pends, queued⟩
      have own := inStep.named id v there
      subst own
      exact ⟨v, (mem_dueBy inStep ordered).mpr
        ⟨there, deadline, early, v, timer, there, pends, queued⟩, rfl⟩
  · rw [ids]
    exact distinct
  · rw [List.pairwise_map]
    exact dueBy_inOrder inStep ordered instant
  · intro id report listed
    rcases List.mem_map.mp listed with ⟨v, member, same⟩
    cases same
    exact ⟨v, _, _, found v member, get?_paintedAll found distinct member,
      v.update_eq s.root s.studio s.timers stage, painted.outputs v member,
      painted.surfaces v member⟩
  · intro id v there unpainted
    rw [ids] at unpainted
    have others : ∀ w ∈ s.dueBy instant, w.id ≠ id :=
      fun w member same => unpainted (List.mem_map.mpr ⟨w, member, same⟩)
    refine ⟨?_, ?_, ?_⟩
    · rw [get?_paintedAll_other _ others]
      exact there
    · apply painted.otherOutputs
      exact fun w member same => others w member (apart.outputs (found w member) there same)
    · intro surface owned
      apply painted.otherSurfaces
      intro w member also
      have same := apart.unshared.outputs also owned
      exact others w member (apart.outputs (found w member) there same)
  · exact paintedAll_timers _ fun v member => dueBy_stopped inStep instant member
  · exact (paintedAll_frame _ _).2.2

/-- Whatever has been asked of a screen, as long as its viewports have outputs of their own: to
flush it is to fire its timers at an instant by which all are due. Neither can fail, both give the
same reports and leave the same outputs and surfaces behind, with every viewport where it was and
nothing left to paint or to wait for. Timers that are fired at any other instant paint just the
viewports that are due by then. -/
theorem flush_agrees_with_timers (config : Config) (root : Tree) (start : Stage δ)
    (operations : List (Operation δ))
    (apart : KeptApart (performAll (create config root, start) operations).1
      (performAll (create config root, start) operations).2) :
    let s := (performAll (create config root, start) operations).1
    let stage := (performAll (create config root, start) operations).2
    (∀ instant, (∀ id deadline, s.DueAt id deadline → deadline ≤ instant) →
      ∃ flushed shown reports fired shown' reports',
        s.flush stage = .ok (flushed, shown, reports) ∧
          s.processTimers stage instant = .ok (fired, shown', reports') ∧
          reports.Perm reports' ∧ shown.outputs.get? = shown'.outputs.get? ∧
          shown.surfaces.get? = shown'.surfaces.get? ∧ s.Settled flushed ∧ s.Settled fired) ∧
      ∀ instant, ∃ after next reports,
        s.processTimers stage instant = .ok (after, next, reports) ∧
          s.Firing stage instant after next reports := by
  intro s stage
  have inStep : s.InStep [] := performAll_inStep (.create config root) start operations
  have ordered : s.timers.Ordered :=
    performAll_ordered (.create config root) ⟨.nil, List.nodup_nil, by simp [create]⟩ start
      operations
  refine ⟨?_, firing inStep ordered apart⟩
  intro instant late
  have dirty : ∀ v, v ∈ s.dirty s.viewports.keys ↔
      s.viewports.get? v.id = some v ∧ v.damage.isEmpty = false := fun v => mem_dirty inStep
  have due : ∀ v, v ∈ s.dueBy instant ↔
      s.viewports.get? v.id = some v ∧ v.damage.isEmpty = false :=
    fun v => mem_dueBy_of_late inStep ordered late
  have same : ∀ v, v ∈ s.dirty s.viewports.keys ↔ v ∈ s.dueBy instant :=
    fun v => (dirty v).trans (due v).symm
  have dirtyOnce := dirty_once inStep
  have dueOnce := dueBy_once inStep instant
  have dirtyFound := fun v member => ((dirty v).mp member).1
  have dueFound := fun v member => ((due v).mp member).1
  rcases paintAll s.root s.studio apart.unshared _ (apart.pairwise dirtyFound dirtyOnce) [] with
    ⟨flushed, reported⟩
  rcases paintAll s.root s.studio apart.unshared _ (apart.pairwise dueFound dueOnce) [] with
    ⟨fired, reported'⟩
  have agree := flushed.agree fired same
  refine ⟨_, _, _, _, _, _, flush_eq inStep stage, processTimers_eq inStep stage instant, ?_,
    agree.1, agree.2, ?_, ?_⟩
  · rw [reported, reported', List.nil_append, List.nil_append]
    exact ((List.perm_ext_iff_of_nodup dirtyOnce dueOnce).mpr same).map _
  · rcases flush_turns inStep stage with ⟨last, done, after, _⟩
    rw [flush_eq inStep] at done
    cases done
    exact settled_of_dirty inStep rfl rfl dirtyFound dirtyOnce
      (fun v found damaged => (dirty v).mpr ⟨found, damaged⟩) after
  · rcases processTimers_turns inStep stage instant with ⟨last, done, after, _⟩
    rw [processTimers_eq inStep] at done
    cases done
    exact settled_of_dirty inStep rfl rfl dueFound dueOnce
      (fun v found damaged => (due v).mpr ⟨found, damaged⟩) after

end Agreement

/-- Framebuffers that start out each on a surface of its own are kept apart by showing each of them
in one viewport at most. -/
theorem keptApart_of_furnished (config : Config) (root : Tree) {start : Stage Framebuffer}
    (furnished : start.Furnished {}) {operations : List (Operation Framebuffer)}
    (furnishes : ∀ operation ∈ operations, operation.Furnishes)
    (outputs : ∀ {id other v w},
      (performAll (create config root, start) operations).1.viewports.get? id = some v →
        (performAll (create config root, start) operations).1.viewports.get? other = some w →
          v.output = w.output → id = other) :
    KeptApart (performAll (create config root, start) operations).1
      (performAll (create config root, start) operations).2 :=
  ⟨outputs, (performAll_furnished (.create config root) furnished furnishes).unshared⟩

section Small

def pairStage : Stage Framebuffer where
  surfaces := ⟨[some (.blank .argb32 2 2), some (.blank .argb32 2 2)]⟩
  outputs := ⟨[some { surface := ⟨0⟩, resolutions := [⟨2, 2⟩] },
    some { surface := ⟨1⟩, resolutions := [⟨2, 2⟩] }]⟩

theorem pairStage_furnished : pairStage.Furnished {} := by
  have first := Stage.Furnished.empty.addFramebuffer ⟨⟨2, 2⟩, .argb32, []⟩ rfl
  exact first.addFramebuffer ⟨⟨2, 2⟩, .argb32, []⟩ rfl

/-- A viewport on each of them, the second a tick later than the first, and a buffer of one pixel
that is made in between. -/
def pairOperations : List (Operation Framebuffer) :=
  [.attach ⟨0⟩, .advance 1,
    .replace { buffers := ⟨[some { format := .argb32, surface := ⟨2⟩, size := ⟨1, 1⟩ }]⟩ }
      { pairStage with surfaces := pairStage.surfaces.add (.blank .argb32 1 1) },
    .attach ⟨1⟩]

theorem pairOperations_furnish : ∀ operation ∈ pairOperations, operation.Furnishes := by
  have made : Studio.create {} pairStage.surfaces .argb32 ⟨1, 1⟩ = .ok (_, _, _) := rfl
  intro operation member
  simp only [pairOperations, List.mem_cons, List.not_mem_nil, or_false] at member
  rcases member with rfl | rfl | rfl | rfl
  · trivial
  · trivial
  · exact pairStage_furnished.createBuffer made
  · trivial

def pairScene : Scene Framebuffer :=
  performAll (create { delay := 1 } fun _ _ => Viewport.smallProgram, pairStage) pairOperations

theorem pairScene_apart : pairScene.1.KeptApart pairScene.2 := by
  have outputs : pairScene.1.viewports.toList.map (fun entry => (entry.1, entry.2.output)) =
      [(⟨0⟩, ⟨0⟩), (⟨1⟩, ⟨1⟩)] := by decide
  have listed : ∀ {key v}, pairScene.1.viewports.get? key = some v →
      (key, v.output) ∈ [((⟨0⟩ : ViewportId), (⟨0⟩ : OutputId)), (⟨1⟩, ⟨1⟩)] := by
    intro key v found
    rw [← outputs]
    exact List.mem_map.mpr ⟨(key, v), pairScene.1.viewports.mem_toList.mpr found, rfl⟩
  apply keptApart_of_furnished _ _ pairStage_furnished pairOperations_furnish
  intro id other v w found there same
  have first := listed found
  have second := listed there
  simp only [List.mem_cons, Prod.mk.injEq, List.not_mem_nil, or_false] at first second
  grind

theorem flush_agrees_with_timers_on_two_outputs :
    (∃ flushed shown reports fired shown' reports',
      pairScene.1.flush pairScene.2 = .ok (flushed, shown, reports) ∧
        pairScene.1.processTimers pairScene.2 2 = .ok (fired, shown', reports') ∧
        reports.Perm reports' ∧ shown.surfaces.get? = shown'.surfaces.get?) ∧
      ∃ after next reports,
        pairScene.1.processTimers pairScene.2 1 = .ok (after, next, reports) ∧
          ⟨0⟩ ∈ reports.map (·.1) ∧ ⟨1⟩ ∉ reports.map (·.1) := by
  rcases flush_agrees_with_timers { delay := 1 } (fun _ _ => Viewport.smallProgram) pairStage
      pairOperations pairScene_apart with ⟨whole, part⟩
  have queue : pairScene.1.timers.queue = [(⟨0⟩, 1), (⟨1⟩, 2)] := by decide
  have late : ∀ id deadline, pairScene.1.DueAt id deadline → deadline ≤ 2 := by
    intro id deadline due
    rcases due with ⟨v, timer, _, _, queued⟩
    rw [queue] at queued
    simp only [List.mem_cons, Prod.mk.injEq, List.not_mem_nil, or_false] at queued
    omega
  have soon : ∃ deadline ≤ 1, pairScene.1.DueAt ⟨0⟩ deadline :=
    ⟨1, Nat.le_refl 1, _, ⟨0⟩, rfl, rfl, by rw [queue]; decide⟩
  have later : ¬ ∃ deadline ≤ 1, pairScene.1.DueAt ⟨1⟩ deadline := by
    intro due
    rcases due with ⟨deadline, early, v, timer, found, pends, queued⟩
    have waits : (pairScene.1.viewports.get? ⟨1⟩).bind (·.pending) = some ⟨1⟩ := by decide
    rw [found, Option.bind_some, pends] at waits
    cases waits
    simp only [queue, List.mem_cons, Prod.mk.injEq, Key.mk.injEq, List.not_mem_nil, or_false]
      at queued
    omega
  constructor
  · rcases whole 2 late with ⟨flushed, shown, reports, fired, shown', reports', flushes, fires,
      same, _, surfaces, _⟩
    exact ⟨flushed, shown, reports, fired, shown', reports', flushes, fires, same, surfaces⟩
  · rcases part 1 with ⟨after, next, reports, fires, firing⟩
    exact ⟨after, next, reports, fires, (firing.due ⟨0⟩).mpr soon,
      fun listed => later ((firing.due ⟨1⟩).mp listed)⟩

end Small

end Screen

end Compositing
