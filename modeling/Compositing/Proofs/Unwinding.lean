import Compositing.Proofs.Accounts
import Compositing.Proofs.Nesting
import Compositing.Proofs.Protocol

/-! Widget trees that leave too little or too much. When a tree has drawn, the regions that are
still entered are left one by one, down to those that the renderer came with. None of these leaves
can fail, and what the tree did is reported just if it ended at another depth than it began. -/

namespace Compositing

namespace Renderer

def leaveTimes (r : Renderer) : Nat → Except Fault Renderer
  | 0 => .ok r
  | times + 1 => r.leave.bind fun left => left.leaveTimes times

theorem leaveTimes_eq {r : Renderer} {times : Nat} (deep : r.baseline + times ≤ r.depth) :
    r.leaveTimes times = .ok { r with regions := r.regions.drop times } := by
  induction times generalizing r with
  | zero => rfl
  | succ times ih =>
      have left : r.leave = .ok { r with regions := r.regions.tail } := by
        rw [leave, if_neg (by omega)]
      have shallower : r.baseline + times ≤ r.regions.tail.length := by
        rw [List.length_tail]
        exact Nat.le_sub_one_of_lt deep
      rw [leaveTimes, left, Except.bind, ih shallower, List.drop_tail]

theorem leaveTimes_unwind (r : Renderer) {depth : Nat} (above : r.baseline < depth) :
    r.leaveTimes (r.depth + 1 - depth) = .ok (r.unwind depth) := by
  fun_induction unwind r depth with
  | case1 r reaches left leaving lower ih =>
      have same : left.baseline = r.baseline := by
        rw [leave] at leaving
        split at leaving
        · cases leaving
        · cases leaving
          rfl
      have once_more : r.depth + 1 - depth = (left.depth + 1 - depth) + 1 := by omega
      rw [once_more, leaveTimes, leaving]
      exact ih (same ▸ above)
  | case2 r reaches fault leaving =>
      rw [leave, if_neg (by omega)] at leaving
      cases leaving
  | case3 r short =>
      have none_to_leave : r.depth + 1 - depth = 0 := by omega
      rw [none_to_leave]
      rfl

/-- Unwinding from wherever a tree has ended leads back to the baseline. -/
theorem unwind_to_baseline {r : Renderer} (grounded : r.baseline ≤ r.depth) :
    r.unwind (r.baseline + 1) = { r with regions := r.regions.drop (r.depth - r.baseline) } := by
  have leaves := r.leaveTimes_unwind (Nat.lt_succ_self r.baseline)
  rw [Nat.add_sub_add_right, leaveTimes_eq (by omega)] at leaves
  exact (Except.ok.inj leaves).symm

theorem depth_unwind {r : Renderer} (grounded : r.baseline ≤ r.depth) :
    (r.unwind (r.baseline + 1)).depth = r.baseline := by
  rw [unwind_to_baseline grounded, depth, List.length_drop]
  exact Nat.sub_sub_self grounded

section Log

variable {r : Renderer} (active : r.phase = .active)

include active

theorem dispatch_log (area : Rect) (count : Tally) (call : Rect → Call) :
    (r.dispatch area count call).log = r.log := by
  rw [dispatch, active, if_neg Phase.noConfusion]
  dsimp only
  split <;> rfl

theorem log_obey {command : Command} (unended : command.ends = false) :
    (r.obey command).log = r.log ++ (r.fault? command).toList.flatMap Fault.log := by
  cases command with
  | enter area offset =>
      rw [obey]
      cases entering : r.enter? area offset with
      | none => exact (List.append_nil _).symm
      | some entered =>
          rcases enter?_frame entering with ⟨inner, same⟩
          rw [Option.getD_some, same]
          exact (List.append_nil _).symm
  | leave =>
      rw [obey, fault?]
      by_cases deep : r.baseline < r.depth
      · rw [leaveOrReport_eq deep]
        exact (List.append_nil _).symm
      · rw [leaveOrReport_of_matched (Nat.le_of_not_lt deep)]
        rfl
  | blit operator buffer corner =>
      rw [obey, blit, dispatch_log active]
      exact (List.append_nil _).symm
  | fill color area =>
      rw [obey, fill, dispatch_log active]
      exact (List.append_nil _).symm
  | setOption key value => cases value <;> exact (List.append_nil _).symm
  | complete => cases unended

theorem log_obeyAll {commands : List Command}
    (unended : ∀ command ∈ commands, command.ends = false) :
    (r.obeyAll commands).log = r.log ++ (r.faults commands).flatMap Fault.log := by
  induction commands generalizing r with
  | nil => exact (List.append_nil _).symm
  | cons command rest ih =>
      rcases List.forall_mem_cons.mp unended with ⟨first, others⟩
      have still : (r.obey command).phase = .active := by
        rw [phase_obey, first, if_neg Bool.false_ne_true]
        exact active
      calc (r.obeyAll (command :: rest)).log
          = (r.obey command).log ++ ((r.obey command).faults rest).flatMap Fault.log :=
            ih still others
        _ = r.log ++ ((r.fault? command).toList.flatMap Fault.log ++
              ((r.obey command).faults rest).flatMap Fault.log) := by
            rw [log_obey active first, List.append_assoc]
        _ = r.log ++ (r.faults (command :: rest)).flatMap Fault.log := by
            rw [faults, List.flatMap_append]

end Log

theorem unmatched_of_mem_faults {r : Renderer} {commands : List Command} {fault : Fault}
    (raised : fault ∈ r.faults commands) : ∃ depth, fault = .unmatchedLeave depth := by
  induction commands generalizing r with
  | nil => cases raised
  | cons command rest ih =>
      rcases List.mem_append.mp raised with now | later
      · rw [Option.mem_toList] at now
        cases command with
        | leave =>
            by_cases deep : r.baseline < r.depth
            · rw [fault?, leaveOrReport_eq deep] at now
              cases now
            · rw [fault?, leaveOrReport_of_matched (Nat.le_of_not_lt deep)] at now
              cases now
              exact ⟨_, rfl⟩
        | _ => cases now
      · exact ih later

/-- What the commands of a tree report is about leaves of its own. -/
theorem message_of_faults {r : Renderer} {commands : List Command} {entry : Log.Entry}
    (reported : entry ∈ (r.faults commands).flatMap Fault.log) :
    entry.message = "unmatched renderer leave" := by
  rcases List.mem_flatMap.mp reported with ⟨fault, raised, listed⟩
  rcases unmatched_of_mem_faults raised with ⟨depth, rfl⟩
  rw [List.mem_singleton.mp listed]

structure Ongoing (before after : Renderer) : Prop where
  active : after.phase = .active
  baseline : after.baseline = before.baseline
  grounded : after.baseline ≤ after.depth
  log : ∃ misuse, after.log = before.log ++ misuse ∧
    ∀ entry ∈ misuse, entry.message = "unmatched renderer leave"

theorem obeyAll_ongoing {r : Renderer} (active : r.phase = .active)
    (grounded : r.baseline ≤ r.depth) {commands : List Command}
    (unended : ∀ command ∈ commands, command.ends = false) :
    Ongoing r (r.obeyAll commands) where
  active := by
    have none_ends : commands.any Command.ends = false := by simpa using unended
    rw [phase_obeyAll, none_ends, if_neg Bool.false_ne_true]
    exact active
  baseline := r.baseline_obeyAll commands
  grounded := grounded_obeyAll grounded commands
  log := ⟨_, log_obeyAll active unended, fun _ => message_of_faults⟩

theorem log_complete {r : Renderer} (active : r.phase = .active) (level : r.depth = r.baseline) :
    r.complete.log = r.log := by
  rw [complete, active]
  dsimp only
  rw [if_pos level, List.append_nil]

end Renderer

namespace Viewport

variable (v : Viewport) (tree : Tree) (studio : Studio)

def Unbalances (area : Rect) (given : Renderer) : Prop :=
  ∃ entered, given.enter? area (-v.bounds.corner) = some entered ∧
    (Step.runAll studio entered (tree entered studio)).1.depth ≠ entered.depth

def Continues (area : Rect) (given : Renderer) : Prop :=
  ∀ entered, given.enter? area (-v.bounds.corner) = some entered →
    ∀ command ∈ Step.allCommands studio entered (tree entered studio), command.ends = false

def imbalance (expected actual : Nat) : List Log.Entry :=
  if actual = expected then [] else
    [⟨.warn, .viewport, "render tree left regions unbalanced",
      [("expected", toString expected), ("actual", toString actual)]⟩]

/-- A visit leads a renderer back to its baseline by leaves of which none fails, and reports, apart
from the leaves that failed the tree, whether the tree ended where it began. -/
structure Repaired (area : Rect) (given visited : Renderer) : Prop where
  active : visited.phase = .active
  level : visited.depth = visited.baseline
  leaves : ∀ entered, given.enter? area (-v.bounds.corner) = some entered →
    let drawn := (Step.runAll studio entered (tree entered studio)).1
    ∃ times, (drawn.report (imbalance entered.depth drawn.depth)).leaveTimes times = .ok visited ∧
      visited.depth < entered.depth
  log : ∃ news, visited.complete.log = given.log ++ news ∧
    (∀ entry ∈ news, entry.message ≠ "renderer completed with regions still entered") ∧
    ((∃ entry ∈ news, entry.message = "render tree left regions unbalanced") ↔
      v.Unbalances tree studio area given)

theorem visit_of_entered {area : Rect} {given entered : Renderer}
    (entering : given.enter? area (-v.bounds.corner) = some entered) :
    (v.visit tree studio given area).1 =
      ((Step.runAll studio entered (tree entered studio)).1.report
        (imbalance entered.depth (Step.runAll studio entered (tree entered studio)).1.depth)).unwind
          entered.depth := by
  rw [visit, entering]
  rfl

theorem mem_imbalance {expected actual : Nat} {entry : Log.Entry} :
    entry ∈ imbalance expected actual → entry.message = "render tree left regions unbalanced" := by
  rw [imbalance]
  split
  · exact fun reported => absurd reported List.not_mem_nil
  · intro reported
    rw [List.mem_singleton.mp reported]

section News

variable {misuse : List Log.Entry}
  (messages : ∀ entry ∈ misuse, entry.message = "unmatched renderer leave") (expected actual : Nat)

include messages

theorem news_settled :
    ∀ entry ∈ misuse ++ imbalance expected actual,
      entry.message ≠ "renderer completed with regions still entered" := by
  intro entry reported
  rcases List.mem_append.mp reported with misused | unbalanced
  · rw [messages entry misused]
    decide
  · rw [mem_imbalance unbalanced]
    decide

theorem news_unbalanced_iff :
    (∃ entry ∈ misuse ++ imbalance expected actual,
      entry.message = "render tree left regions unbalanced") ↔ actual ≠ expected := by
  constructor
  · rintro ⟨entry, reported, message⟩ same
    rw [imbalance, if_pos same, List.append_nil] at reported
    rw [messages entry reported] at message
    exact absurd message (by decide)
  · intro apart
    rw [imbalance, if_neg apart]
    exact ⟨_, List.mem_append_right misuse (List.mem_singleton_self _), rfl⟩

end News

section Visit

variable {tree studio} {area : Rect} {given : Renderer} (active : given.phase = .active)
  (level : given.depth = given.baseline) (continues : v.Continues tree studio area given)

include active level continues

theorem visit_repairs_of_entered {entered : Renderer}
    (entering : given.enter? area (-v.bounds.corner) = some entered) :
    v.Repaired tree studio area given (v.visit tree studio given area).1 := by
  rcases Renderer.enter?_frame entering with ⟨inner, made⟩
  have still : entered.phase = .active := by
    rw [made]
    exact active
  have floor : entered.depth = entered.baseline + 1 := by
    rw [made]
    exact congrArg Nat.succ level
  have drew := Renderer.obeyAll_ongoing still (floor.symm ▸ Nat.le_succ _)
    (continues entered entering)
  rw [← Step.runAll_obeys] at drew
  let drawn := (Step.runAll studio entered (tree entered studio)).1
  let reported := drawn.report (imbalance entered.depth drawn.depth)
  have baseline : reported.baseline = entered.baseline := drew.baseline
  have visited : (v.visit tree studio given area).1 = reported.unwind (reported.baseline + 1) := by
    rw [baseline, ← floor]
    exact v.visit_of_entered tree studio entering
  have unwound := Renderer.unwind_to_baseline (r := reported) drew.grounded
  have lands := Renderer.depth_unwind (r := reported) drew.grounded
  rw [visited]
  have ends_active : (reported.unwind (reported.baseline + 1)).phase = .active := by
    rw [unwound]
    exact drew.active
  have ends_level : (reported.unwind (reported.baseline + 1)).depth =
      (reported.unwind (reported.baseline + 1)).baseline := by
    rw [lands, unwound]
  refine ⟨ends_active, ends_level, ?_, ?_⟩
  · intro again opened
    rw [entering] at opened
    cases opened
    refine ⟨_, reported.leaveTimes_unwind (Nat.lt_succ_self _), ?_⟩
    rw [lands, floor, baseline]
    exact Nat.lt_succ_self _
  · rcases drew.log with ⟨misuse, log, messages⟩
    refine ⟨misuse ++ imbalance entered.depth drawn.depth, ?_, news_settled messages _ _, ?_⟩
    · have same : given.log = entered.log := by rw [made]
      rw [Renderer.log_complete ends_active ends_level, unwound, same, ← List.append_assoc, ← log]
      rfl
    · rw [news_unbalanced_iff messages, Unbalances]
      simp only [entering, Option.some.injEq, exists_eq_left']
      exact Iff.rfl

theorem visit_repairs : v.Repaired tree studio area given (v.visit tree studio given area).1 := by
  cases entering : given.enter? area (-v.bounds.corner) with
  | some entered => exact v.visit_repairs_of_entered active level continues entering
  | none =>
      have unvisited : (v.visit tree studio given area).1 = given := by rw [visit, entering]
      rw [unvisited]
      refine ⟨active, level, ?_, [], ?_, ?_, ?_⟩
      · intro entered opened
        rw [entering] at opened
        cases opened
      · rw [Renderer.log_complete active level, List.append_nil]
      · simp
      · simp [Unbalances, entering]

end Visit

section Update

variable {δ : Type} [Output δ]

theorem performed_of_mem {output : Rect} {progress : Stage δ × Report} {rects : List Rect}
    {pass : Pass} (member : pass ∈ v.passes tree studio output progress rects)
    {given done : Renderer} (granted : pass.granted = some (given, done)) :
    ∃ before : Stage δ, (before.perform done).events <+:
      (rects.foldl (v.repaint tree studio output) progress).1.events := by
  induction rects generalizing progress with
  | nil => cases member
  | cons r rest ih =>
      rcases progress with ⟨stage, report⟩
      rw [List.foldl_cons]
      rcases List.mem_append.mp member with now | later
      · rcases Option.map_eq_some_iff.mp (Option.mem_toList.mp now) with ⟨area, device, rfl⟩
        rcases Option.map_eq_some_iff.mp granted with ⟨renderer, asked, same⟩
        cases same
        have request : stage.requestRenderer v.output area =
            ((stage.requestRenderer v.output area).1, some given) := Prod.ext rfl asked
        have painted : (v.repaint tree studio output (stage, report) r).1 =
            ((stage.requestRenderer v.output area).1.record
              (v.visit tree studio given area).2).perform
                (v.visit tree studio given area).1.complete :=
          congrArg Prod.fst (repaint_of_renderer device request)
        refine ⟨(stage.requestRenderer v.output area).1.record
          (v.visit tree studio given area).2, ?_⟩
        rw [← painted]
        exact (v.passes_marks tree studio output
          (v.repaint tree studio output (stage, report) r) rest).extends_events
      · exact ih later

/-- One redraw of a viewport, with a tree that may enter and leave as it likes. Whenever the output
hands over a renderer at its baseline, and the tree does not end the pass itself, the renderer is
led back to its baseline by leaves that do not fail; then the pass is ended and performed. So the
end is never reported to come too early, and the tree is reported just if it was let in and came out
at another depth. -/
theorem unbalanced_tree_repaired (timers : Timers) (stage : Stage δ) :
    ∃ idle rest after report,
      v.update tree studio timers stage = .ok (idle, rest, after, report) ∧
      ∀ pass ∈ v.allPasses tree studio stage, ∀ given done, pass.granted = some (given, done) →
        given.phase = .active → given.depth = given.baseline →
        v.Continues tree studio pass.area given →
        ∃ visited, v.Repaired tree studio pass.area given visited ∧ done = visited.complete ∧
          ∃ before : Stage δ, (before.perform done).events <+: after.events := by
  refine ⟨_, _, (v.repaintAll tree studio stage).1, (v.repaintAll tree studio stage).2,
    v.update_eq tree studio timers stage, ?_⟩
  intro pass member given done granted active level continues
  refine ⟨_, v.visit_repairs active level continues,
    v.granted_of_mem tree studio member granted, ?_⟩
  rcases v.performed_of_mem tree studio member granted with ⟨before, painted⟩
  refine ⟨before, painted.trans ?_⟩
  cases damaged : v.damage.isEmpty with
  | true =>
      have nothing : v.allPasses tree studio stage = [] := by
        rw [allPasses, Damage.eq_empty damaged, Damage.coalesce_empty]
        rfl
      rw [nothing] at member
      cases member
  | false =>
      rw [repaintAll, damaged, if_neg Bool.false_ne_true]
      exact (Marks.endUpdates _ v.output).extends_events

def leavingTwice : Tree := fun _ _ => [.leave, .leave]

theorem commands_leavingTwice (r : Renderer) :
    Step.allCommands studio r (leavingTwice r studio) = [.leave, .leave] := by
  simp [leavingTwice, Step.allCommands, Step.commands]

theorem unbalanced_tree_repaired_on_small_stage :
    ∃ idle rest after report,
      smallViewport.update leavingTwice {} {} smallStage = .ok (idle, rest, after, report) ∧
      ∃ entry, .logged entry ∈ after.events ∧
        entry.message = "render tree left regions unbalanced" := by
  rcases smallViewport.unbalanced_tree_repaired leavingTwice {} {} smallStage with
    ⟨idle, rest, after, report, updated, repaired⟩
  have rects : smallViewport.damage.coalesce.rects = [⟨0, 0, 2, 2⟩] := by
    simp [smallViewport, Damage.coalesce, Rect.separate, Rect.sweep, Rect.absorb, Rect.takeMeeting]
  let given : Renderer := .within (.surface ⟨0⟩) ⟨0, 0, 1, 2⟩ .origin
  let pass : Pass := ⟨⟨0, 0, 1, 2⟩, some (given,
    (smallViewport.visit leavingTwice {} given ⟨0, 0, 1, 2⟩).1.complete)⟩
  have passes : smallViewport.allPasses leavingTwice {} smallStage = [pass] := by
    rw [allPasses, rects]
    rfl
  rw [passes] at repaired
  have continues : smallViewport.Continues leavingTwice {} pass.area given := by
    intro entered _
    rw [commands_leavingTwice]
    simp [Renderer.Command.ends]
  rcases repaired pass (List.mem_singleton_self pass) given _ rfl rfl rfl continues with
    ⟨visited, back, done, before, performed⟩
  rcases back.log with ⟨news, log, _, unbalanced⟩
  have tips : smallViewport.Unbalances leavingTwice {} pass.area given := by
    have enters : (given.enter? ⟨0, 0, 1, 2⟩ (-smallViewport.bounds.corner)).isSome = true := by
      decide
    rcases Option.isSome_iff_exists.mp enters with ⟨entered, entering⟩
    rcases Renderer.enter?_frame entering with ⟨inner, rfl⟩
    refine ⟨_, entering, ?_⟩
    rw [Step.runAll_obeys, commands_leavingTwice]
    exact Nat.succ_ne_self 1 ∘ Eq.symm
  rcases unbalanced.mpr tips with ⟨entry, reported, message⟩
  refine ⟨idle, rest, after, report, updated, entry, ?_, message⟩
  apply performed.subset
  rw [Stage.perform_eq, done, log]
  simp [reported]

end Update

end Viewport

end Compositing
