import Mathlib.Data.List.Chain
import Compositing.Proofs.Dispatch
import Compositing.Render.Program

/-! Whatever a widget tree asks of its renderer, and in whatever order, what reaches the backend
lies within the clip of the moment, and that within the area for which the renderer was made. -/

namespace Compositing

namespace Renderer

/-- One request to a renderer. Whoever makes it may have looked at the renderer before. -/
inductive Command
  | enter (area : Rect) (offset : Point)
  | leave
  | blit (operator : Operator) (buffer : Buffer) (corner : Point)
  | fill (color : Color) (area : Rect)
  | setOption (key : String) (value : Option String)
  | complete

def obey (r : Renderer) : Command → Renderer
  | .enter area offset => (r.enter? area offset).getD r
  | .leave => r.leaveOrReport.1
  | .blit operator buffer corner => r.blit operator buffer corner
  | .fill color area => r.fill color area
  | .setOption key value => r.setOption key value
  | .complete => r.complete

def obeyAll (r : Renderer) (commands : List Command) : Renderer := commands.foldl obey r

theorem obeyAll_append (r : Renderer) (first second : List Command) :
    r.obeyAll (first ++ second) = (r.obeyAll first).obeyAll second := List.foldl_append

structure Inside (inner outer : Region) : Prop where
  shows : inner.clip.isEmpty = false
  encloses : outer.clip.Encloses inner.clip

theorem Inside.of_within {outer inner : Region} {area : Rect} {offset : Point}
    (opened : outer.within? area offset = some inner) : Inside inner outer := by
  obtain ⟨rfl, shows⟩ := Region.within?_some opened
  exact ⟨shows, Rect.encloses_overlap_right shows⟩

/-- The stack of a renderer that came with the region `bottom`. -/
structure Nested (bottom : Region) (r : Renderer) : Prop where
  baseline : r.baseline = 1
  bottom : r.regions.getLast? = some bottom
  chain : r.regions.IsChain Inside

theorem encloses_of_chain {bottom : Region} {regions : List Region}
    (last : regions.getLast? = some bottom) (chain : regions.IsChain Inside) :
    ∃ top, regions.head? = some top ∧ bottom.clip.Encloses top.clip := by
  induction regions with
  | nil => cases last
  | cons inner rest ih =>
      refine ⟨inner, rfl, ?_⟩
      cases rest with
      | nil =>
          cases last
          exact .refl _
      | cons outer rest =>
          obtain ⟨top, first, encloses⟩ := ih (by simpa using last) chain.tail
          cases first
          exact encloses.trans (List.isChain_cons_cons.mp chain).1.encloses

theorem nested_within (backend : Backend) (clip : Rect) (origin : Point) :
    Nested ⟨clip, origin⟩ (within backend clip origin) := ⟨rfl, rfl, .singleton _⟩

namespace Nested

variable {bottom : Region} {r : Renderer}

theorem current (nested : Nested bottom r) :
    ∃ top, r.region? = some top ∧ bottom.clip.Encloses top.clip :=
  encloses_of_chain nested.bottom nested.chain

theorem of_frame (nested : Nested bottom r) {after : Renderer}
    (baseline : after.baseline = r.baseline) (regions : after.regions = r.regions) :
    Nested bottom after where
  baseline := baseline.trans nested.baseline
  bottom := regions ▸ nested.bottom
  chain := regions ▸ nested.chain

theorem enter (nested : Nested bottom r) (area : Rect) (offset : Point) :
    Nested bottom ((r.enter? area offset).getD r) := by
  rcases nested.current with ⟨top, current, _⟩
  rw [enter?_of_region current]
  cases opened : top.within? area offset with
  | none => exact nested
  | some inner =>
      rcases List.head?_eq_some_iff.mp current with ⟨rest, regions⟩
      constructor
      · exact nested.baseline
      · change (inner :: r.regions).getLast? = some bottom
        rw [List.getLast?_cons, nested.bottom, Option.getD_some]
      · have chain := nested.chain
        change (inner :: r.regions).IsChain Inside
        rw [regions] at chain ⊢
        exact List.isChain_cons_cons.mpr ⟨.of_within opened, chain⟩

theorem leave (nested : Nested bottom r) : Nested bottom r.leaveOrReport.1 := by
  by_cases deep : r.baseline < r.depth
  · have several : r.regions.length ≠ 1 := by
      rw [nested.baseline] at deep
      exact Nat.ne_of_gt deep
    rw [leaveOrReport_of_deep deep]
    constructor
    · exact nested.baseline
    · change r.regions.tail.getLast? = some bottom
      rw [List.getLast?_tail, if_neg several, nested.bottom]
    · exact nested.chain.tail
  · rw [leaveOrReport_of_matched (Nat.le_of_not_lt deep)]
    exact nested.of_frame rfl rfl

theorem obey (nested : Nested bottom r) (command : Command) : Nested bottom (r.obey command) := by
  cases command with
  | enter area offset => exact nested.enter area offset
  | leave => exact nested.leave
  | blit operator buffer corner =>
      obtain ⟨tally, calls, log, same⟩ := r.blit_frame operator buffer corner
      rw [Renderer.obey, same]
      exact nested.of_frame rfl rfl
  | fill color area =>
      obtain ⟨tally, calls, log, same⟩ := r.fill_frame area color
      rw [Renderer.obey, same]
      exact nested.of_frame rfl rfl
  | setOption key value => cases value <;> exact nested.of_frame rfl rfl
  | complete =>
      simp only [Renderer.obey, Renderer.complete]
      split <;> exact nested.of_frame rfl rfl

theorem obeyAll (nested : Nested bottom r) (commands : List Command) :
    Nested bottom (r.obeyAll commands) := by
  induction commands generalizing r with
  | nil => exact nested
  | cons command rest ih => exact ih (nested.obey command)

end Nested

def footprint? : Call → Option Rect
  | .compose _ _ place visible => some (visible.placed place)
  | .fill _ area => some area
  | .complete => none

/-- What a command may send on while `clip` is the current clip. -/
def Command.Sends (clip : Rect) : Command → Call → Prop
  | .fill color _, .fill sent area => sent = color ∧ area.isEmpty = false ∧ clip.Encloses area
  | .blit operator buffer _, .compose sent source place visible =>
      sent = operator ∧ source = buffer.surface ∧ visible.isEmpty = false ∧
        (Rect.ofSize buffer.size).Encloses visible ∧
        (place.x + visible.x).toInt = place.x.toInt + visible.x.toInt ∧
        (place.y + visible.y).toInt = place.y.toInt + visible.y.toInt ∧
        clip.Encloses (visible.placed place)
  | .complete, .complete => True
  | _, _ => False

section Sends

variable {r : Renderer} {top : Region} (current : r.region? = some top)

include current

theorem fill_sends (color : Color) (area : Rect) :
    ∃ sent, (r.fill color area).calls = r.calls ++ sent ∧
      ∀ call ∈ sent, (Command.fill color area).Sends top.clip call := by
  have calls := fill_calls current color area
  split at calls
  · rename_i drawn
    refine ⟨_, calls, ?_⟩
    intro call member
    cases List.mem_singleton.mp member
    exact ⟨rfl, drawn.2, Rect.encloses_overlap_right drawn.2⟩
  · exact ⟨[], by simpa using calls, by simp⟩

theorem blit_sends (operator : Operator) (buffer : Buffer) (corner : Point) :
    ∃ sent, (r.blit operator buffer corner).calls = r.calls ++ sent ∧
      ∀ call ∈ sent, (Command.blit operator buffer corner).Sends top.clip call := by
  have calls := blit_calls current operator buffer corner
  split at calls
  · rename_i drawn
    refine ⟨_, calls, ?_⟩
    intro call member
    cases List.mem_singleton.mp member
    have placed := Rect.encloses_overlap_right drawn.2
    have inside := Rect.encloses_overlap_left drawn.2
    rw [← Rect.placed_partOf inside drawn.2] at placed
    exact ⟨rfl, rfl, drawn.2, Rect.ofSize_encloses_partOf drawn.2,
      Rect.toInt_placed_x inside drawn.2, Rect.toInt_placed_y inside drawn.2, placed⟩
  · exact ⟨[], by simpa using calls, by simp⟩

theorem obey_sends (command : Command) :
    ∃ sent, (r.obey command).calls = r.calls ++ sent ∧
      ∀ call ∈ sent, command.Sends top.clip call := by
  have silent (after : Renderer) (same : after.calls = r.calls) :
      ∃ sent, after.calls = r.calls ++ sent ∧ ∀ call ∈ sent, command.Sends top.clip call :=
    ⟨[], by rw [same, List.append_nil], by simp⟩
  cases command with
  | enter area offset =>
      apply silent
      rw [obey]
      cases entering : r.enter? area offset with
      | none => rfl
      | some entered =>
          obtain ⟨inner, same⟩ := enter?_frame entering
          rw [Option.getD_some, same]
  | leave =>
      apply silent
      obtain ⟨regions, log, same⟩ := r.leaveOrReport_frame
      rw [obey, same]
  | blit operator buffer corner => exact blit_sends current operator buffer corner
  | fill color area => exact fill_sends current color area
  | setOption key value => cases value <;> exact silent _ rfl
  | complete =>
      rw [obey, complete]
      split
      · exact silent _ rfl
      · refine ⟨[.complete], rfl, ?_⟩
        intro call member
        cases List.mem_singleton.mp member
        exact trivial

end Sends

theorem Command.Sends.footprint {clip : Rect} {command : Command} {call : Call}
    (sends : command.Sends clip call) :
    ∀ area ∈ footprint? call, area.isEmpty = false ∧ clip.Encloses area := by
  intro area drawn
  cases command <;> cases call <;> simp only [Sends] at sends
  case blit.compose =>
    cases drawn
    exact ⟨sends.2.2.1, sends.2.2.2.2.2.2⟩
  case fill.fill =>
    cases drawn
    exact sends.2
  case complete.complete => cases drawn

def Contained (clip : Rect) (r : Renderer) : Prop :=
  ∀ call ∈ r.calls, ∀ area ∈ footprint? call, area.isEmpty = false ∧ clip.Encloses area

theorem Contained.obeyAll {bottom : Region} {r : Renderer} (nested : Nested bottom r)
    (contained : Contained bottom.clip r) (commands : List Command) :
    Contained bottom.clip (r.obeyAll commands) := by
  induction commands generalizing r with
  | nil => exact contained
  | cons command rest ih =>
      apply ih (nested.obey command)
      obtain ⟨top, current, encloses⟩ := nested.current
      obtain ⟨sent, calls, sends⟩ := obey_sends current command
      intro call member area drawn
      rw [calls, List.mem_append] at member
      rcases member with before | now
      · exact contained call before area drawn
      · have inside := (sends call now).footprint area drawn
        exact ⟨inside.1, encloses.trans inside.2⟩

theorem contained_within (backend : Backend) (clip : Rect) (origin : Point)
    (commands : List Command) : Contained clip ((within backend clip origin).obeyAll commands) := by
  have nothing : Contained clip (within backend clip origin) := by
    intro call member
    cases member
  exact Contained.obeyAll (nested_within backend clip origin) nothing commands

/-- However a widget tree goes about it, the region that the renderer was made with stays at the
bottom, each region above it shows something and only within the one beneath, and whatever the
next command sends lies within the clip of the moment, as all that was sent before lies within the
area that the renderer was made for. -/
theorem commands_contained (backend : Backend) (clip : Rect) (origin : Point)
    (commands : List Command) :
    let r := (within backend clip origin).obeyAll commands
    r.regions.getLast? = some ⟨clip, origin⟩ ∧ r.baseline = 1 ∧
      (r.regions.IsChain fun inner outer =>
        inner.clip.isEmpty = false ∧ ∀ p, p ∈ inner.clip → p ∈ outer.clip) ∧
      (∀ call ∈ r.calls, ∀ area ∈ footprint? call, area.isEmpty = false ∧ clip.Encloses area) ∧
      ∃ top, r.region? = some top ∧ clip.Encloses top.clip ∧
        ∀ command, ∃ sent, (r.obey command).calls = r.calls ++ sent ∧
          ∀ call ∈ sent, command.Sends top.clip call := by
  intro r
  have nested := (nested_within backend clip origin).obeyAll commands
  have contained : Contained clip r := contained_within backend clip origin commands
  obtain ⟨top, current, encloses⟩ := nested.current
  refine ⟨nested.bottom, nested.baseline, ?_, contained, top, current, encloses, ?_⟩
  · apply nested.chain.imp
    intro inner outer inside
    exact ⟨inside.shows, fun p => inside.encloses.mem⟩
  · exact obey_sends current

end Renderer

namespace Step

open Renderer (Command)

section Commands

variable (studio : Studio)

def drawCommands (operator : Operator) (buffer : BufferId) (corner : Point) : List Command :=
  match studio.buffers.get? buffer with
  | some found => [.blit operator found corner]
  | none => []

mutual

def commands (r : Renderer) : Step → List Command
  | .enter area offset => [.enter area offset]
  | .leave => [.leave]
  | .render buffer corner => drawCommands studio .sourceOver buffer corner
  | .copy buffer corner => drawCommands studio .sourceOnly buffer corner
  | .fill color area => [.fill color area]
  | .setOption key value => [.setOption key value]
  | .complete => [.complete]
  | .option _ | .inspect | .describe => []
  | .within area offset body =>
      match r.enter? area offset with
      | none => [.enter area offset]
      | some entered => .enter area offset :: allCommands entered body ++ [.leave]

def allCommands (r : Renderer) : List Step → List Command
  | [] => []
  | step :: rest => commands r step ++ allCommands (run studio r step).1 rest

end

end Commands

theorem draw_obeys (studio : Studio) (r : Renderer) (operator : Operator) (buffer : BufferId)
    (corner : Point) :
    (draw studio r operator buffer corner).1 =
      r.obeyAll (drawCommands studio operator buffer corner) := by
  rw [draw, drawCommands]
  cases studio.buffers.get? buffer <;> rfl

mutual

/-- What a tree does to its renderer is to give it these commands. -/
theorem run_obeys (studio : Studio) (r : Renderer) (step : Step) :
    (run studio r step).1 = r.obeyAll (commands studio r step) := by
  cases step with
  | render buffer corner => exact draw_obeys studio r .sourceOver buffer corner
  | copy buffer corner => exact draw_obeys studio r .sourceOnly buffer corner
  | within area offset body =>
      rw [run, commands]
      cases entering : r.enter? area offset with
      | none =>
          have refused : r.obey (.enter area offset) = r := by
            rw [Renderer.obey, entering, Option.getD_none]
          exact refused.symm
      | some entered =>
          have opened : r.obey (.enter area offset) = entered := by
            rw [Renderer.obey, entering, Option.getD_some]
          calc (runAll studio entered body).1.leaveOrReport.1
              = ((r.obey (.enter area offset)).obeyAll
                  (allCommands studio entered body)).leaveOrReport.1 := by
                rw [opened, runAll_obeys studio entered body]
            _ = (r.obeyAll (.enter area offset :: allCommands studio entered body)).obeyAll
                  [.leave] := rfl
            _ = r.obeyAll (.enter area offset :: allCommands studio entered body ++ [.leave]) := by
                rw [Renderer.obeyAll_append]
  | _ => rfl

theorem runAll_obeys (studio : Studio) (r : Renderer) (steps : List Step) :
    (runAll studio r steps).1 = r.obeyAll (allCommands studio r steps) := by
  cases steps with
  | nil => rfl
  | cons step rest =>
      rw [allCommands, Renderer.obeyAll_append, ← run_obeys studio r step]
      exact runAll_obeys studio (run studio r step).1 rest

end

end Step

end Compositing
