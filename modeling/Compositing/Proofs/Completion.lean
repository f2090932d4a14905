import Compositing.Proofs.Containment

/-! The end of a pass. However often a renderer is completed, and whatever is asked of it
afterwards, its backend is told once, and after that nothing more. -/

namespace Compositing

def Call.isComplete : Call → Bool
  | .complete => true
  | _ => false

def Call.count : Call → Tally
  | .compose .. => { blits := 1 }
  | .fill .. => { fills := 1 }
  | .complete => {}

namespace Renderer

/-- The backend has been told that the pass is complete just if it is, once and last of all. -/
def Sealed (r : Renderer) : Prop :=
  ∃ sent : List Call, (∀ call ∈ sent, call.isComplete = false) ∧
    r.calls = sent ++ if r.phase = .completed then [.complete] else []

def Command.drawn? : Command → Option Rect
  | .blit _ buffer corner => some (buffer.areaAt corner)
  | .fill _ area => some area
  | _ => none

def Command.ends : Command → Bool
  | .complete => true
  | _ => false

theorem Command.ends_of_drawn {command : Command} {area : Rect}
    (drawn : command.drawn? = some area) : command.ends = false := by
  cases command with
  | complete => cases drawn
  | _ => rfl

theorem Command.eq_complete {command : Command} (ends : command.ends = true) :
    command = .complete := by
  cases command with
  | complete => rfl
  | _ => cases ends

theorem obey_of_quiet (r : Renderer) {command : Command} (quiet : command.drawn? = none)
    (unended : command.ends = false) :
    ∃ regions options log, r.obey command = { r with regions, options, log } := by
  cases command with
  | enter area offset =>
      rw [obey]
      cases entering : r.enter? area offset with
      | none => exact ⟨_, _, _, rfl⟩
      | some entered =>
          rcases enter?_frame entering with ⟨inner, same⟩
          rw [Option.getD_some, same]
          exact ⟨_, _, _, rfl⟩
  | leave =>
      rcases r.leaveOrReport_frame with ⟨regions, log, same⟩
      exact ⟨regions, r.options, log, same⟩
  | setOption key value => cases value <;> exact ⟨_, _, _, rfl⟩
  | blit operator buffer corner => cases quiet
  | fill color area => cases quiet
  | complete => cases unended

theorem obey_of_drawn (r : Renderer) {command : Command} {area : Rect}
    (drawn : command.drawn? = some area) :
    ∃ (count : Tally) (call : Rect → Call),
      (∀ visible, (call visible).isComplete = false ∧ (call visible).count = count) ∧
        r.obey command = r.dispatch area count call := by
  cases command with
  | blit operator buffer corner =>
      cases drawn
      rw [obey, blit]
      refine ⟨_, _, ?_, rfl⟩
      exact fun _ => ⟨rfl, rfl⟩
  | fill color area =>
      cases drawn
      rw [obey, fill]
      refine ⟨_, _, ?_, rfl⟩
      exact fun _ => ⟨rfl, rfl⟩
  | enter | leave | setOption | complete => cases drawn

theorem obey_cases (r : Renderer) (command : Command) :
    (∃ regions options log, r.obey command = { r with regions, options, log }) ∨
      (∃ (area : Rect) (count : Tally) (call : Rect → Call),
        (∀ visible, (call visible).isComplete = false) ∧
          r.obey command = r.dispatch area count call) ∨
      r.obey command = r.complete := by
  cases drawn : command.drawn? with
  | some area =>
      rcases r.obey_of_drawn drawn with ⟨count, call, draws, same⟩
      exact .inr (.inl ⟨area, count, call, fun visible => (draws visible).1, same⟩)
  | none =>
      cases ends : command.ends with
      | false => exact .inl (r.obey_of_quiet drawn ends)
      | true =>
          rw [Command.eq_complete ends]
          exact .inr (.inr rfl)

theorem backend_obey (r : Renderer) (command : Command) :
    (r.obey command).backend = r.backend := by
  rcases r.obey_cases command with ⟨_, _, _, same⟩ | ⟨area, count, call, _, same⟩ | same
  · rw [same]
  · rcases r.dispatch_frame area count call with ⟨tally, calls, log, frame⟩
    rw [same, frame]
  · rw [same, complete]
    cases r.phase <;> rfl

theorem backend_obeyAll (r : Renderer) (commands : List Command) :
    (r.obeyAll commands).backend = r.backend := by
  induction commands generalizing r with
  | nil => rfl
  | cons command rest ih => exact (ih (r.obey command)).trans (r.backend_obey command)

namespace Sealed

theorem of_within (backend : Backend) (clip : Rect) (origin : Point) :
    (within backend clip origin).Sealed := ⟨[], by simp, rfl⟩

variable {r : Renderer} (shut : r.Sealed)

include shut

theorem of_frame {after : Renderer} (phase : after.phase = r.phase)
    (calls : after.calls = r.calls) : after.Sealed := by
  rw [Sealed, phase, calls]
  exact shut

theorem dispatch (area : Rect) (count : Tally) {call : Rect → Call}
    (draws : ∀ visible, (call visible).isComplete = false) :
    (r.dispatch area count call).Sealed := by
  have calls := r.dispatch_calls area count call
  have phase : (r.dispatch area count call).phase = r.phase := by
    rcases r.dispatch_frame area count call with ⟨tally, calls, log, same⟩
    rw [same]
  split at calls
  · rename_i sending
    rcases shut with ⟨sent, earlier, all⟩
    refine ⟨sent ++ [call (r.visible area)], ?_, ?_⟩
    · intro one member
      rcases List.mem_append.mp member with before | now
      · exact earlier one before
      · rw [List.mem_singleton.mp now]
        exact draws _
    · rw [calls, all, phase, sending.1]
      simp
  · exact shut.of_frame phase calls

theorem complete : r.complete.Sealed := by
  rcases shut with ⟨sent, earlier, all⟩
  rw [Renderer.complete]
  cases phase : r.phase with
  | active =>
      rw [phase] at all
      refine ⟨sent, earlier, ?_⟩
      simp [all]
  | completed => exact ⟨sent, earlier, all⟩

theorem obey (command : Command) : (r.obey command).Sealed := by
  rcases r.obey_cases command with ⟨_, _, _, same⟩ | ⟨area, count, call, draws, same⟩ | same
  · rw [same]
    exact shut.of_frame rfl rfl
  · rw [same]
    exact shut.dispatch area count draws
  · rw [same]
    exact shut.complete

theorem obeyAll (commands : List Command) : (r.obeyAll commands).Sealed := by
  induction commands generalizing r with
  | nil => exact shut
  | cons command rest ih => exact ih (shut.obey command)

end Sealed

end Renderer

end Compositing
