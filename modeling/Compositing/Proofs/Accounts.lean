import Compositing.Proofs.Completion

/-! The accounts of a pass. Every draw asked for before the pass ends is either sent to the backend
or counted as skipped, the tally says how many there were of each kind, and the end, which the
backend hears of once, closes the accounts. -/

namespace Compositing

def Call.isCompose : Call → Bool
  | .compose .. => true
  | _ => false

def Call.isFill : Call → Bool
  | .fill .. => true
  | _ => false

theorem Tally.blits_add (a b : Tally) : (a + b).blits = a.blits + b.blits := rfl

theorem Tally.fills_add (a b : Tally) : (a + b).fills = a.fills + b.fills := rfl

theorem Tally.skipped_add (a b : Tally) : (a + b).skipped = a.skipped + b.skipped := rfl

namespace Renderer

/-- No pixel of a rectangle of the current region lies in its clip. Without a region nothing is
clipped, and only what is empty is hidden. -/
def Hides (r : Renderer) (area : Rect) : Prop :=
  match r.region? with
  | none => area.isEmpty = true
  | some region => ∀ p ∈ area.shift region.origin, p ∉ region.clip

theorem hides_iff (r : Renderer) (area : Rect) :
    r.Hides area ↔ (r.visible area).isEmpty = true := by
  rw [Hides, visible]
  cases r.region? with
  | none => rfl
  | some region => exact Rect.overlap_isEmpty_iff_forall.symm

inductive Booked (r : Renderer) (command : Command) (after : Renderer) : Prop
  /-- No draw and no end, or too late for either. -/
  | nothing (idle : command.drawn? = none ∧ command.ends = false ∨ r.phase = .completed)
      (calls : after.calls = r.calls) (tally : after.tally = r.tally)
      (phase : after.phase = r.phase)
  | skipped {area : Rect} (active : r.phase = .active) (drawn : command.drawn? = some area)
      (hidden : r.Hides area) (calls : after.calls = r.calls)
      (tally : after.tally = r.tally + { skipped := 1 }) (phase : after.phase = r.phase)
  | sent {area : Rect} {call : Call} (active : r.phase = .active)
      (drawn : command.drawn? = some area) (shown : ¬ r.Hides area)
      (draws : call.isComplete = false) (calls : after.calls = r.calls ++ [call])
      (tally : after.tally = r.tally + call.count) (phase : after.phase = r.phase)
  | ended (active : r.phase = .active) (ends : command.ends = true)
      (calls : after.calls = r.calls ++ [.complete]) (tally : after.tally = r.tally)
      (phase : after.phase = .completed)

theorem dispatch_booked {r : Renderer} {command : Command} {area : Rect}
    (drawn : command.drawn? = some area) {count : Tally} {call : Rect → Call}
    (draws : ∀ visible, (call visible).isComplete = false ∧ (call visible).count = count) :
    Booked r command (r.dispatch area count call) := by
  rw [dispatch]
  cases phase : r.phase with
  | completed => exact .nothing (.inr phase) rfl rfl rfl
  | active =>
      rw [if_neg Phase.noConfusion]
      dsimp only
      split
      · rename_i hidden
        exact .skipped phase drawn ((r.hides_iff area).mpr hidden) rfl rfl phase.symm
      · rename_i visible
        have shown : ¬ r.Hides area := fun hidden => visible ((r.hides_iff area).mp hidden)
        rw [← (draws (r.visible area)).2]
        exact .sent phase drawn shown (draws _).1 rfl rfl phase.symm

theorem obey_booked (r : Renderer) (command : Command) : Booked r command (r.obey command) := by
  cases drawn : command.drawn? with
  | some area =>
      rcases r.obey_of_drawn drawn with ⟨count, call, draws, same⟩
      rw [same]
      exact dispatch_booked drawn draws
  | none =>
      cases ends : command.ends with
      | false =>
          rcases r.obey_of_quiet drawn ends with ⟨regions, options, log, same⟩
          rw [same]
          exact .nothing (.inl ⟨drawn, ends⟩) rfl rfl rfl
      | true =>
          rw [Command.eq_complete ends, obey, complete]
          cases phase : r.phase with
          | active => exact .ended phase rfl rfl rfl rfl
          | completed => exact .nothing (.inr phase) rfl rfl rfl

theorem phase_obey (r : Renderer) (command : Command) :
    (r.obey command).phase = if command.ends then .completed else r.phase := by
  cases r.obey_booked command with
  | nothing idle _ _ phase =>
      rcases idle with ⟨_, unended⟩ | completed
      · rw [phase, unended, if_neg Bool.false_ne_true]
      · rw [phase, completed, ite_self]
  | skipped _ drawn _ _ _ phase | sent _ drawn _ _ _ _ phase =>
      rw [phase, Command.ends_of_drawn drawn, if_neg Bool.false_ne_true]
  | ended _ ends _ _ phase => rw [phase, ends, if_pos rfl]

theorem phase_obeyAll (r : Renderer) (commands : List Command) :
    (r.obeyAll commands).phase = if commands.any Command.ends then .completed else r.phase := by
  induction commands generalizing r with
  | nil => rfl
  | cons command rest ih =>
      rw [obeyAll, List.foldl_cons, ← obeyAll, ih, phase_obey, List.any_cons]
      cases command.ends <;> cases rest.any Command.ends <;> rfl

def drawsAsked (commands : List Command) : Nat :=
  (commands.takeWhile fun command => !command.ends).countP fun command => command.drawn?.isSome

theorem drawsAsked_of_quiet {command : Command} (quiet : command.drawn? = none)
    (unended : command.ends = false) (rest : List Command) :
    drawsAsked (command :: rest) = drawsAsked rest := by
  simp [drawsAsked, quiet, unended]

theorem drawsAsked_of_drawn {command : Command} {area : Rect} (drawn : command.drawn? = some area)
    (rest : List Command) : drawsAsked (command :: rest) = drawsAsked rest + 1 := by
  simp [drawsAsked, drawn, Command.ends_of_drawn drawn]

theorem drawsAsked_of_ends {command : Command} (ends : command.ends = true)
    (rest : List Command) : drawsAsked (command :: rest) = 0 := by
  simp [drawsAsked, ends]

/-- The tally agrees with what was sent, and leaves no draw out. -/
structure Accounted (asked : Nat) (r : Renderer) : Prop where
  blits : r.tally.blits = r.calls.countP Call.isCompose
  fills : r.tally.fills = r.calls.countP Call.isFill
  draws : r.tally.blits + r.tally.fills + r.tally.skipped = asked

namespace Accounted

variable {asked : Nat} {r after : Renderer} (accounted : r.Accounted asked)

include accounted

theorem of_same (calls : after.calls = r.calls) (tally : after.tally = r.tally) :
    after.Accounted asked := by
  refine ⟨?_, ?_, ?_⟩ <;> rw [tally]
  · rw [calls]
    exact accounted.blits
  · rw [calls]
    exact accounted.fills
  · exact accounted.draws

theorem of_skipped (calls : after.calls = r.calls)
    (tally : after.tally = r.tally + { skipped := 1 }) : after.Accounted (asked + 1) := by
  refine ⟨?_, ?_, ?_⟩ <;> rw [tally]
  · rw [calls]
    exact accounted.blits
  · rw [calls]
    exact accounted.fills
  · rw [← accounted.draws]
    rfl

theorem of_sent {call : Call} (draws : call.isComplete = false)
    (calls : after.calls = r.calls ++ [call]) (tally : after.tally = r.tally + call.count) :
    after.Accounted (asked + 1) := by
  have blits := accounted.blits
  have fills := accounted.fills
  have total := accounted.draws
  refine ⟨?_, ?_, ?_⟩ <;> rw [tally]
  · rw [calls, List.countP_append, ← blits, Tally.blits_add]
    cases call <;> rfl
  · rw [calls, List.countP_append, ← fills, Tally.fills_add]
    cases call <;> rfl
  · rw [Tally.blits_add, Tally.fills_add, Tally.skipped_add]
    cases call with
    | compose | fill =>
        simp only [Call.count]
        omega
    | complete => cases draws

theorem of_ended (calls : after.calls = r.calls ++ [.complete]) (tally : after.tally = r.tally) :
    after.Accounted asked := by
  refine ⟨?_, ?_, ?_⟩ <;> rw [tally]
  · rw [calls, List.countP_append, accounted.blits]
    rfl
  · rw [calls, List.countP_append, accounted.fills]
    rfl
  · exact accounted.draws

end Accounted

theorem obeyAll_of_completed {r : Renderer} (completed : r.phase = .completed)
    (commands : List Command) :
    (r.obeyAll commands).calls = r.calls ∧ (r.obeyAll commands).tally = r.tally := by
  induction commands generalizing r with
  | nil => exact ⟨rfl, rfl⟩
  | cons command rest ih =>
      rw [obeyAll, List.foldl_cons, ← obeyAll]
      cases r.obey_booked command with
      | nothing _ calls tally phase =>
          rcases ih (phase.trans completed) with ⟨later_calls, later_tally⟩
          exact ⟨later_calls.trans calls, later_tally.trans tally⟩
      | skipped active | sent active | ended active =>
          rw [completed] at active
          cases active

theorem Accounted.obeyAll {asked : Nat} {r : Renderer} (accounted : r.Accounted asked)
    (active : r.phase = .active) (commands : List Command) :
    (r.obeyAll commands).Accounted (asked + drawsAsked commands) := by
  induction commands generalizing r asked with
  | nil => exact accounted
  | cons command rest ih =>
      rw [Renderer.obeyAll, List.foldl_cons, ← Renderer.obeyAll]
      cases r.obey_booked command with
      | nothing idle calls tally phase =>
          rcases idle with ⟨quiet, unended⟩ | completed
          · rw [drawsAsked_of_quiet quiet unended]
            exact ih (accounted.of_same calls tally) (phase.trans active)
          · rw [active] at completed
            cases completed
      | skipped _ drawn _ calls tally phase =>
          rw [drawsAsked_of_drawn drawn, Nat.add_comm _ 1, ← Nat.add_assoc]
          exact ih (accounted.of_skipped calls tally) (phase.trans active)
      | sent _ drawn _ draws calls tally phase =>
          rw [drawsAsked_of_drawn drawn, Nat.add_comm _ 1, ← Nat.add_assoc]
          exact ih (accounted.of_sent draws calls tally) (phase.trans active)
      | ended _ ends calls tally phase =>
          rw [drawsAsked_of_ends ends, Nat.add_zero]
          rcases obeyAll_of_completed phase rest with ⟨later_calls, later_tally⟩
          exact (accounted.of_ended calls tally).of_same later_calls later_tally

theorem skipped_iff (r : Renderer) {command : Command} {area : Rect}
    (drawn : command.drawn? = some area) :
    (r.obey command).tally.skipped = r.tally.skipped + 1 ↔ r.phase = .active ∧ r.Hides area := by
  cases r.obey_booked command with
  | nothing idle _ tally =>
      rw [tally]
      rcases idle with ⟨quiet, _⟩ | completed
      · rw [drawn] at quiet
        cases quiet
      · simp [completed]
  | skipped active again hidden _ tally =>
      rw [drawn] at again
      cases again
      exact ⟨fun _ => ⟨active, hidden⟩, fun _ => congrArg Tally.skipped tally⟩
  | @sent _ call _ again shown _ _ tally =>
      rw [drawn] at again
      cases again
      have none_skipped : call.count.skipped = 0 := by cases call <;> rfl
      rw [tally, Tally.skipped_add, none_skipped]
      simp [shown]
  | ended _ ends =>
      rw [Command.ends_of_drawn drawn] at ends
      cases ends

/-- However a renderer is made, and whatever is then asked of it: the backend hears of the end at
most once and last, the tally counts what it was sent and what was skipped, together every draw
asked for before the end, and the end leaves the tally as it is for good. -/
theorem accounts_agree (backend : Backend) (regions : List Region) (baseline : Nat)
    (options : Table String String) (commands : List Command) :
    let r := ({ backend, regions, baseline, options } : Renderer).obeyAll commands
    (∃ sent, (∀ call ∈ sent, call.isComplete = false) ∧
        r.calls = sent ++ if commands.any Command.ends then [.complete] else []) ∧
      (r.phase = .completed ↔ commands.any Command.ends = true) ∧
      r.tally.blits = r.calls.countP Call.isCompose ∧
      r.tally.fills = r.calls.countP Call.isFill ∧
      r.tally.blits + r.tally.fills + r.tally.skipped = drawsAsked commands ∧
      (∀ command area, command.drawn? = some area →
        ((r.obey command).tally.skipped = r.tally.skipped + 1 ↔
          r.phase = .active ∧ r.Hides area)) ∧
      (r.phase = .completed → ∀ later, (r.obeyAll later).tally = r.tally) := by
  intro r
  let made : Renderer := { backend, regions, baseline, options }
  have shut : r.Sealed := Sealed.obeyAll ⟨[], by simp, rfl⟩ commands
  have phase : (r.phase = .completed) ↔ commands.any Command.ends = true := by
    rw [made.phase_obeyAll commands]
    cases commands.any Command.ends <;> simp [made]
  have accounted : r.Accounted (0 + drawsAsked commands) :=
    Accounted.obeyAll (r := made) ⟨rfl, rfl, rfl⟩ rfl commands
  rw [Nat.zero_add] at accounted
  refine ⟨?_, phase, accounted.blits, accounted.fills, accounted.draws,
    fun _ _ => r.skipped_iff, fun completed later => (obeyAll_of_completed completed later).2⟩
  rcases shut with ⟨sent, draws, calls⟩
  refine ⟨sent, draws, ?_⟩
  simpa only [phase] using calls

end Renderer

end Compositing
