import Compositing.Proofs.Protocol
import Compositing.Proofs.Schedule

/-! No damage is lost on the way to an output. From the moment a rectangle is reported until a
viewport is redrawn, what the viewport shows of it stays covered by its damage; and the redraw asks
the output for each covered pixel exactly once. -/

namespace Compositing

def requests (events : List Event) : List Rect :=
  events.filterMap fun
    | .requested _ area => some area
    | _ => none

/-- What the viewport shows of a rectangle is damaged. -/
def Viewport.Owes (v : Viewport) (R : Rect) : Prop :=
  ∀ p ∈ R, p ∈ v.bounds → ∃ r ∈ v.damage.rects, p ∈ r

theorem Viewport.Owes.invalidate {v : Viewport} {R : Rect} {bounds r : Rect}
    (owes : (bounds = v.bounds ∧ v.Owes R) ∨ r = bounds ∨ r = R) (timers : Timers) :
    ({ v with bounds }.invalidate timers r).1.Owes R := by
  rcases Viewport.invalidate_frame { v with bounds } timers r with ⟨pending, same⟩
  rw [same]
  intro p reported inside
  dsimp only at inside ⊢
  have fresh : p ∈ r → ∃ found ∈ (if r.isEmpty then v.damage else v.damage.add r).rects,
      p ∈ found := by
    intro damaged
    have filled : ¬ r.isEmpty := fun empty => Rect.not_mem_of_isEmpty empty p damaged
    rw [if_neg filled]
    exact ⟨r, List.mem_append_right _ (List.mem_singleton_self r), damaged⟩
  rcases owes with ⟨rfl, owes⟩ | rfl | rfl
  · rcases owes p reported inside with ⟨found, member, damaged⟩
    refine ⟨found, ?_, damaged⟩
    split
    · exact member
    · exact List.mem_append_left _ member
  · exact fresh inside
  · exact fresh reported

namespace Screen

variable {δ : Type} [Output δ] {s after : Screen} {id : ViewportId} {R : Rect}

/-- The viewport, if it is attached, has yet to paint what it shows of the rectangle. -/
def Owes (s : Screen) (id : ViewportId) (R : Rect) : Prop :=
  ∀ v, s.viewports.get? id = some v → v.Owes R

theorem Owes.set {key : ViewportId} {w : Viewport} (owes : s.Owes id R)
    (stored : key = id → w.Owes R) (same : after.viewports = s.viewports.set key w) :
    after.Owes id R := by
  intro v found
  rw [same, Registry.get?_set] at found
  split at found
  · rename_i own
    rcases Option.map_eq_some_iff.mp found with ⟨_, _, rfl⟩
    exact stored own.symm
  · exact owes v found

theorem Owes.move (owes : s.Owes id R) (move : s.Move after) : after.Owes id R := by
  cases move with
  | elsewhere viewports queue started pending =>
      intro v found
      rw [viewports] at found
      exact owes v found
  | attach v fresh idle undamaged =>
      intro w found
      rw [damageViewport_viewports, Registry.get?_set] at found
      split at found
      · rcases Option.map_eq_some_iff.mp found with ⟨_, _, rfl⟩
        exact .invalidate (.inr (.inl rfl)) _
      · rename_i apart
        change (s.viewports.add v).get? id = some w at found
        rw [Registry.get?_add_other _ _ (fresh ▸ apart)] at found
        exact owes w found
  | damage v found bounds r whole =>
      apply owes.set _ (settle_viewports s v r bounds)
      intro own
      subst own
      rcases whole with same | same
      · exact .invalidate (.inl ⟨same, owes v found⟩) _
      · exact .invalidate (.inr (.inl same)) _
  | remove v found =>
      intro w there
      change (s.viewports.remove v.id).get? id = some w at there
      rw [Registry.get?_remove] at there
      split at there
      · cases there
      · exact owes w there

theorem Owes.moves (owes : s.Owes id R) (moves : s.Moves after) : after.Owes id R := by
  induction moves with
  | refl => exact owes
  | tail _ last ih => exact ih.move last

theorem Owes.of_invalidate (named : ∀ id v, s.viewports.get? id = some v → v.id = id) :
    (s.invalidate R).1.Owes id R := by
  have start : s.Owes id R ∨ ∃ v ∈ s.touched R, v.id = id := by
    by_cases reached : ∃ v ∈ s.touched R, v.id = id
    · exact .inr reached
    · refine .inl fun v found p reported inside => absurd ?_ reached
      have own := named id v found
      subst own
      refine ⟨v, (mem_touched R named).mpr ⟨found, ?_⟩, rfl⟩
      by_contra hidden
      have missed := Rect.overlap_isEmpty_iff_forall.mp (eq_true_of_ne_false hidden) p
      exact missed reported inside
  -- A viewport that is touched owes the rectangle once it has had its turn.
  have all : (s.invalidate R).1.Owes id R ∨ ∃ v ∈ ([] : List Viewport), v.id = id := by
    apply damageAll_induction (motive := fun rest s => s.Owes id R ∨ ∃ v ∈ rest, v.id = id) ?_
      (fun _ member => ((mem_touched R named).mp member).1) (touched_distinct R named) start
    intro v rest s found owes
    by_cases own : v.id = id
    · left
      intro w there
      rw [damageViewport_viewports, own, Registry.get?_set, if_pos rfl] at there
      rcases Option.map_eq_some_iff.mp there with ⟨_, _, rfl⟩
      exact .invalidate (.inr (.inr rfl)) _
    · rcases owes with owes | ⟨w, member, same⟩
      · exact .inl (owes.move (.damage v found v.bounds R (.inl rfl)))
      · rcases List.mem_cons.mp member with rfl | later
        · exact absurd same own
        · exact .inr ⟨w, later, same⟩
  rcases all with owes | ⟨v, member, _⟩
  · exact owes
  · cases member

theorem Owes.outcome {before next : Progress δ} (owes : before.1.Owes id R)
    (outcome : Outcome before next)
    (unpainted : ¬ (Turn.mk before next).Redraws id) : next.1.Owes id R := by
  cases outcome with
  | gone => exact owes
  | undamaged v found clean =>
      apply owes.set _ rfl
      intro own
      subst own
      have owed := owes v found
      rw [Viewport.Owes, clean] at owed
      exact owed
  | painted v found =>
      apply owes.set _ rfl
      intro own
      subst own
      exact absurd ⟨_, rfl⟩ unpainted

def Pays (id : ViewportId) (R : Rect) (turn : Turn δ) : Prop :=
  ∃ v, turn.before.1.viewports.get? id = some v ∧ v.Owes R ∧
    turn.after.2.1 = (v.repaintAll turn.before.1.root turn.before.1.studio turn.before.2.1).1

theorem pays_of_outcome {before next : Progress δ} (owes : before.1.Owes id R)
    (outcome : Outcome before next) (redraws : (Turn.mk before next).Redraws id) :
    Pays id R ⟨before, next⟩ := by
  rcases redraws with ⟨report, reported⟩
  cases outcome with
  | gone => simp at reported
  | undamaged v found clean => simp at reported
  | painted v found =>
      simp only [List.append_cancel_left_eq, List.cons.injEq, Prod.mk.injEq, and_true] at reported
      rcases reported with ⟨rfl, _⟩
      exact ⟨v, found, owes v found, rfl⟩

/-- The first turn that redraws the viewport, if any does, pays. -/
def PaysFirst (id : ViewportId) (R : Rect) : List (Turn δ) → Prop
  | [] => True
  | turn :: rest => (turn.Redraws id → Pays id R turn) ∧ (¬ turn.Redraws id → PaysFirst id R rest)

theorem PaysFirst.append {first second : List (Turn δ)} (early : PaysFirst id R first)
    (late : (∀ turn ∈ first, ¬ turn.Redraws id) → PaysFirst id R second) :
    PaysFirst id R (first ++ second) := by
  induction first with
  | nil => exact late (by simp)
  | cons turn rest ih =>
      refine ⟨early.1, fun unpainted => ih (early.2 unpainted) fun none_later => late ?_⟩
      intro other member
      rcases List.mem_cons.mp member with rfl | later
      · exact unpainted
      · exact none_later other later

theorem Owes.turns {start last : Progress δ} {turns : List (Turn δ)} (owes : start.1.Owes id R)
    (follow : Turns start turns last) :
    PaysFirst id R turns ∧ ((∀ turn ∈ turns, ¬ turn.Redraws id) → last.1.Owes id R) := by
  induction follow with
  | done progress => exact ⟨trivial, fun _ => owes⟩
  | next outcome rest ih =>
      constructor
      · refine ⟨pays_of_outcome owes outcome, ?_⟩
        exact fun unpainted => (ih (owes.outcome outcome unpainted)).1
      · intro unpainted
        have kept := owes.outcome outcome (unpainted _ List.mem_cons_self)
        exact (ih kept).2 fun turn member => unpainted turn (List.mem_cons_of_mem _ member)

theorem Owes.perform (inStep : s.InStep []) (owes : s.Owes id R) (stage : Stage δ)
    (operation : Operation δ) :
    PaysFirst id R (Screen.turns (s, stage) operation) ∧
      ((∀ turn ∈ Screen.turns (s, stage) operation, ¬ turn.Redraws id) →
        (Screen.perform (s, stage) operation).1.Owes id R) := by
  cases operation with
  | processTimers instant =>
      rcases processTimers_turns inStep stage instant with ⟨last, done, _, follow⟩
      simp only [Screen.perform, done]
      have expired : ({ s with timers := s.timers.expire instant } : Screen).Owes id R := owes
      exact expired.turns follow
  | flush =>
      rcases flush_turns inStep stage with ⟨last, done, _, follow⟩
      simp only [Screen.perform, done]
      exact owes.turns follow
  | _ => exact ⟨trivial, fun _ => owes.moves (perform_moves inStep.named stage _ rfl)⟩

theorem Owes.allTurns (inStep : s.InStep []) (owes : s.Owes id R) (stage : Stage δ)
    (operations : List (Operation δ)) :
    PaysFirst id R (Screen.allTurns (s, stage) operations) := by
  induction operations generalizing s stage with
  | nil => trivial
  | cons operation rest ih =>
      have performed := owes.perform inStep stage operation
      apply performed.1.append
      intro unpainted
      exact ih (perform_inStep inStep stage operation) (performed.2 unpainted) _

section Small

end Small

end Screen

end Compositing
