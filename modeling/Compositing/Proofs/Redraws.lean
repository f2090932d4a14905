import Compositing.Proofs.Isolation
import Compositing.Proofs.Schedule

/-! Several viewports painted one after the other. As long as no two of them share an output or a
surface, each comes out as if it were painted alone, so that the order does not matter. -/

namespace Compositing

open Output.Owner (owns)

section Owned

variable {δ : Type} [Output.Owner δ] {stage : Stage δ} {id : OutputId}

def Stage.Owned (stage : Stage δ) (id : OutputId) (surface : SurfaceId) : Prop :=
  ∃ device, stage.outputs.get? id = some device ∧ owns device surface

theorem Stage.owns_eq {device : δ} (found : stage.outputs.get? id = some device) :
    owns device = stage.Owned id := by
  funext surface
  apply propext
  constructor
  · exact fun owned => ⟨device, found, owned⟩
  · intro owned
    rcases owned with ⟨other, there, owned⟩
    rw [found] at there
    cases there
    exact owned

/-- No surface belongs to two outputs, or to an output and a buffer. -/
structure Stage.Unshared (stage : Stage δ) (studio : Studio) : Prop where
  outputs : ∀ {id other surface}, stage.Owned id surface → stage.Owned other surface → id = other
  buffers : ∀ {id surface}, stage.Owned id surface → ¬ studio.Holds surface

end Owned

section Painting

variable {δ : Type} [Output δ] [Output.Isolated δ] (tree : Tree) (studio : Studio)

def paintInto (progress : Stage δ × Screen.Reports) (v : Viewport) : Stage δ × Screen.Reports :=
  ((v.repaintAll tree studio progress.1).1,
    progress.2 ++ [(v.id, (v.repaintAll tree studio progress.1).2)])

/-- The outputs of some viewports, with the surfaces that they own, are as each viewport leaves them
when it alone is painted. All else is as it was. -/
structure Repainted (vs : List Viewport) (stage after : Stage δ) : Prop where
  outputs : ∀ v ∈ vs, after.outputs.get? v.output =
    (v.repaintAll tree studio stage).1.outputs.get? v.output
  surfaces : ∀ v ∈ vs, ∀ surface, stage.Owned v.output surface →
    after.surfaces.get? surface = (v.repaintAll tree studio stage).1.surfaces.get? surface
  otherOutputs : ∀ id, (∀ v ∈ vs, v.output ≠ id) → after.outputs.get? id = stage.outputs.get? id
  otherSurfaces : ∀ surface, (∀ v ∈ vs, ¬ stage.Owned v.output surface) →
    after.surfaces.get? surface = stage.surfaces.get? surface

variable {vs ws : List Viewport} {stage after other : Stage δ} {v : Viewport}

section Alone

variable {tree studio}

theorem Repainted.alike (painted : Repainted tree studio vs stage after)
    (unshared : stage.Unshared studio) (apart : ∀ w ∈ vs, w.output ≠ v.output) :
    Stage.Alike v.output (stage.Owned v.output) studio.Holds after stage where
  output := painted.otherOutputs v.output apart
  owner device found := by
    rw [painted.otherOutputs v.output apart] at found
    exact Stage.owns_eq found
  surfaces surface shown := by
    apply painted.otherSurfaces
    intro w member owned
    rcases shown with own | held
    · exact apart w member (unshared.outputs owned own)
    · exact unshared.buffers owned held

theorem Repainted.snoc (painted : Repainted tree studio vs stage after)
    (unshared : stage.Unshared studio) (apart : ∀ w ∈ vs, w.output ≠ v.output) :
    Repainted tree studio (vs ++ [v]) stage (v.repaintAll tree studio after).1 := by
  have alike := painted.alike unshared apart
  have alone := (v.repaintAll_local tree studio).alike alike
  have spared := (v.repaintAll_local tree studio).spared alike.self
  constructor
  · intro w member
    rcases List.mem_append.mp member with early | last
    · rw [spared.outputs w.output (apart w early)]
      exact painted.outputs w early
    · rw [List.mem_singleton.mp last]
      exact alone.output
  · intro w member surface owned
    rcases List.mem_append.mp member with early | last
    · have strange : ¬ stage.Owned v.output surface := fun own =>
        apart w early (unshared.outputs owned own)
      rw [spared.surfaces surface strange]
      exact painted.surfaces w early surface owned
    · rw [List.mem_singleton.mp last] at owned ⊢
      exact alone.surfaces surface (.inl owned)
  · intro id elsewhere
    rw [spared.outputs id (elsewhere v (by simp)).symm]
    exact painted.otherOutputs id fun w member => elsewhere w (List.mem_append_left _ member)
  · intro surface elsewhere
    rw [spared.surfaces surface (elsewhere v (by simp))]
    exact painted.otherSurfaces surface fun w member => elsewhere w (List.mem_append_left _ member)

end Alone

/-- Each viewport is painted and reported as if it were the only one. -/
theorem paintAll (unshared : stage.Unshared studio) (vs : List Viewport)
    (apart : vs.Pairwise (·.output ≠ ·.output)) (reports : Screen.Reports) :
    Repainted tree studio vs stage (vs.foldl (paintInto tree studio) (stage, reports)).1 ∧
      (vs.foldl (paintInto tree studio) (stage, reports)).2 =
        reports ++ vs.map fun v => (v.id, (v.repaintAll tree studio stage).2) := by
  induction vs using List.reverseRecOn with
  | nil =>
      refine ⟨⟨by simp, by simp, fun _ _ => rfl, fun _ _ => rfl⟩, by simp⟩
  | append_singleton vs v ih =>
      rcases List.pairwise_append.mp apart with ⟨early, _, apart⟩
      have others : ∀ w ∈ vs, w.output ≠ v.output :=
        fun w member => apart w member v (List.mem_singleton_self v)
      rcases ih early with ⟨painted, reported⟩
      have alike := painted.alike unshared others
      rw [List.foldl_append, List.foldl_cons, List.foldl_nil, paintInto]
      refine ⟨painted.snoc unshared others, ?_⟩
      rw [(v.repaintAll_local tree studio).answer alike, reported, List.map_append,
        List.append_assoc]
      rfl

/-- What painted viewports leave behind does not depend on their order. -/
theorem Repainted.agree {tree : Tree} {studio : Studio}
    (painted : Repainted tree studio vs stage after)
    (again : Repainted tree studio ws stage other) (same : ∀ v, v ∈ vs ↔ v ∈ ws) :
    after.outputs.get? = other.outputs.get? ∧ after.surfaces.get? = other.surfaces.get? := by
  constructor
  · funext id
    by_cases shown : ∃ v ∈ vs, v.output = id
    · rcases shown with ⟨v, member, rfl⟩
      rw [painted.outputs v member, again.outputs v ((same v).mp member)]
    · have hidden : ∀ v ∈ vs, v.output ≠ id := fun v member own => shown ⟨v, member, own⟩
      rw [painted.otherOutputs id hidden,
        again.otherOutputs id fun v member => hidden v ((same v).mpr member)]
  · funext surface
    by_cases owned : ∃ v ∈ vs, stage.Owned v.output surface
    · rcases owned with ⟨v, member, owned⟩
      rw [painted.surfaces v member surface owned,
        again.surfaces v ((same v).mp member) surface owned]
    · have strange : ∀ v ∈ vs, ¬ stage.Owned v.output surface :=
        fun v member own => owned ⟨v, member, own⟩
      rw [painted.otherSurfaces surface strange,
        again.otherSurfaces surface fun v member => strange v ((same v).mpr member)]

end Painting

end Compositing
