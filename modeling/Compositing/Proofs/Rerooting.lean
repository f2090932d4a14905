import Compositing.Output.Framebuffer
import Compositing.Proofs.Coverage
import Compositing.Proofs.Layout

/-! Another tree is shown by damaging the hull of the desktop. That repaints all of every viewport
which the hull encloses, and the hull encloses them all as long as no side of it is cut short. -/

namespace Compositing

section Hull

open Rect

variable {left top : Int} {first : Rect} {rects : List Rect}

theorem foldl_hull_encloses (start : first.InFrame left top)
    (within : ∀ r ∈ rects, r.InFrame left top) :
    (rects.foldl hull first).Encloses first ∧
      ∀ r ∈ rects, (rects.foldl hull first).Encloses r := by
  induction rects generalizing first with
  | nil => exact ⟨Encloses.refl first, by simp⟩
  | cons next rest ih =>
      rcases List.forall_mem_cons.mp within with ⟨here, within⟩
      have around := ih (hull_inFrame start here) within
      refine ⟨around.1.trans (hull_encloses_left start here), ?_⟩
      intro r member
      rcases List.mem_cons.mp member with rfl | later
      · exact around.1.trans (hull_encloses_right start here)
      · exact around.2 r later

theorem Damage.hullOf_encloses (within : ∀ r ∈ rects, r.InFrame left top) {r : Rect}
    (member : r ∈ rects) : ∃ hull, Damage.hullOf rects = some hull ∧ hull.Encloses r := by
  cases rects with
  | nil => cases member
  | cons start rest =>
      rcases List.forall_mem_cons.mp within with ⟨here, within⟩
      have around := foldl_hull_encloses here within
      refine ⟨rest.foldl hull start, rfl, ?_⟩
      rcases List.mem_cons.mp member with rfl | later
      · exact around.1
      · exact around.2 r later

end Hull

namespace Screen

variable {δ : Type} [Output δ] {s : Screen}

theorem setRoot_owes (named : ∀ id v, s.viewports.get? id = some v → v.id = id) (root : Tree)
    {hull : Rect} (spans : s.desktop.hull? = some hull) (id : ViewportId) :
    (s.setRoot root).Owes id hull := by
  have rerooted : ({ s with root } : Screen).desktop.hull? = some hull := spans
  rw [setRoot]
  dsimp only
  rw [rerooted]
  exact .of_invalidate named

theorem setRoot_damages (inStep : s.InStep []) (stage : Stage δ) (root : Tree) {id : ViewportId}
    {v : Viewport} (found : s.viewports.get? id = some v) :
    ∃ w, (s.setRoot root).viewports.get? id = some w ∧ w.bounds = v.bounds ∧
      ∀ hull, s.desktop.hull? = some hull → ∀ p ∈ v.bounds, p ∈ hull →
        w.pending.isSome ∧ ∃ r ∈ w.damage.rects, p ∈ r := by
  have after : (s.setRoot root).InStep [] := perform_inStep inStep stage (.setRoot root)
  have there : (s.setRoot root).bounds? id = some v.bounds := by
    rw [(Unmoved.setRoot inStep.named root).bounds, bounds?_of_found found]
  rcases bounds?_eq_some.mp there with ⟨w, shown, same⟩
  refine ⟨w, shown, same, ?_⟩
  intro hull spans p inside reached
  rcases setRoot_owes inStep.named root spans id w shown p reached (same ▸ inside) with
    ⟨r, member, damaged⟩
  exact ⟨(after.damaged shown).mpr (List.ne_nil_of_mem member), r, member, damaged⟩

/-- Whatever has been asked of a screen before: once another tree is shown, each viewport has to
paint every point of its bounds that lies in the hull of the desktop. So it has to paint all of its
bounds, and waits for a timer if they hold a point at all, as long as all viewports lie within a
frame as wide and as high as a coordinate can count. -/
theorem setRoot_repaints_frame (config : Config) (root : Tree) (stage : Stage δ)
    (operations : List (Operation δ)) (tree : Tree) :
    let s := (performAll (create config root, stage) operations).1
    ∀ id v, s.viewports.get? id = some v →
      ∃ w, (s.setRoot tree).viewports.get? id = some w ∧ w.bounds = v.bounds ∧
        (∀ hull, s.desktop.hull? = some hull → ∀ p ∈ v.bounds, p ∈ hull →
          w.pending.isSome ∧ ∃ r ∈ w.damage.rects, p ∈ r) ∧
        ((∃ left top, ∀ other w, s.viewports.get? other = some w → w.bounds.InFrame left top) →
          ∀ p ∈ v.bounds, w.pending.isSome ∧ ∃ r ∈ w.damage.rects, p ∈ r) := by
  intro s id v found
  have inStep : s.InStep [] := performAll_inStep (.create config root) stage operations
  have laid : s.Laid := Laid.performAll (.create config root) (.create config root) stage operations
  rcases setRoot_damages inStep stage tree found with ⟨w, shown, same, damaged⟩
  refine ⟨w, shown, same, damaged, ?_⟩
  intro fits p inside
  rcases fits with ⟨left, top, frame⟩
  have within : ∀ r ∈ s.desktop.places.values, r.InFrame left top := by
    intro r member
    rcases laid.mem_values.mp member with ⟨other, w, there, rfl⟩
    exact frame other w there
  rcases Damage.hullOf_encloses within (laid.mem_values.mpr ⟨id, v, found, rfl⟩) with
    ⟨hull, spans, encloses⟩
  exact damaged hull spans p inside (encloses.mem inside)

section Small

def sideBySide : List (Operation Framebuffer) :=
  [.attach ⟨0⟩, .attach ⟨0⟩, .moveTo ⟨1⟩ ⟨1, 0⟩]

theorem setRoot_repaints_side_by_side :
    let s := (performAll (create { delay := 1 } fun _ _ => Viewport.smallProgram,
      Viewport.smallStage) sideBySide).1
    ∃ w, (s.setRoot fun _ _ => []).viewports.get? ⟨1⟩ = some w ∧
      ∃ r ∈ w.damage.rects, (⟨2, 1⟩ : Point) ∈ r := by
  intro s
  let right : Viewport :=
    { id := ⟨1⟩, bounds := ⟨1, 0, 2, 2⟩, output := ⟨0⟩, delay := 1,
      damage := ⟨[⟨0, 0, 2, 2⟩, ⟨1, 0, 2, 2⟩]⟩, pending := some ⟨1⟩ }
  have found : s.viewports.get? ⟨1⟩ = some right := by decide
  have frame : ∀ other w, s.viewports.get? other = some w → w.bounds.InFrame 0 0 := by
    intro other w there
    have both : s.viewports.toList.map (·.2.bounds) = [⟨0, 0, 2, 2⟩, ⟨1, 0, 2, 2⟩] := by decide
    have listed := bounds_listed there
    rw [both] at listed
    rcases List.mem_pair.mp listed with here | here <;> rw [here] <;> constructor <;> decide
  rcases setRoot_repaints_frame { delay := 1 } (fun _ _ => Viewport.smallProgram)
      Viewport.smallStage sideBySide (fun _ _ => []) ⟨1⟩ right found with
    ⟨w, shown, _, _, whole⟩
  exact ⟨w, shown, (whole ⟨0, 0, frame⟩ ⟨2, 1⟩ (by decide)).2⟩

def farApart : List (Operation Framebuffer) :=
  [.attach ⟨0⟩, .attach ⟨0⟩, .moveTo ⟨0⟩ ⟨-2000000000, 0⟩, .moveTo ⟨1⟩ ⟨2000000000, 0⟩]

def farScene : Scene Framebuffer :=
  performAll (create { delay := 1 } fun _ _ => Viewport.smallProgram, Viewport.smallStage) farApart

/-- The hull of the desktop ends short of the viewport on the right, which goes on showing the
former tree. -/
theorem setRoot_misses_far_viewport :
    let s := (performAll (create { delay := 1 } fun _ _ => Viewport.smallProgram,
      Viewport.smallStage) (farApart ++ [.flush])).1
    ∃ v, (s.setRoot fun _ _ => []).viewports.get? ⟨1⟩ = some v ∧
      (⟨2000000000, 0⟩ : Point) ∈ v.bounds ∧ v.pending = none ∧ v.damage.rects = [] := by
  let left : Viewport :=
    { id := ⟨0⟩, bounds := ⟨-2000000000, 0, 2, 2⟩, output := ⟨0⟩, delay := 1,
      damage := ⟨[⟨0, 0, 2, 2⟩, ⟨-2000000000, 0, 2, 2⟩]⟩, pending := some ⟨0⟩ }
  let right : Viewport :=
    { id := ⟨1⟩, bounds := ⟨2000000000, 0, 2, 2⟩, output := ⟨0⟩, delay := 1,
      damage := ⟨[⟨0, 0, 2, 2⟩, ⟨2000000000, 0, 2, 2⟩]⟩, pending := some ⟨1⟩ }
  have keys : farScene.1.viewports.keys = [⟨0⟩, ⟨1⟩] := by decide
  have first : farScene.1.viewports.get? ⟨0⟩ = some left := by decide
  have second : (farScene.1.painted left).viewports.get? ⟨1⟩ = some right := by decide
  have flushed : (perform farScene .flush).1 = (farScene.1.painted left).painted right := by
    simp only [perform, flush, keys, List.foldlM_cons, flushViewport_eq first, ok_bind,
      flushViewport_eq second]
    rfl
  rw [performAll, List.foldl_append]
  change ∃ v, ((perform farScene .flush).1.setRoot fun _ _ => []).viewports.get? ⟨1⟩ = some v ∧ _
  rw [flushed]
  exact ⟨{ right with pending := none, damage := {} }, by decide, by decide, rfl, rfl⟩

end Small

end Screen

end Compositing
