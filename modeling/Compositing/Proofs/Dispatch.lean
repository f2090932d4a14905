import Compositing.Proofs.Plane
import Compositing.Render.Renderer

/-! What a renderer sends on for one draw. A draw changes nothing but the calls, the tally and the
log; it sends at most one call, and that call covers exactly what shows of the rectangle drawn. -/

namespace Compositing

def Buffer.areaAt (buffer : Buffer) (corner : Point) : Rect :=
  ⟨corner.x, corner.y, buffer.size.width, buffer.size.height⟩

namespace Region

variable {outer inner : Region} {area : Rect} {offset : Point}

theorem within?_some (opened : outer.within? area offset = some inner) :
    inner = ⟨(area.shift outer.origin).overlap outer.clip,
      saturatingAdd outer.origin.x offset.x, saturatingAdd outer.origin.y offset.y⟩ ∧
      inner.clip.isEmpty = false := by
  unfold within? at opened
  dsimp only at opened
  split at opened
  · cases opened
  · rename_i shows
    cases opened
    exact ⟨rfl, eq_false_of_ne_true shows⟩

theorem within?_none (rejected : outer.within? area offset = none) {p : Point}
    (inside : p ∈ outer.clip) : p ∉ area.shift outer.origin := by
  unfold within? at rejected
  dsimp only at rejected
  split at rejected
  · rename_i hidden
    exact fun drawn => Rect.overlap_isEmpty_iff_forall.mp hidden p drawn inside
  · cases rejected

end Region

namespace Renderer

variable (r : Renderer) (area : Rect) (count : Tally) (call : Rect → Call)

theorem dispatch_frame : ∃ tally calls log,
    r.dispatch area count call = { r with tally, calls, log } := by
  unfold dispatch report
  split
  · exact ⟨_, _, _, rfl⟩
  · dsimp only
    split <;> exact ⟨_, _, _, rfl⟩

theorem blit_frame (operator : Operator) (buffer : Buffer) (corner : Point) :
    ∃ tally calls log, r.blit operator buffer corner = { r with tally, calls, log } := by
  rw [blit]
  exact r.dispatch_frame _ _ _

theorem fill_frame (color : Color) :
    ∃ tally calls log, r.fill color area = { r with tally, calls, log } := by
  rw [fill]
  exact r.dispatch_frame _ _ _

theorem enter?_of_region {r : Renderer} {region : Region} (current : r.region? = some region)
    (area : Rect) (offset : Point) :
    r.enter? area offset =
      (region.within? area offset).map fun inner => { r with regions := inner :: r.regions } := by
  obtain ⟨rest, regions⟩ := List.head?_eq_some_iff.mp current
  rw [enter?]
  rw [regions]

theorem enter?_frame {r entered : Renderer} {area : Rect} {offset : Point}
    (entering : r.enter? area offset = some entered) :
    ∃ inner, entered = { r with regions := inner :: r.regions } := by
  rw [enter?] at entering
  split at entering
  · rename_i empty
    cases entering
    rw [empty]
    exact ⟨_, rfl⟩
  · obtain ⟨inner, _, same⟩ := Option.map_eq_some_iff.mp entering
    exact ⟨inner, same.symm⟩

theorem leaveOrReport_frame : ∃ regions log, r.leaveOrReport.1 = { r with regions, log } := by
  unfold leaveOrReport leave
  by_cases matched : r.depth ≤ r.baseline
  · rw [if_pos matched]
    exact ⟨_, _, rfl⟩
  · rw [if_neg matched]
    exact ⟨_, _, rfl⟩

theorem unwind_frame (depth : Nat) : ∃ regions log, r.unwind depth = { r with regions, log } := by
  fun_induction unwind r depth with
  | case1 r shallow left leaving lower ih =>
      rcases ih with ⟨regions, log, same⟩
      rw [leave] at leaving
      split at leaving
      · cases leaving
      · cases leaving
        exact ⟨regions, log, same⟩
  | case2 r shallow fault leaving => exact ⟨_, _, rfl⟩
  | case3 r deep => exact ⟨_, _, rfl⟩

theorem leaveOrReport_eq {r : Renderer} (deep : r.baseline < r.depth) :
    r.leaveOrReport = ({ r with regions := r.regions.tail }, none) := by
  rw [leaveOrReport, leave, if_neg (Nat.not_le.mpr deep)]

theorem leaveOrReport_of_matched {r : Renderer} (matched : r.depth ≤ r.baseline) :
    r.leaveOrReport =
      (r.report (Fault.unmatchedLeave r.depth).log, some (.unmatchedLeave r.depth)) := by
  rw [leaveOrReport, leave, if_pos matched]

theorem leaveOrReport_of_deep {r : Renderer} (deep : r.baseline < r.depth) :
    r.leaveOrReport.1 = { r with regions := r.regions.tail } :=
  congrArg Prod.fst (leaveOrReport_eq deep)

theorem dispatch_calls :
    (r.dispatch area count call).calls =
      if r.phase = .active ∧ (r.visible area).isEmpty = false then
        r.calls ++ [call (r.visible area)]
      else r.calls := by
  rw [dispatch]
  cases phase : r.phase with
  | completed => simp [report]
  | active =>
      cases shows : (r.visible area).isEmpty with
      | true => simp [shows]
      | false => simp [shows]

section Calls

variable {r area} {region : Region} (current : r.region? = some region)

include current

theorem fill_calls (color : Color) (area : Rect) :
    (r.fill color area).calls =
      if r.phase = .active ∧ ((area.shift region.origin).overlap region.clip).isEmpty = false then
        r.calls ++ [.fill color ((area.shift region.origin).overlap region.clip)]
      else r.calls := by
  rw [fill, dispatch_calls, visible, current]

theorem blit_calls (operator : Operator) (buffer : Buffer) (corner : Point) :
    (r.blit operator buffer corner).calls =
      if r.phase = .active ∧
          (((buffer.areaAt corner).shift region.origin).overlap region.clip).isEmpty = false then
        r.calls ++ [.compose operator buffer.surface
          ((buffer.areaAt corner).shift region.origin).corner
          ((((buffer.areaAt corner).shift region.origin).overlap region.clip).partOf
            ((buffer.areaAt corner).shift region.origin))]
      else r.calls := by
  rw [blit, dispatch_calls, visible, place, current]
  rfl

end Calls

end Renderer

end Compositing
