import Mathlib.Algebra.Ring.Int.Defs
import Compositing.Proofs.Completion

/-! Regions inside regions. Whatever is drawn in between, regions that are each left again bring the
stack back to where it was; and regions entered one inside the other show what lies in all of them,
each counted from where the origin had come to when it was entered. -/

namespace Compositing

/-- The rectangle holds a pair of integers, whether or not its far edges lie on the plane. -/
def Rect.HoldsPair (area : Rect) (x y : Int) : Prop :=
  (area.x.toInt ≤ x ∧ x < area.x.toInt + area.width.toInt) ∧
    area.y.toInt ≤ y ∧ y < area.y.toInt + area.height.toInt

instance (area : Rect) (x y : Int) : Decidable (area.HoldsPair x y) :=
  inferInstanceAs (Decidable ((_ ∧ _) ∧ _ ∧ _))

/-- A rectangle that is held at the ends of the plane shows what it would show beyond, as long as
what is looked at is itself clipped to the plane and has no negative coordinate. -/
theorem Rect.mem_shift_iff {area clip : Rect} {origin p : Point} (inside : p ∈ clip)
    (right : 0 ≤ p.x.toInt) (below : 0 ≤ p.y.toInt) :
    p ∈ area.shift origin ↔
      area.HoldsPair (p.x.toInt - origin.x.toInt) (p.y.toInt - origin.y.toInt) := by
  have across := toInt_bounds clip.right
  have down := toInt_bounds clip.bottom
  rw [mem_toInt] at inside
  have horizontal := between_translated area.x origin.x area.width p.x right (by omega)
  have vertical := between_translated area.y origin.y area.height p.y below (by omega)
  rw [mem_axes]
  refine (and_congr horizontal vertical).trans ?_
  rw [HoldsPair]
  omega

namespace Renderer

def based (backend : Backend) (own : List Region) : Renderer :=
  { backend, regions := own, baseline := own.length }

section Stack

variable (r : Renderer)

theorem baseline_obey (command : Command) : (r.obey command).baseline = r.baseline := by
  rcases r.obey_cases command with ⟨_, _, _, same⟩ | ⟨area, count, call, _, same⟩ | same
  · rw [same]
  · rcases r.dispatch_frame area count call with ⟨tally, calls, log, frame⟩
    rw [same, frame]
  · rw [same, complete]
    cases r.phase <;> rfl

theorem baseline_obeyAll (commands : List Command) :
    (r.obeyAll commands).baseline = r.baseline := by
  induction commands generalizing r with
  | nil => rfl
  | cons command rest ih => exact (ih (r.obey command)).trans (r.baseline_obey command)

def Command.isFlat : Command → Bool
  | .enter _ _ | .leave => false
  | _ => true

theorem regions_of_flat {command : Command} (flat : command.isFlat = true) :
    (r.obey command).regions = r.regions := by
  cases command with
  | enter | leave => cases flat
  | blit operator buffer corner =>
      rcases r.blit_frame operator buffer corner with ⟨tally, calls, log, same⟩
      rw [obey, same]
  | fill color area =>
      rcases r.fill_frame area color with ⟨tally, calls, log, same⟩
      rw [obey, same]
  | setOption key value => cases value <;> rfl
  | complete =>
      rw [obey, complete]
      cases r.phase <;> rfl

theorem grounded_obey {r : Renderer} (grounded : r.baseline ≤ r.depth) (command : Command) :
    (r.obey command).baseline ≤ (r.obey command).depth := by
  rw [baseline_obey]
  cases flat : command.isFlat with
  | true => rwa [depth, r.regions_of_flat flat]
  | false =>
      cases command with
      | enter area offset =>
          rw [obey]
          cases entering : r.enter? area offset with
          | none => exact grounded
          | some entered =>
              rcases enter?_frame entering with ⟨inner, same⟩
              rw [Option.getD_some, same]
              exact Nat.le_succ_of_le grounded
      | leave =>
          rw [obey]
          by_cases deep : r.baseline < r.depth
          · rw [leaveOrReport_eq deep]
            simp only [depth, List.length_tail] at *
            omega
          · rw [leaveOrReport_of_matched (Nat.le_of_not_lt deep)]
            exact grounded
      | blit | fill | setOption | complete => cases flat

theorem grounded_obeyAll {r : Renderer} (grounded : r.baseline ≤ r.depth)
    (commands : List Command) : (r.obeyAll commands).baseline ≤ (r.obeyAll commands).depth := by
  induction commands generalizing r with
  | nil => exact grounded
  | cons command rest ih => exact ih (grounded_obey grounded command)

end Stack

def fault? (r : Renderer) : Command → Option Fault
  | .leave => r.leaveOrReport.2
  | _ => none

def faults (r : Renderer) : List Command → List Fault
  | [] => []
  | command :: rest => (r.fault? command).toList ++ faults (r.obey command) rest

theorem faults_append (r : Renderer) (first second : List Command) :
    r.faults (first ++ second) = r.faults first ++ (r.obeyAll first).faults second := by
  induction first generalizing r with
  | nil => rfl
  | cons command rest ih =>
      rw [List.cons_append, faults, faults, ih, List.append_assoc]
      rfl

theorem fault?_of_flat (r : Renderer) {command : Command} (flat : command.isFlat = true) :
    r.fault? command = none := by
  cases command with
  | leave => cases flat
  | _ => rfl

/-- Commands that leave each region which they have entered, and none that was refused to them. -/
inductive Balanced : Renderer → List Command → Prop
  | nil {r : Renderer} : Balanced r []
  | flat {r : Renderer} {command : Command} {rest : List Command} (flat : command.isFlat = true)
      (after : Balanced (r.obey command) rest) : Balanced r (command :: rest)
  | refused {r : Renderer} {area : Rect} {offset : Point} {rest : List Command}
      (refused : r.enter? area offset = none) (after : Balanced r rest) :
      Balanced r (.enter area offset :: rest)
  | entered {r inner : Renderer} {area : Rect} {offset : Point} {body rest : List Command}
      (entered : r.enter? area offset = some inner) (inside : Balanced inner body)
      (after : Balanced ((inner.obeyAll body).obey .leave) rest) :
      Balanced r (.enter area offset :: (body ++ .leave :: rest))

theorem Balanced.restores {r : Renderer} {commands : List Command} (balanced : r.Balanced commands)
    (grounded : r.baseline ≤ r.depth) :
    r.faults commands = [] ∧ (r.obeyAll commands).regions = r.regions := by
  induction balanced with
  | nil => exact ⟨rfl, rfl⟩
  | @flat r command rest flat after ih =>
      rcases ih (grounded_obey grounded command) with ⟨faultless, restored⟩
      rw [faults, r.fault?_of_flat flat]
      exact ⟨faultless, restored.trans (r.regions_of_flat flat)⟩
  | @refused r area offset rest refused after ih =>
      have unmoved : r.obey (.enter area offset) = r := by rw [obey, refused, Option.getD_none]
      rw [faults, obeyAll, List.foldl_cons, unmoved]
      exact ih grounded
  | @entered r inner area offset body rest entered inside after inside_ih after_ih =>
      have opened : r.obey (.enter area offset) = inner := by rw [obey, entered, Option.getD_some]
      rcases enter?_frame entered with ⟨region, made⟩
      have inner_grounded : inner.baseline ≤ inner.depth := by
        rw [← opened]
        exact grounded_obey grounded _
      rcases inside_ih inner_grounded with ⟨faultless, restored⟩
      -- the body is over, and the region that was entered is the innermost one again
      have regions : (inner.obeyAll body).regions = region :: r.regions := by
        rw [restored, made]
      have deep : (inner.obeyAll body).baseline < (inner.obeyAll body).depth := by
        rw [baseline_obeyAll, depth, regions, made]
        exact Nat.lt_succ_of_le grounded
      have left : ((inner.obeyAll body).obey .leave).regions = r.regions := by
        rw [obey, leaveOrReport_eq deep, regions]
        rfl
      rcases after_ih (grounded_obey (Nat.le_of_lt deep) _) with ⟨later_faultless, later_restored⟩
      constructor
      · have entering : r.fault? (.enter area offset) = none := rfl
        have leaving : (inner.obeyAll body).fault? .leave = none := by
          rw [fault?, leaveOrReport_eq deep]
        rw [faults, entering, opened, faults_append, faultless, faults, leaving]
        exact later_faultless
      · have stages : r.obeyAll (.enter area offset :: (body ++ .leave :: rest)) =
            ((inner.obeyAll body).obey .leave).obeyAll rest := by
          rw [obeyAll, List.foldl_cons, opened, ← obeyAll, obeyAll_append]
          rfl
        rw [stages]
        exact later_restored.trans left

def enterAll? (r : Renderer) : List (Rect × Point) → Option Renderer
  | [] => some r
  | (area, offset) :: rest => (r.enter? area offset).bind (enterAll? · rest)

def movedX (entered : List (Rect × Point)) : Int := (entered.map (·.2.x.toInt)).sum

def movedY (entered : List (Rect × Point)) : Int := (entered.map (·.2.y.toInt)).sum

def OnPlane (x y : Int) : Prop :=
  (-2147483648 ≤ x ∧ x ≤ 2147483647) ∧ -2147483648 ≤ y ∧ y ≤ 2147483647

instance (x y : Int) : Decidable (OnPlane x y) := inferInstanceAs (Decidable ((_ ∧ _) ∧ _ ∧ _))

/-- Regions entered in a region that is there. The first of them is seen from its origin, each of
the others from where those before have moved it. -/
theorem enterAll?_of_region {r reached : Renderer} {outer : Region}
    (current : r.region? = some outer) {entered : List (Rect × Point)}
    (reaches : r.enterAll? entered = some reached)
    (fits : ∀ i ≤ entered.length, OnPlane (outer.origin.x.toInt + movedX (entered.take i))
      (outer.origin.y.toInt + movedY (entered.take i))) :
    ∃ inner, reached.region? = some inner ∧
      inner.origin.x.toInt = outer.origin.x.toInt + movedX entered ∧
      inner.origin.y.toInt = outer.origin.y.toInt + movedY entered ∧
      ∀ p : Point, 0 ≤ p.x.toInt → 0 ≤ p.y.toInt →
        (p ∈ inner.clip ↔ p ∈ outer.clip ∧ ∀ (i : Nat) (deeper : i < entered.length),
          entered[i].1.HoldsPair
            (p.x.toInt - (outer.origin.x.toInt + movedX (entered.take i)))
            (p.y.toInt - (outer.origin.y.toInt + movedY (entered.take i)))) := by
  induction entered generalizing r outer with
  | nil =>
      cases reaches
      refine ⟨outer, current, (Int.add_zero _).symm, (Int.add_zero _).symm, ?_⟩
      simp
  | cons region rest ih =>
      rcases region with ⟨area, offset⟩
      rcases Option.bind_eq_some_iff.mp reaches with ⟨middle, opens, reaches⟩
      rw [enter?_of_region current] at opens
      rcases Option.map_eq_some_iff.mp opens with ⟨next, opened, rfl⟩
      rcases Region.within?_some opened with ⟨same, _⟩
      have first := fits 1 (Nat.succ_le_succ (Nat.zero_le _))
      simp only [movedX, movedY, List.take_succ_cons, List.take_zero, List.map_cons, List.map_nil,
        List.sum_cons, List.sum_nil, Int.add_zero] at first
      have x : next.origin.x.toInt = outer.origin.x.toInt + offset.x.toInt := by
        rw [same, toInt_saturatingAdd]
        rcases first with ⟨across, _⟩
        omega
      have y : next.origin.y.toInt = outer.origin.y.toInt + offset.y.toInt := by
        rw [same, toInt_saturatingAdd]
        rcases first with ⟨_, down⟩
        omega
      have moved_x (part : List (Rect × Point)) : outer.origin.x.toInt +
          movedX ((area, offset) :: part) = next.origin.x.toInt + movedX part := by
        rw [x, Int.add_assoc]
        rfl
      have moved_y (part : List (Rect × Point)) : outer.origin.y.toInt +
          movedY ((area, offset) :: part) = next.origin.y.toInt + movedY part := by
        rw [y, Int.add_assoc]
        rfl
      have rest_fits : ∀ i ≤ rest.length, OnPlane (next.origin.x.toInt + movedX (rest.take i))
          (next.origin.y.toInt + movedY (rest.take i)) := by
        intro i within
        rw [← moved_x, ← moved_y]
        exact fits (i + 1) (Nat.succ_le_succ within)
      rcases ih rfl reaches rest_fits with ⟨inner, last, across, down, shows⟩
      refine ⟨inner, last, across.trans (moved_x rest).symm, down.trans (moved_y rest).symm, ?_⟩
      intro p right below
      have clipped : p ∈ next.clip ↔ p ∈ outer.clip ∧
          area.HoldsPair (p.x.toInt - outer.origin.x.toInt) (p.y.toInt - outer.origin.y.toInt) := by
        rw [same, Rect.mem_overlap, and_comm]
        exact and_congr_right fun inside => Rect.mem_shift_iff inside right below
      rw [shows p right below, clipped, and_assoc]
      refine and_congr_right fun _ => ?_
      simp only [← moved_x, ← moved_y]
      constructor
      · rintro ⟨own, others⟩ i deeper
        cases i with
        | zero => simpa [movedX, movedY] using own
        | succ i => exact others i (Nat.lt_of_succ_lt_succ deeper)
      · intro all
        refine ⟨?_, fun i deeper => all (i + 1) (Nat.succ_lt_succ deeper)⟩
        simpa [movedX, movedY] using all 0 (Nat.zero_lt_succ _)

/-- Regions that are left again restore the stack, and no leave among them fails; a region that is
refused leaves it alone; and the innermost of several regions, entered one inside the other on an
empty stack, has its origin where their offsets add up to, and shows the points that lie in all of
them. -/
theorem regions_compose (backend : Backend) (own : List Region) (earlier : List Command) :
    let r := (based backend own).obeyAll earlier
    (∀ commands, r.Balanced commands →
        r.faults commands = [] ∧ (r.obeyAll commands).regions = r.regions) ∧
      (∀ area offset, r.enter? area offset = none → r.obey (.enter area offset) = r) ∧
      (r.regions = [] → ∀ area offset inside reached,
        r.enterAll? ((area, offset) :: inside) = some reached →
        (∀ i ≤ inside.length + 1, OnPlane (movedX (((area, offset) :: inside).take i))
          (movedY (((area, offset) :: inside).take i))) →
        ∃ inner, reached.region? = some inner ∧
          inner.origin.x.toInt = movedX ((area, offset) :: inside) ∧
          inner.origin.y.toInt = movedY ((area, offset) :: inside) ∧
          ∀ p : Point, 0 ≤ p.x.toInt → 0 ≤ p.y.toInt →
            (p ∈ inner.clip ↔ p ∈ area ∧ ∀ (i : Nat) (deeper : i < inside.length),
              inside[i].1.HoldsPair
                (p.x.toInt - movedX (((area, offset) :: inside).take (i + 1)))
                (p.y.toInt - movedY (((area, offset) :: inside).take (i + 1))))) := by
  intro r
  have grounded : r.baseline ≤ r.depth := grounded_obeyAll (Nat.le_refl _) earlier
  refine ⟨fun commands balanced => balanced.restores grounded, ?_, ?_⟩
  · intro area offset refused
    rw [obey, refused, Option.getD_none]
  · intro empty area offset inside reached reaches fits
    have opens : r.enter? area offset = some { r with regions := [⟨area, offset⟩] } := by
      rw [enter?, empty]
    rw [enterAll?, opens, Option.bind_some] at reaches
    have current : Renderer.region? { r with regions := [⟨area, offset⟩] } = some ⟨area, offset⟩ :=
      rfl
    exact enterAll?_of_region current reaches fun i within => fits (i + 1) (Nat.succ_le_succ within)

def twoDeep : List Command :=
  [.enter ⟨0, 0, 100, 100⟩ ⟨10, 10⟩, .enter ⟨200, 200, 50, 50⟩ ⟨1, 1⟩,
    .enter ⟨80, 80, 50, 50⟩ ⟨80, 80⟩, .fill .white ⟨0, 0, 5, 5⟩, .leave, .leave]

theorem regions_compose_two_deep :
    (based (.device 0) []).faults twoDeep = [] ∧
      ((based (.device 0) []).obeyAll twoDeep).regions = [] ∧
      ∃ inner reached, (based (.device 0) []).enterAll?
          [(⟨0, 0, 100, 100⟩, ⟨10, 10⟩), (⟨80, 80, 50, 50⟩, ⟨80, 80⟩)] = some reached ∧
        reached.region? = some inner ∧ inner.origin.x.toInt = 90 ∧ inner.origin.y.toInt = 90 ∧
        (⟨99, 90⟩ : Point) ∈ inner.clip := by
  rcases regions_compose (.device 0) [] [] with ⟨restores, _, composes⟩
  have balanced : (based (.device 0) []).Balanced twoDeep := by
    refine @Balanced.entered _ _ _ _ [_, _, _, _] [] rfl ?_ .nil
    refine .refused rfl ?_
    exact @Balanced.entered _ _ _ _ [_] [] rfl (.flat rfl .nil) .nil
  rcases restores twoDeep balanced with ⟨faultless, restored⟩
  rcases composes rfl ⟨0, 0, 100, 100⟩ ⟨10, 10⟩ [(⟨80, 80, 50, 50⟩, ⟨80, 80⟩)] _ rfl
    (by decide) with ⟨inner, current, x, y, shows⟩
  refine ⟨faultless, restored, inner, _, rfl, current, x, y, ?_⟩
  exact (shows ⟨99, 90⟩ (by decide) (by decide)).mpr ⟨by decide, by decide⟩

end Renderer

end Compositing
