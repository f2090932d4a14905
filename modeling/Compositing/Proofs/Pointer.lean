import Mathlib.Tactic.Linarith
import Compositing.Output.Framebuffer
import Compositing.Proofs.Layout
import Compositing.Proofs.Plane
import Compositing.Proofs.Repaint

/-! Where the pointer can be. A pointer that is moved ends up on a viewport; no other request moves
it, so it stays on the desktop until that viewport is rearranged or goes. -/

namespace Compositing

theorem Rect.isEmpty_of_mem {r : Rect} {p : Point} (inside : p ∈ r) : r.isEmpty = false := by
  rcases inside with ⟨left, right, above, below⟩
  rw [Int32.le_iff_toInt_le] at left above
  rw [Int32.lt_iff_toInt_lt] at right below
  rw [Rect.right, toInt_saturatingAdd] at right
  rw [Rect.bottom, toInt_saturatingAdd] at below
  have x := toInt_bounds r.x
  have y := toInt_bounds r.y
  simp only [isEmpty, Bool.or_eq_false_iff, decide_eq_false_iff_not, Int32.le_iff_toInt_le,
    toInt_zero]
  omega

namespace Desktop

structure Pointable (r : Rect) : Prop where
  filled : r.isEmpty = false
  x : r.x ≠ Int32.maxValue
  y : r.y ≠ Int32.maxValue

theorem sides_pos {r : Rect} (filled : r.isEmpty = false) :
    0 < r.width.toInt ∧ 0 < r.height.toInt := by
  simpa only [Rect.isEmpty, Bool.or_eq_false_iff, decide_eq_false_iff_not, Int32.le_iff_toInt_le,
    toInt_zero, Int.not_le] using filled

theorem toInt_last (start : Int32) {size : Int32} (filled : 0 < size.toInt) :
    (saturatingAdd start size - 1).toInt = (saturatingAdd start size).toInt - 1 := by
  have bounds := toInt_bounds start
  have one : (1 : Int32).toInt = 1 := rfl
  have far := toInt_saturatingAdd start size
  rw [toInt_sub_of_fits _ _ (by rw [one]; omega) (by rw [one]; omega), one]

/-- The last coordinate of a range comes before the first one only at the far end of the plane. -/
theorem last_lt_start {start size : Int32} (filled : 0 < size.toInt) :
    saturatingAdd start size - 1 < start ↔ start = Int32.maxValue := by
  have greatest : Int32.maxValue.toInt = 2147483647 := rfl
  have bounds := toInt_bounds start
  rw [Int32.lt_iff_toInt_lt, toInt_last start filled, toInt_saturatingAdd, ← Int32.toInt_inj,
    greatest]
  omega

theorem clamp?_eq_some (value : Int32) {low high : Int32} (order : low ≤ high) :
    ∃ held, clamp? value low high = some held ∧ low ≤ held ∧ held ≤ high ∧
      (low ≤ value → value ≤ high → held = value) := by
  simp only [Int32.le_iff_toInt_le] at order ⊢
  have inOrder : ¬ high < low := by
    rw [Int32.lt_iff_toInt_lt]
    omega
  rw [clamp?, if_neg inOrder]
  simp only [Int32.lt_iff_toInt_lt]
  split
  · exact ⟨low, rfl, by omega, by omega, by omega⟩
  · split
    · exact ⟨high, rfl, by omega, by omega, by omega⟩
    · exact ⟨value, rfl, by omega, by omega, fun _ _ => rfl⟩

theorem clamp?_span (value : Int32) {start size : Int32} (filled : 0 < size.toInt)
    (inner : start ≠ Int32.maxValue) :
    ∃ held, clamp? value start (saturatingAdd start size - 1) = some held ∧ start ≤ held ∧
      held < saturatingAdd start size ∧
      (start ≤ value → value < saturatingAdd start size → held = value) := by
  have last := toInt_last start filled
  have order : start ≤ saturatingAdd start size - 1 :=
    Int32.not_lt.mp fun beyond => inner ((last_lt_start filled).mp beyond)
  rcases clamp?_eq_some value order with ⟨held, clamped, low, high, same⟩
  simp only [Int32.le_iff_toInt_le, Int32.lt_iff_toInt_lt] at low high same ⊢
  exact ⟨held, clamped, low, by omega, fun near far => same near (by omega)⟩

theorem nearestIn?_spec {r : Rect} (pointable : Pointable r) (p : Point) :
    ∃ q, nearestIn? r p = some q ∧ q ∈ r ∧ (p ∈ r → q = p) := by
  have filled := sides_pos pointable.filled
  rcases clamp?_span p.x filled.1 pointable.x with ⟨x, across, left, right, sameX⟩
  rcases clamp?_span p.y filled.2 pointable.y with ⟨y, down, above, below, sameY⟩
  refine ⟨⟨x, y⟩, ?_, ⟨left, right, above, below⟩, ?_⟩
  · rw [nearestIn?, Rect.right, across, Rect.bottom, down]
    rfl
  · intro inside
    rw [sameX inside.1 inside.2.1, sameY inside.2.2.1 inside.2.2.2]

theorem distance_self (p : Point) : distance p p = 0 := by
  simp [distance]

theorem square_bounds (a : Int32) : 0 ≤ a.toInt * a.toInt ∧ a.toInt * a.toInt ≤ 2 ^ 62 := by
  have bounds := toInt_bounds a
  constructor
  · exact mul_self_nonneg a.toInt
  · nlinarith

/-- The square of a distance can wrap round, but not to nothing. -/
theorem eq_of_distance {p q : Point} (touching : distance p q = 0) : p = q := by
  let dx := (q.x - p.x).toInt
  let dy := (q.y - p.y).toInt
  have across : 0 ≤ dx * dx ∧ dx * dx ≤ 2 ^ 62 := square_bounds _
  have down : 0 ≤ dy * dy ∧ dy * dy ≤ 2 ^ 62 := square_bounds _
  have wrapped : (dx * dx + dy * dy).bmod (2 ^ 64) = 0 := by
    have value := congrArg Int64.toInt touching
    simpa [distance, Int64.toInt_add, Int64.toInt_mul, Int32.toInt_toInt64, dx, dy] using value
  have whole : (2 ^ 64 : Int) ∣ dx * dx + dy * dy := Int.dvd_of_bmod_eq_zero wrapped
  have nothing : dx * dx + dy * dy = 0 :=
    Int.eq_zero_of_dvd_of_nonneg_of_lt (by omega) (by omega) whole
  have flat : dx * dx = 0 ∧ dy * dy = 0 := by omega
  have still : ∀ a b : Int32, (a - b).toInt * (a - b).toInt = 0 → b = a := by
    intro a b same
    have none : a - b = 0 := Int32.toInt_inj.mp (mul_self_eq_zero.mp same)
    rw [Int32.sub_eq_iff_eq_add, Int32.zero_add] at none
    exact none.symm
  have x : p.x = q.x := still q.x p.x flat.1
  have y : p.y = q.y := still q.y p.y flat.2
  calc p = ⟨p.x, p.y⟩ := rfl
    _ = ⟨q.x, q.y⟩ := by rw [x, y]
    _ = q := rfl

section Search

variable {p c : Point} {r : Rect} {best : Option (Point × Int64)} {rest : List Rect}
  (found : nearestIn? r p = some c) (inside : c ∈ r) (itself : p ∈ r → c = p)

include inside itself in
theorem distance_eq_zero : distance p c = 0 ↔ p ∈ r := by
  constructor
  · intro touching
    rw [eq_of_distance touching]
    exact inside
  · intro within
    rw [itself within, distance_self]

include found inside itself

theorem nearest?_of_mem (within : p ∈ r) : nearest? p best (r :: rest) = some p := by
  rw [nearest?, found]
  exact if_pos ((distance_eq_zero inside itself).mpr within)

theorem nearest?_of_not_mem (outside : p ∉ r) :
    nearest? p best (r :: rest) =
      nearest? p (if best.all (distance p c < ·.2) then some (c, distance p c) else best) rest := by
  have apart : ¬ distance p c = 0 := fun touching =>
    outside ((distance_eq_zero inside itself).mp touching)
  rw [nearest?, found]
  simp only [bind, Option.bind_some, if_neg apart]
  split <;> rfl

end Search

/-- A search that has found a point already, or has rectangles to search, finds a point of one of
them, and the very point it looks for if that is in one. -/
theorem nearest?_spec {rects : List Rect} (pointable : ∀ r ∈ rects, Pointable r) (p : Point)
    (best : Option (Point × Int64)) (starts : best.isSome ∨ rects ≠ []) :
    ∃ q, nearest? p best rects = some q ∧
      ((∃ away, best = some (q, away)) ∨ ∃ r ∈ rects, q ∈ r) ∧ ((∃ r ∈ rects, p ∈ r) → q = p) := by
  induction rects generalizing best with
  | nil =>
      rcases Option.isSome_iff_exists.mp (starts.resolve_right (fun none => none rfl)) with
        ⟨⟨q, away⟩, found⟩
      exact ⟨q, by rw [nearest?, found]; rfl, .inl ⟨away, found⟩, by simp⟩
  | cons r rest ih =>
      rcases List.forall_mem_cons.mp pointable with ⟨here, later⟩
      rcases nearestIn?_spec here p with ⟨c, held, inside, itself⟩
      by_cases within : p ∈ r
      · rw [nearest?_of_mem held inside itself within]
        exact ⟨p, rfl, .inr ⟨r, List.mem_cons_self, within⟩, fun _ => rfl⟩
      · rw [nearest?_of_not_mem held inside itself within]
        have known : (if best.all (distance p c < ·.2) then some (c, distance p c)
            else best).isSome := by
          cases best with
          | none => rfl
          | some entry => split <;> rfl
        rcases ih later _ (.inl known) with ⟨q, search, place, exact⟩
        refine ⟨q, search, ?_, ?_⟩
        · rcases place with ⟨away, kept⟩ | ⟨other, member, there⟩
          · split at kept
            · cases kept
              exact .inr ⟨r, List.mem_cons_self, inside⟩
            · exact .inl ⟨away, kept⟩
          · exact .inr ⟨other, List.mem_cons_of_mem r member, there⟩
        · rintro ⟨other, member, there⟩
          rcases List.mem_cons.mp member with rfl | member
          · exact absurd there within
          · exact exact ⟨other, member, there⟩

theorem confine?_spec {d : Desktop} {p : Point}
    (pointable : ∀ r ∈ d.places.values, r.isEmpty = false → Pointable r)
    (filled : ∃ r ∈ d.places.values, r.isEmpty = false) :
    ∃ q, d.confine? p = some q ∧ (∃ r ∈ d.places.values, q ∈ r) ∧
      ((∃ r ∈ d.places.values, p ∈ r) → q = p) := by
  have shown : ∀ r, r ∈ d.places.values.filter (fun r => !r.isEmpty) ↔
      r ∈ d.places.values ∧ r.isEmpty = false := by simp
  have every : ∀ r ∈ d.places.values.filter (fun r => !r.isEmpty), Pointable r := by
    intro r member
    exact pointable r ((shown r).mp member).1 ((shown r).mp member).2
  rcases filled with ⟨r, member, filled⟩
  have some : d.places.values.filter (fun r => !r.isEmpty) ≠ [] :=
    List.ne_nil_of_mem ((shown r).mpr ⟨member, filled⟩)
  rcases nearest?_spec every p none (.inr some) with ⟨q, search, place, exact⟩
  refine ⟨q, search, ?_, ?_⟩
  · rcases place with ⟨_, none⟩ | ⟨other, listed, inside⟩
    · cases none
    · exact ⟨other, ((shown other).mp listed).1, inside⟩
  · intro there
    rcases there with ⟨other, listed, inside⟩
    exact exact ⟨other, (shown other).mpr ⟨listed, Rect.isEmpty_of_mem inside⟩, inside⟩

end Desktop

namespace Screen

variable {δ : Type} [Output δ] {s : Screen}

inductive Request (δ : Type)
  | operation (operation : Operation δ)
  | point (p : Point)

/-- A pointer that has nowhere to go stays where it is. -/
def ask (scene : Scene δ) : Request δ → Scene δ
  | .operation operation => perform scene operation
  | .point p => ((scene.1.movePointer? p).getD scene.1, scene.2)

def askAll (scene : Scene δ) (requests : List (Request δ)) : Scene δ := requests.foldl ask scene

theorem movePointer?_frame {p : Point} {moved : Screen} (moves : s.movePointer? p = some moved) :
    moved = { s with pointer := moved.pointer } := by
  rcases Option.map_eq_some_iff.mp moves with ⟨pointer, _, rfl⟩
  rfl

theorem ask_laid (inStep : s.InStep []) (laid : s.Laid) (stage : Stage δ) (request : Request δ) :
    (ask (s, stage) request).1.InStep [] ∧ (ask (s, stage) request).1.Laid := by
  cases request with
  | operation operation =>
      exact ⟨perform_inStep inStep stage operation, laid.shift (perform_shift inStep stage operation)⟩
  | point p =>
      rw [ask]
      cases moves : s.movePointer? p with
      | none => exact ⟨inStep, laid⟩
      | some moved =>
          rw [Option.getD_some, movePointer?_frame moves]
          exact ⟨inStep, laid.places, laid.distinct⟩

theorem askAll_laid (inStep : s.InStep []) (laid : s.Laid) (stage : Stage δ)
    (requests : List (Request δ)) :
    (askAll (s, stage) requests).1.InStep [] ∧ (askAll (s, stage) requests).1.Laid := by
  induction requests generalizing s stage with
  | nil => exact ⟨inStep, laid⟩
  | cons request rest ih =>
      rcases ask_laid inStep laid stage request with ⟨inStep, laid⟩
      exact ih inStep laid _

theorem performAll_pointer (inStep : s.InStep []) (stage : Stage δ)
    (operations : List (Operation δ)) :
    (performAll (s, stage) operations).1.pointer = s.pointer := by
  induction operations generalizing s stage with
  | nil => rfl
  | cons operation rest ih =>
      calc (performAll (perform (s, stage) operation) rest).1.pointer
          = (perform (s, stage) operation).1.pointer := ih (perform_inStep inStep stage operation) _
        _ = s.pointer := (perform_shift inStep stage operation).pointer_eq

theorem performAll_keeps (inStep : s.InStep []) (stage : Stage δ) (operations : List (Operation δ))
    (still : ∀ operation ∈ operations, operation.rearranges = false) {id : ViewportId} {r : Rect}
    (found : s.bounds? id = some r) : (performAll (s, stage) operations).1.bounds? id = some r := by
  induction operations generalizing s stage with
  | nil => exact found
  | cons operation rest ih =>
      rcases List.forall_mem_cons.mp still with ⟨here, still⟩
      have kept := (perform_shift inStep stage operation).keeps (by rw [here]; decide) found
      exact ih (perform_inStep inStep stage operation) _ still kept

/-- Where the pointer of a screen can be, whatever the screen has been asked for. Operations leave
it where it is. A pointer that is moved ends up on an attached viewport, and just where it was to
go if a viewport is there; from then on it stays on that viewport, until viewports are rearranged.
There has to be a viewport that is not empty, and none may begin at the far end of the plane. -/
theorem pointer_confined (config : Config) (root : Tree) (stage : Stage δ)
    (requests : List (Request δ)) :
    let s := (askAll (create config root, stage) requests).1
    (∀ (now : Stage δ) operations, (performAll (s, now) operations).1.pointer = s.pointer) ∧
      ∀ p, (∃ id v, s.viewports.get? id = some v ∧ v.bounds.isEmpty = false) →
        (∀ id v, s.viewports.get? id = some v →
          v.bounds.x ≠ Int32.maxValue ∧ v.bounds.y ≠ Int32.maxValue) →
        ∃ moved, s.movePointer? p = some moved ∧
          ((∃ id v, s.viewports.get? id = some v ∧ p ∈ v.bounds) → moved.pointer = p) ∧
          ∀ (now : Stage δ) operations,
            (∀ operation ∈ operations, operation.rearranges = false) →
            ∃ id v, (performAll (moved, now) operations).1.viewports.get? id = some v ∧
              (performAll (moved, now) operations).1.pointer ∈ v.bounds := by
  intro s
  rcases askAll_laid (.create config root) (.create config root) stage requests with
    ⟨inStep, laid⟩
  refine ⟨performAll_pointer inStep, ?_⟩
  intro p filled inner
  have pointable : ∀ r ∈ s.desktop.places.values, r.isEmpty = false → Desktop.Pointable r := by
    intro r member filled
    rcases laid.mem_values.mp member with ⟨id, v, found, rfl⟩
    exact ⟨filled, (inner id v found).1, (inner id v found).2⟩
  rcases filled with ⟨id, v, found, filled⟩
  rcases Desktop.confine?_spec (p := p) pointable
      ⟨v.bounds, laid.mem_values.mpr ⟨id, v, found, rfl⟩, filled⟩ with
    ⟨q, held, ⟨r, member, inside⟩, same⟩
  refine ⟨{ s with pointer := q }, by rw [movePointer?, held]; rfl, ?_, ?_⟩
  · intro shown
    rcases shown with ⟨id, v, found, within⟩
    exact same ⟨v.bounds, laid.mem_values.mpr ⟨id, v, found, rfl⟩, within⟩
  · intro now operations still
    rcases laid.mem_values.mp member with ⟨id, v, found, rfl⟩
    have moved : ({ s with pointer := q } : Screen).InStep [] := inStep
    have there := performAll_keeps moved now operations still (bounds?_of_found found)
    rcases bounds?_eq_some.mp there with ⟨w, shown, unmoved⟩
    refine ⟨id, w, shown, ?_⟩
    rw [performAll_pointer moved, unmoved]
    exact inside

section Small

def pointed : List (Request Framebuffer) := [.operation (.attach ⟨0⟩), .point ⟨5, 1⟩]

theorem pointer_confined_on_small_stage :
    ∃ moved, (askAll (create { delay := 1 } fun _ _ => Viewport.smallProgram,
        Viewport.smallStage) pointed).1.movePointer? ⟨-3, 7⟩ = some moved ∧
      ∃ id v, (performAll (moved, Viewport.smallStage) [.attach ⟨0⟩, .flush]).1.viewports.get? id =
          some v ∧
        (performAll (moved, Viewport.smallStage) [.attach ⟨0⟩, .flush]).1.pointer ∈ v.bounds := by
  let s := (askAll (create { delay := 1 } fun _ _ => Viewport.smallProgram,
    Viewport.smallStage) pointed).1
  have bounds : s.viewports.toList.map (·.2.bounds) = [⟨0, 0, 2, 2⟩] := by decide
  have inner : ∀ id v, s.viewports.get? id = some v →
      v.bounds.x ≠ Int32.maxValue ∧ v.bounds.y ≠ Int32.maxValue := by
    intro id v found
    have listed := bounds_listed found
    rw [bounds, List.mem_singleton] at listed
    rw [listed]
    decide
  rcases (pointer_confined { delay := 1 } (fun _ _ => Viewport.smallProgram) Viewport.smallStage
      pointed).2 ⟨-3, 7⟩ ⟨⟨0⟩, _, rfl, rfl⟩ inner with ⟨moved, moves, _, stays⟩
  have still : ∀ operation ∈ [.attach ⟨0⟩, .flush],
      (operation : Operation Framebuffer).rearranges = false := by simp [Operation.rearranges]
  exact ⟨moved, moves, stays Viewport.smallStage [.attach ⟨0⟩, .flush] still⟩

/-- Nothing moves the pointer along with the viewport that it is on, so that it is left behind. -/
theorem pointer_left_behind :
    let s := (askAll (create { delay := 1 } fun _ _ => Viewport.smallProgram,
      Viewport.smallStage) (pointed ++ [.operation (.moveTo ⟨0⟩ ⟨1000, 0⟩)])).1
    s.viewports.toList.map (·.2.bounds) = [⟨1000, 0, 2, 2⟩] ∧ s.pointer = ⟨1, 1⟩ ∧
      ¬ ∃ id v, s.viewports.get? id = some v ∧ s.pointer ∈ v.bounds := by
  intro s
  have bounds : s.viewports.toList.map (·.2.bounds) = [⟨1000, 0, 2, 2⟩] := by decide
  refine ⟨bounds, by decide, ?_⟩
  intro held
  rcases held with ⟨id, v, found, inside⟩
  have listed := bounds_listed found
  rw [bounds, List.mem_singleton] at listed
  rw [listed] at inside
  revert inside
  decide

end Small

end Screen

end Compositing
