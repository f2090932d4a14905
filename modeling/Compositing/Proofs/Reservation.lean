import Mathlib.Data.List.Infix
import Compositing.Buffer
import Compositing.Proofs.Survival
import Compositing.Proofs.Tables

/-! Room for a resize. A vector takes more room only when it has to hold more words than it has room
for; but the larger a surface is in both directions, the more words it has, so that within what has
been reserved no size asks for more, not even while the rows are on their way. -/

namespace Compositing

def Size.Within (size largest : Size) : Prop :=
  size.width ≤ largest.width ∧ size.height ≤ largest.height

instance (size largest : Size) : Decidable (size.Within largest) :=
  inferInstanceAs (Decidable (_ ∧ _))

namespace Surface

/-- How a vector gets more room: what it has room for once it has to hold `length` words, which are
more than its capacity. -/
structure Growth where
  room : (capacity length : Nat) → Nat
  enough : ∀ capacity length, capacity < length → length ≤ room capacity length

namespace Growth

/-- What a vector has room for once room for `length` words is asked for; if it has that already,
nothing changes. -/
def after (growth : Growth) (capacity length : Nat) : Nat :=
  if length ≤ capacity then capacity else growth.room capacity length

def frugal : Growth := ⟨fun _ length => length, fun _ _ _ => le_rfl⟩

def doubling : Growth where
  room capacity length := max 4 (max (2 * capacity) length)
  enough capacity length _ := by omega

variable (growth : Growth) {capacity length : Nat}

theorem after_of_le (fits : length ≤ capacity) : growth.after capacity length = capacity :=
  if_pos fits

theorem le_after (capacity length : Nat) : length ≤ growth.after capacity length := by
  rw [after]
  split
  · assumption
  · rename_i short
    exact growth.enough capacity length (Nat.not_le.mp short)

theorem frugal_after : frugal.after capacity length = roomFor capacity length := by
  rw [after, roomFor]
  split
  · rename_i fits
    exact (Nat.max_eq_left fits).symm
  · rename_i short
    exact (Nat.max_eq_right (Nat.le_of_not_le short)).symm

end Growth

inductive Storage.Step
  /-- Cuts the vector off, or fills it up with zeros. -/
  | fit (length : Nat)
  | copy (source target length : Nat)

def Storage.Step.Within (room : Nat) : Storage.Step → Prop
  | fit length => length ≤ room
  | copy .. => True

namespace Storage

def step? (growth : Growth) (held : Storage) : Step → Option Storage
  | .fit length => some ⟨Array.ofFn fun index : Fin length => held.words.getD index 0,
      growth.after held.capacity length⟩
  | .copy source target length =>
      (copyWithin? held.words source target length).map ({ held with words := · })

def run? (growth : Growth) (held : Storage) (steps : List Step) : Option Storage :=
  steps.foldlM (step? growth) held

structure Housed (held : Storage) (room : Nat) : Prop where
  capacity : held.capacity = room
  length : held.words.size ≤ room

section Run

variable {growth : Growth} {held after : Storage} {room : Nat}

theorem size_of_copyWithin? {words copied : Array UInt32} {source target length : Nat}
    (did : copyWithin? words source target length = some copied) : copied.size = words.size := by
  rw [copyWithin?] at did
  split at did
  · cases did
    exact Array.size_ofFn
  · cases did

theorem Housed.step {step : Step} (housed : held.Housed room) (within : step.Within room)
    (did : held.step? growth step = some after) : after.Housed room := by
  cases step with
  | fit length =>
      cases did
      refine ⟨?_, ?_⟩
      · rw [growth.after_of_le (housed.capacity ▸ within), housed.capacity]
      · rw [Array.size_ofFn]
        exact within
  | copy source target length =>
      obtain ⟨words, copied, rfl⟩ := Option.map_eq_some_iff.mp did
      exact ⟨housed.capacity, (size_of_copyWithin? copied).le.trans housed.length⟩

theorem Housed.run {steps : List Step} (housed : held.Housed room)
    (within : ∀ step ∈ steps, step.Within room) (ran : held.run? growth steps = some after) :
    after.Housed room := by
  induction steps generalizing held with
  | nil =>
      cases ran
      exact housed
  | cons step rest ih =>
      rcases List.forall_mem_cons.mp within with ⟨first, later⟩
      rw [run?, List.foldlM_cons] at ran
      rcases Option.bind_eq_some_iff.mp ran with ⟨next, did, ran⟩
      exact ih (housed.step first did) later ran

theorem run?_part {steps done : List Step} (ran : held.run? growth steps = some after)
    (early : done <+: steps) : ∃ part, held.run? growth done = some part := by
  rcases early with ⟨rest, rfl⟩
  rw [run?, List.foldlM_append] at ran
  rcases Option.bind_eq_some_iff.mp ran with ⟨part, did, _⟩
  exact ⟨part, did⟩

theorem step?_fit {length : Nat} (fits : length ≤ held.capacity) :
    held.step? growth (.fit length) = some (held.fit length) := by
  rw [step?, fit, growth.after_of_le fits, roomFor, Nat.max_eq_left fits]

def copies (oldRow newRow : Nat) (rows : List Nat) : List Step :=
  rows.map fun row => .copy (row * oldRow) (row * newRow) (min oldRow newRow)

/-- Rows that spread out are given room before they go, last row first. -/
def moveSteps (held : Storage) (oldRow newRow rows length : Nat) : List Step :=
  (if oldRow < newRow ∧ held.words.size < length then [.fit length] else []) ++
    (copies oldRow newRow (if oldRow < newRow then (List.range rows).reverse else List.range rows) ++
      [.fit length])

theorem run?_copies {oldRow newRow : Nat} (rows : List Nat) :
    held.run? growth (copies oldRow newRow rows) =
      (rows.foldlM (fun words row =>
        copyWithin? words (row * oldRow) (row * newRow) (min oldRow newRow)) held.words).map
          ({ held with words := · }) := by
  induction rows generalizing held with
  | nil => rfl
  | cons row rest ih =>
      rw [copies, List.map_cons, run?, List.foldlM_cons, List.foldlM_cons, step?]
      cases copyWithin? held.words (row * oldRow) (row * newRow) (min oldRow newRow) with
      | none => rfl
      | some words => exact ih

theorem run?_append (first second : List Step) :
    held.run? growth (first ++ second) = (held.run? growth first).bind (·.run? growth second) :=
  List.foldlM_append

/-- Where there is room, it does not matter how a vector would grow. -/
theorem run?_moveSteps {oldRow newRow rows length : Nat} (fits : length ≤ held.capacity) :
    held.run? growth (held.moveSteps oldRow newRow rows length) =
      held.moveRows? oldRow newRow rows length := by
  have stays : (held.fit length).capacity = held.capacity := Nat.max_eq_left fits
  -- rows that spread out may have the vector filled up first, which leaves it its room
  have first : held.run? growth
      (if oldRow < newRow ∧ held.words.size < length then [.fit length] else []) =
        some (if oldRow < newRow ∧ held.words.size < length then held.fit length else held) := by
    split
    · rw [run?, List.foldlM_cons, step?_fit fits]
      rfl
    · rfl
  have roomy : (if oldRow < newRow ∧ held.words.size < length then held.fit length
      else held).capacity = held.capacity := by
    split
    · exact stays
    · rfl
  rw [moveSteps, run?_append, first, Option.bind_some, run?_append, run?_copies, moveRows?]
  generalize (if oldRow < newRow ∧ held.words.size < length then held.fit length else held) = now
    at roomy ⊢
  rw [Option.bind_map]
  refine congrArg _ (funext fun words => ?_)
  have last : length ≤ ({ now with words } : Storage).capacity := roomy.symm ▸ fits
  change run? growth { now with words } [.fit length] = _
  rw [run?, List.foldlM_cons, step?_fit last]
  rfl

theorem moveSteps_within {oldRow newRow rows length : Nat} (fits : length ≤ room) :
    ∀ step ∈ held.moveSteps oldRow newRow rows length, step.Within room := by
  have moves (rows : List Nat) : ∀ step ∈ copies oldRow newRow rows, step.Within room := by
    intro step member
    obtain ⟨row, _, rfl⟩ := List.mem_map.mp member
    trivial
  rw [moveSteps, List.forall_mem_append, List.forall_mem_append]
  refine ⟨?_, moves _, List.forall_mem_singleton.mpr fits⟩
  split
  · exact List.forall_mem_singleton.mpr fits
  · intro step member
    cases member

end Run

end Storage

section Resize

variable (growth : Growth) (s : Surface) (size : Size)

def storage : Storage := ⟨s.words, s.capacity⟩

def resizeSteps : List Storage.Step :=
  let width := max size.width 0
  let height := max size.height 0
  if width = s.width ∧ height = s.height then [] else
    let row := s.format.stride width / 4
    s.storage.moveSteps (s.stride / 4) row (min s.height height).toNatClampNeg
      (row * height.toNatClampNeg)

def resizeBy? : Option Surface := do
  let width := max size.width 0
  let height := max size.height 0
  if width = s.width ∧ height = s.height then
    return s
  let held ← s.storage.run? growth (s.resizeSteps size)
  let moved : Surface := ⟨s.format, width, height, held.words, held.capacity⟩
  return (exposed width height (min s.width width) (min s.height height)).foldl
    (fun s p => s.setPixel p 0) moved

def reserveBy (largest : Size) : Surface :=
  let wanted := s.format.stride largest.width / 4 * largest.height.toNatClampNeg
  { s with capacity := growth.after s.capacity (s.words.size + (wanted - s.words.size)) }

end Resize

theorem stride_mul_eq_wordsFor (format : Format) (width height : Int32) :
    format.stride width / 4 * height.toNatClampNeg = wordsFor format width height := by
  rw [Format.stride, Nat.mul_div_cancel_left _ (by decide), wordsFor]

theorem toNatClampNeg_le {a b : Int32} (le : a ≤ b) : a.toNatClampNeg ≤ b.toNatClampNeg :=
  Int.toNat_le_toNat (Int32.le_iff_toInt_le.mp le)

theorem wordsFor_mono (format : Format) {size largest : Size} (within : size.Within largest) :
    wordsFor format size.width size.height ≤ wordsFor format largest.width largest.height := by
  have wide := toNatClampNeg_le within.1
  apply Nat.mul_le_mul _ (toNatClampNeg_le within.2)
  apply Nat.div_le_div_right
  omega

theorem paintAll_capacity (change : Point → Pixel → Pixel) (s : Surface) (points : List Point) :
    (s.paintAll change points).capacity = s.capacity := by
  induction points generalizing s with
  | nil => rfl
  | cons p rest ih =>
      refine (ih (s.setPixel p (change p (s.pixelOrClear p)))).trans ?_
      rw [setPixel]
      split <;> rfl

section Room

variable {growth : Growth} {s : Surface} {size : Size} {room : Nat}

theorem resize_capacity (fits : wordsFor s.format size.width size.height ≤ s.capacity) :
    (s.resize size.width size.height).capacity = s.capacity := by
  rw [resize_eq]
  split
  · rfl
  · rw [paintAll_capacity, moved, wordsFor_max_zero]
    exact Nat.max_eq_left fits

theorem resizeSteps_within (fits : wordsFor s.format size.width size.height ≤ room) :
    ∀ step ∈ s.resizeSteps size, step.Within room := by
  rw [resizeSteps]
  dsimp only
  split
  · intro step member
    cases member
  · apply Storage.moveSteps_within
    rwa [stride_mul_eq_wordsFor, wordsFor_max_zero]

theorem resizeBy?_eq (growth : Growth) (stored : s.Stored)
    (fits : wordsFor s.format size.width size.height ≤ s.capacity) :
    s.resizeBy? growth size = some (s.resize size.width size.height) := by
  rw [← resizeInPlace?_eq stored, resizeBy?, resizeInPlace?]
  by_cases same : max size.width 0 = s.width ∧ max size.height 0 = s.height
  · rw [if_pos same, if_pos same]
  · have room : s.format.stride (max size.width 0) / 4 * (max size.height 0).toNatClampNeg ≤
        s.storage.capacity := by
      rwa [stride_mul_eq_wordsFor, wordsFor_max_zero]
    rw [if_neg same, if_neg same, resizeSteps, if_neg same, Storage.run?_moveSteps room, storage]

theorem exists_run_of_resizeBy? {t : Surface} (done : s.resizeBy? growth size = some t) :
    ∃ held, s.storage.run? growth (s.resizeSteps size) = some held := by
  rw [resizeBy?] at done
  split at done
  · rename_i same
    rw [resizeSteps, if_pos same]
    exact ⟨_, rfl⟩
  · rcases Option.bind_eq_some_iff.mp done with ⟨held, ran, _⟩
    exact ⟨held, ran⟩

/-- What a surface with so much room does when it takes another size: its vector neither gets nor
needs more room, whatever has been done of the resize. -/
structure ResizesWithin (growth : Growth) (room : Nat) (t : Surface) (size : Size) : Prop where
  whole : t.resizeBy? growth size = some (t.resize size.width size.height)
  capacity : (t.resize size.width size.height).capacity = room
  between : ∀ done, done <+: t.resizeSteps size →
    ∃ held, t.storage.run? growth done = some held ∧ held.capacity = room ∧ held.words.size ≤ room

structure Reserved (t : Surface) (format : Format) (room : Nat) : Prop where
  format : t.format = format
  stored : t.Stored
  housed : t.storage.Housed room

theorem Reserved.resizesWithin {t : Surface} {format : Format} (reserved : t.Reserved format room)
    (fits : wordsFor format size.width size.height ≤ room) :
    t.ResizesWithin growth room size := by
  rcases reserved with ⟨rfl, stored, housed⟩
  have capacity : t.capacity = room := housed.capacity
  have whole := resizeBy?_eq growth stored (capacity.symm ▸ fits)
  rcases exists_run_of_resizeBy? whole with ⟨last, ran⟩
  refine ⟨whole, ?_, ?_⟩
  · rw [resize_capacity (capacity.symm ▸ fits), capacity]
  · intro done early
    rcases Storage.run?_part ran early with ⟨held, did⟩
    have within := resizeSteps_within fits
    have stays := housed.run (fun step member => within step (early.subset member)) did
    exact ⟨held, did, stays.capacity, stays.length⟩

theorem Reserved.resize {t : Surface} {format : Format} (reserved : t.Reserved format room)
    (fits : wordsFor format size.width size.height ≤ room) :
    (t.resize size.width size.height).Reserved format room := by
  rcases reserved with ⟨rfl, stored, housed⟩
  have capacity : t.capacity = room := housed.capacity
  have resized := resize_resized stored size
  refine ⟨resized.format, resize_stored stored _ _, ?_, ?_⟩
  · exact (resize_capacity (capacity.symm ▸ fits)).trans capacity
  · change (t.resize size.width size.height).words.size ≤ room
    rwa [resized.length, resized.stride, stride_mul_eq_wordsFor]

theorem reserveBy_reserved (growth : Growth) (stored : s.Stored) (largest : Size) :
    ∃ room, (s.reserveBy growth largest).Reserved s.format room ∧
      wordsFor s.format largest.width largest.height ≤ room := by
  have granted := growth.le_after s.capacity
    (s.words.size + (wordsFor s.format largest.width largest.height - s.words.size))
  rw [← stride_mul_eq_wordsFor] at granted ⊢
  refine ⟨_, ⟨rfl, stored, rfl, ?_⟩, ?_⟩
  · exact (Nat.le_add_right ..).trans granted
  · exact (Nat.sub_le_iff_le_add'.mp le_rfl).trans granted

/-- What is missing is what is wanted beyond what there is. -/
theorem reserveBy_frugal (housed : s.words.size ≤ s.capacity) (largest : Size) :
    s.reserveBy .frugal largest = s.reserve largest.width largest.height := by
  rw [reserveBy, stride_mul_eq_wordsFor, Growth.frugal_after, reserve]
  congr 1
  simp only [roomFor]
  omega

end Room

end Surface

namespace Surfaces

def reserveBy (growth : Surface.Growth) (surfaces : Surfaces) (id : SurfaceId) (largest : Size) :
    Except Fault Surfaces :=
  surfaces.withRoom id largest (·.reserveBy growth largest)

end Surfaces

namespace Buffer

section Brackets

variable (growth : Surface.Growth) (b : Buffer) (surfaces : Surfaces) (largest : Size)

def beginResizeBy : Except Fault (Buffer × Surfaces) :=
  if b.isResizing then .error .resizeOpen
  else do
    return ({ b with expected := some largest }, ← surfaces.reserveBy growth b.surface largest)

theorem beginResizeBy_frugal
    (housed : ∀ s, surfaces.get? b.surface = some s → s.words.size ≤ s.capacity) :
    b.beginResizeBy .frugal surfaces largest = b.beginResize surfaces largest := by
  have same : surfaces.reserveBy .frugal b.surface largest =
      surfaces.reserve b.surface largest := by
    rw [Surfaces.reserveBy, Surfaces.reserve, Surfaces.withRoom, Surfaces.withRoom]
    cases found : surfaces.get? b.surface with
    | none => rfl
    | some s => simp only [Surface.reserveBy_frugal (housed s found)]
  rw [beginResizeBy, beginResize, same]

inductive Opened : Buffer × Surfaces → Prop
  | reserved {later : Surfaces} (made : surfaces.reserveBy growth b.surface largest = .ok later) :
      Opened (b, later)
  | begun {scene : Buffer × Surfaces} (made : b.beginResizeBy growth surfaces largest = .ok scene) :
      Opened scene

end Brackets

inductive Resizing
  | surface (size : Size)
  | buffer (size : Size)

def Resizing.size : Resizing → Size
  | surface size | buffer size => size

def resized (scene : Buffer × Surfaces) : Resizing → Buffer × Surfaces
  | .surface size => (scene.1, (scene.2.resize scene.1.surface size).toOption.getD scene.2)
  | .buffer size => (scene.1.setSize scene.2 size).toOption.getD scene

def resizedAll (scene : Buffer × Surfaces) (resizings : List Resizing) : Buffer × Surfaces :=
  resizings.foldl resized scene

section Scene

variable {growth : Surface.Growth} {b : Buffer} {surfaces : Surfaces} {s : Surface}
  {largest size : Size} {scene : Buffer × Surfaces}

theorem of_beginResizeBy (made : b.beginResizeBy growth surfaces largest = .ok scene) :
    ∃ later, surfaces.reserveBy growth b.surface largest = .ok later ∧
      scene = ({ b with expected := some largest }, later) := by
  rw [beginResizeBy] at made
  split at made
  · cases made
  · rcases ok_of_bind made with ⟨later, room, same⟩
    cases same
    exact ⟨later, room, rfl⟩

theorem Opened.scene_eq (opened : b.Opened growth surfaces largest scene)
    (found : surfaces.get? b.surface = some s) :
    Surface.wordsFor s.format largest.width largest.height ≤ Surface.maxWords ∧
      ∃ expected, scene =
        ({ b with expected }, surfaces.set b.surface (s.reserveBy growth largest)) := by
  cases opened with
  | reserved made =>
      rcases Surfaces.of_withRoom found made with ⟨fits, rfl⟩
      exact ⟨fits, b.expected, rfl⟩
  | begun made =>
      rcases of_beginResizeBy made with ⟨later, room, rfl⟩
      rcases Surfaces.of_withRoom found room with ⟨fits, rfl⟩
      exact ⟨fits, some largest, rfl⟩

theorem setSize_of_found (closed : b.painters = []) (found : surfaces.get? b.surface = some s)
    (fits : Surface.wordsFor s.format size.width size.height ≤ Surface.maxWords) :
    b.setSize surfaces size = .ok
      ({ b with size := (s.resize size.width size.height).size },
        surfaces.set b.surface (s.resize size.width size.height)) := by
  simp [setSize, closed, found, Surfaces.resize, Surfaces.withRoom_of_found found fits]

end Scene

structure Roomy (b : Buffer) (format : Format) (room : Nat) (scene : Buffer × Surfaces) : Prop where
  same : ∃ size, scene.1 = { b with size }
  reserved : ∃ t, scene.2.get? b.surface = some t ∧ t.Reserved format room

section Roomy

variable {b : Buffer} {format : Format} {room : Nat} {largest : Size} {scene : Buffer × Surfaces}
  (wanted : Surface.wordsFor format largest.width largest.height ≤ room)
  (small : Surface.wordsFor format largest.width largest.height ≤ Surface.maxWords)

include wanted small

theorem Roomy.resized (roomy : b.Roomy format room scene) {resizing : Resizing}
    (within : resizing.size.Within largest) :
    b.Roomy format room (Buffer.resized scene resizing) := by
  rcases roomy with ⟨⟨own, same⟩, t, there, reserved⟩
  rcases scene with ⟨c, later⟩
  cases same
  have fits := Surface.wordsFor_mono format within
  have stays := reserved.resize (fits.trans wanted)
  have placed := Registry.get?_set_self there
    (t.resize resizing.size.width resizing.size.height)
  rw [← reserved.format] at fits small
  cases resizing with
  | surface size =>
      have done : later.resize b.surface size =
          .ok (later.set b.surface (t.resize size.width size.height)) :=
        Surfaces.withRoom_of_found there (fits.trans small)
      rw [Buffer.resized]
      dsimp only
      rw [done]
      exact ⟨⟨own, rfl⟩, _, placed, stays⟩
  | buffer size =>
      by_cases closed : b.painters = []
      · have done : ({ b with size := own } : Buffer).setSize later size =
            .ok ({ b with size := (t.resize size.width size.height).size },
              later.set b.surface (t.resize size.width size.height)) :=
          setSize_of_found closed there (fits.trans small)
        rw [Buffer.resized]
        dsimp only
        rw [done]
        exact ⟨⟨_, rfl⟩, _, placed, stays⟩
      · have refused : ({ b with size := own } : Buffer).setSize later size =
            .error (.paintersOpen b.painters.length) :=
          if_neg fun none => closed (List.isEmpty_iff.mp none)
        rw [Buffer.resized]
        dsimp only
        rw [refused]
        exact ⟨⟨own, rfl⟩, t, there, reserved⟩

theorem Roomy.resizedAll {resizings : List Resizing} (roomy : b.Roomy format room scene)
    (within : ∀ resizing ∈ resizings, resizing.size.Within largest) :
    b.Roomy format room (Buffer.resizedAll scene resizings) := by
  induction resizings generalizing scene with
  | nil => exact roomy
  | cons resizing rest ih =>
      rcases List.forall_mem_cons.mp within with ⟨first, later⟩
      exact ih (roomy.resized wanted small first) later

end Roomy

theorem endResize_of_found {b : Buffer} {surfaces : Surfaces} {s : Surface}
    (resizing : b.isResizing = true) (found : surfaces.get? b.surface = some s) :
    ∃ c later, b.endResize surfaces = .ok (c, later) ∧ later.get? b.surface = some s.shrink := by
  refine ⟨_, _, if_pos resizing, ?_⟩
  simp [found]

/-- Once room has been made for any size up to `largest`, by `reserve` or by the start of a resize,
the capacity is that of so many bytes at least, and it stays the same through all sizes within
`largest`, whether they are set on the surface or on the buffer. None of these fails for want of
storage, and none lets the vector get more room, however a vector grows that needs more: not even
while the rows are on their way does it hold more words than it has room for. When the resize ends,
the capacity is what the rows take up. -/
theorem bracket_never_reallocates (growth : Surface.Growth) {b : Buffer} {surfaces : Surfaces}
    {s : Surface} (found : surfaces.get? b.surface = some s) (stored : s.Stored) {largest : Size}
    {scene : Buffer × Surfaces} (opened : b.Opened growth surfaces largest scene) :
    (b.beginResizeBy growth surfaces largest = .ok scene → scene.1.isResizing = true) ∧
      ∃ room, s.format.stride largest.width * largest.height.toNatClampNeg ≤ 4 * room ∧
        ∀ resizings : List Resizing, (∀ resizing ∈ resizings, resizing.size.Within largest) →
          let after := resizedAll scene resizings
          ∃ t, after.2.get? b.surface = some t ∧ t.format = s.format ∧ t.capacityBytes = 4 * room ∧
            (∀ size, size.Within largest →
              t.ResizesWithin growth room size ∧
              after.2.resize b.surface size =
                .ok (after.2.set b.surface (t.resize size.width size.height)) ∧
              (b.painters = [] → ∃ c, after.1.setSize after.2 size =
                .ok (c, after.2.set b.surface (t.resize size.width size.height)))) ∧
            (scene.1.isResizing = true → ∃ c later, after.1.endResize after.2 = .ok (c, later) ∧
              later.get? b.surface = some t.shrink ∧
              t.shrink.capacityBytes = t.stride * t.height.toNatClampNeg) := by
  have begins : b.beginResizeBy growth surfaces largest = .ok scene →
      scene.1.isResizing = true := by
    intro made
    rcases of_beginResizeBy made with ⟨_, _, rfl⟩
    rfl
  rcases opened.scene_eq found with ⟨small, expected, rfl⟩
  rcases Surface.reserveBy_reserved growth stored largest with ⟨room, reserved, wanted⟩
  have start : ({ b with expected } : Buffer).Roomy s.format room
      ({ b with expected }, surfaces.set b.surface (s.reserveBy growth largest)) :=
    ⟨⟨b.size, rfl⟩, _, Registry.get?_set_self found _, reserved⟩
  refine ⟨begins, room, ?_, ?_⟩
  · rw [Format.stride, Nat.mul_assoc]
    exact Nat.mul_le_mul_left 4 wanted
  · intro resizings within after
    rcases start.resizedAll wanted small within with ⟨⟨own, same⟩, t, there, kept⟩
    refine ⟨t, there, kept.format, congrArg (4 * ·) kept.housed.capacity, ?_, ?_⟩
    · intro size inside
      have fits := Surface.wordsFor_mono s.format inside
      have little := kept.format.symm ▸ fits.trans small
      refine ⟨kept.resizesWithin (fits.trans wanted), Surfaces.withRoom_of_found there little, ?_⟩
      intro closed
      rw [same]
      exact ⟨_, setSize_of_found closed there little⟩
    · intro resizing
      rw [same]
      rcases endResize_of_found (b := { b with expected, size := own }) resizing there with
        ⟨c, later, ended, left⟩
      refine ⟨c, later, ended, left, ?_⟩
      change 4 * t.words.size = t.stride * t.height.toNatClampNeg
      rw [kept.stored, Surface.wordsFor, Surface.stride, Format.stride, Nat.mul_assoc]

def pixelSized : Buffer := { format := .argb32, size := ⟨1, 1⟩, surface := ⟨0⟩ }

def loneSurface : Surfaces := ({} : Surfaces).add (.blank .argb32 1 1)

def upAndDown : List Resizing := [.buffer ⟨1, 3⟩, .surface ⟨0, 2⟩, .buffer ⟨1, 2⟩]

/-- A vector that doubles takes room for four words where three are wanted. -/
theorem bracket_never_reallocates_up_and_down :
    (∃ scene t, pixelSized.beginResizeBy .doubling loneSurface ⟨1, 3⟩ = .ok scene ∧
      (resizedAll scene upAndDown).2.get? ⟨0⟩ = some t ∧ t.size = ⟨1, 2⟩ ∧
      t.capacityBytes = 16 ∧ t.ResizesWithin .doubling 4 ⟨1, 3⟩ ∧
      t.shrink.capacityBytes = 8) ∧
      ∃ scene t, pixelSized.beginResize loneSurface ⟨1, 3⟩ = .ok scene ∧
        (resizedAll scene upAndDown).2.get? ⟨0⟩ = some t ∧ t.capacityBytes = 12 ∧
        t.ResizesWithin .frugal 3 ⟨1, 3⟩ := by
  have found : loneSurface.get? pixelSized.surface = some (.blank .argb32 1 1) := rfl
  have stored := Surface.blank_stored .argb32 1 1
  have within : ∀ resizing ∈ upAndDown, resizing.size.Within ⟨1, 3⟩ := by decide
  constructor
  · obtain ⟨scene, made, sizes⟩ : ∃ scene,
        pixelSized.beginResizeBy .doubling loneSurface ⟨1, 3⟩ = .ok scene ∧
          ((resizedAll scene upAndDown).2.get? ⟨0⟩).map (fun t => (t.size, t.capacityBytes)) =
            some (⟨1, 2⟩, 16) := ⟨_, rfl, by decide +kernel⟩
    rcases bracket_never_reallocates .doubling found stored (.begun made) with
      ⟨resizing, room, _, always⟩
    rcases always upAndDown within with ⟨t, there, format, bytes, stays, ends⟩
    rcases ends (resizing made) with ⟨_, _, _, _, tight⟩
    have known : (resizedAll scene upAndDown).2.get? ⟨0⟩ = some t := there
    rw [known, Option.map_some, Option.some.injEq, Prod.mk.injEq] at sizes
    have four : room = 4 := by omega
    have wide : t.width = 1 := congrArg Size.width sizes.1
    have high : t.height = 2 := congrArg Size.height sizes.1
    rw [four] at stays
    refine ⟨scene, t, made, there, sizes.1, sizes.2, (stays ⟨1, 3⟩ (by decide)).1, ?_⟩
    rw [tight, Surface.stride, format, wide, high]
    decide
  · have roomy : ∀ s, loneSurface.get? pixelSized.surface = some s → s.words.size ≤ s.capacity := by
      intro s there
      rw [found] at there
      cases there
      decide
    obtain ⟨scene, made, sizes⟩ : ∃ scene, pixelSized.beginResize loneSurface ⟨1, 3⟩ = .ok scene ∧
        ((resizedAll scene upAndDown).2.get? ⟨0⟩).map Surface.capacityBytes = some 12 :=
      ⟨_, rfl, by decide +kernel⟩
    have begun := (pixelSized.beginResizeBy_frugal loneSurface ⟨1, 3⟩ roomy).trans made
    rcases bracket_never_reallocates .frugal found stored (.begun begun) with ⟨_, room, _, always⟩
    rcases always upAndDown within with ⟨t, there, _, bytes, stays, _⟩
    have known : (resizedAll scene upAndDown).2.get? ⟨0⟩ = some t := there
    rw [known, Option.map_some, Option.some.injEq] at sizes
    have three : room = 3 := by omega
    rw [three] at stays
    exact ⟨scene, t, made, there, sizes, (stays ⟨1, 3⟩ (by decide)).1⟩

end Buffer

end Compositing
