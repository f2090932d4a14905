import Compositing.Output.Basic
import Compositing.Proofs.Pixels

/-! What a surface backend makes of the calls that it plays, pixel by pixel. -/

namespace Compositing

theorem Rect.shift_origin (r : Rect) : r.shift .origin = r := by
  have x : saturatingAdd r.x 0 = r.x := saturatingAdd_zero r.x
  have y : saturatingAdd r.y 0 = r.y := saturatingAdd_zero r.y
  rw [shift, Point.origin]
  dsimp only
  rw [x, y]

theorem Point.add_sub_add (corner p place : Point) :
    corner + (p - (place + corner)) = p - place := by
  have cancel (c a b : Int32) : c + (a - (b + c)) = a - b := by
    rw [← Int32.sub_sub, Int32.add_comm, Int32.sub_add_cancel]
  change Point.mk (corner.x + (p.x - (place.x + corner.x)))
    (corner.y + (p.y - (place.y + corner.y))) = Point.mk (p.x - place.x) (p.y - place.y)
  rw [cancel, cancel]

theorem Point.add_origin (p : Point) : p + .origin = p := by
  change Point.mk (p.x + 0) (p.y + 0) = p
  rw [Int32.add_zero, Int32.add_zero]

namespace Brush

theorem pixel?_fill (target : Surface) (color : Color) (area : Rect) (p : Point) :
    (Frame.fill {} target color area).pixel? p =
      if p ∈ area then
        (target.pixel? p).map fun old =>
          target.landing p (Operator.blend .sourceOver color.toPixel old)
      else target.pixel? p := by
  rw [Frame.fill]
  simp only [Rect.shift_origin, Frame.reach]
  rw [Surface.pixel?_paint]
  by_cases inside : p ∈ target.bounds
  · simp only [Rect.mem_overlap, inside, and_true]
  · simp [Surface.pixel?_of_not_mem inside]

theorem fill_alike (frame : Frame) (target : Surface) (color : Color) (area : Rect) :
    (frame.fill target color area).Alike target := Surface.paint_alike ..

/-- The corner of the part that shows cancels out: a pixel comes from its own distance to the
place of the whole source. -/
theorem pixel?_compose (operator : Operator) (target image : Surface) (place : Point)
    (visible : Rect) (p : Point) :
    (Frame.compose { operator } target image (place + visible.corner) visible).pixel? p =
      if p ∈ visible.placed place then
        (target.pixel? p).map fun old =>
          target.landing p (operator.blend (image.pixelOrClear (p - place)) old)
      else target.pixel? p := by
  rw [Frame.compose]
  simp only [Point.add_origin, Point.add_sub_add, Frame.reach]
  rw [Surface.pixel?_paint]
  by_cases inside : p ∈ target.bounds
  · simp only [Rect.mem_overlap, inside, and_true]
    rfl
  · simp [Surface.pixel?_of_not_mem inside]

theorem compose_alike (frame : Frame) (target image : Surface) (place : Point) (visible : Rect) :
    (frame.compose target image place visible).Alike target := Surface.paint_alike ..

end Brush

namespace Call

def source? : Call → Option SurfaceId
  | compose _ source _ _ => some source
  | _ => none

def ink (surfaces : Surfaces) (canvas : Surface) (p : Point) : Call → Pixel → Pixel
  | fill color area, old =>
      if p ∈ area then canvas.landing p (Operator.blend .sourceOver color.toPixel old) else old
  | compose operator source place visible, old =>
      match surfaces.get? source with
      | none => old
      | some image =>
          if p ∈ visible.placed place then
            canvas.landing p (operator.blend (image.pixelOrClear (p - place)) old)
          else old
  | complete, old => old

def inkAll (surfaces : Surfaces) (canvas : Surface) (p : Point) (calls : List Call)
    (old : Pixel) : Pixel :=
  calls.foldl (fun old call => call.ink surfaces canvas p old) old

theorem inkAll_append (surfaces : Surfaces) (canvas : Surface) (p : Point)
    (first second : List Call) (old : Pixel) :
    inkAll surfaces canvas p (first ++ second) old =
      inkAll surfaces canvas p second (inkAll surfaces canvas p first old) :=
  List.foldl_append ..

theorem ink_congr {surfaces others : Surfaces} (canvas : Surface) (p : Point) (call : Call)
    (same : ∀ source ∈ call.source?, others.get? source = surfaces.get? source) (old : Pixel) :
    call.ink others canvas p old = call.ink surfaces canvas p old := by
  cases call with
  | compose operator source place visible => rw [ink, ink, same source rfl]
  | fill color area => rfl
  | complete => rfl

theorem inkAll_congr {surfaces others : Surfaces} (canvas : Surface) (p : Point)
    (calls : List Call)
    (same : ∀ call ∈ calls, ∀ source ∈ call.source?,
      others.get? source = surfaces.get? source) (old : Pixel) :
    inkAll others canvas p calls old = inkAll surfaces canvas p calls old := by
  induction calls generalizing old with
  | nil => rfl
  | cons call rest ih =>
      simp only [inkAll, List.foldl_cons]
      rw [ink_congr canvas p call (same call List.mem_cons_self)]
      exact ih (fun other member => same other (List.mem_cons_of_mem call member)) _

end Call

/-- The canvas is still there, with its format and size, and every pixel of it has turned from
what it was into what `ink` makes of it. All other surfaces are as they were. -/
structure Inked (target : SurfaceId) (canvas : Surface) (ink : Point → Pixel → Pixel)
    (before after : Surfaces) : Prop where
  others : ∀ id, id ≠ target → after.get? id = before.get? id
  target : ∃ old new, before.get? target = some old ∧ after.get? target = some new ∧
    old.Alike canvas ∧ new.Alike canvas ∧ ∀ p, new.pixel? p = (old.pixel? p).map (ink p)

section Inked

variable {target : SurfaceId} {canvas : Surface} {before middle after : Surfaces}

theorem Inked.refl {old : Surface} (found : before.get? target = some old)
    (alike : old.Alike canvas) : Inked target canvas (fun _ old => old) before before where
  others _ _ := rfl
  target := ⟨old, old, found, found, alike, alike, fun p => by simp⟩

theorem Inked.trans {first second : Point → Pixel → Pixel}
    (start : Inked target canvas first before middle)
    (rest : Inked target canvas second middle after) :
    Inked target canvas (fun p old => second p (first p old)) before after where
  others id apart := (rest.others id apart).trans (start.others id apart)
  target := by
    obtain ⟨old, halfway, found, there, like, _, early⟩ := start.target
    obtain ⟨again, new, here, done, _, likewise, late⟩ := rest.target
    rw [there] at here
    cases here
    refine ⟨old, new, found, done, like, likewise, ?_⟩
    intro p
    calc new.pixel? p = ((old.pixel? p).map (first p)).map (second p) := by rw [late, early]
      _ = (old.pixel? p).map fun old => second p (first p old) := Option.map_map ..

theorem Inked.congr {ink other : Point → Pixel → Pixel}
    (inked : Inked target canvas ink before after)
    (same : ∀ p ∈ canvas.bounds, ∀ old, ink p old = other p old) :
    Inked target canvas other before after where
  others := inked.others
  target := by
    rcases inked.target with ⟨old, new, found, done, like, likewise, makes⟩
    refine ⟨old, new, found, done, like, likewise, ?_⟩
    intro p
    by_cases inside : p ∈ canvas.bounds
    · rw [makes, funext (same p inside)]
    · have blank : old.pixel? p = none := Surface.pixel?_of_not_mem (by rwa [like.bounds])
      rw [makes, blank, Option.map_none, Option.map_none]

theorem Inked.modify {old : Surface} {ink : Point → Pixel → Pixel} {change : Surface → Surface}
    (found : before.get? target = some old) (alike : old.Alike canvas)
    (kept : (change old).Alike old)
    (inked : ∀ p, (change old).pixel? p = (old.pixel? p).map (ink p)) :
    Inked target canvas ink before (before.modify target change) where
  others id apart := Registry.get?_modify_other before change apart
  target := by
    refine ⟨old, change old, found, ?_, alike, kept.trans alike, inked⟩
    simp [found]

theorem play_inked {old : Surface} (found : before.get? target = some old)
    (alike : old.Alike canvas) (call : Call) :
    Inked target canvas (fun p => call.ink before canvas p) before
      (Backend.play (.surface target) before call) := by
  cases call with
  | complete => exact .refl found alike
  | fill color area =>
      refine .modify found alike (Brush.fill_alike ..) ?_
      intro p
      rw [Brush.pixel?_fill]
      cases old.pixel? p with
      | none => simp
      | some pixel =>
          simp only [Option.map_some, Call.ink, alike.landing]
          split <;> rfl
  | compose operator source place visible =>
      simp only [Backend.play, Brush.compose]
      cases image : before.get? source with
      | none =>
          refine (Inked.refl found alike).congr ?_
          intro p _ pixel
          simp only [Call.ink, image]
      | some picture =>
          refine .modify found alike (Brush.compose_alike ..) ?_
          intro p
          rw [Brush.pixel?_compose]
          cases old.pixel? p with
          | none => simp
          | some pixel =>
              simp only [Option.map_some, Call.ink, image, alike.landing]
              split <;> rfl

theorem playAll_inked {old : Surface} (found : before.get? target = some old)
    (alike : old.Alike canvas) (calls : List Call)
    (apart : ∀ call ∈ calls, target ∉ call.source?) :
    Inked target canvas (fun p => Call.inkAll before canvas p calls) before
      (calls.foldl (Backend.play (.surface target)) before) := by
  induction calls generalizing before old with
  | nil => exact .refl found alike
  | cons call rest ih =>
      have first := play_inked found alike call
      obtain ⟨_, new, _, there, _, like, _⟩ := first.target
      have later : ∀ other ∈ rest, target ∉ other.source? :=
        fun other member => apart other (List.mem_cons_of_mem call member)
      refine (first.trans (ih there like later)).congr ?_
      intro p _ pixel
      apply Call.inkAll_congr
      intro other member source reads
      apply first.others
      intro own
      exact later other member (own ▸ reads)

end Inked

/-- The surfaces of a program: made, resized and drawn on, in any order. -/
inductive Surfaces.Reached : Surfaces → Prop
  | start : Reached {}
  | create {surfaces after : Surfaces} {format : Format} {size : Size} {id : SurfaceId}
      (reached : Reached surfaces) (made : surfaces.create format size = .ok (after, id)) :
      Reached after
  | resize {surfaces after : Surfaces} {id : SurfaceId} {size : Size}
      (reached : Reached surfaces) (done : surfaces.resize id size = .ok after) : Reached after
  | reserve {surfaces after : Surfaces} {id : SurfaceId} {largest : Size}
      (reached : Reached surfaces) (done : surfaces.reserve id largest = .ok after) : Reached after
  | shrink {surfaces : Surfaces} (reached : Reached surfaces) (id : SurfaceId) :
      Reached (surfaces.modify id Surface.shrink)
  | setPixel {surfaces : Surfaces} (reached : Reached surfaces) (id : SurfaceId) (p : Point)
      (pixel : Pixel) : Reached (surfaces.modify id (·.setPixel p pixel))
  | paint {surfaces : Surfaces} (reached : Reached surfaces) (id : SurfaceId)
      (area : Surface → Rect) (change : Point → Pixel → Pixel) :
      Reached (surfaces.modify id fun s => s.paint (area s) change)

namespace Surfaces

variable {surfaces after : Surfaces} {id : SurfaceId}

theorem Reached.fill (reached : surfaces.Reached) (b : Brush) (color : Color) (r : Rect) :
    (b.fill surfaces color r).Reached := reached.paint b.target _ _

theorem Reached.compose (reached : surfaces.Reached) (b : Brush) (source : SurfaceId)
    (place : Point) (part : Rect) : (b.compose surfaces source place part).Reached := by
  rw [Brush.compose]
  cases surfaces.get? source with
  | none => exact reached
  | some image => exact reached.paint b.target _ _

theorem Reached.play (reached : surfaces.Reached) (backend : Backend) (call : Call) :
    (backend.play surfaces call).Reached := by
  cases backend with
  | device number => exact reached
  | surface target =>
      cases call with
      | complete => exact reached
      | fill color area => exact reached.fill _ color area
      | compose operator source place visible => exact reached.compose _ source _ visible

def Stored (surfaces : Surfaces) : Prop :=
  ∀ id s, surfaces.get? id = some s → s.Stored

theorem Stored.modify (stored : surfaces.Stored) {change : Surface → Surface}
    (keeps : ∀ s : Surface, s.Stored → (change s).Stored) (id : SurfaceId) :
    Stored (surfaces.modify id change) := by
  intro other s found
  by_cases same : other = id
  · rw [same, Registry.get?_modify_self] at found
    obtain ⟨old, there, rfl⟩ := Option.map_eq_some_iff.mp found
    exact keeps old (stored id old there)
  · rw [Registry.get?_modify_other _ _ same] at found
    exact stored other s found

theorem Stored.withRoom (stored : surfaces.Stored) {size : Size} {change : Surface → Surface}
    (keeps : ∀ s : Surface, s.Stored → (change s).Stored)
    (done : surfaces.withRoom id size change = .ok after) : after.Stored := by
  rcases withRoom_cases done with rfl | ⟨s, found, rfl⟩
  · exact stored
  · exact stored.modify (fun _ _ => keeps s (stored id s found)) id

theorem Stored.create (stored : surfaces.Stored) {format : Format} {size : Size}
    (made : surfaces.create format size = .ok (after, id)) : after.Stored := by
  rcases of_create made with ⟨rfl, _⟩
  intro other s found
  by_cases new : other = surfaces.nextKey
  · rw [new, Registry.get?_add_next] at found
    cases found
    exact Surface.blank_stored format size.width size.height
  · rw [Registry.get?_add_other _ _ new] at found
    exact stored other s found

/-- No surface of a program is ever short of words. -/
theorem Reached.stored (reached : surfaces.Reached) : surfaces.Stored := by
  induction reached with
  | start => intro id s found; cases found
  | create reached made ih => exact ih.create made
  | resize reached done ih =>
      exact ih.withRoom (fun _ stored => Surface.resize_stored stored _ _) done
  | reserve reached done ih =>
      exact ih.withRoom (fun _ stored => Surface.reserve_stored stored _ _) done
  | shrink reached id ih => exact ih.modify (fun _ stored => Surface.shrink_stored stored) id
  | setPixel reached id p pixel ih =>
      exact ih.modify (fun s stored => (s.setPixel_alike p pixel).stored stored) id
  | paint reached id area change ih =>
      exact ih.modify (fun s stored => (Surface.paint_alike change s (area s)).stored stored) id

end Surfaces

theorem Stage.perform_eq {δ : Type} (s : Stage δ) (r : Renderer) :
    s.perform r = { s with
      surfaces := r.calls.foldl r.backend.play s.surfaces
      events := s.events ++ (r.log.map .logged ++ r.calls.map (.played r.backend)) } := by
  have plays (calls : List Call) (s : Stage δ) :
      calls.foldl (·.play r.backend ·) s = { s with
        surfaces := calls.foldl r.backend.play s.surfaces
        events := s.events ++ calls.map (.played r.backend) } := by
    induction calls generalizing s with
    | nil => simp
    | cons call rest ih =>
        rw [List.foldl_cons, ih]
        simp [play, record]
  rw [perform, plays, report, record, List.append_assoc]

end Compositing
