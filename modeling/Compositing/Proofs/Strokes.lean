import Compositing.Proofs.Dispatch
import Compositing.Proofs.Playback

/-! One draw on a surface, pixel by pixel and in exact integers. Places are held at the ends of the
plane on their way to the surface, but no pixel lies there, so that none can tell. -/

namespace Compositing

def Point.SumFits (p q : Point) : Prop :=
  (p + q).x.toInt = p.x.toInt + q.x.toInt ∧ (p + q).y.toInt = p.y.toInt + q.y.toInt

def Point.DifferenceFits (p q : Point) : Prop :=
  (p - q).x.toInt = p.x.toInt - q.x.toInt ∧ (p - q).y.toInt = p.y.toInt - q.y.toInt

def Point.across (origin corner p : Point) : Int := p.x.toInt - (corner.x.toInt + origin.x.toInt)

def Point.down (origin corner p : Point) : Int := p.y.toInt - (corner.y.toInt + origin.y.toInt)

/-- The rectangle holds the point when it is counted from `origin`, whether or not it then lies on
the plane. -/
def Rect.HoldsFrom (area : Rect) (origin p : Point) : Prop :=
  (0 ≤ origin.across area.corner p ∧ origin.across area.corner p < area.width.toInt) ∧
    0 ≤ origin.down area.corner p ∧ origin.down area.corner p < area.height.toInt

instance (area : Rect) (origin p : Point) : Decidable (area.HoldsFrom origin p) :=
  inferInstanceAs (Decidable ((_ ∧ _) ∧ _ ∧ _))

/-- Nothing that a surface adds or subtracts to play the call leaves the plane: not the place where
the part drawn starts, and for no point of that part its distance from there or its place in the
source. A fill only takes sums that are held at the ends of the plane. -/
def Call.Fits : Call → Prop
  | .compose _ _ place part =>
      let start := place + part.corner
      place.SumFits part.corner ∧ start.SumFits .origin ∧
        ∀ p ∈ Rect.mk start.x start.y part.width part.height,
          p.DifferenceFits start ∧ part.corner.SumFits (p - start)
  | .fill _ _ | .complete => True

def Surface.colorAt (s : Surface) (x y : Int) : Pixel :=
  if 0 ≤ x ∧ x < s.width.toInt ∧ 0 ≤ y ∧ y < s.height.toInt then
    s.pixelOrClear ⟨Int32.ofInt x, Int32.ofInt y⟩
  else 0

theorem Surface.colorAt_toInt (s : Surface) (p : Point) :
    s.colorAt p.x.toInt p.y.toInt = s.pixelOrClear p := by
  simp only [colorAt, ← mem_bounds, Int32.ofInt_toInt]
  by_cases inside : p ∈ s.bounds
  · rw [if_pos inside]
  · rw [if_neg inside, pixelOrClear, pixel?_of_not_mem inside]
    rfl

theorem Surface.mem_of_pixel? {s : Surface} {p : Point} {pixel : Pixel}
    (reads : s.pixel? p = some pixel) : p ∈ s.bounds := by
  by_contra outside
  rw [pixel?_of_not_mem outside] at reads
  cases reads

section Shift

variable {s : Surface} {p : Point} (inside : p ∈ s.bounds) {area : Rect} {origin : Point}

include inside

/-- A rectangle that is held at the ends of the plane has the pixels that it would have beyond. -/
theorem Surface.mem_shift : p ∈ area.shift origin ↔ area.HoldsFrom origin p := by
  have wide := toInt_bounds s.width
  have high := toInt_bounds s.height
  rw [mem_bounds] at inside
  rw [Rect.mem_axes]
  exact and_congr
    (between_translated area.x origin.x area.width p.x (by omega) (by omega))
    (between_translated area.y origin.y area.height p.y (by omega) (by omega))

theorem Surface.toInt_sub_shift (holds : area.HoldsFrom origin p) :
    (p - (area.shift origin).corner).x.toInt = origin.across area.corner p ∧
      (p - (area.shift origin).corner).y.toInt = origin.down area.corner p := by
  have wide := toInt_bounds s.width
  have high := toInt_bounds s.height
  rw [mem_bounds] at inside
  exact ⟨toInt_sub_translated area.x origin.x area.width p.x (by omega) (by omega) holds.1.1
      holds.1.2,
    toInt_sub_translated area.y origin.y area.height p.y (by omega) (by omega) holds.2.1
      holds.2.2⟩

end Shift

namespace Renderer

def origin (r : Renderer) : Point := (r.region?.map Region.origin).getD .origin

def Shows (r : Renderer) (p : Point) : Prop := ∀ region ∈ r.region?, p ∈ region.clip

instance (r : Renderer) (p : Point) : Decidable (r.Shows p) :=
  inferInstanceAs (Decidable (∀ region ∈ r.region?, p ∈ region.clip))

def across (r : Renderer) (corner p : Point) : Int :=
  p.x.toInt - (corner.x.toInt + r.origin.x.toInt)

def down (r : Renderer) (corner p : Point) : Int :=
  p.y.toInt - (corner.y.toInt + r.origin.y.toInt)

def Strikes (r : Renderer) (area : Rect) (p : Point) : Prop :=
  r.Shows p ∧ (0 ≤ r.across area.corner p ∧ r.across area.corner p < area.width.toInt) ∧
    0 ≤ r.down area.corner p ∧ r.down area.corner p < area.height.toInt

instance (r : Renderer) (area : Rect) (p : Point) : Decidable (r.Strikes area p) :=
  inferInstanceAs (Decidable (_ ∧ (_ ∧ _) ∧ _ ∧ _))

def played (r : Renderer) (surfaces : Surfaces) : Surfaces :=
  r.calls.foldl r.backend.play surfaces

def SendsFitting (before after : Renderer) : Prop :=
  ∃ sent, after.calls = before.calls ++ sent ∧ ∀ call ∈ sent, call.Fits

/-- Each draw changes the pixels that it strikes and no others, as if all places were integers; and
nothing on the way leaves the plane. The canvas is the target as it is before the draw, and so is
the image, even where they are the same surface. -/
structure PixelExact (r : Renderer) (surfaces : Surfaces) (target : SurfaceId)
    (canvas : Surface) : Prop where
  blit : ∀ operator buffer corner image,
    (r.played surfaces).get? buffer.surface = some image →
      ∃ drawn, ((r.blit operator buffer corner).played surfaces).get? target = some drawn ∧
        drawn.Alike canvas ∧ ∀ p old, canvas.pixel? p = some old →
          drawn.pixel? p = some (
            if r.Strikes (buffer.areaAt corner) p then
              canvas.format.readBack
                (operator.blend (image.colorAt (r.across corner p) (r.down corner p)) old)
            else old)
  fill : ∀ color area,
    ∃ drawn, ((r.fill color area).played surfaces).get? target = some drawn ∧
      drawn.Alike canvas ∧ ∀ p old, canvas.pixel? p = some old →
        drawn.pixel? p = some (
          if r.Strikes area p then
            canvas.format.readBack (Operator.blend .sourceOver color.toPixel old)
          else old)
  fits : (∀ operator buffer corner, r.SendsFitting (r.blit operator buffer corner)) ∧
    ∀ color area, r.SendsFitting (r.fill color area)

section Places

variable (r : Renderer) (area : Rect)

theorem place_eq : r.place area = area.shift r.origin := by
  rw [place, origin]
  cases r.region? with
  | none => exact (Rect.shift_origin area).symm
  | some region => rfl

theorem mem_visible {p : Point} : p ∈ r.visible area ↔ p ∈ r.place area ∧ r.Shows p := by
  rw [visible, place, Shows]
  cases r.region? with
  | none => simp
  | some region => simp

variable {r area}

theorem place_encloses_visible (shows : (r.visible area).isEmpty = false) :
    (r.place area).Encloses (r.visible area) := by
  rw [visible] at shows ⊢
  rw [place]
  cases current : r.region? with
  | none => exact .refl area
  | some region =>
      rw [current] at shows
      exact Rect.encloses_overlap_left shows

variable {p : Point} {canvas : Surface} (inside : p ∈ canvas.bounds)

include inside

theorem mem_place :
    p ∈ r.place area ↔
      (0 ≤ r.across area.corner p ∧ r.across area.corner p < area.width.toInt) ∧
        0 ≤ r.down area.corner p ∧ r.down area.corner p < area.height.toInt := by
  rw [place_eq]
  exact Surface.mem_shift inside

theorem mem_visible_iff : p ∈ r.visible area ↔ r.Strikes area p := by
  rw [mem_visible, mem_place inside, and_comm, Strikes]

theorem colorAt_place (image : Surface) (hit : p ∈ r.place area) :
    image.pixelOrClear (p - (r.place area).corner) =
      image.colorAt (r.across area.corner p) (r.down area.corner p) := by
  rw [place_eq] at hit ⊢
  rcases Surface.toInt_sub_shift inside ((Surface.mem_shift inside).mp hit) with ⟨right, below⟩
  rw [← Surface.colorAt_toInt, right, below]
  rfl

end Places

/-- Whatever part of a rectangle is drawn, the sums that this takes stay on the plane. -/
theorem fits_of_encloses {whole visible : Rect} (inside : whole.Encloses visible)
    (shows : visible.isEmpty = false) (operator : Operator) (source : SurfaceId) :
    (Call.compose operator source whole.corner (visible.partOf whole)).Fits := by
  have placed := congrArg Rect.corner (Rect.placed_partOf inside shows)
  change whole.corner + (visible.partOf whole).corner = visible.corner at placed
  refine ⟨⟨Rect.toInt_placed_x inside shows, Rect.toInt_placed_y inside shows⟩, ?_, ?_⟩
  · rw [Point.SumFits, Point.add_origin]
    exact ⟨(Int.add_zero _).symm, (Int.add_zero _).symm⟩
  · rw [placed]
    intro p hit
    have left : (visible.partOf whole).corner.x.toInt = visible.x.toInt - whole.x.toInt :=
      Rect.toInt_partOf_x inside shows
    have top : (visible.partOf whole).corner.y.toInt = visible.y.toInt - whole.y.toInt :=
      Rect.toInt_partOf_y inside shows
    have wide := (Rect.right_bounds whole).2
    have high := (Rect.bottom_bounds whole).2
    rw [Rect.encloses_toInt] at inside
    have within := (Rect.mem_toInt p visible).mp hit
    have right : (p - visible.corner).x.toInt = p.x.toInt - visible.x.toInt :=
      toInt_sub_of_fits p.x visible.x (by omega) (by omega)
    have below : (p - visible.corner).y.toInt = p.y.toInt - visible.y.toInt :=
      toInt_sub_of_fits p.y visible.y (by omega) (by omega)
    exact ⟨⟨right, below⟩,
      toInt_add_of_fits (visible.partOf whole).corner.x (p - visible.corner).x
        (by omega) (by omega),
      toInt_add_of_fits (visible.partOf whole).corner.y (p - visible.corner).y
        (by omega) (by omega)⟩

theorem blit_eq (r : Renderer) (operator : Operator) (buffer : Buffer) (corner : Point) :
    r.blit operator buffer corner =
      r.dispatch (buffer.areaAt corner) { blits := 1 } fun visible =>
        .compose operator buffer.surface (r.place (buffer.areaAt corner)).corner
          (visible.partOf (r.place (buffer.areaAt corner))) := rfl

theorem dispatch_played (r : Renderer) (area : Rect) (count : Tally) (call : Rect → Call)
    (surfaces : Surfaces) :
    (r.dispatch area count call).played surfaces =
      if r.phase = .active ∧ (r.visible area).isEmpty = false then
        r.backend.play (r.played surfaces) (call (r.visible area))
      else r.played surfaces := by
  have sent := r.dispatch_calls area count call
  obtain ⟨tally, calls, log, frame⟩ := r.dispatch_frame area count call
  have backend : (r.dispatch area count call).backend = r.backend := by rw [frame]
  rw [played, backend, sent]
  split
  · rw [List.foldl_append]
    rfl
  · rfl

theorem dispatch_played_of_completed {r : Renderer} (completed : r.phase = .completed)
    (area : Rect) (count : Tally) (call : Rect → Call) (surfaces : Surfaces) :
    (r.dispatch area count call).played surfaces = r.played surfaces := by
  rw [dispatch_played, completed, if_neg (by simp)]

section Active

variable {r : Renderer} {surfaces : Surfaces} {target : SurfaceId} {canvas : Surface}
  (active : r.phase = .active) (backend : r.backend = .surface target)
  (found : (r.played surfaces).get? target = some canvas) (stored : canvas.Stored)

include active backend found stored

theorem dispatch_exact {area : Rect} {count : Tally} {call : Rect → Call}
    {color : Point → Pixel → Pixel}
    (makes : (r.visible area).isEmpty = false → ∀ p ∈ canvas.bounds, ∀ old,
      (call (r.visible area)).ink (r.played surfaces) canvas p old =
        if p ∈ r.visible area then canvas.landing p (color p old) else old) :
    ∃ drawn, ((r.dispatch area count call).played surfaces).get? target = some drawn ∧
      drawn.Alike canvas ∧ ∀ p old, canvas.pixel? p = some old →
        drawn.pixel? p =
          some (if r.Strikes area p then canvas.format.readBack (color p old) else old) := by
  rw [dispatch_played]
  cases shows : (r.visible area).isEmpty with
  | true =>
      rw [if_neg (by simp)]
      refine ⟨canvas, found, .refl canvas, ?_⟩
      intro p old reads
      have missed : ¬ r.Strikes area p := by
        rw [← mem_visible_iff (Surface.mem_of_pixel? reads)]
        exact Rect.not_mem_of_isEmpty shows p
      rw [reads, if_neg missed]
  | false =>
      rw [if_pos ⟨active, rfl⟩, backend]
      obtain ⟨before, drawn, here, there, _, alike, inks⟩ :=
        (play_inked found (.refl canvas) (call (r.visible area))).target
      rw [found] at here
      cases here
      refine ⟨drawn, there, alike, ?_⟩
      intro p old reads
      have inside := Surface.mem_of_pixel? reads
      rw [inks, reads, Option.map_some, makes shows p inside,
        Surface.landing_of_stored stored inside]
      simp only [mem_visible_iff inside]

theorem blit_exact (operator : Operator) (buffer : Buffer) (corner : Point) {image : Surface}
    (reads : (r.played surfaces).get? buffer.surface = some image) :
    ∃ drawn, ((r.blit operator buffer corner).played surfaces).get? target = some drawn ∧
      drawn.Alike canvas ∧ ∀ p old, canvas.pixel? p = some old →
        drawn.pixel? p = some (
          if r.Strikes (buffer.areaAt corner) p then
            canvas.format.readBack
              (operator.blend (image.colorAt (r.across corner p) (r.down corner p)) old)
          else old) := by
  rw [blit_eq]
  refine dispatch_exact active backend found stored ?_
  intro shows p inside old
  have whole := place_encloses_visible shows
  simp only [Call.ink, reads, Rect.placed_partOf whole shows]
  by_cases hit : p ∈ r.visible (buffer.areaAt corner)
  · rw [if_pos hit, if_pos hit, colorAt_place inside image (whole.mem hit)]
    rfl
  · rw [if_neg hit, if_neg hit]

theorem fill_exact (color : Color) (area : Rect) :
    ∃ drawn, ((r.fill color area).played surfaces).get? target = some drawn ∧
      drawn.Alike canvas ∧ ∀ p old, canvas.pixel? p = some old →
        drawn.pixel? p = some (
          if r.Strikes area p then
            canvas.format.readBack (Operator.blend .sourceOver color.toPixel old)
          else old) := by
  rw [fill]
  exact dispatch_exact active backend found stored fun _ _ _ _ => rfl

end Active

theorem dispatch_fits (r : Renderer) (area : Rect) (count : Tally) {call : Rect → Call}
    (fits : (r.visible area).isEmpty = false → (call (r.visible area)).Fits) :
    r.SendsFitting (r.dispatch area count call) := by
  rw [SendsFitting, dispatch_calls]
  split
  · rename_i drawn
    refine ⟨[call (r.visible area)], rfl, ?_⟩
    intro sent member
    rw [List.mem_singleton.mp member]
    exact fits drawn.2
  · exact ⟨[], (List.append_nil _).symm, by simp⟩

theorem blit_fits (r : Renderer) (operator : Operator) (buffer : Buffer) (corner : Point) :
    r.SendsFitting (r.blit operator buffer corner) := by
  rw [blit_eq]
  apply dispatch_fits
  intro shows
  exact fits_of_encloses (place_encloses_visible shows) shows operator buffer.surface

theorem fill_fits (r : Renderer) (color : Color) (area : Rect) :
    r.SendsFitting (r.fill color area) := r.dispatch_fits area _ fun _ => trivial

theorem pixelExact_of_active {r : Renderer} {surfaces : Surfaces} {target : SurfaceId}
    {canvas : Surface} (active : r.phase = .active) (backend : r.backend = .surface target)
    (found : (r.played surfaces).get? target = some canvas) (stored : canvas.Stored) :
    r.PixelExact surfaces target canvas where
  blit operator buffer corner _ reads :=
    blit_exact active backend found stored operator buffer corner reads
  fill := fill_exact active backend found stored
  fits := ⟨r.blit_fits, r.fill_fits⟩

theorem played_reached (r : Renderer) {surfaces : Surfaces} (reached : surfaces.Reached) :
    (r.played surfaces).Reached := by
  rw [played]
  induction r.calls generalizing surfaces with
  | nil => exact reached
  | cons call rest ih => exact ih (reached.play r.backend call)

/-- In a program every draw of an active renderer on a surface is exact. -/
theorem pixelExact_of_reached {r : Renderer} {surfaces : Surfaces} (reached : surfaces.Reached)
    {target : SurfaceId} {canvas : Surface} (active : r.phase = .active)
    (backend : r.backend = .surface target)
    (found : (r.played surfaces).get? target = some canvas) : r.PixelExact surfaces target canvas :=
  pixelExact_of_active active backend found ((r.played_reached reached).stored target canvas found)

/-- Every draw of a renderer on a surface is exact until the renderer is completed, and from then
on it changes nothing. -/
theorem pixelExact_until_completed (r : Renderer) (surfaces : Surfaces) {target : SurfaceId}
    {canvas : Surface} (backend : r.backend = .surface target)
    (found : (r.played surfaces).get? target = some canvas) (stored : canvas.Stored) :
    (r.phase = .active → r.PixelExact surfaces target canvas) ∧
      (r.phase = .completed →
        (∀ operator buffer corner,
          (r.blit operator buffer corner).played surfaces = r.played surfaces) ∧
        ∀ color area, (r.fill color area).played surfaces = r.played surfaces) := by
  constructor
  · intro active
    exact pixelExact_of_active active backend found stored
  · intro completed
    exact ⟨fun operator buffer corner => dispatch_played_of_completed completed _ _ _ surfaces,
      fun color area => dispatch_played_of_completed completed _ _ _ surfaces⟩

section Small

def twoPixels : Surfaces :=
  ⟨[some (.blank .argb32 1 1), some ((Surface.blank .argb32 1 1).setPixel .origin 0xFFFF0000)]⟩

theorem twoPixels_reached : twoPixels.Reached := by
  have first : Surfaces.create {} .argb32 ⟨1, 1⟩ = .ok (_, _) := rfl
  have second : Surfaces.create (Registry.add {} (.blank .argb32 1 1)) .argb32 ⟨1, 1⟩ =
    .ok (_, _) := rfl
  exact (Surfaces.Reached.create (.create .start first) second).setPixel ⟨1⟩ .origin 0xFFFF0000

def redBuffer : Buffer := { format := .argb32, size := ⟨1, 1⟩, surface := ⟨1⟩ }

/-- The red pixel is moved from one end of the plane almost to the other and lands at the origin. -/
theorem pixelExact_of_far_region :
    let far := within (.surface ⟨0⟩) ⟨0, 0, 1, 1⟩ ⟨Int32.maxValue, 0⟩
    far.PixelExact twoPixels ⟨0⟩ (.blank .argb32 1 1) ∧
      ∃ drawn,
        ((far.blit .sourceOver redBuffer ⟨-Int32.maxValue, 0⟩).played twoPixels).get? ⟨0⟩ =
          some drawn ∧
        drawn.pixel? .origin = some 0xFFFF0000 := by
  intro far
  have stored : (Surface.blank .argb32 1 1).Stored :=
    (far.played_reached twoPixels_reached).stored ⟨0⟩ _ rfl
  have exact := (pixelExact_until_completed far twoPixels rfl rfl stored).1 rfl
  refine ⟨exact, ?_⟩
  obtain ⟨drawn, found, _, pixels⟩ :=
    exact.blit .sourceOver redBuffer ⟨-Int32.maxValue, 0⟩ _ rfl
  refine ⟨drawn, found, ?_⟩
  rw [pixels .origin 0 (by decide)]
  decide

/-- A completed renderer does not copy the red pixel. -/
theorem not_pixelExact_of_completed :
    let completed := ({ backend := .surface ⟨0⟩ } : Renderer).complete
    completed.backend = .surface ⟨0⟩ ∧
      (completed.played twoPixels).get? ⟨0⟩ = some (.blank .argb32 1 1) ∧
      ¬ completed.PixelExact twoPixels ⟨0⟩ (.blank .argb32 1 1) := by
  refine ⟨rfl, rfl, ?_⟩
  intro exact
  obtain ⟨drawn, found, _, pixels⟩ := exact.blit .sourceOnly redBuffer .origin _ rfl
  cases found
  have red := pixels .origin 0 (by decide)
  revert red
  decide

end Small

end Renderer

end Compositing
