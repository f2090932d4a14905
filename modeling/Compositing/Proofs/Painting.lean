import Compositing.Proofs.Mirror
import Compositing.Proofs.Premultiplied
import Compositing.Proofs.Strokes

/-! What a painter paints, pixel by pixel and by what the painter itself says of its origin and its
clip. The drawing is the brush's, with an origin and a clip of its own. -/

namespace Compositing

namespace Registry

variable {kind : Kind} {α : Type}

theorem modify_fixed {change : α → α} (fixed : ∀ value, change value = value)
    (r : Registry kind α) (key : Key kind) : r.modify key change = r := by
  have same : change = id := funext fixed
  rw [modify, same, Option.map_id, List.modify_id]

end Registry

namespace Rect

def movedTo (r : Rect) (place : Point) : Rect := ⟨place.x, place.y, r.width, r.height⟩

/-- The far edges need not be held at the end of the plane. -/
def EndsOnPlane (r : Rect) : Prop :=
  r.x.toInt + r.width.toInt ≤ 2147483647 ∧ r.y.toInt + r.height.toInt ≤ 2147483647

theorem EndsOnPlane.ofSize (size : Size) : (ofSize size).EndsOnPlane := by
  have wide := (toInt_bounds size.width).2
  have high := (toInt_bounds size.height).2
  have corner : (0 : Int32).toInt = 0 := toInt_zero
  constructor
  · change (0 : Int32).toInt + size.width.toInt ≤ 2147483647
    omega
  · change (0 : Int32).toInt + size.height.toInt ≤ 2147483647
    omega

theorem shift_of_sumFits (r : Rect) {place origin : Point} (fits : place.SumFits origin) :
    (r.movedTo place).shift origin = r.movedTo (place + origin) := by
  have across := toInt_bounds (place + origin).x
  have down := toInt_bounds (place + origin).y
  rcases fits with ⟨right, below⟩
  apply ext_toInt
  · change (saturatingAdd place.x origin.x).toInt = (place + origin).x.toInt
    rw [toInt_saturatingAdd]
    omega
  · change (saturatingAdd place.y origin.y).toInt = (place + origin).y.toInt
    rw [toInt_saturatingAdd]
    omega
  · rfl
  · rfl

end Rect

theorem Surface.paint_of_isEmpty (s : Surface) {area : Rect} (empty : area.isEmpty = true)
    (change : Point → Pixel → Pixel) : s.paint area change = s := by
  rw [paint, Rect.points, if_pos empty, List.foldl_nil]

theorem Surface.bounds_endsOnPlane (s : Surface) : s.bounds.EndsOnPlane := .ofSize s.size

namespace Brush

variable {b : Brush} {held : Surfaces} {canvas : Surface}

theorem paint_inked {target : SurfaceId} (found : held.get? target = some canvas)
    (stored : canvas.Stored) {change : Surface → Surface} {area : Rect}
    {draw : Point → Pixel → Pixel} (paints : change canvas = canvas.paint area draw) :
    Inked target canvas
      (fun q old => if q ∈ area then canvas.format.readBack (draw q old) else old)
      held (held.modify target change) := by
  apply Inked.modify found (.refl canvas)
  · rw [paints]
    exact canvas.paint_alike draw area
  · intro q
    rw [paints, Surface.pixel?_paint]
    by_cases inside : q ∈ canvas.bounds
    · rw [Surface.pixel?_of_mem inside]
      simp only [Option.map_some, Surface.landing_of_stored stored inside]
      split <;> rfl
    · rw [Surface.pixel?_of_not_mem inside]
      simp

theorem fill_inked (found : held.get? b.target = some canvas) (stored : canvas.Stored)
    (color : Color) (r : Rect) :
    Inked b.target canvas
      (fun q old => if q ∈ b.frame.fillArea canvas.bounds r then
        canvas.format.readBack (b.frame.operator.blend color.toPixel old) else old)
      held (b.fill held color r) :=
  paint_inked found stored rfl

theorem composeLoose_inked (found : held.get? b.target = some canvas) (stored : canvas.Stored)
    (image : Surface) (place : Point) (part : Rect) :
    Inked b.target canvas
      (fun q old => if q ∈ b.frame.composeArea canvas.bounds place part then
        canvas.format.readBack
          (b.frame.operator.blend (b.frame.composeSource image place part q) old) else old)
      held (held.modify b.target (b.frame.compose · image place part)) :=
  paint_inked found stored rfl

/-- The image is the source as it is before the call, even when it is the canvas. -/
theorem compose_inked (found : held.get? b.target = some canvas) (stored : canvas.Stored)
    {source : SurfaceId} {image : Surface} (reads : held.get? source = some image) (place : Point)
    (part : Rect) :
    Inked b.target canvas
      (fun q old => if q ∈ b.frame.composeArea canvas.bounds place part then
        canvas.format.readBack
          (b.frame.operator.blend (b.frame.composeSource image place part q) old) else old)
      held (b.compose held source place part) := by
  rw [compose, reads]
  exact composeLoose_inked found stored image place part

namespace Frame

variable {f : Frame} {q : Point}

def Shows (f : Frame) (q : Point) : Prop := ∀ clip ∈ f.clip, q ∈ clip

theorem mem_reach {bounds : Rect} : q ∈ f.reach bounds ↔ f.Shows q ∧ q ∈ bounds := by
  rw [reach, Shows]
  cases f.clip with
  | none => simp
  | some clip => simp

section Inside

variable (inside : q ∈ canvas.bounds) {place : Point} (fits : place.SumFits f.origin) {part : Rect}

include inside

theorem mem_fillArea {r : Rect} :
    q ∈ f.fillArea canvas.bounds r ↔ f.Shows q ∧ r.HoldsFrom f.origin q := by
  rw [fillArea, Rect.mem_overlap, mem_reach, Surface.mem_shift inside]
  tauto

include fits

theorem mem_composeArea :
    q ∈ f.composeArea canvas.bounds place part ↔
      f.Shows q ∧ (part.movedTo place).HoldsFrom f.origin q := by
  rw [composeArea, Rect.mem_overlap, mem_reach, ← Surface.mem_shift inside,
    part.shift_of_sumFits fits]
  tauto

theorem toInt_steps (holds : (part.movedTo place).HoldsFrom f.origin q) :
    (q - (place + f.origin)).x.toInt = f.origin.across place q ∧
      (q - (place + f.origin)).y.toInt = f.origin.down place q := by
  have moved := Surface.toInt_sub_shift inside holds
  rw [part.shift_of_sumFits fits] at moved
  exact moved

theorem toInt_sourcePoint (ends : part.EndsOnPlane)
    (holds : (part.movedTo place).HoldsFrom f.origin q) :
    (part.corner + (q - (place + f.origin))).x.toInt =
        part.x.toInt + f.origin.across place q ∧
      (part.corner + (q - (place + f.origin))).y.toInt =
        part.y.toInt + f.origin.down place q := by
  have column : 0 ≤ f.origin.across place q ∧ f.origin.across place q < part.width.toInt := holds.1
  have row : 0 ≤ f.origin.down place q ∧ f.origin.down place q < part.height.toInt := holds.2
  have left := toInt_bounds part.x
  have top := toInt_bounds part.y
  rcases toInt_steps inside fits holds with ⟨right, below⟩
  rcases ends with ⟨wide, high⟩
  rw [← right] at column ⊢
  rw [← below] at row ⊢
  exact ⟨toInt_add_of_fits part.x _ (by omega) (by omega),
    toInt_add_of_fits part.y _ (by omega) (by omega)⟩

theorem composeSource_eq (ends : part.EndsOnPlane) (image : Surface)
    (holds : (part.movedTo place).HoldsFrom f.origin q) :
    f.composeSource image place part q =
      image.colorAt (part.x.toInt + f.origin.across place q)
        (part.y.toInt + f.origin.down place q) := by
  rcases toInt_sourcePoint inside fits ends holds with ⟨across, down⟩
  rw [composeSource, ← across, ← down, Surface.colorAt_toInt]

end Inside

theorem overlap_reach_isEmpty {clip : Rect} (clipped : f.clip = some clip)
    (empty : clip.isEmpty = true) (area bounds : Rect) :
    (area.overlap (f.reach bounds)).isEmpty = true := by
  rw [Rect.overlap_isEmpty_iff_forall]
  intro q _ reached
  exact Rect.not_mem_of_isEmpty empty q ((mem_reach.mp reached).1 clip clipped)

end Frame

section Clipped

variable {clip : Rect} (clipped : b.frame.clip = some clip) (empty : clip.isEmpty = true)

include clipped empty

theorem fill_of_empty (color : Color) (r : Rect) : b.fill held color r = held := by
  apply Registry.modify_fixed
  intro target
  exact target.paint_of_isEmpty (Frame.overlap_reach_isEmpty clipped empty _ _) _

theorem compose_of_empty (source : SurfaceId) (place : Point) (part : Rect) :
    b.compose held source place part = held := by
  rw [compose]
  cases held.get? source with
  | none => rfl
  | some image =>
      apply Registry.modify_fixed
      intro target
      exact target.paint_of_isEmpty (Frame.overlap_reach_isEmpty clipped empty _ _) _

end Clipped

end Brush

namespace Painter

def Strikes (p : Painter) (area : Rect) (q : Point) : Prop :=
  q ∈ p.clip ∧ area.HoldsFrom p.frame.origin q

instance (p : Painter) (area : Rect) (q : Point) : Decidable (p.Strikes area q) :=
  inferInstanceAs (Decidable (_ ∧ _))

/-- What the painter draws changes the pixels of its target that it strikes and no others, as if all
places were integers; and it reads no pixel of a source, be it the target itself, that it has
changed before. -/
structure Exact (p : Painter) (a : Attachment) (held : Surfaces) (canvas : Surface) : Prop where
  fill : ∀ color r,
    Inked a.brush.target canvas
      (fun q old => if p.Strikes r q then
        canvas.format.readBack (a.brush.frame.operator.blend color.toPixel old) else old)
      held (p.fill held color r)
  draw : ∀ source image place, held.get? source = some image → place.SumFits p.frame.origin →
    Inked a.brush.target canvas
      (fun q old => if p.Strikes (image.bounds.movedTo place) q then
        canvas.format.readBack (a.brush.frame.operator.blend
          (image.colorAt (p.frame.origin.across place q) (p.frame.origin.down place q)) old)
      else old)
      held (p.draw held source place)

namespace Mirrored

variable {p : Painter} {a : Attachment} (mirrored : p.Mirrored a) {held : Surfaces}

include mirrored

theorem clip_eq : a.brush.frame.clip = some p.clip := by
  rcases Option.isSome_iff_exists.mp mirrored.frame.clipped with ⟨clip, active⟩
  rw [mirrored.frame.clip, Painter.clip, active, Option.getD_some]

theorem isEmpty_of_fullyClipped (clipped : p.isFullyClipped = true) :
    p.clip.isEmpty = true := by
  rcases Option.isSome_iff_exists.mp mirrored.frame.clipped with ⟨clip, active⟩
  rw [isFullyClipped, active] at clipped
  rw [Painter.clip, active]
  exact clipped

theorem unless_clipped_eq {drawn : Surfaces} (nothing : p.clip.isEmpty = true → drawn = held) :
    (if p.isFullyClipped then held else drawn) = drawn := by
  cases clipped : p.isFullyClipped with
  | true =>
      rw [if_pos rfl]
      exact (nothing (mirrored.isEmpty_of_fullyClipped clipped)).symm
  | false => exact if_neg (by decide)

theorem fill_eq (color : Color) (r : Rect) : p.fill held color r = a.brush.fill held color r := by
  rw [Painter.fill, mirrored.attached]
  exact mirrored.unless_clipped_eq fun empty =>
    Brush.fill_of_empty mirrored.clip_eq empty color r

theorem draw_eq {source : SurfaceId} {image : Surface} (reads : held.get? source = some image)
    (place : Point) :
    p.draw held source place = a.brush.compose held source place image.bounds := by
  rw [Painter.draw, mirrored.attached, reads]
  exact mirrored.unless_clipped_eq fun empty =>
    Brush.compose_of_empty mirrored.clip_eq empty source place image.bounds

theorem strikes_iff {area : Rect} {q : Point} :
    a.brush.frame.Shows q ∧ area.HoldsFrom a.brush.frame.origin q ↔ p.Strikes area q := by
  rw [Brush.Frame.Shows, mirrored.clip_eq, mirrored.frame.origin, Strikes]
  simp only [Option.mem_some_iff, forall_eq']

theorem paints_exactly {canvas : Surface} (found : held.get? a.brush.target = some canvas)
    (stored : canvas.Stored) : p.Exact a held canvas where
  fill color r := by
    rw [mirrored.fill_eq]
    apply (Brush.fill_inked found stored color r).congr
    intro q inside old
    simp only [Brush.Frame.mem_fillArea inside, mirrored.strikes_iff]
  draw source image place reads fits := by
    rw [mirrored.draw_eq reads]
    apply (Brush.compose_inked found stored reads place image.bounds).congr
    intro q inside old
    rw [← mirrored.frame.origin] at fits ⊢
    simp only [Brush.Frame.mem_composeArea inside fits, mirrored.strikes_iff]
    by_cases struck : p.Strikes (image.bounds.movedTo place) q
    · have holds := (mirrored.strikes_iff.mpr struck).2
      let origin := a.brush.frame.origin
      have color : a.brush.frame.composeSource image place image.bounds q =
          image.colorAt (origin.across place q) (origin.down place q) :=
        calc a.brush.frame.composeSource image place image.bounds q
            = image.colorAt (0 + origin.across place q) (0 + origin.down place q) :=
              Brush.Frame.composeSource_eq inside fits image.bounds_endsOnPlane image holds
          _ = image.colorAt (origin.across place q) (origin.down place q) := by
              rw [Int.zero_add, Int.zero_add]
      rw [if_pos struck, if_pos struck, color]
    · rw [if_neg struck, if_neg struck]

end Mirrored

end Painter

namespace Studio

theorem painters_mirrored (surfaces : Surfaces) {operations : List Operation}
    (leaves : ∀ operation ∈ operations, operation.Asks Painter.Request.LeavesBrush) :
    (performAll ({}, surfaces) operations).1.painters.Each fun p => ∃ a, p.Mirrored a := by
  apply performAll_painters (motive := fun p => ∃ a, p.Mirrored a) Painter.attach_mirrored ?_ ?_
    surfaces leaves
  · intro p request after holding leaves answered
    rcases holding with ⟨a, mirrored⟩
    exact mirrored.answer leaves answered
  · intro id p found
    cases found

section Reached

/-- Surfaces that come in by another hand are those of a program, too. -/
def Operation.Supplies : Operation → Prop
  | replace surfaces => surfaces.Reached
  | _ => True

theorem changed_reached (s : Studio) {surfaces : Surfaces} (reached : surfaces.Reached)
    (id : BufferId) {change : Buffer → Surfaces → Except Fault (Buffer × Surfaces)}
    (keeps : ∀ b next later, change b surfaces = .ok (next, later) → later.Reached) :
    (changed (s, surfaces) id change).2.Reached := by
  rcases changed_cases s surfaces id change with same | ⟨b, next, later, _, done, same⟩
  · rwa [same]
  · rw [same]
    exact keeps b next later done

theorem perform_reached (s : Studio) {surfaces : Surfaces} (reached : surfaces.Reached)
    {operation : Operation} (supplies : operation.Supplies) :
    (perform (s, surfaces) operation).2.Reached := by
  cases operation with
  | create format size =>
      cases made : s.create surfaces format size with
      | error fault => simpa [perform, made, Except.map, Except.toOption] using reached
      | ok scene =>
          rcases of_create made with ⟨b, created, _⟩
          simpa [perform, made, Except.map, Except.toOption] using reached.create created
  | setSize id size =>
      apply changed_reached s reached id
      intro b next later done
      exact reached.resize (Buffer.of_setSize done).2.1
  | beginResize id largest =>
      apply changed_reached s reached id
      intro b next later done
      exact reached.reserve (Buffer.of_beginResize done).1
  | endResize id =>
      apply changed_reached s reached id
      intro b next later done
      rw [(Buffer.of_endResize done).2]
      exact reached.shrink b.surface
  | ask id request =>
      simp only [perform]
      cases s.painters.get? id <;> exact reached
  | fill id color r =>
      simp only [perform]
      cases s.painters.get? id with
      | none => exact reached
      | some p =>
          rw [Option.elim_some, Painter.fill]
          split
          · split
            · exact reached
            · exact reached.fill _ color r
          · exact reached
  | draw id source place =>
      simp only [perform]
      cases s.painters.get? id with
      | none => exact reached
      | some p =>
          rw [Option.elim_some, Painter.draw]
          split
          · split
            · exact reached
            · exact reached.compose _ source place _
          · exact reached
  | replace surfaces => exact supplies
  | openPainter id => exact reached
  | closePainter id => exact reached
  | closePainters id => exact reached
  | discard id => exact reached

theorem performAll_reached (s : Studio) {surfaces : Surfaces} (reached : surfaces.Reached)
    {operations : List Operation} (supplies : ∀ operation ∈ operations, operation.Supplies) :
    (performAll (s, surfaces) operations).2.Reached := by
  induction operations generalizing s surfaces with
  | nil => exact reached
  | cons operation rest ih =>
      rcases List.forall_mem_cons.mp supplies with ⟨here, later⟩
      exact ih _ (perform_reached s reached here) later

/-- In a program an open painter paints exactly on the surfaces that there are by then, as long as
brushes are asked for no more than another operator. -/
theorem paints_exactly_of_reached {surfaces : Surfaces} (reached : surfaces.Reached)
    {operations : List Operation} (supplies : ∀ operation ∈ operations, operation.Supplies)
    (leaves : ∀ operation ∈ operations, operation.Asks Painter.Request.LeavesBrush)
    {id : PainterId} {p : Painter}
    (found : (performAll ({}, surfaces) operations).1.painters.get? id = some p) :
    ∃ a, p.attached = some a ∧ ∀ canvas,
      (performAll ({}, surfaces) operations).2.get? a.brush.target = some canvas →
        p.Exact a (performAll ({}, surfaces) operations).2 canvas := by
  rcases painters_mirrored surfaces leaves id p found with ⟨a, mirrored⟩
  refine ⟨a, mirrored.attached, ?_⟩
  intro canvas there
  exact mirrored.paints_exactly there
    ((performAll_reached {} reached supplies).stored a.brush.target canvas there)

end Reached

/-- Whatever has been asked of a studio, so long as brushes were asked for no more than another
operator: an open painter paints exactly what its own origin and clip say, whatever surfaces there
are by then. That a painter with nothing left of its clip does not ask its brush makes no
difference. -/
theorem painters_exact_always (surfaces : Surfaces) (operations : List Operation)
    (leaves : ∀ operation ∈ operations, operation.Asks Painter.Request.LeavesBrush) :
    let s := (performAll ({}, surfaces) operations).1
    ∀ id p, s.painters.get? id = some p → ∃ a, p.attached = some a ∧ ∀ held : Surfaces,
      (∀ canvas, held.get? a.brush.target = some canvas → canvas.Stored →
        p.Exact a held canvas) ∧
      (∀ color r, p.fill held color r = a.brush.fill held color r) ∧
      ∀ source image place, held.get? source = some image →
        p.draw held source place = a.brush.compose held source place image.bounds := by
  intro s id p found
  rcases painters_mirrored surfaces leaves id p found with ⟨a, mirrored⟩
  refine ⟨a, mirrored.attached, ?_⟩
  intro held
  refine ⟨?_, ?_, ?_⟩
  · intro canvas there stored
    exact mirrored.paints_exactly there stored
  · intro color r
    exact mirrored.fill_eq color r
  · intro source image place reads
    exact mirrored.draw_eq reads place

def halfRed : Surface := (Surface.blank .argb32 2 1).setPixel .origin 0xFFFF0000

theorem halfRed_reached : Surfaces.Reached ⟨[some halfRed]⟩ := by
  have made : Surfaces.create {} .argb32 ⟨2, 1⟩ = .ok (_, _) := rfl
  exact (Surfaces.Reached.create .start made).setPixel ⟨0⟩ .origin 0xFFFF0000

def steppedAside : List Operation :=
  [.create .argb32 ⟨2, 1⟩, .openPainter ⟨0⟩, .ask ⟨0⟩ (.moveOrigin ⟨1, 0⟩),
    .ask ⟨0⟩ (.onBrush (·.setOperator .sourceOnly)), .replace ⟨[some halfRed]⟩]

theorem steppedAside_supplies : ∀ operation ∈ steppedAside, operation.Supplies := by
  simp only [steppedAside, List.forall_mem_cons, Operation.Supplies, true_and, List.not_mem_nil,
    false_imp_iff, implies_true, and_true]
  exact halfRed_reached

/-- It draws its surface onto itself, and the second pixel becomes red too. -/
theorem painters_exact_on_own_surface :
    let scene := performAll ({}, {}) steppedAside
    ∃ p canvas drawn, scene.1.painters.get? ⟨0⟩ = some p ∧ scene.2.get? ⟨0⟩ = some canvas ∧
      (p.draw scene.2 ⟨0⟩ .origin).get? ⟨0⟩ = some drawn ∧
      canvas.pixel? ⟨1, 0⟩ = some 0 ∧
      drawn.pixel? ⟨1, 0⟩ = some 0xFFFF0000 := by
  have leaves : ∀ operation ∈ steppedAside, operation.Asks Painter.Request.LeavesBrush := by
    simp only [steppedAside, List.forall_mem_cons, Operation.Asks, Painter.Request.LeavesBrush,
      true_and, List.not_mem_nil, false_imp_iff, implies_true, and_true]
    exact ⟨.sourceOnly, rfl⟩
  rcases painters_exact_always {} steppedAside leaves ⟨0⟩ _ rfl with ⟨a, attached, each⟩
  cases attached
  have stored := (performAll_reached {} .start steppedAside_supplies).stored
  have exact := (each (performAll ({}, {}) steppedAside).2).1 _ rfl (stored ⟨0⟩ _ rfl)
  have inked := exact.draw ⟨0⟩ _ .origin rfl ⟨rfl, rfl⟩
  rcases inked.target with ⟨canvas, drawn, found, there, _, _, makes⟩
  refine ⟨_, canvas, drawn, rfl, found, there, ?_, ?_⟩
  · cases found
    decide
  · rw [makes]
    cases found
    decide

end Studio

end Compositing
