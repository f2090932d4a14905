import Compositing.Brush
import Compositing.Proofs.Blending
import Compositing.Proofs.Resizing

/-! Drawing on premultiplied surfaces. As long as all that is drawn is premultiplied, so is what
comes of it, and no channel is ever held back; and what covers its surface goes on covering it. -/

namespace Compositing

namespace Surface

def Each (s : Surface) (holds : Pixel → Prop) : Prop :=
  ∀ p pixel, s.pixel? p = some pixel → holds pixel

variable {s : Surface} {holds : Pixel → Prop}

theorem each_iff_points : s.Each holds ↔ ∀ p ∈ s.bounds.points, holds (s.pixelOrClear p) := by
  constructor
  · intro each p inside
    rw [Surface.pixelOrClear, pixel?_of_mem (Rect.mem_points.mp inside)]
    exact each p _ (pixel?_of_mem (Rect.mem_points.mp inside))
  · intro each p pixel found
    have inside : p ∈ s.bounds := by
      by_contra outside
      rw [pixel?_of_not_mem outside] at found
      cases found
    have value := each p (Rect.mem_points.mpr inside)
    rwa [Surface.pixelOrClear, found] at value

instance [DecidablePred holds] : Decidable (s.Each holds) :=
  decidable_of_iff _ each_iff_points.symm

theorem Each.pixelOrClear (each : s.Each holds) (clear : holds 0) (p : Point) :
    holds (s.pixelOrClear p) := by
  rw [Surface.pixelOrClear]
  cases found : s.pixel? p with
  | none => exact clear
  | some pixel => exact each p pixel found

theorem landing_cases {p : Point} {old : Pixel} (found : s.pixel? p = some old) (pixel : Pixel) :
    s.landing p pixel = s.format.readBack pixel ∨ s.landing p pixel = old := by
  rw [landing]
  by_cases held : s.wordIndex p < s.words.size
  · exact .inl (if_pos held)
  · right
    rw [pixel?] at found
    split at found
    · simpa [held, Array.getD] using found
    · cases found

theorem Each.paint (each : s.Each holds)
    (stores : ∀ pixel, holds pixel → holds (s.format.readBack pixel)) {area : Rect}
    {change : Point → Pixel → Pixel}
    (makes : ∀ p old, s.pixel? p = some old → holds (change p old)) :
    (s.paint area change).Each holds := by
  intro p pixel painted
  rw [pixel?_paint] at painted
  split at painted
  · rcases Option.map_eq_some_iff.mp painted with ⟨old, found, rfl⟩
    rcases landing_cases found (change p old) with written | kept
    · rw [written]
      exact stores _ (makes p old found)
    · rw [kept]
      exact each p old found
  · exact each p pixel painted

theorem Each.clear (each : s.Each holds)
    (stores : ∀ pixel, holds pixel → holds (s.format.readBack pixel)) {color : Color}
    (makes : holds color.toPixel) : (s.clear color).Each holds := by
  rw [Surface.clear]
  exact each.paint stores fun _ _ _ => makes

theorem Each.resize (each : s.Each holds) (clear : holds (s.format.readBack 0))
    (width height : Int32) : (s.resize width height).Each holds := by
  intro p pixel found
  rw [pixel?_resize] at found
  split at found
  · split at found
    · exact each p pixel found
    · cases found
      exact clear
  · cases found

end Surface

namespace Brush

namespace Frame

variable (f : Frame) (bounds : Rect)

def fillArea (r : Rect) : Rect := (r.shift f.origin).overlap (f.reach bounds)

def composeArea (place : Point) (part : Rect) : Rect :=
  let start := place + f.origin
  (Rect.mk start.x start.y part.width part.height).overlap (f.reach bounds)

def composeSource (image : Surface) (place : Point) (part : Rect) (p : Point) : Pixel :=
  image.pixelOrClear (part.corner + (p - (place + f.origin)))

end Frame

inductive Operation
  | save
  | restore
  | placeOrigin (origin : Point)
  | moveOrigin (step : Point)
  | clipTo (r : Rect)
  | clipLocal (r : Rect)
  | setOperator (operator : Operator)
  | fill (color : Color) (r : Rect)
  /-- Composes a surface that is no program's. -/
  | composeLoose (image : Surface) (place : Point) (part : Rect)
  | compose (source : SurfaceId) (place : Point) (part : Rect)
  | clear (color : Color)
  | resize (size : Size)

abbrev Scene := Brush × Surfaces

def perform (scene : Scene) : Operation → Scene
  | .save => (scene.1.save, scene.2)
  | .restore => (scene.1.restore?.getD scene.1, scene.2)
  | .placeOrigin origin => (scene.1.placeOrigin origin, scene.2)
  | .moveOrigin step => (scene.1.moveOrigin step, scene.2)
  | .clipTo r => (scene.1.clipTo r, scene.2)
  | .clipLocal r => (scene.1.clipLocal r, scene.2)
  | .setOperator operator => (scene.1.setOperator operator, scene.2)
  | .fill color r => (scene.1, scene.1.fill scene.2 color r)
  | .composeLoose image place part =>
      (scene.1, scene.2.modify scene.1.target (scene.1.frame.compose · image place part))
  | .compose source place part => (scene.1, scene.1.compose scene.2 source place part)
  | .clear color => (scene.1, scene.2.modify scene.1.target (·.clear color))
  | .resize size => (scene.1, (scene.2.resize scene.1.target size).toOption.getD scene.2)

def performAll (scene : Scene) (operations : List Operation) : Scene :=
  operations.foldl perform scene

/-- A condition that each operation of a run meets where it is performed. -/
def Throughout (condition : Scene → Operation → Prop) (scene : Scene) : List Operation → Prop
  | [] => True
  | operation :: rest =>
      condition scene operation ∧ Throughout condition (perform scene operation) rest

def Operation.coat? (scene : Scene) (canvas : Surface) :
    Operation → Option (Rect × (Point → Pixel))
  | .fill color r => some (scene.1.frame.fillArea canvas.bounds r, fun _ => color.toPixel)
  | .composeLoose image place part =>
      some (scene.1.frame.composeArea canvas.bounds place part,
        scene.1.frame.composeSource image place part)
  | .compose source place part => (scene.2.get? source).map fun image =>
      (scene.1.frame.composeArea canvas.bounds place part,
        scene.1.frame.composeSource image place part)
  | _ => none

inductive Effect (scene : Scene) (canvas : Surface) : Operation → Surface → Prop
  | keep {operation : Operation} : Effect scene canvas operation canvas
  | paint {operation : Operation} {area : Rect} {source : Point → Pixel}
      (coat : operation.coat? scene canvas = some (area, source)) :
      Effect scene canvas operation
        (canvas.paint area fun p => scene.1.frame.operator.blend (source p))
  | clear {color : Color} : Effect scene canvas (.clear color) (canvas.clear color)
  | resize {size : Size} :
      Effect scene canvas (.resize size) (canvas.resize size.width size.height)

section Effect

variable {b : Brush} {surfaces : Surfaces} {canvas : Surface}

theorem perform_target (operation : Operation) :
    (perform (b, surfaces) operation).1.target = b.target := by
  cases operation with
  | restore =>
      rw [perform, restore?]
      cases b.saved <;> rfl
  | _ => rfl

theorem perform_effect (found : surfaces.get? b.target = some canvas) (operation : Operation) :
    ∃ after, (perform (b, surfaces) operation).2.get? b.target = some after ∧
      Effect (b, surfaces) canvas operation after := by
  have changed (change : Surface → Surface) :
      (surfaces.modify b.target change).get? b.target = some (change canvas) := by
    simp [found]
  cases operation with
  | fill color r => exact ⟨_, changed _, .paint rfl⟩
  | composeLoose image place part => exact ⟨_, changed _, .paint rfl⟩
  | compose source place part =>
      simp only [perform, Brush.compose]
      cases there : surfaces.get? source with
      | none => exact ⟨canvas, found, .keep⟩
      | some image =>
          have coat : (Operation.compose source place part).coat? (b, surfaces) canvas =
              some (b.frame.composeArea canvas.bounds place part,
                b.frame.composeSource image place part) := by
            simp [Operation.coat?, there]
          exact ⟨_, changed _, .paint coat⟩
  | clear color => exact ⟨_, changed _, .clear⟩
  | resize size =>
      simp only [perform, Surfaces.resize, Surfaces.withRoom, found]
      cases Surface.checkSize canvas.format size with
      | error fault => exact ⟨canvas, found, .keep⟩
      | ok _ => exact ⟨_, changed _, .resize⟩
  | _ => exact ⟨canvas, found, .keep⟩

end Effect

def Operation.Sound (scene : Scene) : Operation → Prop
  | .fill color _ => color.toPixel.Valid
  | .composeLoose image _ _ => image.Each Pixel.Valid
  | .compose source _ _ => ∀ image, scene.2.get? source = some image → image.Each Pixel.Valid
  | .clear color => color.toPixel.Valid
  | _ => True

def Operation.Overlays (scene : Scene) : Operation → Prop
  | .fill _ _ | .composeLoose _ _ _ | .compose _ _ _ => scene.1.frame.operator = .sourceOver
  | .clear _ | .resize _ => False
  | _ => True

def Operation.Unsaturated (scene : Scene) (operation : Operation) : Prop :=
  ∀ canvas area source, scene.2.get? scene.1.target = some canvas →
    operation.coat? scene canvas = some (area, source) →
    ∀ p ∈ area, ∀ offset ∈ Pixel.offsets,
      Pixel.mixChannel (255 - (source p).alpha) ((source p).channel offset)
        ((canvas.pixelOrClear p).channel offset) ≤ 255

section Keeps

variable {scene : Scene} {canvas after : Surface} {operation : Operation}

theorem Operation.Sound.coat (sound : operation.Sound scene) {area : Rect}
    {source : Point → Pixel} (coat : operation.coat? scene canvas = some (area, source))
    (p : Point) : (source p).Valid := by
  have clear : Pixel.Valid 0 := by decide
  cases operation with
  | fill color r =>
      cases coat
      exact sound
  | composeLoose image place part =>
      cases coat
      exact Surface.Each.pixelOrClear sound clear _
  | compose name place part =>
      rcases Option.map_eq_some_iff.mp coat with ⟨image, there, same⟩
      cases same
      exact (sound image there).pixelOrClear clear _
  | _ => cases coat

theorem Operation.Sound.unsaturated (sound : operation.Sound scene) :
    operation.Unsaturated scene :=
  fun _ _ _ _ coat p _ _ byte => Pixel.mixChannel_le (sound.coat coat p) byte

theorem Effect.valid (effect : Effect scene canvas operation after)
    (valid : canvas.Each Pixel.Valid) (sound : operation.Sound scene) :
    after.Each Pixel.Valid := by
  have stores (pixel : Pixel) (valid : pixel.Valid) :
      (canvas.format.readBack pixel).Valid := canvas.format.valid_readBack valid
  cases effect with
  | keep => exact valid
  | paint coat =>
      apply valid.paint stores
      intro p old found
      exact scene.1.frame.operator.valid_blend (sound.coat coat p) (valid p old found)
  | clear => exact valid.clear stores sound
  | resize =>
      have clear : Pixel.Valid 0 := by decide
      exact valid.resize (stores 0 clear) _ _

theorem Effect.opaque (effect : Effect scene canvas operation after)
    (full : canvas.Each Pixel.Opaque) (overlays : operation.Overlays scene) :
    after.Each Pixel.Opaque := by
  cases effect with
  | keep => exact full
  | @paint _ area source coat =>
      have draws : scene.1.frame.operator = .sourceOver := by
        cases operation with
        | fill color r => exact overlays
        | composeLoose image place part => exact overlays
        | compose name place part => exact overlays
        | _ => cases coat
      apply full.paint fun pixel full => canvas.format.opaque_readBack full
      intro p old found
      rw [draws]
      exact (full p old found).onto (source p)
  | clear => exact overlays.elim
  | resize => exact overlays.elim

end Keeps

theorem performAll_each {holds : Pixel → Prop} {condition : Scene → Operation → Prop}
    (keeps : ∀ scene canvas operation after, Effect scene canvas operation after →
      canvas.Each holds → condition scene operation → after.Each holds)
    {b : Brush} {surfaces : Surfaces} {canvas : Surface}
    (found : surfaces.get? b.target = some canvas) (each : canvas.Each holds)
    {operations : List Operation} (met : Throughout condition (b, surfaces) operations) :
    ∃ after, (performAll (b, surfaces) operations).2.get? b.target = some after ∧
      after.Each holds := by
  induction operations generalizing b surfaces canvas with
  | nil => exact ⟨canvas, found, each⟩
  | cons operation rest ih =>
      rcases perform_effect found operation with ⟨middle, there, effect⟩
      have same : (perform (b, surfaces) operation).1.target = b.target := perform_target operation
      have kept := keeps _ canvas operation middle effect each met.1
      rw [← same] at there ⊢
      exact ih there kept met.2

theorem Throughout.mono {first second : Scene → Operation → Prop}
    (weaker : ∀ scene operation, first scene operation → second scene operation) {scene : Scene}
    {operations : List Operation} (met : Throughout first scene operations) :
    Throughout second scene operations := by
  induction operations generalizing scene with
  | nil => trivial
  | cons operation rest ih => exact ⟨weaker scene operation met.1, ih met.2⟩

/-- However a brush is set and whatever it draws, clears and resizes on a surface of whatever format:
if the surface is premultiplied and so is all that is drawn, the surface itself included, then it
stays so, and no channel of any pixel drawn goes beyond 255. If it is opaque as well, and
everything is drawn over what is there, it stays opaque. -/
theorem pixels_stay_valid (b : Brush) (surfaces : Surfaces) (canvas : Surface)
    (found : surfaces.get? b.target = some canvas) (valid : canvas.Each Pixel.Valid)
    (operations : List Operation)
    (sound : Throughout (fun scene operation => operation.Sound scene) (b, surfaces) operations) :
    ∃ after, (performAll (b, surfaces) operations).2.get? b.target = some after ∧
      after.Each Pixel.Valid ∧
      Throughout (fun scene operation => operation.Unsaturated scene) (b, surfaces) operations ∧
      (canvas.Each Pixel.Opaque →
        Throughout (fun scene operation => operation.Overlays scene) (b, surfaces) operations →
        after.Each Pixel.Opaque) := by
  rcases performAll_each (fun _ _ _ _ effect => effect.valid) found valid sound with
    ⟨after, there, kept⟩
  refine ⟨after, there, kept, ?_, ?_⟩
  · exact sound.mono fun _ _ sound => sound.unsaturated
  · intro full overlays
    rcases performAll_each (fun _ _ _ _ effect => effect.opaque) found full overlays with
      ⟨same, here, full⟩
    rw [there] at here
    cases here
    exact full

def tricolour : Surface := ⟨.argb32, 2, 2, #[0xFFFF0000, 0xFF00FF00, 0xFF0000FF, 0xFF000000], 4⟩

def selfPortrait : List Operation :=
  [.save, .clipTo ⟨0, 0, 1, 2⟩, .compose ⟨0⟩ ⟨1, 1⟩ ⟨-1, -1, 3, 3⟩, .fill .white ⟨0, 0, 2, 2⟩]

theorem pixels_stay_valid_portrait :
    ∃ after, (performAll ({ target := ⟨0⟩ }, Registry.add {} tricolour) selfPortrait).2.get? ⟨0⟩ =
      some after ∧ after.Each Pixel.Valid ∧ after.Each Pixel.Opaque := by
  have valid : tricolour.Each Pixel.Valid := by decide
  have full : tricolour.Each Pixel.Opaque := by decide
  have sound : Throughout (fun scene operation => operation.Sound scene)
      ({ target := ⟨0⟩ }, Registry.add {} tricolour) selfPortrait := by
    refine ⟨trivial, trivial, ?_, Pixel.valid_of_same _, trivial⟩
    intro image found
    cases found
    exact valid
  rcases pixels_stay_valid { target := ⟨0⟩ } (Registry.add {} tricolour) tricolour rfl valid
    selfPortrait sound with ⟨after, there, kept, _, covers⟩
  exact ⟨after, there, kept, covers full ⟨trivial, trivial, rfl, rfl, trivial⟩⟩

end Brush

end Compositing
