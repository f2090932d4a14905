import Compositing.Proofs.Painting
import Compositing.Proofs.Storage

/-! Drawing pixel by pixel, with two nested loops over an area. Each turn works out anew where in
the source its pixel comes from, looks pixels up in the storage, and writes one back; every sum and
every place in the storage is checked. A surface drawn onto itself is copied first. No check fails,
and what the loops leave is what `Brush.fill` and `Brush.compose` leave. -/

namespace Compositing

namespace Point

instance (p q : Point) : Decidable (p.SumFits q) := inferInstanceAs (Decidable (_ ∧ _))

instance (p q : Point) : Decidable (p.DifferenceFits q) := inferInstanceAs (Decidable (_ ∧ _))

def add? (p q : Point) : Option Point := if p.SumFits q then some (p + q) else none

def sub? (p q : Point) : Option Point := if p.DifferenceFits q then some (p - q) else none

end Point

namespace Pixel

/-- No difference on the way to what two pixels blend into is negative, and no product or sum too
large for a word. -/
def BlendFits (source target : Pixel) : Prop :=
  source.alpha.toNat ≤ 255 ∧ ∀ offset ∈ offsets,
    (target.channel offset).toNat * (255 - source.alpha.toNat) + 127 < UInt32.size ∧
      source.sum target offset < UInt32.size

instance (source target : Pixel) : Decidable (source.BlendFits target) :=
  -- One offset after the other: the words are finitely many as well, but too many to go through.
  @instDecidableAnd _ _ _ (List.decidableBAll _ offsets)

theorem blendFits (source target : Pixel) : source.BlendFits target := by
  refine ⟨source.alpha_le, ?_⟩
  intro offset _
  have size : UInt32.size = 4294967296 := rfl
  have first := source.channel_le offset
  have product : (target.channel offset).toNat * (255 - source.alpha.toNat) ≤ 255 * 255 :=
    Nat.mul_le_mul (target.channel_le offset) (Nat.sub_le ..)
  rw [sum, size]
  omega

end Pixel

def Operator.blend? (operator : Operator) (source target : Pixel) : Option Pixel :=
  if source.BlendFits target then some (operator.blend source target) else none

namespace Surface

/-- Reads a pixel, where nothing counts as transparent. It fails if the storage ends before the row
or the cell. -/
def read? (s : Surface) (p : Point) : Option Pixel :=
  if p ∈ s.bounds then if s.rowStart p < s.bytes.length then s.fetch? p else none
  else some 0

def write? (s : Surface) (p : Point) (pixel : Pixel) : Option Surface :=
  if p ∈ s.bounds then if s.rowStart p < s.bytes.length then s.put? p pixel else none
  else some s

variable {s : Surface} (stored : s.Stored)

include stored

theorem rowStart_lt {p : Point} (inside : p ∈ s.bounds) : s.rowStart p < s.bytes.length := by
  have held := wordIndex_lt stored inside
  rw [wordIndex] at held
  have before := Nat.lt_of_le_of_lt (Nat.le_add_right ..) held
  rw [bytes_length, rowStart, stride, Format.stride, Nat.mul_left_comm]
  omega

theorem read?_eq (p : Point) : s.read? p = some (s.pixelOrClear p) := by
  rw [read?]
  by_cases inside : p ∈ s.bounds
  · rw [if_pos inside, if_pos (rowStart_lt stored inside), fetch?_eq stored inside,
      pixel?_of_mem inside]
  · rw [if_neg inside, pixelOrClear, pixel?_of_not_mem inside]
    rfl

theorem write?_eq (p : Point) (pixel : Pixel) : s.write? p pixel = some (s.setPixel p pixel) := by
  rw [write?]
  by_cases inside : p ∈ s.bounds
  · rw [if_pos inside, if_pos (rowStart_lt stored inside), put?_eq stored inside]
  · rw [if_neg inside, setPixel, if_neg inside]

end Surface

namespace Rect

variable {σ α β : Type}

def loop? (area : Rect) (turn : σ → Point → Option σ) (s : σ) : Option σ :=
  if area.isEmpty then some s else
    (coordinates area.y area.bottom).foldlM (fun s y =>
      (coordinates area.x area.right).foldlM (fun s x => turn s ⟨x, y⟩) s) s

theorem foldlM_flatMap_some (inner : α → List β) (turn : σ → β → Option σ) (outer : List α)
    (s : σ) :
    (outer.flatMap inner).foldlM turn s =
      outer.foldlM (fun s a => (inner a).foldlM turn s) s := by
  induction outer generalizing s with
  | nil => rfl
  | cons a rest ih =>
      rw [List.flatMap_cons, List.foldlM_append, List.foldlM_cons]
      exact congrArg _ (funext ih)

theorem loop?_eq (area : Rect) (turn : σ → Point → Option σ) (s : σ) :
    area.loop? turn s = area.points.foldlM turn s := by
  rw [loop?, points]
  split
  · rfl
  · rw [foldlM_flatMap_some]
    simp only [List.foldlM_map]

end Rect

namespace Brush

/-- One turn: finds what is to be drawn, reads the pixel that is there by then, and writes what the
two blend into. -/
def turn? (b : Brush) (draws : Surfaces → Point → Option Pixel) (held : Surfaces) (p : Point) :
    Option Surfaces := do
  let pixel ← draws held p
  let canvas ← held.get? b.target
  let blended ← b.frame.operator.blend? pixel (← canvas.read? p)
  let drawn ← canvas.write? p blended
  some (held.set b.target drawn)

def fill? (b : Brush) (held : Surfaces) (color : Color) (r : Rect) : Option Surfaces := do
  let canvas ← held.get? b.target
  let area := (r.shift b.frame.origin).overlap (b.frame.reach canvas.bounds)
  area.loop? (b.turn? fun _ _ => some color.toPixel) held

def composeView? (b : Brush) (view : Surfaces → Option Surface) (held : Surfaces) (place : Point)
    (part : Rect) : Option Surfaces := do
  let start ← place.add? b.frame.origin
  let canvas ← held.get? b.target
  let area := (part.movedTo start).overlap (b.frame.reach canvas.bounds)
  let draws (held : Surfaces) (p : Point) : Option Pixel := do
    let image ← view held
    image.read? (← part.corner.add? (← p.sub? start))
  area.loop? (b.turn? draws) held

def composeLoose? (b : Brush) (held : Surfaces) (image : Surface) (place : Point) (part : Rect) :
    Option Surfaces :=
  b.composeView? (fun _ => some image) held place part

def compose? (b : Brush) (held : Surfaces) (source : SurfaceId) (place : Point) (part : Rect) :
    Option Surfaces :=
  if source = b.target then do
    let copy ← held.get? source
    b.composeLoose? held copy place part
  else b.composeView? (·.get? source) held place part

variable {b : Brush} {held : Surfaces} {canvas : Surface}

section Loops

variable (found : held.get? b.target = some canvas) {draws : Surfaces → Point → Option Pixel}
  {source : Point → Pixel}

include found

theorem turn?_eq {s : Surface} (stored : s.Stored) {p : Point}
    (drawn : draws (held.set b.target s) p = some (source p)) :
    b.turn? draws (held.set b.target s) p = some (held.set b.target
      (s.setPixel p (b.frame.operator.blend (source p) (s.pixelOrClear p)))) := by
  have blended : b.frame.operator.blend? (source p) (s.pixelOrClear p) = _ :=
    if_pos (Pixel.blendFits ..)
  simp [turn?, drawn, found, Surface.read?_eq stored, blended, Surface.write?_eq stored]

/-- The surfaces as the loops find them differ from those of the start in the target only. -/
theorem foldlM_turn? {points : List Point} {s : Surface} (stored : s.Stored)
    (drawn : ∀ s, ∀ p ∈ points, draws (held.set b.target s) p = some (source p)) :
    points.foldlM (b.turn? draws) (held.set b.target s) = some (held.set b.target
      (s.paintAll (fun p => b.frame.operator.blend (source p)) points)) := by
  induction points generalizing s with
  | nil => rfl
  | cons p rest ih =>
      have later : ∀ s, ∀ p ∈ rest, draws (held.set b.target s) p = some (source p) :=
        fun s q member => drawn s q (List.mem_cons_of_mem p member)
      rw [List.foldlM_cons, turn?_eq found stored (drawn s p List.mem_cons_self),
        Option.bind_eq_bind, Option.bind_some, ih ((s.setPixel_alike p _).stored stored) later]
      rfl

theorem loop?_turn? (stored : canvas.Stored) {area : Rect}
    (drawn : ∀ s, ∀ p ∈ area, draws (held.set b.target s) p = some (source p)) :
    area.loop? (b.turn? draws) held = some (held.set b.target
      (canvas.paint area fun p => b.frame.operator.blend (source p))) := by
  have listed : ∀ s, ∀ p ∈ area.points, draws (held.set b.target s) p = some (source p) :=
    fun s p member => drawn s p (Rect.mem_points.mp member)
  calc area.loop? (b.turn? draws) held
      = area.points.foldlM (b.turn? draws) held := area.loop?_eq _ held
    _ = area.points.foldlM (b.turn? draws) (held.set b.target canvas) := by
        rw [Registry.set_held found]
    _ = some (held.set b.target (canvas.paintAll _ area.points)) := foldlM_turn? found stored listed

theorem fill?_eq (stored : canvas.Stored) (color : Color) (r : Rect) :
    b.fill? held color r = some (b.fill held color r) := by
  rw [fill?, found, Option.bind_eq_bind, Option.bind_some, fill, Registry.modify_held found]
  exact loop?_turn? found stored fun _ _ _ => rfl

end Loops

section Calls

variable {image : Surface} {place : Point} (fits : place.SumFits b.frame.origin) {part : Rect}
  (ends : part.EndsOnPlane)

include fits ends

theorem read?_source (stored : image.Stored) {p : Point} (inside : p ∈ canvas.bounds)
    (holds : (part.movedTo place).HoldsFrom b.frame.origin p) :
    (do image.read? (← part.corner.add? (← p.sub? (place + b.frame.origin)))) =
      some (b.frame.composeSource image place part p) := by
  rcases Frame.toInt_steps inside fits holds with ⟨right, below⟩
  rcases Frame.toInt_sourcePoint inside fits ends holds with ⟨across, down⟩
  have away : p.DifferenceFits (place + b.frame.origin) := by
    rw [Point.DifferenceFits, right, below, fits.1, fits.2]
    exact ⟨rfl, rfl⟩
  have back : part.corner.SumFits (p - (place + b.frame.origin)) := by
    rw [Point.SumFits, across, down, right, below]
    exact ⟨rfl, rfl⟩
  rw [Point.sub?, if_pos away, Option.bind_eq_bind, Option.bind_some, Point.add?, if_pos back,
    Option.bind_some, Surface.read?_eq stored, Frame.composeSource]

variable (found : held.get? b.target = some canvas)

include found

theorem composeView?_eq (stored : canvas.Stored) (whole : image.Stored)
    {view : Surfaces → Option Surface}
    (shows : ∀ s, view (held.set b.target s) = some image) :
    b.composeView? view held place part =
      some (held.modify b.target (b.frame.compose · image place part)) := by
  have painted : b.frame.compose canvas image place part =
      canvas.paint (b.frame.composeArea canvas.bounds place part) fun p =>
        b.frame.operator.blend (b.frame.composeSource image place part p) := rfl
  rw [composeView?, Point.add?, if_pos fits, found, Registry.modify_held found, painted]
  simp only [Option.bind_eq_bind, Option.bind_some]
  apply loop?_turn? found stored
  intro s p drawn
  have inside : p ∈ canvas.bounds := (Frame.mem_reach.mp (Rect.mem_overlap.mp drawn).2).2
  have holds := ((Frame.mem_composeArea inside fits).mp drawn).2
  rw [shows, Option.bind_some]
  exact read?_source fits ends whole inside holds

theorem composeLoose?_eq (stored : canvas.Stored) (whole : image.Stored) :
    b.composeLoose? held image place part =
      some (held.modify b.target (b.frame.compose · image place part)) :=
  composeView?_eq fits ends found stored whole fun _ => rfl

theorem compose?_eq (stored : canvas.Stored) (whole : image.Stored) {source : SurfaceId}
    (reads : held.get? source = some image) :
    b.compose? held source place part = some (b.compose held source place part) := by
  rw [compose?, compose, reads]
  by_cases own : source = b.target
  · rw [if_pos own, Option.bind_eq_bind, Option.bind_some]
    exact composeLoose?_eq fits ends found stored whole
  · rw [if_neg own]
    apply composeView?_eq fits ends found stored whole
    intro s
    simp [own, reads]

end Calls

def fillInk (b : Brush) (held : Surfaces) (canvas : Surface) (color : Color) (r : Rect) (q : Point)
    (old : Pixel) : Pixel :=
  if q ∈ b.reach held ∧ r.HoldsFrom b.frame.origin q then
    canvas.format.readBack (b.frame.operator.blend color.toPixel old)
  else old

def composeInk (b : Brush) (held : Surfaces) (canvas image : Surface) (place : Point) (part : Rect)
    (q : Point) (old : Pixel) : Pixel :=
  if q ∈ b.reach held ∧ (part.movedTo place).HoldsFrom b.frame.origin q then
    canvas.format.readBack (b.frame.operator.blend
      (image.colorAt (part.x.toInt + b.frame.origin.across place q)
        (part.y.toInt + b.frame.origin.down place q)) old)
  else old

section Inks

variable (found : held.get? b.target = some canvas)

include found

theorem mem_reach_iff {q : Point} (inside : q ∈ canvas.bounds) :
    q ∈ b.reach held ↔ b.frame.Shows q := by
  rw [reach, found]
  exact Frame.mem_reach.trans (and_iff_left inside)

theorem fill_exact (stored : canvas.Stored) (color : Color) (r : Rect) :
    Inked b.target canvas (b.fillInk held canvas color r) held (b.fill held color r) := by
  apply (fill_inked found stored color r).congr
  intro q inside old
  have reached : q ∈ b.frame.fillArea canvas.bounds r ↔
      q ∈ b.reach held ∧ r.HoldsFrom b.frame.origin q := by
    rw [Frame.mem_fillArea inside, mem_reach_iff found inside]
  simp only [fillInk, reached]

theorem composeLoose_exact (stored : canvas.Stored) (image : Surface) {place : Point}
    (fits : place.SumFits b.frame.origin) {part : Rect} (ends : part.EndsOnPlane) :
    Inked b.target canvas (b.composeInk held canvas image place part) held
      (held.modify b.target (b.frame.compose · image place part)) := by
  apply (composeLoose_inked found stored image place part).congr
  intro q inside old
  have reached : q ∈ b.frame.composeArea canvas.bounds place part ↔
      q ∈ b.reach held ∧ (part.movedTo place).HoldsFrom b.frame.origin q := by
    rw [Frame.mem_composeArea inside fits, mem_reach_iff found inside]
  simp only [composeInk, reached]
  by_cases drawn : q ∈ b.reach held ∧ (part.movedTo place).HoldsFrom b.frame.origin q
  · rw [if_pos drawn, if_pos drawn, Frame.composeSource_eq inside fits ends image drawn.2]
  · rw [if_neg drawn, if_neg drawn]

end Inks

/-- Fills and compositions, done pixel by pixel with every step checked, come to an end with no check
failing, and change just the pixels that the clip and the exact places say. A pixel of a source is
what it was before the call, even where the brush draws a surface onto itself. -/
theorem loops_draw_exactly (b : Brush) (held : Surfaces) (canvas : Surface)
    (found : held.get? b.target = some canvas) (stored : held.Stored) :
    (∀ color r, b.fill? held color r = some (b.fill held color r) ∧
        Inked b.target canvas (b.fillInk held canvas color r) held (b.fill held color r)) ∧
      ∀ (place : Point) (part : Rect), place.SumFits b.frame.origin → part.EndsOnPlane →
        (∀ image : Surface, image.Stored → ∃ after,
          b.composeLoose? held image place part = some after ∧
            Inked b.target canvas (b.composeInk held canvas image place part) held after) ∧
        ∀ source image, held.get? source = some image →
          b.compose? held source place part = some (b.compose held source place part) ∧
            Inked b.target canvas (b.composeInk held canvas image place part) held
              (b.compose held source place part) := by
  have whole : canvas.Stored := stored b.target canvas found
  constructor
  · intro color r
    exact ⟨fill?_eq found whole color r, fill_exact found whole color r⟩
  · intro place part fits ends
    constructor
    · intro image complete
      exact ⟨_, composeLoose?_eq fits ends found whole complete,
        composeLoose_exact found whole image fits ends⟩
    · intro source image reads
      refine ⟨compose?_eq fits ends found whole (stored source image reads) reads, ?_⟩
      rw [compose, reads]
      exact composeLoose_exact found whole image fits ends

def stripe : Surface := ⟨.argb32, 3, 1, #[0xFFFF0000, 0xFF00FF00, 0xFF0000FF], 3⟩

theorem stripe_reached : Surfaces.Reached (Registry.add {} stripe) := by
  have made : Surfaces.create {} .argb32 ⟨3, 1⟩ = .ok (_, _) := rfl
  have red := (Surfaces.Reached.create .start made).setPixel ⟨0⟩ ⟨0, 0⟩ 0xFFFF0000
  have green := red.setPixel ⟨0⟩ ⟨1, 0⟩ 0xFF00FF00
  exact green.setPixel ⟨0⟩ ⟨2, 0⟩ 0xFF0000FF

def stripeBrush : Brush := { target := ⟨0⟩, frame := { operator := .sourceOnly } }

/-- A stripe is moved along itself by one pixel. What comes from beyond its end clears the first. -/
theorem loops_draw_exactly_onto_itself :
    ∃ after drawn, stripeBrush.compose? (Registry.add {} stripe) ⟨0⟩ .origin ⟨-1, 0, 3, 1⟩ =
        some after ∧ after.get? ⟨0⟩ = some drawn ∧
      drawn.pixel? ⟨0, 0⟩ = some 0 ∧ drawn.pixel? ⟨1, 0⟩ = some 0xFFFF0000 ∧
      drawn.pixel? ⟨2, 0⟩ = some 0xFF00FF00 := by
  rcases (loops_draw_exactly stripeBrush (Registry.add {} stripe) stripe rfl
    stripe_reached.stored).2 .origin ⟨-1, 0, 3, 1⟩ ⟨rfl, rfl⟩ ⟨by decide, by decide⟩ with ⟨-, shared⟩
  rcases shared ⟨0⟩ stripe rfl with ⟨runs, inked⟩
  rcases inked.target with ⟨old, drawn, here, there, -, -, makes⟩
  cases here
  refine ⟨_, drawn, runs, there, ?_, ?_, ?_⟩
  all_goals
    rw [makes]
    decide

/-- Without the copy, each pixel would be taken from one that has just been drawn. -/
example :
    ((stripeBrush.composeView? (·.get? ⟨0⟩) (Registry.add {} stripe) .origin
      ⟨-1, 0, 3, 1⟩).bind (·.get? ⟨0⟩)).map Surface.words = some #[0, 0, 0] := by
  decide

end Brush

end Compositing
