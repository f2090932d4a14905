import Mathlib.Data.List.Forall2
import Compositing.Proofs.Links
import Compositing.Proofs.Plane

/-! A painter and its brush. Each keeps an origin, a clip and saved frames by rules of its own; as
long as nobody else moves or clips the brush, both always tell the same. -/

namespace Compositing

namespace Painter

namespace Frame

/-- The brush narrows its clip by what the painter's has already become. Where that is nothing, it
stays where it is. -/
theorem overlap_collapse (clip r : Rect) :
    clip.overlap (collapse (clip.overlap r)) = collapse (clip.overlap r) := by
  rw [collapse]
  split
  · apply Rect.ext_toInt
    · simp only [Rect.toInt_overlap_x]
      omega
    · simp only [Rect.toInt_overlap_y]
      omega
    · simp only [Rect.toInt_overlap_width, Rect.toInt_overlap_x, Rect.right, saturatingAdd_zero,
        toInt_zero]
      omega
    · simp only [Rect.toInt_overlap_height, Rect.toInt_overlap_y, Rect.bottom, saturatingAdd_zero,
        toInt_zero]
      omega
  · exact clip.overlap_overlap r

structure Mirrors (f : Frame) (g : Brush.Frame) : Prop where
  origin : g.origin = f.origin
  clip : g.clip = f.clip
  clipped : f.clip.isSome

theorem mirrors_clipTo {f : Frame} {g : Brush.Frame} (origin : g.origin = f.origin)
    (clip : g.clip = f.clip) (r : Rect) :
    { f with clip := some (f.narrowed r) }.Mirrors (g.clipTo (f.narrowed r)) where
  origin := origin
  clip := by
    rw [Brush.Frame.clipTo, clip, narrowed]
    cases f.clip with
    | none => rfl
    | some before => exact congrArg some (overlap_collapse before r)
  clipped := rfl

end Frame

/-- The painter is attached with a brush that has its origin and clip, and as many saved frames,
with the same origins and clips. -/
structure Mirrored (p : Painter) (a : Attachment) : Prop where
  attached : p.attached = some a
  frame : p.frame.Mirrors a.brush.frame
  saved : List.Forall₂ Frame.Mirrors p.saved a.brush.saved

section Mirrored

variable {p after : Painter} {a : Attachment}

theorem attached_onBrush (attached : p.attached = some a) (change : Brush → Brush) :
    (p.onBrush change).attached = some { a with brush := change a.brush } := by
  rw [onBrush, attached, Option.map_some]

theorem attach_mirrored (id : BufferId) (surface : SurfaceId) (size : Size) :
    ∃ a, (attach id surface size).Mirrored a :=
  ⟨_, rfl, Frame.mirrors_clipTo rfl rfl _, .nil⟩

namespace Mirrored

theorem save (mirrored : p.Mirrored a) : p.save.Mirrored { a with brush := a.brush.save } where
  attached := attached_onBrush (p := { p with saved := p.frame :: p.saved }) mirrored.attached _
  frame := mirrored.frame
  saved := .cons mirrored.frame mirrored.saved

/-- As the stacks are equally high, the brush has a frame to go back to whenever the painter has. -/
theorem restore (mirrored : p.Mirrored a) (restored : p.restore = .ok after) :
    ∃ b, after.Mirrored b := by
  have level := mirrored.saved
  rw [Painter.restore] at restored
  cases below : p.saved with
  | nil =>
      rw [below] at restored
      cases restored
  | cons frame rest =>
      rw [below] at restored level
      cases restored
      rcases List.forall₂_cons_left_iff.mp level with ⟨other, others, mirrors, kept, brush⟩
      have restored : a.brush.restore? = some { a.brush with frame := other, saved := others } := by
        rw [Brush.restore?, brush]
      refine ⟨_, attached_onBrush (p := { p with frame, saved := rest }) mirrored.attached _, ?_, ?_⟩
      · rw [restored]
        exact mirrors
      · rw [restored]
        exact kept

theorem placeOrigin (mirrored : p.Mirrored a) (origin : Point) :
    (p.placeOrigin origin).Mirrored { a with brush := a.brush.placeOrigin origin } where
  attached := attached_onBrush (p := { p with frame := { p.frame with origin } })
    mirrored.attached _
  frame := ⟨rfl, mirrored.frame.clip, mirrored.frame.clipped⟩
  saved := mirrored.saved

theorem clipTo (mirrored : p.Mirrored a) (r : Rect) :
    (p.clipTo r).Mirrored { a with brush := a.brush.clipTo (p.frame.narrowed r) } where
  attached := attached_onBrush
    (p := { p with frame := { p.frame with clip := some (p.frame.narrowed r) } }) mirrored.attached _
  frame := Frame.mirrors_clipTo mirrored.frame.origin mirrored.frame.clip r
  saved := mirrored.saved

theorem setOperator (mirrored : p.Mirrored a) (operator : Operator) :
    (p.setOperator operator).Mirrored { a with brush := a.brush.setOperator operator } where
  attached := attached_onBrush mirrored.attached _
  frame := ⟨mirrored.frame.origin, mirrored.frame.clip, mirrored.frame.clipped⟩
  saved := mirrored.saved

theorem setOwner (mirrored : p.Mirrored a) (owner : Option UInt64) :
    (p.setOwner owner).Mirrored a where
  attached := mirrored.attached
  frame := ⟨mirrored.frame.origin, mirrored.frame.clip, mirrored.frame.clipped⟩
  saved := mirrored.saved

end Mirrored

/-- Of the brush itself no more is asked than to take another operator. -/
def Request.LeavesBrush : Request → Prop
  | .onBrush change => ∃ operator, change = (·.setOperator operator)
  | _ => True

theorem Mirrored.answer (mirrored : p.Mirrored a) {request : Request}
    (leaves : request.LeavesBrush) (answered : p.answer request = .ok after) :
    ∃ b, after.Mirrored b := by
  cases request with
  | save =>
      cases answered
      exact ⟨_, mirrored.save⟩
  | restore => exact mirrored.restore answered
  | placeOrigin origin =>
      cases answered
      exact ⟨_, mirrored.placeOrigin origin⟩
  | moveOrigin step =>
      cases answered
      exact ⟨_, mirrored.placeOrigin (p.frame.origin + step)⟩
  | clipTo r =>
      cases answered
      exact ⟨_, mirrored.clipTo r⟩
  | clipLocal r =>
      cases answered
      exact ⟨_, mirrored.clipTo (r.shift p.frame.origin)⟩
  | setOwner owner =>
      cases answered
      exact ⟨_, mirrored.setOwner owner⟩
  | onBrush change =>
      rcases leaves with ⟨operator, rfl⟩
      cases answered
      exact ⟨_, mirrored.setOperator operator⟩

end Mirrored

end Painter

namespace Studio

def Operation.Asks (allowed : Painter.Request → Prop) : Operation → Prop
  | .ask _ request => allowed request
  | _ => True

inductive Recast (s : Studio) (operation : Operation) (after : Studio) : Prop
  | kept (painters : after.painters = s.painters)
  | opened (id : BufferId) (b : Buffer) (found : s.buffers.get? id = some b)
      (painters : after.painters = s.painters.add (.attach id b.surface b.size))
  | closed (ids : List PainterId) (painters : after.painters = ids.foldl Registry.remove s.painters)
  | answered (id : PainterId) (request : Painter.Request) (p q : Painter)
      (asks : operation = .ask id request) (found : s.painters.get? id = some p)
      (answered : p.answer request = .ok q) (painters : after.painters = s.painters.set id q)

theorem changed_painters (s : Studio) (surfaces : Surfaces) (id : BufferId)
    (change : Buffer → Surfaces → Except Fault (Buffer × Surfaces)) :
    (changed (s, surfaces) id change).1.painters = s.painters := by
  rcases changed_cases s surfaces id change with same | ⟨b, next, later, _, _, same⟩
  · rw [same]
  · rw [same]

theorem perform_recasts (s : Studio) (surfaces : Surfaces) (operation : Operation) :
    s.Recast operation (perform (s, surfaces) operation).1 := by
  cases operation with
  | create format size =>
      rw [perform, create]
      cases surfaces.create format size <;> exact .kept rfl
  | openPainter id =>
      rw [perform, openPainter]
      cases found : s.buffers.get? id with
      | none => exact .kept rfl
      | some b => exact .opened id b found rfl
  | closePainter id =>
      rw [perform, closePainter]
      cases s.painters.get? id with
      | none => exact .kept rfl
      | some p => exact .closed [id] rfl
  | closePainters id =>
      rw [perform]
      cases found : s.buffers.get? id with
      | none =>
          rw [closePainters, found]
          exact .kept rfl
      | some b =>
          rw [s.closePainters_eq found]
          exact .closed b.painters rfl
  | discard id =>
      rw [perform]
      cases found : s.buffers.get? id with
      | none =>
          rw [discard, closePainters, found]
          exact .kept rfl
      | some b =>
          rw [s.discard_eq found]
          exact .closed b.painters rfl
  | setSize id size => exact .kept (s.changed_painters surfaces id _)
  | beginResize id largest => exact .kept (s.changed_painters surfaces id _)
  | endResize id => exact .kept (s.changed_painters surfaces id _)
  | ask id request =>
      rw [perform]
      cases found : s.painters.get? id with
      | none => exact .kept rfl
      | some p =>
          dsimp only
          cases answered : p.answer request with
          | error fault => exact .kept (Registry.set_held found)
          | ok q => exact .answered id request p q rfl found answered rfl
  | fill id color r => exact .kept rfl
  | draw id source place => exact .kept rfl
  | replace surfaces => exact .kept rfl

section Painters

variable {motive : Painter → Prop} {allowed : Painter.Request → Prop} {s : Studio}
  (attach : ∀ id surface size, motive (.attach id surface size))
  (answer : ∀ p request after, motive p → allowed request → p.answer request = .ok after →
    motive after)

include attach answer

/-- What holds of a new painter and is kept by all that it is asked holds of every open painter,
whatever else goes on in the studio. -/
theorem perform_painters (each : s.painters.Each motive) (surfaces : Surfaces)
    {operation : Operation} (asks : operation.Asks allowed) :
    (perform (s, surfaces) operation).1.painters.Each motive := by
  cases s.perform_recasts surfaces operation with
  | kept painters =>
      rw [painters]
      exact each
  | opened id b found painters =>
      rw [painters]
      exact each.add (attach id b.surface b.size)
  | closed ids painters =>
      rw [painters]
      exact each.removeAll ids
  | answered id request p q own found answered painters =>
      rw [own] at asks
      rw [painters]
      exact each.set (answer p request q (each id p found) asks answered) id

theorem performAll_painters (each : s.painters.Each motive) (surfaces : Surfaces)
    {operations : List Operation} (asks : ∀ operation ∈ operations, operation.Asks allowed) :
    (performAll (s, surfaces) operations).1.painters.Each motive := by
  induction operations generalizing s surfaces with
  | nil => exact each
  | cons operation rest ih =>
      rcases List.forall_mem_cons.mp asks with ⟨first, later⟩
      exact ih (perform_painters attach answer each surfaces first) _ later

end Painters

/-- Whatever has been asked of a studio, so long as brushes were asked for no more than another
operator: an open painter's brush has the painter's origin and its clip, also where nothing is left
of it, and as many saved frames; and so have the saved frames at each height. -/
theorem mirrored_always (surfaces : Surfaces) (operations : List Operation)
    (leaves : ∀ operation ∈ operations, operation.Asks Painter.Request.LeavesBrush) :
    let s := (performAll ({}, surfaces) operations).1
    ∀ id p, s.painters.get? id = some p → ∃ a, p.attached = some a ∧
      a.brush.frame.origin = p.frame.origin ∧ a.brush.frame.clip = some p.clip ∧
      a.brush.depth = p.saved.length ∧
      ∀ (i : Nat) (f : Painter.Frame), p.saved[i]? = some f →
        ∃ (g : Brush.Frame) (r : Rect), a.brush.saved[i]? = some g ∧
          g.origin = f.origin ∧ f.clip = some r ∧ g.clip = some r := by
  intro s id p found
  have each : s.painters.Each fun p => ∃ a, p.Mirrored a := by
    apply performAll_painters (motive := fun p => ∃ a, p.Mirrored a) Painter.attach_mirrored ?_ ?_
      surfaces leaves
    · intro p request after holding leaves answered
      rcases holding with ⟨a, mirrored⟩
      exact mirrored.answer leaves answered
    · intro id p found
      cases found
  rcases each id p found with ⟨a, mirrored⟩
  rcases Option.isSome_iff_exists.mp mirrored.frame.clipped with ⟨clip, active⟩
  refine ⟨a, mirrored.attached, mirrored.frame.origin, ?_, mirrored.saved.length_eq.symm, ?_⟩
  · rw [mirrored.frame.clip, Painter.clip, active, Option.getD_some]
  · intro i f there
    rcases List.getElem?_eq_some_iff.mp there with ⟨low, rfl⟩
    have high : i < a.brush.saved.length := mirrored.saved.length_eq ▸ low
    have mirrors := mirrored.saved.get low high
    rcases Option.isSome_iff_exists.mp mirrors.clipped with ⟨r, clipped⟩
    exact ⟨_, r, List.getElem?_eq_getElem high, mirrors.origin, clipped, mirrors.clip.trans clipped⟩

def astray : List Operation :=
  [.create .argb32 ⟨4, 4⟩, .openPainter ⟨0⟩, .ask ⟨0⟩ .save, .ask ⟨0⟩ (.placeOrigin ⟨9, 9⟩),
    .ask ⟨0⟩ (.clipLocal ⟨0, 0, 2, 2⟩), .ask ⟨0⟩ (.onBrush (·.setOperator .sourceOnly))]

theorem mirrored_astray :
    ∃ p a, (performAll ({}, {}) astray).1.painters.get? ⟨0⟩ = some p ∧ p.attached = some a ∧
      p.clip = ⟨9, 9, 0, 0⟩ ∧ a.brush.frame.clip = some ⟨9, 9, 0, 0⟩ ∧ a.brush.depth = 1 := by
  have leaves : ∀ operation ∈ astray, operation.Asks Painter.Request.LeavesBrush := by
    simp only [astray, List.forall_mem_cons, Operation.Asks, Painter.Request.LeavesBrush,
      true_and, List.not_mem_nil, false_imp_iff, implies_true, and_true]
    exact ⟨.sourceOnly, rfl⟩
  rcases mirrored_always {} astray leaves ⟨0⟩ _ rfl with ⟨a, attached, _, clip, depth, _⟩
  exact ⟨_, a, rfl, attached, by decide, clip, depth⟩

end Studio

end Compositing
