import Mathlib.Logic.Relation
import Compositing.Proofs.Clipping
import Compositing.Proofs.Mirror

/-! The clips of open painters and the sizes of their buffers. A painter is clipped to its buffer
when it is opened, and no buffer changes its size under a painter; so no clip ever tells of a size
that the buffer no longer has. -/

namespace Compositing

namespace Painter

/-- There is a clip in the frame, and it has neither width nor height or lies within a buffer of the
size. -/
def Frame.Fits (f : Frame) (size : Size) : Prop :=
  ∃ clip, f.clip = some clip ∧
    (clip.width = 0 ∧ clip.height = 0 ∨ (Rect.ofSize size).Encloses clip)

def Fits (p : Painter) (size : Size) : Prop := ∀ f ∈ p.frame :: p.saved, f.Fits size

theorem fits_iff_above {p : Painter} {size : Size} :
    p.Fits size ↔ p.Above (·.Fits size) [] := by
  simp [Fits, Above]

section Fits

variable {size : Size}

theorem Frame.fits_collapse (f : Frame) {r : Rect}
    (within : r.isEmpty = false → (Rect.ofSize size).Encloses r) :
    { f with clip := some (collapse r) }.Fits size := by
  refine ⟨_, rfl, ?_⟩
  cases shows : r.isEmpty with
  | true => exact .inl (flat_collapse r (by rw [collapse_isEmpty, shows]))
  | false =>
      rw [collapse, if_neg (by rw [shows]; decide)]
      exact .inr (within shows)

theorem Frame.Fits.narrowed {f : Frame} (fits : f.Fits size) (r : Rect) :
    { f with clip := some (f.narrowed r) }.Fits size := by
  rcases fits with ⟨clip, active, fits⟩
  rw [Frame.narrowed, active]
  apply f.fits_collapse
  intro shows
  rcases fits with ⟨width, _⟩ | inside
  · have empty : clip.isEmpty = true := by
      rw [Rect.isEmpty_toInt, width]
      exact .inl (by decide)
    rw [Rect.overlap_isEmpty_of_left empty] at shows
    cases shows
  · exact inside.trans (Rect.encloses_overlap_left shows)

theorem attach_fits (id : BufferId) (surface : SurfaceId) (size : Size) :
    (attach id surface size).Fits size := by
  intro f member
  rcases List.mem_singleton.mp member with rfl
  exact Frame.fits_collapse {} fun _ => .refl _

theorem Fits.answer {p q : Painter} (fits : p.Fits size) {request : Request}
    (answered : p.answer request = .ok q) : q.Fits size := by
  rw [fits_iff_above] at fits ⊢
  exact fits.answer (fun _ _ _ fits => fits) (fun _ r fits => fits.narrowed r) answered

end Fits

end Painter

namespace Buffer

/-- A buffer still has the size that it had, unless no painter is open on it. -/
def KeepsSize (b c : Buffer) : Prop := c.size = b.size ∨ b.painters = [] ∧ c.painters = []

theorem KeepsSize.same {b c : Buffer} (keeps : b.KeepsSize c) {painter : PainterId}
    (member : painter ∈ c.painters) : c.size = b.size := by
  rcases keeps with same | ⟨_, unused⟩
  · exact same
  · rw [unused] at member
    cases member

theorem setSize_keepsSize {b c : Buffer} {surfaces later : Surfaces} {size : Size}
    (done : b.setSize surfaces size = .ok (c, later)) : b.KeepsSize c := by
  rcases of_setSize done with ⟨unused, _, own, rfl⟩
  exact .inr ⟨unused, unused⟩

theorem beginResize_keepsSize {b c : Buffer} {surfaces later : Surfaces} {largest : Size}
    (done : b.beginResize surfaces largest = .ok (c, later)) : b.KeepsSize c := by
  rw [(of_beginResize done).2]
  exact .inl rfl

theorem endResize_keepsSize {b c : Buffer} {surfaces later : Surfaces}
    (done : b.endResize surfaces = .ok (c, later)) : b.KeepsSize c := by
  rw [(of_endResize done).1]
  exact .inl rfl

end Buffer

namespace Studio

def KeepsSizes (s after : Studio) : Prop :=
  ∀ id b c, s.buffers.get? id = some b → after.buffers.get? id = some c → b.KeepsSize c

section Sizes

variable {s : Studio}

theorem keepsSizes_of_eq {after : Studio} (same : after.buffers = s.buffers) :
    s.KeepsSizes after := by
  intro id b c before there
  rw [same, before] at there
  cases there
  exact .inl rfl

theorem keepsSizes_modify {id : BufferId} {change : Buffer → Buffer}
    (keeps : ∀ b, s.buffers.get? id = some b → b.KeepsSize (change b))
    (painters : Registry .painter Painter) :
    s.KeepsSizes ⟨s.buffers.modify id change, painters⟩ := by
  intro other b c before there
  by_cases own : other = id
  · subst own
    rw [Registry.get?_modify_self, before] at there
    cases there
    exact keeps b before
  · rw [Registry.get?_modify_other _ _ own, before] at there
    cases there
    exact .inl rfl

theorem keepsSizes_set {id : BufferId} {b next : Buffer} (found : s.buffers.get? id = some b)
    (keeps : b.KeepsSize next) (painters : Registry .painter Painter) :
    s.KeepsSizes ⟨s.buffers.set id next, painters⟩ := by
  refine keepsSizes_modify ?_ painters
  intro other there
  rw [found] at there
  cases there
  exact keeps

theorem keepsSizes_add (b : Buffer) : s.KeepsSizes { s with buffers := s.buffers.add b } := by
  intro id old c before there
  have held : id ≠ s.buffers.nextKey := by
    rintro rfl
    simp at before
  rw [s.buffers.get?_add_other b held, before] at there
  cases there
  exact .inl rfl

theorem keepsSizes_remove (id : BufferId) (painters : Registry .painter Painter) :
    s.KeepsSizes ⟨s.buffers.remove id, painters⟩ := by
  intro other b c before there
  rw [Registry.get?_remove] at there
  split at there
  · cases there
  · rw [before] at there
    cases there
    exact .inl rfl

theorem keepsSizes_changed (surfaces : Surfaces) (id : BufferId)
    {change : Buffer → Surfaces → Except Fault (Buffer × Surfaces)}
    (keeps : ∀ b c later, change b surfaces = .ok (c, later) → b.KeepsSize c) :
    s.KeepsSizes (changed (s, surfaces) id change).1 := by
  rcases changed_cases s surfaces id change with same | ⟨b, next, later, found, done, same⟩
  · rw [same]
    exact keepsSizes_of_eq rfl
  · rw [same]
    exact keepsSizes_set found (keeps b next later done) s.painters

theorem perform_keepsSizes (s : Studio) (surfaces : Surfaces) (operation : Operation) :
    s.KeepsSizes (perform (s, surfaces) operation).1 := by
  cases operation with
  | create format size =>
      rw [perform, create]
      cases surfaces.create format size with
      | error fault => exact keepsSizes_of_eq rfl
      | ok made => exact keepsSizes_add _
  | openPainter id =>
      rw [perform, openPainter]
      cases found : s.buffers.get? id with
      | none => exact keepsSizes_of_eq rfl
      | some b =>
          refine keepsSizes_set found ?_ _
          exact .inl rfl
  | closePainter id =>
      rw [perform, closePainter]
      cases s.painters.get? id with
      | none => exact keepsSizes_of_eq rfl
      | some p =>
          dsimp only
          cases p.attached with
          | none => exact keepsSizes_of_eq rfl
          | some a =>
              refine keepsSizes_modify ?_ (s.painters.remove id)
              intro b _
              exact .inl rfl
  | closePainters id =>
      rw [perform]
      cases found : s.buffers.get? id with
      | none =>
          rw [closePainters, found]
          exact keepsSizes_of_eq rfl
      | some b =>
          rw [s.closePainters_eq found]
          refine keepsSizes_set found ?_ _
          exact .inl rfl
  | discard id =>
      rw [perform]
      cases found : s.buffers.get? id with
      | none =>
          rw [discard, closePainters, found]
          exact keepsSizes_of_eq rfl
      | some b =>
          rw [s.discard_eq found]
          exact keepsSizes_remove id _
  | setSize id size => exact keepsSizes_changed surfaces id fun _ _ _ => Buffer.setSize_keepsSize
  | beginResize id largest =>
      exact keepsSizes_changed surfaces id fun _ _ _ => Buffer.beginResize_keepsSize
  | endResize id => exact keepsSizes_changed surfaces id fun _ _ _ => Buffer.endResize_keepsSize
  | ask id request =>
      rw [perform]
      cases s.painters.get? id <;> exact keepsSizes_of_eq rfl
  | fill id color r => exact keepsSizes_of_eq rfl
  | draw id source place => exact keepsSizes_of_eq rfl
  | replace surfaces => exact keepsSizes_of_eq rfl

end Sizes

/-- Where an open painter comes from: it was open already and still draws on the same buffer, or it
has been opened on a buffer that was there. -/
inductive Provenance (s : Studio) (painter : PainterId) (q : Painter) : Prop
  | kept (p : Painter) (before : s.painters.get? painter = some p) (same : q.buffer? = p.buffer?)
      (fits : ∀ size, p.Fits size → q.Fits size)
  | opened (id : BufferId) (b : Buffer) (fresh : painter = s.painters.nextKey)
      (held : s.buffers.get? id = some b) (attached : q = .attach id b.surface b.size)

section Recast

variable {s after : Studio} {operation : Operation} (recast : s.Recast operation after)

include recast

theorem Recast.nextKey_le : s.painters.nextKey.index ≤ after.painters.nextKey.index := by
  cases recast with
  | kept painters => rw [painters]
  | opened id b found painters => simp [painters]
  | closed ids painters => simp [painters]
  | answered id request p q asks found answered painters => simp [painters]

theorem Recast.provenance {painter : PainterId} {q : Painter}
    (there : after.painters.get? painter = some q) : s.Provenance painter q := by
  cases recast with
  | kept painters =>
      rw [painters] at there
      exact .kept q there rfl fun _ fits => fits
  | opened id b found painters =>
      rw [painters] at there
      by_cases fresh : painter = s.painters.nextKey
      · rw [fresh, Registry.get?_add_next] at there
        cases there
        exact .opened id b fresh found rfl
      · rw [s.painters.get?_add_other _ fresh] at there
        exact .kept q there rfl fun _ fits => fits
  | closed ids painters =>
      rw [painters, Registry.get?_removeAll] at there
      split at there
      · cases there
      · exact .kept q there rfl fun _ fits => fits
  | answered id request p after asks found answered painters =>
      rw [painters] at there
      by_cases own : painter = id
      · rw [own, Registry.get?_set_self found] at there
        cases there
        exact .kept p (own ▸ found) (Painter.buffer?_answer answered) fun _ fits =>
          fits.answer answered
      · rw [s.painters.get?_set_other own] at there
        exact .kept q there rfl fun _ fits => fits

end Recast

/-- One step of a program that has a studio: an operation, or a buffer that was made elsewhere and
is taken in. -/
inductive Follows (scene : Scene) : Scene → Prop
  | perform (operation : Operation) : Follows scene (perform scene operation)
  | adopt (b : Buffer) (unused : b.painters = []) :
      Follows scene ({ scene.1 with buffers := scene.1.buffers.add b }, scene.2)

namespace Follows

variable {scene after : Scene} (follows : Follows scene after)

include follows

theorem linked (linked : scene.1.Linked) : after.1.Linked := by
  cases follows with
  | perform operation => exact linked.move (scene.1.perform_moves scene.2 operation)
  | adopt b unused => exact linked.move (scene.1.adopt_moves unused)

theorem keepsSizes : scene.1.KeepsSizes after.1 := by
  cases follows with
  | perform operation => exact scene.1.perform_keepsSizes scene.2 operation
  | adopt b unused => exact keepsSizes_add b

theorem nextKey_le : scene.1.painters.nextKey.index ≤ after.1.painters.nextKey.index := by
  cases follows with
  | perform operation => exact (scene.1.perform_recasts scene.2 operation).nextKey_le
  | adopt b unused => exact le_rfl

theorem provenance {painter : PainterId} {q : Painter}
    (there : after.1.painters.get? painter = some q) : scene.1.Provenance painter q := by
  cases follows with
  | perform operation => exact (scene.1.perform_recasts scene.2 operation).provenance there
  | adopt b unused => exact .kept q there rfl fun _ fits => fits

end Follows

def Fitted (s : Studio) : Prop :=
  ∀ painter p id b, s.painters.get? painter = some p → p.buffer? = some id →
    s.buffers.get? id = some b → p.Fits b.size

section Sizes

variable {s after : Studio} (linked : s.Linked) (linked_after : after.Linked)
  (keeps : s.KeepsSizes after)

include linked linked_after keeps

theorem size_of_kept {painter : PainterId} {p q : Painter}
    (before : s.painters.get? painter = some p) (there : after.painters.get? painter = some q)
    (same : q.buffer? = p.buffer?) :
    ∃ id b c, p.buffer? = some id ∧ s.buffers.get? id = some b ∧
      after.buffers.get? id = some c ∧ c.size = b.size := by
  rcases linked.listed_of_open before with ⟨id, b, names, held, _⟩
  rcases linked_after.listed_of_open there with ⟨other, c, names_after, found, member⟩
  rw [same, names] at names_after
  cases names_after
  exact ⟨id, b, c, names, held, found, (keeps id b c held found).same member⟩

theorem Fitted.step (fitted : s.Fitted)
    (came : ∀ painter q, after.painters.get? painter = some q → s.Provenance painter q) :
    after.Fitted := by
  intro painter q id c there names found
  cases came painter q there with
  | kept p before same fits =>
      rcases size_of_kept linked linked_after keeps before there same with
        ⟨own, b, again, owned, held, found_again, size⟩
      rw [same, owned] at names
      cases names
      rw [found] at found_again
      cases found_again
      rw [size]
      exact fits b.size (fitted painter p id b before owned held)
  | opened own b fresh held attached =>
      rcases linked_after.listed_of_open there with ⟨other, again, names_again, found_again, member⟩
      rw [names] at names_again
      cases names_again
      rw [found] at found_again
      cases found_again
      rw [attached, Painter.buffer?_attach] at names
      cases names
      rw [attached, (keeps id b c held found).same member]
      exact Painter.attach_fits id b.surface b.size

end Sizes

abbrev Leads : Scene → Scene → Prop := Relation.ReflTransGen Follows

theorem Leads.performAll (scene : Scene) (operations : List Operation) :
    Leads scene (performAll scene operations) := by
  induction operations generalizing scene with
  | nil => exact .refl
  | cons operation rest ih => exact .head (.perform operation) (ih (perform scene operation))

section Leads

variable {first later : Scene} (leads : Leads first later)

include leads

theorem Leads.linked (linked : first.1.Linked) : later.1.Linked := by
  induction leads with
  | refl => exact linked
  | tail _ follows ih => exact follows.linked ih

theorem Leads.fitted (linked : first.1.Linked) (fitted : first.1.Fitted) : later.1.Fitted := by
  induction leads with
  | refl => exact fitted
  | tail leads follows ih =>
      have before := Leads.linked leads linked
      exact ih.step before (follows.linked before) follows.keepsSizes
        fun _ _ there => follows.provenance there

theorem Leads.nextKey_le : first.1.painters.nextKey.index ≤ later.1.painters.nextKey.index := by
  induction leads with
  | refl => exact le_rfl
  | tail _ follows ih => exact ih.trans follows.nextKey_le

/-- No key is given out twice, so a painter that is open and whose key was taken at first has been
open all the time. -/
theorem Leads.size_stays (linked : first.1.Linked) {painter : PainterId} {q : Painter}
    (taken : painter.index < first.1.painters.nextKey.index)
    (there : later.1.painters.get? painter = some q) :
    ∃ p id b c, first.1.painters.get? painter = some p ∧ p.buffer? = some id ∧
      q.buffer? = some id ∧ first.1.buffers.get? id = some b ∧
      later.1.buffers.get? id = some c ∧ c.size = b.size := by
  induction leads generalizing q with
  | refl =>
      rcases linked.listed_of_open there with ⟨id, b, names, held, _⟩
      exact ⟨q, id, b, b, there, names, names, held, held, rfl⟩
  | @tail middle after leads follows ih =>
      have before := Leads.linked leads linked
      cases follows.provenance there with
      | kept p open_before same _ =>
          rcases ih open_before with ⟨start, id, b, c, opened, names, names_now, held, now, size⟩
          rcases size_of_kept before (follows.linked before) follows.keepsSizes open_before there
            same with ⟨own, again, last, owned, now_again, found, kept⟩
          rw [names_now] at owned
          cases owned
          rw [now] at now_again
          cases now_again
          exact ⟨start, id, b, last, opened, names, same.trans names_now, held, found,
            kept.trans size⟩
      | opened id b fresh _ _ =>
          have grown := Leads.nextKey_le leads
          rw [fresh] at taken
          exact absurd taken (Nat.not_lt.mpr grown)

end Leads

/-- Whatever is asked of a studio, and whatever buffers it takes in: the clip of an open painter and
those of its saved frames are in force, and each has neither width nor height or lies within the
buffer as large as it is by then. For as long as a painter is open its buffer keeps its size. -/
theorem clips_fit_always {surfaces : Surfaces} {scene : Scene}
    (reached : Leads ({}, surfaces) scene) :
    (∀ painter p, scene.1.painters.get? painter = some p →
        ∃ id b, p.buffer? = some id ∧ scene.1.buffers.get? id = some b ∧
          ∀ f ∈ p.frame :: p.saved, ∃ clip, f.clip = some clip ∧
            (clip.width = 0 ∧ clip.height = 0 ∨ (Rect.ofSize b.size).Encloses clip)) ∧
      ∀ later, Leads scene later → ∀ painter p q, scene.1.painters.get? painter = some p →
        later.1.painters.get? painter = some q →
          ∃ id b c, p.buffer? = some id ∧ q.buffer? = some id ∧
            scene.1.buffers.get? id = some b ∧ later.1.buffers.get? id = some c ∧
            c.size = b.size := by
  have linked : scene.1.Linked := reached.linked .empty
  have fitted : scene.1.Fitted := by
    refine reached.fitted .empty ?_
    intro painter p id b found
    cases found
  constructor
  · intro painter p found
    rcases linked.listed_of_open found with ⟨id, b, names, held, _⟩
    exact ⟨id, b, names, held, fitted painter p id b found names held⟩
  · intro later leads painter p q before there
    have taken := Registry.index_lt _ before
    rcases leads.size_stays linked taken there with
      ⟨start, id, b, c, opened, names, names_now, held, found, size⟩
    rw [before] at opened
    cases opened
    exact ⟨id, b, c, names, names_now, held, found, size⟩

def leavingEnlarged : List Operation :=
  [.create .argb32 ⟨4, 4⟩, .beginResize ⟨0⟩ ⟨9, 9⟩, .setSize ⟨0⟩ ⟨6, 5⟩, .openPainter ⟨0⟩,
    .ask ⟨0⟩ (.clipTo ⟨2, 1, 9, 9⟩), .ask ⟨0⟩ .save, .ask ⟨0⟩ (.clipTo ⟨7, 7, 1, 1⟩)]

/-- The buffer is to shrink, which is refused, and then to end its resize, which is not. -/
def shrinkingUnderneath : List Operation := [.setSize ⟨0⟩ ⟨1, 1⟩, .endResize ⟨0⟩]

theorem clips_fit_leaving_enlarged :
    let scene := performAll ({}, {}) leavingEnlarged
    let later := performAll scene shrinkingUnderneath
    ∃ p b c, scene.1.painters.get? ⟨0⟩ = some p ∧ scene.1.buffers.get? ⟨0⟩ = some b ∧
      later.1.buffers.get? ⟨0⟩ = some c ∧ p.clip = ⟨7, 7, 0, 0⟩ ∧
      p.saved.map (·.clip) = [some ⟨2, 1, 4, 4⟩] ∧
      (Rect.ofSize b.size).Encloses ⟨2, 1, 4, 4⟩ ∧ c.size = b.size ∧ c.size = ⟨6, 5⟩ ∧
      c.isResizing = false := by
  intro scene later
  obtain ⟨p, opened, clip, saved⟩ : ∃ p, scene.1.painters.get? ⟨0⟩ = some p ∧
      p.clip = ⟨7, 7, 0, 0⟩ ∧ p.saved.map (·.clip) = [some ⟨2, 1, 4, 4⟩] :=
    ⟨_, rfl, by decide +kernel, by decide +kernel⟩
  have still : later.1.painters.get? ⟨0⟩ = some p := opened
  rcases clips_fit_always (Leads.performAll ({}, {}) leavingEnlarged) with ⟨fit, stays⟩
  rcases fit ⟨0⟩ p opened with ⟨id, b, names, held, fits⟩
  rcases stays later (Leads.performAll scene shrinkingUnderneath) ⟨0⟩ p p opened still with
    ⟨other, again, c, names_again, _, held_again, found, size⟩
  rw [names] at names_again
  cases names_again
  rw [held] at held_again
  cases held_again
  have home : id = ⟨0⟩ := by
    have named : p.buffer? = some ⟨0⟩ := by
      cases opened
      rfl
    rw [named] at names
    exact (Option.some.inj names).symm
  subst home
  obtain ⟨f, frames, active⟩ := List.map_eq_singleton_iff.mp saved
  rcases fits f (by simp [frames]) with ⟨wide, active_again, inside⟩
  rw [active] at active_again
  cases active_again
  have enlarged : (later.1.buffers.get? ⟨0⟩).map (fun c => (c.size, c.isResizing)) =
      some (⟨6, 5⟩, false) := by decide +kernel
  rw [found, Option.map_some, Option.some.injEq, Prod.mk.injEq] at enlarged
  refine ⟨p, b, c, opened, held, found, clip, saved, ?_, size, enlarged⟩
  rcases inside with ⟨flat, _⟩ | inside
  · exact absurd flat (by decide)
  · exact inside

end Studio

end Compositing
