import Mathlib.Algebra.Ring.Nat
import Compositing.Proofs.Tables
import Compositing.Studio

/-! Which painters are open on which buffer. A painter names its buffer and a buffer lists its
painters; whatever is asked of a studio, both tell the same. -/

namespace Compositing

namespace Painter

inductive Request
  | save
  | restore
  | placeOrigin (origin : Point)
  | moveOrigin (step : Point)
  | clipTo (r : Rect)
  | clipLocal (r : Rect)
  | setOwner (owner : Option UInt64)
  | onBrush (change : Brush → Brush)

def answer (p : Painter) : Request → Except Fault Painter
  | .save => .ok p.save
  | .restore => p.restore
  | .placeOrigin origin => .ok (p.placeOrigin origin)
  | .moveOrigin step => .ok (p.moveOrigin step)
  | .clipTo r => .ok (p.clipTo r)
  | .clipLocal r => .ok (p.clipLocal r)
  | .setOwner owner => .ok (p.setOwner owner)
  | .onBrush change => .ok (p.onBrush change)

def buffer? (p : Painter) : Option BufferId := p.attached.map Attachment.buffer

theorem buffer?_onBrush (p : Painter) (change : Brush → Brush) :
    (p.onBrush change).buffer? = p.buffer? := by
  rw [buffer?, onBrush, Option.map_map, buffer?]
  rfl

theorem buffer?_attach (id : BufferId) (surface : SurfaceId) (size : Size) :
    (attach id surface size).buffer? = some id := by
  rw [attach, clipTo, buffer?_onBrush]
  rfl

theorem buffer?_answer {p after : Painter} {request : Request}
    (answered : p.answer request = .ok after) : after.buffer? = p.buffer? := by
  cases request with
  | restore =>
      rw [answer, restore] at answered
      split at answered
      · cases answered
      · cases answered
        exact buffer?_onBrush ..
  | setOwner owner =>
      cases answered
      rfl
  | _ =>
      cases answered
      exact buffer?_onBrush ..

end Painter

namespace Buffer

def KeepsPainters (change : Buffer → Surfaces → Except Fault (Buffer × Surfaces)) : Prop :=
  ∀ b surfaces after later, change b surfaces = .ok (after, later) → after.painters = b.painters

theorem setSize_keepsPainters (size : Size) : KeepsPainters (·.setSize · size) := by
  intro b surfaces after later done
  rcases of_setSize done with ⟨_, _, own, rfl⟩
  rfl

theorem beginResize_keepsPainters (largest : Size) : KeepsPainters (·.beginResize · largest) := by
  intro b surfaces after later done
  rw [(of_beginResize done).2]

theorem endResize_keepsPainters : KeepsPainters endResize := by
  intro b surfaces after later done
  rw [(of_endResize done).1]

end Buffer

namespace Studio

inductive Operation
  | create (format : Format) (size : Size)
  | openPainter (id : BufferId)
  | closePainter (id : PainterId)
  | closePainters (id : BufferId)
  | discard (id : BufferId)
  | setSize (id : BufferId) (size : Size)
  | beginResize (id : BufferId) (largest : Size)
  | endResize (id : BufferId)
  | ask (id : PainterId) (request : Painter.Request)
  | fill (id : PainterId) (color : Color) (r : Rect)
  | draw (id : PainterId) (source : SurfaceId) (place : Point)
  /-- Surfaces change, by whatever hand. -/
  | replace (surfaces : Surfaces)

abbrev Scene := Studio × Surfaces

def changed (scene : Scene) (id : BufferId)
    (change : Buffer → Surfaces → Except Fault (Buffer × Surfaces)) : Scene :=
  (scene.1.withBuffer scene.2 id change).toOption.getD scene

theorem changed_cases (s : Studio) (surfaces : Surfaces) (id : BufferId)
    (change : Buffer → Surfaces → Except Fault (Buffer × Surfaces)) :
    changed (s, surfaces) id change = (s, surfaces) ∨
      ∃ b next later, s.buffers.get? id = some b ∧ change b surfaces = .ok (next, later) ∧
        changed (s, surfaces) id change = ({ s with buffers := s.buffers.set id next }, later) := by
  simp only [changed, withBuffer]
  cases found : s.buffers.get? id with
  | none => exact .inl rfl
  | some b =>
      cases done : change b surfaces with
      | error fault => exact .inl (by simp [done, Except.toOption])
      | ok made => exact .inr ⟨b, made.1, made.2, rfl, done, by simp [done, Except.toOption]⟩

def perform (scene : Scene) : Operation → Scene
  | .create format size =>
      ((scene.1.create scene.2 format size).map fun made => (made.1, made.2.1)).toOption.getD scene
  | .openPainter id => (((scene.1.openPainter id).map (·.1)).toOption.getD scene.1, scene.2)
  | .closePainter id => ((scene.1.closePainter id).toOption.getD scene.1, scene.2)
  | .closePainters id => (((scene.1.closePainters id).map (·.1)).toOption.getD scene.1, scene.2)
  | .discard id => ((scene.1.discard id).toOption.getD scene.1, scene.2)
  | .setSize id size => changed scene id (·.setSize · size)
  | .beginResize id largest => changed scene id (·.beginResize · largest)
  | .endResize id => changed scene id Buffer.endResize
  | .ask id request =>
      match scene.1.painters.get? id with
      | none => scene
      | some p =>
          let painters := scene.1.painters.set id ((p.answer request).toOption.getD p)
          ({ scene.1 with painters }, scene.2)
  | .fill id color r =>
      (scene.1, (scene.1.painters.get? id).elim scene.2 fun p => p.fill scene.2 color r)
  | .draw id source place =>
      (scene.1, (scene.1.painters.get? id).elim scene.2 fun p => p.draw scene.2 source place)
  | .replace surfaces => (scene.1, surfaces)

def performAll (scene : Scene) (operations : List Operation) : Scene :=
  operations.foldl perform scene

def home (s : Studio) (painter : PainterId) : Option (Option BufferId) :=
  (s.painters.get? painter).map Painter.buffer?

def listed (s : Studio) (id : BufferId) : List PainterId :=
  (s.buffers.get? id).elim [] Buffer.painters

theorem home_eq_some {s : Studio} {painter : PainterId} {owner : Option BufferId} :
    s.home painter = some owner ↔
      ∃ p, s.painters.get? painter = some p ∧ p.buffer? = owner := Option.map_eq_some_iff

theorem listed_of_found {s : Studio} {id : BufferId} {b : Buffer}
    (found : s.buffers.get? id = some b) : s.listed id = b.painters := by
  rw [listed, found, Option.elim_some]

theorem mem_listed {s : Studio} {id : BufferId} {painter : PainterId} :
    painter ∈ s.listed id ↔ ∃ b, s.buffers.get? id = some b ∧ painter ∈ b.painters := by
  rw [listed]
  cases s.buffers.get? id with
  | none => simp
  | some b => simp

section Views

variable {s after : Studio} {id : BufferId} {painter : PainterId}

theorem home_eq
    (others : ∀ other, other ≠ painter → after.painters.get? other = s.painters.get? other) :
    after.home = Function.update s.home painter (after.home painter) :=
  Registry.view_eq (Option.map Painter.buffer?) others

theorem listed_eq
    (others : ∀ other, other ≠ id → after.buffers.get? other = s.buffers.get? other) :
    after.listed = Function.update s.listed id (after.listed id) :=
  Registry.view_eq (Option.elim · [] Buffer.painters) others

theorem listed_set {b : Buffer} (found : s.buffers.get? id = some b) (next : Buffer)
    (painters : Registry .painter Painter) :
    (Studio.mk (s.buffers.set id next) painters).listed =
      Function.update s.listed id next.painters := by
  rw [listed_eq fun other apart => s.buffers.get?_set_other apart _]
  simp [listed, found]

end Views

inductive Move (s after : Studio) : Prop
  | stay (home : after.home = s.home) (listed : after.listed = s.listed)
  | opened (id : BufferId) (painter : PainterId) (fresh : s.home painter = none)
      (home : after.home = Function.update s.home painter (some (some id)))
      (listed : after.listed = Function.update s.listed id (s.listed id ++ [painter]))
  | closed (painter : PainterId) (owner : Option BufferId) (was : s.home painter = some owner)
      (home : after.home = Function.update s.home painter none)
      (listed : ∀ id, after.listed id =
        if owner = some id then (s.listed id).filter (· ≠ painter) else s.listed id)
  | emptied (id : BufferId)
      (home : ∀ painter, after.home painter =
        if painter ∈ s.listed id then none else s.home painter)
      (listed : after.listed = Function.update s.listed id [])

section Moves

variable (s : Studio) (surfaces : Surfaces)

theorem adopt_moves {b : Buffer} (unused : b.painters = []) :
    s.Move { s with buffers := s.buffers.add b } := by
  refine .stay rfl ?_
  have empty : s.listed s.buffers.nextKey = [] := by
    simp [listed]
  rw [listed_eq fun other apart => s.buffers.get?_add_other _ apart, listed,
    Registry.get?_add_next, Option.elim_some, unused, ← empty]
  exact Function.update_eq_self s.buffers.nextKey s.listed

theorem create_moves (format : Format) (size : Size) {after : Studio} {later : Surfaces}
    {id : BufferId} (made : s.create surfaces format size = .ok (after, later, id)) :
    s.Move after := by
  rcases of_create made with ⟨b, _, unused, rfl⟩
  exact s.adopt_moves unused

theorem openPainter_moves {id : BufferId} {after : Studio} {painter : PainterId}
    (opened : s.openPainter id = .ok (after, painter)) : s.Move after := by
  rw [openPainter] at opened
  cases found : s.buffers.get? id with
  | none =>
      rw [found] at opened
      cases opened
  | some b =>
      rw [found] at opened
      cases opened
      refine .opened id s.painters.nextKey ?_ ?_ ?_
      · simp [home]
      · rw [home_eq fun other apart => s.painters.get?_add_other _ apart]
        simp [home, Painter.buffer?_attach]
      · rw [listed_set found, listed_of_found found]

theorem closePainter_moves {painter : PainterId} {after : Studio}
    (closed : s.closePainter painter = .ok after) : s.Move after := by
  rw [closePainter] at closed
  cases found : s.painters.get? painter with
  | none =>
      rw [found] at closed
      cases closed
  | some p =>
      rw [found] at closed
      cases closed
      refine .closed painter p.buffer? (home_eq_some.mpr ⟨p, found, rfl⟩) ?_ ?_
      · rw [home_eq fun other apart => s.painters.get?_remove_other apart]
        simp [home]
      · intro id
        rw [Painter.buffer?, listed, listed]
        cases p.attached with
        | none => simp
        | some a =>
            by_cases own : id = a.buffer
            · subst own
              cases found : s.buffers.get? a.buffer <;> simp [found]
            · simp [own, Ne.symm own]

theorem home_closed (b : Buffer) (buffers : Registry .buffer Buffer) (painter : PainterId) :
    (Studio.mk buffers (b.painters.foldl Registry.remove s.painters)).home painter =
      if painter ∈ b.painters then none else s.home painter := by
  rw [home, Registry.get?_removeAll]
  split
  · rfl
  · rfl

theorem closePainters_eq {id : BufferId} {b : Buffer} (found : s.buffers.get? id = some b) :
    s.closePainters id = .ok (⟨s.buffers.set id { b with painters := [] },
      b.painters.foldl Registry.remove s.painters⟩, b.painters.length) := by
  rw [closePainters, found]

theorem closePainters_moves {id : BufferId} {b : Buffer} (found : s.buffers.get? id = some b) :
    s.Move ⟨s.buffers.set id { b with painters := [] },
      b.painters.foldl Registry.remove s.painters⟩ := by
  refine .emptied id ?_ ?_
  · intro painter
    rw [home_closed, listed_of_found found]
  · rw [listed_set found]

theorem discard_eq {id : BufferId} {b : Buffer} (found : s.buffers.get? id = some b) :
    s.discard id =
      .ok ⟨s.buffers.remove id, b.painters.foldl Registry.remove s.painters⟩ := by
  simp [discard, s.closePainters_eq found]

theorem discard_moves {id : BufferId} {b : Buffer} (found : s.buffers.get? id = some b) :
    s.Move ⟨s.buffers.remove id, b.painters.foldl Registry.remove s.painters⟩ := by
  refine .emptied id ?_ ?_
  · intro painter
    rw [home_closed, listed_of_found found]
  · rw [listed_eq fun other apart => s.buffers.get?_remove_other apart]
    simp [listed]

theorem changed_moves {change : Buffer → Surfaces → Except Fault (Buffer × Surfaces)}
    (keeps : Buffer.KeepsPainters change) (id : BufferId) :
    s.Move (changed (s, surfaces) id change).1 := by
  rcases changed_cases s surfaces id change with same | ⟨b, next, later, found, done, same⟩
  · rw [same]
    exact .stay rfl rfl
  · rw [same]
    refine .stay rfl ?_
    have listed : next.painters = s.listed id :=
      (keeps b surfaces next later done).trans (listed_of_found found).symm
    rw [listed_set found, listed, Function.update_eq_self]

theorem ask_moves {id : PainterId} {p after : Painter} (found : s.painters.get? id = some p)
    (same : after.buffer? = p.buffer?) :
    s.Move { s with painters := s.painters.set id after } := by
  refine .stay ?_ rfl
  have home := home_eq_some.mpr ⟨p, found, same.symm⟩
  rw [home_eq fun other apart => s.painters.get?_set_other apart _, Studio.home,
    Registry.get?_set_self found, Option.map_some, ← home]
  exact Function.update_eq_self id s.home

theorem perform_moves (operation : Operation) : s.Move (perform (s, surfaces) operation).1 := by
  cases operation with
  | create format size =>
      rw [perform]
      cases made : s.create surfaces format size with
      | error fault => exact .stay rfl rfl
      | ok scene => exact s.create_moves surfaces format size made
  | openPainter id =>
      rw [perform]
      cases opened : s.openPainter id with
      | error fault => exact .stay rfl rfl
      | ok scene => exact s.openPainter_moves opened
  | closePainter id =>
      rw [perform]
      cases closed : s.closePainter id with
      | error fault => exact .stay rfl rfl
      | ok after => exact s.closePainter_moves closed
  | closePainters id =>
      rw [perform]
      cases found : s.buffers.get? id with
      | none =>
          rw [closePainters, found]
          exact .stay rfl rfl
      | some b =>
          rw [s.closePainters_eq found]
          exact s.closePainters_moves found
  | discard id =>
      rw [perform]
      cases found : s.buffers.get? id with
      | none =>
          rw [discard, closePainters, found]
          exact .stay rfl rfl
      | some b =>
          rw [s.discard_eq found]
          exact s.discard_moves found
  | setSize id size => exact s.changed_moves surfaces (Buffer.setSize_keepsPainters size) id
  | beginResize id largest =>
      exact s.changed_moves surfaces (Buffer.beginResize_keepsPainters largest) id
  | endResize id => exact s.changed_moves surfaces Buffer.endResize_keepsPainters id
  | ask id request =>
      rw [perform]
      cases found : s.painters.get? id with
      | none => exact .stay rfl rfl
      | some p =>
          apply s.ask_moves found
          cases answered : p.answer request with
          | error fault => rfl
          | ok after => exact Painter.buffer?_answer answered
  | fill id color r => exact .stay rfl rfl
  | draw id source place => exact .stay rfl rfl
  | replace surfaces => exact .stay rfl rfl

end Moves

/-- Painters and buffers tell the same: a painter that is open names the buffer that lists it, and
no buffer lists one twice. -/
structure Linked (s : Studio) : Prop where
  agree : ∀ painter id, s.home painter = some (some id) ↔ painter ∈ s.listed id
  attached : ∀ painter, s.home painter ≠ some none
  once : ∀ id, (s.listed id).Nodup

namespace Linked

variable {s after : Studio}

theorem empty : Linked {} where
  agree painter id := by simp [home, listed, Registry.get?]
  attached painter := by simp [home, Registry.get?]
  once id := by simp [listed, Registry.get?]

theorem opened (linked : s.Linked) {id : BufferId} {painter : PainterId}
    (fresh : s.home painter = none)
    (home : after.home = Function.update s.home painter (some (some id)))
    (listed : after.listed = Function.update s.listed id (s.listed id ++ [painter])) :
    after.Linked := by
  have unlisted : ∀ other, painter ∉ s.listed other := by
    intro other member
    rw [← linked.agree, fresh] at member
    cases member
  constructor
  · intro other place
    rw [home, listed, Function.update_apply, Function.update_apply]
    by_cases new : other = painter
    · by_cases own : place = id
      · simp [new, own]
      · simp [new, own, Ne.symm own, unlisted]
    · by_cases own : place = id
      · simp [new, own, linked.agree]
      · simp [new, own, linked.agree]
  · intro other
    rw [home, Function.update_apply]
    split
    · simp
    · exact linked.attached other
  · intro place
    rw [listed, Function.update_apply]
    split
    · rw [← List.concat_eq_append]
      exact (linked.once id).concat (unlisted id)
    · exact linked.once place

theorem closed (linked : s.Linked) {painter : PainterId} {owner : Option BufferId}
    (was : s.home painter = some owner) (home : after.home = Function.update s.home painter none)
    (listed : ∀ id, after.listed id =
      if owner = some id then (s.listed id).filter (· ≠ painter) else s.listed id) :
    after.Linked := by
  have owned : ∀ id, painter ∈ s.listed id ↔ owner = some id := by
    intro id
    rw [← linked.agree, was, Option.some.injEq]
  constructor
  · intro other id
    rw [home, listed, Function.update_apply]
    by_cases own : owner = some id
    · rw [if_pos own, List.mem_filter, decide_eq_true_eq]
      by_cases gone : other = painter
      · simp [gone]
      · simp [gone, linked.agree]
    · rw [if_neg own]
      by_cases gone : other = painter
      · simp [gone, owned, own]
      · simp [gone, linked.agree]
  · intro other
    rw [home, Function.update_apply]
    split
    · simp
    · exact linked.attached other
  · intro id
    rw [listed]
    split
    · exact (linked.once id).filter _
    · exact linked.once id

theorem emptied (linked : s.Linked) {id : BufferId}
    (home : ∀ painter, after.home painter =
      if painter ∈ s.listed id then none else s.home painter)
    (listed : after.listed = Function.update s.listed id []) : after.Linked := by
  constructor
  · intro painter place
    rw [home, listed, Function.update_apply]
    by_cases gone : painter ∈ s.listed id
    · by_cases own : place = id
      · simp [gone, own]
      · have elsewhere : painter ∉ s.listed place := by
          intro member
          rw [← linked.agree] at gone member
          rw [gone] at member
          exact own (Option.some.inj (Option.some.inj member)).symm
        simp [gone, own, elsewhere]
    · by_cases own : place = id
      · simp [gone, own, linked.agree]
      · simp [gone, own, linked.agree]
  · intro painter
    rw [home]
    split
    · simp
    · exact linked.attached painter
  · intro place
    rw [listed, Function.update_apply]
    split
    · exact List.nodup_nil
    · exact linked.once place

theorem move (linked : s.Linked) (move : s.Move after) : after.Linked := by
  cases move with
  | stay home listed =>
      exact ⟨by rw [home, listed]; exact linked.agree, by rw [home]; exact linked.attached,
        by rw [listed]; exact linked.once⟩
  | opened id painter fresh home listed => exact linked.opened fresh home listed
  | closed painter owner was home listed => exact linked.closed was home listed
  | emptied id home listed => exact linked.emptied home listed

theorem performAll (linked : s.Linked) (surfaces : Surfaces) (operations : List Operation) :
    (performAll (s, surfaces) operations).1.Linked := by
  induction operations generalizing s surfaces with
  | nil => exact linked
  | cons operation rest ih => exact ih (linked.move (s.perform_moves surfaces operation)) _

theorem listed_of_open (linked : s.Linked) {painter : PainterId} {p : Painter}
    (found : s.painters.get? painter = some p) :
    ∃ id b, p.buffer? = some id ∧ s.buffers.get? id = some b ∧ painter ∈ b.painters := by
  have home := home_eq_some.mpr ⟨p, found, rfl⟩
  cases named : p.buffer? with
  | none =>
      rw [named] at home
      exact absurd home (linked.attached painter)
  | some id =>
      rw [named] at home
      rcases mem_listed.mp ((linked.agree painter id).mp home) with ⟨b, there, member⟩
      exact ⟨id, b, rfl, there, member⟩

theorem open_of_listed (linked : s.Linked) {painter : PainterId} {id : BufferId} {b : Buffer}
    (found : s.buffers.get? id = some b) (member : painter ∈ b.painters) :
    ∃ p, s.painters.get? painter = some p ∧ p.buffer? = some id :=
  home_eq_some.mp ((linked.agree painter id).mpr (mem_listed.mpr ⟨b, found, member⟩))

theorem painters_nodup (linked : s.Linked) {id : BufferId} {b : Buffer}
    (found : s.buffers.get? id = some b) : b.painters.Nodup := by
  rw [← listed_of_found found]
  exact linked.once id

/-- The lists together hold each open painter once. -/
theorem keys_perm (linked : s.Linked) :
    s.painters.keys.Perm (s.buffers.toList.flatMap fun entry => entry.2.painters) := by
  have distinct : s.buffers.toList.Pairwise fun first second => first.1 ≠ second.1 :=
    List.pairwise_map.mp s.buffers.keys_nodup
  have apart : (s.buffers.toList.flatMap fun entry => entry.2.painters).Nodup := by
    rw [List.nodup_flatMap]
    constructor
    · intro entry member
      exact linked.painters_nodup (s.buffers.mem_toList.mp member)
    · refine distinct.imp_of_mem ?_
      intro first second early late apart painter left right
      rcases linked.open_of_listed (s.buffers.mem_toList.mp early) left with ⟨p, found, names⟩
      rcases linked.open_of_listed (s.buffers.mem_toList.mp late) right with ⟨q, there, again⟩
      rw [found] at there
      cases there
      rw [names] at again
      exact apart (Option.some.inj again)
  rw [List.perm_ext_iff_of_nodup s.painters.keys_nodup apart]
  intro painter
  rw [Registry.mem_keys, List.mem_flatMap]
  constructor
  · intro held
    rcases held with ⟨p, found⟩
    rcases linked.listed_of_open found with ⟨id, b, _, there, member⟩
    exact ⟨(id, b), s.buffers.mem_toList.mpr there, member⟩
  · intro member
    rcases member with ⟨entry, there, member⟩
    rcases linked.open_of_listed (s.buffers.mem_toList.mp there) member with ⟨p, found, _⟩
    exact ⟨p, found⟩

theorem count_painters (linked : s.Linked) :
    s.painters.count = (s.buffers.toList.map fun entry => entry.2.painters.length).sum := by
  calc s.painters.count = s.painters.keys.length := s.painters.count_eq
    _ = (s.buffers.toList.flatMap fun entry => entry.2.painters).length :=
        linked.keys_perm.length_eq
    _ = (s.buffers.toList.map fun entry => entry.2.painters.length).sum := List.length_flatMap

theorem gone_perm (linked : s.Linked) {id : BufferId} {b : Buffer}
    (found : s.buffers.get? id = some b) :
    (s.painters.keys.filter fun painter =>
      ((b.painters.foldl Registry.remove s.painters).get? painter).isNone).Perm b.painters := by
  rw [List.perm_ext_iff_of_nodup (s.painters.keys_nodup.filter _) (linked.painters_nodup found)]
  intro painter
  rw [List.mem_filter, Registry.mem_keys, Registry.get?_removeAll]
  constructor
  · intro closed
    rcases closed with ⟨⟨p, there⟩, gone⟩
    by_contra spared
    rw [if_neg spared, there] at gone
    cases gone
  · intro member
    rcases linked.open_of_listed found member with ⟨p, there, _⟩
    rw [if_pos member]
    exact ⟨⟨p, there⟩, rfl⟩

end Linked

/-- Whatever has been asked of a studio, of its buffers and of its painters, with keys of what is
gone or was never there too: an open painter names a buffer that is there and lists it once, and a
painter that a buffer lists is open and names that buffer. So there are as many open painters as
the lists hold together, and closing those of a buffer counts the ones that it closed. -/
theorem links_always (surfaces : Surfaces) (operations : List Operation) :
    let s := (performAll ({}, surfaces) operations).1
    (∀ painter p, s.painters.get? painter = some p →
        ∃ id b, p.buffer? = some id ∧ s.buffers.get? id = some b ∧ b.painters.count painter = 1) ∧
      (∀ id b painter, s.buffers.get? id = some b → painter ∈ b.painters →
        ∃ p, s.painters.get? painter = some p ∧ p.buffer? = some id) ∧
      s.painters.count = (s.buffers.toList.map fun entry => entry.2.painters.length).sum ∧
      ∀ id b, s.buffers.get? id = some b → ∃ next count, s.closePainters id = .ok (next, count) ∧
        count = (s.painters.keys.filter fun painter =>
          (next.painters.get? painter).isNone).length := by
  intro s
  have linked : s.Linked := Linked.empty.performAll surfaces operations
  refine ⟨?_, ?_, linked.count_painters, ?_⟩
  · intro painter p found
    rcases linked.listed_of_open found with ⟨id, b, names, there, member⟩
    exact ⟨id, b, names, there, List.count_eq_one_of_mem (linked.painters_nodup there) member⟩
  · intro id b painter found member
    exact linked.open_of_listed found member
  · intro id b found
    exact ⟨_, _, s.closePainters_eq found, (linked.gone_perm found).length_eq.symm⟩

end Studio

end Compositing
