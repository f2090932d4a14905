import Compositing.Proofs.Operations

/-! Calls that change their object step by step. When such a call fails, the object stays as it is
by then, so it matters in which order things are looked at and changed. Each call comes to the
function that it stands for, and to no change at all where that refuses. -/

namespace Compositing

namespace InPlace

variable {ε ε' σ τ α β : Type}

/-- What a call on `s` comes to when it does as a function says, and leaves `s` as it is where the
function refuses. -/
def outcome (s : σ) : Except ε (α × σ) → EStateM.Result ε σ α
  | .ok (answer, after) => .ok answer after
  | .error fault => .error fault s

def require (holds : σ → Bool) (fault : σ → ε) : EStateM ε σ Unit := fun s =>
  if holds s then .ok () s else .error (fault s) s

def take (fault : ε) (out : σ → Option α × σ) : EStateM ε σ α := fun s =>
  match out s with
  | (some value, after) => .ok value after
  | (none, after) => .error fault after

def lookup (fault : ε) (look : σ → Option α) : EStateM ε σ α := take fault fun s => (look s, s)

theorem map_eq_error {result : Except ε α} {f : α → β} {fault : ε} :
    result.map f = .error fault ↔ result = .error fault := by
  cases result <;> simp [Except.map]

section Steps

variable {s : σ} {result : Except ε (β × σ)}

theorem bind_of_ok {program : EStateM ε σ α} {next : α → EStateM ε σ β} {answer : α} {s s' : σ}
    (done : program s = .ok answer s') : (program >>= next) s = next answer s' := by
  simp only [bind, EStateM.bind, done]

theorem require_bind {holds : σ → Bool} {fault : σ → ε} {next : Unit → EStateM ε σ β}
    (refused : holds s = false → result = .error (fault s))
    (held : holds s = true → next () s = outcome s result) :
    (require holds fault >>= next) s = outcome s result := by
  simp only [bind, EStateM.bind, require]
  cases checked : holds s with
  | false =>
      rw [refused checked]
      rfl
  | true => exact held checked

variable {fault : ε} {next : α → EStateM ε σ β}

/-- A call that takes before it checks changes nothing when there was nothing to take. -/
theorem take_bind {out : σ → Option α × σ} {found : Option α} {after : σ}
    (taken : out s = (found, after)) (absent : found = none → after = s ∧ result = .error fault)
    (present : ∀ value, found = some value → next value after = outcome s result) :
    (take fault out >>= next) s = outcome s result := by
  simp only [bind, EStateM.bind, take, taken]
  cases found with
  | none =>
      rcases absent rfl with ⟨same, refused⟩
      rw [refused, ← same]
      rfl
  | some value => exact present value rfl

theorem lookup_bind {look : σ → Option α} (absent : look s = none → result = .error fault)
    (present : ∀ value, look s = some value → next value s = outcome s result) :
    (lookup fault look >>= next) s = outcome s result :=
  take_bind rfl (fun none => ⟨rfl, absent none⟩) present

theorem forM_modify (step : α → σ → σ) (whole : τ → σ) (change : τ → α → τ)
    (inner : ∀ x t, step x (whole t) = whole (change t x)) (xs : List α) (t : τ) :
    (xs.forM fun x => modify (step x) : EStateM ε σ Unit) (whole t) =
      .ok () (whole (xs.foldl change t)) := by
  induction xs generalizing t with
  | nil => rfl
  | cons x rest ih =>
      rw [List.foldl_cons, ← ih, ← inner]
      rfl

end Steps

structure Part (σ τ : Type) where
  get : σ → τ
  put : τ → σ → σ
  put_get : ∀ s, put (get s) s = s

namespace Part

variable (part : Part σ τ) (name : ε → ε')

def run (program : EStateM ε τ α) : EStateM ε' σ α := fun s =>
  match program (part.get s) with
  | .ok answer t => .ok answer (part.put t s)
  | .error fault t => .error (name fault) (part.put t s)

def apply (f : τ → Except ε (α × τ)) (s : σ) : Except ε' (α × σ) :=
  match f (part.get s) with
  | .ok (answer, t) => .ok (answer, part.put t s)
  | .error fault => .error (name fault)

variable {name} {program : EStateM ε τ α} {f : τ → Except ε (α × τ)} {s : σ}

def second : Part (σ × τ) τ := ⟨Prod.snd, fun t s => (s.1, t), fun _ => rfl⟩

theorem run_eq (inner : program (part.get s) = outcome (part.get s) (f (part.get s))) :
    part.run name program s = outcome s (part.apply name f s) := by
  rw [run, inner, apply]
  cases f (part.get s) with
  | ok result => rfl
  | error fault => exact congrArg _ (part.put_get s)

@[simp] theorem apply_eq_error {failure : ε'} :
    part.apply name f s = .error failure ↔
      ∃ fault, f (part.get s) = .error fault ∧ failure = name fault := by
  rw [apply]
  cases f (part.get s) with
  | ok result => simp
  | error fault => simp [eq_comm]

@[simp] theorem apply_map_eq_error {f : τ → Except ε β} {g : τ → β → α × τ} {failure : ε'} :
    part.apply name (fun t => (f t).map (g t)) s = .error failure ↔
      ∃ fault, f (part.get s) = .error fault ∧ failure = name fault := by
  rw [apply_eq_error]
  simp only [map_eq_error]

end Part

end InPlace

open InPlace

namespace Brush

def pop (b : Brush) : Option Frame × Brush := (b.saved.head?, { b with saved := b.saved.tail })

def restoreInPlace : EStateM Unit Brush Unit := do
  let frame ← take () pop
  modify ({ · with frame })

def restored (b : Brush) : Except Unit (Unit × Brush) :=
  match b.restore? with
  | some after => .ok ((), after)
  | none => .error ()

theorem restoreInPlace_eq (b : Brush) : restoreInPlace b = outcome b b.restored := by
  rcases b with ⟨target, frame, saved⟩
  cases saved <;> rfl

theorem restored_eq_error {b : Brush} {fault : Unit} :
    b.restored = .error fault ↔ b.saved = [] := by
  rw [restored, restore?]
  cases b.saved <;> simp

end Brush

namespace Painter

def pop (p : Painter) : Option Frame × Painter := (p.saved.head?, { p with saved := p.saved.tail })

/-- The brush is restored with the painter, whether or not it has a frame for that. -/
def restoreInPlace : EStateM Fault Painter Unit := do
  let frame ← take .unmatchedRestore pop
  modify ({ · with frame })
  modify (·.onBrush fun b => match b.restoreInPlace with
    | .ok _ after | .error _ after => after)

theorem restoreInPlace_eq (p : Painter) :
    restoreInPlace p = outcome p (p.restore.map fun after => ((), after)) := by
  rcases p with ⟨frame, saved, attached⟩
  have brush : (fun b : Brush => match b.restoreInPlace with
      | .ok _ after | .error _ after => after) = fun b => b.restore?.getD b := by
    funext b
    rcases b with ⟨target, frame, saved⟩
    cases saved <;> rfl
  cases saved with
  | nil => rfl
  | cons last rest =>
      change EStateM.Result.ok () (Painter.onBrush ⟨last, rest, attached⟩ _) = _
      rw [brush]
      rfl

theorem restore_eq_error {p : Painter} {fault : Fault} :
    p.restore = .error fault ↔ p.saved = [] ∧ fault = .unmatchedRestore := by
  rw [restore]
  cases p.saved <;> simp [eq_comm]

end Painter

namespace Renderer

def leaveInPlace : EStateM Fault Renderer Unit := do
  require (fun r => r.baseline < r.depth) fun r => .unmatchedLeave r.depth
  modify fun r => { r with regions := r.regions.tail }

theorem leaveInPlace_eq (r : Renderer) :
    leaveInPlace r = outcome r (r.leave.map fun after => ((), after)) := by
  apply require_bind
  · intro refused
    rw [leave, if_pos (by simpa using refused)]
    rfl
  · intro deeper
    rw [leave, if_neg (by simpa using deeper)]
    rfl

theorem leave_eq_error {r : Renderer} {fault : Fault} :
    r.leave = .error fault ↔ r.depth ≤ r.baseline ∧ fault = .unmatchedLeave r.depth := by
  rw [leave]
  by_cases matched : r.depth ≤ r.baseline
  · simp [matched, eq_comm]
  · simp [matched]

end Renderer

namespace Surfaces

def TooLarge (surfaces : Surfaces) (id : SurfaceId) (size : Size) : Prop :=
  ∃ s, surfaces.get? id = some s ∧
    Surface.maxWords < Surface.wordsFor s.format size.width size.height

theorem withRoom_eq_error {surfaces : Surfaces} {id : SurfaceId} {size : Size}
    {change : Surface → Surface} {fault : Fault} :
    surfaces.withRoom id size change = .error fault ↔
      surfaces.TooLarge id size ∧ fault = .tooLarge size := by
  rw [withRoom, TooLarge]
  cases surfaces.get? id with
  | none => simp
  | some s =>
      by_cases fits : Surface.wordsFor s.format size.width size.height ≤ Surface.maxWords
      · simp [Surface.checkSize, fits, Nat.not_lt.mpr fits]
      · simp [Surface.checkSize, fits, Nat.lt_of_not_le fits, eq_comm]

end Surfaces

namespace Buffer

section Room

variable (f : Buffer → Surfaces → Except Fault Surfaces)

def onSurfaces : EStateM Fault (Buffer × Surfaces) Unit := fun s =>
  outcome s ((f s.1 s.2).map fun surfaces => ((), s.1, surfaces))

theorem onSurfaces_modify (change : Buffer × Surfaces → Buffer × Surfaces) (b : Buffer)
    (surfaces : Surfaces) :
    (onSurfaces f >>= fun _ => modify change) (b, surfaces) =
      outcome (b, surfaces) ((f b surfaces).map fun after => ((), change (b, after))) := by
  simp only [bind, EStateM.bind, onSurfaces]
  cases f b surfaces <;> rfl

end Room

variable (b : Buffer) (surfaces : Surfaces) (size : Size) (fault : Fault)

def setSizeInPlace : EStateM Fault (Buffer × Surfaces) Unit := do
  require (·.1.painters.isEmpty) (.paintersOpen ·.1.painters.length)
  onSurfaces fun b surfaces => surfaces.resize b.surface size
  modify fun s =>
    ({ s.1 with size := ((s.2.get? s.1.surface).map Surface.size).getD s.1.size }, s.2)

theorem setSizeInPlace_eq :
    setSizeInPlace size (b, surfaces) =
      outcome (b, surfaces) ((b.setSize surfaces size).map fun after => ((), after)) := by
  apply require_bind
  · intro opened
    simp only [setSize, opened]
    rfl
  · intro closed
    rw [onSurfaces_modify]
    simp only [setSize, closed, if_true]
    cases surfaces.resize b.surface size <;> rfl

theorem setSize_eq_error :
    b.setSize surfaces size = .error fault ↔
      b.painters ≠ [] ∧ fault = .paintersOpen b.painters.length ∨
        b.painters = [] ∧ surfaces.TooLarge b.surface size ∧ fault = .tooLarge size := by
  cases closed : b.painters.isEmpty with
  | false =>
      have opened : b.painters ≠ [] := by simpa using closed
      rw [setSize, closed]
      simp [opened, eq_comm]
  | true =>
      have none : b.painters = [] := by simpa using closed
      rw [setSize, if_pos closed, ← Surfaces.withRoom_eq_error]
      simp only [none, ne_eq, not_true_eq_false, false_and, false_or, true_and]
      exact map_eq_error

def beginResizeInPlace : EStateM Fault (Buffer × Surfaces) Unit := do
  require (!·.1.isResizing) fun _ => .resizeOpen
  onSurfaces fun b surfaces => surfaces.reserve b.surface size
  modify fun s => ({ s.1 with expected := some size }, s.2)

theorem beginResizeInPlace_eq :
    beginResizeInPlace size (b, surfaces) =
      outcome (b, surfaces) ((b.beginResize surfaces size).map fun after => ((), after)) := by
  apply require_bind
  · intro refused
    have resizing : b.isResizing = true := by simpa using refused
    simp only [beginResize, resizing]
    rfl
  · intro held
    have still : b.isResizing = false := by simpa using held
    rw [onSurfaces_modify]
    simp only [beginResize, still]
    cases surfaces.reserve b.surface size <;> rfl

theorem beginResize_eq_error :
    b.beginResize surfaces size = .error fault ↔
      b.isResizing = true ∧ fault = .resizeOpen ∨
        b.isResizing = false ∧ surfaces.TooLarge b.surface size ∧ fault = .tooLarge size := by
  rw [beginResize, ← Surfaces.withRoom_eq_error]
  cases b.isResizing with
  | true => simp [eq_comm]
  | false =>
      rw [if_neg (by decide)]
      simp only [Bool.false_eq_true, false_and, false_or, true_and]
      exact map_eq_error

def endResizeInPlace : EStateM Fault (Buffer × Surfaces) Unit := do
  let _ ← take .resizeNotOpen fun s => (s.1.expected, { s.1 with expected := none }, s.2)
  modify fun s => (s.1, s.2.modify s.1.surface Surface.shrink)

theorem endResizeInPlace_eq :
    endResizeInPlace (b, surfaces) =
      outcome (b, surfaces) ((b.endResize surfaces).map fun after => ((), after)) := by
  rcases b with ⟨format, size, surface, painters, expected⟩
  cases expected <;> rfl

theorem endResize_eq_error :
    b.endResize surfaces = .error fault ↔ b.isResizing = false ∧ fault = .resizeNotOpen := by
  rw [endResize]
  cases b.isResizing <;> simp [eq_comm]

end Buffer

namespace Studio

variable (s : Studio) (surfaces : Surfaces) (fault : Fault)

section Buffers

variable (id : BufferId)

def onBuffer (program : EStateM Fault (Buffer × Surfaces) Unit) :
    EStateM Fault (Studio × Surfaces) Unit := fun (s, surfaces) =>
  let put (b : Buffer) : Studio := { s with buffers := s.buffers.set id b }
  match s.buffers.get? id with
  | none => .error .deadBuffer (s, surfaces)
  | some b =>
      match program (b, surfaces) with
      | .ok _ (b, surfaces) => .ok () (put b, surfaces)
      | .error fault (b, surfaces) => .error fault (put b, surfaces)

theorem onBuffer_eq {program : EStateM Fault (Buffer × Surfaces) Unit}
    {change : Buffer → Surfaces → Except Fault (Buffer × Surfaces)}
    (inner : ∀ b, program (b, surfaces) =
      outcome (b, surfaces) ((change b surfaces).map fun after => ((), after))) :
    onBuffer id program (s, surfaces) =
      outcome (s, surfaces) ((s.withBuffer surfaces id change).map fun after => ((), after)) := by
  simp only [onBuffer, withBuffer]
  cases found : s.buffers.get? id with
  | none => rfl
  | some b =>
      simp only [inner]
      cases change b surfaces with
      | ok after => rfl
      | error fault =>
          simp only [Except.map, outcome, error_bind, Registry.set_held found]

theorem withBuffer_eq_error {change : Buffer → Surfaces → Except Fault (Buffer × Surfaces)} :
    s.withBuffer surfaces id change = .error fault ↔
      s.buffers.get? id = none ∧ fault = .deadBuffer ∨
        ∃ b, s.buffers.get? id = some b ∧ change b surfaces = .error fault := by
  simp only [withBuffer]
  cases s.buffers.get? id with
  | none => simp [throw, throwThe, MonadExceptOf.throw, eq_comm]
  | some b =>
      simp only [reduceCtorEq, false_and, false_or, Option.some.injEq, exists_eq_left']
      exact map_eq_error

/-- The painter comes into the studio before its buffer knows it. -/
def openPainterInPlace : EStateM Fault Studio PainterId := do
  let b ← lookup .deadBuffer (·.buffers.get? id)
  let painter ← modifyGet fun s =>
    (s.painters.nextKey, { s with painters := s.painters.add (.attach id b.surface b.size) })
  modify fun s =>
    { s with buffers := s.buffers.set id { b with painters := b.painters ++ [painter] } }
  return painter

theorem openPainterInPlace_eq :
    openPainterInPlace id s = outcome s ((s.openPainter id).map Prod.swap) := by
  apply lookup_bind
  · intro dead
    simp only [openPainter, dead]
    rfl
  · intro b found
    simp only [openPainter, found]
    rfl

theorem openPainter_eq_error :
    s.openPainter id = .error fault ↔ s.buffers.get? id = none ∧ fault = .deadBuffer := by
  rw [openPainter]
  cases s.buffers.get? id <;> simp [eq_comm]

def closePaintersInPlace : EStateM Fault Studio Nat := do
  let b ← lookup .deadBuffer (·.buffers.get? id)
  modify fun s => { s with buffers := s.buffers.set id { b with painters := [] } }
  b.painters.forM fun painter => modify fun s => { s with painters := s.painters.remove painter }
  return b.painters.length

theorem closePaintersInPlace_eq :
    closePaintersInPlace id s = outcome s ((s.closePainters id).map Prod.swap) := by
  apply lookup_bind
  · intro dead
    simp only [closePainters, dead]
    rfl
  · intro b found
    have closed := forM_modify (ε := Fault)
      (fun painter (s : Studio) => { s with painters := s.painters.remove painter })
      (fun painters => ⟨s.buffers.set id { b with painters := [] }, painters⟩) Registry.remove
      (fun _ _ => rfl) b.painters s.painters
    simp only [closePainters, found]
    exact bind_of_ok closed

theorem closePainters_eq_error :
    s.closePainters id = .error fault ↔ s.buffers.get? id = none ∧ fault = .deadBuffer := by
  rw [closePainters]
  cases s.buffers.get? id <;> simp [eq_comm]

def discardInPlace : EStateM Fault Studio Unit := do
  let _ ← closePaintersInPlace id
  modify fun s => { s with buffers := s.buffers.remove id }

theorem discardInPlace_eq :
    discardInPlace id s = outcome s ((s.discard id).map fun after => ((), after)) := by
  simp only [discardInPlace, discard, bind, EStateM.bind, closePaintersInPlace_eq]
  cases s.closePainters id <;> rfl

theorem discard_eq_error :
    s.discard id = .error fault ↔ s.buffers.get? id = none ∧ fault = .deadBuffer := by
  rw [← closePainters_eq_error]
  exact map_eq_error

end Buffers

variable (id : PainterId)

def closePainterInPlace : EStateM Fault Studio Unit := do
  let painter ← take .deadPainter fun s =>
    (s.painters.get? id, { s with painters := s.painters.remove id })
  match painter.attached with
  | some a => modify fun s => { s with
      buffers := s.buffers.modify a.buffer fun b =>
        { b with painters := b.painters.filter (· ≠ id) } }
  | none => pure ()

theorem closePainterInPlace_eq :
    closePainterInPlace id s = outcome s ((s.closePainter id).map fun after => ((), after)) := by
  refine take_bind (by rfl) ?_ ?_
  · intro dead
    rw [closePainter, dead, Registry.remove_absent dead]
    exact ⟨rfl, rfl⟩
  · intro painter found
    rw [closePainter, found]
    rcases painter with ⟨frame, saved, attached⟩
    cases attached <;> rfl

theorem closePainter_eq_error :
    s.closePainter id = .error fault ↔ s.painters.get? id = none ∧ fault = .deadPainter := by
  rw [closePainter]
  cases s.painters.get? id <;> simp [eq_comm]

end Studio

end Compositing
