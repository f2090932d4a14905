import Compositing.Proofs.Schedule

/-! Viewports that share their timers and have no screen to keep count. A viewport's mark of the
timer that it waits for may outlive the timer, and it may be painted before the timer fires; but no
timer that it has started goes on without the mark. -/

namespace Compositing

namespace Timers

structure Onward (before after : Timers) : Prop where
  started : before.started ≤ after.started
  active : ∀ timer ∈ after.ids, timer ∈ before.ids ∨
    before.started ≤ timer.index ∧ timer.index < after.started

section Onward

variable (timers : Timers)

theorem onward_start (delay : Nat) : timers.Onward (timers.start delay) where
  started := Nat.le_succ timers.started
  active timer member := by
    rcases List.mem_cons.mp ((timers.ids_start delay).mem_iff.mp member) with rfl | old
    · exact .inr ⟨Nat.le_refl timers.started, Nat.lt_succ_self timers.started⟩
    · exact .inl old

theorem onward_drop (timer : Option TimerId) : timers.Onward (timers.drop timer) where
  started := Nat.le_refl timers.started
  active other member := by
    rw [ids_drop] at member
    exact .inl (List.mem_of_mem_filter member)

theorem onward_expire (instant : Nat) : timers.Onward (timers.expire instant) where
  started := Nat.le_refl timers.started
  active timer member := by
    rw [← timers.ids_expire instant]
    exact .inl (List.mem_append_right _ member)

theorem onward_advance (ticks : Nat) : timers.Onward (timers.advance ticks) where
  started := Nat.le_refl timers.started
  active _ member := .inl member

theorem stop_eq (timer : TimerId) :
    (timers.stop timer).toOption.getD timers = timers.drop (some timer) := by
  by_cases active : timers.isActive timer
  · rw [timers.stop_of_active active]
    rfl
  · rw [timers.drop_of_idle active, stop, if_neg active]
    rfl

end Onward

def startedSince (before after : Timers) : List TimerId :=
  (List.range' before.started (after.started - before.started)).map Key.mk

theorem startedSince_self (timers : Timers) : timers.startedSince timers = [] := by
  rw [startedSince, Nat.sub_self]
  rfl

theorem startedSince_drop (timers : Timers) (timer : Option TimerId) :
    timers.startedSince (timers.drop timer) = [] := timers.startedSince_self

theorem startedSince_start (timers : Timers) (delay : Nat) :
    timers.startedSince (timers.start delay) = [timers.nextId] := by
  have one : (timers.start delay).started - timers.started = 1 := Nat.add_sub_cancel_left ..
  rw [startedSince, one]
  rfl

end Timers

namespace Viewport

variable {δ : Type} [Output δ]

inductive Request
  | invalidate (r : Rect)
  | setSize (size : Size)
  | moveTo (corner : Point)
  | setResolution (size : Size)
  | cancel
  | update (tree : Tree) (studio : Studio)

def unheard (_ : ViewportId) (_ : Rect) : Unit := ()

def answer (v : Viewport) (timers : Timers) (stage : Stage δ) :
    Request → Stage δ × Except ScreenFault (Viewport × Timers × Option TimerId)
  | .invalidate r => (stage, .ok (v.invalidate timers r))
  | .setSize size => (stage, .ok (v.setSize timers unheard size).2)
  | .moveTo corner => (stage, .ok (v.moveTo timers unheard corner).2)
  | .setResolution size =>
      let (stage, changed) := v.setResolution timers unheard stage size
      (stage, changed.map (·.2))
  | .cancel => (stage, v.cancel timers)
  | .update tree studio =>
      match v.update tree studio timers stage with
      | .ok (after, later, painted, _) => (painted, .ok (after, later, none))
      | .error fault => (stage, .error fault)

inductive Turned (v : Viewport) (timers : Timers) (next : Viewport × Timers × Option TimerId) : Prop
  | kept (pending : next.1.pending = v.pending) (same : next.2.1 = timers)
  | began (idle : v.pending = none) (pending : next.1.pending = some timers.nextId) (delay : Nat)
      (started : next.2.1 = timers.start delay)
  | ceased (pending : next.1.pending = none) (stopped : next.2.1 = timers.drop v.pending)

section Turned

variable {v : Viewport} {timers : Timers}

theorem invalidate_turned (v : Viewport) (timers : Timers) (r : Rect) :
    v.Turned timers (v.invalidate timers r) := by
  cases filled : r.isEmpty with
  | true =>
      rw [invalidate_of_empty timers filled]
      exact .kept rfl rfl
  | false =>
      cases pends : v.pending with
      | some timer =>
          rw [invalidate_of_waiting timers filled pends]
          exact .kept rfl rfl
      | none =>
          rw [invalidate_of_idle timers filled pends]
          exact .began pends rfl v.delay rfl

theorem rebound_turned (v : Viewport) (timers : Timers) (bounds : Rect) :
    v.Turned timers (v.rebound timers unheard bounds).2 := by
  cases ({ v with bounds } : Viewport).invalidate_turned timers bounds with
  | kept pending same => exact .kept pending same
  | began idle pending delay same => exact .began idle pending delay same
  | ceased pending same => exact .ceased pending same

theorem answer_turned {stage : Stage δ} {request : Request}
    {next : Viewport × Timers × Option TimerId}
    (answered : (v.answer timers stage request).2 = .ok next) : v.Turned timers next := by
  cases request with
  | invalidate r =>
      cases answered
      exact v.invalidate_turned timers r
  | setSize size =>
      cases answered
      exact v.rebound_turned timers _
  | moveTo corner =>
      cases answered
      exact v.rebound_turned timers _
  | setResolution size =>
      rw [answer, setResolution] at answered
      cases changed : (stage.setResolution v.output size).2 with
      | error fault =>
          simp only [changed, Except.map] at answered
          cases answered
      | ok _ =>
          simp only [changed, Except.map] at answered
          cases answered
          exact v.rebound_turned timers _
  | cancel =>
      rw [answer, cancel_eq] at answered
      cases answered
      exact .ceased rfl rfl
  | update tree studio =>
      rw [answer, update_eq] at answered
      cases answered
      exact .ceased rfl rfl

end Turned

/-- A timer is returned exactly when none was awaited, and then it is new, runs and is awaited. A mark
of any other timer stays, whether or not that timer still runs, and so do the timers. -/
structure Tells (v : Viewport) (timers : Timers) (next : Viewport × Timers × Option TimerId) :
    Prop where
  told : next.2.2.isSome ↔ v.pending = none
  begins : ∀ timer, next.2.2 = some timer → timer = timers.nextId ∧
    next.1.pending = some timer ∧ next.2.1 = timers.start v.delay ∧ next.2.1.isActive timer
  waits : next.2.2 = none → next.1.pending = v.pending ∧ next.2.1 = timers

theorem invalidate_tells (v : Viewport) (timers : Timers) {r : Rect} (filled : r.isEmpty = false) :
    v.Tells timers (v.invalidate timers r) := by
  cases pends : v.pending with
  | some timer =>
      rw [invalidate_of_waiting timers filled pends]
      exact ⟨by simp [pends], by simp, fun _ => ⟨rfl, rfl⟩⟩
  | none =>
      rw [invalidate_of_idle timers filled pends]
      refine ⟨by simp [pends], ?_, by simp⟩
      rintro timer ⟨⟩
      refine ⟨rfl, rfl, rfl, ?_⟩
      rw [← Timers.mem_ids]
      exact (timers.ids_start v.delay).mem_iff.mpr List.mem_cons_self

structure Afresh (v : Viewport) (timers : Timers) : Prop where
  idle : v.pending = none
  clean : v.damage = {}
  begins : ∀ r, r.isEmpty = false → ∃ after later timer,
    v.invalidate timers r = (after, later, some timer) ∧ after.pending = some timer ∧
      later.isActive timer

theorem Afresh.of_idle {v : Viewport} (idle : v.pending = none) (clean : v.damage = {})
    (timers : Timers) : v.Afresh timers where
  idle := idle
  clean := clean
  begins r filled := by
    have tells := v.invalidate_tells timers filled
    rcases Option.isSome_iff_exists.mp (tells.told.mpr idle) with ⟨timer, told⟩
    rcases tells.begins timer told with ⟨_, pending, _, active⟩
    exact ⟨_, _, timer, by rw [← told], pending, active⟩

end Viewport

/-- Viewports with their timers, and a record of which they have started. -/
structure Gallery (δ : Type) where
  stage : Stage δ
  timers : Timers := {}
  viewports : Registry .viewport Viewport := {}
  /-- Every timer that was started while a viewport answered. -/
  begun : List (ViewportId × TimerId) := []

namespace Gallery

variable {δ : Type}

inductive Operation (δ : Type)
  | create (output : OutputId) (config : Config)
  | ask (id : ViewportId) (request : Viewport.Request)
  | start (delay : Nat)
  | stop (timer : TimerId)
  | expire (instant : Nat)
  /-- The clock goes on. -/
  | advance (ticks : Nat)
  /-- Surfaces and outputs change, by whatever hand. -/
  | replace (stage : Stage δ)

def settle (g : Gallery δ) (id : ViewportId) (next : Viewport × Timers × Option TimerId) :
    Gallery δ :=
  { g with
    timers := next.2.1
    viewports := g.viewports.set id next.1
    begun := g.begun ++ (g.timers.startedSince next.2.1).map fun timer => (id, timer) }

def perform [Output δ] (g : Gallery δ) : Operation δ → Gallery δ
  | .create output config =>
      { g with viewports := g.viewports.add (.create g.viewports.nextKey output g.stage config) }
  | .ask id request =>
      match g.viewports.get? id with
      | none => g
      | some v =>
          let (stage, answered) := v.answer g.timers g.stage request
          match answered with
          | .ok next => { g.settle id next with stage }
          | .error _ => { g with stage }
  | .start delay => { g with timers := g.timers.start delay }
  | .stop timer => { g with timers := (g.timers.stop timer).toOption.getD g.timers }
  | .expire instant => { g with timers := g.timers.expire instant }
  | .advance ticks => { g with timers := g.timers.advance ticks }
  | .replace stage => { g with stage }

def performAll [Output δ] (g : Gallery δ) (operations : List (Operation δ)) : Gallery δ :=
  operations.foldl perform g

/-- A timer that a viewport has started and that is still active is the one that it waits for. -/
structure Sole (g : Gallery δ) : Prop where
  active : ∀ timer ∈ g.timers.ids, timer.index < g.timers.started
  earlier : ∀ id timer, (id, timer) ∈ g.begun → timer.index < g.timers.started
  waits : ∀ id timer, (id, timer) ∈ g.begun → timer ∈ g.timers.ids →
    ∃ v, g.viewports.get? id = some v ∧ v.pending = some timer

theorem Sole.opened (stage : Stage δ) : Sole { stage } where
  active _ member := by cases member
  earlier _ _ member := by cases member
  waits _ _ member := by cases member

namespace Sole

variable {g : Gallery δ} (sole : g.Sole)

include sole

theorem nextId_idle : ¬ g.timers.isActive g.timers.nextId := by
  rw [← Timers.mem_ids]
  exact fun member => Nat.lt_irrefl _ (sole.active _ member)

theorem nextId_fresh (id : ViewportId) : (id, g.timers.nextId) ∉ g.begun :=
  fun member => Nat.lt_irrefl _ (sole.earlier id _ member)

theorem onward {timers : Timers} (onward : g.timers.Onward timers) :
    Sole { g with timers } where
  active timer member := by
    rcases onward.active timer member with old | ⟨_, new⟩
    · exact Nat.lt_of_lt_of_le (sole.active timer old) onward.started
    · exact new
  earlier id timer member := Nat.lt_of_lt_of_le (sole.earlier id timer member) onward.started
  waits id timer member active := by
    rcases onward.active timer active with old | ⟨new, _⟩
    · exact sole.waits id timer member old
    · exact absurd (sole.earlier id timer member) (Nat.not_lt.mpr new)

theorem add (v : Viewport) : Sole { g with viewports := g.viewports.add v } where
  active := sole.active
  earlier := sole.earlier
  waits id timer member active := by
    rcases sole.waits id timer member active with ⟨w, found, pends⟩
    have old : id ≠ g.viewports.nextKey := by
      intro new
      simp [new] at found
    exact ⟨w, (g.viewports.get?_add_other v old).trans found, pends⟩

theorem set {id : ViewportId} {v after : Viewport} (found : g.viewports.get? id = some v)
    (marks : ∀ timer ∈ g.timers.ids, v.pending = some timer → after.pending = some timer) :
    Sole { g with viewports := g.viewports.set id after } where
  active := sole.active
  earlier := sole.earlier
  waits other timer member active := by
    rcases sole.waits other timer member active with ⟨w, there, pends⟩
    by_cases own : other = id
    · subst own
      rw [found] at there
      cases there
      exact ⟨after, Registry.get?_set_self found after, marks timer active pends⟩
    · exact ⟨w, (g.viewports.get?_set_other own after).trans there, pends⟩

theorem record {id : ViewportId} {v : Viewport} (found : g.viewports.get? id = some v)
    {timer : TimerId} (pends : v.pending = some timer) (started : timer.index < g.timers.started) :
    Sole { g with begun := g.begun ++ [(id, timer)] } where
  active := sole.active
  earlier other old member := by
    rcases List.mem_append.mp member with before | new
    · exact sole.earlier other old before
    · cases List.mem_singleton.mp new
      exact started
  waits other old member active := by
    rcases List.mem_append.mp member with before | new
    · exact sole.waits other old before active
    · cases List.mem_singleton.mp new
      exact ⟨v, found, pends⟩

theorem settle {id : ViewportId} {v : Viewport} (found : g.viewports.get? id = some v)
    {next : Viewport × Timers × Option TimerId} (turned : v.Turned g.timers next) :
    (g.settle id next).Sole := by
  rcases next with ⟨after, later, told⟩
  cases turned with
  | kept pending same =>
      have marked := sole.set found fun timer _ pends => pending.trans pends
      rw [Gallery.settle, same, Timers.startedSince_self]
      simpa only [List.map_nil, List.append_nil] using marked
  | began idle pending delay started =>
      have marked : Sole { g with viewports := g.viewports.set id after } :=
        sole.set found fun timer _ pends => by
          rw [idle] at pends
          cases pends
      rw [Gallery.settle, started, Timers.startedSince_start]
      exact (marked.onward (g.timers.onward_start delay)).record
        (Registry.get?_set_self found after) pending (Nat.lt_succ_self g.timers.started)
  | ceased pending stopped =>
      have gone : ∀ timer ∈ (g.timers.drop v.pending).ids, v.pending ≠ some timer := by
        intro timer active
        rw [Timers.ids_drop] at active
        exact of_decide_eq_true (List.mem_filter.mp active).2
      have marked : Sole { g with
          timers := g.timers.drop v.pending
          viewports := g.viewports.set id after } :=
        (sole.onward (g.timers.onward_drop v.pending)).set found
          fun timer active pends => absurd pends (gone timer active)
      rw [Gallery.settle, stopped, Timers.startedSince_drop]
      simpa only [List.map_nil, List.append_nil] using marked

/-- No timer of a viewport's own is left once the one that it waits for is gone. -/
theorem idle_of_dropped {id : ViewportId} {v : Viewport} (found : g.viewports.get? id = some v)
    {timer : TimerId} (begun : (id, timer) ∈ g.begun) :
    ¬ (g.timers.drop v.pending).isActive timer := by
  rw [← Timers.mem_ids, Timers.ids_drop]
  intro active
  rcases List.mem_filter.mp active with ⟨before, other⟩
  rcases sole.waits id timer begun before with ⟨w, there, pends⟩
  rw [found] at there
  cases there
  exact of_decide_eq_true other pends

variable [Output δ]

theorem perform (operation : Operation δ) : (g.perform operation).Sole := by
  cases operation with
  | create output config => exact sole.add _
  | ask id request =>
      rw [Gallery.perform]
      cases found : g.viewports.get? id with
      | none => exact sole
      | some v =>
          dsimp only
          split
          · rename_i next answered
            have settled := sole.settle found (Viewport.answer_turned answered)
            exact ⟨settled.active, settled.earlier, settled.waits⟩
          · exact ⟨sole.active, sole.earlier, sole.waits⟩
  | start delay => exact sole.onward (g.timers.onward_start delay)
  | stop timer =>
      rw [Gallery.perform, Timers.stop_eq]
      exact sole.onward (g.timers.onward_drop (some timer))
  | expire instant => exact sole.onward (g.timers.onward_expire instant)
  | advance ticks => exact sole.onward (g.timers.onward_advance ticks)
  | replace stage => exact ⟨sole.active, sole.earlier, sole.waits⟩

theorem performAll (operations : List (Operation δ)) : (g.performAll operations).Sole := by
  induction operations generalizing g with
  | nil => exact sole
  | cons operation rest ih => exact ih (sole.perform operation)

end Sole

/-- Whatever is asked of viewports that share their timers, whoever else starts and stops timers and
however the clock goes on: a timer that a viewport has started and that is still active is the one
that it waits for. It returns a new timer exactly when it is damaged while waiting for none. Neither
a cancellation nor a redraw can fail, and the redraw leaves it without damage and without timers, so
that the next damage starts a new one. -/
theorem one_live_timer [Output δ] (stage : Stage δ) (operations : List (Operation δ)) :
    let g := performAll { stage } operations
    (∀ id timer, (id, timer) ∈ g.begun → g.timers.isActive timer →
        ∃ v, g.viewports.get? id = some v ∧ v.pending = some timer) ∧
      (¬ g.timers.isActive g.timers.nextId ∧ ∀ id, (id, g.timers.nextId) ∉ g.begun) ∧
      ∀ id v, g.viewports.get? id = some v →
        (∀ r, r.isEmpty = false → v.Tells g.timers (v.invalidate g.timers r)) ∧
        (∃ idle later, v.cancel g.timers = .ok (idle, later, v.pending) ∧ idle.pending = none ∧
          ∀ timer, (id, timer) ∈ g.begun → ¬ later.isActive timer) ∧
        ∀ (tree : Tree) (studio : Studio) (now : Stage δ), ∃ idle later painted,
          v.update tree studio g.timers now = .ok (idle, later, painted) ∧ idle.Afresh later ∧
          ∀ timer, (id, timer) ∈ g.begun → ¬ later.isActive timer := by
  intro g
  have sole : g.Sole := Sole.performAll (.opened stage) operations
  refine ⟨?_, ⟨sole.nextId_idle, sole.nextId_fresh⟩, ?_⟩
  · intro id timer begun active
    exact sole.waits id timer begun ((g.timers.mem_ids timer).mpr active)
  · intro id v found
    refine ⟨fun r filled => v.invalidate_tells g.timers filled, ?_, ?_⟩
    · exact ⟨_, _, v.cancel_eq g.timers, rfl, fun timer => sole.idle_of_dropped found⟩
    · intro tree studio now
      exact ⟨_, _, _, v.update_eq tree studio g.timers now, .of_idle rfl rfl _,
        fun timer => sole.idle_of_dropped found⟩

end Gallery

end Compositing
