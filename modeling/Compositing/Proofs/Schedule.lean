import Mathlib.Logic.Function.Basic
import Compositing.Proofs.Operations

/-! Who waits for which timer. The timers of the queue, the viewports' own and the table of pending
redraws always tell the same, except that a timer that has fired stays owed until it is answered. -/

namespace Compositing

namespace Timers

variable (timers : Timers) (timer : TimerId)

def ids : List TimerId := timers.queue.map (·.1)

theorem mem_ids : timer ∈ timers.ids ↔ timers.isActive timer := by
  rw [isActive_iff]
  exact List.mem_map

theorem untilNext_isSome : timers.untilNext.isSome ↔ ∃ timer, timers.isActive timer := by
  simp only [untilNext, isActive_iff, Option.isSome_map]
  cases timers.queue with
  | nil => simp
  | cons entry rest => simp

theorem queue_start (delay : Nat) :
    (timers.start delay).queue.Perm ((timers.nextId, timers.now + delay) :: timers.queue) := by
  have split := timers.queue.takeWhile_append_dropWhile
    (p := fun entry => entry.2 ≤ timers.now + delay)
  rw [← split]
  exact List.perm_middle

theorem ids_start (delay : Nat) : (timers.start delay).ids.Perm (timers.nextId :: timers.ids) :=
  (timers.queue_start delay).map Prod.fst

theorem ids_drop (dropped : Option TimerId) :
    (timers.drop dropped).ids = timers.ids.filter fun timer => dropped ≠ some timer := by
  rw [ids, ids, List.filter_map]
  rfl

theorem ids_expire (instant : Nat) :
    timers.dueBy instant ++ (timers.expire instant).ids = timers.ids := by
  rw [dueBy, ids, expire, ← List.map_append, List.takeWhile_append_dropWhile, ids]

end Timers

/-- The viewports that wait, each for a timer of its own, are those of the table. Their timers are
the active ones and those that have fired. -/
structure Schedule (waiting : ViewportId → Option TimerId) (timers : Timers)
    (pending : Table TimerId ViewportId) (fired : List TimerId) : Prop where
  awaited : ∀ timer, timer ∈ fired ++ timers.ids ↔ ∃ id, waiting id = some timer
  owner : ∀ timer id, pending.get? timer = some id ↔ waiting id = some timer
  distinct : (fired ++ timers.ids).Nodup
  started : ∀ timer ∈ fired ++ timers.ids, timer.index < timers.started

namespace Schedule

variable {waiting : ViewportId → Option TimerId} {timers : Timers}
  {pending : Table TimerId ViewportId} {fired : List TimerId}

theorem owner_unique (schedule : Schedule waiting timers pending fired) {timer : TimerId}
    {id other : ViewportId} (waits : waiting id = some timer) (again : waiting other = some timer) :
    id = other := by
  have first := (schedule.owner timer id).mpr waits
  have second := (schedule.owner timer other).mpr again
  rw [first] at second
  exact Option.some.inj second

theorem nextId_fresh (schedule : Schedule waiting timers pending fired) :
    timers.nextId ∉ fired ++ timers.ids :=
  fun member => Nat.lt_irrefl _ (schedule.started _ member)

theorem update_eq_some {id other : ViewportId} {next : Option TimerId} {timer : TimerId} :
    Function.update waiting id next other = some timer ↔
      other = id ∧ next = some timer ∨ other ≠ id ∧ waiting other = some timer := by
  by_cases same : other = id
  · rw [same, Function.update_self]
    simp
  · rw [Function.update_of_ne same]
    simp [same]

theorem start (schedule : Schedule waiting timers pending fired) {id : ViewportId}
    (idle : waiting id = none) (delay : Nat) :
    Schedule (Function.update waiting id (some timers.nextId)) (timers.start delay)
      (pending.insert timers.nextId id) fired := by
  have ids : (fired ++ (timers.start delay).ids).Perm (timers.nextId :: (fired ++ timers.ids)) :=
    ((timers.ids_start delay).append_left fired).trans List.perm_middle
  have unawaited : ∀ other, waiting other ≠ some timers.nextId :=
    fun other waits => schedule.nextId_fresh ((schedule.awaited _).mpr ⟨other, waits⟩)
  constructor
  · intro timer
    rw [ids.mem_iff, List.mem_cons, schedule.awaited]
    constructor
    · intro awaited
      rcases awaited with rfl | ⟨other, waits⟩
      · exact ⟨id, update_eq_some.mpr (.inl ⟨rfl, rfl⟩)⟩
      · have apart : other ≠ id := by
          intro same
          rw [same, idle] at waits
          cases waits
        exact ⟨other, update_eq_some.mpr (.inr ⟨apart, waits⟩)⟩
    · intro awaited
      rcases awaited with ⟨other, waits⟩
      rcases update_eq_some.mp waits with ⟨_, begun⟩ | ⟨_, waits⟩
      · exact .inl (Option.some.inj begun).symm
      · exact .inr ⟨other, waits⟩
  · intro timer other
    rw [Table.get?_insert, update_eq_some]
    by_cases fresh : timer = timers.nextId
    · rw [if_pos fresh, fresh]
      simp [unawaited other, eq_comm]
    · rw [if_neg fresh, schedule.owner]
      by_cases same : other = id
      · simp [same, idle, Ne.symm fresh]
      · simp [same]
  · exact ids.nodup_iff.mpr (List.nodup_cons.mpr ⟨schedule.nextId_fresh, schedule.distinct⟩)
  · intro timer member
    change timer.index < timers.started + 1
    rcases List.mem_cons.mp (ids.mem_iff.mp member) with rfl | old
    · exact Nat.lt_succ_self timers.started
    · exact Nat.lt_succ_of_lt (schedule.started timer old)

theorem stop (schedule : Schedule waiting timers pending fired) (id : ViewportId) :
    Schedule (Function.update waiting id none) (timers.drop (waiting id))
      (Screen.unlist pending (waiting id)) (fired.filter fun timer => waiting id ≠ some timer) := by
  have ids : (fired.filter fun timer => waiting id ≠ some timer) ++ (timers.drop (waiting id)).ids =
      (fired ++ timers.ids).filter fun timer => waiting id ≠ some timer := by
    rw [Timers.ids_drop, List.filter_append]
  have remains : ∀ other timer, Function.update waiting id none other = some timer ↔
      waiting other = some timer ∧ waiting id ≠ some timer := by
    intro other timer
    rw [update_eq_some]
    constructor
    · intro left
      rcases left with ⟨_, absent⟩ | ⟨apart, waits⟩
      · cases absent
      · exact ⟨waits, fun own => apart (schedule.owner_unique waits own)⟩
    · intro left
      exact .inr ⟨fun same => left.2 (same ▸ left.1), left.1⟩
  constructor
  · intro timer
    rw [ids, List.mem_filter, schedule.awaited, decide_eq_true_eq]
    simp only [remains, exists_and_right]
  · intro timer other
    rw [Screen.get?_unlist, remains]
    by_cases own : waiting id = some timer
    · simp [own]
    · rw [if_neg own, schedule.owner]
      simp [own]
  · rw [ids]
    exact schedule.distinct.filter _
  · rw [ids]
    exact fun timer member => schedule.started timer (List.mem_of_mem_filter member)

theorem expire (schedule : Schedule waiting timers pending []) (instant : Nat) :
    Schedule waiting (timers.expire instant) pending (timers.dueBy instant) := by
  have ids := timers.ids_expire instant
  exact ⟨by rw [ids]; exact schedule.awaited, schedule.owner, by rw [ids]; exact schedule.distinct,
    by rw [ids]; exact schedule.started⟩

end Schedule

def waiting (viewports : Registry .viewport Viewport) (id : ViewportId) : Option TimerId :=
  (viewports.get? id).bind (·.pending)

theorem waiting_eq_some {viewports : Registry .viewport Viewport} {id : ViewportId}
    {timer : TimerId} :
    waiting viewports id = some timer ↔ ∃ v, viewports.get? id = some v ∧ v.pending = some timer :=
  Option.bind_eq_some_iff

theorem waiting_eq {viewports after : Registry .viewport Viewport} {id : ViewportId}
    {timer : Option TimerId} (here : (after.get? id).bind (·.pending) = timer)
    (others : ∀ other, other ≠ id → after.get? other = viewports.get? other) :
    waiting after = Function.update (waiting viewports) id timer := by
  rw [← here]
  exact Registry.view_eq (fun slot => slot.bind (·.pending)) others

/-- A viewport under its own key, which waits for a timer exactly while it has damage. -/
structure Viewport.Tidy (id : ViewportId) (v : Viewport) : Prop where
  named : v.id = id
  waits : v.pending.isSome = !v.damage.isEmpty

structure Scheduled (viewports : Registry .viewport Viewport) (timers : Timers)
    (pending : Table TimerId ViewportId) (fired : List TimerId) : Prop where
  tidy : ∀ id v, viewports.get? id = some v → v.Tidy id
  schedule : Schedule (waiting viewports) timers pending fired

namespace Scheduled

variable {viewports after : Registry .viewport Viewport} {timers later : Timers}
  {pending table : Table TimerId ViewportId} {fired owed : List TimerId} {id : ViewportId}
  {v w : Viewport}

theorem waiting_of_found (found : viewports.get? id = some v) :
    waiting viewports id = v.pending := by
  rw [waiting, found, Option.bind_some]

theorem change (scheduled : Scheduled viewports timers pending fired) {waits : Option TimerId}
    (schedule : Schedule (Function.update (waiting viewports) id waits) later table owed)
    (here : ∀ w, after.get? id = some w → w.Tidy id)
    (pends : (after.get? id).bind (·.pending) = waits)
    (others : ∀ other, other ≠ id → after.get? other = viewports.get? other) :
    Scheduled after later table owed where
  tidy other w found := by
    by_cases own : other = id
    · subst own
      exact here w found
    · rw [others other own] at found
      exact scheduled.tidy other w found
  schedule := by
    rw [waiting_eq pends others]
    exact schedule

theorem set (scheduled : Scheduled viewports timers pending fired)
    (found : viewports.get? id = some v) (tidy : w.Tidy id)
    (schedule : Schedule (Function.update (waiting viewports) id w.pending) later table owed) :
    Scheduled (viewports.set id w) later table owed := by
  have stored := Registry.get?_set_self found w
  apply scheduled.change schedule
  · intro other there
    rw [stored] at there
    cases there
    exact tidy
  · simp [stored]
  · exact fun other apart => viewports.get?_set_other apart w

theorem remove (scheduled : Scheduled viewports timers pending fired)
    (schedule : Schedule (Function.update (waiting viewports) id none) later table owed) :
    Scheduled (viewports.remove id) later table owed := by
  apply scheduled.change schedule
  · intro w there
    simp at there
  · simp
  · exact fun other apart => viewports.get?_remove_other apart

theorem add (scheduled : Scheduled viewports timers pending fired)
    (tidy : v.Tidy viewports.nextKey) (idle : v.pending = none) :
    Scheduled (viewports.add v) timers pending fired := by
  have stored := viewports.get?_add_next v
  have absent : waiting viewports viewports.nextKey = none := by
    simp [waiting]
  have same : Schedule (Function.update (waiting viewports) viewports.nextKey none) timers pending
      fired := by
    rw [← absent, Function.update_eq_self]
    exact scheduled.schedule
  apply scheduled.change same
  · intro w there
    rw [stored] at there
    cases there
    exact tidy
  · simp [stored, idle]
  · exact fun other apart => viewports.get?_add_other v apart

theorem stopped (scheduled : Scheduled viewports timers pending fired)
    (found : viewports.get? id = some v) :
    Schedule (Function.update (waiting viewports) id none) (timers.drop v.pending)
      (Screen.unlist pending v.pending) (fired.filter fun timer => v.pending ≠ some timer) := by
  rw [← waiting_of_found found]
  exact scheduled.schedule.stop id

end Scheduled

namespace Screen

/-- Nothing is out of step but the timers that have fired and are still to be answered. -/
abbrev InStep (s : Screen) (fired : List TimerId) : Prop :=
  Scheduled s.viewports s.timers s.pending fired

variable {δ : Type} [Output δ] {s after : Screen} {fired : List TimerId} {v : Viewport}
  {id : ViewportId}

theorem InStep.named (inStep : s.InStep fired) :
    ∀ id v, s.viewports.get? id = some v → v.id = id :=
  fun id v found => (inStep.tidy id v found).named

theorem InStep.create (config : Config) (root : Tree) : (create config root).InStep [] where
  tidy _ _ found := by cases found
  schedule := by
    constructor
    · intro timer
      simp [Screen.create, Timers.ids, waiting, Registry.get?]
    · intro timer id
      simp [Screen.create, waiting, Registry.get?, Table.get?]
    · exact List.nodup_nil
    · intro timer member
      cases member

theorem InStep.damage (inStep : s.InStep fired) (found : s.viewports.get? v.id = some v)
    (bounds r : Rect) : (s.settle ({ v with bounds }.invalidate s.timers r)).InStep fired := by
  have tidy := inStep.tidy v.id v found
  have waits := Scheduled.waiting_of_found found
  have keep : ∀ w : Viewport, w.Tidy v.id → w.pending = v.pending →
      (s.settle (w, s.timers, none)).InStep fired := by
    intro w tidy same
    rw [settle_none, tidy.named]
    apply Scheduled.set inStep found tidy
    rw [same, ← waits, Function.update_eq_self]
    exact inStep.schedule
  cases filled : r.isEmpty with
  | true =>
      rw [Viewport.invalidate_of_empty s.timers filled]
      exact keep _ ⟨rfl, tidy.waits⟩ rfl
  | false =>
      have dirty := v.damage.isEmpty_add r
      rcases Option.eq_none_or_eq_some v.pending with pends | ⟨timer, pends⟩
      · let begun : Viewport :=
          { v with bounds, damage := v.damage.add r, pending := some s.timers.nextId }
        have due : begun.Tidy v.id := ⟨rfl, by rw [dirty]; rfl⟩
        rw [Viewport.invalidate_of_idle (v := { v with bounds }) s.timers filled pends,
          settle_some]
        exact Scheduled.set inStep found due (inStep.schedule.start (waits.trans pends) v.delay)
      · let grown : Viewport := { v with bounds, damage := v.damage.add r }
        have due : grown.Tidy v.id := ⟨rfl, by rw [dirty, pends]; rfl⟩
        rw [Viewport.invalidate_of_waiting (v := { v with bounds }) s.timers filled pends]
        exact keep grown due rfl

theorem InStep.move (inStep : s.InStep []) (move : s.Move after) : after.InStep [] := by
  cases move with
  | elsewhere viewports queue started pending =>
      have ids : after.timers.ids = s.timers.ids := by rw [Timers.ids, queue, Timers.ids]
      have schedule := inStep.schedule
      refine ⟨by rw [viewports]; exact inStep.tidy, ?_⟩
      rw [viewports, pending]
      refine ⟨?_, schedule.owner, ?_, ?_⟩
      · rw [ids]
        exact schedule.awaited
      · rw [ids]
        exact schedule.distinct
      · rw [ids, started]
        exact schedule.started
  | attach v fresh idle whole =>
      have tidy : v.Tidy s.viewports.nextKey := ⟨fresh, by rw [idle, whole]; rfl⟩
      have added : ({ s with viewports := s.viewports.add v } : Screen).InStep [] :=
        Scheduled.add inStep tidy idle
      have stored : (s.viewports.add v).get? v.id = some v := by
        simp [fresh]
      exact added.damage stored v.bounds v.bounds
  | damage v found bounds r whole => exact inStep.damage found bounds r
  | remove v found => exact Scheduled.remove inStep (Scheduled.stopped inStep found)

theorem InStep.moves (inStep : s.InStep []) (moves : s.Moves after) : after.InStep [] := by
  induction moves with
  | refl => exact inStep
  | tail _ last ih => exact ih.move last

theorem InStep.painted (inStep : s.InStep fired) (found : s.viewports.get? v.id = some v) :
    (s.painted v).InStep (fired.filter fun timer => v.pending ≠ some timer) :=
  Scheduled.set inStep found ⟨rfl, rfl⟩ (Scheduled.stopped inStep found)

theorem InStep.outcome {before after : Progress δ} (inStep : before.1.InStep [])
    (outcome : Outcome before after) : after.1.InStep [] := by
  cases outcome with
  | gone => exact inStep
  | undamaged v found clean => exact inStep.painted found
  | painted v found => exact inStep.painted found

/-- A timer that has fired is always that of a viewport, which is then painted. -/
theorem answerTimer_outcome (before : Progress δ) (timer : TimerId)
    (inStep : before.1.InStep (timer :: fired)) :
    ∃ after, answerTimer before timer = .ok after ∧ Outcome before after ∧
      after.1.InStep fired := by
  rcases before with ⟨s, stage, reports⟩
  have schedule := inStep.schedule
  rcases (schedule.awaited timer).mp List.mem_cons_self with ⟨id, waits⟩
  have owner := (schedule.owner timer id).mpr waits
  rcases waiting_eq_some.mp waits with ⟨v, found, pends⟩
  have own := inStep.named id v found
  subst own
  have painted := inStep.painted found
  -- No viewport waits for a timer twice, so the timers still owed are the other ones.
  have answered : (timer :: fired).filter (fun other => v.pending ≠ some other) = fired := by
    have alone : timer ∉ fired ++ s.timers.ids := (List.nodup_cons.mp schedule.distinct).1
    have first : decide (v.pending ≠ some timer) = false := by simp [pends]
    rw [List.filter_cons_of_neg (by rw [first]; decide)]
    apply List.filter_eq_self.mpr
    intro other member
    apply decide_eq_true
    intro own
    rw [pends] at own
    exact alone (List.mem_append_left _ (Option.some.inj own ▸ member))
  rw [answered] at painted
  exact ⟨_, answerTimer_eq owner found pends, .painted v found, painted⟩

theorem flush_turns (inStep : s.InStep []) (stage : Stage δ) :
    ∃ last, s.flush stage = .ok last ∧ last.1.InStep [] ∧
      Turns (s, stage, []) (turnsOf flushViewport s.viewports.keys (s, stage, [])) last := by
  refine turnsOf_turns (fun _ progress => progress.1.InStep []) ?_ _ _ inStep
  intro id _ before inStep
  rcases flushViewport_outcome before id inStep.named with ⟨after, flushed, outcome⟩
  exact ⟨after, flushed, outcome, inStep.outcome outcome⟩

theorem processTimers_turns (inStep : s.InStep []) (stage : Stage δ) (instant : Nat) :
    ∃ last, s.processTimers stage instant = .ok last ∧ last.1.InStep [] ∧
      Turns ({ s with timers := s.timers.expire instant }, stage, [])
        (turnsOf answerTimer (s.timers.dueBy instant)
          ({ s with timers := s.timers.expire instant }, stage, [])) last := by
  have expired : ({ s with timers := s.timers.expire instant } : Screen).InStep
      (s.timers.dueBy instant) := ⟨inStep.tidy, inStep.schedule.expire instant⟩
  refine turnsOf_turns (fun fired progress => progress.1.InStep fired) ?_ _ _ expired
  intro timer fired before inStep
  exact answerTimer_outcome before timer inStep

theorem perform_inStep (inStep : s.InStep []) (stage : Stage δ) (operation : Operation δ) :
    (perform (s, stage) operation).1.InStep [] := by
  cases operation with
  | processTimers instant =>
      rcases processTimers_turns inStep stage instant with ⟨next, done, inStep, _⟩
      simp only [perform, done]
      exact inStep
  | flush =>
      rcases flush_turns inStep stage with ⟨next, done, inStep, _⟩
      simp only [perform, done]
      exact inStep
  | _ => exact inStep.moves (perform_moves inStep.named stage _ rfl)

theorem performAll_inStep (inStep : s.InStep []) (stage : Stage δ)
    (operations : List (Operation δ)) : (performAll (s, stage) operations).1.InStep [] := by
  induction operations generalizing s stage with
  | nil => exact inStep
  | cons operation rest ih => exact ih (perform_inStep inStep stage operation) _

theorem InStep.damaged (inStep : s.InStep fired) (found : s.viewports.get? id = some v) :
    v.pending.isSome ↔ v.damage.rects ≠ [] := by
  rw [(inStep.tidy id v found).waits, Damage.isEmpty]
  simp

theorem InStep.active (inStep : s.InStep []) (timer : TimerId) :
    s.timers.isActive timer ↔ ∃ id v, s.viewports.get? id = some v ∧ v.pending = some timer := by
  rw [← Timers.mem_ids]
  simpa only [waiting_eq_some, List.nil_append] using inStep.schedule.awaited timer

/-- There is something to wait for exactly while there is something to paint. -/
theorem InStep.due (inStep : s.InStep []) :
    s.untilNext.isSome ↔ ∃ id v, s.viewports.get? id = some v ∧ v.damage.rects ≠ [] := by
  rw [untilNext, Timers.untilNext_isSome]
  constructor
  · intro waited
    rcases waited with ⟨timer, running⟩
    rcases (inStep.active timer).mp running with ⟨id, v, found, pends⟩
    exact ⟨id, v, found, (inStep.damaged found).mp (by rw [pends]; rfl)⟩
  · intro damage
    rcases damage with ⟨id, v, found, dirty⟩
    rcases Option.isSome_iff_exists.mp ((inStep.damaged found).mpr dirty) with ⟨timer, pends⟩
    exact ⟨timer, (inStep.active timer).mpr ⟨id, v, found, pends⟩⟩

/-- Whatever has been asked of a screen, in whatever order: a viewport waits for a timer exactly
while it has damage, no two wait for the same one, the timers waited for are the active ones, and
the table of pending redraws maps each to the viewport that waits for it. So a redraw is due
exactly when there is damage, and no flush or firing of timers can fail. -/
theorem schedule_always (config : Config) (root : Tree) (stage : Stage δ)
    (operations : List (Operation δ)) :
    let s := (performAll (create config root, stage) operations).1
    (∀ id v, s.viewports.get? id = some v →
        v.id = id ∧ (v.pending.isSome ↔ v.damage.rects ≠ [])) ∧
      (∀ timer, s.timers.isActive timer ↔
        ∃ id v, s.viewports.get? id = some v ∧ v.pending = some timer) ∧
      (s.timers.queue.map (·.1)).Nodup ∧
      (∀ id other v w timer, s.viewports.get? id = some v → s.viewports.get? other = some w →
        v.pending = some timer → w.pending = some timer → id = other) ∧
      (∀ timer id, s.pending.get? timer = some id ↔
        ∃ v, s.viewports.get? id = some v ∧ v.pending = some timer) ∧
      (s.untilNext.isSome ↔ ∃ id v, s.viewports.get? id = some v ∧ v.damage.rects ≠ []) ∧
      (∀ now : Stage δ, ∃ next : Progress δ, s.flush now = .ok next) ∧
      ∀ (now : Stage δ) (instant : Nat), ∃ next : Progress δ,
        s.processTimers now instant = .ok next := by
  intro s
  have inStep : s.InStep [] := performAll_inStep (.create config root) stage operations
  have schedule := inStep.schedule
  refine ⟨?_, inStep.active, schedule.distinct, ?_, ?_, inStep.due, ?_, ?_⟩
  · exact fun id v found => ⟨inStep.named id v found, inStep.damaged found⟩
  · intro id other v w timer found there pends again
    exact schedule.owner_unique (waiting_eq_some.mpr ⟨v, found, pends⟩)
      (waiting_eq_some.mpr ⟨w, there, again⟩)
  · exact fun timer id => (schedule.owner timer id).trans waiting_eq_some
  · intro now
    rcases flush_turns inStep now with ⟨next, done, _⟩
    exact ⟨next, done⟩
  · intro now instant
    rcases processTimers_turns inStep now instant with ⟨next, done, _⟩
    exact ⟨next, done⟩

end Screen

end Compositing
