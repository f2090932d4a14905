import Compositing.Proofs.Agenda
import Compositing.Proofs.Redraws

/-! Redraws in rounds. A flush and firing timers both paint viewports from a list, one after the
other: a flush those with damage, firing timers those whose timers are due, first due first. -/

namespace Compositing

def Viewport.cleared (v : Viewport) : Viewport := { v with pending := none, damage := {} }

namespace Timers

variable {t : Timers}

def InTime (t : Timers) (first later : Option TimerId) : Prop :=
  ∀ e f x y, first = some e → later = some f → (e, x) ∈ t.queue → (f, y) ∈ t.queue → x ≤ y

theorem dueBy_inTime (ordered : t.Ordered) (instant : Nat) :
    ((t.dueBy instant).map some).Pairwise t.InTime := by
  -- A timer is queued once, so its deadline is that of its entry.
  have deadline : ∀ {e : TimerId × Nat} {x}, e ∈ t.queue → (e.1, x) ∈ t.queue → x = e.2 := by
    intro e x queued again
    rw [← List.inj_on_of_nodup_map ordered.once again queued rfl]
  have taken := List.takeWhile_sublist (l := t.queue) fun e => decide (e.2 ≤ instant)
  rw [dueBy, List.map_map, List.pairwise_map]
  apply (ordered.sorted.sublist taken).imp_of_mem
  intro e f first later sorted _ _ x y here there queued queued'
  cases here
  cases there
  rw [deadline (taken.subset first) queued, deadline (taken.subset later) queued']
  exact sorted

end Timers

namespace Screen

variable {δ : Type} [Output δ] {s : Screen} {stage : Stage δ} {reports : Reports} {v w : Viewport}
  {vs : List Viewport} {fired : List TimerId} {id : ViewportId}

section Painted

theorem get?_painted (s : Screen) (apart : id ≠ v.id) :
    (s.painted v).viewports.get? id = s.viewports.get? id := s.viewports.get?_set_other apart _

theorem get?_painted_self (found : s.viewports.get? v.id = some v) :
    (s.painted v).viewports.get? v.id = some v.cleared := Registry.get?_set_self found _

theorem painted_of_clean (inStep : s.InStep fired) (found : s.viewports.get? v.id = some v)
    (clean : v.damage.isEmpty = true) : s.painted v = s := by
  have idle : v.pending = none := by
    have waits := (inStep.tidy v.id v found).waits
    rw [clean] at waits
    simpa using waits
  have same : ({ v with pending := none, damage := {} } : Viewport) = v := by
    rw [← idle, ← Damage.eq_empty clean]
  simp [painted, same, idle, unlist, Registry.set_held found]

theorem paintedAll_timers (s : Screen)
    (stopped : ∀ v ∈ vs, ∀ timer ∈ v.pending, ¬ s.timers.isActive timer) :
    (vs.foldl painted s).timers = s.timers := by
  induction vs generalizing s with
  | nil => rfl
  | cons v rest ih =>
      rcases List.forall_mem_cons.mp stopped with ⟨here, later⟩
      have same : (s.painted v).timers = s.timers := by
        rw [painted]
        cases pends : v.pending with
        | none => simp
        | some timer => exact s.timers.drop_of_idle (here timer pends)
      rw [List.foldl_cons, ih _ (by rw [same]; exact later), same]

theorem paintedAll_frame (s : Screen) (vs : List Viewport) :
    (vs.foldl painted s).root = s.root ∧ (vs.foldl painted s).studio = s.studio ∧
      (vs.foldl painted s).desktop = s.desktop := by
  induction vs generalizing s with
  | nil => exact ⟨rfl, rfl, rfl⟩
  | cons v rest ih => exact ih (s.painted v)

theorem get?_paintedAll_other (s : Screen) (apart : ∀ v ∈ vs, v.id ≠ id) :
    (vs.foldl painted s).viewports.get? id = s.viewports.get? id := by
  induction vs generalizing s with
  | nil => rfl
  | cons v rest ih =>
      rcases List.forall_mem_cons.mp apart with ⟨here, later⟩
      rw [List.foldl_cons, ih _ later, get?_painted s here.symm]

theorem get?_paintedAll (found : ∀ v ∈ vs, s.viewports.get? v.id = some v)
    (distinct : (vs.map (·.id)).Nodup) (member : v ∈ vs) :
    (vs.foldl painted s).viewports.get? v.id = some v.cleared := by
  induction vs generalizing s with
  | nil => cases member
  | cons w rest ih =>
      rcases List.forall_mem_cons.mp found with ⟨here, later⟩
      rcases List.nodup_cons.mp distinct with ⟨alone, distinct⟩
      have apart : ∀ other ∈ rest, other.id ≠ w.id := fun other member same =>
        alone (List.mem_map.mpr ⟨other, member, same⟩)
      rcases List.mem_cons.mp member with rfl | member
      · rw [List.foldl_cons, get?_paintedAll_other _ apart, get?_painted_self here]
      · refine ih ?_ distinct member
        intro other listed
        rw [get?_painted s (apart other listed)]
        exact later other listed

end Painted

section Flush

def dirty (s : Screen) (keys : List ViewportId) : List Viewport :=
  (keys.filterMap s.viewports.get?).filter fun v => !v.damage.isEmpty

theorem mem_dirty (inStep : s.InStep fired) :
    v ∈ s.dirty s.viewports.keys ↔
      s.viewports.get? v.id = some v ∧ v.damage.isEmpty = false := by
  simp only [dirty, List.mem_filter, List.mem_filterMap, Bool.not_eq_true']
  constructor
  · intro listed
    rcases listed with ⟨⟨id, _, found⟩, damaged⟩
    rw [inStep.named id v found]
    exact ⟨found, damaged⟩
  · intro shown
    exact ⟨⟨v.id, s.viewports.mem_keys.mpr ⟨v, shown.1⟩, shown.1⟩, shown.2⟩

theorem flushAll (inStep : s.InStep []) (keys : List ViewportId) (distinct : keys.Nodup) :
    keys.foldlM flushViewport (s, stage, reports) =
      .ok ((s.dirty keys).foldl painted s,
        (s.dirty keys).foldl (paintInto s.root s.studio) (stage, reports)) := by
  induction keys generalizing s stage reports with
  | nil => rfl
  | cons id rest ih =>
      rcases List.nodup_cons.mp distinct with ⟨alone, others⟩
      rw [List.foldlM_cons]
      cases found : s.viewports.get? id with
      | none =>
          rw [flushViewport_absent found]
          have skipped : s.dirty (id :: rest) = s.dirty rest := by
            rw [dirty, List.filterMap_cons_none found, dirty]
          rw [skipped]
          exact ih inStep others
      | some v =>
          have own := inStep.named id v found
          subst own
          rw [flushViewport_eq found]
          have listed : s.dirty (v.id :: rest) =
              if v.damage.isEmpty then s.dirty rest else v :: s.dirty rest := by
            rw [dirty, List.filterMap_cons_some found, List.filter_cons, dirty]
            cases v.damage.isEmpty <;> rfl
          -- The viewports still to come are stored as they were.
          have later : (s.painted v).dirty rest = s.dirty rest := by
            have same : rest.filterMap (s.painted v).viewports.get? =
                rest.filterMap s.viewports.get? := by
              apply List.filterMap_congr
              intro other member
              exact get?_painted s fun same => alone (same ▸ member)
            rw [dirty, same, dirty]
          rw [listed]
          cases damaged : v.damage.isEmpty with
          | true =>
              rw [painted_of_clean inStep found damaged]
              exact ih inStep others
          | false =>
              rw [← later]
              exact ih (inStep.painted found) others

theorem flush_eq (inStep : s.InStep []) (stage : Stage δ) :
    s.flush stage = .ok ((s.dirty s.viewports.keys).foldl painted s,
      (s.dirty s.viewports.keys).foldl (paintInto s.root s.studio) (stage, [])) :=
  flushAll inStep s.viewports.keys s.viewports.keys_nodup

end Flush

section Timers

def awaiting (s : Screen) (timers : List TimerId) : List Viewport :=
  timers.filterMap fun timer => (s.pending.get? timer).bind s.viewports.get?

theorem awaiting_eq (inStep : s.InStep fired) {timer : TimerId}
    (member : timer ∈ fired ++ s.timers.ids) :
    ∃ v, (s.pending.get? timer).bind s.viewports.get? = some v ∧
      s.viewports.get? v.id = some v ∧ v.pending = some timer := by
  rcases (inStep.schedule.awaited timer).mp member with ⟨id, waits⟩
  rcases waiting_eq_some.mp waits with ⟨v, found, pends⟩
  refine ⟨v, ?_, ?_, pends⟩
  · rw [(inStep.schedule.owner timer id).mpr waits, Option.bind_some, found]
  · rw [inStep.named id v found, found]

theorem mem_awaiting (inStep : s.InStep fired) {timers : List TimerId}
    (owed : ∀ timer ∈ timers, timer ∈ fired ++ s.timers.ids) :
    v ∈ s.awaiting timers ↔
      s.viewports.get? v.id = some v ∧ ∃ timer ∈ timers, v.pending = some timer := by
  simp only [awaiting, List.mem_filterMap]
  constructor
  · intro listed
    rcases listed with ⟨timer, member, here⟩
    rcases awaiting_eq inStep (owed timer member) with ⟨w, there, found, pends⟩
    rw [here] at there
    cases there
    exact ⟨found, timer, member, pends⟩
  · intro shown
    rcases shown with ⟨found, timer, member, pends⟩
    refine ⟨timer, member, ?_⟩
    have waits := waiting_eq_some.mpr ⟨v, found, pends⟩
    rw [(inStep.schedule.owner timer v.id).mpr waits, Option.bind_some, found]

/-- Each timer is awaited by one viewport, in the same order. -/
theorem awaiting_pending (inStep : s.InStep fired) {timers : List TimerId}
    (owed : ∀ timer ∈ timers, timer ∈ fired ++ s.timers.ids) :
    (s.awaiting timers).map (·.pending) = timers.map some := by
  rw [awaiting, List.map_filterMap, ← List.filterMap_eq_map]
  apply List.filterMap_congr
  intro timer member
  rcases awaiting_eq inStep (owed timer member) with ⟨v, there, _, pends⟩
  rw [there, Option.map_some, pends]
  rfl

theorem answerAll (inStep : s.InStep fired) (found : ∀ v ∈ vs, s.viewports.get? v.id = some v)
    (waits : vs.map (·.pending) = fired.map some) :
    fired.foldlM answerTimer (s, stage, reports) =
      .ok (vs.foldl painted s, vs.foldl (paintInto s.root s.studio) (stage, reports)) := by
  induction fired generalizing s stage reports vs with
  | nil =>
      cases List.map_eq_nil_iff.mp waits
      rfl
  | cons timer rest ih =>
      rcases vs with _ | ⟨v, ws⟩
      · cases waits
      · rcases List.cons_eq_cons.mp waits with ⟨pends, waits⟩
        have pends : v.pending = some timer := pends
        rcases List.forall_mem_cons.mp found with ⟨here, later⟩
        have owner := (inStep.schedule.owner timer v.id).mpr (waiting_eq_some.mpr ⟨v, here, pends⟩)
        -- The timers differ, so the viewports still to come are stored as they were.
        have alone : timer ∉ rest ++ s.timers.ids :=
          (List.nodup_cons.mp inStep.schedule.distinct).1
        have stored : ∀ w ∈ ws, (s.painted v).viewports.get? w.id = some w := by
          intro w member
          have apart : w.id ≠ v.id := by
            intro same
            have twice : some w = some v := by rw [← later w member, same, here]
            have listed : w.pending ∈ rest.map some := waits ▸ List.mem_map_of_mem member
            rw [Option.some.inj twice, pends] at listed
            rcases List.mem_map.mp listed with ⟨other, member, same⟩
            exact alone (List.mem_append_left _ (Option.some.inj same ▸ member))
          rw [get?_painted s apart]
          exact later w member
        have answered : (s.painted v).InStep rest := by
          rcases answerTimer_outcome (s, stage, reports) timer inStep with ⟨after, done, _, next⟩
          rw [answerTimer_eq owner here pends] at done
          cases done
          exact next
        rw [List.foldlM_cons, answerTimer_eq owner here pends]
        exact ih answered stored waits

def dueBy (s : Screen) (instant : Nat) : List Viewport := s.awaiting (s.timers.dueBy instant)

theorem dueBy_owed (s : Screen) (instant : Nat) :
    ∀ timer ∈ s.timers.dueBy instant, timer ∈ [] ++ s.timers.ids := by
  intro timer member
  rw [List.nil_append, ← s.timers.ids_expire instant]
  exact List.mem_append_left _ member

theorem processTimers_eq (inStep : s.InStep []) (stage : Stage δ) (instant : Nat) :
    s.processTimers stage instant =
      .ok ((s.dueBy instant).foldl painted { s with timers := s.timers.expire instant },
        (s.dueBy instant).foldl (paintInto s.root s.studio) (stage, [])) := by
  have expired : ({ s with timers := s.timers.expire instant } : Screen).InStep
      (s.timers.dueBy instant) := ⟨inStep.tidy, inStep.schedule.expire instant⟩
  refine answerAll expired ?_ (awaiting_pending inStep (s.dueBy_owed instant))
  intro v member
  exact ((mem_awaiting inStep (s.dueBy_owed instant)).mp member).1

end Timers

section Ordered

theorem ordered_drop (ordered : s.timers.Ordered) (dropped : Option TimerId) :
    (s.timers.drop dropped).Ordered := ordered.sublist List.filter_sublist

theorem ordered_settle (ordered : s.timers.Ordered) (v : Viewport) (r : Rect) :
    (s.settle (v.invalidate s.timers r)).timers.Ordered := by
  cases filled : r.isEmpty with
  | true => rwa [Viewport.invalidate_of_empty s.timers filled]
  | false =>
      cases pends : v.pending with
      | none =>
          rw [Viewport.invalidate_of_idle s.timers filled pends]
          exact ordered.start v.delay
      | some timer => rwa [Viewport.invalidate_of_waiting s.timers filled pends]

theorem ordered_move {after : Screen} (ordered : s.timers.Ordered) (move : s.Move after) :
    after.timers.Ordered := by
  cases move with
  | elsewhere viewports queue started pending =>
      refine ⟨by rw [queue]; exact ordered.sorted, ?_, ?_⟩
      · rw [Timers.ids, queue]
        exact ordered.once
      · rw [queue, started]
        exact ordered.known
  | attach v fresh idle whole => exact ordered_settle ordered v v.bounds
  | damage v found bounds r whole => exact ordered_settle ordered _ r
  | remove v found => exact ordered_drop ordered v.pending

theorem ordered_moves {after : Screen} (ordered : s.timers.Ordered) (moves : s.Moves after) :
    after.timers.Ordered := by
  induction moves with
  | refl => exact ordered
  | tail _ last ih => exact ordered_move ih last

theorem ordered_outcome {before after : Progress δ} (ordered : before.1.timers.Ordered)
    (outcome : Outcome before after) : after.1.timers.Ordered := by
  cases outcome with
  | gone => exact ordered
  | undamaged v found clean => exact ordered_drop ordered v.pending
  | painted v found => exact ordered_drop ordered v.pending

theorem ordered_turns {start last : Progress δ} {turns : List (Turn δ)}
    (ordered : start.1.timers.Ordered) (follow : Turns start turns last) :
    last.1.timers.Ordered := by
  induction follow with
  | done progress => exact ordered
  | next outcome rest ih => exact ih (ordered_outcome ordered outcome)

theorem perform_ordered (inStep : s.InStep []) (ordered : s.timers.Ordered) (stage : Stage δ)
    (operation : Operation δ) : (perform (s, stage) operation).1.timers.Ordered := by
  cases still : operation.repaints with
  | false => exact ordered_moves ordered (perform_moves inStep.named stage operation still)
  | true =>
      cases operation with
      | processTimers instant =>
          rcases processTimers_turns inStep stage instant with ⟨last, done, _, follow⟩
          simp only [perform, done]
          exact ordered_turns (ordered.sublist (List.dropWhile_sublist _)) follow
      | flush =>
          rcases flush_turns inStep stage with ⟨last, done, _, follow⟩
          simp only [perform, done]
          exact ordered_turns ordered follow
      | _ => cases still

theorem performAll_ordered (inStep : s.InStep []) (ordered : s.timers.Ordered) (stage : Stage δ)
    (operations : List (Operation δ)) : (performAll (s, stage) operations).1.timers.Ordered := by
  induction operations generalizing s stage with
  | nil => exact ordered
  | cons operation rest ih =>
      exact ih (perform_inStep inStep stage operation)
        (perform_ordered inStep ordered stage operation) _

end Ordered

end Screen

end Compositing
