import Mathlib.Data.Finmap
import Compositing.Proofs.Schedule

/-! Timers as a finite map from ids to deadlines. The map says of every answer whether it may be
given; only the next id, and which of two timers of one deadline fires first, are left open. -/

namespace Compositing

namespace Timers

inductive Operation
  | start (delay : Nat)
  | stop (id : TimerId)
  | isActive (id : TimerId)
  | activeCount
  | untilNext
  | expire (instant : Nat)
  | advance (ticks : Nat)

inductive Response
  | done
  | started (id : TimerId)
  | stopped (outcome : Except TimerFault Unit)
  | active (yes : Bool)
  | count (n : Nat)
  | wait (ticks : Option Nat)
  | fired (ids : List TimerId)

abbrev Trace := List (Operation × Response)

def trace {σ : Type} (perform : σ → Operation → σ × Response) (s : σ) : List Operation → Trace
  | [] => []
  | operation :: rest =>
      (operation, (perform s operation).2) :: trace perform (perform s operation).1 rest

def Response.gone : Operation × Response → List TimerId
  | (.stop id, .stopped (.ok ())) => [id]
  | (_, .fired ids) => ids
  | _ => []

def Trace.gone (run : Trace) : List TimerId := run.flatMap Response.gone

def perform (t : Timers) : Operation → Timers × Response
  | .start delay => (t.start delay, .started t.nextId)
  | .stop id =>
      match t.stop id with
      | .ok after => (after, .stopped (.ok ()))
      | .error fault => (t, .stopped (.error fault))
  | .isActive id => (t, .active (t.isActive id))
  | .activeCount => (t, .count t.activeCount)
  | .untilNext => (t, .wait t.untilNext)
  | .expire instant => (t.expire instant, .fired (t.dueBy instant))
  | .advance ticks => (t.advance ticks, .done)

end Timers

open Timers (Operation Response Trace trace)

structure Agenda where
  now : Nat := 0
  /-- The deadlines of the timers that were started and have neither been stopped nor fired. -/
  deadlines : Finmap fun _ : TimerId => Nat := ∅
  issued : Finset TimerId := ∅

namespace Agenda

def insert (m : Agenda) (id : TimerId) (due : Nat) : Agenda :=
  { m with deadlines := m.deadlines.insert id due, issued := Insert.insert id m.issued }

def erase (m : Agenda) (ids : List TimerId) : Agenda :=
  { m with deadlines := ids.foldl (fun rest id => rest.erase id) m.deadlines }

inductive Step (m : Agenda) : Operation → Response → Agenda → Prop
  | start {delay : Nat} {id : TimerId} (fresh : id ∉ m.issued) :
      Step m (.start delay) (.started id) (m.insert id (m.now + delay))
  | stop {id : TimerId} (active : id ∈ m.deadlines) :
      Step m (.stop id) (.stopped (.ok ())) (m.erase [id])
  | refuse {id : TimerId} (idle : id ∉ m.deadlines) :
      Step m (.stop id) (.stopped (.error .inactive)) m
  | isActive {id : TimerId} : Step m (.isActive id) (.active (decide (id ∈ m.deadlines))) m
  | activeCount : Step m .activeCount (.count m.deadlines.keys.card) m
  | idle (empty : m.deadlines = ∅) : Step m .untilNext (.wait none) m
  | wait {id : TimerId} {due : Nat} (next : m.deadlines.lookup id = some due)
      (least : ∀ other later, m.deadlines.lookup other = some later → due ≤ later) :
      Step m .untilNext (.wait (some (due - m.now))) m
  | expire {instant : Nat} {fired : List TimerId} (once : fired.Nodup)
      (due : ∀ id, id ∈ fired ↔ ∃ due, m.deadlines.lookup id = some due ∧ due ≤ instant)
      (ordered : (fired.filterMap (m.deadlines.lookup ·)).Pairwise (· ≤ ·)) :
      Step m (.expire instant) (.fired fired) (m.erase fired)
  | advance {ticks : Nat} : Step m (.advance ticks) .done { m with now := m.now + ticks }

/-- The map accounts for every answer of a run. -/
def Explains (m : Agenda) : Trace → Prop
  | [] => True
  | (operation, answer) :: rest => ∃ after, m.Step operation answer after ∧ after.Explains rest

section Lookup

variable {m after : Agenda}

theorem lookup_insert {id other : TimerId} {due later : Nat} :
    (m.insert id due).deadlines.lookup other = some later ↔
      other = id ∧ later = due ∨ other ≠ id ∧ m.deadlines.lookup other = some later := by
  by_cases same : other = id
  · rw [insert, same, Finmap.lookup_insert]
    simp [eq_comm]
  · rw [insert, Finmap.lookup_insert_of_ne _ same]
    simp [same]

theorem lookup_erase {ids : List TimerId} {other : TimerId} {due : Nat} :
    (m.erase ids).deadlines.lookup other = some due ↔
      other ∉ ids ∧ m.deadlines.lookup other = some due := by
  have erased (deadlines : Finmap fun _ : TimerId => Nat) :
      (ids.foldl (fun rest id => rest.erase id) deadlines).lookup other =
        if other ∈ ids then none else deadlines.lookup other := by
    induction ids generalizing deadlines with
    | nil => simp
    | cons id rest ih =>
        rw [List.foldl_cons, ih]
        by_cases same : other = id
        · rw [same, Finmap.lookup_erase]
          simp
        · rw [Finmap.lookup_erase_ne same]
          simp [same]
  rw [erase, erased]
  split <;> simp [*]

theorem mem_insert {id other : TimerId} {due : Nat} :
    other ∈ (m.insert id due).deadlines ↔ other = id ∨ other ∈ m.deadlines :=
  Finmap.mem_insert

theorem mem_erase {ids : List TimerId} {other : TimerId} :
    other ∈ (m.erase ids).deadlines ↔ other ∉ ids ∧ other ∈ m.deadlines := by
  simp only [Finmap.mem_iff, lookup_erase, exists_and_left]

end Lookup

def Known (m : Agenda) : Prop := ∀ id ∈ m.deadlines, id ∈ m.issued

/-- What a step does to the timers of a map: those it takes out were in, each once, and what comes
in is new. -/
structure Passes (m : Agenda) (gone : List TimerId) (after : Agenda) : Prop where
  once : gone.Nodup
  were : ∀ id ∈ gone, id ∈ m.deadlines
  leave : ∀ id ∈ gone, id ∉ after.deadlines
  issued : m.issued ⊆ after.issued
  come : ∀ id ∈ after.deadlines, id ∈ m.deadlines ∨ id ∈ after.issued ∧ id ∉ m.issued

section Gone

variable {m after : Agenda}

theorem Passes.same (m : Agenda) : m.Passes [] m :=
  ⟨List.nodup_nil, by simp, by simp, fun _ => id, fun _ => .inl⟩

theorem Passes.erase {ids : List TimerId} (once : ids.Nodup) (were : ∀ id ∈ ids, id ∈ m.deadlines) :
    m.Passes ids (m.erase ids) where
  once := once
  were := were
  leave _ member stays := (mem_erase.mp stays).1 member
  issued _ := id
  come _ stays := .inl (mem_erase.mp stays).2

theorem Step.passes {operation : Operation} {answer : Response}
    (step : m.Step operation answer after) : m.Passes (Response.gone (operation, answer)) after := by
  cases step with
  | @start delay id fresh =>
      refine ⟨List.nodup_nil, by simp [Response.gone], by simp [Response.gone],
        Finset.subset_insert .., ?_⟩
      intro other inside
      rcases mem_insert.mp inside with rfl | old
      · exact .inr ⟨Finset.mem_insert_self .., fresh⟩
      · exact .inl old
  | @stop id active =>
      apply Passes.erase (List.nodup_singleton id)
      intro other member
      rw [List.mem_singleton.mp member]
      exact active
  | @expire instant fired once due ordered =>
      apply Passes.erase once
      intro id member
      rcases (due id).mp member with ⟨deadline, found, _⟩
      exact Finmap.mem_of_lookup_eq_some found
  | advance => exact ⟨List.nodup_nil, by simp [Response.gone], by simp [Response.gone], fun _ => id,
      fun _ => .inl⟩
  | _ => exact .same m

theorem Passes.known {gone : List TimerId} (passes : m.Passes gone after) (known : m.Known) :
    after.Known := by
  intro id inside
  rcases passes.come id inside with old | new
  · exact passes.issued (known id old)
  · exact new.1

/-- No timer is reported twice, or after it has been stopped. -/
theorem Explains.gone_nodup {run : Trace} (explains : m.Explains run) (known : m.Known) :
    run.gone.Nodup ∧ ∀ id ∈ run.gone, id ∈ m.deadlines ∨ id ∉ m.issued := by
  induction run generalizing m with
  | nil => exact ⟨List.nodup_nil, by simp [Trace.gone]⟩
  | cons entry rest ih =>
      rcases entry with ⟨operation, answer⟩
      rcases explains with ⟨after, step, explains⟩
      have passes := step.passes
      rcases ih explains (passes.known known) with ⟨once, later⟩
      constructor
      · apply List.nodup_append.mpr ⟨passes.once, once, ?_⟩
        rintro first now second follows rfl
        rcases later first follows with stays | unissued
        · exact passes.leave first now stays
        · exact unissued (passes.issued (known first (passes.were first now)))
      · intro id member
        rcases List.mem_append.mp member with now | follows
        · exact .inl (passes.were id now)
        · rcases later id follows with stays | unissued
          · exact (passes.come id stays).imp_right (·.2)
          · exact .inr fun issued => unissued (passes.issued issued)

end Gone

/-- A run is explained if each step is, by a map that then fits the state after it. -/
theorem explains_trace {σ : Type} {perform : σ → Operation → σ × Response} {fits : Agenda → σ → Prop}
    (step : ∀ m s operation, fits m s → ∃ after, m.Step operation (perform s operation).2 after ∧
      fits after (perform s operation).1) {m : Agenda} {s : σ} (fit : fits m s)
    (operations : List Operation) : m.Explains (trace perform s operations) := by
  induction operations generalizing m s with
  | nil => trivial
  | cons operation rest ih =>
      rcases step m s operation fit with ⟨after, stepped, kept⟩
      exact ⟨after, stepped, ih kept⟩

structure Reads (m : Agenda) (now started : Nat) (active : TimerId × Nat → Prop) : Prop where
  now : m.now = now
  issued : ∀ id : TimerId, id ∈ m.issued ↔ id.index < started
  lookup : ∀ id due, m.deadlines.lookup id = some due ↔ active (id, due)

namespace Reads

theorem empty {active : TimerId × Nat → Prop} (idle : ∀ e, ¬ active e) :
    ({} : Agenda).Reads 0 0 active where
  now := rfl
  issued := by simp
  lookup id due := by
    rw [Finmap.lookup_empty]
    simp [idle]

variable {m : Agenda} {now started : Nat} {active later : TimerId × Nat → Prop}
  (reads : m.Reads now started active)

include reads

theorem unique {id : TimerId} {first second : Nat} (one : active (id, first))
    (other : active (id, second)) : first = second := by
  rw [← reads.lookup] at one other
  exact Option.some.inj (one.symm.trans other)

theorem mem_iff (id : TimerId) : id ∈ m.deadlines ↔ ∃ due, active (id, due) := by
  simp only [Finmap.mem_iff, reads.lookup]

theorem start (delay : Nat)
    (enters : ∀ e, later e ↔ e = (⟨started⟩, now + delay) ∨ active e)
    (known : ∀ e, active e → e.1.index < started) :
    ∃ after, m.Step (.start delay) (.started ⟨started⟩) after ∧
      after.Reads now (started + 1) later := by
  have fresh : (⟨started⟩ : TimerId) ∉ m.issued := by
    rw [reads.issued]
    exact Nat.lt_irrefl started
  refine ⟨_, .start fresh, reads.now, ?_, ?_⟩
  · intro id
    rcases id with ⟨index⟩
    rw [insert, Finset.mem_insert, reads.issued, Key.mk.injEq]
    change index = started ∨ index < started ↔ index < started + 1
    omega
  · intro id due
    rw [lookup_insert, reads.lookup, enters, Prod.mk.injEq, reads.now]
    constructor
    · exact Or.imp_right (·.2)
    · intro entered
      rcases entered with new | old
      · exact .inl new
      · refine .inr ⟨?_, old⟩
        rintro rfl
        exact Nat.lt_irrefl _ (known _ old)

theorem stop {id : TimerId} {due : Nat} (there : active (id, due))
    (leaves : ∀ e, later e ↔ e.1 ≠ id ∧ active e) :
    ∃ after, m.Step (.stop id) (.stopped (.ok ())) after ∧ after.Reads now started later := by
  refine ⟨_, .stop ((reads.mem_iff id).mpr ⟨due, there⟩), reads.now, reads.issued, ?_⟩
  intro other deadline
  rw [lookup_erase, reads.lookup, leaves, List.mem_singleton]

theorem refuse {id : TimerId} (idle : ∀ due, ¬ active (id, due)) :
    m.Step (.stop id) (.stopped (.error .inactive)) m := by
  apply Step.refuse
  rw [reads.mem_iff]
  exact fun there => there.elim idle

theorem isActive {id : TimerId} {yes : Bool} (answers : yes = true ↔ ∃ due, active (id, due)) :
    m.Step (.isActive id) (.active yes) m := by
  have told : yes = decide (id ∈ m.deadlines) := by
    rw [Bool.eq_iff_iff, decide_eq_true_iff, reads.mem_iff, answers]
  rw [told]
  exact .isActive

theorem activeCount {ids : List TimerId} (once : ids.Nodup)
    (all : ∀ id, id ∈ ids ↔ ∃ due, active (id, due)) :
    m.Step .activeCount (.count ids.length) m := by
  have keys : m.deadlines.keys = ids.toFinset := by
    ext id
    rw [Finmap.mem_keys, reads.mem_iff, List.mem_toFinset, all]
  rw [← List.toFinset_card_of_nodup once, ← keys]
  exact .activeCount

theorem idle (none : ∀ e, ¬ active e) : m.Step .untilNext (.wait .none) m := by
  apply Step.idle
  apply Finmap.ext_lookup
  intro id
  rw [Finmap.lookup_empty, Finmap.lookup_eq_none, reads.mem_iff]
  exact fun there => there.elim fun due => none (id, due)

theorem wait {e : TimerId × Nat} (next : active e) (least : ∀ other, active other → e.2 ≤ other.2) :
    m.Step .untilNext (.wait (some (e.2 - now))) m := by
  rw [← reads.now]
  apply Step.wait ((reads.lookup e.1 e.2).mpr next)
  intro other deadline found
  exact least (other, deadline) ((reads.lookup other deadline).mp found)

theorem expire {instant : Nat} {entries : List (TimerId × Nat)}
    (once : (entries.map (·.1)).Nodup) (sorted : entries.Pairwise fun e f => e.2 ≤ f.2)
    (due : ∀ e, e ∈ entries ↔ active e ∧ e.2 ≤ instant)
    (stays : ∀ e, later e ↔ active e ∧ instant < e.2) :
    ∃ after, m.Step (.expire instant) (.fired (entries.map (·.1))) after ∧
      after.Reads now started later := by
  have fired (id : TimerId) :
      id ∈ entries.map (·.1) ↔ ∃ deadline, active (id, deadline) ∧ deadline ≤ instant := by
    simp only [List.mem_map, Prod.exists, exists_and_right, exists_eq_right, due]
  have deadlines : (entries.map (·.1)).filterMap (m.deadlines.lookup ·) = entries.map (·.2) := by
    rw [List.filterMap_map, ← List.filterMap_eq_map]
    apply List.filterMap_congr
    intro e member
    exact (reads.lookup e.1 e.2).mpr ((due e).mp member).1
  refine ⟨_, .expire once ?_ ?_, reads.now, reads.issued, ?_⟩
  · simp only [reads.lookup]
    exact fired
  · rw [deadlines]
    exact List.pairwise_map.mpr sorted
  · intro id deadline
    rw [lookup_erase, reads.lookup, stays, fired]
    constructor
    · intro kept
      exact ⟨kept.2, Nat.lt_of_not_le fun low => kept.1 ⟨deadline, kept.2, low⟩⟩
    · intro kept
      refine ⟨?_, kept.1⟩
      intro gone
      rcases gone with ⟨other, here, low⟩
      rw [reads.unique here kept.1] at low
      exact Nat.not_le_of_lt kept.2 low

theorem advance (ticks : Nat) :
    ∃ after, m.Step (.advance ticks) .done after ∧ after.Reads (now + ticks) started active :=
  ⟨_, .advance, congrArg (· + ticks) reads.now, reads.issued, reads.lookup⟩

end Reads

end Agenda

namespace Timers

structure Ordered (t : Timers) : Prop where
  sorted : t.queue.Pairwise fun e f => e.2 ≤ f.2
  once : t.ids.Nodup
  known : ∀ e ∈ t.queue, e.1.index < t.started

section Sorted

variable {queue : List (TimerId × Nat)} (sorted : queue.Pairwise fun e f => e.2 ≤ f.2) (due : Nat)

include sorted

theorem dropWhile_of_sorted : queue.dropWhile (·.2 ≤ due) = queue.filter (due < ·.2) := by
  induction sorted with
  | nil => rfl
  | @cons e rest least _ ih =>
      by_cases low : e.2 ≤ due
      · rw [List.dropWhile_cons_of_pos (by simpa using low), ih,
          List.filter_cons_of_neg (by simpa using low)]
      · have late : ∀ f ∈ e :: rest, due < f.2 := by
          intro f member
          rcases List.mem_cons.mp member with rfl | behind
          · exact Nat.lt_of_not_le low
          · exact (Nat.lt_of_not_le low).trans_le (least f behind)
        rw [List.dropWhile_cons_of_neg (by simpa using low)]
        exact (List.filter_eq_self.mpr fun f member => decide_eq_true (late f member)).symm

theorem takeWhile_of_sorted : queue.takeWhile (·.2 ≤ due) = queue.filter (·.2 ≤ due) := by
  induction sorted with
  | nil => rfl
  | @cons e rest least _ ih =>
      by_cases low : e.2 ≤ due
      · rw [List.takeWhile_cons_of_pos (by simpa using low), ih,
          List.filter_cons_of_pos (by simpa using low)]
      · rw [List.takeWhile_cons_of_neg (by simpa using low)]
        symm
        apply List.filter_eq_nil_iff.mpr
        intro f member
        rcases List.mem_cons.mp member with rfl | behind
        · simpa using low
        · have above := least f behind
          simp only [decide_eq_true_eq]
          omega

end Sorted

section Ordered

variable {t : Timers} (ordered : t.Ordered)

include ordered

theorem Ordered.start (delay : Nat) : (t.start delay).Ordered where
  sorted := by
    have entries : (t.start delay).queue = t.queue.filter (·.2 ≤ t.now + delay) ++
        (t.nextId, t.now + delay) :: t.queue.filter (t.now + delay < ·.2) := by
      rw [Timers.start, takeWhile_of_sorted ordered.sorted, dropWhile_of_sorted ordered.sorted]
    rw [entries, List.pairwise_append, List.pairwise_cons]
    refine ⟨ordered.sorted.filter _, ⟨?_, ordered.sorted.filter _⟩, ?_⟩
    · intro e late
      exact Nat.le_of_lt (by simpa using (List.mem_filter.mp late).2)
    · intro e early f behind
      have low : e.2 ≤ t.now + delay := by simpa using (List.mem_filter.mp early).2
      rcases List.mem_cons.mp behind with rfl | late
      · exact low
      · have high : t.now + delay < f.2 := by simpa using (List.mem_filter.mp late).2
        omega
  once := by
    rw [(t.ids_start delay).nodup_iff, List.nodup_cons]
    refine ⟨?_, ordered.once⟩
    intro old
    rcases List.mem_map.mp old with ⟨e, member, own⟩
    have known := ordered.known e member
    rw [own] at known
    exact Nat.lt_irrefl _ known
  known := by
    intro e member
    change e.1.index < t.started + 1
    rcases List.mem_cons.mp ((t.queue_start delay).mem_iff.mp member) with rfl | old
    · exact Nat.lt_succ_self _
    · exact Nat.lt_succ_of_lt (ordered.known e old)

theorem Ordered.sublist {queue : List (TimerId × Nat)} (fewer : queue.Sublist t.queue) :
    { t with queue }.Ordered where
  sorted := ordered.sorted.sublist fewer
  once := ordered.once.sublist (fewer.map _)
  known e member := ordered.known e (fewer.subset member)

variable {m : Agenda} (reads : m.Reads t.now t.started (· ∈ t.queue))

include reads

theorem perform_allowed (operation : Operation) :
    ∃ after, m.Step operation (t.perform operation).2 after ∧
      (t.perform operation).1.Ordered ∧
      after.Reads (t.perform operation).1.now (t.perform operation).1.started
        (· ∈ (t.perform operation).1.queue) := by
  have active (id : TimerId) : t.isActive id = true ↔ ∃ due, (id, due) ∈ t.queue := by
    simp [isActive]
  cases operation with
  | start delay =>
      rcases reads.start delay (fun e => (t.queue_start delay).mem_iff.trans List.mem_cons)
        ordered.known with ⟨after, step, kept⟩
      exact ⟨after, step, ordered.start delay, kept⟩
  | stop id =>
      rw [perform, Timers.stop]
      by_cases there : t.isActive id = true
      · rw [if_pos there]
        rcases (active id).mp there with ⟨due, member⟩
        have leaves (e : TimerId × Nat) :
            e ∈ t.queue.filter (·.1 ≠ id) ↔ e.1 ≠ id ∧ e ∈ t.queue := by
          simp [and_comm]
        rcases reads.stop member leaves with ⟨after, step, kept⟩
        exact ⟨after, step, ordered.sublist List.filter_sublist, kept⟩
      · rw [if_neg there]
        rw [active, not_exists] at there
        exact ⟨m, reads.refuse there, ordered, reads⟩
  | isActive id => exact ⟨m, reads.isActive (active id), ordered, reads⟩
  | activeCount =>
      have counted := reads.activeCount ordered.once fun id => by simp [ids]
      rw [ids, List.length_map] at counted
      exact ⟨m, counted, ordered, reads⟩
  | untilNext =>
      refine ⟨m, ?_, ordered, reads⟩
      have sorted := ordered.sorted
      rw [perform, untilNext]
      cases queue : t.queue with
      | nil => exact reads.idle (by simp [queue])
      | cons e rest =>
          rw [queue, List.pairwise_cons] at sorted
          apply reads.wait (e := e) (by simp [queue])
          intro other member
          rw [queue, List.mem_cons] at member
          rcases member with rfl | behind
          · exact Nat.le_refl _
          · exact sorted.1 other behind
  | expire instant =>
      rw [perform, dueBy, Timers.expire, takeWhile_of_sorted ordered.sorted,
        dropWhile_of_sorted ordered.sorted]
      have fewer : (t.queue.filter (·.2 ≤ instant)).Sublist t.queue := List.filter_sublist
      have due (e : TimerId × Nat) :
          e ∈ t.queue.filter (·.2 ≤ instant) ↔ e ∈ t.queue ∧ e.2 ≤ instant := by
        simp
      have stays (e : TimerId × Nat) :
          e ∈ t.queue.filter (instant < ·.2) ↔ e ∈ t.queue ∧ instant < e.2 := by
        simp
      rcases reads.expire (ordered.once.sublist (fewer.map _)) (ordered.sorted.sublist fewer)
        due stays with ⟨after, step, kept⟩
      exact ⟨after, step, ordered.sublist List.filter_sublist, kept⟩
  | advance ticks =>
      rcases reads.advance ticks with ⟨after, step, kept⟩
      exact ⟨after, step, ⟨ordered.sorted, ordered.once, ordered.known⟩, kept⟩

end Ordered

theorem explained (operations : List Operation) :
    Agenda.Explains {} (trace perform {} operations) := by
  have step (m : Agenda) (t : Timers) (operation : Operation)
      (fits : t.Ordered ∧ m.Reads t.now t.started (· ∈ t.queue)) :=
    perform_allowed fits.1 fits.2 operation
  have ordered : ({} : Timers).Ordered := ⟨.nil, List.nodup_nil, by simp⟩
  exact Agenda.explains_trace step ⟨ordered, .empty (by simp)⟩ operations

end Timers

end Compositing
