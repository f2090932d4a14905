import Mathlib.Data.List.MinMax
import Compositing.Proofs.Agenda
import Compositing.Proofs.Tables

/-! Timers that are kept twice: their deadlines under their ids, and a heap in which the next one is
found. A timer that is stopped leaves its entry in the heap, to be passed over when it comes up. -/

namespace Compositing

/-- Entries of which one of least deadline can be taken out. Which of several, is left open. -/
class Heap (H : Type) where
  empty : H
  push : TimerId × Nat → H → H
  pop? : H → Option ((TimerId × Nat) × H)
  entries : H → Multiset (TimerId × Nat)
  entries_empty : entries empty = 0
  entries_push : ∀ e heap, entries (push e heap) = e ::ₘ entries heap
  entries_of_none : ∀ {heap}, pop? heap = none → entries heap = 0
  entries_of_pop : ∀ {heap e rest}, pop? heap = some (e, rest) → entries heap = e ::ₘ entries rest
  least : ∀ {heap e rest}, pop? heap = some (e, rest) → ∀ other ∈ entries rest, e.2 ≤ other.2

/-- Entries in no order, searched for the least when one is taken out. -/
instance : Heap (List (TimerId × Nat)) where
  empty := []
  push := List.cons
  pop? entries := (entries.argmin Prod.snd).map fun e => (e, entries.erase e)
  entries := Multiset.ofList
  entries_empty := rfl
  entries_push _ _ := rfl
  entries_of_none none := by
    rw [Option.map_eq_none_iff, List.argmin_eq_none] at none
    rw [none]
    rfl
  entries_of_pop {entries e rest} popped := by
    rcases Option.map_eq_some_iff.mp popped with ⟨found, least, same⟩
    cases same
    exact Multiset.coe_eq_coe.mpr (List.perm_cons_erase (List.argmin_mem least))
  least {entries e rest} popped other member := by
    rcases Option.map_eq_some_iff.mp popped with ⟨found, least, same⟩
    cases same
    exact List.le_of_mem_argmin (List.mem_of_mem_erase member) least

namespace Heap

variable {H : Type} [Heap H] {heap rest : H} {e : TimerId × Nat}
  (popped : Heap.pop? heap = some (e, rest))

include popped

theorem mem_of_pop : e ∈ Heap.entries heap := by
  rw [Heap.entries_of_pop popped]
  exact Multiset.mem_cons_self e _

theorem card_lt : (Heap.entries rest).card < (Heap.entries heap).card := by
  rw [Heap.entries_of_pop popped, Multiset.card_cons]
  exact Nat.lt_succ_self _

end Heap

structure LazyTimers (H : Type) [Heap H] where
  now : Nat := 0
  deadlines : Registry .timer Nat := {}
  heap : H := Heap.empty

namespace LazyTimers

open Timers (Operation Response trace)

variable {H : Type} [Heap H]

def discardStale (deadlines : Registry .timer Nat) (heap : H) : H :=
  match _ : Heap.pop? heap with
  | none => heap
  | some (e, rest) =>
      if (deadlines.get? e.1).isSome then heap else discardStale deadlines rest
termination_by (Heap.entries heap).card
decreasing_by exact Heap.card_lt ‹_›

def fireDue (instant : Nat) (deadlines : Registry .timer Nat) (heap : H) :
    List TimerId × Registry .timer Nat × H :=
  match _ : Heap.pop? heap with
  | none => ([], deadlines, heap)
  | some (e, rest) =>
      if instant < e.2 then ([], deadlines, heap)
      else if deadlines.get? e.1 = some e.2 then
        let last := fireDue instant (deadlines.remove e.1) rest
        (e.1 :: last.1, last.2)
      else fireDue instant deadlines rest
termination_by (Heap.entries heap).card
decreasing_by all_goals exact Heap.card_lt ‹_›

def perform (t : LazyTimers H) : Operation → LazyTimers H × Response
  | .start delay =>
      let due := t.now + delay
      let id := t.deadlines.nextKey
      ({ t with deadlines := t.deadlines.add due, heap := Heap.push (id, due) t.heap }, .started id)
  | .stop id =>
      match t.deadlines.get? id with
      | some _ => ({ t with deadlines := t.deadlines.remove id }, .stopped (.ok ()))
      | none => (t, .stopped (.error .inactive))
  | .isActive id => (t, .active (t.deadlines.get? id).isSome)
  | .activeCount => (t, .count t.deadlines.count)
  | .untilNext =>
      let heap := discardStale t.deadlines t.heap
      ({ t with heap }, .wait ((Heap.pop? heap).map fun popped => popped.1.2 - t.now))
  | .expire instant =>
      let last := fireDue instant t.deadlines t.heap
      ({ t with deadlines := last.2.1, heap := last.2.2 }, .fired last.1)
  | .advance ticks => ({ t with now := t.now + ticks }, .done)

/-- Every active timer has its entry in the heap, and no timer has two. -/
structure Linked (deadlines : Registry .timer Nat) (heap : H) : Prop where
  backed : ∀ id due, deadlines.get? id = some due → (id, due) ∈ Heap.entries heap
  once : ((Heap.entries heap).map Prod.fst).Nodup
  known : ∀ e ∈ Heap.entries heap, e.1.index < deadlines.slots.length

section Linked

variable {deadlines : Registry .timer Nat} {heap rest : H} {e : TimerId × Nat}

theorem Linked.empty : Linked {} (Heap.empty : H) where
  backed _ _ found := by cases found
  once := by
    rw [Heap.entries_empty]
    exact Multiset.nodup_zero
  known e member := by
    rw [Heap.entries_empty] at member
    cases member

variable (linked : Linked deadlines heap)

include linked

/-- The entry of an active timer has its deadline, so either sign of a stale entry tells the
same: that its timer is not active, and that the timer has not this deadline. -/
theorem Linked.active_iff (member : e ∈ Heap.entries heap) :
    (deadlines.get? e.1).isSome ↔ deadlines.get? e.1 = some e.2 := by
  constructor
  · intro active
    rcases Option.isSome_iff_exists.mp active with ⟨due, found⟩
    have own := linked.backed e.1 due found
    have same : (e.1, due) = e := Multiset.inj_on_of_nodup_map linked.once _ own _ member rfl
    rw [found, ← same]
  · intro found
    rw [found]
    rfl

theorem Linked.index_lt {id : TimerId} {due : Nat} (found : deadlines.get? id = some due) :
    id.index < deadlines.slots.length :=
  linked.known _ (linked.backed id due found)

theorem Linked.add (due : Nat) :
    Linked (deadlines.add due) (Heap.push (deadlines.nextKey, due) heap) where
  backed id later found := by
    rw [Heap.entries_push, Multiset.mem_cons]
    by_cases new : id = deadlines.nextKey
    · subst new
      rw [Registry.get?_add_next] at found
      cases found
      exact .inl rfl
    · rw [deadlines.get?_add_other due new] at found
      exact .inr (linked.backed id later found)
  once := by
    rw [Heap.entries_push, Multiset.map_cons, Multiset.nodup_cons]
    refine ⟨?_, linked.once⟩
    intro old
    rcases Multiset.mem_map.mp old with ⟨f, member, own⟩
    have known := linked.known f member
    rw [own] at known
    exact Nat.lt_irrefl _ known
  known f member := by
    rw [Heap.entries_push, Multiset.mem_cons] at member
    rw [Registry.add, List.length_append, List.length_singleton]
    rcases member with rfl | old
    · exact Nat.lt_succ_self _
    · exact Nat.lt_succ_of_lt (linked.known f old)

theorem Linked.remove (id : TimerId) : Linked (deadlines.remove id) heap where
  backed other due found := by
    rw [Registry.get?_remove] at found
    split at found
    · cases found
    · exact linked.backed other due found
  once := linked.once
  known f member := by
    rw [Registry.remove, List.length_set]
    exact linked.known f member

theorem Linked.pop (popped : Heap.pop? heap = some (e, rest)) (idle : deadlines.get? e.1 = none) :
    Linked deadlines rest where
  backed id due found := by
    have member := linked.backed id due found
    rw [Heap.entries_of_pop popped, Multiset.mem_cons] at member
    rcases member with rfl | behind
    · rw [found] at idle
      cases idle
    · exact behind
  once := by
    have once := linked.once
    rw [Heap.entries_of_pop popped, Multiset.map_cons, Multiset.nodup_cons] at once
    exact once.2
  known f member := by
    apply linked.known f
    rw [Heap.entries_of_pop popped]
    exact Multiset.mem_cons_of_mem member

theorem Linked.least_of_pop (popped : Heap.pop? heap = some (e, rest)) {id : TimerId} {due : Nat}
    (found : deadlines.get? id = some due) : e.2 ≤ due := by
  have member := linked.backed id due found
  rw [Heap.entries_of_pop popped, Multiset.mem_cons] at member
  rcases member with rfl | behind
  · exact Nat.le_refl _
  · exact Heap.least popped _ behind

end Linked

theorem discardStale_linked {deadlines : Registry .timer Nat} {heap : H}
    (linked : Linked deadlines heap) :
    Linked deadlines (discardStale deadlines heap) ∧
      ∀ e rest, Heap.pop? (discardStale deadlines heap) = some (e, rest) →
        deadlines.get? e.1 = some e.2 := by
  fun_induction discardStale deadlines heap with
  | case1 heap none =>
      refine ⟨linked, ?_⟩
      intro e rest popped
      rw [none] at popped
      cases popped
  | case2 heap e rest popped active =>
      refine ⟨linked, ?_⟩
      intro f last again
      rw [popped] at again
      cases again
      exact (linked.active_iff (Heap.mem_of_pop popped)).mp active
  | case3 heap e rest popped idle ih =>
      exact ih (linked.pop popped (by simpa using idle))

structure Fires (instant : Nat) (deadlines : Registry .timer Nat) (entries : List (TimerId × Nat))
    (after : Registry .timer Nat) : Prop where
  once : (entries.map (·.1)).Nodup
  sorted : entries.Pairwise fun e f => e.2 ≤ f.2
  due : ∀ e, e ∈ entries ↔ deadlines.get? e.1 = some e.2 ∧ e.2 ≤ instant
  stays : ∀ e : TimerId × Nat,
    after.get? e.1 = some e.2 ↔ deadlines.get? e.1 = some e.2 ∧ instant < e.2
  started : after.slots.length = deadlines.slots.length

section Fires

variable {instant : Nat} {deadlines after : Registry .timer Nat} {entries : List (TimerId × Nat)}

theorem Fires.nothing (late : ∀ id due, deadlines.get? id = some due → instant < due) :
    Fires instant deadlines [] deadlines where
  once := List.nodup_nil
  sorted := .nil
  due e := by
    simp only [List.not_mem_nil, false_iff, not_and, Nat.not_le]
    exact late e.1 e.2
  stays e := (and_iff_left_of_imp (late e.1 e.2)).symm
  started := rfl

theorem Fires.cons {e : TimerId × Nat}
    (fires : Fires instant (deadlines.remove e.1) entries after)
    (active : deadlines.get? e.1 = some e.2) (low : e.2 ≤ instant)
    (least : ∀ id due, deadlines.get? id = some due → e.2 ≤ due) :
    Fires instant deadlines (e :: entries) after where
  once := by
    rw [List.map_cons, List.nodup_cons]
    refine ⟨?_, fires.once⟩
    intro again
    rcases List.mem_map.mp again with ⟨f, member, own⟩
    have held := ((fires.due f).mp member).1
    simp [own] at held
  sorted := by
    rw [List.pairwise_cons]
    refine ⟨?_, fires.sorted⟩
    intro f member
    have held := ((fires.due f).mp member).1
    rw [Registry.get?_remove] at held
    split at held
    · cases held
    · exact least f.1 f.2 held
  due f := by
    rw [List.mem_cons, fires.due, Registry.get?_remove]
    by_cases own : f.1 = e.1
    · have same : f = e ↔ e.2 = f.2 := by
        rw [Prod.ext_iff, and_iff_right own, eq_comm]
      rw [if_pos own, own, active, same, Option.some.injEq]
      simp only [reduceCtorEq, false_and, or_false]
      omega
    · have apart : f ≠ e := fun same => own (congrArg Prod.fst same)
      rw [if_neg own]
      simp [apart]
  stays f := by
    rw [fires.stays, Registry.get?_remove]
    by_cases own : f.1 = e.1
    · rw [if_pos own, own, active, Option.some.injEq]
      simp only [reduceCtorEq, false_and, false_iff]
      omega
    · rw [if_neg own]
  started := by
    rw [fires.started, Registry.remove, List.length_set]

end Fires

theorem fireDue_fires (instant : Nat) {deadlines : Registry .timer Nat} {heap : H}
    (linked : Linked deadlines heap) :
    ∃ entries, (fireDue instant deadlines heap).1 = entries.map (·.1) ∧
      Fires instant deadlines entries (fireDue instant deadlines heap).2.1 ∧
      Linked (fireDue instant deadlines heap).2.1 (fireDue instant deadlines heap).2.2 := by
  fun_induction fireDue instant deadlines heap with
  | case1 deadlines heap none =>
      refine ⟨[], rfl, .nothing ?_, linked⟩
      intro id due found
      have member := linked.backed id due found
      rw [Heap.entries_of_none none] at member
      cases member
  | case2 deadlines heap e rest popped late =>
      refine ⟨[], rfl, .nothing ?_, linked⟩
      intro id due found
      exact Nat.lt_of_lt_of_le late (linked.least_of_pop popped found)
  | case3 deadlines heap e rest popped low active last ih =>
      have gone : Linked (deadlines.remove e.1) rest :=
        (linked.remove e.1).pop popped (deadlines.get?_remove_self e.1)
      rcases ih gone with ⟨entries, ids, fires, kept⟩
      have first := fires.cons active (Nat.le_of_not_lt low) fun id due found =>
        linked.least_of_pop popped found
      exact ⟨e :: entries, congrArg (e.1 :: ·) ids, first, kept⟩
  | case4 deadlines heap e rest popped low stale ih =>
      have idle : deadlines.get? e.1 = none := by
        rw [← linked.active_iff (Heap.mem_of_pop popped)] at stale
        simpa using stale
      exact ih (linked.pop popped idle)

section Perform

variable {t : LazyTimers H} {m : Agenda} (linked : Linked t.deadlines t.heap)
  (reads : m.Reads t.now t.deadlines.slots.length fun e => t.deadlines.get? e.1 = some e.2)

include linked reads

theorem perform_allowed (operation : Operation) :
    ∃ after, m.Step operation (t.perform operation).2 after ∧
      Linked (t.perform operation).1.deadlines (t.perform operation).1.heap ∧
      after.Reads (t.perform operation).1.now (t.perform operation).1.deadlines.slots.length
        fun e => (t.perform operation).1.deadlines.get? e.1 = some e.2 := by
  cases operation with
  | start delay =>
      have enters (e : TimerId × Nat) :
          (t.deadlines.add (t.now + delay)).get? e.1 = some e.2 ↔
            e = (t.deadlines.nextKey, t.now + delay) ∨ t.deadlines.get? e.1 = some e.2 := by
        by_cases new : e.1 = t.deadlines.nextKey
        · simp [new, Prod.ext_iff, eq_comm]
        · have apart : e ≠ (t.deadlines.nextKey, t.now + delay) :=
            fun same => new (congrArg Prod.fst same)
          simp [new, apart]
      have count : (t.deadlines.add (t.now + delay)).slots.length =
          t.deadlines.slots.length + 1 := by
        rw [Registry.add, List.length_append, List.length_singleton]
      rcases reads.start delay enters fun e found => linked.index_lt found with
        ⟨after, step, kept⟩
      rw [← count] at kept
      exact ⟨after, step, linked.add _, kept⟩
  | stop id =>
      rw [perform]
      cases found : t.deadlines.get? id with
      | none =>
          have idle (due : Nat) : ¬ t.deadlines.get? id = some due := by simp [found]
          exact ⟨m, reads.refuse idle, linked, reads⟩
      | some due =>
          have leaves (e : TimerId × Nat) : (t.deadlines.remove id).get? e.1 = some e.2 ↔
              e.1 ≠ id ∧ t.deadlines.get? e.1 = some e.2 := by
            rw [Registry.get?_remove]
            split <;> simp [*]
          have count : (t.deadlines.remove id).slots.length = t.deadlines.slots.length :=
            List.length_set
          rcases reads.stop found leaves with ⟨after, step, kept⟩
          rw [← count] at kept
          exact ⟨after, step, linked.remove id, kept⟩
  | isActive id => exact ⟨m, reads.isActive Option.isSome_iff_exists, linked, reads⟩
  | activeCount =>
      have counted := reads.activeCount t.deadlines.keys_nodup fun id => t.deadlines.mem_keys
      rw [← Registry.count_eq] at counted
      exact ⟨m, counted, linked, reads⟩
  | untilNext =>
      rcases discardStale_linked linked with ⟨kept, live⟩
      refine ⟨m, ?_, kept, reads⟩
      rw [perform]
      cases next : Heap.pop? (discardStale t.deadlines t.heap) with
      | none =>
          apply reads.idle
          intro e found
          have member := kept.backed e.1 e.2 found
          rw [Heap.entries_of_none next] at member
          cases member
      | some popped => exact reads.wait (live _ _ next) fun e found => kept.least_of_pop next found
  | expire instant =>
      rcases fireDue_fires instant linked with ⟨entries, ids, fires, left⟩
      rcases reads.expire fires.once fires.sorted fires.due fires.stays with ⟨after, step, kept⟩
      rw [← fires.started] at kept
      rw [← ids] at step
      exact ⟨after, step, left, kept⟩
  | advance ticks =>
      rcases reads.advance ticks with ⟨after, step, kept⟩
      exact ⟨after, step, linked, kept⟩

end Perform

theorem explained (operations : List Operation) :
    Agenda.Explains {} (trace perform ({} : LazyTimers H) operations) := by
  have step (m : Agenda) (t : LazyTimers H) (operation : Operation)
      (fits : Linked t.deadlines t.heap ∧
        m.Reads t.now t.deadlines.slots.length fun e => t.deadlines.get? e.1 = some e.2) :=
    perform_allowed fits.1 fits.2 operation
  exact Agenda.explains_trace step ⟨.empty, .empty (by simp [Registry.get?])⟩ operations

end LazyTimers

namespace Timers

/-- Whatever is asked, at whatever instants: timers in a queue that is kept in order, and timers
in a heap with the entries of those stopped, answer as a finite map from ids to deadlines would.
A timer that was stopped or reported is not reported again. -/
theorem refine_map (H : Type) [Heap H] (operations : List Operation) :
    let queued := trace perform {} operations
    let lazy := trace LazyTimers.perform ({} : LazyTimers H) operations
    (Agenda.Explains {} queued ∧ queued.gone.Nodup) ∧
      Agenda.Explains {} lazy ∧ lazy.gone.Nodup := by
  intro queued lazy
  have known : ({} : Agenda).Known := fun id inside => (Finmap.notMem_empty inside).elim
  have first : Agenda.Explains {} queued := explained operations
  have second : Agenda.Explains {} lazy := LazyTimers.explained operations
  exact ⟨⟨first, (first.gone_nodup known).1⟩, second, (second.gone_nodup known).1⟩

end Timers

end Compositing
