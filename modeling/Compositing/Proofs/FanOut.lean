import Compositing.Proofs.Pointer

/-! How damage spreads. A rectangle is added to the damage of just the viewports that share a point
with it, and a timer is started for each of them that had none; bounds that change become damage
themselves. -/

namespace Compositing

def Viewport.Shares (v : Viewport) (r : Rect) : Prop := ∃ p, p ∈ v.bounds ∧ p ∈ r

theorem Viewport.shares_iff {v : Viewport} {r : Rect} :
    v.Shares r ↔ (r.overlap v.bounds).isEmpty = false := by
  rw [← Bool.not_eq_true, Rect.overlap_isEmpty_iff_forall]
  simp only [Viewport.Shares, not_forall, not_not, exists_prop, and_comm]

namespace Screen

variable {δ : Type} [Output δ] {s : Screen} {v : Viewport} {r : Rect}

theorem damageViewport_of_waiting (filled : r.isEmpty = false) {timer : TimerId}
    (waits : v.pending = some timer) :
    s.damageViewport v r =
      { s with viewports := s.viewports.set v.id { v with damage := v.damage.add r } } := by
  rw [damageViewport, Viewport.invalidate_of_waiting s.timers filled waits, settle_none]

theorem damageViewport_of_idle (filled : r.isEmpty = false) (idle : v.pending = none) :
    s.damageViewport v r =
      { s with
        timers := s.timers.start v.delay
        pending := s.pending.insert s.timers.nextId v.id
        viewports := s.viewports.set v.id
          { v with damage := v.damage.add r, pending := some s.timers.nextId } } := by
  rw [damageViewport, Viewport.invalidate_of_idle s.timers filled idle, settle_some]

structure Spread (s : Screen) (r : Rect) (vs : List Viewport) (begun : List (Viewport × TimerId))
    (after : Screen) : Prop where
  idle : begun.map (·.1) = vs.filter (·.pending.isNone)
  fresh : ∀ e ∈ begun, s.timers.started ≤ e.2.index
  distinct : (begun.map (·.2)).Nodup
  queue : after.timers.queue.Perm
    (begun.map (fun e => (e.2, s.timers.now + e.1.delay)) ++ s.timers.queue)
  others : ∀ id, id ∉ vs.map (·.id) → after.viewports.get? id = s.viewports.get? id
  waiting : ∀ v ∈ vs, v.pending.isSome →
    after.viewports.get? v.id = some { v with damage := v.damage.add r }
  starts : ∀ e ∈ begun, after.viewports.get? e.1.id =
    some { e.1 with damage := e.1.damage.add r, pending := some e.2 }

theorem Spread.nil (s : Screen) (r : Rect) : Spread s r [] [] s :=
  ⟨rfl, by simp, by simp, .refl _, fun _ _ => rfl, by simp, by simp⟩

section Cons

variable {rest : List Viewport} {begun : List (Viewport × TimerId)} {after : Screen}
  (filled : r.isEmpty = false) (found : s.viewports.get? v.id = some v)
  (alone : v.id ∉ rest.map (·.id)) (spread : Spread (s.damageViewport v r) r rest begun after)

include filled found alone spread

theorem Spread.cons_waiting {timer : TimerId} (waits : v.pending = some timer) :
    Spread s r (v :: rest) begun after := by
  rw [damageViewport_of_waiting filled waits] at spread
  have here : after.viewports.get? v.id = some { v with damage := v.damage.add r } :=
    (spread.others v.id alone).trans (Registry.get?_set_self found _)
  constructor
  · simp [spread.idle, waits]
  · exact spread.fresh
  · exact spread.distinct
  · exact spread.queue
  · intro id absent
    rw [List.map_cons, List.mem_cons, not_or] at absent
    exact (spread.others id absent.2).trans (s.viewports.get?_set_other absent.1 _)
  · exact List.forall_mem_cons.mpr ⟨fun _ => here, spread.waiting⟩
  · exact spread.starts

theorem Spread.cons_idle (idle : v.pending = none) :
    Spread s r (v :: rest) ((v, s.timers.nextId) :: begun) after := by
  rw [damageViewport_of_idle filled idle] at spread
  have later : ∀ e ∈ begun, s.timers.started + 1 ≤ e.2.index := spread.fresh
  have here : after.viewports.get? v.id =
      some { v with damage := v.damage.add r, pending := some s.timers.nextId } :=
    (spread.others v.id alone).trans (Registry.get?_set_self found _)
  constructor
  · simp [spread.idle, idle]
  · refine List.forall_mem_cons.mpr ⟨Nat.le_refl s.timers.started, ?_⟩
    intro e member
    exact Nat.le_of_succ_le (later e member)
  · refine List.nodup_cons.mpr ⟨?_, spread.distinct⟩
    intro again
    rcases List.mem_map.mp again with ⟨e, member, same⟩
    have past := later e member
    rw [same] at past
    exact Nat.lt_irrefl _ past
  · have first := (s.timers.queue_start v.delay).append_left
      (begun.map fun e => (e.2, s.timers.now + e.1.delay))
    exact (spread.queue.trans first).trans List.perm_middle
  · intro id absent
    rw [List.map_cons, List.mem_cons, not_or] at absent
    exact (spread.others id absent.2).trans (s.viewports.get?_set_other absent.1 _)
  · refine List.forall_mem_cons.mpr ⟨?_, spread.waiting⟩
    rw [idle]
    nofun
  · exact List.forall_mem_cons.mpr ⟨here, spread.starts⟩

end Cons

theorem damageAll_spread {vs : List Viewport} (filled : vs ≠ [] → r.isEmpty = false)
    (found : ∀ v ∈ vs, s.viewports.get? v.id = some v) (distinct : (vs.map (·.id)).Nodup) :
    ∃ begun, Spread s r vs begun (vs.foldl (fun s v => s.damageViewport v r) s) := by
  induction vs generalizing s with
  | nil => exact ⟨[], .nil s r⟩
  | cons v rest ih =>
      rcases List.nodup_cons.mp distinct with ⟨alone, distinct⟩
      rcases List.forall_mem_cons.mp found with ⟨here, found⟩
      have shows : r.isEmpty = false := filled (List.cons_ne_nil v rest)
      have later : ∀ w ∈ rest, (s.damageViewport v r).viewports.get? w.id = some w := by
        intro w member
        have apart : w.id ≠ v.id := fun same => alone (List.mem_map.mpr ⟨w, member, same⟩)
        rw [damageViewport_viewports, s.viewports.get?_set_other apart]
        exact found w member
      rcases ih (fun _ => shows) later distinct with ⟨begun, spread⟩
      cases pends : v.pending with
      | some timer => exact ⟨begun, spread.cons_waiting shows here alone pends⟩
      | none => exact ⟨_, spread.cons_idle shows here alone pends⟩

/-- What damaging a rectangle comes to, once it is known how many viewports it has reached. -/
structure FansOut (s : Screen) (r : Rect) (after : Screen) (count : Nat) : Prop where
  counted : ∃ ids : List ViewportId, ids.Nodup ∧ ids.length = count ∧
    ∀ id, id ∈ ids ↔ ∃ v, s.viewports.get? id = some v ∧ v.Shares r
  apart : ∀ id, (∀ v, s.viewports.get? id = some v → ¬ v.Shares r) →
    after.viewports.get? id = s.viewports.get? id
  waiting : ∀ id v timer, s.viewports.get? id = some v → v.Shares r → v.pending = some timer →
    after.viewports.get? id = some { v with damage := v.damage.add r }
  /-- A timer of its own is started for each of the other viewports that are reached. -/
  started : ∃ begun : List (Viewport × TimerId),
    (begun.map (·.1)).Nodup ∧ (begun.map (·.2)).Nodup ∧
    (∀ v, v ∈ begun.map (·.1) ↔
      s.viewports.get? v.id = some v ∧ v.Shares r ∧ v.pending = none) ∧
    (∀ e ∈ begun, s.timers.isActive e.2 = false ∧ after.viewports.get? e.1.id =
      some { e.1 with damage := e.1.damage.add r, pending := some e.2 }) ∧
    after.timers.queue.Perm
      (begun.map (fun e => (e.2, s.timers.now + e.1.delay)) ++ s.timers.queue)

theorem mem_touched_iff (named : ∀ id v, s.viewports.get? id = some v → v.id = id) :
    v ∈ s.touched r ↔ s.viewports.get? v.id = some v ∧ v.Shares r := by
  rw [mem_touched r named, Viewport.shares_iff]

theorem invalidate_fansOut (inStep : s.InStep []) (r : Rect) :
    FansOut s r (s.invalidate r).1 (s.invalidate r).2 := by
  have named := inStep.named
  have distinct := touched_distinct r named
  have filled : s.touched r ≠ [] → r.isEmpty = false := by
    intro some
    rcases List.exists_mem_of_ne_nil _ some with ⟨v, member⟩
    rcases ((mem_touched_iff named).mp member).2 with ⟨p, _, inside⟩
    exact Rect.isEmpty_of_mem inside
  rcases damageAll_spread filled (fun v member => ((mem_touched_iff named).mp member).1) distinct
    with ⟨begun, spread⟩
  have ids (id : ViewportId) : id ∈ (s.touched r).map (·.id) ↔
      ∃ v, s.viewports.get? id = some v ∧ v.Shares r := by
    rw [List.mem_map]
    constructor
    · rintro ⟨v, member, rfl⟩
      exact ⟨v, (mem_touched_iff named).mp member⟩
    · rintro ⟨v, found, shares⟩
      have own := named id v found
      subst own
      exact ⟨v, (mem_touched_iff named).mpr ⟨found, shares⟩, rfl⟩
  constructor
  · exact ⟨(s.touched r).map (·.id), distinct, List.length_map .., ids⟩
  · intro id none
    apply spread.others
    rw [ids]
    rintro ⟨v, found, shares⟩
    exact none v found shares
  · intro id v timer found shares pends
    have own := named id v found
    subst own
    exact spread.waiting v ((mem_touched_iff named).mpr ⟨found, shares⟩) (by rw [pends]; rfl)
  · refine ⟨begun, ?_, spread.distinct, ?_, ?_, spread.queue⟩
    · rw [spread.idle]
      exact distinct.of_map.filter _
    · intro v
      rw [spread.idle, List.mem_filter, mem_touched_iff named, Option.isNone_iff_eq_none, and_assoc]
    · intro e member
      refine ⟨?_, spread.starts e member⟩
      rw [← Bool.not_eq_true, ← Timers.mem_ids]
      intro active
      exact Nat.lt_irrefl _ (Nat.lt_of_lt_of_le (inStep.schedule.started _ active)
        (spread.fresh e member))

def Renewed (s : Screen) (id : ViewportId) (bounds : Rect) : Prop :=
  ∃ v, s.viewports.get? id = some v ∧ v.bounds = bounds ∧
    (bounds.isEmpty = false → bounds ∈ v.damage.rects)

theorem renewed_of_set {after : Screen} {bounds : Rect} (found : s.viewports.get? v.id = some v)
    (stored : after.viewports =
      s.viewports.set v.id ({ v with bounds }.invalidate s.timers bounds).1) :
    after.Renewed v.id bounds := by
  rcases ({ v with bounds } : Viewport).invalidate_frame s.timers bounds with ⟨pending, same⟩
  refine ⟨_, by rw [stored, Registry.get?_set_self found], by rw [same], ?_⟩
  intro filled
  rw [same, filled]
  simp [Damage.add]

theorem attach_renewed (s : Screen) (stage : Stage δ) (output : OutputId) :
    (s.attach stage output).1.Renewed (s.attach stage output).2
      (Viewport.create (s.attach stage output).2 output stage s.config).bounds := by
  let v := Viewport.create s.viewports.nextKey output stage s.config
  let added : Screen := { s with
    viewports := s.viewports.add v, desktop := s.desktop.put s.viewports.nextKey v.bounds }
  have stored : added.viewports.get? v.id = some v := s.viewports.get?_add_next v
  exact renewed_of_set stored (damageViewport_viewports added v v.bounds)

section Rebound

variable (named : ∀ id v, s.viewports.get? id = some v → v.id = id) {id : ViewportId}
  {after : Screen}

include named

theorem rebound_renewed (found : s.viewports.get? id = some v) (bounds : Rect) :
    (s.rebound (v.rebound s.timers s.desktop.put bounds)).Renewed id bounds := by
  have own := named id v found
  subst own
  exact renewed_of_set found
    (settle_viewports { s with desktop := s.desktop.put v.id bounds } v bounds bounds)

theorem find_renewed {bounds : Viewport → Rect}
    (done : (s.find id).map (fun v =>
      s.rebound (v.rebound s.timers s.desktop.put (bounds v))) = .ok after) :
    ∃ v, s.viewports.get? id = some v ∧ after.Renewed id (bounds v) := by
  rw [find] at done
  cases found : s.viewports.get? id with
  | none =>
      rw [found] at done
      cases done
  | some v =>
      rw [found] at done
      cases done
      exact ⟨v, rfl, rebound_renewed named found (bounds v)⟩

theorem setResolution_renewed {stage : Stage δ} {size : Size}
    (done : (s.setResolution stage id size).2 = .ok after) :
    ∃ v, s.viewports.get? id = some v ∧
      after.Renewed id ⟨v.bounds.x, v.bounds.y, size.width, size.height⟩ := by
  rw [setResolution, find] at done
  cases found : s.viewports.get? id with
  | none =>
      rw [found] at done
      cases done
  | some v =>
      simp only [found, Viewport.setResolution] at done
      cases switched : (stage.setResolution v.output size).2 with
      | error fault =>
          rw [switched] at done
          cases done
      | ok _ =>
          rw [switched] at done
          cases done
          exact ⟨v, rfl, rebound_renewed named found _⟩

end Rebound

/-- Whatever a screen has been asked for: the desktop has the bounds of just the viewports that are
attached; a viewport that is attached, or whose bounds are changed, has all of its bounds among its
damage, unless they are empty; and any rectangle is added to the damage of just the viewports that
share a point with it, with a timer started for each of these that waits for none. -/
theorem damage_follows_layout (config : Config) (root : Tree) (stage : Stage δ)
    (requests : List (Request δ)) :
    let s := (askAll (create config root, stage) requests).1
    (∀ id, s.desktop.places.get? id = (s.viewports.get? id).map Viewport.bounds) ∧
      (∀ (now : Stage δ) output, (s.attach now output).1.Renewed (s.attach now output).2
        (Viewport.create (s.attach now output).2 output now s.config).bounds) ∧
      (∀ id size after, s.setSize id size = .ok after → ∃ v, s.viewports.get? id = some v ∧
        after.Renewed id ⟨v.bounds.x, v.bounds.y, size.width, size.height⟩) ∧
      (∀ id corner after, s.moveTo id corner = .ok after → ∃ v, s.viewports.get? id = some v ∧
        after.Renewed id ⟨corner.x, corner.y, v.bounds.width, v.bounds.height⟩) ∧
      (∀ (now : Stage δ) id size after, (s.setResolution now id size).2 = .ok after →
        ∃ v, s.viewports.get? id = some v ∧
          after.Renewed id ⟨v.bounds.x, v.bounds.y, size.width, size.height⟩) ∧
      ∀ r, FansOut s r (s.invalidate r).1 (s.invalidate r).2 := by
  intro s
  rcases askAll_laid (.create config root) (.create config root) stage requests with
    ⟨inStep, laid⟩
  have named : ∀ id v, s.viewports.get? id = some v → v.id = id := inStep.named
  refine ⟨fun id => congrFun laid.places id, attach_renewed s, ?_, ?_, ?_, ?_⟩
  · exact fun id size after done => find_renewed named done
  · exact fun id corner after done => find_renewed named done
  · exact fun now id size after done => setResolution_renewed named done
  · exact invalidate_fansOut inStep

section Small

def settled : List (Request Framebuffer) :=
  [.operation (.attach ⟨0⟩), .operation (.attach ⟨0⟩), .operation (.moveTo ⟨1⟩ ⟨9, 0⟩),
    .operation .flush]

theorem damage_follows_layout_settled :
    let s := (askAll (create { delay := 1 } fun _ _ => Viewport.smallProgram,
      Viewport.smallStage) settled).1
    s.desktop.places.get? ⟨1⟩ = some ⟨9, 0, 2, 2⟩ ∧
      (∃ after, s.moveTo ⟨1⟩ ⟨0, 5⟩ = .ok after ∧ after.Renewed ⟨1⟩ ⟨0, 5, 2, 2⟩) ∧
      (s.invalidate ⟨1, 0, 5, 5⟩).2 = 1 ∧
      (s.invalidate ⟨1, 0, 5, 5⟩).1.viewports.get? ⟨1⟩ = s.viewports.get? ⟨1⟩ := by
  intro s
  rcases damage_follows_layout { delay := 1 } (fun _ _ => Viewport.smallProgram)
    Viewport.smallStage settled with ⟨layout, _, _, moves, _, fans⟩
  refine ⟨(layout ⟨1⟩).trans rfl, ?_, rfl, ?_⟩
  · rcases moves ⟨1⟩ ⟨0, 5⟩ _ rfl with ⟨v, found, renewed⟩
    cases found
    exact ⟨_, rfl, renewed⟩
  · apply (fans ⟨1, 0, 5, 5⟩).apart ⟨1⟩
    intro v found
    cases found
    rw [Viewport.shares_iff]
    decide

end Small

end Screen

end Compositing
