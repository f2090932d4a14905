import Mathlib.Logic.Relation
import Compositing.Proofs.Tables
import Compositing.Proofs.Update
import Compositing.Screen

/-! Runs of a screen: what its user may ask of it, in any order, while the clock goes on and the
outputs and buffers change as they like. -/

namespace Compositing

namespace Screen

variable {δ : Type} [Output δ]

inductive Operation (δ : Type)
  | attach (output : OutputId)
  | detach (id : ViewportId)
  | invalidate (r : Rect)
  | setSize (id : ViewportId) (size : Size)
  | moveTo (id : ViewportId) (corner : Point)
  | setResolution (id : ViewportId) (size : Size)
  | setRoot (root : Tree)
  | processTimers (instant : Nat)
  | flush
  | untilNext
  /-- The clock goes on. -/
  | advance (ticks : Nat)
  /-- Buffers, surfaces and outputs change, by whatever hand. -/
  | replace (studio : Studio) (stage : Stage δ)

def Operation.repaints : Operation δ → Bool
  | processTimers _ | flush => true
  | _ => false

abbrev Scene (δ : Type) := Screen × Stage δ

abbrev Progress (δ : Type) := Screen × Stage δ × Reports

def create (config : Config) (root : Tree) : Screen := { config, root }

def sceneOr (scene : Scene δ) : Except ScreenFault (Progress δ) → Scene δ
  | .ok (s, stage, _) => (s, stage)
  | .error _ => scene

/-- What an operation does to a scene. One that is refused leaves the screen as it is. -/
def perform (scene : Scene δ) : Operation δ → Scene δ
  | .attach output => ((scene.1.attach scene.2 output).1, scene.2)
  | .detach id => (((scene.1.detach id).map (·.1)).toOption.getD scene.1, scene.2)
  | .invalidate r => ((scene.1.invalidate r).1, scene.2)
  | .setSize id size => ((scene.1.setSize id size).toOption.getD scene.1, scene.2)
  | .moveTo id corner => ((scene.1.moveTo id corner).toOption.getD scene.1, scene.2)
  | .setResolution id size =>
      let (stage, changed) := scene.1.setResolution scene.2 id size
      (changed.toOption.getD scene.1, stage)
  | .setRoot root => (scene.1.setRoot root, scene.2)
  | .processTimers instant => sceneOr scene (scene.1.processTimers scene.2 instant)
  | .flush => sceneOr scene (scene.1.flush scene.2)
  | .untilNext => scene
  | .advance ticks => ({ scene.1 with timers := scene.1.timers.advance ticks }, scene.2)
  | .replace studio stage => ({ scene.1 with studio }, stage)

def performAll (scene : Scene δ) (operations : List (Operation δ)) : Scene δ :=
  operations.foldl perform scene

section Damage

variable (s : Screen) (v : Viewport) (r : Rect)

@[simp] theorem settle_none (timers : Timers) :
    s.settle (v, timers, none) = { s with timers, viewports := s.viewports.set v.id v } := rfl

@[simp] theorem settle_some (timers : Timers) (timer : TimerId) :
    s.settle (v, timers, some timer) = { s with
      timers
      pending := s.pending.insert timer v.id
      viewports := s.viewports.set v.id v } := rfl

theorem settle_viewports (bounds : Rect) :
    (s.settle ({ v with bounds }.invalidate s.timers r)).viewports =
      s.viewports.set v.id ({ v with bounds }.invalidate s.timers r).1 :=
  congrArg (s.viewports.set · _) (Viewport.invalidate_id { v with bounds } s.timers r)

theorem damageViewport_viewports :
    (s.damageViewport v r).viewports = s.viewports.set v.id (v.invalidate s.timers r).1 :=
  settle_viewports s v r v.bounds

variable {s} (named : ∀ id v, s.viewports.get? id = some v → v.id = id)

include named

theorem mem_touched {v : Viewport} :
    v ∈ s.touched r ↔ s.viewports.get? v.id = some v ∧ (r.overlap v.bounds).isEmpty = false := by
  simp only [touched, List.mem_filter, List.mem_map, Prod.exists, Registry.mem_toList,
    Bool.not_eq_true']
  constructor
  · intro listed
    rcases listed with ⟨⟨id, _, found, rfl⟩, shows⟩
    rw [named id _ found]
    exact ⟨found, shows⟩
  · intro shown
    exact ⟨⟨v.id, v, shown.1, rfl⟩, shown.2⟩

theorem touched_distinct : ((s.touched r).map (·.id)).Nodup := by
  have keys : (s.viewports.toList.map (·.2)).map (·.id) = s.viewports.keys := by
    rw [List.map_map, Registry.keys]
    apply List.map_congr_left
    intro entry member
    exact named entry.1 entry.2 (s.viewports.mem_toList.mp member)
  have listed : ((s.touched r).map (·.id)).Sublist s.viewports.keys := by
    rw [← keys]
    exact List.filter_sublist.map _
  exact listed.nodup s.viewports.keys_nodup

end Damage

def unlist (pending : Table TimerId ViewportId) : Option TimerId → Table TimerId ViewportId
  | some timer => pending.erase timer
  | none => pending

theorem get?_unlist (pending : Table TimerId ViewportId) (dropped : Option TimerId)
    (timer : TimerId) :
    (unlist pending dropped).get? timer =
      if dropped = some timer then none else pending.get? timer := by
  cases dropped with
  | none => rfl
  | some other =>
      rw [unlist, Table.get?_erase]
      simp only [Option.some.injEq, eq_comm]

/-- What an operation that paints nothing can do to the viewports, their timers and the table of
pending redraws, one viewport at a time. -/
inductive Move (s : Screen) : Screen → Prop
  | elsewhere {after : Screen} (viewports : after.viewports = s.viewports)
      (queue : after.timers.queue = s.timers.queue)
      (started : after.timers.started = s.timers.started) (pending : after.pending = s.pending) :
      Move s after
  | attach (v : Viewport) (fresh : v.id = s.viewports.nextKey) (idle : v.pending = none)
      (whole : v.damage = {}) :
      Move s (({ s with viewports := s.viewports.add v }).damageViewport v v.bounds)
  /-- Bounds that change are damaged as a whole. -/
  | damage (v : Viewport) (found : s.viewports.get? v.id = some v) (bounds r : Rect)
      (whole : bounds = v.bounds ∨ r = bounds) :
      Move s (s.settle ({ v with bounds }.invalidate s.timers r))
  | remove (v : Viewport) (found : s.viewports.get? v.id = some v) :
      Move s { s with
        timers := s.timers.drop v.pending
        pending := unlist s.pending v.pending
        viewports := s.viewports.remove v.id }

abbrev Moves : Screen → Screen → Prop := Relation.ReflTransGen Move

section Effects

variable (s : Screen) (stage : Stage δ) (reports : Reports) (v : Viewport) (id : ViewportId)

@[simp] theorem cancel_eq :
    s.cancel v = .ok ({ s with
      timers := s.timers.drop v.pending
      pending := unlist s.pending v.pending
      viewports := s.viewports.set v.id { v with pending := none } },
      { v with pending := none }) := by
  rw [cancel, v.cancel_eq]
  cases v.pending <;> rfl

@[simp] theorem redraw_eq :
    s.redraw stage v = .ok ({ s with
      timers := s.timers.drop v.pending
      viewports := s.viewports.set v.id { v with pending := none, damage := {} } },
      v.repaintAll s.root s.studio stage) := by
  rw [redraw, v.update_eq]
  rfl

def painted : Screen :=
  { s with
    timers := s.timers.drop v.pending
    pending := unlist s.pending v.pending
    viewports := s.viewports.set v.id { v with pending := none, damage := {} } }

variable {s stage reports v id}

theorem detach_eq (found : s.viewports.get? id = some v) (own : v.id = id) :
    s.detach id = .ok ({ s with
      timers := s.timers.drop v.pending
      pending := unlist s.pending v.pending
      viewports := s.viewports.remove id
      desktop := s.desktop.remove id }, { v with pending := none }) := by
  subst own
  simp [detach, find, found]

theorem flushViewport_absent (absent : s.viewports.get? id = none) :
    flushViewport (s, stage, reports) id = .ok (s, stage, reports) := by
  simp [flushViewport, absent]

theorem flushViewport_eq (found : s.viewports.get? id = some v) :
    flushViewport (s, stage, reports) id = .ok (s.painted v,
      if v.damage.isEmpty then (stage, reports)
      else ((v.repaintAll s.root s.studio stage).1,
        reports ++ [(id, (v.repaintAll s.root s.studio stage).2)])) := by
  rw [flushViewport]
  cases damaged : v.damage.isEmpty with
  | true => simp [found, damaged, painted, ← Damage.eq_empty damaged]
  | false => simp [found, damaged, painted]

theorem answerTimer_eq {timer : TimerId} (owner : s.pending.get? timer = some id)
    (found : s.viewports.get? id = some v) (waits : v.pending = some timer) :
    answerTimer (s, stage, reports) timer = .ok (s.painted v,
      (v.repaintAll s.root s.studio stage).1,
      reports ++ [(id, (v.repaintAll s.root s.studio stage).2)]) := by
  simp [answerTimer, owner, found, waits, painted, unlist]

end Effects

/-- What becomes of one viewport in a flush, or when its timer fires: it is gone, it has no damage,
or it is painted and reported. -/
inductive Outcome (before : Progress δ) : Progress δ → Prop
  | gone : Outcome before before
  | undamaged (v : Viewport) (found : before.1.viewports.get? v.id = some v)
      (clean : v.damage = {}) :
      Outcome before (before.1.painted v, before.2)
  | painted (v : Viewport) (found : before.1.viewports.get? v.id = some v) :
      Outcome before (before.1.painted v,
        (v.repaintAll before.1.root before.1.studio before.2.1).1,
        before.2.2 ++ [(v.id, (v.repaintAll before.1.root before.1.studio before.2.1).2)])

theorem flushViewport_outcome (before : Progress δ) (id : ViewportId)
    (named : ∀ id v, before.1.viewports.get? id = some v → v.id = id) :
    ∃ after, flushViewport before id = .ok after ∧ Outcome before after := by
  rcases before with ⟨s, stage, reports⟩
  cases found : s.viewports.get? id with
  | none => exact ⟨_, flushViewport_absent found, .gone⟩
  | some v =>
      have own := named id v found
      subst own
      refine ⟨_, flushViewport_eq found, ?_⟩
      cases damaged : v.damage.isEmpty with
      | true => exact .undamaged v found (Damage.eq_empty damaged)
      | false => exact .painted v found

structure Turn (δ : Type) where
  before : Progress δ
  after : Progress δ

def turnsOf {α : Type} (f : Progress δ → α → Except ScreenFault (Progress δ)) :
    List α → Progress δ → List (Turn δ)
  | [], _ => []
  | x :: rest, before =>
      match f before x with
      | .ok after => ⟨before, after⟩ :: turnsOf f rest after
      | .error _ => []

def turns (scene : Scene δ) : Operation δ → List (Turn δ)
  | .processTimers instant => turnsOf answerTimer (scene.1.timers.dueBy instant)
      ({ scene.1 with timers := scene.1.timers.expire instant }, scene.2, [])
  | .flush => turnsOf flushViewport scene.1.viewports.keys (scene.1, scene.2, [])
  | _ => []

def allTurns (scene : Scene δ) : List (Operation δ) → List (Turn δ)
  | [] => []
  | operation :: rest => turns scene operation ++ allTurns (perform scene operation) rest

/-- A redraw of a viewport is what adds a report on it. -/
def Turn.Redraws (turn : Turn δ) (id : ViewportId) : Prop :=
  ∃ report, turn.after.2.2 = turn.before.2.2 ++ [(id, report)]

inductive Turns : Progress δ → List (Turn δ) → Progress δ → Prop
  | done (progress : Progress δ) : Turns progress [] progress
  | next {before after last : Progress δ} {turns : List (Turn δ)} (outcome : Outcome before after)
      (rest : Turns after turns last) : Turns before (⟨before, after⟩ :: turns) last

/-- An invariant that each turn keeps for the turns after it. -/
theorem turnsOf_turns {α : Type} {f : Progress δ → α → Except ScreenFault (Progress δ)}
    (invariant : List α → Progress δ → Prop)
    (turn : ∀ x rest before, invariant (x :: rest) before →
      ∃ after, f before x = .ok after ∧ Outcome before after ∧ invariant rest after)
    (xs : List α) (before : Progress δ) (start : invariant xs before) :
    ∃ last, xs.foldlM f before = .ok last ∧ invariant [] last ∧
      Turns before (turnsOf f xs before) last := by
  induction xs generalizing before with
  | nil => exact ⟨before, rfl, start, .done before⟩
  | cons x rest ih =>
      rcases turn x rest before start with ⟨after, done, outcome, kept⟩
      rcases ih after kept with ⟨last, finished, ends, turns⟩
      refine ⟨last, ?_, ends, ?_⟩
      · rw [List.foldlM_cons, done]
        exact finished
      · rw [turnsOf, done]
        exact .next outcome turns

section Moves

variable {s : Screen} (named : ∀ id v, s.viewports.get? id = some v → v.id = id)

theorem attach_moves (s : Screen) (stage : Stage δ) (output : OutputId) :
    Moves s (s.attach stage output).1 := by
  let v := Viewport.create s.viewports.nextKey output stage s.config
  let placed : Screen := { s with desktop := s.desktop.put s.viewports.nextKey v.bounds }
  have elsewhere : Move s placed := .elsewhere rfl rfl rfl rfl
  exact (Relation.ReflTransGen.single elsewhere).tail (.attach v rfl rfl rfl)

/-- Each viewport of the list is still as it was when its turn comes. -/
theorem damageAll_induction {r : Rect} {motive : List Viewport → Screen → Prop}
    (turn : ∀ v rest s, s.viewports.get? v.id = some v → motive (v :: rest) s →
      motive rest (s.damageViewport v r))
    {vs : List Viewport} (found : ∀ v ∈ vs, s.viewports.get? v.id = some v)
    (distinct : (vs.map (·.id)).Nodup) (start : motive vs s) :
    motive [] (vs.foldl (fun s v => s.damageViewport v r) s) := by
  induction vs generalizing s with
  | nil => exact start
  | cons v rest ih =>
      rcases List.nodup_cons.mp distinct with ⟨alone, distinct⟩
      -- The ids differ, so the viewports still to come are stored as they were.
      apply ih _ distinct (turn v rest s (found v List.mem_cons_self) start)
      intro w member
      have apart : w.id ≠ v.id := fun same => alone (List.mem_map.mpr ⟨w, member, same⟩)
      rw [damageViewport_viewports, s.viewports.get?_set_other apart]
      exact found w (List.mem_cons_of_mem v member)

theorem rebound_moves (bounds : Rect) {v : Viewport}
    (found : s.viewports.get? v.id = some v) :
    Moves s (s.rebound (v.rebound s.timers s.desktop.put bounds)) := by
  let placed : Screen := { s with desktop := s.desktop.put v.id bounds }
  have elsewhere : Move s placed := .elsewhere rfl rfl rfl rfl
  have damaged : Move placed (s.rebound (v.rebound s.timers s.desktop.put bounds)) :=
    Move.damage (s := placed) v found bounds bounds (.inr rfl)
  exact (Relation.ReflTransGen.single elsewhere).tail damaged

theorem detach_moves {v : Viewport} (found : s.viewports.get? v.id = some v) :
    ∃ after idle, s.detach v.id = .ok (after, idle) ∧ Moves s after := by
  refine ⟨_, _, detach_eq found rfl, ?_⟩
  have removed := Relation.ReflTransGen.single (Move.remove v found)
  exact removed.tail (.elsewhere rfl rfl rfl rfl)

include named

theorem find_elim {motive : Screen → Prop} (id : ViewportId)
    {change : Viewport → Except ScreenFault Screen} (refused : motive s)
    (changes : ∀ v, s.viewports.get? v.id = some v → motive ((change v).toOption.getD s)) :
    motive (((s.find id).bind change).toOption.getD s) := by
  rw [find]
  cases found : s.viewports.get? id with
  | none => exact refused
  | some v =>
      apply changes v
      rw [named id v found, found]

theorem invalidate_moves (r : Rect) : Moves s (s.invalidate r).1 := by
  apply damageAll_induction (motive := fun _ after => Moves s after) ?_
    (fun _ member => ((mem_touched r named).mp member).1) (touched_distinct r named) .refl
  intro v rest after found moves
  exact moves.tail (.damage v found v.bounds r (.inl rfl))

theorem setRoot_moves (root : Tree) : Moves s (s.setRoot root) := by
  have elsewhere : Move s { s with root } := .elsewhere rfl rfl rfl rfl
  rw [setRoot]
  dsimp only
  cases s.desktop.hull? with
  | none => exact .single elsewhere
  | some hull =>
      have rerooted : ∀ id v, ({ s with root } : Screen).viewports.get? id = some v → v.id = id :=
        named
      exact .head elsewhere (invalidate_moves rerooted hull)

theorem perform_moves (stage : Stage δ) (operation : Operation δ)
    (still : operation.repaints = false) : Moves s (perform (s, stage) operation).1 := by
  have known : ∀ id v, s.viewports.get? id = some v → s.viewports.get? v.id = some v := by
    intro id v found
    rw [named id v found, found]
  cases operation with
  | attach output => exact attach_moves s stage output
  | detach id =>
      cases found : s.viewports.get? id with
      | none =>
          simp only [perform, detach, find, found]
          exact .refl
      | some v =>
          rcases detach_moves (known id v found) with ⟨after, idle, detached, moves⟩
          rw [named id v found] at detached
          simp only [perform, detached]
          exact moves
  | invalidate r => exact invalidate_moves named r
  | setSize id size =>
      exact find_elim (motive := Moves s) named id .refl fun v found => rebound_moves _ found
  | moveTo id corner =>
      exact find_elim (motive := Moves s) named id .refl fun v found => rebound_moves _ found
  | setResolution id size =>
      cases found : s.viewports.get? id with
      | none =>
          simp only [perform, setResolution, find, found]
          exact .refl
      | some v =>
          simp only [perform, setResolution, find, found, Viewport.setResolution]
          cases (stage.setResolution v.output size).2 with
          | error fault => exact .refl
          | ok _ => exact rebound_moves _ (known id v found)
  | setRoot root => exact setRoot_moves named root
  | processTimers instant => cases still
  | flush => cases still
  | untilNext => exact .refl
  | advance ticks => exact .single (.elsewhere rfl rfl rfl rfl)
  | replace studio stage => exact .single (.elsewhere rfl rfl rfl rfl)

end Moves

end Screen

end Compositing
