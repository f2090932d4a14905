import Compositing.Proofs.Schedule

/-! Where the viewports lie. The desktop maps just the viewports that are attached, each to the
bounds that it has; and the pointer stays where it was put, whatever happens to them. -/

namespace Compositing

namespace Screen

variable {δ : Type} [Output δ] {s after last : Screen}

def bounds? (s : Screen) (id : ViewportId) : Option Rect := (s.viewports.get? id).map Viewport.bounds

theorem bounds?_eq_some {id : ViewportId} {r : Rect} :
    s.bounds? id = some r ↔ ∃ v, s.viewports.get? id = some v ∧ v.bounds = r :=
  Option.map_eq_some_iff

theorem bounds?_of_found {id : ViewportId} {v : Viewport} (found : s.viewports.get? id = some v) :
    s.bounds? id = some v.bounds := bounds?_eq_some.mpr ⟨v, found, rfl⟩

theorem bounds_listed {id : ViewportId} {v : Viewport} (found : s.viewports.get? id = some v) :
    v.bounds ∈ s.viewports.toList.map (·.2.bounds) :=
  List.mem_map.mpr ⟨(id, v), s.viewports.mem_toList.mpr found, rfl⟩

theorem bounds?_set {id : ViewportId} {v w : Viewport} (found : s.viewports.get? id = some v)
    (same : after.viewports = s.viewports.set id w) :
    after.bounds? = Function.update s.bounds? id (some w.bounds) := by
  have others : ∀ other, other ≠ id → after.viewports.get? other = s.viewports.get? other := by
    intro other apart
    simp [same, apart]
  have here : after.viewports.get? id = some w := by simp [same, found]
  calc after.bounds?
      = Function.update s.bounds? id ((after.viewports.get? id).map Viewport.bounds) :=
        Registry.view_eq (Option.map Viewport.bounds) others
    _ = Function.update s.bounds? id (some w.bounds) := by simp [here]

theorem bounds?_set_same {id : ViewportId} {v w : Viewport}
    (found : s.viewports.get? id = some v) (unmoved : w.bounds = v.bounds)
    (same : after.viewports = s.viewports.set id w) : after.bounds? = s.bounds? := by
  rw [bounds?_set found same, unmoved, ← bounds?_of_found found, Function.update_eq_self]

structure Unmoved (s after : Screen) : Prop where
  pointer : after.pointer = s.pointer
  desktop : after.desktop = s.desktop
  bounds : after.bounds? = s.bounds?

namespace Unmoved

theorem refl (s : Screen) : Unmoved s s := ⟨rfl, rfl, rfl⟩

theorem trans (first : Unmoved s after) (second : Unmoved after last) : Unmoved s last :=
  ⟨second.pointer.trans first.pointer, second.desktop.trans first.desktop,
    second.bounds.trans first.bounds⟩

theorem of_set {v w : Viewport} (found : s.viewports.get? v.id = some v)
    (unmoved : w.bounds = v.bounds) (pointer : after.pointer = s.pointer)
    (desktop : after.desktop = s.desktop) (same : after.viewports = s.viewports.set v.id w) :
    Unmoved s after := ⟨pointer, desktop, bounds?_set_same found unmoved same⟩

theorem damage {v : Viewport} (found : s.viewports.get? v.id = some v) (r : Rect) :
    Unmoved s (s.damageViewport v r) := by
  rcases v.invalidate_frame s.timers r with ⟨pending, same⟩
  refine .of_set found ?_ rfl rfl (damageViewport_viewports s v r)
  rw [same]

theorem invalidate (named : ∀ id v, s.viewports.get? id = some v → v.id = id) (r : Rect) :
    Unmoved s (s.invalidate r).1 := by
  apply damageAll_induction (motive := fun _ after => Unmoved s after) ?_
    (fun _ member => ((mem_touched r named).mp member).1) (touched_distinct r named) (.refl s)
  intro v rest after found unmoved
  exact unmoved.trans (.damage found r)

theorem setRoot (named : ∀ id v, s.viewports.get? id = some v → v.id = id) (root : Tree) :
    Unmoved s (s.setRoot root) := by
  have rerooted : Unmoved s { s with root } := ⟨rfl, rfl, rfl⟩
  rw [Screen.setRoot]
  dsimp only
  split
  · exact rerooted.trans (.invalidate (s := { s with root }) named _)
  · exact rerooted

theorem outcome {before next : Progress δ} (outcome : Outcome before next) :
    Unmoved before.1 next.1 := by
  cases outcome with
  | gone => exact .refl _
  | undamaged v found clean =>
      exact .of_set (w := { v with pending := none, damage := {} }) found rfl rfl rfl rfl
  | painted v found =>
      exact .of_set (w := { v with pending := none, damage := {} }) found rfl rfl rfl rfl

theorem turns {start last : Progress δ} {turns : List (Turn δ)}
    (follow : Turns start turns last) : Unmoved start.1 last.1 := by
  induction follow with
  | done progress => exact .refl _
  | next painted rest ih => exact (Unmoved.outcome painted).trans ih

end Unmoved

/-- What an operation can do to the desktop, to the bounds of the viewports and to the pointer.
Viewports that are attached change place or go only where `moves` holds. -/
inductive Shift (moves : Prop) (s after : Screen) : Prop
  | stay (unmoved : Unmoved s after)
  | attach (id : ViewportId) (r : Rect) (fresh : s.bounds? id = none)
      (pointer : after.pointer = s.pointer) (desktop : after.desktop = s.desktop.put id r)
      (bounds : after.bounds? = Function.update s.bounds? id (some r))
  | place (moved : moves) (id : ViewportId) (r : Rect)
      (pointer : after.pointer = s.pointer) (desktop : after.desktop = s.desktop.put id r)
      (bounds : after.bounds? = Function.update s.bounds? id (some r))
  | remove (moved : moves) (id : ViewportId)
      (pointer : after.pointer = s.pointer) (desktop : after.desktop = s.desktop.remove id)
      (bounds : after.bounds? = Function.update s.bounds? id none)

def Operation.rearranges : Operation δ → Bool
  | detach _ | setSize _ _ | moveTo _ _ | setResolution _ _ => true
  | _ => false

namespace Shift

variable {moves : Prop}

theorem refl (s : Screen) : Shift moves s s := .stay (.refl s)

theorem pointer_eq (shift : Shift moves s after) : after.pointer = s.pointer := by
  cases shift with
  | stay unmoved => exact unmoved.pointer
  | attach id r fresh pointer desktop bounds => exact pointer
  | place moved id r pointer desktop bounds => exact pointer
  | remove moved id pointer desktop bounds => exact pointer

theorem keeps (shift : Shift moves s after) (still : ¬ moves) {id : ViewportId} {r : Rect}
    (found : s.bounds? id = some r) : after.bounds? id = some r := by
  cases shift with
  | stay unmoved => rw [unmoved.bounds, found]
  | attach other area fresh pointer desktop bounds =>
      have apart : id ≠ other := by
        intro same
        rw [← same, found] at fresh
        cases fresh
      rw [bounds, Function.update_of_ne apart, found]
  | place moved => exact absurd moved still
  | remove moved => exact absurd moved still

theorem attached (s : Screen) (stage : Stage δ) (output : OutputId) :
    Shift moves s (s.attach stage output).1 := by
  let v := Viewport.create s.viewports.nextKey output stage s.config
  let added : Screen := { s with
    viewports := s.viewports.add v, desktop := s.desktop.put s.viewports.nextKey v.bounds }
  have stored : added.viewports.get? v.id = some v := s.viewports.get?_add_next v
  have damaged : Unmoved added (s.attach stage output).1 := .damage stored v.bounds
  refine .attach v.id v.bounds ?_ damaged.pointer damaged.desktop ?_
  · change (s.viewports.get? s.viewports.nextKey).map _ = none
    simp
  · have others : ∀ other, other ≠ v.id →
        added.viewports.get? other = s.viewports.get? other :=
      fun other apart => s.viewports.get?_add_other v apart
    calc (s.attach stage output).1.bounds?
        = added.bounds? := damaged.bounds
      _ = Function.update s.bounds? v.id ((added.viewports.get? v.id).map Viewport.bounds) :=
          Registry.view_eq (Option.map Viewport.bounds) others
      _ = Function.update s.bounds? v.id (some v.bounds) := by simp [stored]

theorem rebound (moved : moves) {v : Viewport} (found : s.viewports.get? v.id = some v)
    (bounds : Rect) : Shift moves s (s.rebound (v.rebound s.timers s.desktop.put bounds)) := by
  let placed : Screen := { s with desktop := s.desktop.put v.id bounds }
  have stored := settle_viewports placed v bounds bounds
  rcases ({ v with bounds } : Viewport).invalidate_frame s.timers bounds with ⟨pending, same⟩
  have here : ({ v with bounds }.invalidate s.timers bounds).1.bounds = bounds := by rw [same]
  refine .place moved v.id bounds rfl rfl ((bounds?_set (s := s) found stored).trans ?_)
  rw [here]

theorem detached (moved : moves) {v : Viewport} (found : s.viewports.get? v.id = some v) :
    ∃ after idle, s.detach v.id = .ok (after, idle) ∧ Shift moves s after := by
  refine ⟨_, _, detach_eq found rfl, .remove moved v.id rfl rfl ?_⟩
  have others : ∀ other, other ≠ v.id →
      (s.viewports.remove v.id).get? other = s.viewports.get? other :=
    fun other apart => s.viewports.get?_remove_other apart
  calc _ = Function.update s.bounds? v.id
        (((s.viewports.remove v.id).get? v.id).map Viewport.bounds) :=
        Registry.view_eq (Option.map Viewport.bounds) others
    _ = Function.update s.bounds? v.id none := by simp

end Shift

theorem perform_shift (inStep : s.InStep []) (stage : Stage δ) (operation : Operation δ) :
    Shift (operation.rearranges = true) s (perform (s, stage) operation).1 := by
  have named := inStep.named
  cases operation with
  | attach output => exact .attached s stage output
  | detach id =>
      cases found : s.viewports.get? id with
      | none =>
          simp only [perform, detach, find, found]
          exact .refl s
      | some v =>
          have own := named id v found
          subst own
          have detaches : ∃ after idle, s.detach v.id = .ok (after, idle) ∧
              Shift ((Operation.detach v.id : Operation δ).rearranges = true) s after :=
            Shift.detached rfl found
          rcases detaches with ⟨after, idle, done, shift⟩
          simp only [perform, done]
          exact shift
  | invalidate r => exact .stay (.invalidate named r)
  | setSize id size =>
      exact find_elim (motive := Shift _ s) named id (.refl s) fun v found => .rebound rfl found _
  | moveTo id corner =>
      exact find_elim (motive := Shift _ s) named id (.refl s) fun v found => .rebound rfl found _
  | setResolution id size =>
      cases found : s.viewports.get? id with
      | none =>
          simp only [perform, setResolution, find, found]
          exact .refl s
      | some v =>
          have own := named id v found
          subst own
          simp only [perform, setResolution, find, found, Viewport.setResolution]
          cases (stage.setResolution v.output size).2 with
          | error fault => exact .refl s
          | ok _ => exact .rebound rfl found _
  | setRoot root => exact .stay (.setRoot named root)
  | processTimers instant =>
      rcases processTimers_turns inStep stage instant with ⟨last, done, _, follow⟩
      simp only [perform, done]
      have expired : Unmoved s { s with timers := s.timers.expire instant } := ⟨rfl, rfl, rfl⟩
      exact .stay (expired.trans (.turns follow))
  | flush =>
      rcases flush_turns inStep stage with ⟨last, done, _, follow⟩
      simp only [perform, done]
      exact .stay (.turns follow)
  | untilNext => exact .refl s
  | advance ticks => exact .stay ⟨rfl, rfl, rfl⟩
  | replace studio stage => exact .stay ⟨rfl, rfl, rfl⟩

/-- The desktop maps the attached viewports to their bounds and holds nothing else. -/
structure Laid (s : Screen) : Prop where
  places : s.desktop.places.get? = s.bounds?
  distinct : s.desktop.places.Distinct

namespace Laid

theorem create (config : Config) (root : Tree) : (create config root).Laid where
  places := by
    funext id
    simp [Screen.create, bounds?, Table.get?, Registry.get?]
  distinct := List.nodup_nil

theorem put (laid : s.Laid) {id : ViewportId} {r : Rect}
    (desktop : after.desktop = s.desktop.put id r)
    (bounds : after.bounds? = Function.update s.bounds? id (some r)) : after.Laid where
  places := by
    funext other
    rw [desktop, bounds, Desktop.put, Table.get?_insert, Function.update_apply, laid.places]
  distinct := by
    rw [desktop]
    exact laid.distinct.insert id r

theorem shift (laid : s.Laid) {moves : Prop} (shift : Shift moves s after) : after.Laid := by
  cases shift with
  | stay unmoved =>
      exact ⟨by rw [unmoved.desktop, unmoved.bounds, laid.places],
        by rw [unmoved.desktop]; exact laid.distinct⟩
  | attach id r fresh pointer desktop bounds => exact laid.put desktop bounds
  | place moved id r pointer desktop bounds => exact laid.put desktop bounds
  | remove moved id pointer desktop bounds =>
      constructor
      · funext other
        rw [desktop, bounds, Desktop.remove, Table.get?_erase, Function.update_apply, laid.places]
      · rw [desktop]
        exact laid.distinct.erase id

theorem performAll (laid : s.Laid) (inStep : s.InStep []) (stage : Stage δ)
    (operations : List (Operation δ)) : (performAll (s, stage) operations).1.Laid := by
  induction operations generalizing s stage with
  | nil => exact laid
  | cons operation rest ih =>
      exact ih (laid.shift (perform_shift inStep stage operation))
        (perform_inStep inStep stage operation) _

theorem mem_values (laid : s.Laid) {r : Rect} :
    r ∈ s.desktop.places.values ↔ ∃ id v, s.viewports.get? id = some v ∧ v.bounds = r := by
  rw [Table.mem_values laid.distinct, laid.places]
  simp only [bounds?_eq_some]

theorem forall_values (laid : s.Laid) {holds : Rect → Prop} :
    (∀ r ∈ s.desktop.places.values, holds r) ↔
      ∀ id v, s.viewports.get? id = some v → holds v.bounds := by
  constructor
  · exact fun each id v found => each v.bounds (laid.mem_values.mpr ⟨id, v, found, rfl⟩)
  · intro each r member
    rcases laid.mem_values.mp member with ⟨id, v, found, rfl⟩
    exact each id v found

theorem exists_values (laid : s.Laid) {holds : Rect → Prop} :
    (∃ r ∈ s.desktop.places.values, holds r) ↔
      ∃ id v, s.viewports.get? id = some v ∧ holds v.bounds := by
  constructor
  · rintro ⟨r, member, here⟩
    rcases laid.mem_values.mp member with ⟨id, v, found, rfl⟩
    exact ⟨id, v, found, here⟩
  · rintro ⟨id, v, found, here⟩
    exact ⟨v.bounds, laid.mem_values.mpr ⟨id, v, found, rfl⟩, here⟩

end Laid

inductive Refit (s : Screen) : Desktop → Prop
  | stay : Refit s s.desktop
  | attach (r : Rect) : Refit s (s.desktop.put s.viewports.nextKey r)
  | place (id : ViewportId) (r : Rect) (attached : (s.bounds? id).isSome) :
      Refit s (s.desktop.put id r)
  | remove (id : ViewportId) : Refit s (s.desktop.remove id)

theorem Unmoved.refit (unmoved : Unmoved s after) : Refit s after.desktop :=
  unmoved.desktop ▸ .stay

theorem Refit.rebound {v : Viewport} (found : s.viewports.get? v.id = some v) (bounds : Rect) :
    Refit s (s.rebound (v.rebound s.timers s.desktop.put bounds)).desktop := by
  refine .place v.id bounds ?_
  rw [bounds?_of_found found]
  rfl

theorem perform_refit (inStep : s.InStep []) (stage : Stage δ) (operation : Operation δ) :
    Refit s (perform (s, stage) operation).1.desktop := by
  have named := inStep.named
  cases operation with
  | attach output => exact .attach _
  | detach id =>
      simp only [perform, detach, find]
      cases s.viewports.get? id with
      | none => exact .stay
      | some v =>
          simp only [cancel_eq, ok_bind, pure_eq_ok]
          exact .remove id
  | invalidate r => exact (Unmoved.invalidate named r).refit
  | setSize id size =>
      exact find_elim (motive := fun next => Refit s next.desktop) named id .stay
        fun v found => .rebound found _
  | moveTo id corner =>
      exact find_elim (motive := fun next => Refit s next.desktop) named id .stay
        fun v found => .rebound found _
  | setResolution id size =>
      cases found : s.viewports.get? id with
      | none =>
          simp only [perform, setResolution, find, found]
          exact .stay
      | some v =>
          simp only [perform, setResolution, find, found, Viewport.setResolution]
          cases (stage.setResolution v.output size).2 with
          | error fault => exact .stay
          | ok _ =>
              have own := named id v found
              subst own
              exact .rebound found _
  | setRoot root => exact (Unmoved.setRoot named root).refit
  | processTimers instant =>
      rcases processTimers_turns inStep stage instant with ⟨last, done, _, follow⟩
      simp only [perform, done]
      have expired : Unmoved s { s with timers := s.timers.expire instant } := ⟨rfl, rfl, rfl⟩
      exact (expired.trans (.turns follow)).refit
  | flush =>
      rcases flush_turns inStep stage with ⟨last, done, _, follow⟩
      simp only [perform, done]
      exact (Unmoved.turns follow).refit
  | untilNext | advance | replace => exact .stay

def Ordered (s : Screen) : Prop := s.desktop.places.keys.Pairwise fun a b => a.index < b.index

namespace Ordered

theorem create (config : Config) (root : Tree) : (create config root).Ordered := .nil

theorem refit (ordered : s.Ordered) (laid : s.Laid) (refit : Refit s after.desktop) :
    after.Ordered := by
  rw [Ordered]
  generalize after.desktop = next at refit
  have listed (id : ViewportId) : id ∈ s.desktop.places.keys ↔ (s.bounds? id).isSome := by
    rw [Table.mem_keys, laid.places]
  cases refit with
  | stay => exact ordered
  | attach r =>
      have fresh : s.viewports.nextKey ∉ s.desktop.places.keys := by
        rw [listed, bounds?, Registry.get?_nextKey]
        decide
      rw [Desktop.put, Table.keys_insert, if_neg fresh]
      refine List.pairwise_append.mpr ⟨ordered, List.pairwise_singleton _ _, ?_⟩
      intro id member next new
      rw [List.mem_singleton.mp new]
      rw [listed, bounds?, Option.isSome_map] at member
      rcases Option.isSome_iff_exists.mp member with ⟨v, found⟩
      exact s.viewports.index_lt found
  | place id r attached =>
      rw [Desktop.put, Table.keys_insert, if_pos ((listed id).mpr attached)]
      exact ordered
  | remove id => exact ordered.sublist (s.desktop.places.keys_erase id)

theorem perform (ordered : s.Ordered) (laid : s.Laid) (inStep : s.InStep []) (stage : Stage δ)
    (operation : Operation δ) : (perform (s, stage) operation).1.Ordered :=
  ordered.refit laid (perform_refit inStep stage operation)

end Ordered

end Screen

end Compositing
