import Compositing.Proofs.Redraws

/-! Framebuffers and buffers as they are made, each on a surface of its own. However a screen is
used, its redraws and its requests move none of them to another surface, so that they stay apart. -/

namespace Compositing

namespace Surfaces

@[simp] theorem nextKey_play (backend : Backend) (surfaces : Surfaces) (call : Call) :
    (backend.play surfaces call).nextKey = surfaces.nextKey := by
  cases backend with
  | device number => rfl
  | surface target =>
      cases call with
      | complete => rfl
      | fill color area => simp [Backend.play, Brush.fill]
      | compose operator source place visible =>
          simp only [Backend.play, Brush.compose]
          cases surfaces.get? source with
          | none => rfl
          | some image => simp

@[simp] theorem nextKey_playAll (backend : Backend) (surfaces : Surfaces) (calls : List Call) :
    (calls.foldl backend.play surfaces).nextKey = surfaces.nextKey := by
  induction calls generalizing surfaces with
  | nil => rfl
  | cons call rest ih => rw [List.foldl_cons, ih, nextKey_play]

theorem nextKey_withRoom {surfaces after : Surfaces} {id : SurfaceId} {size : Size}
    {change : Surface → Surface} (done : surfaces.withRoom id size change = .ok after) :
    after.nextKey = surfaces.nextKey := by
  rcases withRoom_cases done with rfl | ⟨s, _, rfl⟩
  · rfl
  · exact surfaces.nextKey_set id _

end Surfaces

namespace Stage

/-- Whose a surface is: an output's, or the studio's. -/
def Claims (stage : Stage Framebuffer) (studio : Studio) : Option OutputId → SurfaceId → Prop
  | some id, surface => stage.Owned id surface
  | none, surface => studio.Holds surface

/-- Framebuffers and buffers as they are made, each on a surface of its own. -/
structure Furnished (stage : Stage Framebuffer) (studio : Studio) : Prop where
  alone : ∀ {who other surface}, stage.Claims studio who surface →
    stage.Claims studio other surface → who = other
  made : ∀ {who surface}, stage.Claims studio who surface →
    surface.index < stage.surfaces.nextKey.index

namespace Furnished

variable {stage after : Stage Framebuffer} {studio later : Studio}

theorem unshared (furnished : stage.Furnished studio) : stage.Unshared studio where
  outputs {id other surface} first second := by
    have one : stage.Claims studio (some id) surface := first
    have two : stage.Claims studio (some other) surface := second
    exact Option.some.inj (furnished.alone one two)
  buffers {id surface} owned held := by
    have one : stage.Claims studio (some id) surface := owned
    have two : stage.Claims studio none surface := held
    cases furnished.alone one two

theorem empty : ({} : Stage Framebuffer).Furnished {} := by
  have unclaimed : ∀ {who surface}, ¬ ({} : Stage Framebuffer).Claims {} who surface := by
    intro who surface claim
    cases who with
    | some id =>
        rcases claim with ⟨device, found, _⟩
        cases found
    | none =>
        rcases claim with ⟨id, buffer, found, _⟩
        cases found
  exact ⟨fun claim => absurd claim unclaimed, fun claim => absurd claim unclaimed⟩

/-- One more that takes the next surface, and nobody else that takes another. -/
theorem grow (furnished : stage.Furnished studio) (new : Option OutputId)
    (grown : after.surfaces.nextKey.index = stage.surfaces.nextKey.index + 1)
    (claims : ∀ {who surface}, after.Claims later who surface →
      (who = new ∧ surface = stage.surfaces.nextKey) ∨ stage.Claims studio who surface) :
    after.Furnished later := by
  have fresh : ∀ {who}, ¬ stage.Claims studio who stage.surfaces.nextKey :=
    fun claim => Nat.lt_irrefl _ (furnished.made claim)
  constructor
  · intro who other surface first second
    rcases claims first with ⟨here, rfl⟩ | first
    · rcases claims second with ⟨there, _⟩ | second
      · rw [here, there]
      · exact absurd second fresh
    · rcases claims second with ⟨_, rfl⟩ | second
      · exact absurd first fresh
      · exact furnished.alone first second
  · intro who surface claim
    rw [grown]
    rcases claims claim with ⟨_, rfl⟩ | claim
    · exact Nat.lt_succ_self _
    · exact Nat.lt_succ_of_lt (furnished.made claim)

theorem addFramebuffer (furnished : stage.Furnished studio) (config : Framebuffer.Config)
    {f : Framebuffer} {surfaces : Surfaces}
    (made : Framebuffer.create stage.surfaces config = .ok (f, surfaces)) :
    (({ stage with surfaces } : Stage Framebuffer).addOutput f).Furnished studio := by
  rcases ok_of_bind made with ⟨_, created, same⟩
  cases same
  rcases Surfaces.of_create created with ⟨grown, own⟩
  refine furnished.grow (some stage.outputs.nextKey) (by simp [addOutput, grown]) ?_
  intro who surface claim
  cases who with
  | none => exact .inr claim
  | some id =>
      rcases claim with ⟨device, found, owned⟩
      by_cases added : id = stage.outputs.nextKey
      · rw [added] at found
        cases (stage.outputs.get?_add_next _).symm.trans found
        exact .inl ⟨congrArg some added, owned.trans own⟩
      · exact .inr ⟨device, (stage.outputs.get?_add_other _ added).symm.trans found, owned⟩

theorem createBuffer (furnished : stage.Furnished studio) {format : Format} {size : Size}
    {surfaces : Surfaces} {id : BufferId}
    (made : studio.create stage.surfaces format size = .ok (later, surfaces, id)) :
    ({ stage with surfaces } : Stage Framebuffer).Furnished later := by
  rcases Studio.of_create made with ⟨b, created, _, rfl⟩
  rcases Surfaces.of_create created with ⟨rfl, own⟩
  refine furnished.grow none (by simp) ?_
  intro who surface claim
  cases who with
  | some id => exact .inr claim
  | none =>
      rcases claim with ⟨key, buffer, found, lies⟩
      by_cases added : key = studio.buffers.nextKey
      · rw [added] at found
        cases (studio.buffers.get?_add_next _).symm.trans found
        exact .inl ⟨rfl, lies.symm.trans own⟩
      · exact .inr ⟨key, buffer, (studio.buffers.get?_add_other _ added).symm.trans found, lies⟩

theorem keep (furnished : stage.Furnished studio)
    (claims : ∀ {who surface}, after.Claims studio who surface → stage.Claims studio who surface)
    (room : after.surfaces.nextKey = stage.surfaces.nextKey) : after.Furnished studio where
  alone first second := furnished.alone (claims first) (claims second)
  made claim := by
    rw [room]
    exact furnished.made (claims claim)

theorem record (furnished : stage.Furnished studio) (events : List Event) :
    (stage.record events).Furnished studio :=
  ⟨furnished.alone, furnished.made⟩

theorem act (furnished : stage.Furnished studio) (id : OutputId) {α : Type} (otherwise : α)
    {f : Rig Framebuffer → Rig Framebuffer × α}
    (surface : ∀ rig, (f rig).1.device.surface = rig.device.surface)
    (room : ∀ rig, (f rig).1.surfaces.nextKey = rig.surfaces.nextKey) :
    (stage.act id otherwise f).1.Furnished studio := by
  cases found : stage.outputs.get? id with
  | none => simpa [found] using furnished
  | some device =>
      rw [act_of_found f found]
      refine furnished.keep ?_ (room _)
      intro who claimed claim
      cases who with
      | none => exact claim
      | some other =>
          rcases claim with ⟨owner, there, own⟩
          change (stage.outputs.set id _).get? other = some owner at there
          by_cases same : other = id
          · subst same
            rw [Registry.get?_set_self found] at there
            cases there
            exact ⟨device, found, own.trans (surface _)⟩
          · rw [Registry.get?_set_other _ same] at there
            exact ⟨owner, there, own⟩

theorem perform (furnished : stage.Furnished studio) (r : Renderer) :
    (stage.perform r).Furnished studio := by
  rw [Stage.perform_eq]
  exact furnished.keep (fun claim => claim) (by simp)

theorem beginUpdates (furnished : stage.Furnished studio) (id : OutputId) :
    (stage.beginUpdates id).Furnished studio :=
  (furnished.record _).act id () (fun _ => rfl) fun _ => rfl

theorem endUpdates (furnished : stage.Furnished studio) (id : OutputId) :
    (stage.endUpdates id).Furnished studio := by
  refine (furnished.record _).act id () ?_ fun _ => rfl
  intro rig
  change rig.device.endBatch.surface = rig.device.surface
  rw [Framebuffer.endBatch]
  split <;> rfl

theorem requestRenderer (furnished : stage.Furnished studio) (id : OutputId) (area : Rect) :
    (stage.requestRenderer id area).1.Furnished studio :=
  (furnished.record _).act id none (fun _ => rfl) fun _ => rfl

theorem setResolution (furnished : stage.Furnished studio) (id : OutputId) (size : Size) :
    (stage.setResolution id size).1.Furnished studio := by
  refine furnished.act id _ ?_ ?_ <;> intro rig <;> simp only [Output.setResolution]
  · split
    · split <;> rfl
    · rfl
  · split
    · split
      · rename_i resized
        exact Surfaces.nextKey_withRoom resized
      · rfl
    · rfl

theorem repaint {progress : Stage Framebuffer × Report} (furnished : progress.1.Furnished studio)
    (v : Viewport) (tree : Tree) (drawn : Studio) (output r : Rect) :
    (v.repaint tree drawn output progress r).1.Furnished studio := by
  cases shown : v.deviceArea? output r with
  | none => rwa [Viewport.repaint_of_hidden shown]
  | some area =>
      have asked := furnished.requestRenderer v.output area
      rw [v.repaint_of_shown tree drawn shown]
      cases (progress.1.requestRenderer v.output area).2 with
      | none => exact asked.record _
      | some given => exact (asked.record _).perform _

theorem repaintAll (furnished : stage.Furnished studio) (v : Viewport) (tree : Tree)
    (drawn : Studio) : (v.repaintAll tree drawn stage).1.Furnished studio := by
  have painted (output : Rect) (rects : List Rect) (progress : Stage Framebuffer × Report)
      (furnished : progress.1.Furnished studio) :
      (rects.foldl (v.repaint tree drawn output) progress).1.Furnished studio := by
    induction rects generalizing progress with
    | nil => exact furnished
    | cons r rest ih =>
        rw [List.foldl_cons]
        exact ih _ (furnished.repaint v tree drawn output r)
  rw [Viewport.repaintAll]
  cases v.damage.isEmpty with
  | true => exact furnished
  | false =>
      have begun := furnished.beginUpdates v.output
      exact (painted _ v.damage.coalesce.rects (stage.beginUpdates v.output, _) begun).endUpdates
        v.output

end Furnished

end Stage

namespace Screen

section Furnished

variable {s : Screen} {stage : Stage Framebuffer}

def Operation.Furnishes : Operation Framebuffer → Prop
  | replace studio stage => stage.Furnished studio
  | _ => True

@[simp] theorem settle_studio (s : Screen) (changed : Viewport × Timers × Option TimerId) :
    (s.settle changed).studio = s.studio := rfl

theorem invalidate_studio (s : Screen) (r : Rect) : (s.invalidate r).1.studio = s.studio := by
  have damaged (vs : List Viewport) (s : Screen) :
      (vs.foldl (fun s v => s.damageViewport v r) s).studio = s.studio := by
    induction vs generalizing s with
    | nil => rfl
    | cons v rest ih =>
        rw [List.foldl_cons, ih]
        exact s.settle_studio _
  exact damaged _ s

theorem furnished_turns {start last : Progress Framebuffer} {turns : List (Turn Framebuffer)}
    (furnished : start.2.1.Furnished start.1.studio) (follow : Turns start turns last) :
    last.2.1.Furnished last.1.studio := by
  induction follow with
  | done progress => exact furnished
  | next outcome rest ih =>
      apply ih
      cases outcome with
      | gone => exact furnished
      | undamaged v found clean => exact furnished
      | painted v found => exact furnished.repaintAll v _ _

theorem perform_furnished (inStep : s.InStep []) (furnished : stage.Furnished s.studio)
    {operation : Operation Framebuffer} (furnishes : operation.Furnishes) :
    (perform (s, stage) operation).2.Furnished (perform (s, stage) operation).1.studio := by
  have found {id : ViewportId} {change : Viewport → Except ScreenFault Screen}
      (keeps : ∀ v, s.viewports.get? v.id = some v →
        stage.Furnished ((change v).toOption.getD s).studio) :
      stage.Furnished (((s.find id).bind change).toOption.getD s).studio :=
    find_elim (motive := fun after => stage.Furnished after.studio) inStep.named id furnished keeps
  cases operation with
  | attach output => simpa [perform, attach, damageViewport] using furnished
  | detach id =>
      cases there : s.viewports.get? id with
      | none => simpa [perform, detach, find, there, Except.map, Except.toOption] using furnished
      | some v =>
          simpa [perform, detach_eq there (inStep.named id v there), Except.map, Except.toOption]
            using furnished
  | invalidate r =>
      change stage.Furnished (s.invalidate r).1.studio
      rwa [invalidate_studio]
  | setSize id size => exact found fun _ _ => furnished
  | moveTo id corner => exact found fun _ _ => furnished
  | setResolution id size =>
      cases there : s.viewports.get? id with
      | none => simpa [perform, setResolution, find, there, Except.toOption] using furnished
      | some v =>
          have switched := furnished.setResolution v.output size
          simp only [perform, setResolution, find, there, Viewport.setResolution]
          cases (stage.setResolution v.output size).2 <;> exact switched
  | setRoot root =>
      change stage.Furnished (s.setRoot root).studio
      rw [setRoot]
      split
      · rwa [invalidate_studio]
      · exact furnished
  | processTimers instant =>
      rcases processTimers_turns inStep stage instant with ⟨last, done, _, follow⟩
      simp only [perform, done]
      exact furnished_turns furnished follow
  | flush =>
      rcases flush_turns inStep stage with ⟨last, done, _, follow⟩
      simp only [perform, done]
      exact furnished_turns furnished follow
  | untilNext => exact furnished
  | advance ticks => exact furnished
  | replace studio stage => exact furnishes

/-- Framebuffers and buffers that start out each on a surface of its own stay so, whatever is asked
of the screen that shows them. -/
theorem performAll_furnished (inStep : s.InStep []) (furnished : stage.Furnished s.studio)
    {operations : List (Operation Framebuffer)}
    (furnishes : ∀ operation ∈ operations, operation.Furnishes) :
    (performAll (s, stage) operations).2.Furnished (performAll (s, stage) operations).1.studio := by
  induction operations generalizing s stage with
  | nil => exact furnished
  | cons operation rest ih =>
      rcases List.forall_mem_cons.mp furnishes with ⟨here, later⟩
      exact ih (perform_inStep inStep stage operation)
        (perform_furnished inStep furnished here) later

end Furnished

end Screen

end Compositing

