import Mathlib.Data.List.Infix
import Compositing.Proofs.InPlace
import Compositing.Proofs.Links
import Compositing.Proofs.Premultiplied

/-! Saving and restoring. Of a run that restores whatever it saves, in the reverse order, nothing is
left to be seen in the frame that it began in, nor in any below; and none of its restores fails. -/

namespace Compositing

namespace Brackets

variable {σ α τ : Type}

/-- Words in which whatever is opened is closed again, by what closes it, and where what is opened
last is closed first. -/
inductive Matched (quiet : α → Prop) (closes : α → α → Prop) : List α → Prop
  | nil : Matched quiet closes []
  | quiet {act : α} {rest : List α} (silent : quiet act) (after : Matched quiet closes rest) :
      Matched quiet closes (act :: rest)
  | bracket {first last : α} {body rest : List α} (pair : closes first last)
      (inside : Matched quiet closes body) (after : Matched quiet closes rest) :
      Matched quiet closes (first :: (body ++ last :: rest))

/-- What the steps of a machine have to do with its stacks. A state is atop another where all that
was on the stacks of the other still lies at the bottom of its own. -/
structure Stacked (step : σ → α → Option σ) (quiet : α → Prop) (closes : α → α → Prop)
    (held : σ → τ) (atop : σ → σ → Prop) : Prop where
  level : ∀ {s now}, held now = held s → atop s now
  trans : ∀ {s now later}, atop s now → atop now later → atop s later
  stays : ∀ s act, quiet act → ∃ next, step s act = some next ∧ held next = held s
  opens : ∀ s first last, closes first last → ∃ opened, step s first = some opened ∧
    atop s opened ∧ ∀ now, held now = held opened →
      ∃ closed, step now last = some closed ∧ held closed = held s

theorem foldlM_cons_some {step : σ → α → Option σ} {s next : σ} {act : α}
    (steps : step s act = some next) (rest : List α) :
    (act :: rest).foldlM step s = rest.foldlM step next := by
  rw [List.foldlM_cons, steps, Option.bind_eq_bind, Option.bind_some]

theorem foldlM_append_some {step : σ → α → Option σ} {s next : σ} {first : List α}
    (runs : first.foldlM step s = some next) (second : List α) :
    (first ++ second).foldlM step s = second.foldlM step next := by
  rw [List.foldlM_append, runs, Option.bind_eq_bind, Option.bind_some]

theorem prefix_append {first second done : List α} (early : done <+: first ++ second) :
    done <+: first ∨ ∃ part, done = first ++ part ∧ part <+: second := by
  rcases early with ⟨left, whole⟩
  rcases List.append_eq_append_iff.mp whole with ⟨part, same, _⟩ | ⟨part, same, rest⟩
  · exact .inl ⟨part, same.symm⟩
  · exact .inr ⟨part, same, left, rest.symm⟩

variable {step : σ → α → Option σ} {quiet : α → Prop} {closes : α → α → Prop} {held : σ → τ}
  {atop : σ → σ → Prop} (stacked : Stacked step quiet closes held atop)

include stacked

theorem Matched.runs {word : List α} (matched : Matched quiet closes word) (s : σ) :
    ∃ last, word.foldlM step s = some last ∧ held last = held s := by
  induction matched generalizing s with
  | nil => exact ⟨s, rfl, rfl⟩
  | @quiet act rest silent after ih =>
      rcases stacked.stays s act silent with ⟨next, steps, same⟩
      rcases ih next with ⟨last, runs, level⟩
      exact ⟨last, (foldlM_cons_some steps rest).trans runs, level.trans same⟩
  | @bracket first last body rest pair inside after inside_ih after_ih =>
      rcases stacked.opens s first last pair with ⟨opened, opens, _, closing⟩
      rcases inside_ih opened with ⟨now, runs, level⟩
      rcases closing now level with ⟨closed, closes, back⟩
      rcases after_ih closed with ⟨final, finishes, same⟩
      refine ⟨final, ?_, same.trans back⟩
      calc (first :: (body ++ last :: rest)).foldlM step s
          = (body ++ last :: rest).foldlM step opened := foldlM_cons_some opens _
        _ = (last :: rest).foldlM step now := foldlM_append_some runs _
        _ = rest.foldlM step closed := foldlM_cons_some closes rest
        _ = some final := finishes

/-- Also on the way nothing fails, and nothing is taken from the stacks that was there before. -/
theorem Matched.stays_atop {word : List α} (matched : Matched quiet closes word) (s : σ)
    {done : List α} (early : done <+: word) :
    ∃ now, done.foldlM step s = some now ∧ atop s now := by
  induction matched generalizing s done with
  | nil =>
      rw [List.prefix_nil.mp early]
      exact ⟨s, rfl, stacked.level rfl⟩
  | @quiet act rest silent after ih =>
      rcases List.prefix_cons_iff.mp early with rfl | ⟨part, rfl, within⟩
      · exact ⟨s, rfl, stacked.level rfl⟩
      · rcases stacked.stays s act silent with ⟨next, steps, same⟩
        rcases ih next within with ⟨now, runs, above⟩
        exact ⟨now, (foldlM_cons_some steps part).trans runs,
          stacked.trans (stacked.level same) above⟩
  | @bracket first last body rest pair inside after inside_ih after_ih =>
      rcases List.prefix_cons_iff.mp early with rfl | ⟨part, rfl, within⟩
      · exact ⟨s, rfl, stacked.level rfl⟩
      · rcases stacked.opens s first last pair with ⟨opened, opens, higher, closing⟩
        rw [foldlM_cons_some opens]
        rcases prefix_append within with within | ⟨part, rfl, past⟩
        · rcases inside_ih opened within with ⟨now, runs, above⟩
          exact ⟨now, runs, stacked.trans higher above⟩
        · rcases inside.runs stacked opened with ⟨now, runs, level⟩
          rw [foldlM_append_some runs]
          rcases List.prefix_cons_iff.mp past with rfl | ⟨part, rfl, later⟩
          · exact ⟨now, rfl, stacked.trans higher (stacked.level level)⟩
          · rcases closing now level with ⟨closed, closes, back⟩
            rw [foldlM_cons_some closes]
            rcases after_ih closed later with ⟨now, runs, above⟩
            exact ⟨now, runs, stacked.trans (stacked.level back) above⟩

/-- What a bracket comes to is what its last step does, once the stacks are what its first step made
of them. -/
theorem Matched.closing {first last : α} {body : List α} (matched : Matched quiet closes body)
    {s opened : σ} (opens : step s first = some opened) :
    ∃ now, held now = held opened ∧ (first :: (body ++ [last])).foldlM step s = step now last := by
  rcases matched.runs stacked opened with ⟨now, runs, level⟩
  refine ⟨now, level, ?_⟩
  calc (first :: (body ++ [last])).foldlM step s
      = (body ++ [last]).foldlM step opened := foldlM_cons_some opens _
    _ = [last].foldlM step now := foldlM_append_some runs _
    _ = step now last := bind_pure _

end Brackets

open Brackets

namespace Brush

/-- Performs an operation, unless it is to restore where nothing is saved. -/
def attempt? (scene : Scene) : Operation → Option Scene
  | .restore => scene.1.restore?.map (·, scene.2)
  | operation => some (perform scene operation)

def Operation.Quiet : Operation → Prop
  | .save | .restore => False
  | _ => True

inductive Operation.Closes : Operation → Operation → Prop
  | frame : Closes .save .restore

def held (b : Brush) : SurfaceId × List Frame := (b.target, b.saved)

theorem restore?_of_held {b opened now : Brush} (opens : opened = b.save)
    (level : now.held = opened.held) : now.restore? = some b := by
  rcases now with ⟨target, frame, saved⟩
  subst opens
  cases level
  rfl

theorem stacked : Stacked attempt? Operation.Quiet Operation.Closes (fun scene => scene.1.held)
    (fun scene now => scene.1.saved <:+ now.1.saved) where
  level := by
    intro scene now same
    have saved : now.1.saved = scene.1.saved := congrArg Prod.snd same
    rw [saved]
  trans := List.IsSuffix.trans
  stays scene operation quiet := by
    cases operation with
    | save | restore => exact quiet.elim
    | _ => exact ⟨_, rfl, rfl⟩
  opens scene first last pair := by
    cases pair
    refine ⟨_, rfl, List.suffix_cons _ _, ?_⟩
    intro now level
    refine ⟨(scene.1, now.2), ?_, rfl⟩
    rw [attempt?, restore?_of_held rfl level]
    rfl

end Brush

namespace Painter

inductive Act
  | ask (request : Request)
  | fill (color : Color) (r : Rect)
  | draw (source : SurfaceId) (place : Point)
  | brush (operation : Brush.Operation)

abbrev Scene := Painter × Surfaces

/-- Does what is to be done, unless it is to restore where nothing is saved. A detached painter has
no brush to use. -/
def attempt? (scene : Scene) : Act → Option Scene
  | .ask request => (scene.1.answer request).toOption.map (·, scene.2)
  | .fill color r => some (scene.1, scene.1.fill scene.2 color r)
  | .draw source place => some (scene.1, scene.1.draw scene.2 source place)
  | .brush operation =>
      match scene.1.attached with
      | none => some scene
      | some a => (Brush.attempt? (a.brush, scene.2) operation).map fun next =>
          ({ scene.1 with attached := some { a with brush := next.1 } }, next.2)

def Act.Quiet : Act → Prop
  | .ask .save | .ask .restore | .ask (.onBrush _) => False
  | .brush operation => operation.Quiet
  | _ => True

inductive Act.Closes : Act → Act → Prop
  | frame : Closes (.ask .save) (.ask .restore)
  | brush : Closes (.brush .save) (.brush .restore)

def brushSaved (p : Painter) : List Brush.Frame := (p.attached.map (·.brush.saved)).getD []

def held (p : Painter) : List Frame × Option (BufferId × SurfaceId × List Brush.Frame) :=
  (p.saved, p.attached.map fun a => (a.buffer, a.brush.held))

theorem brushSaved_eq (p : Painter) : p.brushSaved = (p.held.2.map (·.2.2)).getD [] := by
  rw [brushSaved, held, Option.map_map]
  rfl

section Held

variable {p now : Painter}

theorem held_onBrush (p : Painter) {change : Brush → Brush}
    (kept : ∀ b, (change b).held = b.held) : (p.onBrush change).held = p.held := by
  simp only [held, onBrush, Option.map_map, Function.comp_def, kept]

theorem attached_of_held (level : now.held = p.held) :
    now.attached = none ∧ p.attached = none ∨
      ∃ a b, now.attached = some b ∧ p.attached = some a ∧ b.buffer = a.buffer ∧
        b.brush.held = a.brush.held := by
  have seats := congrArg Prod.snd level
  simp only [held] at seats
  cases mine : p.attached with
  | none =>
      rw [mine, Option.map_none, Option.map_eq_none_iff] at seats
      exact .inl ⟨seats, rfl⟩
  | some a =>
      rw [mine, Option.map_some, Option.map_eq_some_iff] at seats
      rcases seats with ⟨b, there, same⟩
      exact .inr ⟨a, b, there, rfl, congrArg Prod.fst same, congrArg Prod.snd same⟩

theorem restore_of_held (level : now.held = p.save.held) : now.restore = .ok p := by
  have saved : now.saved = p.frame :: p.saved := congrArg Prod.fst level
  rw [restore, saved]
  rcases p with ⟨frame, saved, attached⟩
  rcases attached_of_held level with ⟨none, apart⟩ | ⟨a, b, found, there, buffer, brush⟩
  · cases attached with
    | none => simp only [onBrush, none, Option.map_none]
    | some _ => cases apart
  · cases attached with
    | none => cases there
    | some own =>
        cases there
        have back : b.brush.restore? = some own.brush := Brush.restore?_of_held rfl brush
        simp only [onBrush, found, Option.map_some, back, Option.getD_some, buffer]

end Held

theorem stacked : Stacked attempt? Act.Quiet Act.Closes (fun scene => scene.1.held)
    (fun scene now => scene.1.saved <:+ now.1.saved ∧ scene.1.brushSaved <:+ now.1.brushSaved) where
  level := by
    intro scene now same
    have saved : now.1.saved = scene.1.saved := congrArg Prod.fst same
    rw [saved, brushSaved_eq, brushSaved_eq, same]
    exact ⟨List.suffix_rfl, List.suffix_rfl⟩
  trans first second := ⟨first.1.trans second.1, first.2.trans second.2⟩
  stays scene act quiet := by
    cases act with
    | ask request =>
        cases request with
        | save | restore | onBrush => exact quiet.elim
        | setOwner owner => exact ⟨_, rfl, rfl⟩
        | placeOrigin | moveOrigin | clipTo | clipLocal =>
            exact ⟨_, rfl, held_onBrush _ fun _ => rfl⟩
    | fill | draw => exact ⟨_, rfl, rfl⟩
    | brush operation =>
        rw [attempt?]
        cases attached : scene.1.attached with
        | none => exact ⟨scene, rfl, rfl⟩
        | some a =>
            rcases Brush.stacked.stays (a.brush, scene.2) operation quiet with ⟨next, done, same⟩
            refine ⟨_, congrArg (Option.map _) done, ?_⟩
            simp only [held, attached, Option.map_some, same]
  opens scene first last pair := by
    rcases scene with ⟨p, surfaces⟩
    cases pair with
    | frame =>
        refine ⟨(p.save, surfaces), rfl, ⟨List.suffix_cons _ _, ?_⟩, ?_⟩
        · cases attached : p.attached with
          | none => simp [brushSaved, save, onBrush, attached]
          | some a => simp [brushSaved, save, onBrush, attached, Brush.save]
        · intro now level
          refine ⟨(p, now.2), ?_, rfl⟩
          rw [attempt?, answer, restore_of_held level]
          rfl
    | brush =>
        cases attached : p.attached with
        | none =>
            have idle (operation : Brush.Operation) {scene : Scene} (none : scene.1.attached = none) :
                attempt? scene (.brush operation) = some scene := by rw [attempt?, none]
            refine ⟨_, idle .save attached, ⟨List.suffix_rfl, List.suffix_rfl⟩, ?_⟩
            intro now level
            rcases attached_of_held level with ⟨none, _⟩ | ⟨a, _, _, there, _⟩
            · exact ⟨now, idle .restore none, level⟩
            · rw [attached] at there
              cases there
        | some a =>
            refine ⟨({ p with attached := some { a with brush := a.brush.save } }, surfaces), ?_,
              ⟨List.suffix_rfl, ?_⟩, ?_⟩
            · simp only [attempt?, attached]
              rfl
            · simp [brushSaved, attached, Brush.save]
            · intro now level
              rcases attached_of_held level with ⟨_, none⟩ | ⟨_, b, found, there, buffer, brush⟩
              · cases none
              · cases there
                have back : b.brush.restore? = some a.brush := Brush.restore?_of_held rfl brush
                refine ⟨({ now.1 with attached := some { b with brush := a.brush } }, now.2), ?_, ?_⟩
                · simp only [attempt?, found, Brush.attempt?, back, Option.map_some]
                · have saved : now.1.saved = p.saved := congrArg Prod.fst level
                  simp only [held, saved, attached, Option.map_some, buffer]

/-- What is saved comes back when it is restored, whatever is done in between, so long as all that is
saved there is restored there, last saved first. A painter has its origin, its clip, its owner and
its brush back, and so has a brush that is used by itself. No restore on the way fails, and what was
saved before stays at the bottom of the stacks all the time. Where nothing is saved, a restore fails
and changes nothing. -/
theorem saved_frame_returns :
    (∀ (p : Painter) (surfaces : Surfaces) (body : List Act),
      Matched Act.Quiet Act.Closes body →
      let word := .ask .save :: (body ++ [.ask .restore])
      (∃ after, word.foldlM attempt? (p, surfaces) = some (p, after)) ∧
        ∀ done, done <+: word → ∃ now after, done.foldlM attempt? (p, surfaces) = some (now, after) ∧
          p.saved <:+ now.saved ∧ p.brushSaved <:+ now.brushSaved) ∧
      (∀ (b : Brush) (surfaces : Surfaces) (body : List Brush.Operation),
        Matched Brush.Operation.Quiet Brush.Operation.Closes body →
        let word := .save :: (body ++ [.restore])
        (∃ after, word.foldlM Brush.attempt? (b, surfaces) = some (b, after)) ∧
          ∀ done, done <+: word → ∃ now after,
            done.foldlM Brush.attempt? (b, surfaces) = some (now, after) ∧ b.saved <:+ now.saved) ∧
      (∀ p : Painter, p.saved = [] → p.restore = .error .unmatchedRestore ∧
        restoreInPlace p = .error .unmatchedRestore p) ∧
      ∀ b : Brush, b.saved = [] → b.restore? = none ∧ b.restoreInPlace = .error () b := by
  refine ⟨?_, ?_, ?_, ?_⟩
  · intro p surfaces body matched word
    constructor
    · have opens : attempt? (p, surfaces) (.ask .save) = some (p.save, surfaces) := rfl
      rcases matched.closing stacked opens with ⟨now, level, closing⟩
      refine ⟨now.2, closing.trans ?_⟩
      rw [attempt?, answer, restore_of_held level]
      rfl
    · intro done early
      have whole : Matched Act.Quiet Act.Closes word := .bracket .frame matched .nil
      rcases whole.stays_atop stacked (p, surfaces) early with ⟨now, runs, atop⟩
      exact ⟨now.1, now.2, runs, atop⟩
  · intro b surfaces body matched word
    constructor
    · have opens : Brush.attempt? (b, surfaces) .save = some (b.save, surfaces) := rfl
      rcases matched.closing Brush.stacked opens with ⟨now, level, closing⟩
      refine ⟨now.2, closing.trans ?_⟩
      rw [Brush.attempt?, Brush.restore?_of_held rfl level]
      rfl
    · intro done early
      have whole : Matched Brush.Operation.Quiet Brush.Operation.Closes word :=
        .bracket .frame matched .nil
      rcases whole.stays_atop Brush.stacked (b, surfaces) early with ⟨now, runs, atop⟩
      exact ⟨now.1, now.2, runs, atop⟩
  · intro p base
    have refused : p.restore = .error .unmatchedRestore := by rw [restore, base]
    refine ⟨refused, ?_⟩
    rw [restoreInPlace_eq, refused]
    rfl
  · intro b base
    have refused : b.restore? = none := by rw [Brush.restore?, base]
    refine ⟨refused, ?_⟩
    rw [Brush.restoreInPlace_eq, Brush.restored, refused]
    rfl

def interleaved : List Act :=
  [.ask (.clipTo ⟨1, 0, 5, 5⟩), .brush .save, .brush (.setOperator .sourceOnly), .ask .save,
    .ask (.moveOrigin ⟨3, 0⟩), .fill .white ⟨0, 0, 2, 2⟩, .ask .restore, .brush .restore]

/-- Here the brush has nothing saved where the painter has. -/
def misaligned : Painter :=
  { frame := { origin := ⟨7, 7⟩ }, saved := [{}], attached := some ⟨⟨0⟩, { target := ⟨0⟩ }⟩ }

theorem saved_frame_returns_interleaved :
    (∃ after, (.ask .save :: (interleaved ++ [.ask .restore])).foldlM attempt?
        (misaligned, Registry.add {} Brush.tricolour) = some (misaligned, after)) ∧
      restoreInPlace { misaligned with saved := [] } =
        .error .unmatchedRestore { misaligned with saved := [] } := by
  rcases saved_frame_returns with ⟨painter, _, refuses, _⟩
  have matched : Matched Act.Quiet Act.Closes interleaved :=
    .quiet trivial <| @Matched.bracket _ _ _ _ _ [_, _, _, _, _] [] .brush
      (.quiet trivial <| @Matched.bracket _ _ _ _ _ [_, _] [] .frame
        (.quiet trivial <| .quiet trivial .nil) .nil) .nil
  rcases painter misaligned (Registry.add {} Brush.tricolour) interleaved matched with ⟨returns, _⟩
  exact ⟨returns, (refuses _ rfl).2⟩

end Painter

end Compositing
