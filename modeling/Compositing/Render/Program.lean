import Compositing.Render.Describe
import Compositing.Studio

/-!
Programs for a renderer: the calls that a widget tree makes in one pass, in the order in which it
makes them, and the answers that it gets.
-/

namespace Compositing

inductive Step
  | enter (area : Rect) (offset : Point)
  | leave
  | render (buffer : BufferId) (corner : Point)
  | copy (buffer : BufferId) (corner : Point)
  | fill (color : Color) (area : Rect)
  | setOption (key : String) (value : Option String)
  | option (key : String)
  | complete
  | inspect
  | describe
  /-- Enters a region and, if it was entered, runs the body and leaves. -/
  | within (area : Rect) (offset : Point) (body : List Step)
  deriving Inhabited

inductive Answer
  | nothing
  | entered (entered : Bool)
  | left (fault : Option Fault)
  /-- The buffer is not in the studio. -/
  | deadBuffer
  | option (value : Option String)
  | tally (tally : Tally)
  | text (text : String)
  deriving Inhabited

inductive Reply
  | plain (answer : Answer) (after : Renderer)
  | rejected (after : Renderer)
  | within (body : List Reply) (left : Option Fault) (after : Renderer)
  deriving Inhabited

namespace Step

def draw (studio : Studio) (r : Renderer) (operator : Operator) (buffer : BufferId)
    (corner : Point) : Renderer × Answer :=
  match studio.buffers.get? buffer with
  | some buffer => (r.blit operator buffer corner, .nothing)
  | none => (r, .deadBuffer)

mutual

def run (studio : Studio) (r : Renderer) : Step → Renderer × Reply
  | .enter area offset =>
      let after := r.enter? area offset
      let r := after.getD r
      (r, .plain (.entered after.isSome) r)
  | .leave =>
      let (r, fault) := r.leaveOrReport
      (r, .plain (.left fault) r)
  | .render buffer corner =>
      let (r, answer) := draw studio r .sourceOver buffer corner
      (r, .plain answer r)
  | .copy buffer corner =>
      let (r, answer) := draw studio r .sourceOnly buffer corner
      (r, .plain answer r)
  | .fill color area =>
      let r := r.fill color area
      (r, .plain .nothing r)
  | .setOption key value =>
      let r := r.setOption key value
      (r, .plain .nothing r)
  | .option key => (r, .plain (.option (r.option? key)) r)
  | .complete =>
      let r := r.complete
      (r, .plain (.tally r.tally) r)
  | .inspect => (r, .plain .nothing r)
  | .describe => (r, .plain (.text r.describe) r)
  | .within area offset body =>
      match r.enter? area offset with
      | none => (r, .rejected r)
      | some entered =>
          let (r, replies) := runAll studio entered body
          let (r, fault) := r.leaveOrReport
          (r, .within replies fault r)

def runAll (studio : Studio) (r : Renderer) : List Step → Renderer × List Reply
  | [] => (r, [])
  | step :: steps =>
      let (r, reply) := run studio r step
      let (r, replies) := runAll studio r steps
      (r, reply :: replies)

end

end Step

/-- A widget tree: what it does with the renderer that it is given and the studio's buffers. -/
abbrev Tree := Renderer → Studio → List Step

end Compositing
