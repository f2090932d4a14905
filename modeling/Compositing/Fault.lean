import Compositing.Geometry.Rect
import Compositing.Log
import Compositing.Timers

/-!
What can go wrong. Empty and disjoint areas never do: a fault is a caller's misuse, and what
raises it leaves its object as it was.
-/

namespace Compositing

inductive Fault
  | unmatchedRestore
  | unmatchedLeave (depth : Nat)
  | resizeOpen
  | resizeNotOpen
  | paintersOpen (count : Nat)
  | deadBuffer
  | deadPainter
  /-- No storage is as large as that. -/
  | tooLarge (size : Size)
  deriving DecidableEq, Repr

namespace Fault

def message : Fault → String
  | unmatchedRestore => "painter state stack underflow"
  | unmatchedLeave _ => "renderer region stack underflow"
  | resizeOpen => "buffer resize already in progress"
  | resizeNotOpen => "no buffer resize in progress"
  | paintersOpen count => s!"buffer has {count} open painter(s)"
  | deadBuffer => "invalid or destroyed buffer"
  | deadPainter => "invalid or destroyed painter"
  | tooLarge size => s!"no storage for {size.width}x{size.height} pixels"

def log : Fault → List Log.Entry
  | unmatchedRestore => [⟨.warn, .painter, "painter restore without matching save", []⟩]
  | unmatchedLeave depth =>
      [⟨.error, .renderer, "unmatched renderer leave", [("depth", toString depth)]⟩]
  | resizeOpen => [⟨.error, .buffer, "begin_resize called while a resize is in progress", []⟩]
  | resizeNotOpen => [⟨.error, .buffer, "end_resize called without begin_resize", []⟩]
  | paintersOpen count =>
      [⟨.error, .buffer, "refusing to resize buffer with open painters",
        [("open", toString count)]⟩]
  | deadBuffer | deadPainter | tooLarge _ => []

end Fault

inductive ScreenFault
  | misuse (fault : Fault)
  | timer (fault : TimerFault)
  | unknownViewport (id : ViewportId)
  | unsupportedResolution (size : Size)
  deriving DecidableEq, Repr

namespace ScreenFault

def cause? : ScreenFault → Option String
  | misuse fault => some fault.message
  | timer fault => some s!"Timer error: {fault.message}"
  | unknownViewport _ | unsupportedResolution _ => none

def message : ScreenFault → String
  | misuse fault => s!"render error: {fault.message}"
  | timer fault => s!"core error: Timer error: {fault.message}"
  | unknownViewport id => s!"unknown viewport {id.index}"
  | unsupportedResolution size => s!"unsupported resolution: {size.width}x{size.height}"

end ScreenFault

section Sequence

variable {ε α β : Type} (a : α) (fault : ε) (next : α → Except ε β)

@[simp] theorem ok_bind : (Except.ok a >>= next) = next a := rfl

@[simp] theorem error_bind : (Except.error fault >>= next) = .error fault := rfl

@[simp] theorem pure_eq_ok : (pure a : Except ε α) = .ok a := rfl

theorem ok_of_bind {first : Except ε α} {next : α → Except ε β} {b : β}
    (done : first >>= next = .ok b) : ∃ a, first = .ok a ∧ next a = .ok b := by
  cases first with
  | error fault => cases done
  | ok a => exact ⟨a, rfl, done⟩

end Sequence

end Compositing
