/-!
Log entries: a level, the part of the system that speaks, a message and named values.
-/

namespace Compositing

namespace Log

inductive Level
  | warn
  | error
  deriving DecidableEq, Repr

def Level.name : Level → String
  | warn => "WARN"
  | error => "ERROR"

inductive Subsystem
  | buffer
  | painter
  | renderer
  | viewport
  | video
  deriving DecidableEq, Repr

def Subsystem.target : Subsystem → String
  | buffer => "horizon_compositor_render::buffer"
  | painter => "horizon_compositor_render::painter"
  | renderer => "horizon_compositor_render::renderer"
  | viewport => "horizon_compositor::viewport"
  | video => "horizon_compositor::video"

structure Entry where
  level : Level
  subsystem : Subsystem
  message : String
  fields : List (String × String) := []
  deriving DecidableEq, Repr

def Entry.text (e : Entry) : String :=
  e.fields.foldl (fun text field => text ++ s!" {field.1}={field.2}")
    s!"{e.level.name} {e.subsystem.target} {e.message}"

end Log

end Compositing
