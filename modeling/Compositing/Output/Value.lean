/-!
Arguments and results of the requests that an output answers in a way of its own.
-/

namespace Compositing

inductive Value
  /-- The output does not know the request. -/
  | unsupported
  | nothing
  | flag (value : Bool)
  | number (value : Int64)
  | text (value : String)
  | tuple (values : List Value)
  deriving Repr, Inhabited

namespace Value

def isUnsupported : Value → Bool
  | unsupported => true
  | _ => false

def text? : Value → Option String
  | text value => some value
  | _ => none

def number? : Value → Option Int64
  | number value => some value
  | _ => none

end Value

end Compositing
