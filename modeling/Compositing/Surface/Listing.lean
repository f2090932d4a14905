import Compositing.Surface.Export
import Compositing.Text.Hex
import Compositing.Text.Runs

/-!
A surface as lines of text, one for each run of equal rows, and in each row one group for each
run of pixels that are written the same.
-/

namespace Compositing.Surface

def rowLine (text : Pixel → String) (row : List Pixel) : String :=
  " ".intercalate ((Text.runs (row.map text)).map fun (pixel, n) => s!"{n}*{pixel}")

def repeated (line : String) (count : Nat) : String := s!"{count}x {line}"

/-- The rows from top to bottom, each pixel in the given writing. Without columns every row is
the same empty line. -/
def listing (s : Surface) (text : Pixel → String) : List String :=
  if s.width ≤ 0 then
    if s.height ≤ 0 then [] else [repeated "" s.height.toNatClampNeg]
  else
    let lines := (coordinates 0 s.height).map fun y => rowLine text (s.row y)
    (Text.runs lines).map fun (line, count) => repeated line count

end Compositing.Surface
