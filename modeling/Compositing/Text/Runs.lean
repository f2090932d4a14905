/-!
Runs: a list as its stretches of equal neighbours.
-/

namespace Compositing.Text

def runs {α : Type} [DecidableEq α] : List α → List (α × Nat)
  | [] => []
  | a :: rest =>
      match runs rest with
      | [] => [(a, 1)]
      | (b, n) :: others => if a = b then (b, n + 1) :: others else (a, 1) :: (b, n) :: others

end Compositing.Text
