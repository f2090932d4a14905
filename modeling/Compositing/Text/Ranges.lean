/-!
Sets of characters as ranges of code points. The tables over them follow Unicode 17.0.
-/

namespace Compositing.Text

/-- Ranges of code points, both ends included. -/
abbrev Ranges := List (Nat × Nat)

namespace Ranges

def holds (ranges : Ranges) (c : Char) : Bool :=
  ranges.any fun (first, last) => first ≤ c.toNat && c.toNat ≤ last

def ascending : Ranges → Bool
  | [] => true
  | [range] => range.1 ≤ range.2
  | range :: next :: rest =>
      range.1 ≤ range.2 && range.2 < next.1 && ascending (next :: rest)

def count (ranges : Ranges) : Nat :=
  ranges.foldl (fun total (first, last) => total + (last + 1 - first)) 0

end Ranges

end Compositing.Text
