/-!
Numbers and bytes in base 16, in lower case.
-/

namespace Compositing.Text

def hex (width n : Nat) : String :=
  let digits := Nat.toDigits 16 n
  String.ofList (List.replicate (width - digits.length) '0' ++ digits)

def ofHex (digits : String) : Nat :=
  digits.toList.foldl (fun n c => 16 * n + "0123456789abcdef".toList.idxOf c.toLower) 0

def hexBytes (bytes : List UInt8) : String := String.join (bytes.map fun b => hex 2 b.toNat)

end Compositing.Text
