import Compositing.Text.Hex
import Compositing.Text.Invisible

/-!
Quoted text: between double quotes, with a backslash before quotes and backslashes, short escapes
for the common controls, and the code point of every other invisible character.
-/

namespace Compositing.Text

def escape (c : Char) : String :=
  match c with
  | '\x00' => "\\0"
  | '\t' => "\\t"
  | '\n' => "\\n"
  | '\r' => "\\r"
  | '"' => "\\\""
  | '\\' => "\\\\"
  | c =>
      if isInvisible c then "\\u\x7b" ++ hex 1 c.toNat ++ "\x7d" else c.toString

def quoted (s : String) : String := "\"" ++ String.join (s.toList.map escape) ++ "\""

end Compositing.Text
