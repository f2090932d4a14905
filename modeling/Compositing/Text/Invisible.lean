import Compositing.Text.Extending
import Compositing.Text.Shapeless
import Compositing.Text.Unassigned

/-!
Characters that cannot be read off a page by themselves.
-/

namespace Compositing.Text

def isInvisible (c : Char) : Bool := shapeless.holds c || extending.holds c || unassigned.holds c

end Compositing.Text
