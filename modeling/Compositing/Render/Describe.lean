import Compositing.Render.Renderer
import Compositing.Text.Quoted

/-!
A renderer in words.
-/

namespace Compositing

def Region.describe (r : Region) : String :=
  s!"RenderRegion \x7b clip: {r.clip.describe}, translate_x: {r.origin.x}, " ++
    s!"translate_y: {r.origin.y} \x7d"

def Tally.describe (t : Tally) : String :=
  s!"RenderStats \x7b blits: {t.blits}, fills: {t.fills}, skipped: {t.skipped} \x7d"

namespace Renderer

def describe (r : Renderer) : String :=
  let regions := ", ".intercalate (r.regions.reverse.map Region.describe)
  let options := ", ".intercalate <| r.options.entries.map fun (key, value) =>
    s!"{Text.quoted key}: {Text.quoted value}"
  s!"Renderer \x7b regions: [{regions}], baseline: {r.baseline}, " ++
    s!"options: \x7b{options}\x7d, phase: {r.phase.name}, stats: {r.tally.describe}, .. \x7d"

end Renderer

end Compositing
