import PoolPricing.Proofs.Document.Field
import PoolPricing.Snapshot.Document
import Mathlib.Algebra.Group.Int.Defs
import Mathlib.Data.List.Basic
set_option autoImplicit false

namespace PoolPricing

open PoolPricing.Document (Fields Value)

namespace Text

end Text

namespace Snapshot.Document

end Snapshot.Document
end PoolPricing
