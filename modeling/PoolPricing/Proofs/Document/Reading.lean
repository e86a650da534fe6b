import PoolPricing.Proofs.Document.Meaning
import PoolPricing.Proofs.Document.Numbers
import Mathlib.Data.List.Forall2
set_option autoImplicit false

namespace PoolPricing

open Checked
open PoolPricing.Document (Fields Value)

namespace Text

end Text

namespace Snapshot.Document

end Snapshot.Document
end PoolPricing
