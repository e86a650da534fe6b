import PoolPricing.Document.Field
import PoolPricing.Proofs.Ending
import PoolPricing.Proofs.Outcome
set_option autoImplicit false

namespace PoolPricing

open Checked

namespace Document

namespace Fields

/-- The key stands for a whole number that is not negative; a flag is no number. -/
def Gives (fields : Fields) (key : String) (n : Int) : Prop :=
  fields.get? key = some (.integer n) ∧ 0 ≤ n

def GivesOr (fields : Fields) (key : String) (default n : Int) : Prop :=
  fields.Gives key n ∨ (fields.get? key = none ∧ n = default)

end Fields

namespace Value

end Value

namespace Fields

variable {fields : Fields} {scope key : String} {default n : Int}

end Fields
end Document
end PoolPricing
