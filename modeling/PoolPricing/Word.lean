import PoolPricing.Checked
set_option autoImplicit false

namespace PoolPricing

open Checked

@[ext] structure Word where
  val : Int
  nonneg : 0 ≤ val
  le_greatest : val ≤ 18446744073709551615
  deriving Repr

instance : DecidableEq Word := fun _ _ => decidable_of_decidable_of_iff Word.ext_iff.symm

namespace Word

def greatest : Int := 18446744073709551615

instance : Coe Word Int := ⟨Word.val⟩

def zero : Word := ⟨0, zero_nonneg, by decide⟩

def ofInt (subject : String) (n : Int) : Checked Word :=
  if hn : n < 0 then refuse (.invalid (.negativeShown subject n))
  else if hg : greatest < n then refuse (.invalid (.exceedsWord subject n))
  else .ok ⟨n, nonneg_of_not_neg hn, by unfold greatest at hg; omega⟩

/-- As `ofInt` for the result of a computation, which then has left its domain. -/
def ofResult (subject : String) (n : Int) : Checked Word :=
  if hn : n < 0 ∨ greatest < n then refuse (.outOfDomain (.exceedsWord subject (toString n)))
  else .ok ⟨n, by omega, by unfold greatest at hn; omega⟩

end Word
end PoolPricing
