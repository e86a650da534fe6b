import PoolPricing.Fault
set_option autoImplicit false

namespace PoolPricing

abbrev Checked (α : Type) := Except Fault α

namespace Checked

def refuse {α : Type} (fault : Fault) : Checked α := .error fault

@[simp] theorem refuse_eq {α : Type} (fault : Fault) : (refuse fault : Checked α) = .error fault :=
  rfl

@[simp] theorem ok_bind {α β : Type} (a : α) (f : α → Checked β) :
    ((Except.ok a : Checked α) >>= f) = f a := rfl

@[simp] theorem error_bind {α β : Type} (fault : Fault) (f : α → Checked β) :
    ((Except.error fault : Checked α) >>= f) = .error fault := rfl

def requireNonnegative (subject : String) (n : Int) : Checked Unit :=
  if n < 0 then refuse (.invalid (.negative subject)) else pure ()

def requireNonnegativeShown (subject : String) (n : Int) : Checked Unit :=
  if n < 0 then refuse (.invalid (.negativeShown subject n)) else pure ()

theorem zero_nonneg : (0 : Int) ≤ 0 := Int.le_refl 0

theorem nonneg_of_not_neg {n : Int} (h : ¬n < 0) : 0 ≤ n := Int.not_lt.mp h

/-- The quotient rounded down, whatever the signs. -/
def floorDivide (n d : Int) : Checked Int :=
  if d = 0 then refuse .zeroDivisor else pure (Int.fdiv n d)

theorem requireNonnegative_of_nonneg (subject : String) {n : Int} (h : 0 ≤ n) :
    requireNonnegative subject n = .ok () := if_neg (Int.not_lt.2 h)

theorem requireNonnegativeShown_of_nonneg (subject : String) {n : Int} (h : 0 ≤ n) :
    requireNonnegativeShown subject n = .ok () := if_neg (Int.not_lt.2 h)

theorem floorDivide_of_pos (n : Int) {d : Int} (h : 0 < d) : floorDivide n d = .ok (n / d) := by
  rw [floorDivide, if_neg (Int.ne_of_gt h), Int.fdiv_eq_ediv_of_nonneg n (Int.le_of_lt h)]
  rfl

end Checked
end PoolPricing
