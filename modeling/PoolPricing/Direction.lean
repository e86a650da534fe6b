set_option autoImplicit false

namespace PoolPricing

inductive Direction where
  | aToB
  | bToA
  deriving DecidableEq, Repr

namespace Direction

def word : Direction → String
  | .aToB => "a_to_b"
  | .bToA => "b_to_a"

def reverse : Direction → Direction
  | .aToB => .bToA
  | .bToA => .aToB

/-- What belongs to the token paid in. -/
def source {α : Type} (direction : Direction) (a b : α) : α :=
  match direction with
  | .aToB => a
  | .bToA => b

/-- What belongs to the token paid out. -/
def destination {α : Type} (direction : Direction) (a b : α) : α := direction.reverse.source a b

end Direction
end PoolPricing
