import PoolPricing.Direction
set_option autoImplicit false

namespace PoolPricing

structure Reserves where
  a : Int
  b : Int
  deriving DecidableEq, Repr

structure Order where
  direction : Direction
  amount : Int
  amount_nonneg : 0 ≤ amount
  deriving DecidableEq, Repr

namespace Reserves

def source (reserves : Reserves) (direction : Direction) : Int :=
  direction.source reserves.a reserves.b

def destination (reserves : Reserves) (direction : Direction) : Int :=
  direction.destination reserves.a reserves.b

def ofSides (direction : Direction) (source destination : Int) : Reserves :=
  match direction with
  | .aToB => ⟨source, destination⟩
  | .bToA => ⟨destination, source⟩

def move (reserves : Reserves) (direction : Direction) (paid received : Int) : Reserves :=
  ofSides direction (reserves.source direction + paid) (reserves.destination direction - received)

def product (reserves : Reserves) : Int := reserves.a * reserves.b

def Nonneg (reserves : Reserves) : Prop := 0 ≤ reserves.a ∧ 0 ≤ reserves.b

def Positive (reserves : Reserves) : Prop := 0 < reserves.a ∧ 0 < reserves.b

@[simp] theorem source_ofSides (direction : Direction) (x y : Int) :
    (ofSides direction x y).source direction = x := by cases direction <;> rfl

@[simp] theorem destination_ofSides (direction : Direction) (x y : Int) :
    (ofSides direction x y).destination direction = y := by cases direction <;> rfl

theorem product_eq (reserves : Reserves) (direction : Direction) :
    reserves.product = reserves.source direction * reserves.destination direction := by
  cases direction with
  | aToB => rfl
  | bToA => exact Int.mul_comm reserves.a reserves.b

theorem nonneg_iff (reserves : Reserves) (direction : Direction) :
    reserves.Nonneg ↔ 0 ≤ reserves.source direction ∧ 0 ≤ reserves.destination direction := by
  cases direction with
  | aToB => exact Iff.rfl
  | bToA => exact And.comm

theorem positive_iff (reserves : Reserves) (direction : Direction) :
    reserves.Positive ↔ 0 < reserves.source direction ∧ 0 < reserves.destination direction := by
  cases direction with
  | aToB => exact Iff.rfl
  | bToA => exact And.comm

end Reserves
end PoolPricing
