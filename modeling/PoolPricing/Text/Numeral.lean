import PoolPricing.Text.Blank
import PoolPricing.Text.Digit
set_option autoImplicit false

namespace PoolPricing.Text

/-- Reads on after at least one digit, `value` being what the digits so far amount to. -/
def naturalFrom (value : Nat) : List Char → Option Nat
  | [] => some value
  | '_' :: c :: rest => (digitValue c).bind fun d => naturalFrom (10 * value + d) rest
  | c :: rest => (digitValue c).bind fun d => naturalFrom (10 * value + d) rest

def natural? : List Char → Option Nat
  | [] => none
  | c :: rest => (digitValue c).bind fun d => naturalFrom d rest

/-- The number that a text writes, none if it writes no whole number. -/
def integer? (cs : List Char) : Option Int :=
  match trim cs with
  | '-' :: rest => (natural? rest).map fun n => -(n : Int)
  | '+' :: rest => (natural? rest).map fun n => (n : Int)
  | rest => (natural? rest).map fun n => (n : Int)

end PoolPricing.Text
