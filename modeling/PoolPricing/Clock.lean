set_option autoImplicit false

namespace PoolPricing

inductive Clock where
  | slot
  | timestamp
  deriving DecidableEq, Repr

namespace Clock

def all : List Clock := [.slot, .timestamp]

def word : Clock → String
  | .slot => "slot"
  | .timestamp => "timestamp"

def ofWord? (word : String) : Option Clock := all.find? fun clock => clock.word = word

end Clock
end PoolPricing
