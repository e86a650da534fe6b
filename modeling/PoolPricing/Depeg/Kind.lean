set_option autoImplicit false

namespace PoolPricing.Depeg

inductive Kind where
  | none
  | marinade
  | lido
  | splStake
  deriving DecidableEq, Repr

namespace Kind

def all : List Kind := [.none, .marinade, .lido, .splStake]

def word : Kind → String
  | .none => "none"
  | .marinade => "marinade"
  | .lido => "lido"
  | .splStake => "spl_stake"

def label : Kind → String
  | .none => "NONE"
  | .marinade => "MARINADE"
  | .lido => "LIDO"
  | .splStake => "SPL_STAKE"

def ofWord? (word : String) : Option Kind := all.find? fun kind => kind.word = word

end Kind
end PoolPricing.Depeg
