import PoolPricing.Text.Lowercase
import PoolPricing.Text.Numeral
import PoolPricing.Fees
set_option autoImplicit false

/-!
Settings from the environment. What is unreadable there falls back to a standard value, and a
slippage out of range is taken to the nearer end of it, so that a bad setting never keeps a quote
from being made.
-/

namespace PoolPricing

structure Settings where
  slippage : Int
  logLevel : String
  deriving DecidableEq, Repr

namespace Settings

def standardSlippage : Int := 100

def standardLevel : String := "WARNING"

def standard : Settings := ⟨standardSlippage, standardLevel⟩

def levels : List String :=
  ["CRITICAL", "FATAL", "ERROR", "WARN", "WARNING", "INFO", "DEBUG", "NOTSET"]

def clampSlippage (n : Int) : Int := max 0 (min n Slippage.scale)

def slippageOf (text : Option String) : Int :=
  match text with
  | none => standardSlippage
  | some text =>
    match Text.integer? text.toList with
    | none => standardSlippage
    | some n => clampSlippage n

def levelOf (text : Option String) : String :=
  match text with
  | none => standardLevel
  | some text =>
    let name := String.ofList ((Text.trim text.toList).map Text.latinCapital)
    if name ∈ levels then name else standardLevel

def ofEnvironment (slippage level : Option String) : Settings :=
  ⟨slippageOf slippage, levelOf level⟩

theorem clampSlippage_mem (n : Int) : 0 ≤ clampSlippage n ∧ clampSlippage n ≤ 10000 := by
  unfold clampSlippage Slippage.scale
  omega

end Settings
end PoolPricing
