import PoolPricing.Document.Spelling
set_option autoImplicit false

namespace PoolPricing.Document

inductive Figure where
  | whole (n : Int)
  | flag (b : Bool)
  | fraction (x : Number.Binary64)
  deriving DecidableEq, Repr

namespace Figure

def toRat : Figure → Rat
  | .whole n => n
  | .flag b => if b then 1 else 0
  | .fraction x => x.toRat

def value : Figure → Value
  | .whole n => .integer n
  | .flag b => .flag b
  | .fraction x => .fraction x

def spelling (figure : Figure) : String := figure.value.plain

end Figure

def Value.figure? : Value → Option Figure
  | .integer n => some (.whole n)
  | .flag b => some (.flag b)
  | .fraction x => some (.fraction x)
  | _ => none

end PoolPricing.Document
