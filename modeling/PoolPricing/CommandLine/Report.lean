import PoolPricing.Document.Spelling
import PoolPricing.Quote.Deposit
import PoolPricing.Quote.Info
import PoolPricing.Quote.Swap
import PoolPricing.Quote.Withdrawal
set_option autoImplicit false

namespace PoolPricing.CommandLine

open Checked

inductive Entry where
  | whole (n : Int)
  | fraction (q : Rat)
  deriving DecidableEq

abbrev Report := List (String × Entry)

def infoReport (info : PoolInfo) : Report :=
  [("token_a_amount", .whole info.amountA), ("token_b_amount", .whole info.amountB),
   ("virtual_price", .fraction info.virtualPrice),
   ("virtual_price_raw", .whole info.virtualPriceBinary)]

def swapReport (quote : SwapQuote) : Report :=
  [("fee", .whole quote.fee), ("min_swap_out_amount", .whole quote.leastOut),
   ("price_impact", .fraction quote.priceImpact), ("swap_in_amount", .whole quote.amountIn),
   ("swap_out_amount", .whole quote.amountOut)]

def depositReport (quote : DepositQuote) : Report :=
  [("min_pool_token_amount_out", .whole quote.leastMinted),
   ("pool_token_amount_out", .whole quote.minted), ("token_a_in_amount", .whole quote.amountA),
   ("token_b_in_amount", .whole quote.amountB)]

def withdrawalReport (quote : WithdrawalQuote) : Report :=
  [("min_token_a_out_amount", .whole quote.leastA), ("min_token_b_out_amount", .whole quote.leastB),
   ("pool_token_amount_in", .whole quote.burned), ("token_a_out_amount", .whole quote.amountA),
   ("token_b_out_amount", .whole quote.amountB)]

def braced (indent : String) (lines : List String) : String :=
  "\x7b\n" ++ Document.separated ",\n" (lines.map fun line => indent ++ "  " ++ line) ++ "\n" ++
    indent ++ "\x7d"

def Entry.render (write : Number.Binary64 → String) : Entry → Checked String
  | .whole n => pure (toString n)
  | .fraction q =>
    match Number.Binary64.ofRat? q with
    | none => refuse .fractionTooLarge
    | some x =>
      pure (braced "  " ["\"approx\": " ++ write x,
        "\"exact\": \"" ++ toString q.num ++ "/" ++ toString q.den ++ "\""])

def reportLines (write : Number.Binary64 → String) : Report → Checked (List String)
  | [] => pure []
  | (name, entry) :: rest => do
    let text ← entry.render write
    let lines ← reportLines write rest
    pure (("\"" ++ name ++ "\": " ++ text) :: lines)

def renderReport (write : Number.Binary64 → String) (report : Report) : Checked String := do
  let lines ← reportLines write report
  pure (braced "" lines ++ "\n")

end PoolPricing.CommandLine
