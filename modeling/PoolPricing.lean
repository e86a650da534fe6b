import PoolPricing.Main
import PoolPricing.Document.Reader
import PoolPricing.Proofs.Outcome
import PoolPricing.Proofs.Reserves
import PoolPricing.Untyped.CurvePricing
import PoolPricing.Untyped.Quotes
import PoolPricing.Untyped.Refresh
import PoolPricing.Proofs.Ceiling
import PoolPricing.Proofs.ConstantProduct
import PoolPricing.Proofs.Vault
import PoolPricing.Proofs.ShareConversion
import PoolPricing.Proofs.DepositReadBack
import PoolPricing.Proofs.SwapQuote
import PoolPricing.Proofs.StableSwap.Equation
import PoolPricing.Proofs.StableSwap.Invariant
import PoolPricing.Proofs.CurveScale
import PoolPricing.Proofs.StableRuns
import PoolPricing.Proofs.StableSwap.Growth
import PoolPricing.Proofs.StableSwap.Deposit
import PoolPricing.Proofs.Handle.History
import PoolPricing.Proofs.Handle.Agreement
import PoolPricing.Proofs.BalancedDeposit
import PoolPricing.Proofs.Refusal.Basic
import PoolPricing.Proofs.Refusal.Vault
import PoolPricing.Proofs.Refusal.Curve
import PoolPricing.Proofs.Refusal.Quote
import PoolPricing.Proofs.BalancedWithdrawal
import PoolPricing.Proofs.StableSwap.Withdrawal
import PoolPricing.Proofs.SingleWithdrawal
import PoolPricing.Proofs.DepositMint
import PoolPricing.Proofs.EmptySwap
import PoolPricing.Proofs.LeastInput
import PoolPricing.Proofs.ExactOut
import PoolPricing.Proofs.GreatestInput
import PoolPricing.Proofs.LargerInput
import PoolPricing.Proofs.UsablePrice
import PoolPricing.Proofs.Mirror.Basic
import PoolPricing.Proofs.Mirror.Quote
import PoolPricing.Proofs.Ending
import PoolPricing.Proofs.Document.Field
import PoolPricing.Proofs.Document.Reading
import PoolPricing.Proofs.Document.Form
import PoolPricing.Proofs.Document.Acceptance
import PoolPricing.Proofs.StableSwap.Bracket
import PoolPricing.Proofs.StableSwap.Root
import PoolPricing.Proofs.StableSwap.Slope
import PoolPricing.Proofs.Number.Range
import PoolPricing.Proofs.CommandLine.Status
import PoolPricing.Proofs.CacheRun
import PoolPricing.Proofs.ProfitRelease
import PoolPricing.Proofs.StableSwap.BalanceConvergence
import PoolPricing.Proofs.StableSwap.InvariantConvergence
import PoolPricing.Proofs.StableSwap.RoundTrip
import PoolPricing.Proofs.AccountPrice
import PoolPricing.Proofs.OutputPrice
import PoolPricing.Proofs.PriceImpact
import PoolPricing.Proofs.ProportionalDeposit
import PoolPricing.Proofs.TightestDivisor
import PoolPricing.Proofs.ScaleAdjunction
import PoolPricing.Proofs.WrittenNumber
import PoolPricing.Proofs.StandingSlippage
