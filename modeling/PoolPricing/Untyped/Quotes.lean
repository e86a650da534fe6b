import PoolPricing.Handle
import PoolPricing.Untyped.CurvePricing
import PoolPricing.Untyped.Parts
set_option autoImplicit false

/-!
Quotes for amounts of any kind. Amounts that are numbers are compared before anyone asks whether
they are whole, and slippage is looked at last; so a quote with an amount that is not whole is
carried to the point where the amount is first used, and one with a slippage that is not whole to
its end.
-/

namespace PoolPricing.Untyped

open Checked
open Document (Figure Value)

/-- A quote with a slippage of any kind. No slippage at all never keeps a quote from being made, so
the quote for it tells whether the end is reached. -/
def withSlippage {α : Type} (slippage : Value) (quote : Int → Run α) : Run α :=
  match slippage with
  | .integer n => quote n
  | _ => do
    discard (quote 0)
    throw (.mistyped "slippage_bps" .integer)

def slippageOr (standing : Value) : Value → Value
  | .null => standing
  | given => given

/-! Mints -/

/-- A call with a mint of any kind. What is no text is no pool's mint, whatever its spelling; the
call is made with a text that is neither mint of the pool, and the refusal names the mint given. -/
def withMint {α : Type} (snapshot : Snapshot) (mint : Value) (ask : String → Run α) : Run α :=
  match mint with
  | .text mint => ask mint
  | mint =>
    let run := ask (snapshot.a.mint ++ snapshot.b.mint)
    match run.outcome with
    | .error (.foreignMint _) => ⟨.error (.foreignMint mint.plain), run.events⟩
    | _ => run

def directionOf (snapshot : Snapshot) (mint : Value) : Run Direction :=
  withMint snapshot mint fun mint => Run.lift (snapshot.directionOf mint)

def greatestIn (snapshot : Snapshot) (mint : Value) : Run Int :=
  withMint snapshot mint snapshot.greatestIn

def greatestOut (snapshot : Snapshot) (mint : Value) : Run Int :=
  withMint snapshot mint fun mint => Run.lift (snapshot.greatestOut mint)

/-! Swaps -/

def refuseSwap (snapshot : Snapshot) (amount : Value) (mint : String) : Run SwapQuote := do
  discard (snapshot.admitSwap mint)
  let amount ← figure amount
  if amount.toRat ≤ 0 then throw (.tooSmall (.inputNotPositive amount))
  let fresh ← snapshot.refreshed
  discard fresh.positions
  throw (.mistyped "amount" .integer)

def swapQuote (snapshot : Snapshot) (mint amount slippage : Value) : Run SwapQuote :=
  withMint snapshot mint fun mint =>
    match amount with
    | .integer n => withSlippage slippage (snapshot.swapQuote mint n)
    | amount => refuseSwap snapshot amount mint

/-! Withdrawals -/

def refuseBurn (snapshot : Snapshot) (burned : Figure) (mint : Option String) :
    Run WithdrawalQuote := do
  if burned.toRat ≤ 0 then throw (.invalid (.notPositiveShown "lp_amount" burned))
  if (snapshot.lpSupply.val : Rat) < burned.toRat then
    throw (.invalid (.burnExceedsSupply burned snapshot.lpSupply))
  let fresh ← snapshot.refreshed
  let (_, b) ← fresh.positions
  match mint, fresh.curve with
  | none, _ => throw (.mistyped "amount" .integer)
  | some mint, .constantProduct =>
    discard (fresh.directionOf mint)
    throw (.unsupported .singleSideWithdrawal)
  | some mint, .stable curve =>
    discard (fresh.directionOf mint)
    discard (curve.upscaleB b.amount)
    throw (.mistyped "pool_token_amount" .integer)

def withdrawalOf (snapshot : Snapshot) (burned slippage : Value) (mint : Option String) :
    Run WithdrawalQuote :=
  match burned with
  | .integer n => withSlippage slippage fun slippage => snapshot.withdrawalQuote n slippage mint
  | burned => do
    let burned ← figure burned
    refuseBurn snapshot burned mint

def withdrawalQuote (snapshot : Snapshot) (burned slippage mint : Value) : Run WithdrawalQuote :=
  match mint with
  | .null => withdrawalOf snapshot burned slippage none
  | mint =>
    withMint snapshot mint fun mint => withdrawalOf snapshot burned slippage (some mint)

/-! Deposits -/

structure GivenDeposit where
  quote : DepositQuote
  amountA : Value
  amountB : Value

def GivenDeposit.ofQuote (quote : DepositQuote) : GivenDeposit :=
  ⟨quote, .integer quote.amountA, .integer quote.amountB⟩

def firstDeposit (fresh : Snapshot) (amountA amountB slippage : Value) : Run GivenDeposit :=
  match fresh.curve with
  | .constantProduct => do
    discard (ConstantProduct.invariant amountA amountB)
    throw (.unusable .kind)
  | .stable curve =>
    match integrals? amountA amountB with
    | some (a, b) => do
      let quote ← withSlippage slippage (fresh.depositQuote a b false)
      pure ⟨quote, amountA, amountB⟩
    | none => do
      discard (refuseInvariant curve amountA amountB)
      throw (.unusable .kind)

def balancedDeposit (fresh : Snapshot) (amountA amountB : Figure) (slippage : Value) :
    Run DepositQuote :=
  if 0 < amountA.toRat then
    match amountA with
    | .whole n => withSlippage slippage (fresh.depositQuote n 0 true)
    | _ => throw (.mistyped "amount" .integer)
  else
    match amountB with
    | .whole n => withSlippage slippage (fresh.depositQuote 0 n true)
    | _ => throw (.mistyped "amount" .integer)

def refuseDeposit (a b : Position) (amountA amountB : Value) : Run DepositQuote := do
  let depositA ← amountA.whole "deposit_amount"
  discard (a.gain depositA)
  let depositB ← amountB.whole "deposit_amount"
  discard (b.gain depositB)
  throw (.unusable .kind)

def looseDeposit (snapshot : Snapshot) (amountA amountB : Value) (balanced : Bool)
    (slippage : Value) : Run GivenDeposit := do
  let a ← figure amountA
  if a.toRat < 0 then throw (.invalid (.negative "deposit amounts"))
  let b ← figure amountB
  if b.toRat < 0 then throw (.invalid (.negative "deposit amounts"))
  if a.toRat = 0 ∧ b.toRat = 0 then throw (.invalid .noDeposit)
  if balanced ∧ 0 < a.toRat ∧ 0 < b.toRat then throw (.invalid .balancedNeedsOneSide)
  let fresh ← snapshot.refreshed
  if fresh.lpSupply.val = 0 then firstDeposit fresh amountA amountB slippage
  else
    let (positionA, positionB) ← fresh.positions
    let quote ←
      if balanced then balancedDeposit fresh a b slippage
      else refuseDeposit positionA positionB amountA amountB
    pure (GivenDeposit.ofQuote quote)

def depositQuote (snapshot : Snapshot) (amountA amountB : Value) (balanced : Bool)
    (slippage : Value) : Run GivenDeposit :=
  match amountA, amountB with
  | .integer a, .integer b =>
    GivenDeposit.ofQuote <$> withSlippage slippage (snapshot.depositQuote a b balanced)
  | amountA, amountB => looseDeposit snapshot amountA amountB balanced slippage

end PoolPricing.Untyped
