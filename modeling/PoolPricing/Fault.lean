import PoolPricing.Clock
import PoolPricing.Depeg.Kind
import PoolPricing.Document.Figure
set_option autoImplicit false

namespace PoolPricing

open Document (Figure)

namespace Fault

inductive TooSmall where
  | ceilingIsZero
  | emptySource
  | swapIsZero
  | drainsDestination
  | inputNotPositive (amount : Figure)
  | inputLost
  | outputLost
  | depositMintsNothing
  deriving DecidableEq, Repr

inductive OutOfDomain where
  | invariantNeedsBothBalances
  | balanceNeedsPositiveOther
  | balanceDenominator
  | mintAgainstEmptyPool
  | negativeExpectedWithdrawal
  | negativeWithdrawal
  | beforeLastReport (now : Figure) (lastReport : Int)
  | lockedExceedsTotal
  | noSharesOrTokens
  | emptyVault
  | exceedsWord (subject shown : String)
  deriving DecidableEq, Repr

inductive Unsupported where
  | curve (kindName : String)
  | imbalanceDeposit
  | singleSideWithdrawal
  deriving DecidableEq, Repr

inductive MissingAccount where
  | marinadeState
  | lidoState
  | tooShort (subject : String) (length needed : Nat)
  | lidoSupplyIsZero
  | noCachedPrice (kind : Depeg.Kind)
  deriving DecidableEq, Repr

inductive Closed where
  | disabled
  | notActivated (clock : Clock) (opens now : Int)
  deriving DecidableEq, Repr

inductive Invalid where
  | negative (subject : String)
  | negativeShown (subject : String) (value : Int)
  | notPositive (subject : String)
  | notPositiveShown (subject : String) (value : Figure)
  | exceedsWord (subject : String) (value : Int)
  | outside (subject : String) (least greatest value : Int)
  | notAmong (subject : String) (allowed : List Nat) (shown : String)
  | numeratorExceeds (numerator denominator : String) (above below : Int)
  | exceeds (subject bound : String)
  | burnOutsideSupply
  | burnExceedsSupply (amount : Figure) (supply : Int)
  | noDeposit
  | balancedNeedsOneSide
  | emptyMint
  | equalMints
  | unknownWord (subject shown : String)
  | required (field : String)
  | noMultiplier
  | notHex (field : String)
  deriving DecidableEq, Repr

/-- A value cannot be put into a computation that nobody has guarded. -/
inductive Unusable where
  | kind
  | tooLarge
  deriving DecidableEq, Repr

inductive Expected where
  | integer
  | boolean
  | mapping
  | hexText
  | multiplier
  | depegState
  | depegKind
  | tracker
  | fees
  | clock
  deriving DecidableEq, Repr

/-- The classes of errors that a caller tells apart. Of any other it knows the name. -/
inductive Class where
  | quote
  | system
  | kind
  | value
  | markup
  | other (name : String)
  deriving DecidableEq, Repr

end Fault

inductive Fault where
  | tooSmall (cause : Fault.TooSmall)
  | outOfDomain (cause : Fault.OutOfDomain)
  | invariantDecreased
  | unsupported (cause : Fault.Unsupported)
  | missingAccount (cause : Fault.MissingAccount)
  | noPriceSource (kind : Depeg.Kind)
  | foreignMint (mint : String)
  | closed (cause : Fault.Closed)
  | insufficientLiquidity (amount available : Int)
  | invalid (cause : Fault.Invalid)
  | mistyped (subject : String) (expected : Fault.Expected)
  | unusable (cause : Fault.Unusable)
  | notADocument (path : String)
  | fileMissing (path : String)
  | fractionTooLarge
  | zeroDivisor
  deriving DecidableEq, Repr

namespace Fault

def TooSmall.message : TooSmall → String
  | .ceilingIsZero => "ceil_div result in zero"
  | .emptySource => "cannot swap against an empty source reserve"
  | .swapIsZero => "swap result in zero"
  | .drainsDestination => "cannot drain full destination reserve"
  | .inputNotPositive amount => "in_amount must be positive: " ++ amount.spelling
  | .inputLost => "input is lost to vault rounding"
  | .outputLost => "output is lost to vault rounding"
  | .depositMintsNothing => "deposit is too small to mint pool LP"

def OutOfDomain.message : OutOfDomain → String
  | .invariantNeedsBothBalances => "compute_d requires both balances to be positive"
  | .balanceNeedsPositiveOther => "compute_y requires a positive x"
  | .balanceDenominator => "compute_y denominator is non-positive"
  | .mintAgainstEmptyPool => "cannot estimate mint against an empty pool"
  | .negativeExpectedWithdrawal => "withdraw-one produced a negative expected amount"
  | .negativeWithdrawal => "withdraw-one amount is negative"
  | .beforeLastReport now lastReport =>
    "current time " ++ now.spelling ++ " is before last report " ++ toString lastReport
  | .lockedExceedsTotal => "locked profit exceeds vault total amount"
  | .noSharesOrTokens => "division by zero"
  | .emptyVault => "vault total amount is zero"
  | .exceedsWord subject shown => subject ++ " out of u64 range: " ++ shown

def Unsupported.message : Unsupported → String
  | .curve kindName => "unsupported curve: " ++ kindName
  | .imbalanceDeposit => "constant product pools do not support imbalance deposits"
  | .singleSideWithdrawal => "constant product pools do not support single-side withdraws"

def MissingAccount.message : MissingAccount → String
  | .marinadeState => "marinade state account is missing"
  | .lidoState => "lido state account is missing"
  | .tooShort subject length needed =>
    subject ++ ": account data too short (" ++ toString length ++ " < " ++ toString needed ++ ")"
  | .lidoSupplyIsZero => "lido st_sol_supply is zero"
  | .noCachedPrice kind => kind.label ++ " pool has no cached base virtual price"

def Closed.message : Closed → String
  | .disabled => "pool is disabled"
  | .notActivated clock opens now =>
    "swap is disabled until " ++ clock.word ++ " " ++ toString opens ++
      " (now " ++ toString now ++ ")"

def Invalid.message : Invalid → String
  | .negative subject => subject ++ " must be non-negative"
  | .negativeShown subject value => subject ++ " must be non-negative: " ++ toString value
  | .notPositive subject => subject ++ " must be positive"
  | .notPositiveShown subject value => subject ++ " must be positive: " ++ value.spelling
  | .exceedsWord subject value => subject ++ " exceeds u64: " ++ toString value
  | .outside subject least greatest value =>
    subject ++ " must be in [" ++ toString least ++ ", " ++ toString greatest ++ "]: " ++
      toString value
  | .notAmong subject allowed shown =>
    subject ++ " must be one of (" ++ Document.separated ", " (allowed.map fun n => toString n) ++
      "): " ++ shown
  | .numeratorExceeds numerator denominator above below =>
    numerator ++ " must not exceed " ++ denominator ++ ": " ++ toString above ++ " > " ++
      toString below
  | .exceeds subject bound => subject ++ " exceeds " ++ bound
  | .burnOutsideSupply => "pool_token_amount must be within lp_total_supply"
  | .burnExceedsSupply amount supply =>
    "lp_amount " ++ amount.spelling ++ " exceeds pool LP supply " ++ toString supply
  | .noDeposit => "at least one deposit amount must be positive"
  | .balancedNeedsOneSide => "balanced deposit requires exactly one non-zero input"
  | .emptyMint => "token mints must be non-empty"
  | .equalMints => "token_a_mint and token_b_mint must differ"
  | .unknownWord subject shown => subject ++ ": " ++ shown
  | .required field => field ++ " is required"
  | .noMultiplier => "stable_swap curve needs token_multiplier or decimals: [a, b]"
  | .notHex field => field ++ " is not valid hex"

def Unusable.message : Unusable → String
  | .kind => "value of a kind that has no such operation"
  | .tooLarge => "number too large to be rounded"

def Expected.phrase : Expected → String
  | .integer => "an int"
  | .boolean => "a bool"
  | .mapping => "a mapping"
  | .hexText => "a hex string"
  | .multiplier => "a TokenMultiplier"
  | .depegState => "a DepegState"
  | .depegKind => "a DepegType"
  | .tracker => "a LockedProfitTracker"
  | .fees => "PoolFees"
  | .clock => "an ActivationType"

end Fault

def Fault.message : Fault → String
  | .tooSmall cause => cause.message
  | .outOfDomain cause => cause.message
  | .invariantDecreased => "new D cannot be less than previous D"
  | .unsupported cause => cause.message
  | .missingAccount cause => cause.message
  | .noPriceSource kind => "cannot derive virtual price for depeg type " ++ kind.label
  | .foreignMint mint => "mint " ++ mint ++ " does not belong to the pool"
  | .closed cause => cause.message
  | .insufficientLiquidity amount available =>
    "out amount " ++ toString amount ++ " exceeds available " ++ toString available
  | .invalid cause => cause.message
  | .mistyped subject expected => subject ++ " must be " ++ expected.phrase
  | .unusable cause => cause.message
  | .notADocument path => "snapshot document must be a mapping: " ++ path
  | .fileMissing path => "[Errno 2] No such file or directory: " ++ Document.quotedText path
  | .fractionTooLarge => "integer division result too large for a float"
  | .zeroDivisor => "integer division or modulo by zero"

def Fault.errorClass : Fault → Fault.Class
  | .tooSmall _ | .outOfDomain _ | .invariantDecreased | .unsupported _ | .missingAccount _
  | .noPriceSource _ | .foreignMint _ | .closed _ | .insufficientLiquidity _ _ => .quote
  | .invalid _ => .value
  | .mistyped _ _ | .unusable .kind | .notADocument _ => .kind
  | .fileMissing _ => .system
  | .fractionTooLarge | .unusable .tooLarge => .other "OverflowError"
  | .zeroDivisor => .other "ZeroDivisionError"

end PoolPricing
