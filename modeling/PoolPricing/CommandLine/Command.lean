import PoolPricing.CommandLine.Options
set_option autoImplicit false

namespace PoolPricing.CommandLine

inductive Command where
  | info
  | swap (mint : String) (amount : Int) (slippage : Option Int)
  | deposit (amountA amountB : Int) (balanced : Bool) (slippage : Option Int)
  | withdraw (burned : Int) (mint : Option String) (slippage : Option Int)
  deriving DecidableEq, Repr

structure Invocation where
  path : String
  command : Command
  deriving DecidableEq, Repr

def slippageOption : OptionSpec := ⟨["--slippage-bps"], .integer⟩

def inMintOption : OptionSpec := ⟨["--in-mint"], .word⟩

def amountOption : OptionSpec := ⟨["--amount"], .integer⟩

def amountAOption : OptionSpec := ⟨["--a"], .integer⟩

def amountBOption : OptionSpec := ⟨["--b"], .integer⟩

def balancedOption : OptionSpec := ⟨["--balanced"], .switch⟩

def burnedOption : OptionSpec := ⟨["--lp"], .integer⟩

def mintOption : OptionSpec := ⟨["--mint"], .word⟩

namespace Reading

def word? (reading : Reading) (spec : OptionSpec) : Option String := reading.values.lookup spec

def integer? (reading : Reading) (spec : OptionSpec) : Option Int :=
  (reading.word? spec).bind fun value => Text.integer? value.toList

end Reading

/-- A path without empty and `.` steps; a path of nothing else is `.`. -/
def cleanPath (path : String) : String :=
  let steps := (path.splitOn "/").filter fun step => step ≠ "" && step ≠ "."
  let joined := "/".intercalate steps
  let root :=
    if path.startsWith "//" && !path.startsWith "///" then "//"
    else if path.startsWith "/" then "/" else ""
  if joined = "" && root = "" then "." else root ++ joined

structure Grammar where
  name : String
  specs : List OptionSpec
  required : List OptionSpec
  build : Reading → Command

def grammars : List Grammar :=
  [ ⟨"info", [helpOption], [], fun _ => .info⟩,
    ⟨"swap", [helpOption, inMintOption, amountOption, slippageOption],
      [inMintOption, amountOption],
      fun reading => .swap ((reading.word? inMintOption).getD "")
        ((reading.integer? amountOption).getD 0) (reading.integer? slippageOption)⟩,
    ⟨"deposit", [helpOption, amountAOption, amountBOption, balancedOption, slippageOption], [],
      fun reading => .deposit ((reading.integer? amountAOption).getD 0)
        ((reading.integer? amountBOption).getD 0) (reading.word? balancedOption).isSome
        (reading.integer? slippageOption)⟩,
    ⟨"withdraw", [helpOption, burnedOption, mintOption, slippageOption], [burnedOption],
      fun reading => .withdraw ((reading.integer? burnedOption).getD 0)
        (reading.word? mintOption) (reading.integer? slippageOption)⟩ ]

/-- Reads what follows the name of a command; `leftOver` says whether something that is no option
stood before the name. -/
def Grammar.read (grammar : Grammar) (leftOver : Bool) (arguments : List String) :
    Except Refusal Invocation := do
  let reading ← readCommand grammar.specs grammar.required arguments
  if leftOver || reading.leftOver then .error .misuse
  else pure ⟨cleanPath (reading.operand.getD ""), grammar.build reading⟩

def readLine (leftOver : Bool) : List String → Except Refusal Invocation
  | [] => .error .misuse
  | argument :: rest =>
    if argument = "--" then .error .misuse
    else
      match classify [helpOption] argument with
      | .operand name =>
        match grammars.find? fun grammar => grammar.name = name with
        | some grammar => grammar.read leftOver rest
        | none => .error .misuse
      | .unknown => readLine true rest
      | .ambiguous => .error .misuse
      | .option spec joined =>
        match readArguments [spec] ⟨none, [], false⟩ false [argument], joined with
        | .error refusal, _ => .error refusal
        | .ok _, _ => .error .misuse

def Invocation.ofArguments (arguments : List String) : Except Refusal Invocation :=
  readLine false arguments

end PoolPricing.CommandLine
