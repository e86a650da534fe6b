import PoolPricing.CommandLine.Command
import PoolPricing.CommandLine.Report
import PoolPricing.Handle
import PoolPricing.Snapshot.Document
set_option autoImplicit false

/-!
One call of the program: the command line is read, the snapshot is loaded, and a quote is printed.
An error of a guarded class in loading or quoting is reported on the error output with status 2; one
of another class breaks the call off.
-/

namespace PoolPricing.CommandLine

inductive Ending where
  | refused (refusal : Refusal)
  | finished (status : Nat) (output errors : String)
  deriving DecidableEq, Repr

def Refusal.status : Refusal → Nat
  | .help => 0
  | .misuse => 2

def Command.report (command : Command) (handle : Handle) : Run Report :=
  match command with
  | .info => infoReport <$> handle.info.2
  | .swap mint amount slippage => swapReport <$> (handle.swapQuote mint amount slippage).2
  | .deposit amountA amountB balanced slippage =>
    depositReport <$> (handle.depositQuote amountA amountB balanced slippage).2
  | .withdraw burned mint slippage =>
    withdrawalReport <$> (handle.withdrawalQuote burned mint slippage).2

def Invocation.report (invocation : Invocation) (settings : Settings)
    (stored : String → Option Document.Value) : Run Report := do
  let snapshot ← Snapshot.load invocation.path (stored invocation.path)
  invocation.command.report ⟨settings, snapshot⟩

/-- The classes of errors that a call guards against while it loads and quotes. -/
def isGuarded : Fault.Class → Bool
  | .quote | .system | .kind | .value | .markup => true
  | .other _ => false

def errorLine (reason : String) : String := "quote_cli error: " ++ reason ++ "\n"

def Invocation.perform (invocation : Invocation) (settings : Settings)
    (stored : String → Option Document.Value) (write : Number.Binary64 → String) : Run Ending :=
  let run := invocation.report settings stored
  match run.outcome with
  | .ok report => do
    discard run
    let output ← renderReport write report
    pure (.finished 0 output "")
  | .error fault =>
    if isGuarded fault.errorClass then
      ⟨.ok (.finished 2 "" (errorLine fault.message)), run.events⟩
    else ⟨.error fault, run.events⟩

/-- What the reader of files gave up with. Readers have errors of their own, of any class. -/
structure ReaderError where
  errorClass : Fault.Class
  reason : String
  deriving DecidableEq, Repr

inductive Failure where
  | reader (error : ReaderError)
  | fault (cause : Fault)
  deriving DecidableEq, Repr

def Failure.errorClass : Failure → Fault.Class
  | .reader error => error.errorClass
  | .fault cause => cause.errorClass

def Failure.reason : Failure → String
  | .reader error => error.reason
  | .fault cause => cause.message

/-- Carries out an invocation on what came of reading its path: a value, nothing where there is no
file, or an error of the reader. The call ends or breaks off. -/
def Invocation.performOn (invocation : Invocation) (settings : Settings)
    (found : Except ReaderError (Option Document.Value)) (write : Number.Binary64 → String) :
    Except Failure Ending :=
  match found with
  | .error error =>
    if isGuarded error.errorClass then .ok (.finished 2 "" (errorLine error.reason))
    else .error (.reader error)
  | .ok stored => (invocation.perform settings (fun _ => stored) write).outcome.mapError .fault

def session (settings : Settings) (stored : String → Option Document.Value)
    (write : Number.Binary64 → String) (arguments : List String) : Run Ending :=
  match Invocation.ofArguments arguments with
  | .error refusal => pure (.refused refusal)
  | .ok invocation => invocation.perform settings stored write

end PoolPricing.CommandLine
