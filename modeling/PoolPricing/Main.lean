import PoolPricing.CommandLine.Session
import PoolPricing.Document.Reader
set_option autoImplicit false

namespace PoolPricing

/-- The value in a file; a file of text that is no value holds nothing. -/
def readStored (path : String) : IO (Except CommandLine.ReaderError (Option Document.Value)) := do
  try
    let source ← IO.FS.readFile path
    pure (.ok (some ((Document.Reader.read? source).getD .null)))
  catch
    | .noFileOrDirectory .. => pure (.ok none)
    | .userError reason => pure (.error ⟨.value, reason⟩)
    | error => pure (.error ⟨.system, toString error⟩)

def settingsFromEnvironment : IO Settings := do
  let slippage ← IO.getEnv "DYNAMIC_AMM_DEFAULT_SLIPPAGE_BPS"
  let level ← IO.getEnv "DYNAMIC_AMM_LOG_LEVEL"
  pure (Settings.ofEnvironment slippage level)

def writeShortest (x : Number.Binary64) : String :=
  String.ofList (x.write Document.fractionStyle)

end PoolPricing

open PoolPricing CommandLine

def main (arguments : List String) : IO UInt32 := do
  match Invocation.ofArguments arguments with
  | .error refusal => pure (UInt32.ofNat refusal.status)
  | .ok invocation =>
    let settings ← settingsFromEnvironment
    let found ← readStored invocation.path
    match invocation.performOn settings found writeShortest with
    | .ok (.finished status output errors) =>
      IO.print output
      IO.eprint errors
      pure (UInt32.ofNat status)
    | .ok (.refused refusal) => pure (UInt32.ofNat refusal.status)
    | .error failure =>
      IO.eprintln failure.reason
      pure 1
