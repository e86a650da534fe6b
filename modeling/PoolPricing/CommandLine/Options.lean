import PoolPricing.Text.Numeral
set_option autoImplicit false

/-!
Command line syntax. Options start with a hyphen, stand anywhere among the operands, and may be cut
short as long as one option alone begins so. An option's value follows it or is joined to it by an
equals sign. What looks like a negative number, holds a space or is a lone hyphen is no option, and
after `--` there are none.
-/

namespace PoolPricing.CommandLine

inductive OptionKind where
  | help
  | switch
  | word
  | integer
  deriving DecidableEq, Repr

structure OptionSpec where
  names : List String
  kind : OptionKind
  deriving DecidableEq, Repr

inductive Piece where
  | operand (text : String)
  | option (spec : OptionSpec) (joined : Option String)
  | unknown
  | ambiguous
  deriving DecidableEq, Repr

def helpOption : OptionSpec := ⟨["-h", "--help"], .help⟩

def splitJoined (argument : List Char) : List Char × Option String :=
  match argument.dropWhile (· ≠ '=') with
  | [] => (argument, none)
  | _ :: value => (argument.takeWhile (· ≠ '='), some (String.ofList value))

def digitsOnly (cs : List Char) : Bool := cs.all fun c => (Text.digitValue c).isSome

def withoutLineEnd (cs : List Char) : List Char :=
  if cs.getLast? = some '\n' then cs.dropLast else cs

def looksNegative (argument : List Char) : Bool :=
  match withoutLineEnd argument with
  | '-' :: rest =>
    match rest.dropWhile (· ≠ '.') with
    | [] => digitsOnly rest && !rest.isEmpty
    | _ :: places => digitsOnly (rest.takeWhile (· ≠ '.')) && digitsOnly places && !places.isEmpty
  | _ => false

def beginning (specs : List OptionSpec) (start : List Char) : List OptionSpec :=
  specs.flatMap fun spec =>
    (spec.names.filter fun name => start.isPrefixOf name.toList).map fun _ => spec

/-- The option that is abbreviated to `argument`. A single hyphen goes with one letter, and letters
after that one are joined to it. -/
def abbreviated (specs : List OptionSpec) (argument : List Char) :
    List (OptionSpec × Option String) :=
  match argument with
  | '-' :: '-' :: _ =>
    let (start, joined) := splitJoined argument
    (beginning specs start).map fun spec => (spec, joined)
  | '-' :: letter :: rest =>
    (specs.filter fun spec => spec.names.contains (String.ofList ['-', letter])).map fun spec =>
      (spec, some (String.ofList rest))
  | _ => []

def withName? (specs : List OptionSpec) (name : String) : Option OptionSpec :=
  specs.find? fun spec => spec.names.contains name

def classifyInexact (specs : List OptionSpec) (argument : String) : Piece :=
  let cs := argument.toList
  let (start, joined) := splitJoined cs
  match joined, withName? specs (String.ofList start) with
  | some value, some spec => .option spec (some value)
  | _, _ =>
    match abbreviated specs cs with
    | [(spec, joined)] => .option spec joined
    | _ :: _ :: _ => .ambiguous
    | [] =>
      if looksNegative cs || cs.contains ' ' then .operand argument else .unknown

def classify (specs : List OptionSpec) (argument : String) : Piece :=
  match argument.toList with
  | [] | ['-'] => .operand argument
  | '-' :: _ =>
    match withName? specs argument with
    | some spec => .option spec none
    | none => classifyInexact specs argument
  | _ => .operand argument

inductive Refusal where
  | help
  | misuse
  deriving DecidableEq, Repr

/-- What has been read of a command line: its operand, the values of options with the latest first,
and whether anything was left over. -/
structure Reading where
  operand : Option String
  values : List (OptionSpec × String)
  leftOver : Bool
  deriving DecidableEq, Repr

def accepts (spec : OptionSpec) (value : String) : Bool :=
  match spec.kind with
  | .word => true
  | .integer => !value.toList.any Text.isSeparator && (Text.integer? value.toList).isSome
  | .switch | .help => false

/-- What follows `--`. Right after the operand the mark belongs to it. -/
def readOperands (reading : Reading) (afterOperand : Bool) (operands : List String) : Reading :=
  match reading.operand, operands with
  | none, operand :: rest =>
    { reading with operand := some operand, leftOver := reading.leftOver || !rest.isEmpty }
  | none, [] => { reading with leftOver := true }
  | some _, rest =>
    { reading with leftOver := reading.leftOver || !afterOperand || !rest.isEmpty }

def takeOperand (reading : Reading) (operand : String) : Reading :=
  match reading.operand with
  | none => { reading with operand := some operand }
  | some _ => { reading with leftOver := true }

def putValue (reading : Reading) (spec : OptionSpec) (value : String) : Reading :=
  { reading with values := (spec, value) :: reading.values }

/-- Whether letters joined to the short option for help ask for it again, or are letters that mean
nothing, which comes to the same. A value joined by an equals sign and another hyphen do not. -/
def lettersAskForHelp (argument : String) (letters : List Char) : Bool :=
  !argument.startsWith "--" && !argument.startsWith "-h=" && !letters.isEmpty &&
    match letters.dropWhile (· = 'h') with
    | '=' :: _ | '-' :: _ => false
    | _ => true

def readArguments (specs : List OptionSpec) (reading : Reading) (afterOperand : Bool) :
    List String → Except Refusal Reading
  | [] => .ok reading
  | argument :: rest =>
    if argument = "--" then .ok (readOperands reading afterOperand rest)
    else
      match classify specs argument with
      | .operand text =>
        readArguments specs (takeOperand reading text) reading.operand.isNone rest
      | .unknown => readArguments specs { reading with leftOver := true } false rest
      | .ambiguous => .error .misuse
      | .option spec joined =>
        match spec.kind, joined with
        | .help, none => .error .help
        | .help, some letters =>
          if lettersAskForHelp argument letters.toList then .error .help else .error .misuse
        | .switch, none => readArguments specs (putValue reading spec "") false rest
        | .switch, some _ => .error .misuse
        | .word, some value | .integer, some value =>
          if accepts spec value then readArguments specs (putValue reading spec value) false rest
          else .error .misuse
        | .word, none | .integer, none =>
          match rest with
          | [] => .error .misuse
          | value :: rest =>
            match classify specs value with
            | .operand value' =>
              if value ≠ "--" && accepts spec value' then
                readArguments specs (putValue reading spec value') false rest
              else .error .misuse
            | _ => .error .misuse

def anyAmbiguous (specs : List OptionSpec) (arguments : List String) : Bool :=
  (arguments.takeWhile (· ≠ "--")).any fun argument => classify specs argument = .ambiguous

def readCommand (specs required : List OptionSpec) (arguments : List String) :
    Except Refusal Reading :=
  if anyAmbiguous specs arguments then .error .misuse
  else do
    let reading ← readArguments specs ⟨none, [], false⟩ false arguments
    if reading.operand.isNone then .error .misuse
    else if required.any fun spec => (reading.values.lookup spec).isNone then .error .misuse
    else pure reading

end PoolPricing.CommandLine
