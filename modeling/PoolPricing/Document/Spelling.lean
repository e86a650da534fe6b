import PoolPricing.Document.Value
import PoolPricing.Number.Shortest
import PoolPricing.Text.Quoted
set_option autoImplicit false

namespace PoolPricing.Document

def fractionStyle : Number.DecimalStyle := ⟨-3, 16, 'e', 2⟩

def quotedText (s : String) : String := String.ofList (Text.quoted s.toList)

def separated (separator : String) : List String → String
  | [] => ""
  | [word] => word
  | word :: rest => word ++ separator ++ separated separator rest

mutual

def Value.quoted : Value → String
  | .null => "None"
  | .flag true => "True"
  | .flag false => "False"
  | .integer n => toString n
  | .fraction x => String.ofList (x.write fractionStyle)
  | .text s => quotedText s
  | .list items => "[" ++ separated ", " (quotedItems items) ++ "]"
  | .object fields => "\x7b" ++ separated ", " (quotedFields fields) ++ "\x7d"

def quotedItems : List Value → List String
  | [] => []
  | item :: rest => item.quoted :: quotedItems rest

def quotedFields : List (String × Value) → List String
  | [] => []
  | (key, value) :: rest => (quotedText key ++ ": " ++ value.quoted) :: quotedFields rest

end

def Value.plain : Value → String
  | .text s => s
  | value => value.quoted

/-- A value as a stored document gives it back: a fraction whose spelling has no point, such as
`1e+16`, is read as text. -/
def storedFraction (x : Number.Binary64) : Value :=
  let spelling := x.write fractionStyle
  if spelling.contains '.' then .fraction x else .text (String.ofList spelling)

mutual

def Value.stored : Value → Value
  | .fraction x => storedFraction x
  | .list items => .list (storedItems items)
  | .object fields => .object (storedFields fields)
  | value => value

def storedItems : List Value → List Value
  | [] => []
  | item :: rest => item.stored :: storedItems rest

def storedFields : List (String × Value) → List (String × Value)
  | [] => []
  | (key, value) :: rest => (key, value.stored) :: storedFields rest

end

end PoolPricing.Document
