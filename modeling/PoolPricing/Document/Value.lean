import PoolPricing.Number.Binary64
set_option autoImplicit false

namespace PoolPricing.Document

inductive Value where
  | null
  | flag (b : Bool)
  | integer (n : Int)
  | fraction (x : Number.Binary64)
  | text (s : String)
  | list (items : List Value)
  | object (fields : List (String × Value))

abbrev Fields := List (String × Value)

def Fields.get? : Fields → String → Option Value
  | [], _ => none
  | field :: rest, key => if field.1 = key then some field.2 else Fields.get? rest key

/-- As `get?`, a key that is not mentioned counting as null. -/
def Fields.getOrNull (fields : Fields) (key : String) : Value := (fields.get? key).getD .null

def Fields.put (key : String) (value : Value) : Fields → Fields
  | [] => [(key, value)]
  | field :: rest =>
    if field.1 = key then (key, value) :: rest else field :: Fields.put key value rest

namespace Value

def kindName : Value → String
  | .null => "NoneType"
  | .flag _ => "bool"
  | .integer _ => "int"
  | .fraction _ => "float"
  | .text _ => "str"
  | .list _ => "list"
  | .object _ => "dict"

end Value
end PoolPricing.Document
