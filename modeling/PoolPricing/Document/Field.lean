import PoolPricing.Checked
import PoolPricing.Clock
import PoolPricing.Text.Blank
import PoolPricing.Text.Lowercase
set_option autoImplicit false

namespace PoolPricing.Document

open Checked

def Value.mapping (subject : String) : Value → Checked Fields
  | .object fields => pure fields
  | _ => refuse (.mistyped subject .mapping)

def Value.integer? : Value → Option Int
  | .integer n => some n
  | _ => none

def Value.whole (subject : String) (value : Value) : Checked Int :=
  match value.integer? with
  | some n => pure n
  | none => refuse (.mistyped subject .integer)

def Value.count (subject : String) (value : Value) : Checked Int := do
  let n ← value.whole subject
  requireNonnegative subject n
  pure n

def fieldName (scope key : String) : String := scope ++ "." ++ key

def Fields.count (fields : Fields) (scope key : String) : Checked Int :=
  match fields.get? key with
  | some value => value.count (fieldName scope key)
  | none => refuse (.invalid (.required (fieldName scope key)))

def Fields.countOr (fields : Fields) (scope key : String) (default : Int) : Checked Int :=
  match fields.get? key with
  | some value => value.count (fieldName scope key)
  | none => pure default

/-- The spelling of a value, in small letters and without blanks around, by which it is compared
with a word. -/
def Value.keyword (value : Value) : String :=
  String.ofList (Text.lowercase (Text.trim value.plain.toList))

def Value.depegKind (value : Value) : Checked Depeg.Kind :=
  match Depeg.Kind.ofWord? value.keyword with
  | some kind => pure kind
  | none => refuse (.invalid (.unknownWord "unknown depeg type" value.quoted))

def Value.clock (value : Value) : Checked Clock :=
  match Clock.ofWord? value.keyword with
  | some clock => pure clock
  | none => refuse (.invalid (.unknownWord "unknown activation type" value.quoted))

end PoolPricing.Document
