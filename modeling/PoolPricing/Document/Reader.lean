import PoolPricing.Document.Value
import PoolPricing.Text.Hex
set_option autoImplicit false

/-!
Reading a value from its notation: `null`, flags, numbers, quoted text, lists in brackets and
objects in braces. A number without point and exponent is whole. Each reader takes the characters
that are left and gives back those that follow what it has read.
-/

namespace PoolPricing.Document.Reader

def skipSpace (cs : List Char) : List Char :=
  cs.dropWhile fun c => c = ' ' || c = '\t' || c = '\n' || c = '\r'

def codeUnit? : List Char → Option (Nat × List Char)
  | a :: b :: c :: d :: rest => do
    let a ← Text.hexValue a
    let b ← Text.hexValue b
    let c ← Text.hexValue c
    let d ← Text.hexValue d
    pure (((a * 16 + b) * 16 + c) * 16 + d, rest)
  | _ => none

/-- The character that a code unit stands for, with the unit after it where two make up one
character. A unit that lacks its other half stands for the replacement character. -/
def unitCharacter (unit : Nat) (rest : List Char) : Char × List Char :=
  if 0xD800 ≤ unit ∧ unit < 0xDC00 then
    match rest with
    | '\\' :: 'u' :: tail =>
      match codeUnit? tail with
      | some (low, tail) =>
        if 0xDC00 ≤ low ∧ low < 0xE000 then
          (Char.ofNat (0x10000 + (unit - 0xD800) * 0x400 + (low - 0xDC00)), tail)
        else ('\uFFFD', rest)
      | none => ('\uFFFD', rest)
    | _ => ('\uFFFD', rest)
  else if 0xDC00 ≤ unit ∧ unit < 0xE000 then ('\uFFFD', rest)
  else (Char.ofNat unit, rest)

def escape? : List Char → Option (Char × List Char)
  | '"' :: rest => some ('"', rest)
  | '\\' :: rest => some ('\\', rest)
  | '/' :: rest => some ('/', rest)
  | 'b' :: rest => some ('\x08', rest)
  | 'f' :: rest => some ('\x0C', rest)
  | 'n' :: rest => some ('\n', rest)
  | 'r' :: rest => some ('\r', rest)
  | 't' :: rest => some ('\t', rest)
  | 'u' :: rest => (codeUnit? rest).map fun unit => unitCharacter unit.1 unit.2
  | _ => none

/-- The text up to the closing quote; `read` holds the characters so far, last first. -/
def text? : Nat → List Char → List Char → Option (String × List Char)
  | 0, _, _ => none
  | fuel + 1, read, cs =>
    match cs with
    | [] => none
    | '"' :: rest => some (String.ofList read.reverse, rest)
    | '\\' :: rest =>
      match escape? rest with
      | some (c, rest) => text? fuel (c :: read) rest
      | none => none
    | c :: rest => text? fuel (c :: read) rest

def digits (cs : List Char) : Nat × Nat × List Char :=
  let ds := cs.takeWhile Char.isDigit
  (ds.foldl (fun n d => 10 * n + (d.toNat - 48)) 0, ds.length, cs.dropWhile Char.isDigit)

def exponent? (cs : List Char) : Option (Int × Bool × List Char) :=
  match cs with
  | e :: rest =>
    if e = 'e' ∨ e = 'E' then
      let negative := rest.head? = some '-'
      let unsigned := match rest with
        | '-' :: tail => tail
        | '+' :: tail => tail
        | _ => rest
      match digits unsigned with
      | (_, 0, _) => none
      | (power, _, tail) => some (if negative then -(power : Int) else power, true, tail)
    else some (0, false, cs)
  | [] => some (0, false, [])

def number? (cs : List Char) : Option (Value × List Char) :=
  let negative := cs.head? = some '-'
  match digits (if negative then cs.drop 1 else cs) with
  | (_, 0, _) => none
  | (whole, _, rest) =>
    match rest with
    | '.' :: tail =>
      match digits tail with
      | (_, 0, _) => none
      | (places, count, tail) => do
        let (power, _, tail) ← exponent? tail
        let x ← Number.Binary64.ofDecimal? negative (whole * Nat.pow 10 count + places)
          (power - count)
        pure (.fraction x, tail)
    | _ => do
      let (power, scaled, tail) ← exponent? rest
      if scaled then
        let x ← Number.Binary64.ofDecimal? negative whole power
        pure (.fraction x, tail)
      else pure (.integer (if negative then -(whole : Int) else whole), tail)

def atom? : List Char → Option (Value × List Char)
  | 'n' :: 'u' :: 'l' :: 'l' :: rest => some (.null, rest)
  | 't' :: 'r' :: 'u' :: 'e' :: rest => some (.flag true, rest)
  | 'f' :: 'a' :: 'l' :: 's' :: 'e' :: rest => some (.flag false, rest)
  | cs => number? cs

mutual

def value? : Nat → List Char → Option (Value × List Char)
  | 0, _ => none
  | fuel + 1, cs =>
    match skipSpace cs with
    | '"' :: rest => (text? (rest.length + 1) [] rest).map fun read => (.text read.1, read.2)
    | '[' :: rest =>
      match skipSpace rest with
      | ']' :: tail => some (.list [], tail)
      | _ => items? fuel [] rest
    | '\x7b' :: rest =>
      match skipSpace rest with
      | '\x7d' :: tail => some (.object [], tail)
      | _ => fields? fuel [] rest
    | other => atom? other

def items? : Nat → List Value → List Char → Option (Value × List Char)
  | 0, _, _ => none
  | fuel + 1, read, cs =>
    match value? fuel cs with
    | none => none
    | some (item, rest) =>
      match skipSpace rest with
      | ',' :: tail => items? fuel (item :: read) tail
      | ']' :: tail => some (.list (item :: read).reverse, tail)
      | _ => none

def fields? : Nat → Fields → List Char → Option (Value × List Char)
  | 0, _, _ => none
  | fuel + 1, read, cs =>
    match skipSpace cs with
    | '"' :: rest =>
      match text? (rest.length + 1) [] rest with
      | none => none
      | some (key, rest) =>
        match skipSpace rest with
        | ':' :: rest =>
          match value? fuel rest with
          | none => none
          | some (value, rest) =>
            let read := Fields.put key value read
            match skipSpace rest with
            | ',' :: tail => fields? fuel read tail
            | '\x7d' :: tail => some (.object read, tail)
            | _ => none
        | _ => none
    | _ => none

end

/-- The value that a whole text writes. Every step takes a character, so the length of the text
bounds their number. -/
def read? (source : String) : Option Value :=
  let cs := source.toList
  match value? (2 * cs.length + 2) cs with
  | some (value, rest) => if (skipSpace rest).isEmpty then some value else none
  | none => none

end PoolPricing.Document.Reader
