set_option autoImplicit false

namespace PoolPricing.Text

def hexDigit (n : Nat) : Char :=
  if n < 10 then Char.ofNat (48 + n) else Char.ofNat (87 + n)

def hexValue (c : Char) : Option Nat :=
  if '0' ≤ c ∧ c ≤ '9' then some (c.toNat - 48)
  else if 'a' ≤ c ∧ c ≤ 'f' then some (c.toNat - 87)
  else if 'A' ≤ c ∧ c ≤ 'F' then some (c.toNat - 55)
  else none

def hexDigits : Nat → Nat → List Char
  | 0, _ => []
  | width + 1, n => hexDigits width (n / 16) ++ [hexDigit (n % 16)]

def hexOfBytes (bytes : List UInt8) : List Char :=
  bytes.flatMap fun b => hexDigits 2 b.toNat

def isHexSpace (c : Char) : Bool := c = ' ' || ('\t' ≤ c && c ≤ '\r')

def bytesOfHex? : List Char → Option (List UInt8)
  | [] => some []
  | [c] => if isHexSpace c then some [] else none
  | c :: d :: rest =>
    if isHexSpace c then bytesOfHex? (d :: rest)
    else do
      let high ← hexValue c
      let low ← hexValue d
      let bytes ← bytesOfHex? rest
      pure (UInt8.ofNat (16 * high + low) :: bytes)

end PoolPricing.Text
