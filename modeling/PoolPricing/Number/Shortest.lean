import PoolPricing.Number.Binary64
set_option autoImplicit false

/-!
The shortest decimal that reads back: the fewest digits that lie nearer to a binary number than to
its neighbours, and of the decimals with that many digits the nearest. A `DecimalStyle` says how the
digits are laid out.
-/

namespace PoolPricing.Number

/-- The decimal `0.d₁d₂… * 10 ^ point`, its digits packed into one number of `count` digits. -/
structure Decimal where
  digits : Nat
  count : Nat
  point : Int
  deriving DecidableEq, Repr

structure DecimalStyle where
  leastPoint : Int
  greatestPoint : Int
  exponentMark : Char
  exponentWidth : Nat

def powerOfTen (e : Int) : Rat :=
  if 0 ≤ e then (Nat.pow 10 e.toNat : Rat) else mkRat 1 (Nat.pow 10 (-e).toNat)

def digitCount (n : Nat) : Nat := (Nat.toDigits 10 n).length

def decimalPoint (q : Rat) : Int :=
  let num := q.num.natAbs
  if q.den ≤ num then digitCount (num / q.den) else 1 - digitCount ((q.den - 1) / num)

namespace Binary64

/-- The fractions that round to a positive number lie between these two. The lower one is half as
far where the significand is the least with 53 bits, since the numbers below lie denser. -/
def interval (x : Binary64) : Rat × Rat :=
  let unit := Binary64.toRat ⟨false, 1, x.exponent⟩
  let value := Binary64.toRat ⟨false, x.significand, x.exponent⟩
  let below := if x.significand = Nat.pow 2 52 ∧ -1074 < x.exponent then unit / 4 else unit / 2
  (value - below, value + unit / 2)

def readsBack (x : Binary64) (q : Rat) : Bool :=
  let ends := x.interval
  if x.significand % 2 = 0 then ends.1 ≤ q && q ≤ ends.2 else ends.1 < q && q < ends.2

def decimalOfCount? (x : Binary64) (count : Nat) : Option Decimal :=
  let value := Binary64.toRat ⟨false, x.significand, x.exponent⟩
  let point := decimalPoint value
  let unit := powerOfTen (point - count)
  let lower := (value / unit).floor.toNat
  let lowerFits := x.readsBack (lower * unit)
  let upperFits := x.readsBack ((lower + 1 : Nat) * unit)
  let twice := 2 * (value / unit - lower)
  let takeUpper := if lowerFits && upperFits then 1 < twice || (twice == 1 && lower % 2 == 1)
    else upperFits
  let digits := if takeUpper then lower + 1 else lower
  if lowerFits || upperFits then
    if digitCount digits = count then some ⟨digits, count, point⟩
    else some ⟨digits / 10, count, point + 1⟩
  else none

/-- The decimals of 1, 2, … 17 digits are tried in turn; one of 17 digits always reads back. -/
def shortest (x : Binary64) : Decimal :=
  if x.significand = 0 then ⟨0, 1, 1⟩
  else ((List.range' 1 17).findSome? x.decimalOfCount?).getD ⟨x.significand, 17, 17⟩

end Binary64

def zeros (n : Nat) : List Char := List.replicate n '0'

def Decimal.positional (d : Decimal) : List Char :=
  let digits := Nat.toDigits 10 d.digits
  if d.point ≤ 0 then ['0', '.'] ++ zeros (-d.point).toNat ++ digits
  else
    let whole := d.point.toNat
    if d.count ≤ whole then digits ++ zeros (whole - d.count) ++ ['.', '0']
    else digits.take whole ++ ['.'] ++ digits.drop whole

def Decimal.scientific (style : DecimalStyle) (d : Decimal) : List Char :=
  let exponent := d.point - 1
  let width := style.exponentWidth
  let power := Nat.toDigits 10 exponent.natAbs
  let mantissa := match Nat.toDigits 10 d.digits with
    | [digit] => [digit]
    | digit :: rest => digit :: '.' :: rest
    | [] => []
  mantissa ++ [style.exponentMark, if exponent < 0 then '-' else '+'] ++
    zeros (width - power.length) ++ power

def Decimal.write (style : DecimalStyle) (d : Decimal) : List Char :=
  if style.leastPoint ≤ d.point ∧ d.point ≤ style.greatestPoint then d.positional
  else d.scientific style

def Binary64.write (style : DecimalStyle) (x : Binary64) : List Char :=
  (if x.negative then ['-'] else []) ++ x.shortest.write style

end PoolPricing.Number
