import PoolPricing.Checked
set_option autoImplicit false

namespace PoolPricing.Depeg

open Checked

abbrev Bytes := List UInt8

def precision : Int := 1000000

def littleEndian : Bytes → Nat
  | [] => 0
  | byte :: rest => byte.toNat + 256 * littleEndian rest

def readWord (subject : String) (account : Bytes) (place : Nat) : Checked Int :=
  if account.length < place + 8 then
    refuse (.missingAccount (.tooShort subject account.length (place + 8)))
  else pure (littleEndian ((account.drop place).take 8))

def marinadePlace : Nat := 512

def lidoSupplyPlace : Nat := 73

def lidoBalancePlace : Nat := 81

/-- The account holds the price itself, with 32 binary places. -/
def marinadePrice : Option Bytes → Checked Int
  | none => refuse (.missingAccount .marinadeState)
  | some account => do
    let price ← readWord "marinade msol_price" account marinadePlace
    pure (price * precision / Int.pow 2 32)

/-- The account holds what backs the token and the token's supply. -/
def lidoPrice : Option Bytes → Checked Int
  | none => refuse (.missingAccount .lidoState)
  | some account => do
    let supply ← readWord "lido st_sol_supply" account lidoSupplyPlace
    let balance ← readWord "lido sol_balance" account lidoBalancePlace
    if supply = 0 then refuse (.missingAccount .lidoSupplyIsZero)
    floorDivide (balance * precision) supply

def price (kind : Kind) (account : Option Bytes) : Checked Int :=
  match kind with
  | .marinade => marinadePrice account
  | .lido => lidoPrice account
  | .none | .splStake => refuse (.noPriceSource kind)

theorem readWord_nonneg {subject : String} {account : Bytes} {place : Nat} {n : Int}
    (h : readWord subject account place = .ok n) : 0 ≤ n := by
  unfold readWord at h
  split at h
  · cases h
  · cases h
    exact Int.natCast_nonneg _

theorem price_nonneg {kind : Kind} {account : Option Bytes} {n : Int}
    (h : price kind account = .ok n) : 0 ≤ n := by
  cases kind with
  | none => cases h
  | splStake => cases h
  | marinade =>
    cases account with
    | none => cases h
    | some account =>
      simp only [price, marinadePrice] at h
      cases hread : readWord "marinade msol_price" account marinadePlace with
      | error fault => rw [hread] at h; cases h
      | ok word =>
        rw [hread] at h
        cases h
        have := readWord_nonneg hread
        exact Int.ediv_nonneg (Int.mul_nonneg this (by decide)) (by decide)
  | lido =>
    cases account with
    | none => cases h
    | some account =>
      simp only [price, lidoPrice] at h
      cases hsupply : readWord "lido st_sol_supply" account lidoSupplyPlace with
      | error fault => rw [hsupply] at h; cases h
      | ok supply =>
        cases hbalance : readWord "lido sol_balance" account lidoBalancePlace with
        | error fault => rw [hsupply, hbalance] at h; cases h
        | ok balance =>
          rw [hsupply, hbalance] at h
          have hs := readWord_nonneg hsupply
          have hb := readWord_nonneg hbalance
          by_cases hzero : supply = 0
          · simp [hzero, bind, Except.bind, refuse] at h
          · have hpos : 0 < supply := by omega
            simp only [bind, Except.bind, hzero, if_false,
              floorDivide_of_pos _ hpos] at h
            cases h
            exact Int.ediv_nonneg (Int.mul_nonneg hb (by decide)) hs

end PoolPricing.Depeg
