import PoolPricing.Depeg.Price
import PoolPricing.Proofs.Outcome
import PoolPricing.Word
import Mathlib.Algebra.BigOperators.Ring.Finset
import Mathlib.Tactic.Ring
set_option autoImplicit false

/-!
Prices against the bytes they are read from. The number at a place is the sum of the eight bytes
that stand there, each counting 256 times the one before (`wordAt_eq_sum`), and what is put at a
place is what is read from it (`wordAt_putWord`). A price is a quotient of such numbers, refused
only where the account ends before them or the divisor is zero, so no other byte has any influence
on it (`price_reads_its_bytes`).
-/

namespace PoolPricing.Depeg

open Checked

/-- The number at a place of an account that reaches so far. -/
def wordAt (account : Bytes) (place : Nat) : Int := littleEndian ((account.drop place).take 8)

theorem wordAt_nonneg (account : Bytes) (place : Nat) : 0 ≤ wordAt account place :=
  Int.natCast_nonneg _

theorem readWord_eq (subject : String) (account : Bytes) (place : Nat) :
    readWord subject account place =
      if account.length < place + 8 then
        .error (.missingAccount (.tooShort subject account.length (place + 8)))
      else .ok (wordAt account place) := rfl

theorem readWord_eq_ok {subject : String} {account : Bytes} {place : Nat} {n : Int} :
    readWord subject account place = .ok n ↔
      place + 8 ≤ account.length ∧ wordAt account place = n := by
  rw [readWord, refuse_eq, guard_eq_ok, Nat.not_lt]
  exact and_congr_right fun _ => pure_eq_ok

def bytesOf : Nat → Nat → Bytes
  | 0, _ => []
  | width + 1, n => UInt8.ofNat n :: bytesOf width (n / 256)

@[simp] theorem length_bytesOf (width n : Nat) : (bytesOf width n).length = width := by
  induction width generalizing n with
  | zero => rfl
  | succ width ih => simp [bytesOf, ih]

theorem littleEndian_bytesOf (width n : Nat) :
    littleEndian (bytesOf width n) = n % 256 ^ width := by
  induction width generalizing n with
  | zero => simp [bytesOf, littleEndian, Nat.mod_one]
  | succ width ih =>
    rw [bytesOf, littleEndian, ih, UInt8.toNat_ofNat', pow_succ' 256 width, Nat.mod_mul]

theorem littleEndian_eq_sum (bytes : Bytes) :
    littleEndian bytes = ∑ i ∈ Finset.range bytes.length, (bytes.getD i 0).toNat * 256 ^ i := by
  induction bytes with
  | nil => rfl
  | cons byte rest ih =>
    rw [littleEndian, ih, List.length_cons, Finset.sum_range_succ', Finset.mul_sum]
    simp only [List.getD_cons_succ, List.getD_cons_zero, pow_succ, pow_zero, mul_one]
    rw [Nat.add_comm]
    congr 1
    exact Finset.sum_congr rfl fun i _ => by ring

theorem wordAt_eq_sum {account : Bytes} {place : Nat} (h : place + 8 ≤ account.length) :
    wordAt account place =
      ∑ i ∈ Finset.range 8, ((account.getD (place + i) 0).toNat : Int) * 256 ^ i := by
  have hlength : ((account.drop place).take 8).length = 8 := by
    rw [List.length_take, List.length_drop]
    omega
  rw [wordAt, littleEndian_eq_sum, hlength]
  push_cast
  refine Finset.sum_congr rfl fun i hi => ?_
  rw [List.getD_eq_getElem?_getD, List.getElem?_take_of_lt (Finset.mem_range.mp hi),
    List.getElem?_drop, List.getD_eq_getElem?_getD]

theorem wordAt_congr {account other : Bytes} {place : Nat}
    (h : ∀ i, place ≤ i → i < place + 8 → account[i]? = other[i]?) :
    wordAt account place = wordAt other place := by
  have hsame : (account.drop place).take 8 = (other.drop place).take 8 := by
    refine List.ext_getElem? fun i => ?_
    by_cases hi : i < 8
    · rw [List.getElem?_take_of_lt hi, List.getElem?_take_of_lt hi, List.getElem?_drop,
        List.getElem?_drop, h _ (Nat.le_add_right place i) (Nat.add_lt_add_left hi place)]
    · rw [List.getElem?_take, List.getElem?_take, if_neg hi, if_neg hi]
  rw [wordAt, hsame, wordAt]

/-- The account with a number put at a place. -/
def putWord (account : Bytes) (place : Nat) (word : Word) : Bytes :=
  account.take place ++ bytesOf 8 word.val.toNat ++ account.drop (place + 8)

section

variable {account : Bytes} {place : Nat} (h : place + 8 ≤ account.length) (word : Word)
include h

theorem length_putWord : (putWord account place word).length = account.length := by
  simp only [putWord, List.length_append, List.length_take, List.length_drop, length_bytesOf]
  omega

theorem wordAt_putWord : wordAt (putWord account place word) place = word := by
  have hplace : (account.take place).length = place := List.length_take_of_le (by omega)
  have hbytes : ((putWord account place word).drop place).take 8 = bytesOf 8 word.val.toNat := by
    rw [putWord, List.append_assoc, List.drop_left' hplace, List.take_left' (length_bytesOf 8 _)]
  have hnonneg := word.nonneg
  have hfits := word.le_greatest
  rw [wordAt, hbytes, littleEndian_bytesOf, Nat.mod_eq_of_lt (by omega),
    Int.toNat_of_nonneg hnonneg]

theorem getElem?_putWord {i : Nat} (hi : i < place ∨ place + 8 ≤ i) :
    (putWord account place word)[i]? = account[i]? := by
  have hplace : (account.take place).length = place := List.length_take_of_le (by omega)
  rcases hi with hbefore | hafter
  · rw [putWord, List.append_assoc, List.getElem?_append_left (by omega),
      List.getElem?_take_of_lt hbefore]
  · rw [putWord, List.getElem?_append_right (by simp [hplace]; omega), List.getElem?_drop]
    congr 1
    simp only [List.length_append, hplace, length_bytesOf]
    omega

theorem wordAt_putWord_of_apart {other : Nat} (hapart : other + 8 ≤ place ∨ place + 8 ≤ other) :
    wordAt (putWord account place word) other = wordAt account other :=
  wordAt_congr fun i hlow hhigh => getElem?_putWord h word (by omega)

end

theorem marinadePrice_eq (account : Bytes) :
    marinadePrice (some account) =
      if account.length < 520 then
        .error (.missingAccount (.tooShort "marinade msol_price" account.length 520))
      else .ok (wordAt account 512 * 10 ^ 6 / 2 ^ 32) := by
  rw [marinadePrice, readWord_eq, show marinadePlace + 8 = 520 from rfl]
  by_cases hshort : account.length < 520
  · rw [if_pos hshort, if_pos hshort, error_bind]
  · rw [if_neg hshort, if_neg hshort, ok_bind]
    rfl

theorem lidoPrice_eq (account : Bytes) :
    lidoPrice (some account) =
      if account.length < 81 then
        .error (.missingAccount (.tooShort "lido st_sol_supply" account.length 81))
      else if account.length < 89 then
        .error (.missingAccount (.tooShort "lido sol_balance" account.length 89))
      else if wordAt account 73 = 0 then .error (.missingAccount .lidoSupplyIsZero)
      else .ok (wordAt account 81 * 10 ^ 6 / wordAt account 73) := by
  rw [lidoPrice, readWord_eq, readWord_eq, show lidoSupplyPlace + 8 = 81 from rfl,
    show lidoBalancePlace + 8 = 89 from rfl]
  by_cases hsupply : account.length < 81
  · rw [if_pos hsupply, if_pos hsupply, error_bind]
  by_cases hbalance : account.length < 89
  · rw [if_neg hsupply, if_pos hbalance, if_neg hsupply, if_pos hbalance, ok_bind, error_bind]
  rw [if_neg hsupply, if_neg hbalance, if_neg hsupply, if_neg hbalance, ok_bind, ok_bind]
  by_cases hzero : wordAt account 73 = 0
  · simp [lidoSupplyPlace, hzero]
  · have hnonneg := wordAt_nonneg account 73
    have hpos : 0 < wordAt account 73 := by omega
    simp [lidoSupplyPlace, lidoBalancePlace, precision, hzero, floorDivide_of_pos _ hpos]

theorem marinadePrice_of_long {account : Bytes} (h : 520 ≤ account.length) :
    marinadePrice (some account) = .ok (wordAt account 512 * 10 ^ 6 / 2 ^ 32) := by
  rw [marinadePrice_eq, if_neg (Nat.not_lt.mpr h)]

theorem lidoPrice_of_long {account : Bytes} (h : 89 ≤ account.length) :
    lidoPrice (some account) =
      if wordAt account 73 = 0 then .error (.missingAccount .lidoSupplyIsZero)
      else .ok (wordAt account 81 * 10 ^ 6 / wordAt account 73) := by
  rw [lidoPrice_eq, if_neg (Nat.not_lt.mpr (by omega)), if_neg (Nat.not_lt.mpr h)]

/-- Of accounts that reach as far as `past`, the bytes from `first` up to there decide. -/
def ReadsOnly (reader : Option Bytes → Checked Int) (first past : Nat) : Prop :=
  ∀ account other : Bytes, past ≤ account.length → past ≤ other.length →
    (∀ i, first ≤ i → i < past → account[i]? = other[i]?) →
    reader (some account) = reader (some other)

theorem marinadePrice_readsOnly : ReadsOnly marinadePrice 512 520 := by
  intro account other haccount hother hagree
  rw [marinadePrice_of_long haccount, marinadePrice_of_long hother, wordAt_congr hagree]

theorem lidoPrice_readsOnly : ReadsOnly lidoPrice 73 89 := by
  intro account other haccount hother hagree
  have hsupply : wordAt account 73 = wordAt other 73 :=
    wordAt_congr fun i hlow hhigh => hagree i hlow (by omega)
  have hbalance : wordAt account 81 = wordAt other 81 :=
    wordAt_congr fun i hlow hhigh => hagree i (by omega) hhigh
  rw [lidoPrice_of_long haccount, lidoPrice_of_long hother, hsupply, hbalance]

theorem marinadePrice_missing_iff (source : Option Bytes) :
    (∃ cause, marinadePrice source = .error (.missingAccount cause)) ↔
      source = none ∨ ∃ account, source = some account ∧ account.length < 520 := by
  cases source with
  | none => exact ⟨fun _ => .inl rfl, fun _ => ⟨_, rfl⟩⟩
  | some account =>
    rw [marinadePrice_eq]
    by_cases hshort : account.length < 520
    · simp [hshort]
    · simp [hshort]

theorem lidoPrice_missing_iff (source : Option Bytes) :
    (∃ cause, lidoPrice source = .error (.missingAccount cause)) ↔
      source = none ∨ ∃ account, source = some account ∧
        (account.length < 89 ∨ wordAt account 73 = 0) := by
  cases source with
  | none => exact ⟨fun _ => .inl rfl, fun _ => ⟨_, rfl⟩⟩
  | some account =>
    rw [lidoPrice_eq]
    by_cases hsupply : account.length < 81
    · simp [hsupply, show account.length < 89 by omega]
    by_cases hbalance : account.length < 89
    · simp [hsupply, hbalance]
    by_cases hzero : wordAt account 73 = 0
    · simp [hsupply, hbalance, hzero]
    · simp [hsupply, hbalance, hzero]

theorem marinadePrice_putWord {account : Bytes} (h : 520 ≤ account.length) (word : Word) :
    marinadePrice (some (putWord account 512 word)) = .ok (word.val * 10 ^ 6 / 2 ^ 32) := by
  have hlength := length_putWord (show 512 + 8 ≤ account.length by omega) word
  rw [marinadePrice_of_long (by omega), wordAt_putWord (by omega) word]

theorem lidoPrice_putWord {account : Bytes} (h : 89 ≤ account.length) (supply balance : Word) :
    lidoPrice (some (putWord (putWord account 73 supply) 81 balance)) =
      if supply.val = 0 then .error (.missingAccount .lidoSupplyIsZero)
      else .ok (balance.val * 10 ^ 6 / supply.val) := by
  have hfirst := length_putWord (show 73 + 8 ≤ account.length by omega) supply
  have hboth := length_putWord (show 81 + 8 ≤ (putWord account 73 supply).length by omega) balance
  have hsupply : wordAt (putWord (putWord account 73 supply) 81 balance) 73 = supply :=
    (wordAt_putWord_of_apart (by omega) balance (by omega)).trans (wordAt_putWord (by omega) supply)
  rw [lidoPrice_of_long (by omega), hsupply, wordAt_putWord (by omega) balance]

/-- The price of either program, from the bytes of its account: the sum that a number is of its
bytes, when an account is missing, what the price is, what no other kind has; and that nothing but
those bytes matters, and that numbers put there are priced. -/
theorem price_reads_its_bytes :
    (∀ (account : Bytes) (place : Nat), place + 8 ≤ account.length →
      wordAt account place =
        ∑ i ∈ Finset.range 8, ((account.getD (place + i) 0).toNat : Int) * 256 ^ i) ∧
    (∀ source, (∃ cause, price .marinade source = .error (.missingAccount cause)) ↔
      source = none ∨ ∃ account, source = some account ∧ account.length < 520) ∧
    (∀ account : Bytes, 520 ≤ account.length →
      price .marinade (some account) = .ok (wordAt account 512 * 10 ^ 6 / 2 ^ 32)) ∧
    (∀ source, (∃ cause, price .lido source = .error (.missingAccount cause)) ↔
      source = none ∨ ∃ account, source = some account ∧
        (account.length < 89 ∨ wordAt account 73 = 0)) ∧
    (∀ account : Bytes, 89 ≤ account.length → wordAt account 73 ≠ 0 →
      price .lido (some account) = .ok (wordAt account 81 * 10 ^ 6 / wordAt account 73)) ∧
    (∀ kind source, kind ≠ .marinade → kind ≠ .lido →
      price kind source = .error (.noPriceSource kind)) ∧
    ReadsOnly (price .marinade) 512 520 ∧ ReadsOnly (price .lido) 73 89 ∧
    (∀ (account : Bytes) (word : Word), 520 ≤ account.length →
      price .marinade (some (putWord account 512 word)) = .ok (word.val * 10 ^ 6 / 2 ^ 32)) ∧
    (∀ (account : Bytes) (supply balance : Word), 89 ≤ account.length →
      price .lido (some (putWord (putWord account 73 supply) 81 balance)) =
        if supply.val = 0 then .error (.missingAccount .lidoSupplyIsZero)
        else .ok (balance.val * 10 ^ 6 / supply.val)) := by
  refine ⟨fun _ _ => wordAt_eq_sum, marinadePrice_missing_iff, fun _ => marinadePrice_of_long,
    lidoPrice_missing_iff, fun account hlong hsupply => ?_, fun kind source hmarinade hlido => ?_,
    marinadePrice_readsOnly, lidoPrice_readsOnly,
    fun _ word hlong => marinadePrice_putWord hlong word,
    fun _ supply balance hlong => lidoPrice_putWord hlong supply balance⟩
  · exact (lidoPrice_of_long hlong).trans (if_neg hsupply)
  · cases kind with
    | none => rfl
    | splStake => rfl
    | marinade => contradiction
    | lido => contradiction

theorem price_reads_its_bytes_staked :
    let junk : Bytes := List.replicate 600 7
    let msol : Word := ⟨4724464025, by decide, by decide⟩
    let ten : Word := ⟨10, by decide, by decide⟩
    let eleven : Word := ⟨11, by decide, by decide⟩
    520 ≤ junk.length ∧
    price .marinade (some (putWord junk 512 msol)) = .ok 1099999 ∧
    price .lido (some (putWord (putWord junk 73 ten) 81 eleven)) = .ok 1100000 ∧
    (∃ cause, price .lido (some (junk.take 88)) = .error (.missingAccount cause)) := by
  intro junk msol ten eleven
  obtain ⟨_, _, _, hmissing, _, _, _, _, hmarinade, hlido⟩ := price_reads_its_bytes
  have hlong : 520 ≤ junk.length := by
    rw [List.length_replicate]
    decide
  refine ⟨hlong, (hmarinade junk msol hlong).trans rfl,
    (hlido junk ten eleven (by omega)).trans rfl, (hmissing _).mpr (.inr ⟨_, rfl, .inl ?_⟩)⟩
  rw [List.length_take]
  omega

end PoolPricing.Depeg
