import PoolPricing.Proofs.BalancedDeposit
import PoolPricing.Proofs.BalancedWithdrawal
import PoolPricing.Proofs.Mirror.Basic
set_option autoImplicit false

/-!
The two sides of a pool are treated alike. The mirror of a pool has everything that belongs to
either token exchanged; a quote on it is the quote on the pool with its sides exchanged, or both are
refused for faults of one class (`mirror_quotes_alike`). That takes a plain curve, and of the
deposits the balanced ones: the solver does not treat two balances alike.
-/

namespace PoolPricing

open Checked

namespace Vault

theorem divide_evaluates (rounding : Rounding) {n d : Int} (hn : 0 ≤ n) (hd : 0 ≤ d) :
    (divide rounding n d).Evaluates fun quotient => 0 ≤ quotient := by
  by_cases hzero : d = 0
  · rw [divide.eq_def, if_pos hzero]
    exact .error rfl
  · have hpos : 0 < d := by omega
    cases rounding with
    | down =>
      rw [divide_down_of_pos n hpos]
      exact .ok (Int.ediv_nonneg hn hd)
    | up =>
      rw [divide_up_of_pos n hpos]
      exact .ok (Number.ceiling_nonneg hn hpos)

theorem amountOfShare_evaluates (rounding : Rounding) {share total supply : Int}
    (hshare : 0 ≤ share) (htotal : 0 ≤ total) (hsupply : 0 ≤ supply) :
    (amountOfShare rounding share total supply).Evaluates fun amount => 0 ≤ amount := by
  rw [amountOfShare, requireNonnegativeShown_of_nonneg _ hshare,
    requireNonnegativeShown_of_nonneg _ htotal, requireNonnegativeShown_of_nonneg _ hsupply]
  exact divide_evaluates rounding (Int.mul_nonneg hshare htotal) hsupply

theorem shareOfAmount_evaluates (rounding : Rounding) {amount total supply : Int}
    (hamount : 0 ≤ amount) (htotal : 0 ≤ total) (hsupply : 0 ≤ supply) :
    (shareOfAmount rounding amount total supply).Evaluates fun share => 0 ≤ share := by
  rw [shareOfAmount, requireNonnegativeShown_of_nonneg _ hamount,
    requireNonnegativeShown_of_nonneg _ htotal, requireNonnegativeShown_of_nonneg _ hsupply]
  by_cases hzero : total = 0
  · rw [ok_bind, ok_bind, ok_bind, if_pos hzero]
    exact .ok zero_nonneg
  · rw [ok_bind, ok_bind, ok_bind, if_neg hzero]
    exact divide_evaluates rounding (Int.mul_nonneg hamount hsupply) htotal

theorem unlockedAt_evaluates (vault : Vault) (now : Int) :
    (vault.unlockedAt now).Evaluates fun unlocked => 0 ≤ unlocked := by
  unfold unlockedAt
  refine .bind (P := fun _ => True) ?_ fun locked _ => .guard rfl fun h => ?_
  · unfold lockedAt Tracker.lockedAt
    split
    · exact .error rfl
    · dsimp only
      split <;> exact .ok trivial
  · exact .ok (Int.not_lt.mp h)

end Vault

theorem Holding.position_evaluates (holding : Holding) (now : Int) :
    (holding.position now).Evaluates Position.Backed := by
  have hends : (holding.position now).Evaluates fun _ => True := by
    unfold position amount
    refine .bind (P := fun _ => True) ?_ fun amount _ => ?_
    · refine .bind (holding.vault.unlockedAt_evaluates now) fun unlocked hunlocked => ?_
      exact (Vault.amountOfShare_evaluates _ holding.shares.nonneg hunlocked
        holding.supply.nonneg).any
    · exact .bind (holding.vault.unlockedAt_evaluates now) fun _ _ => .ok trivial
  cases h : holding.position now with
  | ok position => exact .ok (position_backed h)
  | error fault =>
    rw [h] at hends
    exact .error hends.of_error

namespace Position.Backed

variable {position : Position} (hbacked : position.Backed) {lpSupply : Int} (hpool : 0 ≤ lpSupply)
include hbacked hpool

theorem release_evaluates {burned : Int} (h : 0 ≤ burned) :
    (position.release burned lpSupply).Evaluates fun amount => 0 ≤ amount := by
  refine .bind (Vault.shareOfAmount_evaluates _ h hpool hbacked.shares_nonneg)
    fun shares hshares => ?_
  exact Vault.amountOfShare_evaluates _ hshares hbacked.withdrawable_nonneg
    (Int.le_of_lt hbacked.supply_pos)

theorem amountForMint_evaluates {minted : Int} (h : 0 ≤ minted) :
    (position.amountForMint minted lpSupply).Evaluates fun needed => 0 ≤ needed := by
  refine .bind (Vault.shareOfAmount_evaluates _ h hpool hbacked.shares_nonneg)
    fun shares hshares => ?_
  exact Vault.amountOfShare_evaluates _ hshares hbacked.withdrawable_nonneg
    (Int.le_of_lt hbacked.supply_pos)

end Position.Backed

def DepositQuote.mirror (quote : DepositQuote) : DepositQuote :=
  { quote with amountA := quote.amountB, amountB := quote.amountA }

def WithdrawalQuote.mirror (quote : WithdrawalQuote) : WithdrawalQuote :=
  ⟨quote.burned, quote.amountB, quote.amountA, quote.leastB, quote.leastA⟩

namespace Snapshot

/-- The pool with its tokens exchanged. -/
def mirror (snapshot : Snapshot) : Snapshot :=
  { snapshot with
    a := snapshot.b
    b := snapshot.a
    curve := snapshot.curve.mirror
    mints_differ := snapshot.mints_differ.symm }

@[simp] theorem curve_mirror (snapshot : Snapshot) :
    snapshot.mirror.curve = snapshot.curve.mirror := rfl

variable {snapshot : Snapshot}

theorem directionOf_alike (mint : String) :
    Checked.Alike (fun direction other => other = direction.reverse) (snapshot.directionOf mint)
      (snapshot.mirror.directionOf mint) := by
  have hdiffer := snapshot.mints_differ
  by_cases ha : mint = snapshot.a.mint
  · have hb : mint ≠ snapshot.b.mint := fun hb => hdiffer (ha.symm.trans hb)
    rw [directionOf, directionOf, if_pos ha, mirror, if_neg hb, if_pos ha]
    exact .ok rfl
  · by_cases hb : mint = snapshot.b.mint
    · rw [directionOf, directionOf, if_neg ha, if_pos hb, mirror, if_pos hb]
      exact .ok rfl
    · rw [directionOf, directionOf, if_neg ha, if_neg hb, mirror, if_neg hb, if_neg ha]
      exact .fail

theorem positions_alike :
    Checked.Alike (fun pair other => other = (pair.2, pair.1) ∧ pair.1.Backed ∧ pair.2.Backed)
      snapshot.positions snapshot.mirror.positions :=
  .exchange (snapshot.a.position_evaluates _) (snapshot.b.position_evaluates _)
    fun _ _ ha hb => .ok ⟨rfl, ha, hb⟩

theorem admitSwap_alike (mint : String) :
    Checked.Alike (fun direction other => other = direction.reverse) (snapshot.admitSwap mint)
      (snapshot.mirror.admitSwap mint) :=
  .unless fun _ => .unless fun _ => directionOf_alike mint

theorem greatestOut_alike (mint : String) :
    Checked.Alike Eq (snapshot.greatestOut mint) (snapshot.mirror.greatestOut mint) := by
  refine .bind (directionOf_alike mint) fun direction _ hdirection => .of_eq ?_
  subst hdirection
  rw [positionA, positionB, positionA, positionB, Direction.source_reverse]
  rfl

theorem balancedWithdrawal_alike {a b : Position} (ha : a.Backed) (hb : b.Backed)
    {lpSupply burned : Int} (hpool : 0 ≤ lpSupply) (hburned : 0 ≤ burned) (slippage : Int) :
    Checked.Alike (fun quote other => other = quote.mirror)
      (balancedWithdrawal lpSupply a b burned slippage)
      (balancedWithdrawal lpSupply b a burned slippage) := by
  unfold balancedWithdrawal
  refine .exchange (ha.release_evaluates hpool hburned) (hb.release_evaluates hpool hburned)
    fun amountA amountB _ _ => ?_
  unfold Slippage.least
  exact .exchange_checked (.ok rfl)

theorem admitDeposit_alike (amountA amountB : Int) :
    Checked.Alike (fun _ _ => OneSided amountA amountB) (admitDeposit amountA amountB true)
      (admitDeposit amountB amountA true) := by
  have heq : admitDeposit amountB amountA true = admitDeposit amountA amountB true := by
    simp only [admitDeposit, or_comm, and_comm]
  rw [heq]
  exact .same fun _ h => admitDeposit_balanced h

theorem balancedShare_comm {a b : Position} {amountA amountB lpSupply : Int}
    (h : OneSided amountA amountB) :
    balancedShare b a amountB amountA lpSupply = balancedShare a b amountA amountB lpSupply := by
  rcases h with ⟨ha, rfl⟩ | ⟨rfl, hb⟩
  · simp only [balancedShare, Int.lt_irrefl, if_false, if_pos ha]
  · simp only [balancedShare, Int.lt_irrefl, if_false, if_pos hb]

theorem balancedStable_alike {a b : Position} {amountA amountB : Int} (h : OneSided amountA amountB)
    (share slippage : Int) :
    Checked.Alike (fun quote other => other = quote.mirror)
      (balancedStable a b amountA amountB share slippage)
      (balancedStable b a amountB amountA share slippage) := by
  rcases h with ⟨ha, rfl⟩ | ⟨rfl, hb⟩
  · simp only [balancedStable, Int.lt_irrefl, if_false, if_pos ha, pure_bind]
    exact .step fun other _ => .step fun least _ => .ok rfl
  · simp only [balancedStable, Int.lt_irrefl, if_false, if_pos hb, pure_bind]
    exact .step fun other _ => .step fun least _ => .ok rfl

theorem balancedConstantProduct_alike {a b : Position} (ha : a.Backed) (hb : b.Backed)
    {lpSupply share : Int} (hpool : 0 ≤ lpSupply) (hshare : 0 ≤ share) (slippage : Int) :
    Checked.Alike (fun quote other => other = quote.mirror)
      (balancedConstantProduct a b lpSupply share slippage)
      (balancedConstantProduct b a lpSupply share slippage) := by
  unfold balancedConstantProduct
  refine .exchange (ha.amountForMint_evaluates hpool hshare)
    (hb.amountForMint_evaluates hpool hshare) fun needA needB _ _ => ?_
  unfold Slippage.greatest
  exact .exchange_checked (.ok rfl)

section

variable (hplain : snapshot.curve.Plain)
include hplain

theorem refreshed_plain : snapshot.refreshed = pure snapshot := by
  refine refreshed_of_cacheFresh fun state hstate => Depeg.State.isFresh_iff.mpr (.inl ?_)
  rw [cache?] at hstate
  cases hcurve : snapshot.curve with
  | constantProduct =>
    rw [hcurve] at hstate
    contradiction
  | stable curve =>
    rw [hcurve] at hstate hplain
    cases hstate
    exact hplain

theorem refreshed_mirror : snapshot.mirror.refreshed = pure snapshot.mirror :=
  refreshed_plain hplain.mirror

theorem swapQuote_alike (mint : String) (amount slippage : Int) :
    Run.Alike Eq (snapshot.swapQuote mint amount slippage)
      (snapshot.mirror.swapQuote mint amount slippage) := by
  unfold swapQuote
  refine .bind (.lift (admitSwap_alike mint)) fun direction _ hdirection => .guard fun _ => ?_
  rw [refreshed_plain hplain, refreshed_mirror hplain, pure_bind, pure_bind]
  refine .bind (.lift positions_alike) fun (a, b) _ ⟨hpositions, _, _⟩ => .of_eq ?_
  subst hdirection hpositions
  simp only [Direction.source_reverse, Direction.destination_reverse, curve_mirror,
    Curve.amountOut_mirror hplain, Curve.priceImpact_mirror hplain]
  rfl

theorem greatestIn_alike (mint : String) :
    Run.Alike Eq (snapshot.greatestIn mint) (snapshot.mirror.greatestIn mint) := by
  unfold greatestIn
  rw [refreshed_plain hplain, refreshed_mirror hplain, pure_bind, pure_bind]
  refine .bind (.lift (directionOf_alike mint)) fun direction _ hdirection => ?_
  refine .bind (.lift positions_alike) fun (a, b) _ ⟨hpositions, _, _⟩ => .of_eq ?_
  subst hdirection hpositions
  simp only [Direction.source_reverse, Direction.destination_reverse, curve_mirror,
    Curve.amountIn_mirror hplain]
  rfl

theorem singleWithdrawal_alike (a b : Position) (burned slippage : Int) (mint : String) :
    Run.Alike (fun quote other => other = quote.mirror)
      (snapshot.singleWithdrawal a b burned slippage mint)
      (snapshot.mirror.singleWithdrawal b a burned slippage mint) := by
  unfold singleWithdrawal
  refine .bind (.lift (directionOf_alike mint)) fun paidIn _ hdirection => ?_
  subst hdirection
  dsimp only
  rw [curve_mirror, Curve.withdrawOne_mirror hplain,
    Direction.destination_reverse paidIn.reverse a b]
  refine .step fun out _ => .step fun paid _ => .step fun least _ => ?_
  cases paidIn <;> exact .pure rfl

theorem withdrawalQuote_alike (burned slippage : Int) (mint : Option String) :
    Run.Alike (fun quote other => other = quote.mirror)
      (snapshot.withdrawalQuote burned slippage mint)
      (snapshot.mirror.withdrawalQuote burned slippage mint) := by
  unfold withdrawalQuote
  refine .step fun _ hadmitted => ?_
  obtain ⟨hburned, hsupply⟩ := admitBurn_eq_ok.mp hadmitted
  rw [refreshed_plain hplain, refreshed_mirror hplain, pure_bind, pure_bind]
  refine .bind (.lift positions_alike) fun (a, b) _ ⟨hpositions, ha, hb⟩ => ?_
  subst hpositions
  cases mint with
  | none => exact .lift (balancedWithdrawal_alike ha hb (by omega) (by omega) slippage)
  | some mint => exact singleWithdrawal_alike hplain a b burned slippage mint

theorem firstDeposit_alike {amountA amountB : Int} (h : OneSided amountA amountB) (slippage : Int) :
    Run.Alike (fun quote other => other = quote.mirror)
      (firstDeposit snapshot.curve amountA amountB slippage)
      (firstDeposit snapshot.curve.mirror amountB amountA slippage) := by
  unfold firstDeposit
  rw [Curve.invariant_mirror hplain h]
  exact .step fun d _ => .step fun minted _ => .step fun least _ => .pure rfl

theorem depositQuote_alike (amountA amountB slippage : Int) :
    Run.Alike (fun quote other => other = quote.mirror)
      (snapshot.depositQuote amountA amountB true slippage)
      (snapshot.mirror.depositQuote amountB amountA true slippage) := by
  unfold depositQuote
  refine .bind (.lift (admitDeposit_alike amountA amountB)) fun _ _ hsided => ?_
  rw [refreshed_plain hplain, refreshed_mirror hplain, pure_bind, pure_bind]
  refine .ite (fun _ => firstDeposit_alike hplain hsided slippage) fun hsupply => ?_
  refine .bind (.lift positions_alike) fun (a, b) _ ⟨hpositions, ha, hb⟩ => ?_
  subst hpositions
  simp only [if_true, balancedShare_comm hsided, curve_mirror, Curve.isStable_mirror]
  refine .step fun share hshare => .ite (fun _ => ?_) fun _ => ?_
  · exact .lift (balancedStable_alike hsided share slippage)
  · have hnonneg : 0 ≤ share := by
      rcases balancedShare_ok hshare with ⟨_, hgiven⟩ | ⟨_, hgiven⟩ <;>
        exact (Vault.shareOfAmount_ok hgiven).1
    exact .lift (balancedConstantProduct_alike ha hb snapshot.lpSupply.nonneg hnonneg slippage)

end

/-- On a constant product pool, or a stable one without a price of its own: every quote for a swap,
a withdrawal or a balanced deposit, and either limit, is the same on the mirror of the pool but for
the exchange of its sides, and is refused on the mirror where it is refused, for a fault of the same
class. -/
theorem mirror_quotes_alike (snapshot : Snapshot) (hplain : snapshot.curve.Plain) :
    (∀ mint amount slippage, Run.Alike Eq (snapshot.swapQuote mint amount slippage)
      (snapshot.mirror.swapQuote mint amount slippage)) ∧
    (∀ mint, Run.Alike Eq (snapshot.greatestIn mint) (snapshot.mirror.greatestIn mint)) ∧
    (∀ mint, Checked.Alike Eq (snapshot.greatestOut mint) (snapshot.mirror.greatestOut mint)) ∧
    (∀ burned slippage mint, Run.Alike (fun quote other => other = quote.mirror)
      (snapshot.withdrawalQuote burned slippage mint)
      (snapshot.mirror.withdrawalQuote burned slippage mint)) ∧
    (∀ amountA amountB slippage, Run.Alike (fun quote other => other = quote.mirror)
      (snapshot.depositQuote amountA amountB true slippage)
      (snapshot.mirror.depositQuote amountB amountA true slippage)) :=
  ⟨swapQuote_alike hplain, greatestIn_alike hplain, greatestOut_alike,
    withdrawalQuote_alike hplain, depositQuote_alike hplain⟩

def skewed : Snapshot where
  a := ⟨"A", ⟨2000000, ⟨50000, 90, 10000000000, by decide, by decide, by decide⟩, by decide⟩,
    ⟨900000, by decide, by decide⟩, .million, ⟨1500000, by decide, by decide⟩,
    Holding.mintA_nonempty, by decide⟩
  b := ⟨"B", ⟨3000000000, .empty, by decide⟩, ⟨700000, by decide, by decide⟩,
    ⟨1200000, by decide, by decide⟩, ⟨2500000000, by decide, by decide⟩, Holding.mintB_nonempty,
    by decide⟩
  curve := .stable (.hundredfold (.ofDecimals 6 9) .plain)
  fees := .ofStableSwap
  enabled := true
  lpSupply := .million
  time := .hundred
  sources := []
  clock := .timestamp
  opens := .zero
  slot := .zero
  mints_differ := by decide

theorem mirror_quotes_alike_skewed :
    skewed.curve.Plain ∧
    (skewed.swapQuote "A" 1000 100).outcome = .ok ⟨1000, 997500, 987525, 0, (32 : Rat) / 998973⟩ ∧
    (skewed.mirror.swapQuote "A" 1000 100).outcome =
      .ok ⟨1000, 997500, 987525, 0, (32 : Rat) / 998973⟩ ∧
    (skewed.withdrawalQuote 1000 100 (some "B")).outcome = .ok ⟨1000, 0, 3507500, 0, 3472425⟩ ∧
    (skewed.mirror.withdrawalQuote 1000 100 (some "B")).outcome =
      .ok ⟨1000, 3507500, 0, 3472425, 0⟩ ∧
    (skewed.depositQuote 1000 0 true 100).outcome = .ok ⟨566, 560, 1000, 994600⟩ ∧
    (skewed.mirror.depositQuote 0 1000 true 100).outcome = .ok ⟨566, 560, 994600, 1000⟩ := by
  obtain ⟨hswaps, _, _, hwithdrawals, hdeposits⟩ := mirror_quotes_alike skewed rfl
  have hswap : (skewed.swapQuote "A" 1000 100).outcome =
      .ok ⟨1000, 997500, 987525, 0, (32 : Rat) / 998973⟩ := by rfl
  have hwithdrawal : (skewed.withdrawalQuote 1000 100 (some "B")).outcome =
      .ok ⟨1000, 0, 3507500, 0, 3472425⟩ := by rfl
  have hdeposit : (skewed.depositQuote 1000 0 true 100).outcome =
      .ok ⟨566, 560, 1000, 994600⟩ := by rfl
  obtain ⟨_, hswap', rfl⟩ := (hswaps "A" 1000 100).outcome.ok_of_ok hswap
  obtain ⟨_, hwithdrawal', rfl⟩ :=
    (hwithdrawals 1000 100 (some "B")).outcome.ok_of_ok hwithdrawal
  obtain ⟨_, hdeposit', rfl⟩ := (hdeposits 1000 0 100).outcome.ok_of_ok hdeposit
  exact ⟨rfl, hswap, hswap', hwithdrawal, hwithdrawal', hdeposit, hdeposit'⟩

end Snapshot
end PoolPricing
