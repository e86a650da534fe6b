import PoolPricing.Proofs.BalancedDeposit
import PoolPricing.Proofs.CurveScale
import PoolPricing.Proofs.EmptySwap
import PoolPricing.Proofs.StableSwap.Deposit
set_option autoImplicit false

/-!
How many pool tokens a quoted deposit is quoted. Only the share of a balanced deposit is checked,
and that before the buffer is taken off it; so a share of one is quoted as nothing, and so is a
first deposit whose invariant rounds to nothing or one that the curve prices below a pool token
(`depositQuote_minted`).
-/

namespace PoolPricing

open Checked

theorem one_le_ediv_iff {n d : Int} (hd : 0 < d) : 1 ≤ n / d ↔ d ≤ n := by
  rw [Int.le_ediv_iff_mul_le hd, Int.one_mul]

theorem Word.ofResult_ok {subject : String} {n : Int} {word : Word}
    (h : Word.ofResult subject n = .ok word) : word.val = n := by
  unfold Word.ofResult at h
  split at h
  · cases h
  · cases h
    rfl

theorem DepositQuote.one_le_buffered_iff {share : Int} : 1 ≤ buffered share ↔ 2 ≤ share := by
  unfold buffered
  omega

namespace ConstantProduct

theorem invariant_ok {a b d : Int} (h : invariant a b = .ok d) :
    0 ≤ d ∧ (1 ≤ d ↔ 0 < a ∧ 0 < b) := by
  simp only [invariant, refuse_eq, error_bind, guard_eq_ok, pure_eq_ok] at h
  obtain ⟨hnonneg, rfl⟩ := h
  have hlow := Number.root_sq_le (a * b).toNat
  have hhigh := Number.lt_succ_root_sq (a * b).toNat
  refine ⟨Int.natCast_nonneg _, fun hone => ?_, fun ⟨ha, hb⟩ => ?_⟩
  · by_contra hnone
    have hzero : a * b = 0 := by
      rcases (show a = 0 ∨ b = 0 by omega) with rfl | rfl <;> simp
    rw [hzero] at hone hlow
    simp_all
  · have := Int.mul_pos ha hb
    by_contra hnone
    have hzero : Number.root (a * b).toNat = 0 := by omega
    rw [hzero] at hhigh
    omega

end ConstantProduct

namespace StableSwap

theorem mint_parts {amp numerator denominator supply a b x y : Int} {result : Mint} (hamp : 1 ≤ amp)
    (hdenominator : 0 < denominator)
    (h : (mint amp numerator denominator supply a b x y).outcome = .ok result) :
    (x = 0 ∧ y = 0 ∧ result.amount = 0) ∨
      ∃ d0 d1 d2, (invariant amp a b).outcome = .ok d0 ∧ 0 < d0 ∧
        (invariant amp (a + x) (b + y)).outcome = .ok d1 ∧
        (chargedInvariant amp numerator denominator a b x y d0 d1).outcome = .ok d2 ∧
        result.amount = supply * (d2 - d0) / d0 := by
  simp only [mint, growth, Run.outcome_bind, Run.outcome_liftM, Run.outcome_ite, Run.outcome_throw,
    Run.outcome_pure, error_bind, bind_eq_ok] at h
  obtain ⟨_, _, _, _, _, _, _, _, _, _, h⟩ := h
  by_cases hnone : x = 0 ∧ y = 0
  · rw [if_pos hnone] at h
    cases h
    exact .inl ⟨hnone.1, hnone.2, rfl⟩
  rw [if_neg hnone] at h
  simp only [bind_eq_ok, guard_eq_ok] at h
  obtain ⟨_, ⟨d0, hold, hsome, d1, hnew, _, hsame⟩, a', ha', b', hb', d2, hcharged, amount, hamount,
    before, _, hresult⟩ := h
  cases hsame
  cases hresult
  have hd0 : 0 < d0 := by
    obtain ⟨ha, hb⟩ | hzero := positive_or_zero hamp hold
    · exact (invariant_above hamp ha hb hold).1
    · contradiction
  rw [chargedBalance_eq hdenominator hd0] at ha' hb'
  rw [floorDivide_of_pos _ hd0] at hamount
  cases ha'
  cases hb'
  cases hamount
  exact .inr ⟨d0, d1, d2, hold, hd0, hnew, hcharged, rfl⟩

end StableSwap

namespace Snapshot

/-- The first deposit mints its invariant, which is none if either amount is, and may be none on a
stable curve whose unit is coarse against the tokens. -/
def FirstMint (fresh : Snapshot) (amountA amountB minted : Int) : Prop :=
  match fresh.curve with
  | .constantProduct => 0 ≤ minted ∧ (1 ≤ minted ↔ 0 < amountA ∧ 0 < amountB)
  | .stable curve => ∃ y d, curve.upscaleB amountB = .ok y ∧
      (StableSwap.invariant curve.amp (curve.upscaleA amountA) y).outcome = .ok d ∧
      0 ≤ minted ∧ (1 ≤ minted ↔ curve.priceFactorA ≤ d)

/-- A balanced deposit mints nearly its share, which is none for a share of one. -/
def BalancedMint (a b : Position) (lpSupply amountA amountB minted : Int) : Prop :=
  ∃ share, balancedShare a b amountA amountB lpSupply = .ok share ∧ 1 ≤ share ∧ 0 ≤ minted ∧
    (1 ≤ minted ↔ 2 ≤ share)

/-- Any other deposit mints by what the invariant of the charged balances has grown, which may be
too little for a pool token or nothing at all. -/
def UnbalancedMint (fresh : Snapshot) (a b : Position) (amountA amountB minted : Int) : Prop :=
  ∃ curve gainA gainB y paidB, fresh.curve = .stable curve ∧ a.gain amountA = .ok gainA ∧
    b.gain amountB = .ok gainB ∧ curve.upscaleB b.amount = .ok y ∧
    curve.upscaleB gainB = .ok paidB ∧
    ((curve.upscaleA gainA = 0 ∧ paidB = 0 ∧ minted = 0) ∨
      ∃ d0 d1 d2, (StableSwap.invariant curve.amp (curve.upscaleA a.amount) y).outcome = .ok d0 ∧
        (StableSwap.invariant curve.amp (curve.upscaleA a.amount + curve.upscaleA gainA)
          (y + paidB)).outcome = .ok d1 ∧
        (StableSwap.chargedInvariant curve.amp fresh.fees.tradeNumerator fresh.fees.tradeDenominator
          (curve.upscaleA a.amount) y (curve.upscaleA gainA) paidB d0 d1).outcome = .ok d2 ∧
        (1 ≤ minted ↔ d0 ≤ fresh.lpSupply.val * (d2 - d0)))

theorem firstDeposit_minted {fresh : Snapshot} {amountA amountB slippage : Int}
    {quote : DepositQuote}
    (h : (firstDeposit fresh.curve amountA amountB slippage).outcome = .ok quote) :
    fresh.FirstMint amountA amountB quote.minted ∧
      Slippage.least quote.minted slippage = .ok quote.leastMinted := by
  simp only [firstDeposit, Run.outcome_bind, Run.outcome_liftM, Run.outcome_pure, bind_eq_ok] at h
  obtain ⟨d, hd, minted, hminted, least, hleast, hquote⟩ := h
  cases hquote
  refine ⟨?_, hleast⟩
  have hnonneg := minted.nonneg
  rw [Word.ofResult_ok hminted] at hnonneg ⊢
  unfold FirstMint
  cases hcurve : fresh.curve with
  | constantProduct =>
    rw [hcurve] at hd
    exact ConstantProduct.invariant_ok hd
  | stable curve =>
    rw [hcurve] at hd
    simp only [Curve.invariant, StableCurve.invariant, Run.outcome_bind, Run.outcome_liftM,
      Run.outcome_pure, bind_eq_ok] at hd
    obtain ⟨y, hy, whole, hwhole, hshare⟩ := hd
    cases hshare
    exact ⟨y, whole, hy, hwhole, hnonneg, one_le_ediv_iff curve.priceFactorA_pos⟩

theorem balancedShare_pos {a b : Position} {amountA amountB lpSupply share : Int}
    (h : balancedShare a b amountA amountB lpSupply = .ok share) : 1 ≤ share := by
  have hsome : share ≠ 0 := by
    unfold balancedShare at h
    split at h <;>
    · obtain ⟨found, _, h⟩ := bind_eq_ok.mp h
      simp only [refuse_eq, error_bind, guard_eq_ok, pure_eq_ok] at h
      obtain ⟨hsome, rfl⟩ := h
      exact hsome
  have hnonneg : 0 ≤ share := by
    obtain ⟨_, hworth⟩ | ⟨_, hworth⟩ := balancedShare_ok h <;>
    exact (Vault.shareOfAmount_ok hworth).1
  omega

theorem balancedStable_ok {a b : Position} {amountA amountB share slippage : Int}
    {quote : DepositQuote}
    (h : balancedStable a b amountA amountB share slippage = .ok quote) :
    quote.minted = DepositQuote.buffered share ∧
      Slippage.least quote.minted slippage = .ok quote.leastMinted := by
  unfold balancedStable at h
  split at h <;>
  · simp only [pure_bind, bind_eq_ok, pure_eq_ok] at h
    obtain ⟨_, _, least, hleast, rfl⟩ := h
    exact ⟨rfl, hleast⟩

theorem balancedConstantProduct_least {a b : Position} {lpSupply share slippage : Int}
    {quote : DepositQuote}
    (h : balancedConstantProduct a b lpSupply share slippage = .ok quote) :
    quote.leastMinted = quote.minted := by
  obtain ⟨_, _, h⟩ := bind_eq_ok.mp h
  obtain ⟨_, _, h⟩ := bind_eq_ok.mp h
  obtain ⟨_, _, h⟩ := bind_eq_ok.mp h
  obtain ⟨_, _, h⟩ := bind_eq_ok.mp h
  cases h
  rfl

theorem unbalancedDeposit_minted {fresh : Snapshot} {a b : Position}
    {amountA amountB slippage : Int} {quote : DepositQuote}
    (h : (fresh.unbalancedDeposit a b amountA amountB slippage).outcome = .ok quote) :
    fresh.UnbalancedMint a b amountA amountB quote.minted ∧
      Slippage.least quote.minted slippage = .ok quote.leastMinted := by
  simp only [unbalancedDeposit, Run.outcome_bind, Run.outcome_liftM, Run.outcome_pure, bind_eq_ok]
    at h
  obtain ⟨gainA, hgainA, gainB, hgainB, minted, hminted, least, hleast, hquote⟩ := h
  cases hquote
  refine ⟨?_, hleast⟩
  cases hcurve : fresh.curve with
  | constantProduct =>
    rw [hcurve] at hminted
    cases hminted
  | stable curve =>
    rw [hcurve] at hminted
    simp only [Curve.mintForDeposit, StableCurve.mintForDeposit, Run.outcome_bind,
      Run.outcome_liftM, Run.outcome_pure, bind_eq_ok] at hminted
    obtain ⟨y, hy, paidB, hpaidB, result, hresult, hamount⟩ := hminted
    cases hamount
    refine ⟨curve, gainA, gainB, y, paidB, hcurve, hgainA, hgainB, hy, hpaidB, ?_⟩
    obtain hnone | ⟨d0, d1, d2, hold, hd0, hnew, hcharged, hshare⟩ :=
      StableSwap.mint_parts curve.amp_pos fresh.fees.trade_pos hresult
    · exact .inl hnone
    · rw [hshare]
      exact .inr ⟨d0, d1, d2, hold, hnew, hcharged, one_le_ediv_iff hd0⟩

end Snapshot

/-- When a quoted deposit is quoted any pool tokens, branch by branch; and no quote but one for less
than nothing has its least pool tokens outside the range from none to what is quoted. -/
theorem depositQuote_minted {snapshot : Snapshot} {amountA amountB slippage : Int} {balanced : Bool}
    {quote : DepositQuote}
    (h : (snapshot.depositQuote amountA amountB balanced slippage).outcome = .ok quote) :
    (0 ≤ quote.minted → 0 ≤ quote.leastMinted ∧ quote.leastMinted ≤ quote.minted) ∧
    ∃ fresh, snapshot.refreshed.outcome = .ok fresh ∧
      ((fresh.lpSupply.val = 0 ∧ fresh.FirstMint amountA amountB quote.minted) ∨
        (0 < fresh.lpSupply.val ∧ ∃ a b, fresh.positions = .ok (a, b) ∧
          ((balanced = true ∧
              Snapshot.BalancedMint a b fresh.lpSupply amountA amountB quote.minted) ∨
            (balanced = false ∧ fresh.UnbalancedMint a b amountA amountB quote.minted)))) := by
  simp only [Snapshot.depositQuote, Run.outcome_bind, Run.outcome_liftM, Run.outcome_ite,
    bind_eq_ok] at h
  obtain ⟨_, _, fresh, hfresh, h⟩ := h
  have hleast {least : Int} (hleast : Slippage.least quote.minted slippage = .ok least)
      (hnonneg : 0 ≤ quote.minted) : 0 ≤ least ∧ least ≤ quote.minted :=
    Slippage.least_ok hnonneg hleast
  by_cases hnew : fresh.lpSupply.val = 0
  · rw [if_pos hnew] at h
    obtain ⟨hminted, hfound⟩ := Snapshot.firstDeposit_minted h
    exact ⟨hleast hfound, fresh, hfresh, .inl ⟨hnew, hminted⟩⟩
  rw [if_neg hnew] at h
  obtain ⟨⟨a, b⟩, hpositions, h⟩ := bind_eq_ok.mp h
  have hpool : 0 < fresh.lpSupply.val := by
    have := fresh.lpSupply.nonneg
    omega
  cases balanced with
  | false =>
    obtain ⟨hminted, hfound⟩ := Snapshot.unbalancedDeposit_minted h
    exact ⟨hleast hfound, fresh, hfresh,
      .inr ⟨hpool, a, b, hpositions, .inr ⟨rfl, hminted⟩⟩⟩
  | true =>
    obtain ⟨share, hshare, h⟩ := bind_eq_ok.mp h
    have hone := Snapshot.balancedShare_pos hshare
    suffices hquoted : quote.minted = DepositQuote.buffered share ∧
        0 ≤ quote.leastMinted ∧ quote.leastMinted ≤ quote.minted by
      obtain ⟨hminted, hbounds⟩ := hquoted
      refine ⟨fun _ => hbounds, fresh, hfresh, .inr ⟨hpool, a, b, hpositions, .inl ⟨rfl, share,
        hshare, hone, ?_, ?_⟩⟩⟩
      · rw [hminted]
        exact DepositQuote.buffered_nonneg (by omega)
      · rw [hminted]
        exact DepositQuote.one_le_buffered_iff
    have hnonneg := DepositQuote.buffered_nonneg (show 0 ≤ share by omega)
    by_cases hstable : fresh.curve.isStable = true
    · rw [if_pos hstable] at h
      obtain ⟨hminted, hfound⟩ := Snapshot.balancedStable_ok h
      exact ⟨hminted, hleast hfound (by omega)⟩
    · rw [if_neg hstable] at h
      have hsame := Snapshot.balancedConstantProduct_least h
      have hminted := (Snapshot.balancedConstantProduct_ok h).1
      exact ⟨hminted, by omega, by omega⟩

theorem depositQuote_minted_million :
    (Snapshot.million.depositQuote 1000 0 true 100).outcome = .ok ⟨998, 998, 1010, 1010⟩ ∧
    ∃ a b, Snapshot.million.positions = .ok (a, b) ∧
      Snapshot.BalancedMint a b 1000000 1000 0 998 := by
  have h : (Snapshot.million.depositQuote 1000 0 true 100).outcome =
      .ok ⟨998, 998, 1010, 1010⟩ := rfl
  obtain ⟨_, fresh, hfresh, hbranch⟩ := depositQuote_minted h
  rw [Snapshot.refreshed_lpSupply hfresh, (Snapshot.refreshed_positions hfresh).1] at hbranch
  obtain ⟨hnew, _⟩ | ⟨_, a, b, hpositions, ⟨_, hminted⟩ | ⟨hother, _⟩⟩ := hbranch
  · contradiction
  · exact ⟨h, a, b, hpositions, hminted⟩
  · contradiction

def Snapshot.lopsided : Snapshot :=
  { Snapshot.million with
    a := .sole "A" ⟨35, by decide, by decide⟩ .zero Holding.mintA_nonempty
    b := .sole "B" ⟨1, by decide, by decide⟩ .zero Holding.mintB_nonempty
    curve := .stable .faint
    fees := ⟨2, 2, 0, 1, by decide, by decide, by decide, by decide, by decide, by decide⟩
    lpSupply := ⟨1, by decide, by decide⟩
    mints_differ := by decide }

def Snapshot.unminted : Snapshot := { Snapshot.million with lpSupply := .zero }

/-- A share of one, a first deposit of one token alone, and a deposit whose charge costs more than
it brings: none is refused, and none mints. -/
theorem deposit_quoted_nothing :
    (Snapshot.million.depositQuote 1 0 true 100).outcome = .ok ⟨0, 0, 1, 1⟩ ∧
    (Snapshot.unminted.depositQuote 5 0 false 100).outcome = .ok ⟨0, 0, 5, 0⟩ ∧
    (Snapshot.lopsided.depositQuote 2 0 false 100).outcome = .ok ⟨-1, -1, 2, 0⟩ ∧
    ¬∀ (snapshot : Snapshot) (amountA amountB : Int) (balanced : Bool) (slippage : Int)
      (quote : DepositQuote),
      (snapshot.depositQuote amountA amountB balanced slippage).outcome = .ok quote →
      1 ≤ quote.minted := by
  have hone : (Snapshot.million.depositQuote 1 0 true 100).outcome = .ok ⟨0, 0, 1, 1⟩ := rfl
  refine ⟨hone, by decide +kernel, rfl, fun hall => ?_⟩
  have := hall Snapshot.million 1 0 true 100 ⟨0, 0, 1, 1⟩ hone
  contradiction

end PoolPricing
