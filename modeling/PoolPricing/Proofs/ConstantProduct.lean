import PoolPricing.ConstantProduct
import PoolPricing.Proofs.Ceiling
import PoolPricing.Proofs.Outcome
import PoolPricing.Proofs.Reserves
set_option autoImplicit false

/-!
Swaps on the curve `x * y = k`: which are made and what they come to (`swap_eq_ok`), and runs of
them. Each swap rounds the balance that is left up, so no order of swaps in no directions lowers the
product of the reserves: a large order split into small ones buys no more, and no cycle of swaps
leaves the pool with less.
-/

namespace PoolPricing.ConstantProduct

open Checked Number

theorem tightened_eq {n q : Int} (hq : 0 < q) :
    (if n % q = 0 then n / q else n / q + 1) = ceiling n q := by
  by_cases h : n % q = 0
  · rw [if_pos h, ceiling_of_dvd hq h]
  · rw [if_neg h, ceiling_of_not_dvd hq h]

theorem divideUp_eq {n d : Int} (hn : 0 ≤ n) (hd : 0 < d) :
    divideUp n d =
      if n < d then .error (.tooSmall .ceilingIsZero)
      else .ok ⟨ceiling n d, ceiling n (ceiling n d)⟩ := by
  have hn' : ¬n < 0 := by omega
  have hd' : ¬d ≤ 0 := by omega
  simp only [divideUp, hn', hd', if_false, refuse_bind]
  by_cases hlt : n < d
  · simp only [hlt, if_true, Int.ediv_eq_zero_of_lt hn hlt]
  · have hq : 0 < n / d := (Int.le_ediv_iff_mul_le hd).mpr (by omega)
    have hq' : 0 < n / d + 1 := by omega
    simp only [hlt, Int.ne_of_gt hq, if_false]
    by_cases hdvd : n % d = 0
    · have hexact := Int.mul_ediv_add_emod n d
      have hd_eq : ceiling n (n / d) = d := ceiling_eq hq (by nlinarith) (by nlinarith)
      rw [if_pos hdvd, ceiling_of_dvd hd hdvd, hd_eq]
      rfl
    · rw [if_neg hdvd, ceiling_of_not_dvd hd hdvd, floorDivide_of_pos n hq', ok_bind,
        tightened_eq hq']
      rfl

/-- What an input buys: the destination in the ratio of the input to the source with it, rounded
down. -/
def bought (amount x y : Int) : Int := y * amount / (x + amount)

theorem swap_eq {amount x y : Int} (hamount : 0 ≤ amount) (hx : 0 ≤ x) (hy : 0 ≤ y) :
    swap amount x y =
      if x + amount = 0 then .error (.tooSmall .emptySource)
      else if x * y < x + amount then .error (.tooSmall .ceilingIsZero)
      else if y * amount < x + amount then .error (.tooSmall .swapIsZero)
      else .ok ⟨amount, bought amount x y, x + amount, y - bought amount x y⟩ := by
  simp only [swap, requireNonnegative_of_nonneg _ hamount, requireNonnegative_of_nonneg _ hx,
    requireNonnegative_of_nonneg _ hy, ok_bind, refuse_bind]
  by_cases hzero : x + amount = 0
  · simp only [hzero, if_true]
  have hd : 0 < x + amount := by omega
  simp only [hzero, if_false, divideUp_eq (Int.mul_nonneg hx hy) hd]
  by_cases hlt : x * y < x + amount
  · simp only [hlt, if_true, error_bind]
  have hleft : ceiling (x * y) (x + amount) = y - bought amount x y := by
    have hreceived := sub_ceiling y (x * y) hzero
    rw [show y * (x + amount) - x * y = y * amount by ring] at hreceived
    rw [bought, ← hreceived]
    omega
  have hnone : bought amount x y ≤ 0 ↔ y * amount < x + amount := by
    rw [← Int.lt_add_one_iff, bought, Int.ediv_lt_iff_lt_mul hd]
    omega
  simp only [hlt, if_false, ok_bind, hleft, Int.sub_sub_self, hnone]
  rfl

theorem swap_eq_ok {amount x y : Int} {trade : Trade} :
    swap amount x y = .ok trade ↔
      0 ≤ amount ∧ 0 ≤ x ∧ 0 ≤ y ∧
        0 < x + amount ∧ x + amount ≤ x * y ∧ x + amount ≤ y * amount ∧
        ⟨amount, bought amount x y, x + amount, y - bought amount x y⟩ = trade := by
  constructor
  · intro h
    obtain ⟨hamount, hx, hy⟩ : 0 ≤ amount ∧ 0 ≤ x ∧ 0 ≤ y := by
      simp only [swap, bind_eq_ok, requireNonnegative_eq_ok, exists_and_left, exists_const] at h
      exact ⟨h.1, h.2.1, h.2.2.1⟩
    rw [swap_eq hamount hx hy] at h
    simp only [guard_eq_ok, Except.ok.injEq] at h
    obtain ⟨hsome, hwhole, hpaid, htrade⟩ := h
    exact ⟨hamount, hx, hy, by omega, by omega, by omega, htrade⟩
  · rintro ⟨hamount, hx, hy, hsome, hwhole, hpaid, rfl⟩
    rw [swap_eq hamount hx hy, if_neg (Int.ne_of_gt hsome), if_neg (Int.not_lt.mpr hwhole),
      if_neg (Int.not_lt.mpr hpaid)]

/-- A trade that moves what it reports between balances `x` and `y` and does not lower their
product. -/
structure Trade.Sound (trade : Trade) (amount x y : Int) : Prop where
  paid_eq : trade.paid = amount
  newSource_eq : trade.newSource = x + trade.paid
  newDestination_eq : trade.newDestination = y - trade.received
  received_pos : 0 < trade.received
  newSource_pos : 0 < trade.newSource
  newDestination_pos : 0 < trade.newDestination
  product_le : x * y ≤ trade.newSource * trade.newDestination

theorem swap_cases {amount x y : Int} (hamount : 0 ≤ amount) (hx : 0 ≤ x) (hy : 0 ≤ y) :
    (∃ cause, swap amount x y = .error (.tooSmall cause)) ∨
    (∃ trade, swap amount x y = .ok trade ∧ trade.Sound amount x y) := by
  rw [swap_eq hamount hx hy]
  by_cases hzero : x + amount = 0
  · simp [hzero]
  by_cases hlt : x * y < x + amount
  · simp [hzero, hlt]
  by_cases hnone : y * amount < x + amount
  · simp [hzero, hlt, hnone]
  have hd : 0 < x + amount := by omega
  have hproduct : x * y ≤ (x + amount) * (y - bought amount x y) := by
    have := Int.ediv_mul_le (y * amount) hzero
    unfold bought
    linarith
  simp only [hzero, hlt, hnone, if_false]
  refine .inr ⟨_, rfl, rfl, rfl, rfl, ?_, hd, ?_, hproduct⟩
  · exact (Int.le_ediv_iff_mul_le hd).mpr (by omega)
  · exact Int.pos_of_mul_pos_right (Int.lt_of_lt_of_le (by omega) hproduct) hd

theorem swap_ok {amount x y : Int} {trade : Trade} (hamount : 0 ≤ amount) (hx : 0 ≤ x)
    (hy : 0 ≤ y) (h : swap amount x y = .ok trade) : trade.Sound amount x y := by
  obtain ⟨cause, herror⟩ | ⟨found, hfound, hsound⟩ := swap_cases hamount hx hy
  · rw [herror] at h
    contradiction
  · rw [hfound] at h
    cases h
    exact hsound

theorem balances_of_swap {amount x y : Int} {trade : Trade} (h : swap amount x y = .ok trade) :
    0 < x ∧ 0 < y ∧ 0 < trade.received := by
  obtain ⟨hamount, hx, hy, hsum, hproduct, _⟩ := swap_eq_ok.mp h
  have hsource : x ≠ 0 := by
    rintro rfl
    omega
  have hdestination : y ≠ 0 := by
    rintro rfl
    omega
  exact ⟨by omega, by omega, (swap_ok hamount hx hy h).received_pos⟩

def swapFor (reserves : Reserves) (order : Order) : Checked Trade :=
  swap order.amount (reserves.source order.direction) (reserves.destination order.direction)

/-- The reserves after an order; one that is refused leaves them alone. -/
def settle (reserves : Reserves) (order : Order) : Reserves :=
  match swapFor reserves order with
  | .ok trade => .ofSides order.direction trade.newSource trade.newDestination
  | .error _ => reserves

def settleAll (reserves : Reserves) (orders : List Order) : Reserves :=
  orders.foldl settle reserves

def trades : Reserves → List Order → List Trade
  | _, [] => []
  | reserves, order :: rest =>
    match swapFor reserves order with
    | .ok trade => trade :: trades (settle reserves order) rest
    | .error _ => trades reserves rest

def paidIn (reserves : Reserves) (orders : List Order) : Int :=
  ((trades reserves orders).map Trade.paid).sum

def paidOut (reserves : Reserves) (orders : List Order) : Int :=
  ((trades reserves orders).map Trade.received).sum

theorem settle_of_ok {reserves : Reserves} {order : Order} {trade : Trade}
    (h : swapFor reserves order = .ok trade) :
    settle reserves order = .ofSides order.direction trade.newSource trade.newDestination := by
  rw [settle, h]

theorem settle_of_error {reserves : Reserves} {order : Order} {fault : Fault}
    (h : swapFor reserves order = .error fault) : settle reserves order = reserves := by
  rw [settle, h]

theorem swapFor_cases {reserves : Reserves} (h : reserves.Nonneg) (order : Order) :
    (∃ cause, swapFor reserves order = .error (.tooSmall cause) ∧
      settle reserves order = reserves) ∨
    (∃ trade, swapFor reserves order = .ok trade ∧
      trade.Sound order.amount (reserves.source order.direction)
        (reserves.destination order.direction) ∧
      settle reserves order = reserves.move order.direction trade.paid trade.received) := by
  obtain ⟨hx, hy⟩ := (reserves.nonneg_iff order.direction).mp h
  obtain ⟨cause, herror⟩ | ⟨trade, htrade, hsound⟩ := swap_cases order.amount_nonneg hx hy
  · exact .inl ⟨cause, herror, settle_of_error herror⟩
  · refine .inr ⟨trade, htrade, hsound, ?_⟩
    rw [settle_of_ok htrade, Reserves.move, hsound.newSource_eq, hsound.newDestination_eq]

theorem settle_nonneg {reserves : Reserves} (h : reserves.Nonneg) (order : Order) :
    (settle reserves order).Nonneg := by
  obtain ⟨_, _, hsame⟩ | ⟨trade, htrade, hsound, _⟩ := swapFor_cases h order
  · rwa [hsame]
  · rw [settle_of_ok htrade, Reserves.nonneg_iff _ order.direction]
    simpa using ⟨Int.le_of_lt hsound.newSource_pos, Int.le_of_lt hsound.newDestination_pos⟩

theorem product_le_settle {reserves : Reserves} (h : reserves.Nonneg) (order : Order) :
    reserves.product ≤ (settle reserves order).product := by
  obtain ⟨_, _, hsame⟩ | ⟨trade, htrade, hsound, _⟩ := swapFor_cases h order
  · rw [hsame]
  · rw [settle_of_ok htrade, Reserves.product_eq _ order.direction,
      Reserves.product_eq _ order.direction]
    simpa using hsound.product_le

theorem settle_eq_or_positive {reserves : Reserves} (h : reserves.Nonneg) (order : Order) :
    settle reserves order = reserves ∨ (settle reserves order).Positive := by
  obtain ⟨_, _, hsame⟩ | ⟨trade, htrade, hsound, _⟩ := swapFor_cases h order
  · exact .inl hsame
  · rw [settle_of_ok htrade, Reserves.positive_iff _ order.direction]
    exact .inr (by simpa using ⟨hsound.newSource_pos, hsound.newDestination_pos⟩)

theorem settleAll_nonneg {reserves : Reserves} (h : reserves.Nonneg) (orders : List Order) :
    (settleAll reserves orders).Nonneg := by
  induction orders generalizing reserves with
  | nil => exact h
  | cons order rest ih => exact ih (settle_nonneg h order)

theorem product_le_settleAll {reserves : Reserves} (h : reserves.Nonneg) (orders : List Order) :
    reserves.product ≤ (settleAll reserves orders).product := by
  induction orders generalizing reserves with
  | nil => exact Int.le_refl _
  | cons order rest ih =>
    exact Int.le_trans (product_le_settle h order) (ih (settle_nonneg h order))

theorem settleAll_eq_or_positive {reserves : Reserves} (h : reserves.Nonneg)
    (orders : List Order) :
    settleAll reserves orders = reserves ∨ (settleAll reserves orders).Positive := by
  induction orders generalizing reserves with
  | nil => exact .inl rfl
  | cons order rest ih =>
    have hrest := ih (settle_nonneg h order)
    simp only [settleAll, List.foldl_cons] at hrest ⊢
    obtain hsame | hpos := hrest
    · rw [hsame]
      exact settle_eq_or_positive h order
    · exact .inr hpos

theorem settleAll_append (reserves : Reserves) (earlier later : List Order) :
    settleAll reserves (earlier ++ later) = settleAll (settleAll reserves earlier) later :=
  List.foldl_append

/-- The book of a run in one direction: what its trades report is what the reserves have gained and
lost. -/
theorem settleAll_sides {reserves : Reserves} (h : reserves.Nonneg) {direction : Direction}
    {orders : List Order} (hsame : ∀ order ∈ orders, order.direction = direction) :
    (settleAll reserves orders).source direction =
        reserves.source direction + paidIn reserves orders ∧
      (settleAll reserves orders).destination direction =
        reserves.destination direction - paidOut reserves orders := by
  induction orders generalizing reserves with
  | nil => simp [settleAll, paidIn, paidOut, trades]
  | cons order rest ih =>
    have hd : order.direction = direction := hsame order (by simp)
    obtain ⟨hsource, hdestination⟩ := ih (settle_nonneg h order) fun o ho => hsame o (by simp [ho])
    obtain ⟨_, herror, hkept⟩ | ⟨trade, htrade, _, hmoved⟩ := swapFor_cases h order
    · rw [hkept] at hsource hdestination
      simpa [settleAll, paidIn, paidOut, trades, herror, hkept] using ⟨hsource, hdestination⟩
    · rw [hmoved, hd] at hsource hdestination
      simp only [Reserves.move, Reserves.source_ofSides, Reserves.destination_ofSides]
        at hsource hdestination
      simp only [settleAll, List.foldl_cons, paidIn, paidOut, trades, htrade, hmoved, hd,
        Reserves.move, List.map_cons, List.sum_cons] at hsource hdestination ⊢
      omega

theorem paidIn_nonneg {reserves : Reserves} (h : reserves.Nonneg) (orders : List Order) :
    0 ≤ paidIn reserves orders ∧
      paidIn reserves orders ≤ (orders.map Order.amount).sum := by
  induction orders generalizing reserves with
  | nil => simp [paidIn, trades]
  | cons order rest ih =>
    have hamount := order.amount_nonneg
    obtain ⟨_, herror, _⟩ | ⟨trade, htrade, hsound, _⟩ := swapFor_cases h order
    · have hrest := ih h
      simp only [paidIn, trades, herror, List.map_cons, List.sum_cons] at hrest ⊢
      omega
    · have hrest := ih (settle_nonneg h order)
      have hpaid := hsound.paid_eq
      simp only [paidIn, trades, htrade, List.map_cons, List.sum_cons] at hrest ⊢
      omega

theorem paidOut_le {reserves : Reserves} (h : reserves.Nonneg) {direction : Direction}
    {orders : List Order} (hsame : ∀ order ∈ orders, order.direction = direction) {total : Int}
    (htotal : 0 < total) (hpaid : paidIn reserves orders ≤ total) :
    paidOut reserves orders ≤
      reserves.destination direction * total / (reserves.source direction + total) := by
  obtain ⟨hx, hy⟩ := (reserves.nonneg_iff direction).mp h
  obtain ⟨hsource, hdestination⟩ := settleAll_sides h hsame
  have hleft := ((Reserves.nonneg_iff _ direction).mp (settleAll_nonneg h orders)).2
  have hproduct := product_le_settleAll h orders
  rw [Reserves.product_eq _ direction, Reserves.product_eq _ direction, hsource, hdestination]
    at hproduct
  rw [hdestination] at hleft
  have hd : 0 < reserves.source direction + total := by omega
  generalize reserves.source direction = x at *
  generalize reserves.destination direction = y at *
  generalize paidIn reserves orders = paid at *
  generalize paidOut reserves orders = received at *
  have hexact : received * (x + paid) ≤ y * paid := by linarith
  have hrest : received * (total - paid) ≤ y * (total - paid) :=
    Int.mul_le_mul_of_nonneg_right (by omega) (by omega)
  exact (Int.le_ediv_iff_mul_le hd).mpr (by linarith)

theorem source_restored {reserves : Reserves} (h : reserves.Nonneg) (direction : Direction)
    {orders : List Order} (hpos : 0 < reserves.source direction)
    (hback : (settleAll reserves orders).source direction = reserves.source direction) :
    reserves.destination direction ≤ (settleAll reserves orders).destination direction := by
  have hproduct := product_le_settleAll h orders
  rw [Reserves.product_eq _ direction, Reserves.product_eq _ direction, hback] at hproduct
  exact Int.le_of_mul_le_mul_left hproduct hpos

/-- No run of orders, in whatever directions, lowers the product of the reserves or empties a side,
and the reserves move by exactly what the trades report. Hence orders in one direction never buy
more than `y * T / (x + T)` for a total of `T`, and a cycle never pays. -/
theorem no_run_loses_product (start : Reserves) (hstart : start.Nonneg) :
    (∀ earlier later : List Order,
      (settleAll start earlier).product ≤ (settleAll start (earlier ++ later)).product ∧
      (0 < (settleAll start earlier).a → 0 < (settleAll start (earlier ++ later)).a) ∧
      (0 < (settleAll start earlier).b → 0 < (settleAll start (earlier ++ later)).b)) ∧
    (∀ (earlier : List Order) (order : Order),
      (∃ cause, swapFor (settleAll start earlier) order = .error (.tooSmall cause) ∧
        settleAll start (earlier ++ [order]) = settleAll start earlier) ∨
      (∃ trade, swapFor (settleAll start earlier) order = .ok trade ∧
        trade.paid = order.amount ∧ 0 < trade.received ∧
        settleAll start (earlier ++ [order]) =
          (settleAll start earlier).move order.direction trade.paid trade.received)) ∧
    (∀ (direction : Direction) (orders : List Order),
      (∀ order ∈ orders, order.direction = direction) → ∀ total : Int, 0 < total →
      (total = paidIn start orders ∨ total = (orders.map Order.amount).sum) →
      paidOut start orders ≤
        start.destination direction * total / (start.source direction + total)) ∧
    (∀ orders : List Order,
      (0 < start.a → (settleAll start orders).a = start.a →
        start.b ≤ (settleAll start orders).b) ∧
      (0 < start.b → (settleAll start orders).b = start.b →
        start.a ≤ (settleAll start orders).a)) := by
  refine ⟨fun earlier later => ?_, fun earlier order => ?_, fun direction orders hsame total htotal
    htotals => ?_, fun orders => ⟨fun hpos hback => ?_, fun hpos hback => ?_⟩⟩
  · have hnow := settleAll_nonneg hstart earlier
    rw [settleAll_append]
    refine ⟨product_le_settleAll hnow later, fun ha => ?_, fun hb => ?_⟩
    · obtain hsame | hpos := settleAll_eq_or_positive hnow later
      · rwa [hsame]
      · exact hpos.1
    · obtain hsame | hpos := settleAll_eq_or_positive hnow later
      · rwa [hsame]
      · exact hpos.2
  · rw [settleAll_append]
    obtain herror | ⟨trade, htrade, hsound, hmoved⟩ :=
      swapFor_cases (settleAll_nonneg hstart earlier) order
    · exact .inl herror
    · exact .inr ⟨trade, htrade, hsound.paid_eq, hsound.received_pos, hmoved⟩
  · refine paidOut_le hstart hsame htotal ?_
    obtain rfl | rfl := htotals
    · exact Int.le_refl _
    · exact (paidIn_nonneg hstart orders).2
  · exact source_restored hstart .aToB hpos hback
  · exact source_restored hstart .bToA hpos hback

theorem no_run_loses_product_thousand :
    (⟨1000, 2000⟩ : Reserves).Nonneg ∧
    paidOut ⟨1000, 2000⟩ [⟨.aToB, 300, by decide⟩, ⟨.aToB, 300, by decide⟩,
      ⟨.aToB, 400, by decide⟩] ≤ 2000 * 1000 / (1000 + 1000) :=
  have hstart : (⟨1000, 2000⟩ : Reserves).Nonneg := ⟨by decide, by decide⟩
  ⟨hstart, (no_run_loses_product ⟨1000, 2000⟩ hstart).2.2.1 .aToB _
    (by decide) 1000 (by decide) (.inr (by decide))⟩

end PoolPricing.ConstantProduct
