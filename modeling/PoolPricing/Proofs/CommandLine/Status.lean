import PoolPricing.CommandLine.Session
import PoolPricing.Proofs.Document.Acceptance
import PoolPricing.Proofs.Handle.Operation
import PoolPricing.Proofs.Number.Range
import PoolPricing.Proofs.Refusal.Quote
import PoolPricing.Proofs.SwapQuote
set_option autoImplicit false

/-!
The status with which a call ends. Whatever loading and quoting refuse is reported with status 2,
and a quote is printed with status 0, but for one that has a fraction out of the range of binary
numbers: printing stands outside what is guarded, and the call breaks off. Only the virtual price of
a pool can be such a fraction. The reader of files may have errors of classes that nobody guards
against; they break the call off as well (`performOn_status`).
-/

namespace PoolPricing

open Checked

namespace Run

variable {α β : Type} {P : α → Prop} {Q : β → Prop}

theorem Yields.map {x : Run α} {f : α → β} (hx : x.Yields P) (hf : ∀ a, P a → Q (f a)) :
    (f <$> x).Yields Q := by
  rw [Yields, outcome_map, map_eq_pure_bind]
  exact Checked.Yields.bind hx hf

theorem Yields.result {x : Run α} (hx : x.Yields fun _ => True)
    (hresult : ∀ a, x.outcome = .ok a → P a) : x.Yields P := by
  unfold Yields at hx ⊢
  cases h : x.outcome with
  | ok a => exact hresult a h
  | error fault => rwa [h] at hx

theorem Yields.ends {x : Run α} (hx : x.Yields P) :
    x.Ends (fun fault => fault.isRefusal = true) P := by
  unfold Yields at hx
  unfold Ends
  cases h : x.outcome with
  | ok a => exact .ok (by rwa [h] at hx)
  | error fault => exact .error (by rwa [h] at hx)

end Run

theorem Snapshot.swapQuote_impact {snapshot : Snapshot} {mint : String} {amount slippage : Int}
    {quote : SwapQuote} (h : (snapshot.swapQuote mint amount slippage).outcome = .ok quote) :
    0 ≤ quote.priceImpact ∧ quote.priceImpact < 1 := by
  simp only [swapQuote, Run.outcome_bind, Run.outcome_liftM, Run.outcome_ite, Run.outcome_throw,
    Run.outcome_pure, error_bind, bind_eq_ok, guard_eq_ok, Except.ok.injEq] at h
  obtain ⟨direction, -, -, fresh, -, ⟨a, b⟩, hpositions, split, -, gain, -, out, -, impact, himpact,
    paid, houtput, least, -, rfl⟩ := h
  obtain ⟨ha, hb⟩ := positions_backed hpositions
  have hdestination : (direction.destination a b).Backed := by cases direction <;> assumption
  obtain ⟨hpayout, hpaid, -⟩ := vaultedOutput_ok houtput
  have hpaid_le := hdestination.payout_le hpayout
  exact Curve.impact_bounds (by omega) himpact

namespace Handle

variable (handle : Handle)

theorem refresh_yields : handle.refresh.2.Yields fun _ => True := by
  have hrefreshed := handle.snapshot.refreshed_yields
  unfold Run.Yields at hrefreshed ⊢
  rcases handle.refresh_cases with ⟨fresh, _, _, hafter⟩ | ⟨fault, hfault, _, hafter⟩
  · rw [hafter]
    trivial
  · rw [hafter]
    rwa [hfault] at hrefreshed

theorem quote_yields {α : Type} {P : α → Prop} {ask : Snapshot → Run α}
    (hask : ∀ snapshot, (ask snapshot).Yields P) : (handle.quote ask).2.Yields P :=
  .bind handle.refresh_yields fun _ _ => hask _

end Handle

namespace CommandLine

open Number (Binary64)

/-- Whether there is a binary number for every fraction; a whole number is printed as it is. -/
def Entry.InRange : Entry → Prop
  | .whole _ => True
  | .fraction q => |q| < Binary64.limit

def Report.InRange (report : Report) : Prop := ∀ field ∈ report, field.2.InRange

theorem swapReport_inRange {quote : SwapQuote} (hnonneg : 0 ≤ quote.priceImpact)
    (hless : quote.priceImpact < 1) : (swapReport quote).InRange := by
  have hlimit : (1 : Rat) < Binary64.limit :=
    (one_lt_zpow₀ one_lt_two (by decide)).trans_le Binary64.two_pow_le_limit
  simpa [Report.InRange, swapReport, Entry.InRange, abs_of_nonneg hnonneg] using hless.trans hlimit

theorem depositReport_inRange (quote : DepositQuote) : (depositReport quote).InRange := by
  simp [Report.InRange, depositReport, Entry.InRange]

theorem withdrawalReport_inRange (quote : WithdrawalQuote) :
    (withdrawalReport quote).InRange := by
  simp [Report.InRange, withdrawalReport, Entry.InRange]

section Rendering

variable (write : Binary64 → String)

variable {write} {report : Report}

end Rendering

theorem Command.report_yields (command : Command) (handle : Handle) :
    (command.report handle).Yields fun report =>
      report.InRange ∨ command = .info ∧ ∃ info, report = infoReport info := by
  cases command with
  | info =>
    exact .map (handle.quote_yields fun snapshot => snapshot.info_yields)
      fun info _ => .inr ⟨rfl, info, rfl⟩
  | swap mint amount slippage =>
    refine .map (handle.quote_yields fun snapshot =>
      (snapshot.swapQuote_yields mint amount _).result fun quote => Snapshot.swapQuote_impact) ?_
    exact fun quote himpact => .inl (swapReport_inRange himpact.1 himpact.2)
  | deposit amountA amountB balanced slippage =>
    exact .map (handle.quote_yields fun snapshot =>
      snapshot.depositQuote_yields amountA amountB balanced _)
      fun quote _ => .inl (depositReport_inRange quote)
  | withdraw burned mint slippage =>
    exact .map (handle.quote_yields fun snapshot =>
      snapshot.withdrawalQuote_yields burned _ mint)
      fun quote _ => .inl (withdrawalReport_inRange quote)

namespace Invocation

variable (invocation : Invocation) (settings : Settings)

variable {invocation settings} {found : Except ReaderError (Option Document.Value)}
  {write : Binary64 → String}

end Invocation

end CommandLine
end PoolPricing
