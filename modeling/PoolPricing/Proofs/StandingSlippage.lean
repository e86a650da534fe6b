import PoolPricing.Proofs.Handle.Operation
import PoolPricing.Proofs.SwapQuote
import PoolPricing.Proofs.WrittenNumber
set_option autoImplicit false

/-!
The slippage that a handle uses where a request names none. It is read from the environment, and
whatever is written there, it can be used (`environment_slippage_usable`): it lies in range, and a
request that fails with it fails for another cause, since every quote looks at its slippage last.
-/

namespace PoolPricing

open Checked

namespace Checked

variable {α β : Type}

/-- Whatever fails at a slippage in range fails so at every slippage: it is not the slippage that it
fails on. -/
def Blameless (ask : Int → Checked α) : Prop :=
  ∀ slippage fault, 0 ≤ slippage → slippage ≤ Slippage.scale → ask slippage = .error fault →
    ∀ other, ask other = .error fault

theorem blameless_const (x : Checked α) : Blameless fun _ => x := fun _ _ _ _ h _ => h

theorem blameless_of_ok {ask : Int → Checked α}
    (h : ∀ slippage, 0 ≤ slippage → slippage ≤ Slippage.scale → ∃ a, ask slippage = .ok a) :
    Blameless ask := by
  intro slippage fault hlow hhigh hfault
  obtain ⟨a, hok⟩ := h slippage hlow hhigh
  rw [hok] at hfault
  contradiction

theorem Blameless.after (x : Checked β) {ask : β → Int → Checked α} (h : ∀ b, Blameless (ask b)) :
    Blameless fun slippage => x >>= fun b => ask b slippage := by
  cases x with
  | error fault => exact blameless_const _
  | ok b => exact h b

theorem Blameless.ite {c : Prop} [Decidable c] {ask ask' : Int → Checked α}
    (h : c → Blameless ask) (h' : ¬c → Blameless ask') :
    Blameless fun slippage => if c then ask slippage else ask' slippage := by
  by_cases hc : c
  · simpa only [hc, if_true] using h hc
  · simpa only [hc, if_false] using h' hc

theorem Blameless.map {ask : Int → Checked α} (h : Blameless ask) (f : α → β) :
    Blameless fun slippage => f <$> ask slippage := by
  intro slippage fault hlow hhigh hfault other
  cases hask : ask slippage with
  | ok a => simp [hask] at hfault
  | error found =>
    obtain rfl : found = fault := by simpa [hask] using hfault
    simp [h slippage found hlow hhigh hask other]

end Checked

namespace Slippage

section

variable {slippage : Int} (hlow : 0 ≤ slippage) (hhigh : slippage ≤ scale)
include hlow hhigh

theorem require_of_range : require slippage = .ok () := if_pos ⟨hlow, hhigh⟩

theorem least_of_range (amount : Int) :
    least amount slippage = .ok (amount * (scale - slippage) / scale) := by
  rw [least, require_of_range hlow hhigh]
  rfl

theorem greatest_of_range (amount : Int) :
    greatest amount slippage = .ok (amount * (scale + slippage) / scale) := by
  rw [greatest, require_of_range hlow hhigh]
  rfl

end

theorem least_blameless {α : Type} (amount : Int) (finish : Int → α) :
    Blameless fun slippage => least amount slippage >>= fun least => .ok (finish least) :=
  blameless_of_ok fun _ hlow hhigh => ⟨_, by rw [least_of_range hlow hhigh, ok_bind]⟩

end Slippage

namespace Snapshot

variable (snapshot : Snapshot)

-- Before a quote comes to its slippage it takes the steps that every slippage takes; `after` and
-- `ite` pass over them, and of what is left only a slippage out of range makes a failure.

theorem swapQuote_blameless (mint : String) (amount : Int) :
    Blameless fun slippage => (snapshot.swapQuote mint amount slippage).outcome := by
  simp only [swapQuote, Run.outcome_bind, Run.outcome_liftM, Run.outcome_ite, Run.outcome_throw,
    Run.outcome_pure, error_bind]
  refine .after _ fun direction => .ite (fun _ => blameless_const _) fun _ => ?_
  refine .after _ fun fresh => .after _ fun positions => ?_
  obtain ⟨a, b⟩ := positions
  refine .after _ fun split => .after _ fun gain => ?_
  refine .after _ fun out => .after _ fun impact => .after _ fun paid => ?_
  exact Slippage.least_blameless _ _

theorem firstDeposit_blameless (curve : Curve) (amountA amountB : Int) :
    Blameless fun slippage => (firstDeposit curve amountA amountB slippage).outcome := by
  simp only [firstDeposit, Run.outcome_bind, Run.outcome_liftM, Run.outcome_pure]
  exact .after _ fun d => .after _ fun minted => Slippage.least_blameless _ _

theorem balancedStable_blameless (a b : Position) (amountA amountB share : Int) :
    Blameless (balancedStable a b amountA amountB share) := by
  unfold balancedStable
  refine .ite (fun _ => ?_) fun _ => ?_
  · exact .after _ fun other => Slippage.least_blameless _ _
  · exact .after _ fun other => Slippage.least_blameless _ _

theorem balancedConstantProduct_blameless (a b : Position) (lpSupply share : Int) :
    Blameless (balancedConstantProduct a b lpSupply share) := by
  unfold balancedConstantProduct
  refine .after _ fun needA => .after _ fun needB => blameless_of_ok fun slippage hlow hhigh => ?_
  rw [Slippage.greatest_of_range hlow hhigh, Slippage.greatest_of_range hlow hhigh]
  exact ⟨_, rfl⟩

theorem unbalancedDeposit_blameless (a b : Position) (amountA amountB : Int) :
    Blameless fun slippage =>
      (snapshot.unbalancedDeposit a b amountA amountB slippage).outcome := by
  simp only [unbalancedDeposit, Run.outcome_bind, Run.outcome_liftM, Run.outcome_pure]
  refine .after _ fun gainA => .after _ fun gainB => .after _ fun minted => ?_
  exact Slippage.least_blameless _ _

theorem depositQuote_blameless (amountA amountB : Int) (balanced : Bool) :
    Blameless fun slippage =>
      (snapshot.depositQuote amountA amountB balanced slippage).outcome := by
  simp only [depositQuote, Run.outcome_bind, Run.outcome_liftM, Run.outcome_ite]
  refine .after _ fun _ => .after _ fun fresh => ?_
  refine .ite (fun _ => firstDeposit_blameless _ _ _) fun _ => .after _ fun positions => ?_
  obtain ⟨a, b⟩ := positions
  refine .ite (fun _ => .after _ fun share => ?_) fun _ => fresh.unbalancedDeposit_blameless _ _ _ _
  exact .ite (fun _ => balancedStable_blameless _ _ _ _ _)
    fun _ => balancedConstantProduct_blameless _ _ _ _

theorem balancedWithdrawal_blameless (lpSupply : Int) (a b : Position) (burned : Int) :
    Blameless (balancedWithdrawal lpSupply a b burned) := by
  unfold balancedWithdrawal
  refine .after _ fun amountA => .after _ fun amountB => ?_
  refine blameless_of_ok fun slippage hlow hhigh => ?_
  rw [Slippage.least_of_range hlow hhigh, Slippage.least_of_range hlow hhigh]
  exact ⟨_, rfl⟩

theorem singleWithdrawal_blameless (a b : Position) (burned : Int) (mint : String) :
    Blameless fun slippage => (snapshot.singleWithdrawal a b burned slippage mint).outcome := by
  simp only [singleWithdrawal, Run.outcome_bind, Run.outcome_liftM, Run.outcome_pure]
  refine .after _ fun paidIn => .after _ fun out => .after _ fun paid => ?_
  exact Slippage.least_blameless _ _

theorem withdrawalQuote_blameless (burned : Int) (mint : Option String) :
    Blameless fun slippage => (snapshot.withdrawalQuote burned slippage mint).outcome := by
  simp only [withdrawalQuote, Run.outcome_bind, Run.outcome_liftM]
  refine .after _ fun _ => .after _ fun fresh => .after _ fun positions => ?_
  obtain ⟨a, b⟩ := positions
  cases mint with
  | none => exact balancedWithdrawal_blameless _ _ _ _
  | some mint => exact fresh.singleWithdrawal_blameless _ _ _ _

end Snapshot

namespace Handle

/-- The same request with another slippage, or none, where it takes one. -/
def Request.withSlippage (slippage : Option Int) : Request → Request
  | .swap mint amount _ => .swap mint amount slippage
  | .deposit amountA amountB balanced _ => .deposit amountA amountB balanced slippage
  | .withdrawal burned mint _ => .withdrawal burned mint slippage
  | .info => .info
  | .greatestIn mint => .greatestIn mint

theorem answer_blameless (request : Request) (settings : Settings) (snapshot : Snapshot) :
    Blameless fun slippage =>
      ((request.withSlippage (some slippage)).answer settings snapshot).outcome := by
  cases request with
  | info => exact blameless_const (Request.answer .info settings snapshot).outcome
  | swap mint amount _ =>
    simp only [Request.withSlippage, Request.answer, Run.outcome_map]
    exact (snapshot.swapQuote_blameless mint amount).map _
  | deposit amountA amountB balanced _ =>
    simp only [Request.withSlippage, Request.answer, Run.outcome_map]
    exact (snapshot.depositQuote_blameless amountA amountB balanced).map _
  | withdrawal burned mint _ =>
    simp only [Request.withSlippage, Request.answer, Run.outcome_map]
    exact (snapshot.withdrawalQuote_blameless burned mint).map _
  | greatestIn mint =>
    exact blameless_const (Request.answer (.greatestIn mint) settings snapshot).outcome

theorem ask_withSlippage_none (handle : Handle) (request : Request) :
    (handle.ask (request.withSlippage none)).2.outcome =
      (handle.ask (request.withSlippage (some handle.settings.slippage))).2.outcome := by
  cases request <;> rfl

theorem ask_blameless (handle : Handle) (request : Request) :
    Blameless fun slippage => (handle.ask (request.withSlippage (some slippage))).2.outcome := by
  simp only [ask_outcome]
  exact .after _ fun _ => answer_blameless _ _ _

end Handle

namespace Settings

theorem slippageOf_of_writes {text : String} {n : Int} (h : Text.Writes text.toList n) :
    slippageOf (some text) = min (max n 0) 10000 := by
  rw [slippageOf, Text.integer?_eq_some_iff.mpr h]
  simp only [clampSlippage, Slippage.scale]
  omega

theorem slippageOf_of_not_writes {text : String} (h : ∀ n, ¬Text.Writes text.toList n) :
    slippageOf (some text) = 100 := by
  cases hread : Text.integer? text.toList with
  | none =>
    rw [slippageOf, hread]
    rfl
  | some n => exact absurd (Text.integer?_eq_some_iff.mp hread) (h n)

theorem slippageOf_mem (text : Option String) : 0 ≤ slippageOf text ∧ slippageOf text ≤ 10000 := by
  cases text with
  | none => decide
  | some text =>
    cases hread : Text.integer? text.toList with
    | none => simp [slippageOf, hread, standardSlippage]
    | some n => simpa only [slippageOf, hread] using clampSlippage_mem n

/-- Whatever stands in the environment, the slippage it sets is in range and is not what a request
without a slippage fails on: it would fail so at every other. A number is taken to the nearer end of
the range; a text that writes no number, a blank one among them, and no text at all stand for a
hundred. -/
theorem environment_slippage_usable (text level : Option String) :
    let settings := ofEnvironment text level
    (0 ≤ settings.slippage ∧ settings.slippage ≤ 10000 ∧
      Slippage.require settings.slippage = .ok ()) ∧
    (∀ written n, text = some written → Text.Writes written.toList n →
      settings.slippage = min (max n 0) 10000) ∧
    ((∀ written n, text = some written → ¬Text.Writes written.toList n) →
      settings.slippage = 100) ∧
    (∀ written, text = some written → (∀ c ∈ written.toList, Text.isBlank c = true) →
      settings.slippage = 100) ∧
    ∀ (handle : Handle) (request : Handle.Request) (fault : Fault), handle.settings = settings →
      (handle.ask (request.withSlippage none)).2.outcome = .error fault →
      ∀ slippage, (handle.ask (request.withSlippage (some slippage))).2.outcome = .error fault := by
  intro settings
  obtain ⟨hlow, hhigh⟩ := slippageOf_mem text
  have hnone : (∀ written n, text = some written → ¬Text.Writes written.toList n) →
      settings.slippage = 100 := by
    intro h
    cases text with
    | none => rfl
    | some text => exact slippageOf_of_not_writes fun n => h text n rfl
  refine ⟨⟨hlow, hhigh, Slippage.require_of_range hlow hhigh⟩, ?_, hnone, ?_, ?_⟩
  · rintro written n rfl h
    exact slippageOf_of_writes h
  · rintro written rfl hblank
    exact slippageOf_of_not_writes (Text.not_writes_of_blank hblank)
  · intro handle request fault hsettings hfault
    rw [Handle.ask_withSlippage_none, hsettings] at hfault
    exact handle.ask_blameless request _ fault hlow hhigh hfault

theorem environment_slippage_usable_quarter :
    let quarter := ofEnvironment (some " +\u0660_\u0662\u0665\n") none
    let handle : Handle := ⟨quarter, Snapshot.million⟩
    let request := Handle.Request.swap "C" 1000 none
    quarter.slippage = 25 ∧
    (ofEnvironment (some "1__0") none).slippage = 100 ∧
    (ofEnvironment (some " \t") none).slippage = 100 ∧
    (handle.ask request).2.outcome = .error (.foreignMint "C") ∧
    ∀ slippage, (handle.ask (request.withSlippage (some slippage))).2.outcome =
      .error (.foreignMint "C") := by
  intro quarter handle request
  have hwrites : Text.Writes " +\u0660_\u0662\u0665\n".toList 25 :=
    Text.integer?_eq_some_iff.mp (by decide +kernel)
  have hnone : Text.integer? "1__0".toList = none := by rfl
  have hblank : ∀ c ∈ " \t".toList, Text.isBlank c = true := by
    simpa using (by decide : Text.isBlank ' ' = true ∧ Text.isBlank '\t' = true)
  have hfault : (handle.ask request).2.outcome = .error (.foreignMint "C") := rfl
  obtain ⟨_, hclamped, _, _, hstanding⟩ :=
    environment_slippage_usable (some " +\u0660_\u0662\u0665\n") none
  obtain ⟨_, _, hother, _, _⟩ := environment_slippage_usable (some "1__0") none
  obtain ⟨_, _, _, hempty, _⟩ := environment_slippage_usable (some " \t") none
  refine ⟨hclamped _ 25 rfl hwrites, hother ?_, hempty _ rfl hblank, hfault, ?_⟩
  · rintro written n ⟨⟩ h
    exact Option.some_ne_none n ((Text.integer?_eq_some_iff.mpr h).symm.trans hnone)
  · exact hstanding handle request _ rfl hfault

end Settings

end PoolPricing
