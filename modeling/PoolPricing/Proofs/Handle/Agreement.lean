import PoolPricing.Proofs.Handle.History
set_option autoImplicit false

/-!
A handle answers as its snapshot alone would. Every question refreshes the price itself, after
checks that do not look at it; so it makes no difference that a handle has refreshed before, and
nothing that a handle was asked before an answer has a part in it (`ask_agrees`).
-/

namespace PoolPricing

open Checked

namespace Snapshot

/-- A question whose answer depends on the cache through the refreshed snapshot only. -/
structure AsksFresh {α : Type} (question : Snapshot → Run α) : Prop where
  of_ok : ∀ {snapshot fresh : Snapshot}, snapshot.refreshed.outcome = .ok fresh →
    (question fresh).outcome = (question snapshot).outcome
  of_error : ∀ {snapshot : Snapshot} {fault : Fault}, snapshot.refreshed.outcome = .error fault →
    ∃ other, (question snapshot).outcome = .error other

theorem AsksFresh.map {α β : Type} {question : Snapshot → Run α} (h : AsksFresh question)
    (f : α → β) : AsksFresh fun snapshot => f <$> question snapshot where
  of_ok hfresh := by rw [Run.outcome_map, Run.outcome_map, h.of_ok hfresh]
  of_error hfault := by
    obtain ⟨other, hother⟩ := h.of_error hfault
    exact ⟨other, by rw [Run.outcome_map, hother]; rfl⟩

theorem asksFresh_throw {α : Type} (fault : Fault) :
    AsksFresh fun _ => (throw fault : Run α) where
  of_ok _ := rfl
  of_error _ := ⟨fault, rfl⟩

theorem asksFresh_refreshed {α : Type} (rest : Snapshot → Run α) :
    AsksFresh fun snapshot => snapshot.refreshed >>= rest where
  of_ok hfresh := by
    rw [refreshed_idempotent hfresh, Run.outcome_bind, Run.outcome_bind, hfresh]
    rfl
  of_error hfault := ⟨_, by rw [Run.outcome_bind, hfault]; rfl⟩

theorem AsksFresh.after_check {α β : Type} {question : β → Snapshot → Run α}
    (check : Snapshot → Checked β)
    (hcheck : ∀ snapshot state, check (snapshot.withCache state) = check snapshot)
    (h : ∀ checked, AsksFresh (question checked)) :
    AsksFresh fun snapshot => liftM (check snapshot) >>= fun checked =>
      question checked snapshot where
  of_ok {snapshot fresh} hfresh := by
    have hsame : check fresh = check snapshot := by
      obtain ⟨state, rfl⟩ := refreshed_withCache hfresh
      exact hcheck snapshot state
    rw [Run.outcome_bind, Run.outcome_bind, Run.outcome_liftM, Run.outcome_liftM, hsame]
    cases check snapshot with
    | ok checked => exact (h checked).of_ok hfresh
    | error fault => rfl
  of_error {snapshot fault} hfault := by
    rw [Run.outcome_bind, Run.outcome_liftM]
    cases check snapshot with
    | ok checked => exact (h checked).of_error hfault
    | error other => exact ⟨other, rfl⟩

theorem asksFresh_swapQuote (mint : String) (amount slippage : Int) :
    AsksFresh (swapQuote · mint amount slippage) := by
  refine .after_check (admitSwap · mint) (fun _ _ => rfl) fun direction => ?_
  by_cases hamount : amount ≤ 0
  · simp only [hamount, if_true]
    exact asksFresh_throw _
  · simp only [hamount, if_false]
    exact asksFresh_refreshed _

theorem asksFresh_answer (request : Handle.Request) (settings : Settings) :
    AsksFresh (request.answer settings) := by
  cases request with
  | info => exact (asksFresh_refreshed _).map _
  | swap mint amount slippage => exact (asksFresh_swapQuote mint amount _).map _
  | deposit amountA amountB balanced slippage =>
    exact (AsksFresh.after_check (fun _ => admitDeposit amountA amountB balanced) (fun _ _ => rfl)
      fun _ => asksFresh_refreshed _).map _
  | withdrawal burned mint slippage =>
    exact (AsksFresh.after_check (admitBurn · burned) (fun _ _ => rfl)
      fun _ => asksFresh_refreshed _).map _
  | greatestIn mint => exact (asksFresh_refreshed _).map _

end Snapshot

namespace Handle

theorem refresh_refresh (handle : Handle) :
    handle.refresh.1.refresh.1 = handle.refresh.1 ∧
      handle.refresh.1.refresh.2.outcome = handle.refresh.2.outcome := by
  rcases handle.refresh_cases with ⟨fresh, hfresh, hafter, hcache⟩ | ⟨fault, _, hafter, _⟩
  · have hidem := Snapshot.refreshed_idempotent hfresh
    rw [hafter, hcache]
    simp [refresh, hidem, Snapshot.cache?]
  · rw [hafter]
    exact ⟨hafter, rfl⟩

/-- A history that installs no snapshot does no more than refresh. -/
theorem after_of_installed_nil (handle : Handle) {operations : List Operation}
    (h : installed operations = []) :
    handle.after operations = handle ∨ handle.after operations = handle.refresh.1 := by
  induction operations generalizing handle with
  | nil => exact .inl rfl
  | cons operation rest ih =>
    rw [installed_cons, List.append_eq_nil_iff] at h
    have hstep : (handle.perform operation).1 = handle ∨
        (handle.perform operation).1 = handle.refresh.1 := by
      cases operation with
      | update snapshot => simp [Operation.snapshot?] at h
      | refresh => exact .inr rfl
      | ask request => exact .inr (handle.ask_fst request)
      | greatestOut mint => exact .inl rfl
    rw [after_cons]
    rcases hstep with hsame | hrefreshed
    · rw [hsame]
      exact ih handle h.2
    · rw [hrefreshed]
      refine .inr ?_
      rcases ih handle.refresh.1 h.2 with hrest | hrest
      · exact hrest
      · rw [hrest, handle.refresh_refresh.1]

theorem ask_refresh (handle : Handle) (request : Request) :
    (handle.refresh.1.ask request).2.outcome = (handle.ask request).2.outcome := by
  obtain ⟨hfst, houtcome⟩ := handle.refresh_refresh
  rw [ask_outcome, ask_outcome, hfst, houtcome, settings_refresh]

/-- A handle that can be refreshed answers as the snapshot it holds does; one that cannot be answers
with the fault of the refresh, and the snapshot would have failed too. No history that installs no
snapshot changes an answer, and a second refresh changes no snapshot. -/
theorem ask_agrees (handle : Handle) (request : Request) :
    (∀ cache, handle.refresh.2.outcome = .ok cache →
      (handle.ask request).2.outcome =
        (request.answer handle.settings handle.snapshot).outcome) ∧
    (∀ fault, handle.refresh.2.outcome = .error fault →
      (handle.ask request).2.outcome = .error fault ∧
      ∃ other, (request.answer handle.settings handle.snapshot).outcome = .error other) ∧
    (∀ earlier : List Operation, installed earlier = [] →
      ((handle.after earlier).ask request).2.outcome = (handle.ask request).2.outcome) ∧
    (∀ fresh, handle.snapshot.refreshed.outcome = .ok fresh → fresh.refreshed = pure fresh) := by
  have hasks := Snapshot.asksFresh_answer request handle.settings
  refine ⟨fun cache hcache => ?_, fun fault hfault => ?_, fun earlier hearlier => ?_,
    fun fresh hfresh => Snapshot.refreshed_idempotent hfresh⟩
  · rw [ask_outcome, hcache, ok_bind]
    obtain ⟨fresh, hfresh, hafter⟩ := refresh_ok hcache
    rw [hafter]
    exact hasks.of_ok hfresh
  · rw [ask_outcome, hfault, error_bind]
    exact ⟨rfl, hasks.of_error (refresh_error hfault)⟩
  · rcases after_of_installed_nil handle hearlier with hsame | hrefreshed
    · rw [hsame]
    · rw [hrefreshed, ask_refresh]

theorem ask_agrees_staked :
    let snapshot := stakedSnapshot ⟨1000, by decide, by decide⟩ .zero
    let handle : Handle := ⟨.standard, snapshot⟩
    let blind : Handle := ⟨.standard, { snapshot with sources := [] }⟩
    let request := Request.swap "A" 11000 none
    let earlier := [.greatestOut "C", .ask (.swap "A" 0 none), .ask .info]
    handle.refresh.2.outcome = .ok (some ⟨1100000, 1000, .lido, by decide, by decide⟩) ∧
    (handle.ask request).2.outcome = .ok (.swap ⟨11000, 10007, 9906, 1, 0⟩) ∧
    (request.answer .standard snapshot).outcome = .ok (.swap ⟨11000, 10007, 9906, 1, 0⟩) ∧
    blind.refresh.2.outcome = .error (.missingAccount .lidoState) ∧
    (blind.ask request).2.outcome = .error (.missingAccount .lidoState) ∧
    (∃ other, (request.answer .standard blind.snapshot).outcome = .error other) ∧
    installed earlier = [] ∧
    ((handle.after earlier).ask request).2.outcome = (handle.ask request).2.outcome ∧
    ∃ fresh, snapshot.refreshed.outcome = .ok fresh ∧ fresh.refreshed = pure fresh := by
  intro snapshot handle blind request earlier
  have hcache : handle.refresh.2.outcome =
      .ok (some ⟨1100000, 1000, .lido, by decide, by decide⟩) := by decide +kernel
  have hanswer : (handle.ask request).2.outcome = .ok (.swap ⟨11000, 10007, 9906, 1, 0⟩) := by
    decide +kernel
  obtain ⟨fresh, hfresh, _⟩ := refresh_ok hcache
  have hblind : blind.refresh.2.outcome = .error (.missingAccount .lidoState) := by decide +kernel
  obtain ⟨hagrees, _, hearlier, hidempotent⟩ := ask_agrees handle request
  obtain ⟨_, hfails, _, _⟩ := ask_agrees blind request
  exact ⟨hcache, hanswer, hagrees _ hcache ▸ hanswer, hblind, (hfails _ hblind).1,
    (hfails _ hblind).2, rfl, hearlier earlier rfl, fresh, hfresh, hidempotent fresh hfresh⟩

end Handle
end PoolPricing
