import PoolPricing.Proofs.Refresh
import Mathlib.Data.List.Chain
set_option autoImplicit false

/-!
A price cache over a run of refreshes, whatever the clock says and whatever is there of the account.
A refresh changes the cache just where it has run out and a price can be read
(`refreshedBy_ne_iff`), and then the time of the cache is the clock's, which is past the lifetime of
the last one. So clocks that jump back set no cache back, and two readings are never closer than a
lifetime (`repricings_apart`).
-/

namespace PoolPricing.Depeg

open Checked

structure Call where
  now : Int
  account : Option Bytes

namespace State

/-- What a call leaves of a cache; one that fails leaves all of it. -/
def refreshedBy (state : State) (call : Call) : State := state.afterRefresh call.now call.account

def after (state : State) (calls : List Call) : State := calls.foldl refreshedBy state

/-- The times on the clock at the calls that changed the cache. -/
def repricings (state : State) : List Call → List Int
  | [] => []
  | call :: rest =>
    if state.refreshedBy call = state then state.repricings rest
    else call.now :: (state.refreshedBy call).repricings rest

variable (state : State)

@[simp] theorem after_nil : state.after [] = state := rfl

@[simp] theorem after_cons (call : Call) (rest : List Call) :
    state.after (call :: rest) = (state.refreshedBy call).after rest := rfl

theorem after_append (earlier later : List Call) :
    state.after (earlier ++ later) = (state.after earlier).after later :=
  List.foldl_append

theorem refresh_of_stale {now price : Int} {account : Option Bytes}
    (hstale : state.isFresh now = false) (hprice : Depeg.price state.kind account = .ok price) :
    ∃ fresh, (state.refresh now account).outcome = .ok fresh ∧ fresh.updated = now := by
  have hnow : 0 ≤ now :=
    Int.le_trans state.updated_nonneg (Int.le_of_lt (updated_lt_of_stale hstale))
  refine ⟨⟨price, now, state.kind, Depeg.price_nonneg hprice, hnow⟩, ?_, rfl⟩
  simp only [refresh, hstale, Bool.false_eq_true, if_false, Run.outcome_bind, Run.outcome_liftM,
    Run.outcome_note, ok_bind, hprice, reprice]
  exact ofNumbers_eq_ok.mpr ⟨rfl, rfl, rfl⟩

theorem refreshedBy_cases (call : Call) :
    state.refreshedBy call = state ∨
      state.isFresh call.now = false ∧
      Depeg.price state.kind call.account = .ok (state.refreshedBy call).price ∧
      (state.refreshedBy call).updated = call.now ∧
      (state.refreshedBy call).kind = state.kind := by
  unfold refreshedBy afterRefresh
  cases houtcome : (state.refresh call.now call.account).outcome with
  | error fault => exact .inl rfl
  | ok fresh =>
    obtain ⟨_, rfl⟩ | hread := refresh_ok houtcome
    · exact .inl rfl
    · exact .inr hread

theorem refreshedBy_ne_iff (call : Call) :
    state.refreshedBy call ≠ state ↔
      state.kind ≠ .none ∧ state.updated + lifetime < call.now ∧
        ∃ price, Depeg.price state.kind call.account = .ok price := by
  constructor
  · intro hchanged
    obtain hsame | ⟨hstale, hprice, _⟩ := state.refreshedBy_cases call
    · contradiction
    · obtain ⟨hkind, hlate⟩ := isFresh_eq_false_iff.mp hstale
      exact ⟨hkind, hlate, _, hprice⟩
  · rintro ⟨hkind, hlate, price, hprice⟩ hsame
    have hstale := isFresh_eq_false_iff.mpr ⟨hkind, hlate⟩
    have holder := updated_lt_of_stale hstale
    obtain ⟨fresh, hfresh, hupdated⟩ := state.refresh_of_stale hstale hprice
    simp only [refreshedBy, afterRefresh, hfresh] at hsame
    rw [← hsame, hupdated] at holder
    exact Int.lt_irrefl _ holder

theorem refreshedBy_kind (call : Call) : (state.refreshedBy call).kind = state.kind := by
  obtain hsame | ⟨_, _, _, hkind⟩ := state.refreshedBy_cases call
  · rw [hsame]
  · exact hkind

theorem updated_le_refreshedBy (call : Call) :
    state.updated ≤ (state.refreshedBy call).updated := by
  obtain hsame | ⟨hstale, _, hupdated, _⟩ := state.refreshedBy_cases call
  · exact Int.le_of_eq (congrArg updated hsame.symm)
  · rw [hupdated]
    exact Int.le_of_lt (updated_lt_of_stale hstale)

theorem after_kind (calls : List Call) : (state.after calls).kind = state.kind := by
  induction calls generalizing state with
  | nil => rfl
  | cons call rest ih => rw [after_cons, ih, refreshedBy_kind]

theorem updated_le_after (calls : List Call) : state.updated ≤ (state.after calls).updated := by
  induction calls generalizing state with
  | nil => exact Int.le_refl _
  | cons call rest ih => exact Int.le_trans (state.updated_le_refreshedBy call) (ih _)

theorem after_of_none (hnone : state.kind = .none) (calls : List Call) :
    state.after calls = state := by
  induction calls with
  | nil => rfl
  | cons call rest ih =>
    have hsame : state.refreshedBy call = state := by
      by_contra hchanged
      exact ((state.refreshedBy_ne_iff call).mp hchanged).1 hnone
    rw [after_cons, hsame, ih]

/-- Each reading of a price is later than the one before it by more than a lifetime. -/
theorem repricings_apart (calls : List Call) :
    (state.updated :: state.repricings calls).IsChain
      (fun earlier later => earlier + lifetime < later) := by
  induction calls generalizing state with
  | nil => exact .singleton _
  | cons call rest ih =>
    by_cases hsame : state.refreshedBy call = state
    · rw [repricings, if_pos hsame]
      exact ih state
    · obtain hunchanged | ⟨_, _, hupdated, _⟩ := state.refreshedBy_cases call
      · contradiction
      · rw [repricings, if_neg hsame]
        refine .cons_cons ((state.refreshedBy_ne_iff call).mp hsame).2.1 ?_
        rw [← hupdated]
        exact ih _

theorem getLast_repricings (calls : List Call) :
    (state.updated :: state.repricings calls).getLast (List.cons_ne_nil _ _) =
      (state.after calls).updated := by
  induction calls generalizing state with
  | nil => rfl
  | cons call rest ih =>
    by_cases hsame : state.refreshedBy call = state
    · simp only [repricings, after_cons, hsame]
      exact ih state
    · obtain hunchanged | ⟨_, _, hupdated, _⟩ := state.refreshedBy_cases call
      · contradiction
      · simp only [repricings, if_neg hsame, after_cons]
        rw [List.getLast_cons (List.cons_ne_nil _ _), ← ih]
        simp only [hupdated]

theorem isFresh_of_le {now time : Int} (hle : time ≤ now) (h : state.isFresh now = true) :
    state.isFresh time = true := by
  rw [isFresh_iff] at h ⊢
  exact h.imp_right (Int.le_trans hle)

/-- Over any run of calls from any cache: the kind stays; a plain cache stays as it is; the time of
the cache is that of the last reading, and the readings are more than a lifetime apart. A further
call changes the cache just where it has run out and a price can be read, and then leaves that price
and the time on the clock. After a refresh that succeeds, no refresh at that time or before it,
which includes clocks set back, changes anything or asks for an account. -/
theorem no_run_reprices_early (state : State) (calls : List Call) :
    (state.after calls).kind = state.kind ∧
    (state.kind = .none → state.after calls = state) ∧
    (∀ later, (state.after calls).updated ≤ (state.after (calls ++ later)).updated) ∧
    (state.updated :: state.repricings calls).IsChain
      (fun earlier later => earlier + lifetime < later) ∧
    (state.updated :: state.repricings calls).getLast (List.cons_ne_nil _ _) =
      (state.after calls).updated ∧
    (∀ call : Call,
      (state.after (calls ++ [call]) ≠ state.after calls ↔
        state.kind ≠ .none ∧ (state.after calls).updated + lifetime < call.now ∧
          ∃ price, Depeg.price state.kind call.account = .ok price) ∧
      (state.after (calls ++ [call]) ≠ state.after calls →
        Depeg.price state.kind call.account = .ok (state.after (calls ++ [call])).price ∧
        (state.after (calls ++ [call])).updated = call.now ∧
        (state.after (calls ++ [call])).kind = state.kind)) ∧
    ∀ now account fresh, ((state.after calls).refresh now account).outcome = .ok fresh →
      fresh.isFresh now = true ∧
      ∀ time ≤ now, ∀ other, fresh.refresh time other = pure fresh := by
  have hkind := state.after_kind calls
  refine ⟨hkind, fun hnone => state.after_of_none hnone calls, fun later => ?_,
    state.repricings_apart calls, state.getLast_repricings calls, fun call => ?_,
    fun now account fresh h => ⟨isFresh_refresh h, fun time hle other =>
      refresh_of_fresh (fresh.isFresh_of_le hle (isFresh_refresh h))⟩⟩
  · rw [after_append]
    exact updated_le_after _ later
  · rw [after_append, after_cons, after_nil, ← hkind]
    refine ⟨(state.after calls).refreshedBy_ne_iff call, fun hchanged => ?_⟩
    obtain hsame | ⟨_, hread⟩ := (state.after calls).refreshedBy_cases call
    · contradiction
    · exact hread

def stakedAccount : Bytes :=
  List.replicate 73 0 ++ [10, 0, 0, 0, 0, 0, 0, 0, 11, 0, 0, 0, 0, 0, 0, 0]

theorem no_run_reprices_early_staked :
    let state : State := ⟨1000000, 0, .lido, by decide, by decide⟩
    let calls : List Call := [⟨1000, some stakedAccount⟩, ⟨300, none⟩, ⟨1601, none⟩]
    let last : Call := ⟨1601, some stakedAccount⟩
    let fresh : State := ⟨1100000, 1601, .lido, by decide, by decide⟩
    State.plain.kind = .none ∧ State.plain.after calls = State.plain ∧
    state.after calls = ⟨1100000, 1000, .lido, by decide, by decide⟩ ∧
    state.repricings (calls ++ [last]) = [1000, 1601] ∧
    (state.updated :: [1000, 1601]).IsChain (fun earlier later => earlier + lifetime < later) ∧
    state.after (calls ++ [last]) ≠ state.after calls ∧
    (state.after (calls ++ [last])).updated = 1601 ∧
    ((state.after calls).refresh 1601 last.account).outcome = .ok fresh ∧
    (1600 : Int) ≤ 1601 ∧ fresh.refresh 1600 none = pure fresh := by
  intro state calls last fresh
  have hread : state.repricings (calls ++ [last]) = [1000, 1601] := by decide +kernel
  have hbefore : state.after calls = ⟨1100000, 1000, .lido, by decide, by decide⟩ := by
    decide +kernel
  have hafter : state.after (calls ++ [last]) = fresh := by decide +kernel
  have hchanged : state.after (calls ++ [last]) ≠ state.after calls := by
    rw [hbefore, hafter]
    decide
  have hfresh : ((state.after calls).refresh 1601 last.account).outcome = .ok fresh := by
    rw [hbefore]
    decide +kernel
  obtain ⟨_, _, _, _, _, hcall, hrefresh⟩ := no_run_reprices_early state calls
  have hapart := (no_run_reprices_early state (calls ++ [last])).2.2.2.1
  rw [hread] at hapart
  exact ⟨rfl, (no_run_reprices_early State.plain calls).2.1 rfl, hbefore, hread, hapart, hchanged,
    ((hcall last).2 hchanged).2.1, hfresh, by decide,
    (hrefresh 1601 last.account fresh hfresh).2 1600 (by decide) none⟩

end State
end PoolPricing.Depeg
