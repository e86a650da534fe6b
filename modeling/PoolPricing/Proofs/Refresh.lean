import PoolPricing.Proofs.Outcome
import PoolPricing.Quote.Position
set_option autoImplicit false

namespace PoolPricing

open Checked

namespace Depeg.State

variable {state after : State} {now : Int} {account : Option Bytes}

theorem isFresh_iff :
    state.isFresh now = true ↔ state.kind = .none ∨ now ≤ state.updated + lifetime := by
  simp [isFresh, isDepegged]

theorem isFresh_eq_false_iff :
    state.isFresh now = false ↔ state.kind ≠ .none ∧ state.updated + lifetime < now := by
  rw [← Bool.not_eq_true, isFresh_iff, not_or, Int.not_le]

theorem updated_lt_of_stale (h : state.isFresh now = false) : state.updated < now := by
  have := (isFresh_eq_false_iff.mp h).2
  unfold lifetime at this
  omega

theorem refresh_of_fresh (h : state.isFresh now = true) :
    state.refresh now account = pure state := by
  rw [refresh, if_pos h]

theorem ofNumbers_eq_ok {price updated : Int} {kind : Kind} :
    ofNumbers price updated kind = .ok state ↔
      state.price = price ∧ state.updated = updated ∧ state.kind = kind := by
  constructor
  · intro h
    unfold ofNumbers at h
    split at h
    · cases h
    · split at h
      · cases h
      · cases h
        exact ⟨rfl, rfl, rfl⟩
  · rintro ⟨rfl, rfl, rfl⟩
    rw [ofNumbers, dif_neg (Int.not_lt.mpr state.price_nonneg),
      dif_neg (Int.not_lt.mpr state.updated_nonneg)]
    rfl

theorem refresh_ok (h : (state.refresh now account).outcome = .ok after) :
    (state.isFresh now = true ∧ after = state) ∨
      (state.isFresh now = false ∧ Depeg.price state.kind account = .ok after.price ∧
        after.updated = now ∧ after.kind = state.kind) := by
  cases hfresh : state.isFresh now with
  | true =>
    rw [refresh_of_fresh hfresh] at h
    cases h
    exact .inl ⟨rfl, rfl⟩
  | false =>
    simp only [refresh, hfresh, Bool.false_eq_true, if_false, Run.outcome_bind, Run.outcome_liftM,
      Run.outcome_note, ok_bind, bind_eq_ok] at h
    obtain ⟨price, hprice, h⟩ := h
    obtain ⟨rfl, hupdated, hkind⟩ := ofNumbers_eq_ok.mp h
    exact .inr ⟨rfl, hprice, hupdated, hkind⟩

theorem refresh_kind (h : (state.refresh now account).outcome = .ok after) :
    after.kind = state.kind := by
  rcases refresh_ok h with ⟨_, rfl⟩ | ⟨_, _, _, hkind⟩
  · rfl
  · exact hkind

theorem updated_le_refresh (h : (state.refresh now account).outcome = .ok after) :
    state.updated ≤ after.updated := by
  rcases refresh_ok h with ⟨_, rfl⟩ | ⟨hstale, _, hupdated, _⟩
  · exact Int.le_refl _
  · rw [hupdated]
    exact Int.le_of_lt (updated_lt_of_stale hstale)

theorem isFresh_refresh (h : (state.refresh now account).outcome = .ok after) :
    after.isFresh now = true := by
  rcases refresh_ok h with ⟨hfresh, rfl⟩ | ⟨_, _, hupdated, _⟩
  · exact hfresh
  · rw [isFresh_iff, lifetime]
    omega

end Depeg.State

def Curve.withCache (curve : Curve) (state : Depeg.State) : Curve :=
  match curve with
  | .constantProduct => .constantProduct
  | .stable curve => .stable { curve with depeg := state }

@[simp] theorem Curve.depeg?_withCache (curve : Curve) (state : Depeg.State) :
    (curve.withCache state).depeg? = curve.depeg?.map fun _ => state := by
  cases curve <;> rfl

@[simp] theorem Curve.withCache_withCache (curve : Curve) (first second : Depeg.State) :
    (curve.withCache first).withCache second = curve.withCache second := by
  cases curve <;> rfl

theorem Curve.exists_withCache (curve : Curve) : ∃ state, curve = curve.withCache state := by
  cases curve with
  | constantProduct => exact ⟨.plain, rfl⟩
  | stable curve => exact ⟨curve.depeg, rfl⟩

namespace Snapshot

def withCache (snapshot : Snapshot) (state : Depeg.State) : Snapshot :=
  { snapshot with curve := snapshot.curve.withCache state }

def cache? (snapshot : Snapshot) : Option Depeg.State := snapshot.curve.depeg?

def kind? (snapshot : Snapshot) : Option Depeg.Kind := snapshot.cache?.map Depeg.State.kind

/-- No refresh at the snapshot's own time has anything to do. -/
def CacheFresh (snapshot : Snapshot) : Prop :=
  ∀ state, snapshot.cache? = some state → state.isFresh snapshot.time = true

@[simp] theorem cache?_withCache (snapshot : Snapshot) (state : Depeg.State) :
    (snapshot.withCache state).cache? = snapshot.cache?.map fun _ => state :=
  snapshot.curve.depeg?_withCache state

theorem kind?_withCache {snapshot : Snapshot} {state own : Depeg.State}
    (hown : snapshot.cache? = some own) (hkind : state.kind = own.kind) :
    (snapshot.withCache state).kind? = snapshot.kind? := by
  simp [kind?, hown, hkind]

@[simp] theorem withCache_withCache (snapshot : Snapshot) (first second : Depeg.State) :
    (snapshot.withCache first).withCache second = snapshot.withCache second := by
  simp [withCache]

theorem exists_withCache (snapshot : Snapshot) : ∃ state, snapshot = snapshot.withCache state := by
  obtain ⟨state, h⟩ := snapshot.curve.exists_withCache
  exact ⟨state, by rw [withCache, ← h]⟩

theorem account?_eq (snapshot : Snapshot) :
    snapshot.account? = snapshot.kind?.bind snapshot.sources.get? := by
  rw [account?, kind?, cache?]
  cases snapshot.curve <;> rfl

variable {snapshot fresh : Snapshot}

theorem refreshed_ok (h : snapshot.refreshed.outcome = .ok fresh) :
    (snapshot.cache? = none ∧ fresh = snapshot) ∨
      ∃ before after, snapshot.cache? = some before ∧
        (before.refresh snapshot.time snapshot.account?).outcome = .ok after ∧
        fresh = snapshot.withCache after := by
  unfold withCache cache?
  simp only [refreshed, Run.outcome_bind, Run.outcome_pure, bind_eq_ok] at h
  obtain ⟨curve, hcurve, h⟩ := h
  cases h
  cases hown : snapshot.curve with
  | constantProduct =>
    rw [hown] at hcurve
    cases hcurve
    exact .inl ⟨rfl, by rw [← hown]⟩
  | stable own =>
    rw [hown] at hcurve
    simp only [Curve.refresh, StableCurve.refresh, Run.outcome_bind, Run.outcome_pure,
      bind_eq_ok] at hcurve
    obtain ⟨_, ⟨after, hafter, h⟩, hstable⟩ := hcurve
    cases h
    cases hstable
    exact .inr ⟨own.depeg, after, rfl, hafter, rfl⟩

theorem cacheFresh_of_refreshed (h : snapshot.refreshed.outcome = .ok fresh) :
    fresh.CacheFresh := by
  intro state hstate
  rcases refreshed_ok h with ⟨hnone, rfl⟩ | ⟨before, after, hbefore, hafter, rfl⟩
  · rw [hnone] at hstate
    contradiction
  · rw [cache?_withCache, hbefore] at hstate
    cases hstate
    exact Depeg.State.isFresh_refresh hafter

theorem refreshed_of_cacheFresh (h : snapshot.CacheFresh) : snapshot.refreshed = pure snapshot := by
  obtain ⟨a, b, curve, fees, enabled, lpSupply, time, sources, clock, opens, slot, hmints⟩ :=
    snapshot
  cases curve with
  | constantProduct => rfl
  | stable curve =>
    have hfresh := h curve.depeg rfl
    simp only [refreshed, Curve.refresh, StableCurve.refresh, Depeg.State.refresh_of_fresh hfresh,
      pure_bind]

theorem refreshed_idempotent (h : snapshot.refreshed.outcome = .ok fresh) :
    fresh.refreshed = pure fresh :=
  refreshed_of_cacheFresh (cacheFresh_of_refreshed h)

/-- A refresh changes nothing but the cache. -/
theorem refreshed_withCache (h : snapshot.refreshed.outcome = .ok fresh) :
    ∃ state, fresh = snapshot.withCache state := by
  rcases refreshed_ok h with ⟨_, rfl⟩ | ⟨_, after, _, _, rfl⟩
  · exact fresh.exists_withCache
  · exact ⟨after, rfl⟩

theorem refreshed_positions (h : snapshot.refreshed.outcome = .ok fresh) :
    fresh.positions = snapshot.positions ∧ fresh.fees = snapshot.fees := by
  obtain ⟨_, rfl⟩ := refreshed_withCache h
  exact ⟨rfl, rfl⟩

theorem refreshed_lpSupply (h : snapshot.refreshed.outcome = .ok fresh) :
    fresh.lpSupply = snapshot.lpSupply := by
  obtain ⟨_, rfl⟩ := refreshed_withCache h
  rfl

theorem refreshed_directionOf (h : snapshot.refreshed.outcome = .ok fresh) (mint : String) :
    fresh.directionOf mint = snapshot.directionOf mint := by
  obtain ⟨_, rfl⟩ := refreshed_withCache h
  rfl

theorem refreshed_constantProduct (h : snapshot.refreshed.outcome = .ok fresh)
    (hcurve : snapshot.curve = .constantProduct) : fresh.curve = .constantProduct := by
  obtain ⟨_, rfl⟩ := refreshed_withCache h
  rw [withCache, hcurve]
  rfl

end Snapshot
end PoolPricing
