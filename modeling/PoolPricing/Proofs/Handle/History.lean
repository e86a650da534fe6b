import PoolPricing.Proofs.CurveScale
import PoolPricing.Proofs.Handle.Operation
import PoolPricing.Proofs.SwapQuote
set_option autoImplicit false

/-!
What outlives a snapshot. Over any history, a handle holds the snapshot installed last in all but
its cache, and the cache is always one that a single snapshot accounts for: its price, its time and
its kind were carried together or read together. Its time never goes back while the snapshots are of
one kind.
-/

namespace PoolPricing

/-- The caches that a snapshot accounts for: the one it carries, and the one read from its own
account at its own time. -/
inductive Snapshot.Vouches (snapshot : Snapshot) (state : Depeg.State) : Prop where
  | carried (cache : snapshot.cache? = some state)
  | read (kind : snapshot.kind? = some state.kind)
      (price : Depeg.price state.kind snapshot.account? = .ok state.price)
      (updated : state.updated = snapshot.time)

namespace Handle

/-- The snapshot installed last, be it the first one of all. -/
def lastInstalled (first : Snapshot) (operations : List Operation) : Snapshot :=
  operations.foldl (fun last operation => operation.snapshot?.getD last) first

/-- A handle that holds `last`, perhaps with another cache of its kind, and a cache that one of the
snapshots `supplied` accounts for. -/
structure Follows (handle : Handle) (last : Snapshot) (supplied : List Snapshot) : Prop where
  last_mem : last ∈ supplied
  held : ∃ state, handle.snapshot = last.withCache state
  kind : handle.snapshot.kind? = last.kind?
  vouched : ∀ state, handle.snapshot.cache? = some state →
    ∃ snapshot ∈ supplied, snapshot.Vouches state

section

variable {handle : Handle} {last : Snapshot} {supplied : List Snapshot}
  (h : handle.Follows last supplied)
include h

theorem Follows.account : handle.snapshot.account? = last.account? := by
  obtain ⟨state, hheld⟩ := h.held
  have hsources : handle.snapshot.sources = last.sources := by
    rw [hheld]
    rfl
  rw [Snapshot.account?_eq, Snapshot.account?_eq, h.kind, hsources]

theorem Follows.time : handle.snapshot.time = last.time := by
  obtain ⟨state, hheld⟩ := h.held
  rw [hheld]
  rfl

theorem follows_refresh : handle.refresh.1.Follows last supplied := by
  rcases handle.refresh_cases with ⟨fresh, hfresh, hafter, _⟩ | ⟨fault, _, hafter, _⟩
  · rw [hafter]
    rcases Snapshot.refreshed_ok hfresh with ⟨_, rfl⟩ | ⟨before, after, hbefore, hread, rfl⟩
    · exact h
    · have hkind := Depeg.State.refresh_kind hread
      refine ⟨h.last_mem, ?_, ?_, ?_⟩
      · obtain ⟨state, hheld⟩ := h.held
        exact ⟨after, by rw [hheld, Snapshot.withCache_withCache]⟩
      · rw [← h.kind]
        exact Snapshot.kind?_withCache hbefore hkind
      · intro state hstate
        obtain rfl : after = state := by simpa [hbefore] using hstate
        rcases Depeg.State.refresh_ok hread with ⟨_, rfl⟩ | ⟨_, hprice, hupdated, _⟩
        · exact h.vouched _ hbefore
        · refine ⟨last, h.last_mem, .read ?_ ?_ ?_⟩
          · rw [← h.kind, Snapshot.kind?, hbefore, hkind]
            rfl
          · rw [hkind, ← h.account, hprice]
          · rw [hupdated, h.time]
  · rw [hafter]
    exact h

theorem follows_update (snapshot : Snapshot) :
    (handle.update snapshot).1.Follows snapshot (supplied ++ [snapshot]) := by
  rcases handle.update_cases snapshot with ⟨old, new, hold, hnew, hkind, _, hafter⟩ | ⟨_, hafter⟩
  · rw [hafter]
    refine ⟨by simp, ⟨old, rfl⟩, Snapshot.kind?_withCache hnew hkind, ?_⟩
    intro state hstate
    obtain rfl : old = state := by simpa [hnew] using hstate
    obtain ⟨source, hsource, hvouches⟩ := h.vouched old hold
    exact ⟨source, by simp [hsource], hvouches⟩
  · rw [hafter]
    exact ⟨by simp, snapshot.exists_withCache, rfl,
      fun state hstate => ⟨snapshot, by simp, .carried hstate⟩⟩

theorem follows_perform (operation : Operation) :
    (handle.perform operation).1.Follows (operation.snapshot?.getD last)
      (supplied ++ operation.snapshot?.toList) := by
  cases operation with
  | update snapshot => exact follows_update h snapshot
  | refresh =>
    rw [perform_fst rfl]
    simpa [Operation.snapshot?] using follows_refresh h
  | ask request =>
    rw [perform_fst rfl]
    simpa [Operation.snapshot?] using follows_refresh h
  | greatestOut mint =>
    rw [show (handle.perform (.greatestOut mint)).1 = handle from rfl]
    simpa [Operation.snapshot?] using h

end

theorem follows_after {handle : Handle} {last : Snapshot} {supplied : List Snapshot}
    (h : handle.Follows last supplied) (operations : List Operation) :
    (handle.after operations).Follows (lastInstalled last operations)
      (supplied ++ installed operations) := by
  induction operations generalizing handle last supplied with
  | nil => simpa [lastInstalled, installed] using h
  | cons operation rest ih =>
    rw [installed_cons, ← List.append_assoc]
    exact ih (follows_perform h operation)

theorem follows_first (settings : Settings) (first : Snapshot) :
    (⟨settings, first⟩ : Handle).Follows first [first] :=
  ⟨by simp, first.exists_withCache, rfl, fun _ hstate => ⟨first, by simp, .carried hstate⟩⟩

section

variable {handle : Handle} {old : Depeg.State} (hold : handle.snapshot.cache? = some old)
include hold

theorem updated_le_refresh : ∃ new, handle.refresh.1.snapshot.cache? = some new ∧
    new.kind = old.kind ∧ old.updated ≤ new.updated := by
  rcases handle.refresh_cases with ⟨fresh, hfresh, hafter, _⟩ | ⟨fault, _, hafter, _⟩
  · rw [hafter]
    rcases Snapshot.refreshed_ok hfresh with ⟨_, rfl⟩ | ⟨before, after, hbefore, hread, rfl⟩
    · exact ⟨old, hold, rfl, Int.le_refl _⟩
    · obtain rfl : before = old := by simpa [hbefore] using hold
      exact ⟨after, by simp [hbefore], Depeg.State.refresh_kind hread,
        Depeg.State.updated_le_refresh hread⟩
  · rw [hafter]
    exact ⟨old, hold, rfl, Int.le_refl _⟩

theorem updated_le_update {snapshot : Snapshot} (hkind : snapshot.kind? = some old.kind) :
    ∃ new, (handle.update snapshot).1.snapshot.cache? = some new ∧
      new.kind = old.kind ∧ old.updated ≤ new.updated := by
  obtain ⟨own, hown, hsame⟩ := Option.map_eq_some_iff.mp hkind
  rcases handle.update_cases snapshot with ⟨held, _, hheld, _, _, _, hafter⟩ | ⟨hnewer, hafter⟩
  · obtain rfl : held = old := by simpa [hheld] using hold
    rw [hafter]
    exact ⟨held, by simp [hown], rfl, Int.le_refl _⟩
  · rw [hafter]
    exact ⟨own, hown, hsame, hnewer old own hold hown hsame.symm⟩

theorem updated_le_perform (operation : Operation)
    (hkind : ∀ snapshot, operation.snapshot? = some snapshot → snapshot.kind? = some old.kind) :
    ∃ new, (handle.perform operation).1.snapshot.cache? = some new ∧
      new.kind = old.kind ∧ old.updated ≤ new.updated := by
  cases operation with
  | update snapshot => exact updated_le_update hold (hkind snapshot rfl)
  | refresh =>
    rw [perform_fst rfl]
    exact updated_le_refresh hold
  | ask request =>
    rw [perform_fst rfl]
    exact updated_le_refresh hold
  | greatestOut mint => exact ⟨old, hold, rfl, Int.le_refl _⟩

end

theorem updated_le_after {handle : Handle} {old : Depeg.State} {operations : List Operation}
    (hold : handle.snapshot.cache? = some old)
    (hkind : ∀ snapshot ∈ installed operations, snapshot.kind? = some old.kind) :
    ∃ new, (handle.after operations).snapshot.cache? = some new ∧ old.updated ≤ new.updated := by
  induction operations generalizing handle old with
  | nil => exact ⟨old, hold, Int.le_refl _⟩
  | cons operation rest ih =>
    rw [installed_cons] at hkind
    obtain ⟨next, hnext, hsame, hle⟩ := updated_le_perform hold operation
      fun snapshot hsnapshot => hkind snapshot (by simp [hsnapshot])
    obtain ⟨new, hnew, hle'⟩ := ih hnext fun snapshot hsnapshot => by
      rw [hsame]
      exact hkind snapshot (by simp [hsnapshot])
    exact ⟨new, hnew, Int.le_trans hle hle'⟩

theorem perform_error {handle : Handle} {operation : Operation} {fault : Fault}
    (h : (handle.perform operation).2.outcome = .error fault) :
    (handle.perform operation).1 = handle ∨ (handle.perform operation).1 = handle.refresh.1 := by
  cases operation with
  | update snapshot => contradiction
  | refresh => exact .inr rfl
  | ask request => exact .inr (perform_fst rfl handle)
  | greatestOut mint => exact .inl rfl

theorem perform_ok {handle : Handle} {operation : Operation} {answer : Answer}
    (hrefreshes : operation.refreshes = true)
    (h : (handle.perform operation).2.outcome = .ok answer) :
    (handle.perform operation).1.snapshot.CacheFresh := by
  rw [perform_fst hrefreshes]
  rcases handle.refresh_cases with ⟨fresh, hfresh, hafter, _⟩ | ⟨fault, _, _, hfault⟩
  · rw [hafter]
    exact Snapshot.cacheFresh_of_refreshed hfresh
  · cases operation with
    | update snapshot => contradiction
    | refresh =>
      rw [perform, reply, Run.outcome_map, hfault] at h
      contradiction
    | ask request =>
      rw [perform, ask_outcome, hfault] at h
      contradiction
    | greatestOut mint => contradiction

/-- Over any history from any first snapshot: the handle holds the snapshot installed last in all
but its cache; one of the snapshots supplied accounts for the cache as a whole; the cache is never
set back while the snapshots are of one kind; an operation that fails has at most refreshed; and one
that succeeds after a refresh leaves the cache fresh. -/
theorem no_history_tears_cache (settings : Settings) (first : Snapshot) :
    (∀ operations : List Operation,
      (∃ state, (after ⟨settings, first⟩ operations).snapshot =
        (lastInstalled first operations).withCache state) ∧
      ∀ state, (after ⟨settings, first⟩ operations).depeg? = some state →
        ∃ snapshot ∈ first :: installed operations, snapshot.Vouches state) ∧
    (∀ (earlier later : List Operation) (kind : Depeg.Kind),
      (∀ snapshot ∈ lastInstalled first earlier :: installed later,
        snapshot.kind? = some kind) →
      ∃ old new, (after ⟨settings, first⟩ earlier).depeg? = some old ∧
        (after ⟨settings, first⟩ (earlier ++ later)).depeg? = some new ∧
        old.updated ≤ new.updated) ∧
    (∀ (earlier : List Operation) (operation : Operation) (fault : Fault),
      ((after ⟨settings, first⟩ earlier).perform operation).2.outcome = .error fault →
      after ⟨settings, first⟩ (earlier ++ [operation]) = after ⟨settings, first⟩ earlier ∨
      after ⟨settings, first⟩ (earlier ++ [operation]) =
        (after ⟨settings, first⟩ earlier).refresh.1) ∧
    (∀ (earlier : List Operation) (operation : Operation) (answer : Answer),
      operation.refreshes = true →
      ((after ⟨settings, first⟩ earlier).perform operation).2.outcome = .ok answer →
      (after ⟨settings, first⟩ (earlier ++ [operation])).snapshot.CacheFresh) := by
  have hfollows := follows_after (follows_first settings first)
  refine ⟨fun operations => ⟨(hfollows operations).held, (hfollows operations).vouched⟩,
    fun earlier later kind hkind => ?_, fun earlier operation fault hfault => ?_,
    fun earlier operation answer hrefreshes hanswer => ?_⟩
  · have hlast := hkind _ List.mem_cons_self
    rw [← (hfollows earlier).kind] at hlast
    obtain ⟨old, hold, rfl⟩ := Option.map_eq_some_iff.mp hlast
    obtain ⟨new, hnew, hle⟩ := updated_le_after hold
      fun snapshot hsnapshot => hkind snapshot (List.mem_cons_of_mem _ hsnapshot)
    exact ⟨old, new, hold, by rwa [after_append], hle⟩
  · rw [after_append]
    exact perform_error hfault
  · rw [after_append]
    exact perform_ok hrefreshes hanswer

def stakedSnapshot (time updated : Word) : Snapshot :=
  { Snapshot.million with
    curve := .stable (.hundredfold (.ofDecimals 6 6)
      ⟨1000000, updated, .lido, Word.million.nonneg, updated.nonneg⟩)
    fees := .ofStableSwap
    time := time
    sources :=
      [(.lido, List.replicate 73 0 ++ [10, 0, 0, 0, 0, 0, 0, 0, 11, 0, 0, 0, 0, 0, 0, 0])] }

theorem no_history_tears_cache_staked :
    let first := stakedSnapshot ⟨1000, by decide, by decide⟩ .zero
    let second := stakedSnapshot ⟨1200, by decide, by decide⟩ ⟨500, by decide, by decide⟩
    let handle := after ⟨.standard, first⟩
    (handle [.refresh]).depeg? = some ⟨1100000, 1000, .lido, by decide, by decide⟩ ∧
    (∀ snapshot ∈ lastInstalled first [.refresh] :: installed [.update second],
      snapshot.kind? = some .lido) ∧
    (∃ old new, (handle [.refresh]).depeg? = some old ∧
      (handle ([.refresh] ++ [.update second])).depeg? = some new ∧ old.updated ≤ new.updated) ∧
    ((handle [.refresh]).perform (.ask (.swap "A" 0 none))).2.outcome =
      .error (.tooSmall (.inputNotPositive (.whole 0))) ∧
    (handle ([.refresh] ++ [.ask (.swap "A" 0 none)]) = handle [.refresh] ∨
      handle ([.refresh] ++ [.ask (.swap "A" 0 none)]) = (handle [.refresh]).refresh.1) ∧
    ((handle []).perform .refresh).2.outcome =
      .ok (.refreshed (some ⟨1100000, 1000, .lido, by decide, by decide⟩)) ∧
    (handle ([] ++ [.refresh])).snapshot.CacheFresh := by
  intro first second handle
  have hkind : ∀ snapshot ∈ lastInstalled first [.refresh] :: installed [.update second],
      snapshot.kind? = some .lido := by
    change ∀ snapshot ∈ [first, second], snapshot.kind? = some .lido
    intro snapshot hsnapshot
    rcases List.mem_cons.mp hsnapshot with rfl | hsnapshot
    · rfl
    · obtain rfl := List.mem_singleton.mp hsnapshot
      rfl
  have hfault : ((handle [.refresh]).perform (.ask (.swap "A" 0 none))).2.outcome =
      .error (.tooSmall (.inputNotPositive (.whole 0))) := by decide +kernel
  have hanswer : ((handle []).perform .refresh).2.outcome =
      .ok (.refreshed (some ⟨1100000, 1000, .lido, by decide, by decide⟩)) := by decide +kernel
  obtain ⟨_, hupdated, herror, hok⟩ := no_history_tears_cache .standard first
  exact ⟨by decide +kernel, hkind, hupdated _ _ _ hkind, hfault, herror _ _ _ hfault, hanswer,
    hok _ _ _ rfl hanswer⟩

end Handle
end PoolPricing
