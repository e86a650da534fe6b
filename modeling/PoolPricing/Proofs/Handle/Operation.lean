import PoolPricing.Handle
import PoolPricing.Proofs.Refresh
set_option autoImplicit false

namespace PoolPricing

theorem Run.outcome_map {α β : Type} (f : α → β) (x : Run α) :
    (f <$> x).outcome = f <$> x.outcome := by
  obtain ⟨outcome, events⟩ := x
  cases outcome <;> rfl

namespace Handle

inductive Request where
  | info
  | swap (mint : String) (amount : Int) (slippage : Option Int)
  | deposit (amountA amountB : Int) (balanced : Bool) (slippage : Option Int)
  | withdrawal (burned : Int) (mint : Option String) (slippage : Option Int)
  | greatestIn (mint : String)
  deriving DecidableEq, Repr

inductive Operation where
  | update (snapshot : Snapshot)
  | refresh
  | ask (request : Request)
  | greatestOut (mint : String)
  deriving DecidableEq, Repr

inductive Answer where
  | updated
  | refreshed (cache : Option Depeg.State)
  | info (info : PoolInfo)
  | swap (quote : SwapQuote)
  | deposit (quote : DepositQuote)
  | withdrawal (quote : WithdrawalQuote)
  | amount (amount : Int)
  deriving DecidableEq

def reply {α : Type} (wrap : α → Answer) (result : Handle × Run α) : Handle × Run Answer :=
  (result.1, wrap <$> result.2)

def ask (handle : Handle) : Request → Handle × Run Answer
  | .info => reply .info handle.info
  | .swap mint amount slippage => reply .swap (handle.swapQuote mint amount slippage)
  | .deposit amountA amountB balanced slippage =>
    reply .deposit (handle.depositQuote amountA amountB balanced slippage)
  | .withdrawal burned mint slippage =>
    reply .withdrawal (handle.withdrawalQuote burned mint slippage)
  | .greatestIn mint => reply .amount (handle.greatestIn mint)

/-- What the snapshot alone answers, the standing slippage being used where none is given. -/
def Request.answer (request : Request) (settings : Settings) (snapshot : Snapshot) : Run Answer :=
  match request with
  | .info => .info <$> snapshot.info
  | .swap mint amount slippage =>
    .swap <$> snapshot.swapQuote mint amount (slippage.getD settings.slippage)
  | .deposit amountA amountB balanced slippage =>
    .deposit <$> snapshot.depositQuote amountA amountB balanced (slippage.getD settings.slippage)
  | .withdrawal burned mint slippage =>
    .withdrawal <$> snapshot.withdrawalQuote burned (slippage.getD settings.slippage) mint
  | .greatestIn mint => .amount <$> snapshot.greatestIn mint

def perform (handle : Handle) : Operation → Handle × Run Answer
  | .update snapshot => reply (fun _ => .updated) (handle.update snapshot)
  | .refresh => reply .refreshed handle.refresh
  | .ask request => handle.ask request
  | .greatestOut mint => reply .amount (handle.greatestOut mint)

/-- The handle after a history of operations, failed ones among them. -/
def after (handle : Handle) (operations : List Operation) : Handle :=
  operations.foldl (fun handle operation => (handle.perform operation).1) handle

def Operation.refreshes : Operation → Bool
  | .update _ | .greatestOut _ => false
  | .refresh | .ask _ => true

def Operation.snapshot? : Operation → Option Snapshot
  | .update snapshot => some snapshot
  | .refresh | .ask _ | .greatestOut _ => none

def installed (operations : List Operation) : List Snapshot :=
  operations.filterMap Operation.snapshot?

@[simp] theorem after_nil (handle : Handle) : handle.after [] = handle := rfl

@[simp] theorem after_cons (handle : Handle) (operation : Operation) (rest : List Operation) :
    handle.after (operation :: rest) = (handle.perform operation).1.after rest := rfl

theorem installed_cons (operation : Operation) (rest : List Operation) :
    installed (operation :: rest) = operation.snapshot?.toList ++ installed rest := by
  cases h : operation.snapshot? <;> simp [installed, h]

theorem after_append (handle : Handle) (earlier later : List Operation) :
    handle.after (earlier ++ later) = (handle.after earlier).after later :=
  List.foldl_append

theorem refresh_cases (handle : Handle) :
    (∃ fresh, handle.snapshot.refreshed.outcome = .ok fresh ∧
      handle.refresh.1 = { handle with snapshot := fresh } ∧
      handle.refresh.2.outcome = .ok fresh.cache?) ∨
    (∃ fault, handle.snapshot.refreshed.outcome = .error fault ∧ handle.refresh.1 = handle ∧
      handle.refresh.2.outcome = .error fault) := by
  cases h : handle.snapshot.refreshed.outcome with
  | ok fresh => exact .inl ⟨fresh, rfl, by simp [refresh, h], by simp [refresh, h, Snapshot.cache?]⟩
  | error fault => exact .inr ⟨fault, rfl, by simp [refresh, h], by simp [refresh, h]⟩

theorem refresh_ok {handle : Handle} {cache : Option Depeg.State}
    (h : handle.refresh.2.outcome = .ok cache) :
    ∃ fresh, handle.snapshot.refreshed.outcome = .ok fresh ∧
      handle.refresh.1 = { handle with snapshot := fresh } := by
  rcases handle.refresh_cases with ⟨fresh, hfresh, hafter, _⟩ | ⟨fault, _, _, hfault⟩
  · exact ⟨fresh, hfresh, hafter⟩
  · rw [h] at hfault
    contradiction

theorem refresh_error {handle : Handle} {fault : Fault}
    (h : handle.refresh.2.outcome = .error fault) :
    handle.snapshot.refreshed.outcome = .error fault := by
  rcases handle.refresh_cases with ⟨fresh, _, _, hfresh⟩ | ⟨_, hsnapshot, _, hfault⟩
  · rw [h] at hfresh
    contradiction
  · rw [h] at hfault
    cases hfault
    exact hsnapshot

@[simp] theorem settings_refresh (handle : Handle) :
    handle.refresh.1.settings = handle.settings := by
  rcases handle.refresh_cases with ⟨_, _, h, _⟩ | ⟨_, _, h, _⟩ <;> rw [h]

theorem ask_outcome (handle : Handle) (request : Request) :
    (handle.ask request).2.outcome =
      handle.refresh.2.outcome >>= fun _ =>
        (request.answer handle.settings handle.refresh.1.snapshot).outcome := by
  cases request <;>
    simp [ask, reply, Request.answer, info, swapQuote, depositQuote, withdrawalQuote, greatestIn,
      quote, slippageOr, Run.outcome_map]

theorem ask_fst (handle : Handle) (request : Request) :
    (handle.ask request).1 = handle.refresh.1 := by
  cases request <;> rfl

theorem perform_fst {operation : Operation} (h : operation.refreshes = true) (handle : Handle) :
    (handle.perform operation).1 = handle.refresh.1 := by
  cases operation with
  | update snapshot => contradiction
  | refresh => rfl
  | ask request => exact handle.ask_fst request
  | greatestOut mint => contradiction

theorem carryCache_cases (held curve : Curve) :
    (∃ old new, held.depeg? = some old ∧ curve.depeg? = some new ∧ old.kind = new.kind ∧
      new.updated < old.updated ∧ (carryCache held curve).1 = curve.withCache old) ∨
    ((∀ old new, held.depeg? = some old → curve.depeg? = some new → old.kind = new.kind →
      old.updated ≤ new.updated) ∧ (carryCache held curve).1 = curve) := by
  cases held with
  | constantProduct => exact .inr ⟨by simp [Curve.depeg?], rfl⟩
  | stable old =>
    cases curve with
    | constantProduct => exact .inr ⟨by simp [Curve.depeg?], rfl⟩
    | stable new =>
      by_cases hkeep : old.depeg.kind = new.depeg.kind ∧ new.depeg.updated < old.depeg.updated
      · refine .inl ⟨old.depeg, new.depeg, rfl, rfl, hkeep.1, hkeep.2, ?_⟩
        simp [carryCache, hkeep, Curve.withCache]
      · refine .inr ⟨?_, by simp [carryCache, hkeep]⟩
        rintro _ _ ⟨⟩ ⟨⟩ hkind
        have hnewer := not_and.mp hkeep hkind
        omega

theorem update_cases (handle : Handle) (snapshot : Snapshot) :
    (∃ old new, handle.snapshot.cache? = some old ∧ snapshot.cache? = some new ∧
      old.kind = new.kind ∧ new.updated < old.updated ∧
      (handle.update snapshot).1 = { handle with snapshot := snapshot.withCache old }) ∨
    ((∀ old new, handle.snapshot.cache? = some old → snapshot.cache? = some new →
      old.kind = new.kind → old.updated ≤ new.updated) ∧
      (handle.update snapshot).1 = { handle with snapshot }) := by
  rcases carryCache_cases handle.snapshot.curve snapshot.curve with
    ⟨old, new, hold, hnew, hkind, hnewer, hcurve⟩ | ⟨holder, hcurve⟩
  · exact .inl ⟨old, new, hold, hnew, hkind, hnewer, by rw [update, hcurve]; rfl⟩
  · exact .inr ⟨holder, by rw [update, hcurve]⟩

end Handle
end PoolPricing
