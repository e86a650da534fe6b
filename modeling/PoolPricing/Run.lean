import PoolPricing.Checked
set_option autoImplicit false

/-!
Runs: a result or a fault, together with the events noted on the way there. The events of a run that
fails are those noted before the failure. `outcome_bind` says that events have no influence on
results.
-/

namespace PoolPricing

inductive Solver where
  | invariant
  | balance
  deriving DecidableEq, Repr

inductive Event where
  | unconverged (solver : Solver)
  | priced (kind : Depeg.Kind) (oldPrice price oldUpdated updated : Int)
  | cacheRefreshed (time oldPrice price : Int)
  | cacheKept (updated : Int)
  | snapshotLoaded (path curve : String) (lpSupply time : Int)
  deriving DecidableEq, Repr

def Solver.word : Solver → String
  | .invariant => "compute_d"
  | .balance => "compute_y"

def Event.message : Event → String
  | .unconverged solver => solver.word ++ " did not converge in 20 iterations"
  | .priced kind oldPrice price oldUpdated updated =>
    "depeg cache refreshed type=" ++ kind.label ++ " price=" ++ toString oldPrice ++ "->" ++
      toString price ++ " updated=" ++ toString oldUpdated ++ "->" ++ toString updated
  | .cacheRefreshed time oldPrice price =>
    "depeg cache refreshed at " ++ toString time ++ ": " ++ toString oldPrice ++ " -> " ++
      toString price
  | .cacheKept updated => "kept cached depeg price updated=" ++ toString updated
  | .snapshotLoaded path curve lpSupply time =>
    "loaded snapshot " ++ path ++ " curve=" ++ curve ++ " lp_supply=" ++ toString lpSupply ++
      " time=" ++ toString time

structure Run (α : Type) where
  outcome : Checked α
  events : List Event

namespace Run

variable {α β : Type}

def succeed (a : α) : Run α := ⟨.ok a, []⟩

def fail (fault : Fault) : Run α := ⟨.error fault, []⟩

def note (event : Event) : Run Unit := ⟨.ok (), [event]⟩

def lift (outcome : Checked α) : Run α := ⟨outcome, []⟩

def andThen (x : Run α) (f : α → Run β) : Run β :=
  match x.outcome with
  | .error fault => ⟨.error fault, x.events⟩
  | .ok a => ⟨(f a).outcome, x.events ++ (f a).events⟩

instance : Monad Run where
  pure := succeed
  bind := andThen

instance : MonadLift (Except Fault) Run := ⟨lift⟩

instance : MonadExcept Fault Run where
  throw := fail
  tryCatch x handler :=
    match x.outcome with
    | .error fault => ⟨(handler fault).outcome, x.events ++ (handler fault).events⟩
    | .ok _ => x

@[ext] theorem ext {x y : Run α} (outcome : x.outcome = y.outcome) (events : x.events = y.events) :
    x = y := by
  cases x; cases y; simp_all

@[simp] theorem outcome_pure (a : α) : (pure a : Run α).outcome = .ok a := rfl

@[simp] theorem events_pure (a : α) : (pure a : Run α).events = [] := rfl

@[simp] theorem outcome_throw (fault : Fault) :
    (throw fault : Run α).outcome = .error fault := rfl

@[simp] theorem events_throw (fault : Fault) : (throw fault : Run α).events = [] := rfl

@[simp] theorem outcome_lift (x : Checked α) : (lift x).outcome = x := rfl

@[simp] theorem events_lift (x : Checked α) : (lift x).events = [] := rfl

@[simp] theorem outcome_liftM (x : Checked α) : (liftM x : Run α).outcome = x := rfl

@[simp] theorem events_liftM (x : Checked α) : (liftM x : Run α).events = [] := rfl

@[simp] theorem outcome_note (event : Event) : (note event).outcome = .ok () := rfl

@[simp] theorem events_note (event : Event) : (note event).events = [event] := rfl

/-- The result of a sequence depends on the results of its parts alone. -/
@[simp] theorem outcome_bind (x : Run α) (f : α → Run β) :
    (x >>= f).outcome = x.outcome >>= fun a => (f a).outcome := by
  obtain ⟨outcome, events⟩ := x
  cases outcome <;> rfl

@[simp] theorem outcome_ite (c : Prop) [Decidable c] (x y : Run α) :
    (if c then x else y).outcome = if c then x.outcome else y.outcome := by
  split <;> rfl

theorem bind_of_ok {x : Run α} {a : α} (h : x.outcome = .ok a) (f : α → Run β) :
    x >>= f = ⟨(f a).outcome, x.events ++ (f a).events⟩ := by
  obtain ⟨outcome, events⟩ := x
  cases h
  rfl

theorem bind_of_error {x : Run α} {fault : Fault} (h : x.outcome = .error fault)
    (f : α → Run β) : x >>= f = ⟨.error fault, x.events⟩ := by
  obtain ⟨outcome, events⟩ := x
  cases h
  rfl

instance : LawfulMonad Run := by
  refine LawfulMonad.mk' Run ?_ ?_ ?_
  · intro α x
    obtain ⟨outcome, events⟩ := x
    cases outcome <;> simp [Functor.map, andThen, succeed]
  · intro α β a f
    simp [bind, pure, andThen, succeed]
  · intro α β γ x f g
    obtain ⟨outcome, events⟩ := x
    cases outcome with
    | error fault => rfl
    | ok a =>
      cases h : (f a).outcome with
      | error fault => simp [bind, andThen, h]
      | ok b => simp [bind, andThen, h]

end Run
end PoolPricing
