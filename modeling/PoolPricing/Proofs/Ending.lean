import PoolPricing.Run
set_option autoImplicit false

namespace PoolPricing

namespace Checked

variable {α β γ : Type} {failing : Fault → Prop} {P P' : α → Prop} {Q : β → Prop} {fault : Fault}

/-- A value with the property, or a fault of the kind. -/
inductive Ends (failing : Fault → Prop) (P : α → Prop) : Checked α → Prop where
  | ok {a : α} (value : P a) : Ends failing P (.ok a)
  | error {fault : Fault} (fails : failing fault) : Ends failing P (.error fault)

theorem Ends.of_ok {a : α} (h : Ends failing P (.ok a)) : P a := by
  cases h with
  | ok value => exact value

theorem Ends.of_error (h : Ends failing P (.error fault)) : failing fault := by
  cases h with
  | error fails => exact fails

theorem Ends.mono {x : Checked α} (h : x.Ends failing P) (hP : ∀ a, P a → P' a) :
    x.Ends failing P' := by
  cases h with
  | ok value => exact .ok (hP _ value)
  | error fails => exact .error fails

theorem Ends.any {x : Checked α} (h : x.Ends failing P) : x.Ends failing fun _ => True :=
  h.mono fun _ _ => trivial

theorem Ends.bind {x : Checked α} {f : α → Checked β} (hx : x.Ends failing P)
    (hf : ∀ a, P a → (f a).Ends failing Q) : (x >>= f).Ends failing Q := by
  cases hx with
  | ok value => exact hf _ value
  | error fails => exact .error fails

theorem Ends.ite {c : Prop} [Decidable c] {x y : Checked α} (hx : c → x.Ends failing P)
    (hy : ¬c → y.Ends failing P) : (if c then x else y).Ends failing P := by
  split
  · exact hx ‹_›
  · exact hy ‹_›

theorem Ends.guard {c : Prop} [Decidable c] {f : γ → Checked α} {x : Checked α}
    (hfault : failing fault) (hx : ¬c → x.Ends failing P) :
    (if c then refuse fault >>= f else x).Ends failing P :=
  .ite (fun _ => .error hfault) hx

end Checked

namespace Run

variable {α β γ : Type} {failing : Fault → Prop} {P : α → Prop} {Q : β → Prop} {fault : Fault}

def Ends (failing : Fault → Prop) (P : α → Prop) (x : Run α) : Prop := x.outcome.Ends failing P

theorem Ends.lift {x : Checked α} (h : x.Ends failing P) : Ends failing P (liftM x) := h

theorem Ends.bind {x : Run α} {f : α → Run β} (hx : x.Ends failing P)
    (hf : ∀ a, P a → (f a).Ends failing Q) : (x >>= f).Ends failing Q := by
  rw [Ends, outcome_bind]
  exact Checked.Ends.bind hx hf

theorem Ends.ite {c : Prop} [Decidable c] {x y : Run α} (hx : c → x.Ends failing P)
    (hy : ¬c → y.Ends failing P) : (if c then x else y).Ends failing P := by
  split
  · exact hx ‹_›
  · exact hy ‹_›

theorem Ends.guard {c : Prop} [Decidable c] {f : γ → Run α} {x : Run α}
    (hfault : failing fault) (hx : ¬c → x.Ends failing P) :
    (if c then throw fault >>= f else x).Ends failing P :=
  .ite (fun _ => .error hfault) hx

end Run
end PoolPricing
