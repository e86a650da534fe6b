import PoolPricing.Run
set_option autoImplicit false

namespace PoolPricing

/-- The faults of quotes on well-formed values. -/
def Fault.isRefusal : Fault → Bool
  | .tooSmall _ | .outOfDomain _ | .invariantDecreased | .unsupported _ | .missingAccount _
  | .noPriceSource _ | .foreignMint _ | .closed _ | .insufficientLiquidity _ _ | .invalid _ => true
  | .mistyped _ _ | .unusable _ | .notADocument _ | .fileMissing _ | .fractionTooLarge
  | .zeroDivisor => false

namespace Checked

variable {α β : Type} {P : α → Prop} {Q : β → Prop} {fault : Fault}

/-- A value with the property, or a refusal. -/
def Yields (x : Checked α) (P : α → Prop) : Prop :=
  match x with
  | .ok a => P a
  | .error fault => fault.isRefusal = true

theorem yields_ok {a : α} (h : P a) : Yields (.ok a) P := h

theorem yields_pure {a : α} (h : P a) : Yields (pure a) P := h

theorem Yields.mono {x : Checked α} {P' : α → Prop} (h : x.Yields P) (hP : ∀ a, P a → P' a) :
    x.Yields P' := by
  cases x with
  | ok a => exact hP a h
  | error fault => exact h

theorem Yields.any {x : Checked α} (h : x.Yields P) : x.Yields fun _ => True :=
  h.mono fun _ _ => trivial

theorem Yields.bind {x : Checked α} {f : α → Checked β} (hx : x.Yields P)
    (hf : ∀ a, P a → (f a).Yields Q) : (x >>= f).Yields Q := by
  cases x with
  | ok a => exact hf a hx
  | error fault => exact hx

theorem Yields.guard {c : Prop} [Decidable c] {f : α → Checked β} {x : Checked β}
    (hfault : fault.isRefusal = true) (hx : ¬c → x.Yields Q) :
    (if c then refuse fault >>= f else x).Yields Q := by
  split
  · exact hfault
  · exact hx ‹_›

theorem Yields.unless {c : Prop} [Decidable c] {f : α → Checked β} {x : Checked β}
    (hfault : fault.isRefusal = true) (hx : c → x.Yields Q) :
    (if c then x else refuse fault >>= f).Yields Q := by
  split
  · exact hx ‹_›
  · exact hfault

theorem Yields.ite {c : Prop} [Decidable c] {x y : Checked α} (hx : c → x.Yields P)
    (hy : ¬c → y.Yields P) : (if c then x else y).Yields P := by
  split
  · exact hx ‹_›
  · exact hy ‹_›

theorem requireNonnegative_yields (subject : String) (n : Int) :
    (requireNonnegative subject n).Yields fun _ => 0 ≤ n :=
  .ite (fun _ => rfl) fun h => Int.not_lt.mp h

theorem requireNonnegativeShown_yields (subject : String) (n : Int) :
    (requireNonnegativeShown subject n).Yields fun _ => 0 ≤ n :=
  .ite (fun _ => rfl) fun h => Int.not_lt.mp h

theorem floorDivide_yields (n : Int) {d : Int} (h : d ≠ 0) :
    (floorDivide n d).Yields fun _ => True := by
  rw [floorDivide, if_neg h]
  trivial

end Checked

namespace Run

variable {α β : Type} {P : α → Prop} {Q : β → Prop} {fault : Fault}

def Yields (x : Run α) (P : α → Prop) : Prop := x.outcome.Yields P

theorem yields_note (event : Event) : Yields (note event) fun _ => True := trivial

theorem yields_of_ok {x : Run α} {a : α} (h : x.outcome = .ok a) (ha : P a) : x.Yields P := by
  rw [Yields, h]
  exact ha

theorem Yields.lift {x : Checked α} (h : x.Yields P) : Yields (liftM x) P := h

theorem Yields.mono {x : Run α} {P' : α → Prop} (h : x.Yields P) (hP : ∀ a, P a → P' a) :
    x.Yields P' :=
  Checked.Yields.mono h hP

theorem Yields.bind {x : Run α} {f : α → Run β} (hx : x.Yields P)
    (hf : ∀ a, P a → (f a).Yields Q) : (x >>= f).Yields Q := by
  rw [Yields, outcome_bind]
  exact Checked.Yields.bind hx hf

theorem Yields.guard {c : Prop} [Decidable c] {f : α → Run β} {x : Run β}
    (hfault : fault.isRefusal = true) (hx : ¬c → x.Yields Q) :
    (if c then throw fault >>= f else x).Yields Q := by
  split
  · exact hfault
  · exact hx ‹_›

theorem Yields.ite {c : Prop} [Decidable c] {x y : Run α} (hx : c → x.Yields P)
    (hy : ¬c → y.Yields P) : (if c then x else y).Yields P := by
  split
  · exact hx ‹_›
  · exact hy ‹_›

end Run
end PoolPricing
