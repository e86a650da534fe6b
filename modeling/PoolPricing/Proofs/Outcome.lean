import PoolPricing.Run
set_option autoImplicit false

namespace PoolPricing

namespace Checked

variable {α β : Type}

theorem bind_eq_ok {x : Checked α} {f : α → Checked β} {b : β} :
    x >>= f = .ok b ↔ ∃ a, x = .ok a ∧ f a = .ok b := by
  cases x with
  | error fault => simp [bind, Except.bind]
  | ok a => simp [bind, Except.bind]

theorem pure_eq_ok {a b : α} : (pure a : Checked α) = .ok b ↔ a = b :=
  ⟨fun h => Except.ok.inj h, fun h => h ▸ rfl⟩

theorem refuse_bind {fault : Fault} {f : α → Checked β} :
    (refuse fault : Checked α) >>= f = .error fault := rfl

theorem guard_eq_ok {c : Prop} [Decidable c] {fault : Fault} {x : Checked α} {a : α} :
    (if c then .error fault else x) = .ok a ↔ ¬c ∧ x = .ok a := by
  by_cases h : c <;> simp [h]

theorem requireNonnegative_eq_ok {subject : String} {n : Int} {u : Unit} :
    requireNonnegative subject n = .ok u ↔ 0 ≤ n := by
  by_cases h : n < 0
  · simp [requireNonnegative, h]
  · simp [requireNonnegative, h, pure, Except.pure]; omega

theorem requireNonnegativeShown_eq_ok {subject : String} {n : Int} {u : Unit} :
    requireNonnegativeShown subject n = .ok u ↔ 0 ≤ n := by
  by_cases h : n < 0
  · simp [requireNonnegativeShown, h]
  · simp [requireNonnegativeShown, h, pure, Except.pure]; omega

end Checked

namespace Run

variable {α β : Type}

theorem events_of_bind {x : Run α} {f : α → Run β} (h : (x >>= f).events = []) :
    x.events = [] := by
  cases hx : x.outcome with
  | error fault => rwa [bind_of_error hx] at h
  | ok a =>
    rw [bind_of_ok hx] at h
    exact (List.append_eq_nil_iff.mp h).1

theorem pure_inj {a b : α} (h : (pure a : Run α) = pure b) : a = b :=
  Except.ok.inj (congrArg Run.outcome h)

theorem liftM_ok_bind (a : α) (f : α → Run β) :
    (liftM (.ok a : Checked α) : Run α) >>= f = f a := by
  rw [bind_of_ok (outcome_liftM _)]
  rfl

theorem liftM_bind (x : Checked α) (f : α → Checked β) :
    (liftM x : Run α) >>= (fun a => liftM (f a)) = (liftM (x >>= f) : Run β) := by
  cases x <;> rfl

theorem events_bind_eq_nil {x : Run α} {f : α → Run β} (h : (x >>= f).events = []) {a : α}
    (hx : x.outcome = .ok a) : x.events = [] ∧ (f a).events = [] := by
  rw [bind_of_ok hx] at h
  exact List.append_eq_nil_iff.mp h

theorem not_mem_events_bind {x : Run α} {f : α → Run β} {event : Event}
    (h : event ∉ (x >>= f).events) :
    event ∉ x.events ∧ ∀ a, x.outcome = .ok a → event ∉ (f a).events := by
  cases hx : x.outcome with
  | error fault =>
    rw [bind_of_error hx] at h
    exact ⟨h, fun _ hok => nomatch hok⟩
  | ok a =>
    rw [bind_of_ok hx, List.mem_append, not_or] at h
    refine ⟨h.1, fun _ hok => ?_⟩
    cases hok
    exact h.2

end Run
end PoolPricing
