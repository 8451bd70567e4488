/-! # Steps of a computation

A computation in steps comes to a result only when every step does.
-/

namespace MuxLaunch

theorem exceptBind_eq_ok {ε α β : Type} {x : Except ε α} {f : α → Except ε β} {b : β} :
    (x >>= f) = .ok b ↔ ∃ a, x = .ok a ∧ f a = .ok b := by
  cases x with
  | error e => simp [bind, Except.bind]
  | ok a => simp [bind, Except.bind]

theorem exceptBind_eq_error {ε α β : Type} {x : Except ε α} {f : α → Except ε β} {e : ε} :
    (x >>= f) = .error e ↔ x = .error e ∨ ∃ a, x = .ok a ∧ f a = .error e := by
  cases x with
  | error e => simp [bind, Except.bind]
  | ok a => simp [bind, Except.bind]

theorem exceptMapError_eq_ok {ε ε' α : Type} {x : Except ε α} {f : ε → ε'} {a : α} :
    x.mapError f = .ok a ↔ x = .ok a := by
  cases x with
  | error e => exact ⟨nofun, nofun⟩
  | ok b =>
      constructor
      · rintro ⟨⟩
        rfl
      · rintro ⟨⟩
        rfl

theorem stateBind_eq_ok {ε σ α β : Type} {x : EStateM ε σ α} {f : α → EStateM ε σ β}
    {s s' : σ} {b : β} :
    (x >>= f) s = .ok b s' ↔ ∃ a t, x s = .ok a t ∧ f a t = .ok b s' := by
  simp only [bind, EStateM.bind]
  cases x s with
  | ok a t =>
      constructor
      · exact fun h => ⟨a, t, rfl, h⟩
      · rintro ⟨_, _, ⟨⟩, h⟩
        exact h
  | error e t => simp

theorem stateBind_of_ok {ε σ α β : Type} {x : EStateM ε σ α} {f : α → EStateM ε σ β}
    {s t : σ} {a : α} (first : x s = .ok a t) : (x >>= f) s = f a t := by
  simp only [bind, EStateM.bind, first]

theorem stateBind_of_error {ε σ α β : Type} {x : EStateM ε σ α} {f : α → EStateM ε σ β}
    {s t : σ} {e : ε} (first : x s = .error e t) : (x >>= f) s = .error e t := by
  simp only [bind, EStateM.bind, first]

theorem stateBind_get {ε σ β : Type} {f : σ → EStateM ε σ β} {s : σ} :
    ((get : EStateM ε σ σ) >>= f) s = f s s :=
  rfl

/-- What comes next depends only on what the first step comes to. -/
theorem stateBind_congr {ε σ α β : Type} {x y : EStateM ε σ α} {f : α → EStateM ε σ β} {s t : σ}
    (same : x s = y t) : (x >>= f) s = (y >>= f) t := by
  simp only [bind, EStateM.bind, same]

end MuxLaunch
