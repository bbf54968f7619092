/-!
# Computations that may fail

* `bind_eq_ok`, `return_eq_ok`: one step after another;
* `toOption_eq_some`: a success, when the error does not matter;
* `mapError_eq_ok`, `mapError_eq_error`: an error told in other words;
* `keeps_foldlM_some`, `keeps_foldlM_ok`: what the steps of a run keep.
-/

namespace Replica

variable {ε ε' α β : Type}

theorem bind_eq_ok {x : Except ε α} {f : α → Except ε β} {b : β} :
    (x >>= f) = .ok b ↔ ∃ a, x = .ok a ∧ f a = .ok b := by
  cases x <;> simp [bind, Except.bind]

theorem return_eq_ok {x : Except ε α} {f : α → β} {b : β} :
    (do return f (← x)) = Except.ok b ↔ ∃ a, x = .ok a ∧ b = f a := by
  refine bind_eq_ok.trans (exists_congr fun a => and_congr_right fun _ => ?_)
  show Except.ok (f a) = Except.ok b ↔ _
  rw [Except.ok.injEq, eq_comm]

theorem toOption_eq_some {x : Except ε α} {a : α} : x.toOption = some a ↔ x = .ok a := by
  cases x <;> simp [Except.toOption]

theorem mapError_eq_ok {x : Except ε α} {f : ε → ε'} {a : α} :
    x.mapError f = .ok a ↔ x = .ok a := by
  cases x with
  | ok b =>
    show Except.ok b = Except.ok a ↔ _
    rw [Except.ok.injEq, Except.ok.injEq]
  | error cause => exact iff_of_false nofun nofun

theorem mapError_eq_error {x : Except ε α} {f : ε → ε'} {e : ε'} :
    x.mapError f = .error e ↔ ∃ cause, x = .error cause ∧ f cause = e := by
  cases x with
  | ok b => exact iff_of_false nofun nofun
  | error cause =>
    show Except.error (f cause) = Except.error e ↔ _
    simp

/-! ## Runs -/

section

variable {σ : Type} {P : σ → Prop} {as : List α} {s s' : σ}

theorem toOption_foldlM (step : σ → α → Except ε σ) (as : List α) (s : σ) :
    (as.foldlM step s).toOption = as.foldlM (fun s a => (step s a).toOption) s := by
  induction as generalizing s with
  | nil => rfl
  | cons a as ih =>
    rw [List.foldlM_cons, List.foldlM_cons]
    cases step s a with
    | error e => rfl
    | ok t => exact ih t

/-- **What each step of a run keeps**, the run keeps. -/
theorem keeps_foldlM_some {step : σ → α → Option σ}
    (hstep : ∀ s, ∀ a ∈ as, ∀ s', P s → step s a = some s' → P s') (hs : P s)
    (h : as.foldlM step s = some s') : P s' := by
  induction as generalizing s with
  | nil =>
    cases h
    exact hs
  | cons a as ih =>
    obtain ⟨t, ht, h⟩ := Option.bind_eq_some_iff.1 h
    exact ih (fun s b hb => hstep s b (List.mem_cons_of_mem _ hb))
      (hstep s a List.mem_cons_self t hs ht) h

theorem keeps_foldlM_ok {step : σ → α → Except ε σ}
    (hstep : ∀ s, ∀ a ∈ as, ∀ s', P s → step s a = .ok s' → P s') (hs : P s)
    (h : as.foldlM step s = .ok s') : P s' := by
  refine keeps_foldlM_some (fun s a ha s' hs hset => ?_) hs
    ((toOption_foldlM step as s).symm.trans (toOption_eq_some.2 h))
  exact hstep s a ha s' hs (toOption_eq_some.1 hset)

end

end Replica
