import Mathlib.Logic.Basic

/-!
# Transactional steps and reachable states

A dispatchable runs in its own storage layer: when it returns an error every write it made
is undone. `commit` is that layer over a fallible state transformer. A system is a total
step function over labels; its reachable states are those of some run from an initial
state, and every invariant is proved by the one induction `Reachable.rec` packages here.
-/

namespace Transition

variable {σ ε α : Type}

/-! ## Fallible computations -/

/-- A bound computation succeeds exactly when both parts do. -/
theorem bind_eq_ok {β : Type} {x : Except ε α} {f : α → Except ε β} {b : β} :
    x >>= f = .ok b ↔ ∃ a, x = .ok a ∧ f a = .ok b := by
  cases x <;> simp [bind, Except.bind]

/-- A bound computation fails when its first part does, or when the rest fails on its value. -/
theorem bind_eq_error {β : Type} {x : Except ε α} {f : α → Except ε β} {e : ε} :
    x >>= f = .error e ↔ x = .error e ∨ ∃ a, x = .ok a ∧ f a = .error e := by
  cases x <;> simp [bind, Except.bind]

/-- A mapped computation fails exactly when the computation does. -/
theorem map_eq_error {β : Type} {x : Except ε α} {f : α → β} {e : ε} :
    f <$> x = .error e ↔ x = .error e := by
  cases x <;> simp [Functor.map, Except.map]

/-- A computation with its error converted succeeds exactly when the computation does. -/
theorem mapError_eq_ok {ε' : Type} {x : Except ε α} {f : ε → ε'} {a : α} :
    x.mapError f = .ok a ↔ x = .ok a := by
  -- by cases on the computation, without unfolding `mapError` into equation lemmas
  cases x with
  | error e => exact ⟨nofun, nofun⟩
  | ok b =>
      constructor
      · intro h
        cases h
        rfl
      · intro h
        cases h
        rfl

theorem pure_eq_ok {a b : α} : (pure a : Except ε α) = .ok b ↔ a = b := by
  simp [pure, Except.pure]

theorem error_ne_ok {e : ε} {a : α} : (Except.error e : Except ε α) ≠ .ok a := by
  simp

theorem pure_ne_error {a : α} {e : ε} : (pure a : Except ε α) ≠ .error e := by
  simp [pure, Except.pure]

theorem isOk_iff {x : Except ε α} : x.isOk = true ↔ ∃ a, x = .ok a := by
  cases x <;> simp [Except.isOk, Except.toBool]

/-- A loop over a list succeeds exactly when its body succeeds on every element. -/
theorem forM_eq_ok {f : α → Except ε Unit} {l : List α} {u : Unit} :
    l.forM f = .ok u ↔ ∀ a ∈ l, f a = .ok () := by
  induction l with
  | nil => simp [List.forM, pure, Except.pure]
  | cons a l ih =>
      change (f a >>= fun _ => l.forM f) = .ok u ↔ _
      rw [bind_eq_ok, ih]
      simp only [List.mem_cons, forall_eq_or_imp]
      constructor
      · rintro ⟨⟨⟩, ha, hl⟩
        exact ⟨ha, hl⟩
      · rintro ⟨ha, hl⟩
        exact ⟨(), ha, hl⟩

/-! ## Storage layers -/

/-- Run a fallible transition in a storage layer: an error leaves the state as it was. -/
def commit (f : σ → Except ε σ) (s : σ) : σ :=
  match f s with
  | .ok s' => s'
  | .error _ => s

theorem commit_of_ok {f : σ → Except ε σ} {s s' : σ} (h : f s = .ok s') : commit f s = s' := by
  simp [commit, h]

/-- A committed call either failed and changed nothing, or succeeded with the committed state. -/
theorem commit_cases (f : σ → Except ε σ) (s : σ) :
    (commit f s = s ∧ ∃ e, f s = .error e) ∨ f s = .ok (commit f s) := by
  unfold commit
  cases h : f s with
  | error e => exact .inl ⟨rfl, e, rfl⟩
  | ok s' => exact .inr rfl

/-- A property of single states that every successful call preserves is preserved by the
committed call as well. -/
theorem commit_preserves {f : σ → Except ε σ} {P : σ → Prop} {s : σ}
    (hs : P s) (hok : ∀ s', f s = .ok s' → P s') : P (commit f s) := by
  rcases commit_cases f s with ⟨h, -⟩ | h
  · rw [h]
    exact hs
  · exact hok _ h

/-- A relation between the states before and after, reflexive, that every successful call
satisfies, holds of the committed call. -/
theorem commit_relates {f : σ → Except ε σ} {R : σ → σ → Prop} {s : σ}
    (hrefl : R s s) (hok : ∀ s', f s = .ok s' → R s s') : R s (commit f s) := by
  rcases commit_cases f s with ⟨h, -⟩ | h
  · rw [h]
    exact hrefl
  · exact hok _ h

/-- Run the labels of a list in order. -/
def run (step : σ → α → σ) (s : σ) (as : List α) : σ := as.foldl step s

@[simp] theorem run_nil (step : σ → α → σ) (s : σ) : run step s [] = s := rfl

@[simp] theorem run_cons (step : σ → α → σ) (s : σ) (a : α) (as : List α) :
    run step s (a :: as) = run step (step s a) as := rfl

theorem run_append (step : σ → α → σ) (s : σ) (as bs : List α) :
    run step s (as ++ bs) = run step (run step s as) bs := by
  simp [run, List.foldl_append]

/-- States reachable from a state satisfying `init` by steps of `step`. -/
inductive Reachable (init : σ → Prop) (step : σ → α → σ) : σ → Prop
  | init {s : σ} : init s → Reachable init step s
  | step {s : σ} (a : α) : Reachable init step s → Reachable init step (step s a)

variable {init : σ → Prop} {step : σ → α → σ}

/-- The induction principle for invariants: holds initially and is kept by every step. -/
theorem Reachable.invariant {I : σ → Prop} (h0 : ∀ s, init s → I s)
    (h1 : ∀ s a, Reachable init step s → I s → I (step s a)) {s : σ}
    (hs : Reachable init step s) : I s := by
  induction hs with
  | init h => exact h0 _ h
  | step a hs ih => exact h1 _ a hs ih

theorem Reachable.run {s : σ} (hs : Reachable init step s) (as : List α) :
    Reachable init step (Transition.run step s as) := by
  induction as generalizing s with
  | nil => exact hs
  | cons a as ih => exact ih (hs.step a)

/-- A property that every step from a reachable state keeps holds at the end of every run from
a reachable state where it holds. -/
theorem Reachable.run_preserves {P : σ → Prop}
    (hstep : ∀ s a, Reachable init step s → P s → P (step s a)) {s : σ}
    (hs : Reachable init step s) (hP : P s) (as : List α) : P (Transition.run step s as) := by
  induction as generalizing s with
  | nil => exact hP
  | cons a as ih => exact ih (hs.step a) (hstep s a hs hP)

/-- An observation that no allowed step from a reachable state satisfying `P` changes, for a
`P` that every step keeps, is the same at both ends of an allowed run from such a state. -/
theorem Reachable.run_observe_eq {β : Type} {P : σ → Prop} (obs : σ → β) {allowed : α → Prop}
    (hP : ∀ s a, Reachable init step s → P s → P (step s a))
    (hobs : ∀ s a, Reachable init step s → P s → allowed a → obs (step s a) = obs s) {s : σ}
    (hs : Reachable init step s) (h : P s) (as : List α) (has : ∀ a ∈ as, allowed a) :
    obs (Transition.run step s as) = obs s := by
  induction as generalizing s with
  | nil => rfl
  | cons a as ih =>
      have hrest : ∀ b ∈ as, allowed b := fun b hb => has b (List.mem_cons_of_mem a hb)
      rw [run_cons, ih (hs.step a) (hP s a hs h) hrest,
        hobs s a hs h (has a (List.mem_cons_self ..))]

theorem reachable_run {s₀ : σ} (h₀ : init s₀) (as : List α) :
    Reachable init step (Transition.run step s₀ as) :=
  (Reachable.init h₀).run as

/-- A property that every step of an allowed label keeps holds at the end of every run of
allowed labels from a state that has it. -/
theorem run_preserves {P : σ → Prop} {allowed : α → Prop}
    (hstep : ∀ s a, allowed a → P s → P (step s a)) {s : σ} (hP : P s) (as : List α)
    (has : ∀ a ∈ as, allowed a) : P (Transition.run step s as) := by
  induction as generalizing s with
  | nil => exact hP
  | cons a as ih =>
      have ha : allowed a := has a (List.mem_cons_self ..)
      exact ih (hstep s a ha hP) fun b hb => has b (List.mem_cons_of_mem a hb)

/-- A relation that every step of an allowed label keeps, and that is reflexive and
transitive, holds between the two ends of every run of allowed labels. -/
theorem run_relates {R : σ → σ → Prop} {allowed : α → Prop}
    (hrefl : ∀ s, R s s) (htrans : ∀ s t u, R s t → R t u → R s u)
    (hstep : ∀ s a, allowed a → R s (step s a)) :
    ∀ (s : σ) (as : List α), (∀ a ∈ as, allowed a) → R s (Transition.run step s as) := by
  intro s as has
  induction as generalizing s with
  | nil => exact hrefl s
  | cons a as ih =>
      have ha : allowed a := has a (List.mem_cons_self ..)
      have hrest : ∀ b ∈ as, allowed b := fun b hb => has b (List.mem_cons_of_mem a hb)
      exact htrans _ _ _ (hstep s a ha) (ih (step s a) hrest)

/-- An observation that no allowed step changes is the same at both ends of an allowed run. -/
theorem run_observe_eq {β : Type} {obs : σ → β} {allowed : α → Prop}
    (hstep : ∀ s a, allowed a → obs (step s a) = obs s) (s : σ) (as : List α)
    (has : ∀ a ∈ as, allowed a) : obs (Transition.run step s as) = obs s :=
  (run_relates (R := fun s t => obs t = obs s) (fun _ => rfl)
    (fun _ _ _ h₁ h₂ => h₂.trans h₁) hstep s as has)

end Transition
