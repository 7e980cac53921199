import Cathedral.Lib.Run

/-!
# Cathedral.Lib.Guarded — runs under a guard

A system that keeps its promise `Q` only while its steps meet a guard. When each
step from a good state reaches a good state exactly if it meets the guard, the
guarded runs are the runs through good states:

* `guarded_iff` — both directions, under an invariant of the unguarded system;
* `Run.weaken` — a run of a stronger step relation is a run of a weaker one.
-/

namespace Cathedral.Run

universe u v

variable {σ : Type u} {ℓ : Type v} {step : σ → ℓ → σ → Prop} {s t : σ} {ls : List ℓ}

theorem weaken {step' : σ → ℓ → σ → Prop} (hstep : ∀ t l u, step t l u → step' t l u)
    (h : Run step s ls t) : Run step' s ls t := by
  induction h with
  | nil => exact nil
  | snoc _ hs ih => exact ih.snoc (hstep _ _ _ hs)

/-- A run that meets a condition on the state before and the label of each step. -/
abbrev Guarded (step : σ → ℓ → σ → Prop) (G : σ → ℓ → Prop) (t : σ) (l : ℓ) (u : σ) : Prop :=
  step t l u ∧ G t l

/-- A step that ends in a good state. -/
abbrev Within (step : σ → ℓ → σ → Prop) (Q : σ → Prop) (t : σ) (l : ℓ) (u : σ) : Prop :=
  step t l u ∧ Q u

variable {G : σ → ℓ → Prop} {I Q : σ → Prop}

/-- The guarded runs are the runs through good states. -/
theorem guarded_iff (hI0 : I s) (hQ0 : Q s) (hI : ∀ t l u, I t → step t l u → I u)
    (hiff : ∀ t l u, I t → Q t → step t l u → (G t l ↔ Q u)) :
    Run (Guarded step G) s ls t ↔ Run (Within step Q) s ls t := by
  constructor
  · intro h
    have hboth : (I t ∧ Q t) ∧ Run (Within step Q) s ls t := by
      refine history (P := fun ls t => (I t ∧ Q t) ∧ Run (Within step Q) s ls t)
        ⟨⟨hI0, hQ0⟩, nil⟩ ?_ h
      rintro ls t l u ⟨⟨hinv, hgood⟩, hrun⟩ ⟨hs, hguard⟩
      have hgood' := (hiff t l u hinv hgood hs).mp hguard
      exact ⟨⟨hI t l u hinv hs, hgood'⟩, hrun.snoc ⟨hs, hgood'⟩⟩
    exact hboth.2
  · intro h
    have hboth : (I t ∧ Q t) ∧ Run (Guarded step G) s ls t := by
      refine history (P := fun ls t => (I t ∧ Q t) ∧ Run (Guarded step G) s ls t)
        ⟨⟨hI0, hQ0⟩, nil⟩ ?_ h
      rintro ls t l u ⟨⟨hinv, hgood⟩, hrun⟩ ⟨hs, hgood'⟩
      have hguard := (hiff t l u hinv hgood hs).mpr hgood'
      exact ⟨⟨hI t l u hinv hs, hgood'⟩, hrun.snoc ⟨hs, hguard⟩⟩
    exact hboth.2

end Cathedral.Run
