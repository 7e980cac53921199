import Mathlib.Order.Basic
import Mathlib.Data.List.Basic

/-!
# Cathedral.Lib.Run — finite runs of a labelled transition system

A run is a list of labels together with the two states it connects, extended
at its end; an induction over a run therefore sees the whole history before
the last step.
-/

namespace Cathedral

universe u v w

variable {σ : Type u} {ℓ : Type v}

/-- `Run step s ls t`: the steps labelled `ls` lead from `s` to `t`. -/
inductive Run (step : σ → ℓ → σ → Prop) (s : σ) : List ℓ → σ → Prop where
  | nil : Run step s [] s
  | snoc {ls : List ℓ} {t : σ} {l : ℓ} {u : σ} :
      Run step s ls t → step t l u → Run step s (ls ++ [l]) u

namespace Run

variable {step : σ → ℓ → σ → Prop} {s t : σ} {ls : List ℓ}

/-- Induction over a run with its history. -/
theorem history {P : List ℓ → σ → Prop} (h0 : P [] s)
    (hstep : ∀ ls t l u, P ls t → step t l u → P (ls ++ [l]) u)
    (h : Run step s ls t) : P ls t := by
  induction h with
  | nil => exact h0
  | snoc _ hs ih => exact hstep _ _ _ _ ih hs

/-- A state predicate kept by every step holds along every run. -/
theorem invariant {I : σ → Prop} (h0 : I s)
    (hstep : ∀ t l u, I t → step t l u → I u) (h : Run step s ls t) : I t :=
  history (P := fun _ t => I t) h0 (fun _ t l u => hstep t l u) h

/-- The empty run where a run ends. -/
theorem here (_ : Run step s ls t) : Run step t [] t := nil

/-- Runs compose. -/
theorem append {u : σ} {ls' : List ℓ} (h : Run step s ls t) (h' : Run step t ls' u) :
    Run step s (ls ++ ls') u := by
  induction h' with
  | nil => simpa using h
  | snoc _ hs ih =>
    rw [← List.append_assoc]
    exact ih.snoc hs

/-- A run can be cut at any point of its label list. -/
theorem split {ls₁ ls₂ : List ℓ} (h : Run step s (ls₁ ++ ls₂) t) :
    ∃ m, Run step s ls₁ m ∧ Run step m ls₂ t := by
  generalize hls : ls₁ ++ ls₂ = ls at h
  induction h generalizing ls₂ with
  | nil =>
    obtain ⟨rfl, rfl⟩ := List.append_eq_nil_iff.mp hls
    exact ⟨s, .nil, .nil⟩
  | @snoc ls t l u hrun hs ih =>
    rcases List.eq_nil_or_concat ls₂ with rfl | ⟨init, last, rfl⟩
    · rw [List.append_nil] at hls
      exact ⟨u, hls ▸ hrun.snoc hs, .nil⟩
    · rw [List.concat_eq_append, ← List.append_assoc] at hls
      obtain ⟨hinit, hlast⟩ := List.append_inj' hls rfl
      obtain ⟨m, hm₁, hm₂⟩ := ih hinit
      rw [List.singleton_inj] at hlast
      subst hlast
      rw [List.concat_eq_append]
      exact ⟨m, hm₁, hm₂.snoc hs⟩

theorem eq_of_nil (h : Run step s [] t) : t = s := by
  generalize hls : ([] : List ℓ) = ls at h
  cases h with
  | nil => rfl
  | snoc _ _ => simp at hls

theorem single_iff {l : ℓ} : Run step s [l] t ↔ step s l t := by
  constructor
  · intro h
    generalize hls : [l] = ls at h
    cases h with
    | nil => simp at hls
    | snoc hrun hs =>
      rw [List.singleton_eq_append_iff] at hls
      rcases hls with ⟨rfl, hl⟩ | ⟨-, hl⟩
      · rw [List.singleton_inj] at hl
        subst hl
        exact eq_of_nil hrun ▸ hs
      · simp at hl
  · exact fun h => snoc nil h

/-- The step that carries a label, with the runs before and after it. -/
theorem step_at {l : ℓ} {before after : List ℓ} (h : Run step s (before ++ l :: after) t) :
    ∃ m m', Run step s before m ∧ step m l m' ∧ Run step m' after t := by
  obtain ⟨m, hbefore, hrest⟩ := h.split
  obtain ⟨m', hl, hafter⟩ := split (show Run step m ([l] ++ after) t from hrest)
  exact ⟨m, m', hbefore, single_iff.mp hl, hafter⟩

/-- A simulation of single steps carries runs over. -/
theorem map {τ : Type u} {m : Type v} {step' : τ → m → τ → Prop} (f : σ → τ) (g : ℓ → m)
    (hstep : ∀ t l u, step t l u → step' (f t) (g l) (f u)) (h : Run step s ls t) :
    Run step' (f s) (ls.map g) (f t) := by
  induction h with
  | nil => exact nil
  | snoc _ hs ih =>
    rw [List.map_append]
    exact ih.snoc (hstep _ _ _ hs)

/-- What a function that takes steps computes is a run. -/
theorem of_foldlM {next : σ → ℓ → Option σ} (hnext : ∀ s l t, next s l = some t → step s l t) :
    ∀ {ls : List ℓ} {s t : σ}, ls.foldlM next s = some t → Run step s ls t
  | [], s, t, h => by
    cases h
    exact nil
  | l :: ls, s, t, h => by
    rw [List.foldlM_cons, Option.bind_eq_bind, Option.bind_eq_some_iff] at h
    obtain ⟨mid, hfirst, hrest⟩ := h
    exact (single_iff.mpr (hnext s l mid hfirst)).append (of_foldlM hnext hrest)

/-- When the steps are those that are computed, the runs are too. -/
theorem foldlM_eq_some {next : σ → ℓ → Option σ} (hnext : ∀ s l t, step s l t → next s l = some t)
    (h : Run step s ls t) : ls.foldlM next s = some t := by
  induction h with
  | nil => rfl
  | snoc _ hs ih =>
    have hlast := hnext _ _ _ hs
    rw [List.foldlM_append, ih]
    simp [hlast]

/-- A computed run that ends in a state with a property. -/
theorem exists_of_any {next : σ → ℓ → Option σ} (hnext : ∀ s l t, next s l = some t → step s l t)
    {r : List ℓ} {p : σ → Bool} (h : (r.foldlM next s).any p = true) :
    ∃ t, Run step s r t ∧ p t = true := by
  obtain ⟨t, ht, hp⟩ := (Option.any_eq_true _ _).mp h
  exact ⟨t, of_foldlM hnext ht, hp⟩

/-- Whatever an invariant yields about a single step holds of every step. -/
theorem forall_labels {I : σ → Prop} {Q : ℓ → Prop} (h0 : I s)
    (hstep : ∀ t l u, I t → step t l u → I u ∧ Q l) (h : Run step s ls t) :
    ∀ l ∈ ls, Q l := by
  have hboth : I t ∧ ∀ l ∈ ls, Q l := by
    refine history (P := fun ls t => I t ∧ ∀ l ∈ ls, Q l) ⟨h0, by simp⟩ ?_ h
    rintro ls t l u ⟨hinv, hall⟩ hs
    obtain ⟨hinv', hq⟩ := hstep t l u hinv hs
    refine ⟨hinv', fun l' hl' => ?_⟩
    rcases List.mem_append.mp hl' with hmem | hmem
    · exact hall l' hmem
    · rw [List.mem_singleton] at hmem
      exact hmem ▸ hq
  exact hboth.2

/-- A step's marks lie above the old high-water mark and below the new one. -/
structure StepMarks {α : Type w} [Preorder α] (mark : ℓ → List α) (high : σ → α)
    (t : σ) (l : ℓ) (u : σ) : Prop where
  mono : high t ≤ high u
  sorted : (mark l).Pairwise (· < ·)
  above : ∀ m ∈ mark l, high t < m
  below : ∀ m ∈ mark l, m ≤ high u

/-- Marks of a run are strictly increasing and lie between its two high-water marks. -/
theorem marks_increasing {α : Type w} [Preorder α] {mark : ℓ → List α} {high : σ → α}
    (hstep : ∀ t l u, step t l u → StepMarks mark high t l u) (h : Run step s ls t) :
    (ls.flatMap mark).Pairwise (· < ·) ∧
      (∀ m ∈ ls.flatMap mark, high s < m ∧ m ≤ high t) ∧ high s ≤ high t := by
  refine history (P := fun ls t => (ls.flatMap mark).Pairwise (· < ·) ∧
    (∀ m ∈ ls.flatMap mark, high s < m ∧ m ≤ high t) ∧ high s ≤ high t) ?_ ?_ h
  · exact ⟨List.Pairwise.nil, by simp, le_rfl⟩
  · rintro ls t l u ⟨hsorted, hbounds, hhigh⟩ hs
    have hm := hstep t l u hs
    rw [List.flatMap_append, List.flatMap_singleton]
    refine ⟨?_, ?_, hhigh.trans hm.mono⟩
    · refine List.pairwise_append.mpr ⟨hsorted, hm.sorted, fun a ha b hb => ?_⟩
      exact lt_of_le_of_lt (hbounds a ha).2 (hm.above b hb)
    · intro m hmem
      rcases List.mem_append.mp hmem with hold | hnew
      · exact ⟨(hbounds m hold).1, (hbounds m hold).2.trans hm.mono⟩
      · exact ⟨lt_of_le_of_lt hhigh (hm.above m hnew), hm.below m hnew⟩

end Run

end Cathedral
