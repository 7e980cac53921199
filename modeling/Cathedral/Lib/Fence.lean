import Mathlib.Data.Int.ConditionallyCompleteOrder
import Mathlib.Order.WithBot
import Cathedral.Lib.Run

/-!
# Cathedral.Lib.Fence — rollback fences

A source publishes numbered documents, and a consumer that remembers the newest
one it accepted may accept another only if its number is larger or it is the
same document. The positions `Mark` of such a line are ordered by exactly this
rule, so a fence is a high-water mark of an order and a law about whole
histories is monotonicity:

* `Mark.le_iff` — the rule;
* `Mark.eq_of_number_eq` — at one number there is one document;
* `Run.monotone` — a high-water mark that no step lowers only rises over a run;
* `Run.marks_monotone` — marks between the old and the new high-water mark of
  their step come in order.

A fence that may be empty is an element of `WithBot (Mark κ ι)`.
-/

namespace Cathedral

universe u v w

/-! ## Positions -/

/-- A document of a numbered line: its number and its identity. -/
structure Mark (κ : Type u) (ι : Type v) where
  number : κ
  id : ι
deriving DecidableEq, Repr

namespace Mark

variable {κ : Type u} {ι : Type v} [Preorder κ] {a b c : Mark κ ι}

instance : LE (Mark κ ι) := ⟨fun a b => a.number < b.number ∨ a = b⟩

theorem le_iff : a ≤ b ↔ a.number < b.number ∨ a = b := Iff.rfl

theorem number_le (h : a ≤ b) : a.number ≤ b.number := by
  rcases h with hlt | rfl
  · exact hlt.le
  · exact le_rfl

/-- At one number there is one document. -/
theorem eq_of_number_eq (h : a ≤ b) (hnumber : a.number = b.number) : a = b := by
  rcases h with hlt | heq
  · exact absurd hnumber hlt.ne
  · exact heq

instance : PartialOrder (Mark κ ι) where
  le_refl a := Or.inr rfl
  le_trans a b c hab hbc := by
    rcases hab with hlt | rfl
    · exact Or.inl (hlt.trans_le (number_le hbc))
    · exact hbc
  le_antisymm a b hab hba := by
    rcases hab with hlt | heq
    · exact absurd (number_le hba) hlt.not_ge
    · exact heq

end Mark

/-- What a fence `m` admits: `x` is new, or `m` itself. -/
theorem Mark.coe_le_coe {κ : Type u} {ι : Type v} [Preorder κ] {m x : Mark κ ι} :
    (m : WithBot (Mark κ ι)) ≤ x ↔ m.number < x.number ∨ m = x :=
  WithBot.coe_le_coe.trans Mark.le_iff

/-! ## Runs -/

namespace Run

variable {σ : Type u} {ℓ : Type v} {α : Type w} [Preorder α]
variable {step : σ → ℓ → σ → Prop} {s t : σ} {ls : List ℓ}

/-- What holds of every label of a run may be assumed of its steps. -/
theorem restrict {Q : ℓ → Prop} (hall : ∀ l ∈ ls, Q l) (h : Run step s ls t) :
    Run (fun t l u => Q l ∧ step t l u) s ls t := by
  induction h with
  | nil => exact nil
  | snoc _ hs ih =>
    have hlast := hall _ (List.mem_append_right _ (List.mem_singleton_self _))
    refine (ih fun l hl => hall l (List.mem_append_left _ hl)).snoc ⟨hlast, hs⟩

/-- A high-water mark that no step lowers only rises. -/
theorem monotone (high : σ → α) (hstep : ∀ t l u, step t l u → high t ≤ high u)
    (h : Run step s ls t) : high s ≤ high t :=
  invariant (I := fun t => high s ≤ high t) le_rfl
    (fun t l u hle hs => hle.trans (hstep t l u hs)) h

/-- Marks between the old and the new high-water mark of their step come in order. -/
theorem marks_monotone (high : σ → α) (mark : ℓ → α)
    (hstep : ∀ t l u, step t l u → high t ≤ mark l ∧ mark l ≤ high u) (h : Run step s ls t) :
    (ls.map mark).Pairwise (· ≤ ·) := by
  have hboth : (ls.map mark).Pairwise (· ≤ ·) ∧ ∀ m ∈ ls.map mark, m ≤ high t := by
    refine history (P := fun ls t => (ls.map mark).Pairwise (· ≤ ·) ∧
      ∀ m ∈ ls.map mark, m ≤ high t) ⟨List.Pairwise.nil, by simp⟩ ?_ h
    intro ls t l u hold hs
    rcases hold with ⟨hsorted, hbelow⟩
    rcases hstep t l u hs with ⟨habove, hnew⟩
    rw [List.map_append, List.map_singleton]
    constructor
    · refine List.pairwise_append.mpr ⟨hsorted, List.pairwise_singleton _ _, ?_⟩
      intro a ha b hb
      rw [List.mem_singleton] at hb
      exact hb ▸ (hbelow a ha).trans habove
    · intro m hm
      rcases List.mem_append.mp hm with hmem | hmem
      · exact ((hbelow m hmem).trans habove).trans hnew
      · rw [List.mem_singleton] at hmem
        exact hmem ▸ hnew
  exact hboth.1

end Run

end Cathedral
