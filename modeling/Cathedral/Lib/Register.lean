import Mathlib.Data.List.Induction
import Mathlib.Order.Basic

/-!
# Cathedral.Lib.Register — a register of stamped writes

A register that every write replaces holds its last write. `newest_getLast_iff` says
when that is also a write with the greatest stamp, after every part of the history:
exactly when the stamps never fall.
-/

namespace Cathedral.Register

universe u v

variable {α : Type u} {τ : Type v} [Preorder τ] {stamp : α → τ} {history : List α} {w : α}

/-- A write of the history with the greatest stamp. -/
structure Newest (stamp : α → τ) (history : List α) (w : α) : Prop where
  mem : w ∈ history
  le : ∀ x ∈ history, stamp x ≤ stamp w

/-- Another write after the history is newest when it is not below the newest so far. -/
theorem Newest.concat {x : α} (h : Newest stamp history w) (hx : stamp w ≤ stamp x) :
    Newest stamp (history ++ [x]) x := by
  refine ⟨List.mem_append_right _ (List.mem_singleton_self x), ?_⟩
  intro y hy
  rcases List.mem_append.mp hy with hy | hy
  · exact (h.le y hy).trans hx
  · rw [List.mem_singleton.mp hy]

theorem newest_singleton (x : α) : Newest stamp [x] x := by
  refine ⟨List.mem_singleton_self x, ?_⟩
  intro y hy
  rw [List.mem_singleton.mp hy]

/-- After every part of the history the last write is newest, exactly when each write is
not below the one before it. -/
theorem newest_getLast_iff :
    (∀ before after, history = before ++ after → ∀ w ∈ before.getLast?, Newest stamp before w) ↔
      ∀ before x after, history = before ++ x :: after →
        ∀ w ∈ before.getLast?, stamp w ≤ stamp x := by
  constructor
  · intro h before x after hsplit w hw
    have hmem : w ∈ before ++ [x] := List.mem_append_left _ (List.mem_of_getLast? hw)
    have hlast : x ∈ (before ++ [x]).getLast? := by rw [List.getLast?_concat]; rfl
    have hparts : history = (before ++ [x]) ++ after := by rw [hsplit, List.append_assoc]; rfl
    exact (h (before ++ [x]) after hparts x hlast).le w hmem
  · intro h before after hsplit
    -- induction on the part of the history, from its end
    induction before using List.reverseRecOn generalizing after with
    | nil => intro w hw; cases hw
    | append_singleton before x ih =>
      intro w hw
      rw [List.getLast?_concat] at hw
      obtain rfl : x = w := Option.some.inj hw
      have hparts : history = before ++ x :: after := by rw [hsplit, List.append_assoc]; rfl
      cases hlast : before.getLast? with
      | none =>
        rw [List.getLast?_eq_none_iff.mp hlast]
        exact newest_singleton x
      | some y =>
        have hy := ih (x :: after) hparts y hlast
        exact hy.concat (h before x after hparts y hlast)

end Cathedral.Register
