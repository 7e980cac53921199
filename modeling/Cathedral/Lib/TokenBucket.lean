import Mathlib.Algebra.Order.Field.Basic
import Mathlib.Data.List.Pairwise
import Mathlib.Tactic.Linarith
import Mathlib.Tactic.Ring

/-!
# Cathedral.Lib.TokenBucket — one token bucket

A bucket that is full at first, is filled up at a rate to its capacity when it is looked at,
and gives one token if it has one. In an interval it gives no more than its capacity and what
flows in meanwhile: `given_le`.
-/

namespace Cathedral.TokenBucket

variable {K : Type} [Field K] [LinearOrder K]

/-- The tokens at the time of the last look. -/
structure Level (K : Type) where
  tokens : K
  time : K

variable (cap rate : K)

/-- The level at a later time; no bucket is a full one. -/
def level (l : Option (Level K)) (now : K) : K :=
  match l with
  | none => cap
  | some l => min cap (l.tokens + (now - l.time) * rate)

/-- Whether a token is given, and the level after that. -/
def take (l : Option (Level K)) (now : K) : Bool × Level K :=
  if 1 ≤ level cap rate l now then (true, ⟨level cap rate l now - 1, now⟩)
  else (false, ⟨level cap rate l now, now⟩)

/-- The times at which a token is asked for, each with the answer. -/
def answers (l : Option (Level K)) : List K → List (K × Bool)
  | [] => []
  | now :: times =>
    let (given, l') := take cap rate l now
    (now, given) :: answers (some l') times

/-- Neither less than nothing nor more than the capacity. -/
structure Within (l : Level K) : Prop where
  nonneg : 0 ≤ l.tokens
  le_cap : l.tokens ≤ cap

section Counts

variable {K : Type} [LinearOrder K] {a e : K} {log : List (K × Bool)}

/-- How many tokens are given from `a` to `e`. -/
def given (a e : K) (log : List (K × Bool)) : ℕ :=
  (log.filter fun p => a ≤ p.1 ∧ p.1 ≤ e ∧ p.2).length

theorem given_cons (p : K × Bool) : given a e (p :: log) =
    (if a ≤ p.1 ∧ p.1 ≤ e ∧ p.2 then 1 else 0) + given a e log := by
  rw [given, List.filter_cons]
  split_ifs with h h' h'
  · rw [List.length_cons, given, Nat.add_comm]
  · exact absurd (by simpa using h) h'
  · exact absurd (by simpa using h') h
  · rw [Nat.zero_add, given]

/-- Nothing is given in an interval that is over. -/
theorem given_eq_zero (h : ∀ p ∈ log, e < p.1) : given a e log = 0 := by
  rw [given, List.length_eq_zero_iff, List.filter_eq_nil_iff]
  intro p hp hin
  have := h p hp
  simp at hin
  exact absurd hin.2.1 (not_le.mpr this)

end Counts

section Lemmas

variable {cap rate} {a e now : K} {log : List (K × Bool)} {l : Option (Level K)}

theorem level_le : level cap rate l now ≤ cap := by
  cases l with
  | none => exact le_rfl
  | some l => exact min_le_left _ _

/-- The token that is given is taken from the level. -/
theorem take_add : (take cap rate l now).2.tokens + (if (take cap rate l now).1 then 1 else 0) =
    level cap rate l now := by
  rw [take]
  split_ifs <;> simp_all

theorem take_time : (take cap rate l now).2.time = now := by
  rw [take]
  split_ifs <;> rfl

theorem mem_answers {p : K × Bool} : ∀ {times : List K} {l : Option (Level K)},
    p ∈ answers cap rate l times → p.1 ∈ times
  | [], _, h => by cases h
  | now :: times, l, h => by
    rcases List.mem_cons.mp h with rfl | hrest
    · exact List.mem_cons_self
    · exact List.mem_cons_of_mem _ (mem_answers hrest)

/-- Nothing is given before the first time. -/
theorem given_late {times : List K} (hsorted : (now :: times).Pairwise (· ≤ ·)) (hend : e < now) :
    given a e (answers cap rate l (now :: times)) = 0 := by
  refine given_eq_zero fun p hp => ?_
  rcases List.mem_cons.mp (mem_answers hp) with heq | hlater
  · rw [heq]
    exact hend
  · exact hend.trans_le ((List.pairwise_cons.mp hsorted).1 _ hlater)

variable [IsStrictOrderedRing K]

theorem within_take (hcap : 0 ≤ level cap rate l now) :
    Within cap (take cap rate l now).2 := by
  have hle : level cap rate l now ≤ cap := level_le
  rw [take]
  split_ifs with hone
  · exact ⟨by dsimp only; linarith, by dsimp only; linarith⟩
  · exact ⟨hcap, hle⟩

theorem level_nonneg {l : Level K} (h : Within cap l) (hrate : 0 ≤ rate) (hnow : l.time ≤ now) :
    0 ≤ level cap rate (some l) now := by
  have hflow : 0 ≤ (now - l.time) * rate := mul_nonneg (by linarith) hrate
  exact le_min (h.nonneg.trans h.le_cap) (by linarith [h.nonneg])

/-- Some time after a full bucket's worth of time, the bucket is full again. -/
theorem level_eq_cap {l : Level K} (h : Within cap l) (hfull : cap ≤ (now - l.time) * rate) :
    level cap rate (some l) now = level cap rate none now :=
  min_eq_left (by linarith [h.nonneg])

/-- One look, given what is given later. -/
theorem given_step {times : List K}
    (hmore : (given a e (answers cap rate (some (take cap rate l now).2) times) : K) ≤
      (take cap rate l now).2.tokens + rate * (e - now)) :
    (given a e (answers cap rate l (now :: times)) : K) ≤
      level cap rate l now + rate * (e - now) := by
  have htake : (take cap rate l now).2.tokens + (if (take cap rate l now).1 then 1 else 0) =
      level cap rate l now := take_add
  have hhead : ((if a ≤ now ∧ now ≤ e ∧ (take cap rate l now).1 then 1 else 0 : ℕ) : K) ≤
      if (take cap rate l now).1 then 1 else 0 := by
    split_ifs <;> simp_all
  rw [answers, given_cons, Nat.cast_add]
  linarith

/-- From a level on: what is there, and what flows in until the end. -/
theorem given_from (a : K) (hrate : 0 ≤ rate) : ∀ {times : List K} {l : Level K}, Within cap l →
    (l.time :: times).Pairwise (· ≤ ·) → l.time ≤ e →
      (given a e (answers cap rate (some l) times) : K) ≤ l.tokens + rate * (e - l.time)
  | [], l, h, _, he => by
    have hflow : 0 ≤ rate * (e - l.time) := mul_nonneg hrate (by linarith)
    simpa [answers, given] using by linarith [h.nonneg]
  | now :: times, l, h, hsorted, he => by
    obtain ⟨hfirst, hrest⟩ := List.pairwise_cons.mp hsorted
    have hnow : l.time ≤ now := hfirst now List.mem_cons_self
    by_cases hend : now ≤ e
    · have hmore := given_from a hrate (within_take (level_nonneg h hrate hnow))
        (by rwa [take_time]) (by rwa [take_time])
      rw [take_time] at hmore
      have hlevel : level cap rate (some l) now ≤ l.tokens + (now - l.time) * rate :=
        min_le_right _ _
      have hsplit : rate * (e - l.time) = rate * (e - now) + (now - l.time) * rate := by ring
      linarith [given_step hmore]
    · have hflow : 0 ≤ rate * (e - l.time) := mul_nonneg hrate (by linarith)
      rw [given_late hrest (not_le.mp hend)]
      simpa using by linarith [h.nonneg]

/-- From `a` to `e` no more is given than the capacity and what flows in. -/
theorem given_le (hrate : 0 ≤ rate) (hcap : 0 ≤ cap) (hae : a ≤ e) : ∀ {times : List K}
    {l : Option (Level K)}, (∀ l' ∈ l, Within cap l' ∧ ∀ now ∈ times, l'.time ≤ now) →
      times.Pairwise (· ≤ ·) →
        (given a e (answers cap rate l times) : K) ≤ cap + rate * (e - a)
  | [], l, _, _ => by
    have hflow : 0 ≤ rate * (e - a) := mul_nonneg hrate (by linarith)
    simpa [answers, given] using by linarith
  | now :: times, l, h, hsorted => by
    have hflow : 0 ≤ rate * (e - a) := mul_nonneg hrate (by linarith)
    have hin : Within cap (take cap rate l now).2 := by
      cases l with
      | none => exact within_take hcap
      | some l =>
        obtain ⟨hwithin, htimes⟩ := h l rfl
        exact within_take (level_nonneg hwithin hrate (htimes now List.mem_cons_self))
    have hlater := (List.pairwise_cons.mp hsorted).1
    by_cases hbefore : now < a
    · rw [answers, given_cons, if_neg fun hcount => absurd hcount.1 (not_le.mpr hbefore),
        Nat.zero_add]
      refine given_le hrate hcap hae (fun l' hl' => ?_) (List.pairwise_cons.mp hsorted).2
      cases hl'
      rw [take_time]
      exact ⟨hin, hlater⟩
    · by_cases hend : now ≤ e
      · have hmore := given_from (e := e) a hrate hin (by rwa [take_time]) (by rwa [take_time])
        rw [take_time] at hmore
        have hrate' : rate * (e - now) ≤ rate * (e - a) :=
          mul_le_mul_of_nonneg_left (by linarith [not_lt.mp hbefore]) hrate
        linarith [given_step hmore, (level_le : level cap rate l now ≤ cap)]
      · rw [given_late hsorted (not_le.mp hend), Nat.cast_zero]
        linarith

end Lemmas

end Cathedral.TokenBucket
