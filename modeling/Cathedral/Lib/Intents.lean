import Cathedral.Lib.Run
import Mathlib.Data.List.Nodup

/-!
# Cathedral.Lib.Intents — submission behind a journal of signed intents

A sender that must not submit anything twice journals each signed payload before
it hands the payload over. At most one signed intent is outstanding; it is
retired before the next one is signed.

Over every run from an empty log:

* `signed_of_run` — the journal lists what was signed, in order and without
  repetition;
* `submitted_of_run` — nothing is submitted twice;
* `submitted_settled` — what is submitted was signed before, with that payload,
  and everything else signed before has been retired.
-/

namespace Cathedral.Intents

universe u v

variable {ι : Type u} {π : Type v}

/-- The ids signed so far, the outstanding intent, and the ids handed over. -/
structure Log (ι : Type u) (π : Type v) where
  signed : List ι
  outstanding : Option (ι × π)
  submitted : List ι

def Log.empty : Log ι π := ⟨[], none, []⟩

inductive Move (ι : Type u) (π : Type v) where
  | signed (id : ι) (payload : π)
  | submitted (id : ι) (payload : π)
  | retired (id : ι)
  | idle

def Move.signedId : Move ι π → Option ι
  | .signed id _ => some id
  | _ => none

def Move.submittedId : Move ι π → Option ι
  | .submitted id _ => some id
  | _ => none

inductive Step : Log ι π → Move ι π → Log ι π → Prop where
  | signed {ids subs : List ι} {id : ι} {payload : π} (hfresh : id ∉ ids) :
      Step ⟨ids, none, subs⟩ (.signed id payload) ⟨ids ++ [id], some (id, payload), subs⟩
  | submitted {ids subs : List ι} {id : ι} {payload : π} (hfresh : id ∉ subs) :
      Step ⟨ids, some (id, payload), subs⟩ (.submitted id payload)
        ⟨ids, some (id, payload), subs ++ [id]⟩
  | retired {ids subs : List ι} {id : ι} {payload : π} :
      Step ⟨ids, some (id, payload), subs⟩ (.retired id) ⟨ids, none, subs⟩
  | idle {log : Log ι π} : Step log .idle log

/-! ## Soundness -/

/-- Only signed ids are outstanding or handed over. -/
structure Log.Sound (log : Log ι π) : Prop where
  outstanding : ∀ intent ∈ log.outstanding, intent.1 ∈ log.signed
  submitted : ∀ id ∈ log.submitted, id ∈ log.signed

theorem sound_step {log next : Log ι π} {move : Move ι π} (h : log.Sound)
    (hs : Step log move next) : next.Sound := by
  rcases h with ⟨hopen, hsubmitted⟩
  cases hs with
  | @signed ids subs id payload hfresh =>
    refine ⟨?_, fun id' hid' => List.mem_append_left _ (hsubmitted id' hid')⟩
    intro intent hintent
    cases hintent
    simp
  | @submitted ids subs id payload hfresh =>
    refine ⟨hopen, ?_⟩
    intro id' hid'
    rcases List.mem_append.mp hid' with hold | hnew
    · exact hsubmitted id' hold
    · rw [List.mem_singleton] at hnew
      exact hnew ▸ hopen (id, payload) rfl
  | retired => exact ⟨by simp, hsubmitted⟩
  | idle => exact ⟨hopen, hsubmitted⟩

/-! ## Histories -/

/-- The log of a history: what was signed and handed over, and what is not retired. -/
structure Follows (moves : List (Move ι π)) (log : Log ι π) : Prop where
  signed : log.signed = moves.filterMap Move.signedId
  signedOnce : log.signed.Nodup
  submitted : log.submitted = moves.filterMap Move.submittedId
  submittedOnce : log.submitted.Nodup
  origin : ∀ id payload, log.outstanding = some (id, payload) → .signed id payload ∈ moves
  settled : ∀ id payload, .signed id payload ∈ moves →
    .retired id ∈ moves ∨ log.outstanding = some (id, payload)

variable {moves : List (Move ι π)}

/-- One move extends the history by itself. -/
theorem follows_step {log next : Log ι π} {move : Move ι π} (h : Follows moves log)
    (hs : Step log move next) : Follows (moves ++ [move]) next := by
  rcases h with ⟨hsigned, hnodup, hsubmitted, hsubNodup, horigin, hsettled⟩
  cases hs with
  | @signed ids subs id payload hfresh =>
    refine ⟨?_, by simpa using hnodup.concat hfresh, ?_, hsubNodup, ?_, ?_⟩
    · simpa [List.filterMap_cons, Move.signedId] using hsigned
    · simpa [List.filterMap_cons, Move.submittedId] using hsubmitted
    · intro id' payload' heq
      cases heq
      simp
    · intro id' payload' hmem
      rcases List.mem_append.mp hmem with hold | hnew
      · -- nothing was outstanding, so every earlier intent is retired
        rcases hsettled id' payload' hold with hretired | hopen
        · exact .inl (List.mem_append_left _ hretired)
        · cases hopen
      · rw [List.mem_singleton] at hnew
        cases hnew
        exact .inr rfl
  | @submitted ids subs id payload hfresh =>
    refine ⟨?_, hnodup, ?_, by simpa using hsubNodup.concat hfresh, ?_, ?_⟩
    · simpa [List.filterMap_cons, Move.signedId] using hsigned
    · simpa [List.filterMap_cons, Move.submittedId] using hsubmitted
    · intro id' payload' heq
      exact List.mem_append_left _ (horigin id' payload' heq)
    · intro id' payload' hmem
      rcases hsettled id' payload' (by simpa using hmem) with hretired | hopen
      · exact .inl (List.mem_append_left _ hretired)
      · exact .inr hopen
  | @retired ids subs id payload =>
    refine ⟨?_, hnodup, ?_, hsubNodup, ?_, ?_⟩
    · simpa [List.filterMap_cons, Move.signedId] using hsigned
    · simpa [List.filterMap_cons, Move.submittedId] using hsubmitted
    · intro id' payload' heq
      cases heq
    · intro id' payload' hmem
      refine .inl ?_
      rcases hsettled id' payload' (by simpa using hmem) with hretired | hopen
      · exact List.mem_append_left _ hretired
      · cases hopen
        simp
  | idle =>
    refine ⟨?_, hnodup, ?_, hsubNodup, ?_, ?_⟩
    · simpa [List.filterMap_cons, Move.signedId] using hsigned
    · simpa [List.filterMap_cons, Move.submittedId] using hsubmitted
    · intro id' payload' heq
      exact List.mem_append_left _ (horigin id' payload' heq)
    · intro id' payload' hmem
      rcases hsettled id' payload' (by simpa using hmem) with hretired | hopen
      · exact .inl (List.mem_append_left _ hretired)
      · exact .inr hopen

variable {log : Log ι π}

theorem follows_run (h : Run Step Log.empty moves log) : Follows moves log := by
  refine Run.history (P := Follows) ?_ (fun _ _ _ _ hfollows hs => follows_step hfollows hs) h
  exact ⟨rfl, List.nodup_nil, rfl, List.nodup_nil, by simp [Log.empty], by simp⟩

/-! ## Runs -/

/-- The journal lists what was signed, in order and without repetition. -/
theorem signed_of_run (h : Run Step Log.empty moves log) :
    log.signed = moves.filterMap Move.signedId ∧ log.signed.Nodup :=
  ⟨(follows_run h).signed, (follows_run h).signedOnce⟩

/-- Nothing is submitted twice. -/
theorem submitted_of_run (h : Run Step Log.empty moves log) :
    (moves.filterMap Move.submittedId).Nodup := by
  have hfollows := follows_run h
  exact hfollows.submitted ▸ hfollows.submittedOnce

/-- What is submitted was signed before with that payload, and every other id signed
before has been retired. -/
theorem submitted_settled {before after : List (Move ι π)} {id : ι} {payload : π}
    (h : Run Step Log.empty (before ++ .submitted id payload :: after) log) :
    .signed id payload ∈ before ∧
      ∀ id' payload', .signed id' payload' ∈ before → id' ≠ id → .retired id' ∈ before := by
  rcases h.step_at with ⟨mid, _, hbefore, hs, _⟩
  have hopen : mid.outstanding = some (id, payload) := by
    cases hs
    rfl
  have hfollows := follows_run hbefore
  refine ⟨hfollows.origin id payload hopen, ?_⟩
  intro id' payload' hsigned hne
  rcases hfollows.settled id' payload' hsigned with hretired | hother
  · exact hretired
  · rw [hopen, Option.some.injEq, Prod.mk.injEq] at hother
    exact absurd hother.1.symm hne

end Cathedral.Intents
