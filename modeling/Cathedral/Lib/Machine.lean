import Cathedral.Lib.Guarded

/-!
# Cathedral.Lib.Machine — machines whose actions answer

A machine takes an action when its function yields the next state with an answer, and is
stopped where it yields none. A label of its runs is an action with its answer.
-/

namespace Cathedral

universe u v w

variable {σ : Type u} {α : Type v} {β : Type w}

/-- One action, with its answer. -/
def Acts (act : σ → α → Option (σ × β)) (s : σ) (l : α × β) (t : σ) : Prop :=
  act s l.1 = some (t, l.2)

/-- The actions of a list one after the other. -/
def perform (act : σ → α → Option (σ × β)) (s : σ) : List α → Option (List (α × β) × σ)
  | [] => some ([], s)
  | a :: rest =>
    (act s a).bind fun r => (perform act r.1 rest).map fun r' => ((a, r.2) :: r'.1, r'.2)

variable {act : σ → α → Option (σ × β)} {actions : List α}

theorem Acts.run_of_perform {P : σ → α → Prop} :
    (∀ a ∈ actions, ∀ s, P s a) → ∀ {s t : σ} {ls : List (α × β)},
      perform act s actions = some (ls, t) →
        Run (fun s l t => Acts act s l t ∧ P s l.1) s ls t := by
  induction actions with
  | nil =>
    intro _ s t ls h
    cases h
    exact .nil
  | cons a rest ih =>
    intro hP s t ls h
    obtain ⟨⟨m, b⟩, hact, h⟩ := Option.bind_eq_some_iff.mp h
    obtain ⟨⟨ls', u⟩, hrest, heq⟩ := Option.map_eq_some_iff.mp h
    cases heq
    have hfirst : Acts act s (a, b) m ∧ P s a := ⟨hact, hP a List.mem_cons_self s⟩
    exact (Run.single_iff.mpr hfirst).append
      (ih (fun c hc => hP c (List.mem_cons_of_mem a hc)) hrest)

/-- A computed list of actions is a run. -/
theorem Acts.run {s t : σ} {ls : List (α × β)} (h : perform act s actions = some (ls, t)) :
    Run (Acts act) s ls t :=
  (Acts.run_of_perform (P := fun _ _ => True) (fun _ _ _ => trivial) h).weaken fun _ _ _ hs => hs.1

/-- A machine that only takes the actions that meet a condition. -/
def guarded (act : σ → α → Option (σ × β)) (K : σ → α → Prop) [∀ s a, Decidable (K s a)] (s : σ)
    (a : α) : Option (σ × β) :=
  if K s a then act s a else none

/-- A list of actions that is computed under a condition is a run under it. -/
theorem Acts.run_of_guarded {K : σ → α → Prop} [∀ s a, Decidable (K s a)] {s t : σ}
    {ls : List (α × β)} (h : perform (guarded act K) s actions = some (ls, t)) :
    Run (fun s l t => Acts act s l t ∧ K s l.1) s ls t := by
  refine (Acts.run h).weaken fun u l v hacts => ?_
  unfold Acts guarded at hacts
  split_ifs at hacts with hK
  exact ⟨hacts, hK⟩

/-- The labels of a computed run carry the actions of the list. -/
theorem perform_actions :
    ∀ {s t : σ} {ls : List (α × β)}, perform act s actions = some (ls, t) →
      ls.map Prod.fst = actions := by
  induction actions with
  | nil =>
    intro s t ls h
    cases h
    rfl
  | cons a rest ih =>
    intro s t ls h
    obtain ⟨⟨m, b⟩, -, h⟩ := Option.bind_eq_some_iff.mp h
    obtain ⟨⟨ls', u⟩, hrest, heq⟩ := Option.map_eq_some_iff.mp h
    cases heq
    rw [List.map_cons, ih hrest]

/-! ## Answers -/

/-- What the actions of a run have answered, where an action may answer nothing. -/
def answers (ls : List (α × Option β)) : List β := ls.filterMap Prod.snd

@[simp] theorem answers_nil : answers ([] : List (α × Option β)) = [] := rfl

theorem answers_snoc (ls : List (α × Option β)) (l : α × Option β) :
    answers (ls ++ [l]) = answers ls ++ l.2.toList := by
  cases h : l.2 with
  | none => simp [answers, h]
  | some b => simp [answers, h]

theorem mem_answers_snoc {ls : List (α × Option β)} {l : α × Option β} {b : β} :
    b ∈ answers (ls ++ [l]) ↔ b ∈ answers ls ∨ b ∈ l.2 := by
  rw [answers_snoc, List.mem_append, Option.mem_toList]
  rfl

/-! ## Histories -/

/-- Every entry of a list has a property of all that came before it. -/
def EachAfter (P : List β → β → Prop) : List β → List β → Prop
  | _, [] => True
  | old, x :: rest => P old x ∧ EachAfter P (old ++ [x]) rest

variable {P : List β → β → Prop}

theorem eachAfter_append : ∀ {a b old : List β},
    EachAfter P old (a ++ b) ↔ EachAfter P old a ∧ EachAfter P (old ++ a) b
  | [], b, old => by simp [EachAfter]
  | x :: a, b, old => by
    rw [List.cons_append, EachAfter, EachAfter, eachAfter_append, List.append_assoc, and_assoc]
    rfl

theorem EachAfter.both {Q R : List β → β → Prop} (hall : ∀ before x, P before x → Q before x →
    R before x) : ∀ {new old : List β}, EachAfter P old new → EachAfter Q old new →
      EachAfter R old new
  | [], _, _, _ => trivial
  | _ :: _, _, ⟨hp, hps⟩, ⟨hq, hqs⟩ => ⟨hall _ _ hp hq, hps.both hall hqs⟩

theorem eachAfter_iff : ∀ {new old : List β},
    EachAfter P old new ↔ ∀ before x after, new = before ++ x :: after → P (old ++ before) x
  | [], old => by simp [EachAfter]
  | y :: new, old => by
    rw [EachAfter, eachAfter_iff]
    constructor
    · rintro ⟨hfirst, hrest⟩ before x after heq
      cases before with
      | nil =>
        cases heq
        simpa using hfirst
      | cons z before =>
        cases heq
        simpa using hrest before x after rfl
    · intro h
      refine ⟨by simpa using h [] y new rfl, fun before x after heq => ?_⟩
      subst heq
      simpa using h (y :: before) x after rfl

end Cathedral
