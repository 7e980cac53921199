import Cathedral.Lib.Run

/-!
# Cathedral.Lib.Durable — computations with durable effects

A process that holds a lock reads and checks, now and then replaces a file or
calls out, and ends with a value or an exception. What survives it are its
effects: every effect is a label and the state that it leaves, and a crash keeps
a prefix of them.
-/

namespace Cathedral

/-- What a computation did, in order, and how it ended. -/
structure Outcome (σ ℓ ε α : Type) where
  trace : List (ℓ × σ)
  result : Except ε α

/-- A computation over a durable state. -/
def Durable (σ ℓ ε α : Type) : Type := σ → Outcome σ ℓ ε α

namespace Durable

variable {σ ℓ ε α β : Type}

/-- The state that a list of effects leaves. -/
def last (s : σ) : List (ℓ × σ) → σ
  | [] => s
  | (_, t) :: rest => last t rest

@[simp] theorem last_nil (s : σ) : last s ([] : List (ℓ × σ)) = s := rfl

@[simp] theorem last_cons (s : σ) (e : ℓ × σ) (rest : List (ℓ × σ)) :
    last s (e :: rest) = last e.2 rest := rfl

@[simp] theorem last_append (s : σ) (xs ys : List (ℓ × σ)) :
    last s (xs ++ ys) = last (last s xs) ys := by
  induction xs generalizing s with
  | nil => rfl
  | cons e rest ih => exact ih e.2

/-! ## Constructs -/

/-- Sequencing: the second part starts in the state that the first one leaves. -/
def andThen (p : Durable σ ℓ ε α) (f : α → Durable σ ℓ ε β) : Durable σ ℓ ε β := fun s =>
  match (p s).result with
  | .error e => ⟨(p s).trace, .error e⟩
  | .ok a =>
    let rest := f a (last s (p s).trace)
    ⟨(p s).trace ++ rest.trace, rest.result⟩

instance : Monad (Durable σ ℓ ε) where
  pure a := fun _ => ⟨[], .ok a⟩
  bind := andThen

/-- A computation without effects. -/
def lift (x : Except ε α) : Durable σ ℓ ε α := fun _ => ⟨[], x⟩

instance : MonadLift (Except ε) (Durable σ ℓ ε) where
  monadLift := lift

def read : Durable σ ℓ ε σ := fun s => ⟨[], .ok s⟩

/-- One atomic effect: `op` checks the state and replaces it, or raises and
leaves it alone. -/
def effect (label : σ → ℓ) (op : σ → Except ε σ) : Durable σ ℓ ε Unit := fun s =>
  match op s with
  | .ok t => ⟨[(label s, t)], .ok ()⟩
  | .error e => ⟨[], .error e⟩

/-- `try: p except Exception as exc: handler(exc)`. -/
def handle (p : Durable σ ℓ ε α) (handler : ε → Durable σ ℓ ε α) : Durable σ ℓ ε α := fun s =>
  match (p s).result with
  | .ok a => ⟨(p s).trace, .ok a⟩
  | .error e =>
    let rest := handler e (last s (p s).trace)
    ⟨(p s).trace ++ rest.trace, rest.result⟩

/-! ## Evaluation -/

section Evaluation

variable {p : Durable σ ℓ ε α} {f : α → Durable σ ℓ ε β} {s : σ}

theorem bind_of_ok {a : α} (h : (p s).result = .ok a) :
    (p >>= f) s = ⟨(p s).trace ++ (f a (last s (p s).trace)).trace,
      (f a (last s (p s).trace)).result⟩ := by
  simp only [bind, andThen, h]

theorem bind_of_error {e : ε} (h : (p s).result = .error e) :
    (p >>= f) s = ⟨(p s).trace, .error e⟩ := by
  simp only [bind, andThen, h]

/-- A sequence has the effects of its first part first. -/
theorem exists_bind_trace (p : Durable σ ℓ ε α) (f : α → Durable σ ℓ ε β) (s : σ) :
    ∃ rest, ((p >>= f) s).trace = (p s).trace ++ rest := by
  cases h : (p s).result with
  | ok a => exact ⟨_, by rw [bind_of_ok h]⟩
  | error e => exact ⟨[], by rw [bind_of_error h, List.append_nil]⟩

/-- A query that answers leaves its answer to the rest. -/
theorem lift_bind_of_ok {x : Except ε α} {a : α} (h : x = .ok a) : (lift x >>= f) s = f a s := by
  subst h
  rfl

/-- A query that raises ends the computation, without effects. -/
theorem lift_bind_of_error {x : Except ε α} {e : ε} (h : x = .error e) :
    (lift x >>= f) s = ⟨[], .error e⟩ := by
  subst h
  rfl

theorem effect_of_ok {label : σ → ℓ} {op : σ → Except ε σ} {t : σ} (h : op s = .ok t) :
    (effect label op : Durable σ ℓ ε Unit) s = ⟨[(label s, t)], .ok ()⟩ := by
  simp only [effect, h]

theorem effect_of_error {label : σ → ℓ} {op : σ → Except ε σ} {e : ε} (h : op s = .error e) :
    (effect label op : Durable σ ℓ ε Unit) s = ⟨[], .error e⟩ := by
  simp only [effect, h]

theorem handle_of_ok {handler : ε → Durable σ ℓ ε α} {a : α} (h : (p s).result = .ok a) :
    handle p handler s = ⟨(p s).trace, .ok a⟩ := by
  simp only [handle, h]

theorem handle_of_error {handler : ε → Durable σ ℓ ε α} {e : ε} (h : (p s).result = .error e) :
    handle p handler s = ⟨(p s).trace ++ (handler e (last s (p s).trace)).trace,
      (handler e (last s (p s).trace)).result⟩ := by
  simp only [handle, h]

end Evaluation

/-! ## Effects as steps -/

/-- Every effect of the list is a step from the state before it. -/
def Traced (step : σ → ℓ → σ → Prop) : σ → List (ℓ × σ) → Prop
  | _, [] => True
  | s, (l, t) :: rest => step s l t ∧ Traced step t rest

section Traced

variable {step : σ → ℓ → σ → Prop}

@[simp] theorem traced_nil (s : σ) : Traced step s ([] : List (ℓ × σ)) := trivial

theorem traced_append {xs ys : List (ℓ × σ)} : ∀ {s : σ},
    Traced step s (xs ++ ys) ↔ Traced step s xs ∧ Traced step (last s xs) ys := by
  induction xs with
  | nil => simp
  | cons e rest ih =>
    intro s
    simp only [List.cons_append, Traced, ih, last_cons, and_assoc]

/-- A crash keeps a prefix of the effects. -/
theorem traced_take {xs : List (ℓ × σ)} {s : σ} (h : Traced step s xs) (n : ℕ) :
    Traced step s (xs.take n) := by
  rw [← List.take_append_drop n xs] at h
  exact (traced_append.mp h).1

/-- Effects that are steps form a run. -/
theorem run_of_traced {xs : List (ℓ × σ)} : ∀ {s : σ},
    Traced step s xs → Run step s (xs.map Prod.fst) (last s xs) := by
  induction xs with
  | nil => exact fun _ => .nil
  | cons e rest ih =>
    intro s h
    have hfirst : Run step s [e.1] e.2 := Run.single_iff.mpr h.1
    exact hfirst.append (ih h.2)

end Traced

/-! ## Weakest preconditions -/

/-- From `s` every effect of `p` is a step, and `p` returns with `Q` or raises
with `E`. -/
def wp (step : σ → ℓ → σ → Prop) (p : Durable σ ℓ ε α) (Q : α → σ → Prop) (E : ε → σ → Prop)
    (s : σ) : Prop :=
  Traced step s (p s).trace ∧
    match (p s).result with
    | .ok a => Q a (last s (p s).trace)
    | .error e => E e (last s (p s).trace)

section Rules

variable {step : σ → ℓ → σ → Prop} {Q Q' : α → σ → Prop} {E E' : ε → σ → Prop} {s : σ}

theorem wp_pure {a : α} : wp step (pure a : Durable σ ℓ ε α) Q E s ↔ Q a s := by
  simp [wp, pure]

theorem wp_lift {x : Except ε α} :
    wp step (lift x : Durable σ ℓ ε α) Q E s ↔
      (∀ a, x = .ok a → Q a s) ∧ (∀ e, x = .error e → E e s) := by
  cases x <;> simp [wp, lift]

theorem wp_read {Q : σ → σ → Prop} : wp step (read : Durable σ ℓ ε σ) Q E s ↔ Q s s := by
  simp [wp, read]

theorem wp_effect {label : σ → ℓ} {op : σ → Except ε σ} {Q : Unit → σ → Prop} :
    wp step (effect label op) Q E s ↔
      (∀ t, op s = .ok t → step s (label s) t ∧ Q () t) ∧ (∀ e, op s = .error e → E e s) := by
  cases hop : op s <;> simp [wp, effect, hop, Traced]

theorem wp_bind {p : Durable σ ℓ ε α} {f : α → Durable σ ℓ ε β} {Q : β → σ → Prop} :
    wp step (p >>= f) Q E s ↔ wp step p (fun a => wp step (f a) Q E) E s := by
  simp only [wp, bind, andThen]
  cases hres : (p s).result with
  | error e => simp
  | ok a => simp only [traced_append, last_append, and_assoc]

theorem wp_handle {p : Durable σ ℓ ε α} {handler : ε → Durable σ ℓ ε α} :
    wp step (handle p handler) Q E s ↔ wp step p Q (fun e => wp step (handler e) Q E) s := by
  simp only [wp, handle]
  cases hres : (p s).result with
  | ok a => simp
  | error e => simp only [traced_append, last_append, and_assoc]

/-- Weaker postconditions. -/
theorem wp_mono {p : Durable σ ℓ ε α} (h : wp step p Q E s) (hQ : ∀ a t, Q a t → Q' a t)
    (hE : ∀ e t, E e t → E' e t) : wp step p Q' E' s := by
  refine ⟨h.1, ?_⟩
  have hpost := h.2
  cases hres : (p s).result with
  | ok a =>
    rw [hres] at hpost
    exact hQ a _ hpost
  | error e =>
    rw [hres] at hpost
    exact hE e _ hpost

end Rules

/-! ## Invariants -/

/-- Started in `I`, the computation makes only steps and ends in `I`. -/
def Keeps (step : σ → ℓ → σ → Prop) (I : σ → Prop) (p : Durable σ ℓ ε α) : Prop :=
  ∀ s, I s → wp step p (fun _ => I) (fun _ => I) s

section Keeps

variable {step : σ → ℓ → σ → Prop} {I : σ → Prop}

theorem Keeps.pure (a : α) : Keeps step I (pure a : Durable σ ℓ ε α) :=
  fun _ hI => wp_pure.mpr hI

theorem Keeps.lift (x : Except ε α) : Keeps step I (lift x : Durable σ ℓ ε α) :=
  fun _ hI => wp_lift.mpr ⟨fun _ _ => hI, fun _ _ => hI⟩

theorem Keeps.read : Keeps step I (read : Durable σ ℓ ε σ) := fun _ hI => wp_read.mpr hI

theorem Keeps.bind {p : Durable σ ℓ ε α} {f : α → Durable σ ℓ ε β} (hp : Keeps step I p)
    (hf : ∀ a, Keeps step I (f a)) : Keeps step I (p >>= f) := fun s hI =>
  wp_bind.mpr (wp_mono (hp s hI) (fun a t ht => hf a t ht) fun _ _ ht => ht)

theorem Keeps.handle {p : Durable σ ℓ ε α} {handler : ε → Durable σ ℓ ε α}
    (hp : Keeps step I p) (hh : ∀ e, Keeps step I (handler e)) :
    Keeps step I (handle p handler) := fun s hI =>
  wp_handle.mpr (wp_mono (hp s hI) (fun _ _ ht => ht) fun e t ht => hh e t ht)

end Keeps

/-! ## Sessions -/

/-- Computations of a family, one at a time on one state, each of which may be
cut after any of its effects. -/
inductive Sessions {ι : Type} (programs : ι → Durable σ ℓ ε α) (s : σ) : List (ℓ × σ) → Prop where
  | start : Sessions programs s []
  | session {trace : List (ℓ × σ)} (i : ι) (n : ℕ) :
      Sessions programs s trace →
        Sessions programs s (trace ++ (programs i (last s trace)).trace.take n)

/-- When every computation keeps an invariant that steps preserve, sessions with
crashes make only steps. -/
theorem Sessions.traced {ι : Type} {programs : ι → Durable σ ℓ ε α} {step : σ → ℓ → σ → Prop}
    {I : σ → Prop} (hstep : ∀ s l t, I s → step s l t → I t)
    (hkeeps : ∀ i, Keeps step I (programs i)) {s : σ} (h0 : I s) {trace : List (ℓ × σ)}
    (h : Sessions programs s trace) : Traced step s trace := by
  induction h with
  | start => exact traced_nil s
  | @session trace i n _ ih =>
    have hI : I (last s trace) := (run_of_traced ih).invariant h0 hstep
    exact traced_append.mpr ⟨ih, traced_take (hkeeps i _ hI).1 n⟩

end Durable

end Cathedral
