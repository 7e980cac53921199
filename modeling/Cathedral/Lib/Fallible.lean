import Cathedral.Lib.Dict

/-!
# Cathedral.Lib.Fallible — computations that may raise

When a sequence of fallible steps returns, and what it returns. A caller takes a
run of `bind`s apart with `bind_eq_ok`, and a comprehension with `mapM_eq_ok`.
-/

namespace Cathedral

variable {ε α β : Type}

/-- A sequence returns exactly when both parts do. -/
theorem bind_eq_ok {x : Except ε α} {f : α → Except ε β} {b : β} :
    x >>= f = .ok b ↔ ∃ a, x = .ok a ∧ f a = .ok b := by
  cases x with
  | error e => simp [bind, Except.bind]
  | ok a => simp [bind, Except.bind]

/-- A sequence raises when its first part does, or else its second. -/
theorem bind_eq_error {x : Except ε α} {f : α → Except ε β} {e : ε} :
    x >>= f = .error e ↔ x = .error e ∨ ∃ a, x = .ok a ∧ f a = .error e := by
  cases x with
  | error e' => simp [bind, Except.bind]
  | ok a => simp [bind, Except.bind]

theorem map_eq_ok {f : α → β} {x : Except ε α} {b : β} :
    f <$> x = .ok b ↔ ∃ a, x = .ok a ∧ f a = b := by
  cases x with
  | error e => simp [Functor.map, Except.map]
  | ok a => simp [Functor.map, Except.map]

theorem toOption_eq_some {ε α : Type} {x : Except ε α} {a : α} :
    x.toOption = some a ↔ x = .ok a := by
  cases x with
  | error e => simp [Except.toOption]
  | ok b => simp [Except.toOption]

theorem exists_of_forall₂ {α β : Type} {R : α → β → Prop} {xs : List α} {ys : List β}
    (h : List.Forall₂ R xs ys) {x : α} (hx : x ∈ xs) : ∃ y ∈ ys, R x y := by
  induction h with
  | nil => cases hx
  | @cons a b _ _ hab _ ih =>
    rcases List.mem_cons.mp hx with rfl | hx
    · exact ⟨b, List.mem_cons_self .., hab⟩
    · rcases ih hx with ⟨y, hy, hR⟩
      exact ⟨y, List.mem_cons_of_mem _ hy, hR⟩

theorem map_eq_of_forall₂ {α β γ : Type} {f : α → γ} {g : β → γ} {xs : List α} {ys : List β}
    (h : List.Forall₂ (fun x y => f x = g y) xs ys) : xs.map f = ys.map g := by
  induction h with
  | nil => rfl
  | cons hxy _ ih => rw [List.map_cons, List.map_cons, hxy, ih]

/-- A comprehension returns the values of its items, all of which return. -/
theorem mapM_eq_ok {f : α → Except ε β} : ∀ {xs : List α} {ys : List β},
    xs.mapM f = .ok ys ↔ List.Forall₂ (fun x y => f x = .ok y) xs ys
  | [], ys => by
    rw [List.mapM_nil, List.forall₂_nil_left_iff]
    simp [pure, Except.pure, eq_comm]
  | x :: xs, ys => by
    rw [List.mapM_cons, bind_eq_ok, List.forall₂_cons_left_iff]
    constructor
    · rintro ⟨y, hy, h⟩
      rcases bind_eq_ok.mp h with ⟨rest, hrest, h⟩
      cases h
      exact ⟨y, rest, hy, mapM_eq_ok.mp hrest, rfl⟩
    · rintro ⟨y, rest, hy, hrest, rfl⟩
      exact ⟨y, hy, bind_eq_ok.mpr ⟨rest, mapM_eq_ok.mpr hrest, rfl⟩⟩

theorem mapM_isOk {f : α → Except ε β} : ∀ {xs : List α},
    (∀ x ∈ xs, ∃ y, f x = .ok y) → ∃ ys, xs.mapM f = .ok ys
  | [], _ => ⟨[], rfl⟩
  | x :: xs, h => by
    rcases h x (List.mem_cons_self ..) with ⟨y, hy⟩
    rcases mapM_isOk fun z hz => h z (List.mem_cons_of_mem _ hz) with ⟨ys, hys⟩
    exact ⟨y :: ys, mapM_eq_ok.mpr (.cons hy (mapM_eq_ok.mp hys))⟩

/-- A loop of checks returns when every one does. -/
theorem forM_eq_ok {ε α : Type} {f : α → Except ε Unit} : ∀ {xs : List α} {u : Unit},
    xs.forM f = .ok u ↔ ∀ x ∈ xs, f x = .ok ()
  | [], u => by simp [List.forM, pure, Except.pure]
  | x :: xs, u => by
    have hcons : (x :: xs).forM f = (f x >>= fun _ => xs.forM f) := rfl
    rw [hcons, bind_eq_ok, List.forall_mem_cons]
    constructor
    · rintro ⟨⟨⟩, hx, hxs⟩
      exact ⟨hx, forM_eq_ok.mp hxs⟩
    · rintro ⟨hx, hxs⟩
      exact ⟨(), hx, forM_eq_ok.mpr hxs⟩

/-- What every step of a loop has checked holds of all its items. -/
theorem forall_of_foldlM {f : β → α → Except ε β} {P : α → Prop}
    (hstep : ∀ acc x acc', f acc x = .ok acc' → P x) : ∀ {xs : List α} {acc acc' : β},
    xs.foldlM f acc = .ok acc' → ∀ x ∈ xs, P x
  | [], _, _, _, _, hx => by cases hx
  | x :: xs, acc, acc', h, y, hy => by
    rw [List.foldlM_cons] at h
    rcases bind_eq_ok.mp h with ⟨mid, hfirst, hrest⟩
    rcases List.mem_cons.mp hy with rfl | hy
    · exact hstep acc y mid hfirst
    · exact forall_of_foldlM hstep hrest y hy

end Cathedral
