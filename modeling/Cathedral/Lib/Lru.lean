import Mathlib.Data.List.Basic

/-!
# Cathedral.Lib.Lru — memoised functions of a changing environment

A function that reads its environment, memoised under its arguments alone. Each entry
carries the environment it was computed in as a ghost, and a computation over caches
records the entries it used.
-/

namespace Cathedral

universe u v w x y

/-- Entries, the most recently used first, each with the environment of its computation. -/
structure Lru (κ : Type u) (ν : Type v) (ω : Type w) where
  entries : List (κ × ν × ω)

namespace Lru

variable {κ : Type u} {ν : Type v} {ω : Type w}

def empty : Lru κ ν ω := ⟨[]⟩

/-- The entries are what the function returned in their environments. -/
def Sound (f : ω → κ → Option ν) (c : Lru κ ν ω) : Prop :=
  ∀ k v o, (k, v, o) ∈ c.entries → f o k = some v

/-- A new entry; the least recently used go. -/
def store (capacity : ℕ) (c : Lru κ ν ω) (k : κ) (v : ν) (o : ω) : Lru κ ν ω :=
  ⟨((k, v, o) :: c.entries).take capacity⟩

section

variable [DecidableEq κ]

def find? (c : Lru κ ν ω) (k : κ) : Option (ν × ω) :=
  (c.entries.find? fun e => e.1 = k).map Prod.snd

/-- A hit becomes the most recently used. -/
def touch (c : Lru κ ν ω) (k : κ) (v : ν) (o : ω) : Lru κ ν ω :=
  ⟨(k, v, o) :: c.entries.filter fun e => e.1 ≠ k⟩

end

variable {f : ω → κ → Option ν} {c : Lru κ ν ω} {k : κ} {v : ν} {o : ω}

theorem sound_empty : Sound f empty := by
  intro k v o hmem
  cases hmem

theorem sound_store {capacity : ℕ} (h : Sound f c) (hv : f o k = some v) :
    Sound f (c.store capacity k v o) := by
  intro k' v' o' hmem
  rcases List.mem_cons.mp (List.mem_of_mem_take hmem) with heq | hold
  · cases heq
    exact hv
  · exact h k' v' o' hold

variable [DecidableEq κ]

theorem mem_of_find? (h : c.find? k = some (v, o)) : (k, v, o) ∈ c.entries := by
  obtain ⟨e, he, heq⟩ := Option.map_eq_some_iff.mp h
  have hkey : e.1 = k := by simpa using List.find?_some he
  have hentry : e = (k, v, o) := Prod.ext hkey heq
  exact hentry ▸ List.mem_of_find?_eq_some he

theorem sound_find? (h : Sound f c) (hfind : c.find? k = some (v, o)) : f o k = some v :=
  h k v o (mem_of_find? hfind)

theorem sound_touch (h : Sound f c) (hfind : c.find? k = some (v, o)) : Sound f (c.touch k v o) := by
  intro k' v' o' hmem
  rcases List.mem_cons.mp hmem with heq | hold
  · cases heq
    exact sound_find? h hfind
  · exact h k' v' o' (List.mem_filter.mp hold).1

end Lru

/-! ## Computations over caches -/

/-- What a computation leaves, the entries it used and its result; `none` is a raise. -/
structure Traced (σ : Type x) (η : Type y) (α : Type u) where
  state : σ
  hits : List η
  result : Option α

/-- A computation over caches. -/
abbrev Memo (σ : Type x) (η : Type y) (α : Type u) : Type _ := σ → Traced σ η α

namespace Memo

variable {σ : Type x} {η : Type y} {α β : Type u}

/-- A step that uses no cache. -/
def lift (direct : Option α) : Memo σ η α := fun s => ⟨s, [], direct⟩

def bind (m : Memo σ η α) (f : α → Memo σ η β) : Memo σ η β := fun s =>
  match (m s).result with
  | none => ⟨(m s).state, (m s).hits, none⟩
  | some a =>
    let rest := f a (m s).state
    ⟨rest.state, (m s).hits ++ rest.hits, rest.result⟩

/-- Look a value up in one of the caches, or compute and store it. -/
def memoize {κ : Type v} {ω : Type w} [DecidableEq κ] (get : σ → Lru κ α ω)
    (set : σ → Lru κ α ω → σ) (capacity : ℕ) (origin : ω) (hit : ω → η) (k : κ)
    (miss : Memo σ η α) : Memo σ η α := fun s =>
  match (get s).find? k with
  | some (v, o) => ⟨set s ((get s).touch k v o), [hit o], some v⟩
  | none =>
    match (miss s).result with
    | none => miss s
    | some v =>
      ⟨set (miss s).state ((get (miss s).state).store capacity k v origin), (miss s).hits,
        some v⟩

/-- From sound caches and with fresh hits only, the direct result. -/
def Transparent (sound : σ → Prop) (fresh : η → Prop) (m : Memo σ η α) (direct : Option α) :
    Prop :=
  ∀ s, sound s → (∀ h ∈ (m s).hits, fresh h) → (m s).result = direct ∧ sound (m s).state

variable {sound : σ → Prop} {fresh : η → Prop} {m : Memo σ η α} {f : α → Memo σ η β}
variable {direct : Option α} {g : α → Option β}

theorem transparent_lift : Transparent sound fresh (lift direct : Memo σ η α) direct :=
  fun _ hs _ => ⟨rfl, hs⟩

theorem transparent_bind (hm : Transparent sound fresh m direct)
    (hf : ∀ a, Transparent sound fresh (f a) (g a)) :
    Transparent sound fresh (bind m f) (direct.bind g) := by
  intro s hs hhits
  unfold bind at hhits ⊢
  cases hresult : (m s).result with
  | none =>
    rw [hresult] at hhits
    obtain ⟨hdirect, hsound⟩ := hm s hs hhits
    rw [← hdirect, hresult]
    exact ⟨rfl, hsound⟩
  | some a =>
    rw [hresult] at hhits
    obtain ⟨hdirect, hsound⟩ := hm s hs fun h hh => hhits h (List.mem_append_left _ hh)
    rw [← hdirect, hresult]
    exact hf a (m s).state hsound fun h hh => hhits h (List.mem_append_right _ hh)

/-- A computation that raises in the end only has to leave the caches sound. -/
theorem transparent_raise (hm : ∀ s, sound s → sound (m s).state) (hf : ∀ a, f a = lift none) :
    Transparent sound fresh (bind m f) none := by
  intro s hs _
  unfold bind
  cases (m s).result with
  | none => exact ⟨rfl, hm s hs⟩
  | some a =>
    simp only [hf a]
    exact ⟨rfl, hm s hs⟩

/-- A memoised call: an entry that is fresh is the direct result, and what is computed is
stored soundly. -/
theorem transparent_memoize {κ : Type v} {ω : Type w} [DecidableEq κ] {get : σ → Lru κ α ω}
    {set : σ → Lru κ α ω → σ} {capacity : ℕ} {origin : ω} {hit : ω → η} {k : κ}
    {miss : Memo σ η α} (hmiss : Transparent sound fresh miss direct)
    (hhit : ∀ s v o, sound s → (get s).find? k = some (v, o) → fresh (hit o) → some v = direct)
    (htouch : ∀ s v o, sound s → (get s).find? k = some (v, o) →
      sound (set s ((get s).touch k v o)))
    (hstore : ∀ s v, sound s → direct = some v →
      sound (set s ((get s).store capacity k v origin))) :
    Transparent sound fresh (memoize get set capacity origin hit k miss) direct := by
  intro s hs hhits
  unfold memoize at hhits ⊢
  cases hfind : (get s).find? k with
  | some e =>
    obtain ⟨v, o⟩ := e
    rw [hfind] at hhits
    have hfresh := hhits (hit o) (List.mem_singleton_self _)
    exact ⟨hhit s v o hs hfind hfresh, htouch s v o hs hfind⟩
  | none =>
    rw [hfind] at hhits
    cases hresult : (miss s).result with
    | none =>
      rw [hresult] at hhits
      simp only [hresult]
      obtain ⟨hdirect, hsound⟩ := hmiss s hs hhits
      exact ⟨hresult ▸ hdirect, hsound⟩
    | some v =>
      rw [hresult] at hhits
      dsimp only
      obtain ⟨hdirect, hsound⟩ := hmiss s hs hhits
      rw [hresult] at hdirect
      exact ⟨hdirect, hstore _ v hsound hdirect.symm⟩

/-- A memoised call leaves the caches sound, whatever entry it uses. -/
theorem sound_memoize {κ : Type v} {ω : Type w} [DecidableEq κ] {get : σ → Lru κ α ω}
    {set : σ → Lru κ α ω → σ} {capacity : ℕ} {origin : ω} {hit : ω → η} {k : κ}
    (htouch : ∀ s v o, sound s → (get s).find? k = some (v, o) →
      sound (set s ((get s).touch k v o)))
    (hstore : ∀ s v, sound s → direct = some v →
      sound (set s ((get s).store capacity k v origin))) (s : σ) (hs : sound s) :
    sound (memoize get set capacity origin hit k (lift direct) s).state := by
  unfold memoize
  cases hfind : (get s).find? k with
  | some e => exact htouch s e.1 e.2 hs hfind
  | none =>
    cases hdirect : direct with
    | none => exact hs
    | some v => exact hstore s v hs hdirect

/-! ## Results -/

/-! ## Without caches -/

/-- The result of a computation that has no caches. -/
def value (m : Memo Unit η α) : Option α := (m ()).result

@[simp] theorem value_lift (direct : Option α) : value (lift direct : Memo Unit η α) = direct := rfl

@[simp] theorem value_bind (m : Memo Unit η α) (f : α → Memo Unit η β) :
    value (bind m f) = (value m).bind fun a => value (f a) := by
  unfold value bind
  cases (m ()).result <;> rfl

end Memo

end Cathedral
