import Mathlib
import Cathedral.Lib.Fence

/-!
# Cathedral.Publisher.VectorCache — the signed vector and its caches

Publisher processes share one store. Building a vector allocates a
`policy_version` from a counter row, the built vector is persisted under the
process's network and netuid, and what persisting or loading returns is adopted
into a per-process cache. Allocation, persisting, each of the two queries of a
load and adoption are separate steps of a thread, and any other thread may run
between two of them: the background loop, an attempt that timed out and was
abandoned, and the synchronous request paths are all threads of this kind. The
advisory lock does not appear; a build may start at any time.
-/

namespace Cathedral.Publisher.VectorCache

universe u v w

/-- The network and netuid under which vectors are persisted. -/
abbrev Scope : Type := String × ℤ

/-- A signed vector: the fields this protocol reads, and all the others. It is
the value `json.loads` returns for the persisted text; a vector as built is
only ever persisted, never cached. -/
structure SignedVector (β : Type u) where
  policyVersion : ℤ
  network : String
  netuid : ℤ
  content : β
deriving DecidableEq, Repr

/-- A row of `signed_weight_vectors`. -/
structure VectorRow (β : Type u) where
  policyVersion : ℤ
  vector : SignedVector β
deriving DecidableEq, Repr

variable {β : Type u}

/-! ## The functions -/

/-- `next_policy_version`: `max(stored + 1, now_ms)`. -/
def nextPolicyVersion (stored : Option ℤ) (nowMs : ℤ) : ℤ :=
  max (stored.getD 0 + 1) nowMs

/-- The upsert of `_persist_vector`: a row is replaced by a greater version only. -/
def persistVector (stored : Option (VectorRow β)) (vec : SignedVector β) : VectorRow β :=
  match stored with
  | none => ⟨vec.policyVersion, vec⟩
  | some row => if vec.policyVersion > row.policyVersion then ⟨vec.policyVersion, vec⟩ else row

/-- The fallback of `_load_persisted_vector`: the row from before the scopes, if
it is of this network and netuid. -/
def loadLegacy (scope : Scope) (legacy : Option (SignedVector β)) : Option (SignedVector β) :=
  match legacy with
  | none => none
  | some vec => if vec.network ≠ scope.1 ∨ vec.netuid ≠ scope.2 then none else some vec

/-- `_cache_write`: adopt only a non-regressing vector. -/
def cacheWrite [DecidableEq β] (current : Option (SignedVector β)) (vec : SignedVector β) :
    Option (SignedVector β) :=
  match current with
  | none => some vec
  | some cached =>
    if vec.policyVersion < cached.policyVersion then some cached
    else if vec.policyVersion = cached.policyVersion ∧ cached ≠ vec then some cached
    else some vec

/-! ## The system -/

/-- Where a thread is. A thread may be dropped at any point. -/
inductive Phase (β : Type u) where
  | idle
  /-- Signed with its allocated version, not persisted. -/
  | built (vec : SignedVector β)
  /-- The scoped query of a load found no row. -/
  | missed
  /-- Returned by a persist or a load, not adopted. -/
  | fetched (vec : SignedVector β)

/-- The shared rows, the caches of the processes `P` and the threads `T`. -/
structure State (P : Type v) (T : Type w) (β : Type u) where
  /-- `weight_policy_state`, one row for all scopes. -/
  lastPolicyVersion : Option ℤ
  rows : Scope → Option (VectorRow β)
  /-- The row `latest`, which nothing writes any more. -/
  legacy : Option (SignedVector β)
  cache : P → Option (SignedVector β)
  phase : T → Phase β

/-- One step of a thread, with what it observed. -/
inductive Action (T : Type w) (β : Type u) where
  | allocate (thread : T) (nowMs : ℤ) (vec : SignedVector β)
  | persist (thread : T)
  | loadScoped (thread : T)
  | loadLegacy (thread : T)
  | adopt (thread : T)
  | drop (thread : T)

variable {P : Type v} {T : Type w}

/-- The steps; `owner` is the process of a thread and `scopeOf` the scope its
environment configures. -/
inductive Step [DecidableEq P] [DecidableEq T] [DecidableEq β] (owner : T → P)
    (scopeOf : P → Scope) :
    State P T β → Action T β → State P T β → Prop where
  /-- `next_policy_version` commits, and the vector is signed with its result. -/
  | allocate {s : State P T β} {t : T} {nowMs : ℤ} {vec : SignedVector β} :
      s.phase t = .idle →
      vec.policyVersion = nextPolicyVersion s.lastPolicyVersion nowMs →
      Step owner scopeOf s (.allocate t nowMs vec)
        { s with
          lastPolicyVersion := some vec.policyVersion
          phase := Function.update s.phase t (.built vec) }
  /-- `_persist_vector`, which returns the row that won. -/
  | persist {s : State P T β} {t : T} {vec : SignedVector β} {row : VectorRow β} :
      s.phase t = .built vec →
      row = persistVector (s.rows (scopeOf (owner t))) vec →
      Step owner scopeOf s (.persist t)
        { s with
          rows := Function.update s.rows (scopeOf (owner t)) (some row)
          phase := Function.update s.phase t (.fetched row.vector) }
  | loadScoped {s : State P T β} {t : T} {row : VectorRow β} :
      s.phase t = .idle →
      s.rows (scopeOf (owner t)) = some row →
      Step owner scopeOf s (.loadScoped t)
        { s with phase := Function.update s.phase t (.fetched row.vector) }
  | missScoped {s : State P T β} {t : T} :
      s.phase t = .idle →
      s.rows (scopeOf (owner t)) = none →
      Step owner scopeOf s (.loadScoped t)
        { s with phase := Function.update s.phase t .missed }
  | loadLegacy {s : State P T β} {t : T} {vec : SignedVector β} :
      s.phase t = .missed →
      loadLegacy (scopeOf (owner t)) s.legacy = some vec →
      Step owner scopeOf s (.loadLegacy t)
        { s with phase := Function.update s.phase t (.fetched vec) }
  | adopt {s : State P T β} {t : T} {vec : SignedVector β} :
      s.phase t = .fetched vec →
      Step owner scopeOf s (.adopt t)
        { s with
          cache := Function.update s.cache (owner t) (cacheWrite (s.cache (owner t)) vec)
          phase := Function.update s.phase t .idle }
  /-- The vector is served but not adopted, the generation moved on, a load
  found nothing, or an exception ended the thread. -/
  | drop {s : State P T β} {t : T} :
      Step owner scopeOf s (.drop t) { s with phase := Function.update s.phase t .idle }

/-- `vec` is in the store: in a scope's row, or in the legacy row. -/
def Stored (s : State P T β) (vec : SignedVector β) : Prop :=
  (∃ scope row, s.rows scope = some row ∧ row.vector = vec) ∨ s.legacy = some vec

/-- Publishers start on a store that earlier ones left: no stored version is
above the counter it came from, and one version is one vector. -/
structure Init (s : State P T β) : Prop where
  below : ∀ vec, Stored s vec → vec.policyVersion ≤ s.lastPolicyVersion.getD 0
  agree : ∀ vec vec', Stored s vec → Stored s vec' →
    vec.policyVersion = vec'.policyVersion → vec = vec'
  column : ∀ scope row, s.rows scope = some row → row.policyVersion = row.vector.policyVersion
  cold : ∀ p, s.cache p = none
  idle : ∀ t, s.phase t = .idle

/-! ## Versions -/

/-- The vector an action allocated a version for. -/
def Action.issued : Action T β → List (SignedVector β)
  | .allocate _ _ vec => [vec]
  | _ => []

def Action.versions (a : Action T β) : List ℤ := a.issued.map (·.policyVersion)

/-- A vector as a position of the line of versions. -/
def SignedVector.mark (vec : SignedVector β) : Mark ℤ (SignedVector β) := ⟨vec.policyVersion, vec⟩

/-- What a register holds as a position; an empty one lies below every vector. -/
def high : Option (SignedVector β) → WithBot (Mark ℤ (SignedVector β))
  | none => ⊥
  | some vec => (vec.mark : WithBot (Mark ℤ (SignedVector β)))

variable {vec : SignedVector β}

theorem high_le_some {current : Option (SignedVector β)} :
    high current ≤ high (some vec) ↔
      ∀ cached, current = some cached →
        cached.policyVersion < vec.policyVersion ∨ cached = vec := by
  cases current with
  | none => simp [high]
  | some cached =>
    simp only [high, Mark.coe_le_coe, SignedVector.mark, Mark.mk.injEq, Option.some.injEq,
      forall_eq']
    refine or_congr_right ⟨And.right, fun h => ⟨congrArg _ h, h⟩⟩

theorem persistVector_cases (stored : Option (VectorRow β)) (vec : SignedVector β) :
    persistVector stored vec = ⟨vec.policyVersion, vec⟩ ∨
      stored = some (persistVector stored vec) := by
  unfold persistVector
  split
  · exact Or.inl rfl
  · split
    · exact Or.inl rfl
    · exact Or.inr rfl

/-- The stored version is the least one that a persist leaves. -/
theorem le_persistVector {row : VectorRow β} (vec : SignedVector β) :
    row.policyVersion ≤ (persistVector (some row) vec).policyVersion := by
  simp only [persistVector]
  split
  · next hgt => exact hgt.le
  · exact le_rfl

theorem cacheWrite_cases [DecidableEq β] (current : Option (SignedVector β))
    (vec : SignedVector β) :
    cacheWrite current vec = current ∨
      cacheWrite current vec = some vec ∧ high current ≤ high (some vec) := by
  cases current with
  | none => exact Or.inr ⟨rfl, bot_le⟩
  | some cached =>
    simp only [cacheWrite]
    split
    · exact Or.inl rfl
    · next hlt =>
        split
        · exact Or.inl rfl
        · next hne =>
            refine Or.inr ⟨rfl, high_le_some.mpr fun held hheld => ?_⟩
            rw [Option.some.injEq] at hheld
            subst hheld
            rcases (not_lt.mp hlt).lt_or_eq with hless | heq
            · exact Or.inl hless
            · exact Or.inr (not_not.mp fun hdiff => hne ⟨heq.symm, hdiff⟩)

theorem loadLegacy_eq_some {scope : Scope} {legacy : Option (SignedVector β)}
    (h : loadLegacy scope legacy = some vec) : legacy = some vec := by
  unfold loadLegacy at h
  split at h
  · cases h
  · split at h
    · cases h
    · exact h

/-! ## Where vectors come from -/

variable {start s s' : State P T β} {ls : List (Action T β)}

/-- Stored at the start, or allocated by one of the steps. -/
def Known (start : State P T β) (ls : List (Action T β)) (vec : SignedVector β) : Prop :=
  Stored start vec ∨ vec ∈ ls.flatMap Action.issued

/-- Everything stored, cached or under way is known. -/
structure Inv (start : State P T β) (ls : List (Action T β)) (s : State P T β) : Prop where
  row : ∀ scope row, s.rows scope = some row →
    Known start ls row.vector ∧ row.policyVersion = row.vector.policyVersion
  legacy : s.legacy = start.legacy
  cache : ∀ p vec, s.cache p = some vec → Known start ls vec
  built : ∀ t vec, s.phase t = .built vec → Known start ls vec
  fetched : ∀ t vec, s.phase t = .fetched vec → Known start ls vec

theorem init_inv (hinit : Init start) : Inv start [] start where
  row scope row h := ⟨Or.inl (Or.inl ⟨scope, row, h, rfl⟩), hinit.column scope row h⟩
  legacy := rfl
  cache p vec h := by simp [hinit.cold p] at h
  built t vec h := by simp [hinit.idle t] at h
  fetched t vec h := by simp [hinit.idle t] at h

theorem Known.snoc (h : Known start ls vec) (a : Action T β) : Known start (ls ++ [a]) vec := by
  refine h.imp_right fun hmem => ?_
  rw [List.flatMap_append]
  exact List.mem_append_left _ hmem

/-- More steps only know more. -/
theorem Inv.snoc (h : Inv start ls s) (a : Action T β) : Inv start (ls ++ [a]) s where
  row scope row hrow := ⟨(h.row scope row hrow).1.snoc a, (h.row scope row hrow).2⟩
  legacy := h.legacy
  cache p vec hvec := (h.cache p vec hvec).snoc a
  built t vec hvec := (h.built t vec hvec).snoc a
  fetched t vec hvec := (h.fetched t vec hvec).snoc a

/-- A thread may move to any phase whose vector is known. -/
theorem Inv.update_phase [DecidableEq T] (h : Inv start ls s) (t : T) (next : Phase β)
    (hnext : ∀ vec, next = .built vec ∨ next = .fetched vec → Known start ls vec) :
    Inv start ls { s with phase := Function.update s.phase t next } where
  row := h.row
  legacy := h.legacy
  cache := h.cache
  built t' vec hvec := by
    by_cases heq : t' = t
    · subst heq
      exact hnext vec (Or.inl (by simpa using hvec))
    · exact h.built t' vec (by simpa [heq] using hvec)
  fetched t' vec hvec := by
    by_cases heq : t' = t
    · subst heq
      exact hnext vec (Or.inr (by simpa using hvec))
    · exact h.fetched t' vec (by simpa [heq] using hvec)

theorem Inv.update_row (h : Inv start ls s) (scope : Scope) {row : VectorRow β}
    (hknown : Known start ls row.vector) (hcolumn : row.policyVersion = row.vector.policyVersion) :
    Inv start ls { s with rows := Function.update s.rows scope (some row) } where
  row scope' row' hrow := by
    by_cases heq : scope' = scope
    · subst heq
      have hsame : row = row' := by simpa using hrow
      exact hsame ▸ ⟨hknown, hcolumn⟩
    · exact h.row scope' row' (by simpa [heq] using hrow)
  legacy := h.legacy
  cache := h.cache
  built := h.built
  fetched := h.fetched

theorem Inv.update_cache [DecidableEq P] (h : Inv start ls s) (p : P)
    {held : Option (SignedVector β)}
    (hheld : ∀ vec, held = some vec → Known start ls vec) :
    Inv start ls { s with cache := Function.update s.cache p held } where
  row := h.row
  legacy := h.legacy
  cache p' vec hvec := by
    by_cases heq : p' = p
    · subst heq
      exact hheld vec (by simpa using hvec)
    · exact h.cache p' vec (by simpa [heq] using hvec)
  built := h.built
  fetched := h.fetched

variable [DecidableEq P] [DecidableEq T] [DecidableEq β]
variable {owner : T → P} {scopeOf : P → Scope}

variable {a : Action T β}

theorem step_inv (hinv : Inv start ls s) (h : Step owner scopeOf s a s') :
    Inv start (ls ++ [a]) s' := by
  have hold := hinv.snoc a
  cases h with
  | @allocate t nowMs vec hidle hversion =>
    have hknown : Known start (ls ++ [.allocate t nowMs vec]) vec :=
      Or.inr (by simp [Action.issued])
    have hnext := hold.update_phase t (.built vec) (by
      rintro _ (hvec | hvec) <;> cases hvec
      exact hknown)
    exact ⟨hnext.row, hnext.legacy, hnext.cache, hnext.built, hnext.fetched⟩
  | @persist t vec row hbuilt hrow =>
    have hboth : Known start (ls ++ [.persist t]) row.vector ∧
        row.policyVersion = row.vector.policyVersion := by
      rcases persistVector_cases (s.rows (scopeOf (owner t))) vec with hwon | hkept
      · rw [hrow, hwon]
        exact ⟨hold.built t vec hbuilt, rfl⟩
      · exact hold.row _ row (hrow ▸ hkept)
    refine (hold.update_row (scopeOf (owner t)) hboth.1 hboth.2).update_phase t _ ?_
    rintro _ (hvec | hvec) <;> cases hvec
    exact hboth.1
  | @loadScoped t row hidle hrow =>
    refine hold.update_phase t _ ?_
    rintro _ (hvec | hvec) <;> cases hvec
    exact (hold.row _ row hrow).1
  | @missScoped t hidle hrow =>
    refine hold.update_phase t _ ?_
    rintro _ (hvec | hvec) <;> cases hvec
  | @loadLegacy t vec hmissed hvec =>
    refine hold.update_phase t _ ?_
    rintro _ (hnext | hnext) <;> cases hnext
    exact Or.inl (Or.inr (hinv.legacy ▸ loadLegacy_eq_some hvec))
  | @adopt t vec hfetched =>
    have hheld : ∀ held, cacheWrite (s.cache (owner t)) vec = some held →
        Known start (ls ++ [.adopt t]) held := by
      intro held hwrite
      rcases cacheWrite_cases (s.cache (owner t)) vec with hkept | ⟨hwon, -⟩
      · exact hold.cache _ held (hkept ▸ hwrite)
      · rw [hwon, Option.some.injEq] at hwrite
        exact hwrite ▸ hold.fetched t vec hfetched
    refine (hold.update_cache (owner t) hheld).update_phase t _ ?_
    rintro _ (hnext | hnext) <;> cases hnext
  | @drop t =>
    refine hold.update_phase t _ ?_
    rintro _ (hnext | hnext) <;> cases hnext

theorem run_inv (hinit : Init start) (h : Run (Step owner scopeOf) start ls s) :
    Inv start ls s :=
  Run.history (init_inv hinit) (fun _ _ _ _ hinv hs => step_inv hinv hs) h

/-! ## Monotonicity -/

/-- The version in a scope's row; nothing lies below every version. -/
def persistedVersion (s : State P T β) (scope : Scope) : WithBot ℤ :=
  (s.rows scope).map (·.policyVersion)

/-- The version in a process's cache. -/
def cachedVersion (s : State P T β) (p : P) : WithBot ℤ :=
  (s.cache p).map (·.policyVersion)

omit [DecidableEq P] [DecidableEq T] [DecidableEq β] in
/-- A register that moved up the line of versions did not lower its version. -/
theorem cachedVersion_le {p : P} (h : high (s.cache p) ≤ high (s'.cache p)) :
    cachedVersion s p ≤ cachedVersion s' p := by
  unfold cachedVersion
  cases hs : s.cache p with
  | none => exact bot_le
  | some vec =>
    cases hs' : s'.cache p with
    | none =>
      rw [hs, hs'] at h
      exact absurd (le_bot_iff.mp h) WithBot.coe_ne_bot
    | some vec' =>
      rw [hs, hs', high_le_some] at h
      refine WithBot.coe_le_coe.mpr ?_
      rcases h vec rfl with hlt | rfl
      · exact hlt.le
      · exact le_rfl

theorem step_persistedVersion (h : Step owner scopeOf s a s') (scope : Scope) :
    persistedVersion s scope ≤ persistedVersion s' scope := by
  cases h with
  | @persist t vec row hbuilt hrow =>
    by_cases heq : scope = scopeOf (owner t)
    · subst heq
      simp only [persistedVersion, Function.update_self]
      cases hstored : s.rows (scopeOf (owner t)) with
      | none => exact bot_le
      | some stored =>
        rw [hstored] at hrow
        exact WithBot.coe_le_coe.mpr (hrow ▸ le_persistVector vec)
    · simp only [persistedVersion, Function.update_of_ne heq]
      exact le_rfl
  | _ => exact le_rfl

theorem step_high (h : Step owner scopeOf s a s') (p : P) :
    high (s.cache p) ≤ high (s'.cache p) := by
  cases h with
  | @adopt t vec hfetched =>
    by_cases heq : p = owner t
    · subst heq
      simp only [Function.update_self]
      rcases cacheWrite_cases (s.cache (owner t)) vec with hkept | ⟨hwon, hle⟩
      · rw [hkept]
      · rw [hwon]
        exact hle
    · simp [heq]
  | _ => exact le_rfl

/-! ## One version, one vector -/

/-- An allocation takes a version above the counter and raises the counter to it. -/
theorem step_marks (h : Step owner scopeOf s a s') :
    Run.StepMarks Action.versions (fun s => s.lastPolicyVersion.getD 0) s a s' := by
  cases h with
  | @allocate t nowMs vec hidle hversion =>
    have habove : s.lastPolicyVersion.getD 0 < vec.policyVersion := by
      rw [hversion, nextPolicyVersion]
      omega
    refine ⟨habove.le, ?_, ?_, ?_⟩
    · simp [Action.versions, Action.issued]
    · simpa [Action.versions, Action.issued] using habove
    · simp [Action.versions, Action.issued]
  | _ => exact ⟨le_rfl, by simp [Action.versions, Action.issued],
      by simp [Action.versions, Action.issued], by simp [Action.versions, Action.issued]⟩

/-- Known vectors are determined by their versions: what was stored lies at or
below the first counter, what was allocated strictly above it and apart. -/
theorem known_unique (hinit : Init start) (h : Run (Step owner scopeOf) start ls s)
    {vec vec' : SignedVector β} (hvec : Known start ls vec) (hvec' : Known start ls vec')
    (hversion : vec.policyVersion = vec'.policyVersion) : vec = vec' := by
  obtain ⟨hsorted, hbounds, -⟩ := Run.marks_increasing (fun _ _ _ hs => step_marks hs) h
  have hversions : ls.flatMap Action.versions =
      (ls.flatMap Action.issued).map (·.policyVersion) := by
    rw [List.map_flatMap]
    rfl
  rw [hversions] at hsorted hbounds
  have habove : ∀ v ∈ ls.flatMap Action.issued,
      start.lastPolicyVersion.getD 0 < v.policyVersion := by
    intro v hv
    exact (hbounds _ (List.mem_map_of_mem hv)).1
  rcases hvec with hstored | hissued
  · rcases hvec' with hstored' | hissued'
    · exact hinit.agree vec vec' hstored hstored' hversion
    · have hbelow := hinit.below vec hstored
      have := habove vec' hissued'
      omega
  · rcases hvec' with hstored' | hissued'
    · have hbelow := hinit.below vec' hstored'
      have := habove vec hissued
      omega
    · have hnodup : ((ls.flatMap Action.issued).map (·.policyVersion)).Nodup :=
        hsorted.imp fun hlt => hlt.ne
      exact List.inj_on_of_nodup_map hnodup hissued hissued' hversion

/-- `vec` is persisted or cached for `scope`. -/
def Held (scopeOf : P → Scope) (s : State P T β) (scope : Scope) (vec : SignedVector β) : Prop :=
  (∃ row, s.rows scope = some row ∧ row.vector = vec) ∨
    loadLegacy scope s.legacy = some vec ∨
    ∃ p, scopeOf p = scope ∧ s.cache p = some vec

omit [DecidableEq P] [DecidableEq T] [DecidableEq β] in
theorem Inv.held {scope : Scope} (h : Inv start ls s) (hheld : Held scopeOf s scope vec) :
    Known start ls vec := by
  rcases hheld with ⟨row, hrow, rfl⟩ | hlegacy | ⟨p, -, hcache⟩
  · exact (h.row scope row hrow).1
  · exact Or.inl (Or.inr (h.legacy ▸ loadLegacy_eq_some hlegacy))
  · exact h.cache p vec hcache

/-- Between any two points of any run, the version persisted under a scope and
the version cached in a process do not decrease, and two vectors persisted or
cached for a scope at the two points under one version are one vector. -/
theorem vectors_monotone_and_unique {ms : List (Action T β)} (hinit : Init start)
    (hbefore : Run (Step owner scopeOf) start ls s) (hafter : Run (Step owner scopeOf) s ms s') :
    (∀ scope, persistedVersion s scope ≤ persistedVersion s' scope) ∧
      (∀ p, cachedVersion s p ≤ cachedVersion s' p) ∧
      ∀ scope vec vec', Held scopeOf s scope vec → Held scopeOf s' scope vec' →
        vec.policyVersion = vec'.policyVersion → vec = vec' := by
  refine ⟨fun scope => ?_, fun p => ?_, fun scope vec vec' hheld hheld' hversion => ?_⟩
  · exact Run.monotone (fun s => persistedVersion s scope)
      (fun _ _ _ hs => step_persistedVersion hs scope) hafter
  · exact cachedVersion_le
      (Run.monotone (fun s => high (s.cache p)) (fun _ _ _ hs => step_high hs p) hafter)
  · have hwhole := hbefore.append hafter
    have hknown : Known start (ls ++ ms) vec := by
      refine ((run_inv hinit hbefore).held hheld).imp_right fun hmem => ?_
      rw [List.flatMap_append]
      exact List.mem_append_left _ hmem
    exact known_unique hinit hwhole hknown ((run_inv hinit hwhole).held hheld') hversion

/-! ## Two builders at once -/

/-- A store without vectors, and two processes with one thread each. -/
def coldStart : State Bool Bool Unit := ⟨none, fun _ => none, none, fun _ => none, fun _ => .idle⟩

def raceVector (version : ℤ) : SignedVector Unit := ⟨version, "finney", 39, ()⟩

theorem coldStart_init : Init coldStart where
  below vec h := by simp [Stored, coldStart] at h
  agree vec vec' h := by simp [Stored, coldStart] at h
  column scope row h := by simp [coldStart] at h
  cold _ := rfl
  idle _ := rfl

/-- Both threads allocate within one millisecond, the later version is persisted
first, and both processes end with it. -/
theorem vectors_monotone_and_unique_race : ∃ s s' : State Bool Bool Unit,
    s.phase false = .built (raceVector 5) ∧ persistedVersion s ("finney", 39) = (6 : ℤ) ∧
    (∀ p, s'.cache p = some (raceVector 6)) ∧
    (∀ scope, persistedVersion s scope ≤ persistedVersion s' scope) ∧
    (∀ p, cachedVersion s p ≤ cachedVersion s' p) ∧
    ∀ scope vec vec', Held (fun _ => ("finney", 39)) s scope vec →
      Held (fun _ => ("finney", 39)) s' scope vec' →
        vec.policyVersion = vec'.policyVersion → vec = vec' := by
  have hstart : Run (Step id fun _ => ("finney", 39)) coldStart [] coldStart := .nil
  have hfirst := hstart.snoc (l := .allocate false 5 (raceVector 5)) (.allocate rfl rfl)
  have hsecond := hfirst.snoc (l := .allocate true 5 (raceVector 6)) (.allocate rfl rfl)
  have hbefore := hsecond.snoc (l := .persist true) (.persist rfl rfl)
  refine ⟨_, _, ?_, ?_, ?_, vectors_monotone_and_unique coldStart_init hbefore
    (.snoc (l := .adopt true) (.snoc (l := .adopt false) (.snoc (l := .persist false) .nil
      (.persist rfl rfl)) (.adopt rfl)) (.adopt rfl))⟩
  · rfl
  · rfl
  · intro p
    cases p <;> rfl

end Cathedral.Publisher.VectorCache
