import Cathedral.Lib.Selection

/-!
# Cathedral.Lib.ReadCommitted — inserts under READ COMMITTED

A table that open sessions insert into. A statement sees the committed rows and the
session's own, as of when it runs; an insert whose key another session has inserted
waits for that session to end; a row lock is held until its session ends.
-/

namespace Cathedral.ReadCommitted

universe u v w x

/-- What an open session has done. -/
structure Session (κ : Type u) (ν : Type v) (γ : Type w) where
  inserted : List (κ × ν)
  locks : List γ

/-- A table and its open sessions. -/
structure Db (τ : Type x) (κ : Type u) (ν : Type v) (γ : Type w) where
  committed : Dict κ ν
  sessions : Dict τ (Session κ ν γ)

variable {τ : Type x} {κ : Type u} {ν : Type v} {γ : Type w}
variable [DecidableEq τ]

namespace Session

def addRow (s : Session κ ν γ) (k : κ) (v : ν) : Session κ ν γ :=
  { s with inserted := s.inserted ++ [(k, v)] }

def addLock (s : Session κ ν γ) (g : γ) : Session κ ν γ := { s with locks := g :: s.locks }

@[simp] theorem addRow_inserted (s : Session κ ν γ) (k : κ) (v : ν) :
    (s.addRow k v).inserted = s.inserted ++ [(k, v)] := rfl

@[simp] theorem addRow_locks (s : Session κ ν γ) (k : κ) (v : ν) :
    (s.addRow k v).locks = s.locks := rfl

@[simp] theorem addLock_inserted (s : Session κ ν γ) (g : γ) :
    (s.addLock g).inserted = s.inserted := rfl

@[simp] theorem addLock_locks (s : Session κ ν γ) (g : γ) :
    (s.addLock g).locks = g :: s.locks := rfl

end Session

namespace Db

/-- The session of an id; one that is not open has done nothing. -/
def session (db : Db τ κ ν γ) (t : τ) : Session κ ν γ := db.sessions.getD t ⟨[], []⟩

/-- The other open sessions. -/
def others (db : Db τ κ ν γ) (t : τ) : List (Session κ ν γ) :=
  (db.sessions.items.filter fun s => s.1 ≠ t).map Prod.snd

/-- The session of an id in a new state. -/
def setSession (db : Db τ κ ν γ) (t : τ) (s : Session κ ν γ) : Db τ κ ν γ :=
  { db with sessions := db.sessions.set t s }

/-- Take a row lock; `none` while another session holds it. -/
def lock [DecidableEq γ] (db : Db τ κ ν γ) (t : τ) (g : γ) : Option (Db τ κ ν γ) :=
  if (db.others t).any fun s => g ∈ s.locks then none
  else some (db.setSession t ((db.session t).addLock g))

/-- `INSERT … ON CONFLICT DO NOTHING` and whether a row was inserted; `none` while
another session has inserted the key. -/
def insertIgnore [DecidableEq κ] (db : Db τ κ ν γ) (t : τ) (k : κ) (v : ν) : Option (Db τ κ ν γ × Bool) :=
  if (db.others t).any fun s => s.inserted.any (·.1 = k) then none
  else if (db.committed.get? k).isSome ∨ (db.session t).inserted.any (·.1 = k) then
    some (db, false)
  else some (db.setSession t ((db.session t).addRow k v), true)

def begin (db : Db τ κ ν γ) (t : τ) : Db τ κ ν γ := db.setSession t ⟨[], []⟩

/-- `SELECT COUNT(*) … WHERE p` inside a session. -/
def countWhere (db : Db τ κ ν γ) (t : τ) (p : κ → ν → Bool) : ℕ :=
  db.committed.count p + (db.session t).inserted.countP fun row => p row.1 row.2

/-- End a session without its rows. -/
def abort (db : Db τ κ ν γ) (t : τ) : Db τ κ ν γ :=
  { db with sessions := db.sessions.filterItems fun s _ => s ≠ t }

def commit [DecidableEq κ] (db : Db τ κ ν γ) (t : τ) : Db τ κ ν γ where
  committed := (db.session t).inserted.foldl (fun d row => d.set row.1 row.2) db.committed
  sessions := db.sessions.filterItems fun s _ => s ≠ t

/-! ## Sessions after a statement -/

variable {db db' : Db τ κ ν γ} {t t' : τ} {s s' : Session κ ν γ}

theorem mem_others : s ∈ db.others t ↔ ∃ t', t' ≠ t ∧ db.sessions.get? t' = some s := by
  rw [others, List.mem_map]
  constructor
  · rintro ⟨⟨t', s⟩, hmem, rfl⟩
    rw [List.mem_filter, decide_eq_true_eq] at hmem
    exact ⟨t', hmem.2, Dict.mem_items.mp hmem.1⟩
  · rintro ⟨t', hne, hget⟩
    exact ⟨(t', s), List.mem_filter.mpr ⟨Dict.mem_items.mpr hget, by simpa using hne⟩, rfl⟩

theorem session_eq (hget : db.sessions.get? t = some s) : db.session t = s := by
  rw [session, Dict.getD, hget, Option.getD_some]

theorem get?_ended (t t' : τ) :
    (db.sessions.filterItems fun s _ => s ≠ t).get? t' =
      if t' = t then none else db.sessions.get? t' := by
  rw [Dict.get?_filterItems]
  by_cases ht : t' = t
  · cases db.sessions.get? t' <;> simp [ht]
  · cases db.sessions.get? t' <;> simp [ht]

theorem lock_eq_some [DecidableEq γ] {g : γ} (h : db.lock t g = some db') :
    (∀ t' s', t' ≠ t → db.sessions.get? t' = some s' → g ∉ s'.locks) ∧
      db' = db.setSession t ((db.session t).addLock g) := by
  unfold lock at h
  split at h
  · cases h
  · next hfree =>
      constructor
      · intro t' s' hne hget hmem
        exact hfree (List.any_eq_true.mpr ⟨s', mem_others.mpr ⟨t', hne, hget⟩, by simpa using hmem⟩)
      · exact (Option.some.inj h).symm

/-- An insert that ran: the key was taken, or nobody else had it and it was free. -/
theorem insertIgnore_eq_some [DecidableEq κ] {k : κ} {v : ν} {inserted : Bool}
    (h : db.insertIgnore t k v = some (db', inserted)) :
    (inserted = false ∧ db' = db ∧
      (db.committed.get? k ≠ none ∨ ∃ row ∈ (db.session t).inserted, row.1 = k)) ∨
    (inserted = true ∧ db.committed.get? k = none ∧
      (∀ row ∈ (db.session t).inserted, row.1 ≠ k) ∧
      (∀ t' s', t' ≠ t → db.sessions.get? t' = some s' → ∀ row ∈ s'.inserted, row.1 ≠ k) ∧
      db' = db.setSession t ((db.session t).addRow k v)) := by
  unfold insertIgnore at h
  split at h
  · cases h
  · next hfree =>
      split at h
      · next htaken =>
          obtain ⟨rfl, rfl⟩ := Prod.mk.inj (Option.some.inj h)
          refine Or.inl ⟨rfl, rfl, ?_⟩
          rcases htaken with hcommitted | hown
          · exact Or.inl (Option.isSome_iff_ne_none.mp hcommitted)
          · obtain ⟨row, hrow, hk⟩ := List.any_eq_true.mp hown
            exact Or.inr ⟨row, hrow, by simpa using hk⟩
      · next htaken =>
          obtain ⟨rfl, rfl⟩ := Prod.mk.inj (Option.some.inj h)
          rw [not_or, Option.not_isSome_iff_eq_none] at htaken
          refine Or.inr ⟨rfl, htaken.1, ?_, ?_, rfl⟩
          · intro row hrow hk
            exact htaken.2 (List.any_eq_true.mpr ⟨row, hrow, by simpa using hk⟩)
          · intro t' s' hne hget row hrow hk
            refine hfree (List.any_eq_true.mpr ⟨s', mem_others.mpr ⟨t', hne, hget⟩, ?_⟩)
            exact List.any_eq_true.mpr ⟨row, hrow, by simpa using hk⟩

/-! ## The invariant -/

variable [DecidableEq κ]

/-- Open inserts are under free keys, each of one session, and a lock has one holder. -/
structure Valid (db : Db τ κ ν γ) : Prop where
  free : ∀ t s, db.sessions.get? t = some s → ∀ row ∈ s.inserted, db.committed.get? row.1 = none
  nodup : ∀ t s, db.sessions.get? t = some s → (s.inserted.map Prod.fst).Nodup
  apart : ∀ t t' s s', t ≠ t' → db.sessions.get? t = some s → db.sessions.get? t' = some s' →
    ∀ row ∈ s.inserted, ∀ row' ∈ s'.inserted, row.1 ≠ row'.1
  holder : ∀ t t' s s', t ≠ t' → db.sessions.get? t = some s → db.sessions.get? t' = some s' →
    ∀ g ∈ s.locks, g ∉ s'.locks

theorem valid_empty : Valid (⟨Dict.empty, Dict.empty⟩ : Db τ κ ν γ) := by
  constructor
  · intro t s hget
    cases hget
  · intro t s hget
    cases hget
  · intro t t' s s' _ hget
    cases hget
  · intro t t' s s' _ hget
    cases hget

/-- One session changes: what its new state needs. -/
theorem valid_set (h : Valid db) (hfree : ∀ row ∈ s.inserted, db.committed.get? row.1 = none)
    (hnodup : (s.inserted.map Prod.fst).Nodup)
    (hapart : ∀ t' s', t' ≠ t → db.sessions.get? t' = some s' →
      ∀ row ∈ s.inserted, ∀ row' ∈ s'.inserted, row.1 ≠ row'.1)
    (hholder : ∀ t' s', t' ≠ t → db.sessions.get? t' = some s' → ∀ g ∈ s.locks, g ∉ s'.locks) :
    Valid (db.setSession t s) := by
  have hget : ∀ {u : τ} {r : Session κ ν γ}, (db.sessions.set t s).get? u = some r →
      (u = t ∧ r = s) ∨ (u ≠ t ∧ db.sessions.get? u = some r) := by
    intro u r hu
    rw [Dict.get?_set] at hu
    split at hu
    · next heq => exact Or.inl ⟨heq.symm, (Option.some.inj hu).symm⟩
    · next hne => exact Or.inr ⟨Ne.symm hne, hu⟩
  constructor
  · intro u r hu
    rcases hget hu with ⟨-, rfl⟩ | ⟨-, hold⟩
    · exact hfree
    · exact h.free u r hold
  · intro u r hu
    rcases hget hu with ⟨-, rfl⟩ | ⟨-, hold⟩
    · exact hnodup
    · exact h.nodup u r hold
  · intro u u' r r' hne hu hu' row hrow row' hrow'
    rcases hget hu with ⟨rfl, rfl⟩ | ⟨-, hold⟩ <;> rcases hget hu' with ⟨rfl, rfl⟩ | ⟨-, hold'⟩
    · exact absurd rfl hne
    · exact hapart u' r' (Ne.symm hne) hold' row hrow row' hrow'
    · exact (hapart u r hne hold row' hrow' row hrow).symm
    · exact h.apart u u' r r' hne hold hold' row hrow row' hrow'
  · intro u u' r r' hne hu hu' g hg
    rcases hget hu with ⟨rfl, rfl⟩ | ⟨-, hold⟩ <;> rcases hget hu' with ⟨rfl, rfl⟩ | ⟨-, hold'⟩
    · exact absurd rfl hne
    · exact hholder u' r' (Ne.symm hne) hold' g hg
    · exact fun hg' => hholder u r hne hold g hg' hg
    · exact h.holder u u' r r' hne hold hold' g hg

theorem valid_begin (h : Valid db) : Valid (db.begin t) := by
  apply valid_set h
  · intro row hrow
    cases hrow
  · exact List.nodup_nil
  · intro _ _ _ _ row hrow
    cases hrow
  · intro _ _ _ _ g hg
    cases hg

theorem valid_lock [DecidableEq γ] {g : γ} (h : Valid db) (hget : db.sessions.get? t = some s)
    (hlock : db.lock t g = some db') : Valid db' := by
  obtain ⟨hfree, rfl⟩ := lock_eq_some hlock
  rw [session_eq hget]
  apply valid_set h
  · exact h.free t s hget
  · exact h.nodup t s hget
  · intro t' s' hne hget'
    exact h.apart t t' s s' (Ne.symm hne) hget hget'
  · intro t' s' hne hget' g' hg'
    rcases List.mem_cons.mp hg' with rfl | hold
    · exact hfree t' s' hne hget'
    · exact h.holder t t' s s' (Ne.symm hne) hget hget' g' hold

theorem valid_insertIgnore {k : κ} {v : ν} {inserted : Bool} (h : Valid db)
    (hget : db.sessions.get? t = some s)
    (hinsert : db.insertIgnore t k v = some (db', inserted)) : Valid db' := by
  rcases insertIgnore_eq_some hinsert with ⟨-, rfl, -⟩ | ⟨-, hfree, hown, hothers, rfl⟩
  · exact h
  rw [session_eq hget] at hown ⊢
  have hrow : ∀ {row : κ × ν}, row ∈ (s.addRow k v).inserted → row ∈ s.inserted ∨ row = (k, v) := by
    intro row hmem
    rw [Session.addRow_inserted, List.mem_append, List.mem_singleton] at hmem
    exact hmem
  apply valid_set h
  · intro row hmem
    rcases hrow hmem with hold | rfl
    · exact h.free t s hget row hold
    · exact hfree
  · rw [Session.addRow_inserted, List.map_append, List.map_singleton]
    refine List.nodup_append.mpr ⟨h.nodup t s hget, List.nodup_singleton _, ?_⟩
    intro j hj j' hj' heq
    obtain ⟨row, hmem, rfl⟩ := List.mem_map.mp hj
    exact hown row hmem (heq.trans (List.mem_singleton.mp hj'))
  · intro t' s' hne hget' row hmem row' hmem'
    rcases hrow hmem with hold | rfl
    · exact h.apart t t' s s' (Ne.symm hne) hget hget' row hold row' hmem'
    · exact (hothers t' s' hne hget' row' hmem').symm
  · intro t' s' hne hget'
    exact h.holder t t' s s' (Ne.symm hne) hget hget'

theorem valid_abort (h : Valid db) : Valid (db.abort t) := by
  have hget : ∀ {u : τ} {r : Session κ ν γ}, (db.abort t).sessions.get? u = some r →
      db.sessions.get? u = some r := by
    intro u r hu
    rw [abort, get?_ended] at hu
    split at hu
    · cases hu
    · exact hu
  exact ⟨fun u r hu => h.free u r (hget hu), fun u r hu => h.nodup u r (hget hu),
    fun u u' r r' hne hu hu' => h.apart u u' r r' hne (hget hu) (hget hu'),
    fun u u' r r' hne hu hu' => h.holder u u' r r' hne (hget hu) (hget hu')⟩

/-- A commit appends the rows of its session. -/
theorem items_commit (h : Valid db) (hget : db.sessions.get? t = some s) :
    (db.commit t).committed.items = db.committed.items ++ s.inserted := by
  rw [commit, session_eq hget]
  refine Dict.items_foldl_set s.inserted db.committed ?_
  refine List.nodup_append.mpr ⟨db.committed.nodup, h.nodup t s hget, ?_⟩
  rintro k hk k' hk' rfl
  obtain ⟨row, hrow, rfl⟩ := List.mem_map.mp hk'
  exact Dict.get?_eq_none.mp (h.free t s hget row hrow) hk

theorem get?_commit_eq_none (h : Valid db) (hget : db.sessions.get? t = some s) {k : κ} :
    (db.commit t).committed.get? k = none ↔
      db.committed.get? k = none ∧ ∀ row ∈ s.inserted, row.1 ≠ k := by
  rw [Dict.get?_eq_none, Dict.get?_eq_none, Dict.keys, items_commit h hget, List.map_append,
    List.mem_append, not_or]
  refine and_congr Iff.rfl ?_
  constructor
  · rintro hnot row hrow rfl
    exact hnot (List.mem_map_of_mem hrow)
  · intro hall hmem
    obtain ⟨row, hrow, heq⟩ := List.mem_map.mp hmem
    exact hall row hrow heq

theorem valid_commit (h : Valid db) (hget : db.sessions.get? t = some s) :
    Valid (db.commit t) := by
  have hother : ∀ {u : τ} {r : Session κ ν γ}, (db.commit t).sessions.get? u = some r →
      u ≠ t ∧ db.sessions.get? u = some r := by
    intro u r hu
    rw [commit, get?_ended] at hu
    split at hu
    · cases hu
    · next hne => exact ⟨hne, hu⟩
  constructor
  · intro u r hu row hrow
    obtain ⟨hne, hold⟩ := hother hu
    refine (get?_commit_eq_none h hget).mpr ⟨h.free u r hold row hrow, ?_⟩
    intro row' hrow'
    exact h.apart t u s r (Ne.symm hne) hget hold row' hrow' row hrow
  · exact fun u r hu => h.nodup u r (hother hu).2
  · exact fun u u' r r' hne hu hu' => h.apart u u' r r' hne (hother hu).2 (hother hu').2
  · exact fun u u' r r' hne hu hu' => h.holder u u' r r' hne (hother hu).2 (hother hu').2

end Db

end Cathedral.ReadCommitted
