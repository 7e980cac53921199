import Mathlib.Data.List.Sort

/-!
# Cathedral.Lib.Feed — reading a growing table by a cursor

A reader pages through rows by their position in a linear order: a page is the first
rows after the cursor, in order, and the cursor moves to the last of them.
-/

namespace Cathedral.Feed

universe u v

variable {ρ : Type u} {α : Type v} [LinearOrder α]

/-- The first rows after the cursor. -/
def page (pos : ρ → α) (rows : List ρ) (cursor : α) (limit : ℕ) : List ρ :=
  ((rows.filter fun r => cursor < pos r).insertionSort fun a b => pos a ≤ pos b).take limit

/-- The cursor after a page: the position of its last row. -/
def resume (pos : ρ → α) (cursor : α) (items : List ρ) : α :=
  (items.getLast?.map pos).getD cursor

/-! ## A page -/

section Page

variable {pos : ρ → α} {rows items : List ρ} {cursor : α} {limit : ℕ} {row : ρ}

theorem mem_page (h : row ∈ page pos rows cursor limit) : row ∈ rows ∧ cursor < pos row := by
  have hmem := (List.mem_insertionSort _).mp (List.mem_of_mem_take h)
  simpa using hmem

theorem sorted_rows (pos : ρ → α) (rows : List ρ) :
    (rows.insertionSort fun a b => pos a ≤ pos b).Pairwise fun a b => pos a ≤ pos b := by
  have : Std.Total fun a b : ρ => pos a ≤ pos b := ⟨fun a b => le_total (pos a) (pos b)⟩
  have : IsTrans ρ fun a b : ρ => pos a ≤ pos b := ⟨fun _ _ _ => le_trans⟩
  exact List.pairwise_insertionSort _ _

theorem page_sorted : (page pos rows cursor limit).Pairwise fun a b => pos a ≤ pos b :=
  (sorted_rows pos _).take

theorem nodup_page (h : rows.Nodup) : (page pos rows cursor limit).Nodup := by
  have hperm := List.perm_insertionSort (fun a b => pos a ≤ pos b)
    (rows.filter fun r => cursor < pos r)
  exact (hperm.nodup_iff.mpr (h.filter _)).take

/-- A page that is not full holds every row after the cursor. -/
theorem mem_page_of_short (hshort : (page pos rows cursor limit).length < limit)
    (hrow : row ∈ rows) (hahead : cursor < pos row) : row ∈ page pos rows cursor limit := by
  unfold page at hshort ⊢
  rw [List.length_take] at hshort
  rw [List.take_of_length_le (by omega), List.mem_insertionSort, List.mem_filter]
  exact ⟨hrow, by simpa using hahead⟩

/-- A page with room for every row is not full. -/
theorem page_short (h : rows.length < limit) : (page pos rows cursor limit).length < limit := by
  rw [page, List.length_take, List.length_insertionSort]
  have hfilter := List.length_filter_le (fun r => cursor < pos r) rows
  omega

/-- What a page leaves out comes after what it holds. -/
theorem page_le_of_notMem {other : ρ} (hrow : row ∈ page pos rows cursor limit)
    (hother : other ∈ rows) (hahead : cursor < pos other)
    (hnot : other ∉ page pos rows cursor limit) : pos row ≤ pos other := by
  have hall := sorted_rows pos (rows.filter fun r => cursor < pos r)
  rw [← List.take_append_drop limit (List.insertionSort _ _), List.pairwise_append] at hall
  refine hall.2.2 row hrow other ?_
  have hmem : other ∈ (rows.filter fun r => cursor < pos r).insertionSort
      fun a b => pos a ≤ pos b := by
    rw [List.mem_insertionSort, List.mem_filter]
    exact ⟨hother, by simpa using hahead⟩
  rw [← List.take_append_drop limit (List.insertionSort _ _), List.mem_append] at hmem
  exact hmem.resolve_left hnot

omit [LinearOrder α] in
/-- The cursor stays, or moves to the last row. -/
theorem resume_cases (pos : ρ → α) (cursor : α) (items : List ρ) :
    (items = [] ∧ resume pos cursor items = cursor) ∨
      ∃ init last, items = init ++ [last] ∧ resume pos cursor items = pos last := by
  rcases List.eq_nil_or_concat items with rfl | ⟨init, last, rfl⟩
  · exact Or.inl ⟨rfl, rfl⟩
  · refine Or.inr ⟨init, last, List.concat_eq_append, ?_⟩
    simp [resume]

theorem le_resume (hsorted : items.Pairwise fun a b => pos a ≤ pos b) (hrow : row ∈ items) :
    pos row ≤ resume pos cursor items := by
  rcases resume_cases pos cursor items with ⟨rfl, -⟩ | ⟨init, last, rfl, hresume⟩
  · cases hrow
  · rw [hresume]
    rcases List.mem_append.mp hrow with hinit | hlast
    · exact (List.pairwise_append.mp hsorted).2.2 row hinit last (List.mem_singleton_self last)
    · rw [List.mem_singleton.mp hlast]

theorem cursor_le_resume : cursor ≤ resume pos cursor (page pos rows cursor limit) := by
  rcases resume_cases pos cursor (page pos rows cursor limit) with
    ⟨-, hresume⟩ | ⟨init, last, hitems, hresume⟩
  · rw [hresume]
  · have hlast : last ∈ page pos rows cursor limit := by simp [hitems]
    rw [hresume]
    exact (mem_page hlast).2.le

/-- A row after the cursor is on the page or after the new cursor. -/
theorem mem_page_or_lt_resume (hinj : ∀ r ∈ rows, ∀ r' ∈ rows, pos r = pos r' → r = r')
    (hrow : row ∈ rows) (hahead : cursor < pos row) :
    row ∈ page pos rows cursor limit ∨
      resume pos cursor (page pos rows cursor limit) < pos row := by
  by_cases hmem : row ∈ page pos rows cursor limit
  · exact Or.inl hmem
  right
  rcases resume_cases pos cursor (page pos rows cursor limit) with
    ⟨-, hresume⟩ | ⟨init, last, hitems, hresume⟩
  · rwa [hresume]
  · have hlast : last ∈ page pos rows cursor limit := by simp [hitems]
    rw [hresume]
    have hle := page_le_of_notMem hlast hrow hahead hmem
    refine lt_of_le_of_ne hle fun heq => hmem ?_
    rwa [← hinj last (mem_page hlast).1 row hrow heq]

end Page

/-! ## A reader -/

/-- Where a reader is, and all it has read. -/
structure Reader (ρ : Type u) (α : Type v) where
  cursor : α
  received : List ρ

namespace Reader

def poll (pos : ρ → α) (rows : List ρ) (limit : ℕ) (r : Reader ρ α) : Reader ρ α where
  cursor := resume pos r.cursor (page pos rows r.cursor limit)
  received := r.received ++ page pos rows r.cursor limit

variable {pos : ρ → α} {rows : List ρ} {limit : ℕ} {r : Reader ρ α} {row : ρ}

/-- No row was read twice, and none is after the cursor. -/
structure Ordered (pos : ρ → α) (r : Reader ρ α) : Prop where
  nodup : r.received.Nodup
  behind : ∀ row ∈ r.received, pos row ≤ r.cursor

theorem ordered_poll (hrows : rows.Nodup) (h : Ordered pos r) :
    Ordered pos (r.poll pos rows limit) := by
  constructor
  · refine List.nodup_append.mpr ⟨h.nodup, nodup_page hrows, ?_⟩
    rintro row hold row' hnew rfl
    -- a row of the page is after the cursor that no row read before is after
    exact absurd (mem_page hnew).2 (not_lt.mpr (h.behind row hold))
  · intro row hrow
    rcases List.mem_append.mp hrow with hold | hnew
    · exact (h.behind row hold).trans cursor_le_resume
    · exact le_resume page_sorted hnew

/-- Each of these rows was read or is still ahead. -/
def Keeps (pos : ρ → α) (r : Reader ρ α) (kept : List ρ) : Prop :=
  ∀ row ∈ kept, row ∈ r.received ∨ r.cursor < pos row

variable {kept : List ρ}

theorem keeps_poll (hinj : ∀ r ∈ rows, ∀ r' ∈ rows, pos r = pos r' → r = r') (hsub : kept ⊆ rows)
    (h : r.Keeps pos kept) : (r.poll pos rows limit).Keeps pos kept := by
  intro row hrow
  rcases h row hrow with hread | hahead
  · exact Or.inl (List.mem_append_left _ hread)
  · rcases mem_page_or_lt_resume hinj (hsub hrow) hahead with hpage | hlater
    · exact Or.inl (List.mem_append_right _ hpage)
    · exact Or.inr hlater

/-- What is kept is what every page that is not full completes. -/
theorem keeps_iff_short (hsub : kept ⊆ rows) :
    r.Keeps pos kept ↔ ∀ limit, (page pos rows r.cursor limit).length < limit →
      ∀ row ∈ kept, row ∈ (r.poll pos rows limit).received := by
  constructor
  · intro h limit hshort row hrow
    rcases h row hrow with hread | hahead
    · exact List.mem_append_left _ hread
    · exact List.mem_append_right _ (mem_page_of_short hshort (hsub hrow) hahead)
  · intro h row hrow
    have hread := h (rows.length + 1) (page_short (Nat.lt_succ_self _)) row hrow
    rcases List.mem_append.mp hread with hold | hnew
    · exact Or.inl hold
    · exact Or.inr (mem_page hnew).2

/-- A row that was passed over is never read. -/
theorem missed_poll (hnot : row ∉ r.received) (hbehind : pos row ≤ r.cursor) :
    row ∉ (r.poll pos rows limit).received ∧ pos row ≤ (r.poll pos rows limit).cursor := by
  constructor
  · intro hmem
    rcases List.mem_append.mp hmem with hold | hnew
    · exact hnot hold
    · exact absurd (mem_page hnew).2 (not_lt.mpr hbehind)
  · exact hbehind.trans cursor_le_resume

end Reader

end Cathedral.Feed
