import Mathlib.Data.Prod.Lex
import Mathlib.Data.String.Basic
import Cathedral.Lib.Feed

/-!
# Cathedral.Publisher.FeedPages — the pages of `recent_rows`

`Store.insert_row` and `Store.recent_rows` of `scaffold/publisher/store.py`, on rows of any
times and ids. A client follows the `(ran_at, id)` cursor page by page, while rows are
inserted.

A first call without a cursor is no start: it answers with the newest rows, in the other order.
-/

namespace Cathedral.Publisher.FeedPages

open Feed

/-! ## The table -/

/-- A row of `eval_runs`; `row_json` is the row itself, with what else it says. -/
structure EvalRow (β : Type) where
  id : String
  ranAt : String
  body : β
deriving DecidableEq

/-- The order of the feed: `(ran_at, id)`, texts by their code points. -/
def position {β : Type} (row : EvalRow β) : String ×ₗ String := toLex (row.ranAt, row.id)

variable {β : Type}

/-- `insert_row`: nothing changes where the id is taken. -/
def insertRow (rows : List (EvalRow β)) (row : EvalRow β) : List (EvalRow β) :=
  if row.id ∈ rows.map EvalRow.id then rows else rows ++ [row]

def recentRows (rows : List (EvalRow β)) (sinceRanAt sinceId : Option String) (limit : ℕ) :
    List (EvalRow β) :=
  match sinceRanAt with
  | none => (rows.insertionSort fun a b => position b ≤ position a).take limit
  | some since =>
    ((rows.filter fun row =>
        since < row.ranAt ∨ (row.ranAt = since ∧ sinceId.getD "" < row.id)).insertionSort
      fun a b => position a ≤ position b).take limit

/-- With a cursor the query is a page of the feed. -/
theorem recentRows_eq_page (rows : List (EvalRow β)) (since : String) (sinceId : Option String)
    (limit : ℕ) :
    recentRows rows (some since) sinceId limit =
      page position rows (toLex (since, sinceId.getD "")) limit := by
  have hfilter : ∀ row : EvalRow β, (since < row.ranAt ∨
      (row.ranAt = since ∧ sinceId.getD "" < row.id)) ↔
        toLex (since, sinceId.getD "") < position row := by
    intro row
    rw [Prod.Lex.lt_iff]
    exact or_congr Iff.rfl (and_congr eq_comm Iff.rfl)
  simp only [recentRows, page, hfilter]

/-! ## Clients -/

/-- The primary key. -/
def Keyed (rows : List (EvalRow β)) : Prop := (rows.map EvalRow.id).Nodup

instance (rows : List (EvalRow β)) : Decidable (Keyed rows) :=
  inferInstanceAs (Decidable (rows.map EvalRow.id).Nodup)

/-- A table and a client that follows the cursor. -/
structure World (β : Type) where
  rows : List (EvalRow β)
  reader : Reader (EvalRow β) (String ×ₗ String)

inductive Event (β : Type) where
  | insert (row : EvalRow β)
  | page (limit : ℕ)

/-- What the next page holds. -/
def World.answer (w : World β) (limit : ℕ) : List (EvalRow β) :=
  recentRows w.rows (some (ofLex w.reader.cursor).1) (some (ofLex w.reader.cursor).2) limit

/-- The cursor moves to the last row of the page, if there is one. -/
def World.step (w : World β) : Event β → World β
  | .insert row => { w with rows := insertRow w.rows row }
  | .page limit =>
    { w with reader :=
      { cursor := ((w.answer limit).getLast?.map position).getD w.reader.cursor
        received := w.reader.received ++ w.answer limit } }

def World.run (w : World β) (events : List (Event β)) : World β := events.foldl World.step w

/-- A client at a start, which has received nothing. -/
def World.start (rows : List (EvalRow β)) (since : String) (sinceId : Option String) : World β :=
  ⟨rows, ⟨toLex (since, sinceId.getD ""), []⟩⟩

theorem answer_eq_page (w : World β) (limit : ℕ) :
    w.answer limit = page position w.rows w.reader.cursor limit := recentRows_eq_page _ _ _ _

theorem step_page (w : World β) (limit : ℕ) :
    (w.step (.page limit)).reader = w.reader.poll position w.rows limit := by
  show Reader.mk _ _ = Reader.mk _ _
  rw [answer_eq_page]
  rfl

/-! ## The invariant -/

theorem position_injOn {rows : List (EvalRow β)} (h : Keyed rows) :
    ∀ row ∈ rows, ∀ row' ∈ rows, position row = position row' → row = row' :=
  fun _ hrow _ hrow' heq =>
    List.inj_on_of_nodup_map h hrow hrow' (congrArg (fun p => (ofLex p).2) heq)

theorem Keyed.insertRow {rows : List (EvalRow β)} (h : Keyed rows) (row : EvalRow β) :
    Keyed (insertRow rows row) := by
  unfold FeedPages.insertRow
  split_ifs with htaken
  · exact h
  · unfold Keyed
    rw [List.map_append, List.nodup_append]
    refine ⟨h, List.nodup_singleton _, ?_⟩
    rintro id hid other hother rfl
    rw [List.map_singleton, List.mem_singleton] at hother
    exact htaken (hother ▸ hid)

theorem subset_insertRow (rows : List (EvalRow β)) (row : EvalRow β) : rows ⊆ insertRow rows row := by
  unfold insertRow
  split_ifs
  · exact List.Subset.refl rows
  · exact List.subset_append_left rows [row]

theorem mem_insertRow {rows : List (EvalRow β)} {row : EvalRow β}
    (h : row.id ∉ rows.map EvalRow.id) : row ∈ insertRow rows row := by
  unfold insertRow
  rw [if_neg h]
  exact List.mem_append_right rows (List.mem_singleton_self row)

theorem Keyed.filter {rows : List (EvalRow β)} (h : Keyed rows) (p : EvalRow β → Bool) :
    Keyed (rows.filter p) := h.sublist (List.filter_sublist.map EvalRow.id)

/-- What holds of a client at any time: what it has received is of the table, strictly in order,
after its start and not after its cursor. -/
structure Inv (start : String ×ₗ String) (w : World β) : Prop where
  keyed : Keyed w.rows
  received : w.reader.received ⊆ w.rows
  sorted : w.reader.received.Pairwise fun a b => position a < position b
  after : ∀ row ∈ w.reader.received, start < position row
  behind : ∀ row ∈ w.reader.received, position row ≤ w.reader.cursor
  cursor : start ≤ w.reader.cursor

section Runs

variable {start : String ×ₗ String} {w : World β} {limit : ℕ} {row : EvalRow β}

theorem inv_start {rows : List (EvalRow β)} (h : Keyed rows) (since : String)
    (sinceId : Option String) :
    Inv (toLex (since, sinceId.getD "")) (World.start rows since sinceId) := by
  refine ⟨h, List.nil_subset _, List.Pairwise.nil, ?_, ?_, le_rfl⟩
  · exact fun row hrow => absurd hrow List.not_mem_nil
  · exact fun row hrow => absurd hrow List.not_mem_nil

theorem page_strict (h : Keyed w.rows) (cursor : String ×ₗ String) :
    (page position w.rows cursor limit).Pairwise fun a b => position a < position b := by
  have hnodup : (page position w.rows cursor limit).Nodup := nodup_page (List.Nodup.of_map _ h)
  refine (page_sorted.and hnodup).imp_of_mem fun ha hb hab => lt_of_le_of_ne hab.1 fun heq => ?_
  exact hab.2 (position_injOn h _ (mem_page ha).1 _ (mem_page hb).1 heq)

theorem inv_page (h : Inv start w) : Inv start (w.step (.page limit)) := by
  constructor
  · exact h.keyed
  · rw [step_page]
    refine List.append_subset.mpr ⟨h.received, fun row hrow => ?_⟩
    exact (mem_page hrow).1
  · rw [step_page]
    refine List.pairwise_append.mpr ⟨h.sorted, page_strict h.keyed _, fun a ha b hb => ?_⟩
    -- a row of the page is after the cursor, and none received before is
    exact (h.behind a ha).trans_lt (mem_page hb).2
  · rw [step_page]
    intro row hrow
    rcases List.mem_append.mp hrow with hold | hnew
    · exact h.after row hold
    · exact h.cursor.trans_lt (mem_page hnew).2
  · rw [step_page]
    intro row hrow
    rcases List.mem_append.mp hrow with hold | hnew
    · exact (h.behind row hold).trans cursor_le_resume
    · exact le_resume page_sorted hnew
  · rw [step_page]
    exact h.cursor.trans cursor_le_resume

theorem inv_step (h : Inv start w) (event : Event β) : Inv start (w.step event) := by
  cases event with
  | insert row =>
    refine ⟨h.keyed.insertRow row, ?_, h.sorted, h.after, h.behind, h.cursor⟩
    exact List.Subset.trans h.received (subset_insertRow w.rows row)
  | page limit => exact inv_page h

theorem inv_run (h : Inv start w) (events : List (Event β)) : Inv start (w.run events) := by
  induction events generalizing w with
  | nil => exact h
  | cons event events ih => exact ih (inv_step h event)

/-- What one event can do to a row of the table: it stays received, ahead or passed over, or a
page takes it from ahead. -/
theorem fate_step (h : Inv start w) (hrow : row ∈ w.rows) (event : Event β) :
    row ∈ (w.step event).rows ∧
      (row ∈ w.reader.received ∨ w.reader.cursor < position row →
        row ∈ (w.step event).reader.received ∨ (w.step event).reader.cursor < position row) ∧
      (row ∉ w.reader.received ∧ position row ≤ w.reader.cursor →
        row ∉ (w.step event).reader.received ∧ position row ≤ (w.step event).reader.cursor) := by
  cases event with
  | insert other => exact ⟨subset_insertRow w.rows other hrow, id, id⟩
  | page limit =>
    refine ⟨hrow, ?_, ?_⟩
    · intro hkept
      have hkeeps : w.reader.Keeps position [row] :=
        fun other hother => List.mem_singleton.mp hother ▸ hkept
      rw [step_page]
      exact Reader.keeps_poll (position_injOn h.keyed)
        (List.cons_subset.mpr ⟨hrow, List.nil_subset _⟩) hkeeps row (List.mem_singleton_self row)
    · rintro ⟨hnot, hbehind⟩
      rw [step_page]
      exact Reader.missed_poll hnot hbehind

theorem fate_run (h : Inv start w) (hrow : row ∈ w.rows) (events : List (Event β)) :
    row ∈ (w.run events).rows ∧
      (row ∈ w.reader.received ∨ w.reader.cursor < position row →
        row ∈ (w.run events).reader.received ∨
          (w.run events).reader.cursor < position row) ∧
      (row ∉ w.reader.received ∧ position row ≤ w.reader.cursor →
        row ∉ (w.run events).reader.received ∧
          position row ≤ (w.run events).reader.cursor) := by
  induction events generalizing w with
  | nil => exact ⟨hrow, id, id⟩
  | cons event events ih =>
    obtain ⟨hstays, hkept, hmissed⟩ := fate_step h hrow event
    obtain ⟨hstays', hkept', hmissed'⟩ := ih (inv_step h event) hstays
    exact ⟨hstays', fun hk => hkept' (hkept hk), fun hm => hmissed' (hmissed hm)⟩

/-! ## Until the pages run out -/

/-- Pages of one limit until one is empty. -/
def follow (limit : ℕ) : ℕ → World β → Option (World β)
  | 0, _ => none
  | fuel + 1, w =>
    if (w.answer limit).isEmpty then some w else follow limit fuel (w.step (.page limit))

/-- The rows after the cursor. -/
def ahead (w : World β) : List (EvalRow β) := w.rows.filter fun row => w.reader.cursor < position row

theorem ahead_page (w : World β) (limit : ℕ) :
    ahead (w.step (.page limit)) = w.rows.filter fun row =>
      resume position w.reader.cursor (page position w.rows w.reader.cursor limit) <
        position row := by
  unfold ahead
  rw [step_page]
  rfl

theorem not_ahead (hnone : ahead w = []) (hrow : row ∈ w.rows) : ¬w.reader.cursor < position row := by
  intro hahead
  have hmem : row ∈ ahead w := List.mem_filter.mpr ⟨hrow, decide_eq_true hahead⟩
  rw [hnone] at hmem
  cases hmem

/-- A page that is not empty leaves fewer rows ahead. -/
theorem length_ahead_page (hne : w.answer limit ≠ []) :
    (ahead (w.step (.page limit))).length < (ahead w).length := by
  rw [answer_eq_page] at hne
  obtain ⟨row, hrow⟩ := List.exists_mem_of_ne_nil _ hne
  obtain ⟨hmem, hahead⟩ := mem_page hrow
  have hsub : (ahead (w.step (.page limit))).Sublist (ahead w) := by
    rw [ahead_page]
    refine List.monotone_filter_right _ fun other hother => ?_
    exact decide_eq_true (cursor_le_resume.trans_lt (of_decide_eq_true hother))
  refine lt_of_le_of_ne hsub.length_le fun heq => ?_
  have hself : row ∈ ahead w := List.mem_filter.mpr ⟨hmem, decide_eq_true hahead⟩
  rw [← hsub.eq_of_length heq, ahead_page] at hself
  exact absurd (of_decide_eq_true (List.mem_filter.mp hself).2)
    (not_lt.mpr (le_resume page_sorted hrow))

theorem ahead_eq_nil (hlimit : 1 ≤ limit) (hempty : w.answer limit = []) : ahead w = [] := by
  rw [answer_eq_page] at hempty
  refine List.eq_nil_iff_forall_not_mem.mpr fun row hrow => ?_
  obtain ⟨hmem, hahead⟩ := List.mem_filter.mp hrow
  have hshort : (page position w.rows w.reader.cursor limit).length < limit := by
    rw [hempty]
    exact hlimit
  have hpage := mem_page_of_short hshort hmem (of_decide_eq_true hahead)
  rw [hempty] at hpage
  cases hpage

/-- The pages run out, after some number of them, with no row ahead. -/
theorem follow_ends (hlimit : 1 ≤ limit) : ∀ {fuel : ℕ} {w : World β}, (ahead w).length < fuel →
    ∃ count, follow limit fuel w = some (w.run (List.replicate count (.page limit))) ∧
      ahead (w.run (List.replicate count (.page limit))) = []
  | 0, _, hfuel => absurd hfuel (Nat.not_lt_zero _)
  | fuel + 1, w, hfuel => by
    unfold follow
    split_ifs with hempty
    · exact ⟨0, rfl, ahead_eq_nil hlimit (List.isEmpty_iff.mp hempty)⟩
    · have hne : w.answer limit ≠ [] := fun heq => hempty (List.isEmpty_iff.mpr heq)
      have hless := length_ahead_page hne
      obtain ⟨count, hfollow, hrest⟩ :=
        follow_ends hlimit (show (ahead (w.step (.page limit))).length < fuel by omega)
      exact ⟨count + 1, hfollow, hrest⟩

/-- Pages insert nothing. -/
theorem rows_pages (w : World β) (limit count : ℕ) :
    (w.run (List.replicate count (.page limit))).rows = w.rows := by
  induction count generalizing w with
  | zero => rfl
  | succ count ih => exact ih (w.step (.page limit))

theorem length_ahead_le (w : World β) : (ahead w).length ≤ w.rows.length :=
  List.length_filter_le _ _

/-- Rows in order that are the rows of a list are its sorting. -/
theorem eq_sorted {rows sorted : List (EvalRow β)} (hkeyed : Keyed rows)
    (hsorted : sorted.Pairwise fun a b => position a < position b)
    (hmem : ∀ row, row ∈ sorted ↔ row ∈ rows) :
    sorted = rows.insertionSort fun a b => position a ≤ position b := by
  have hnodup : sorted.Nodup := hsorted.imp fun hlt heq => absurd (heq ▸ hlt) (lt_irrefl _)
  have hperm : sorted.Perm rows :=
    (List.perm_ext_iff_of_nodup hnodup (List.Nodup.of_map _ hkeyed)).mpr hmem
  refine (hperm.trans (List.perm_insertionSort _ rows).symm).eq_of_pairwise ?_
    (hsorted.imp le_of_lt) (sorted_rows position rows)
  intro a b ha hb hab hba
  exact position_injOn hkeyed a (hperm.subset ha) b ((List.mem_insertionSort _).mp hb)
    (le_antisymm hab hba)

end Runs

/-- Following the cursor of `recent_rows` from any start, by pages of at least one row. Without
insertions the pages run out and hold the rows after the start, in order. Among insertions, what is
received is in order without repetition, and of the table and after the start; a row ahead of the
cursor is received by the time the pages run out, and a row inserted behind it never is. -/
theorem pages_law (rows : List (EvalRow β)) (hkeyed : Keyed rows) (since : String)
    (sinceId : Option String) (limit : ℕ) (hlimit : 1 ≤ limit) :
    (∀ fuel, rows.length < fuel →
      ∃ w, follow limit fuel (World.start rows since sinceId) = some w ∧
        w.reader.received =
          (rows.filter fun row => toLex (since, sinceId.getD "") < position row).insertionSort
            fun a b => position a ≤ position b) ∧
      ∀ earlier later : List (Event β), ∀ w w', (World.start rows since sinceId).run earlier = w →
        w.run later = w' →
          (w'.reader.received.Pairwise fun a b => position a < position b) ∧
            (∀ row ∈ w'.reader.received, row ∈ w'.rows ∧
              toLex (since, sinceId.getD "") < position row) ∧
            (∀ row ∈ w.rows, w.reader.cursor < position row → ∀ fuel, w'.rows.length < fuel →
              ∃ ended, follow limit fuel w' = some ended ∧ row ∈ ended.reader.received ∧
                ended.reader.received.Pairwise fun a b => position a < position b) ∧
            ∀ row, row.id ∉ w.rows.map EvalRow.id → position row ≤ w.reader.cursor →
              row ∉ ((w.step (.insert row)).run later).reader.received := by
  have hstart := inv_start hkeyed since sinceId
  refine ⟨fun fuel hfuel => ?_, ?_⟩
  · obtain ⟨count, hfollow, hnone⟩ := @follow_ends _ limit hlimit fuel
      (World.start rows since sinceId) ((length_ahead_le _).trans_lt hfuel)
    refine ⟨_, hfollow, ?_⟩
    have hinv := inv_run hstart (List.replicate count (Event.page limit))
    have hrows := rows_pages (World.start rows since sinceId) limit count
    refine eq_sorted (Keyed.filter hkeyed _) hinv.sorted fun row => ?_
    rw [List.mem_filter]
    constructor
    · intro hrow
      have hmem := hinv.received hrow
      rw [hrows] at hmem
      exact ⟨hmem, decide_eq_true (hinv.after row hrow)⟩
    · rintro ⟨hmem, hafter⟩
      -- it was ahead at the start, and nothing is ahead any more
      obtain ⟨hstays, hkept, -⟩ := fate_run hstart hmem (List.replicate count (Event.page limit))
      refine (hkept (Or.inr (of_decide_eq_true hafter))).resolve_right fun hahead => ?_
      exact not_ahead hnone hstays hahead
  · rintro earlier later w w' hw rfl
    have hinv := hw ▸ inv_run hstart earlier
    have hinv' := inv_run hinv later
    refine ⟨hinv'.sorted, fun row hrow => ⟨hinv'.received hrow, hinv'.after row hrow⟩, ?_, ?_⟩
    · intro row hrow hahead fuel hfuel
      obtain ⟨hstays, hkept, -⟩ := fate_run hinv hrow later
      obtain ⟨count, hfollow, hnone⟩ := follow_ends hlimit ((length_ahead_le _).trans_lt hfuel)
      obtain ⟨hended, hends, -⟩ :=
        fate_run hinv' hstays (List.replicate count (Event.page limit))
      refine ⟨_, hfollow, ?_, (inv_run hinv' _).sorted⟩
      exact (hends (hkept (Or.inr hahead))).resolve_right fun hrest => not_ahead hnone hended hrest
    · intro row hfresh hbehind
      have hnot : row ∉ w.reader.received :=
        fun hreceived => hfresh (List.mem_map_of_mem (hinv.received hreceived))
      have hinserted : row ∈ (w.step (.insert row)).rows := mem_insertRow hfresh
      exact ((fate_run (inv_step hinv (.insert row)) hinserted later).2.2 ⟨hnot, hbehind⟩).1

section Witness

private def tied : List (EvalRow Unit) := [⟨"b", "t1", ()⟩, ⟨"a", "t1", ()⟩]

/-- Two rows of one time, by pages of one row: the second page starts inside the tie. A row
inserted after the first page is received if its id is ahead, and not if it is behind. -/
theorem pages_law_tie :
    (∃ w, follow 1 3 (World.start tied "t0" none) = some w ∧
      w.reader.received.map EvalRow.id = ["a", "b"]) ∧
      (∃ ended, follow 1 4 ((World.start tied "t0" none).run
        [.page 1, .insert ⟨"ab", "t1", ()⟩]) = some ended ∧
          ⟨"ab", "t1", ()⟩ ∈ ended.reader.received) ∧
      ⟨"Z", "t1", ()⟩ ∉ ((((World.start tied "t0" none).run [.page 1]).step
        (.insert ⟨"Z", "t1", ()⟩)).run [.page 1]).reader.received := by
  obtain ⟨hstatic, hdynamic⟩ := pages_law tied (by decide) "t0" none 1 le_rfl
  refine ⟨?_, ?_, ?_⟩
  · obtain ⟨w, hfollow, hreceived⟩ := hstatic 3 (by decide)
    refine ⟨w, hfollow, ?_⟩
    rw [hreceived]
    decide
  · obtain ⟨ended, hfollow, hmem, -⟩ := (hdynamic [.page 1, .insert ⟨"ab", "t1", ()⟩] [] _ _ rfl
      rfl).2.2.1 ⟨"ab", "t1", ()⟩ (by decide) (by decide) 4 (by decide)
    exact ⟨ended, hfollow, hmem⟩
  · exact (hdynamic [.page 1] [.page 1] _ _ rfl rfl).2.2.2 ⟨"Z", "t1", ()⟩ (by decide) (by decide)

end Witness

end Cathedral.Publisher.FeedPages
