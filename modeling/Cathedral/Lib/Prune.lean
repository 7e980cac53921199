import Mathlib.Tactic

/-!
# Cathedral.Lib.Prune — dropping entries one after another

A list of entries with names, from which those of each name in turn are dropped if the
rest still passes a test.
-/

namespace Cathedral

section Prune

variable {α β : Type} [DecidableEq β] {name : α → β} {test : List α → Prop} [DecidablePred test]

/-- The entries of other names. -/
def dropName (name : α → β) (b : β) (l : List α) : List α := l.filter fun a => name a ≠ b

/-- One name in turn. -/
def pruneStep (name : α → β) (test : List α → Prop) [DecidablePred test] (kept : List α) (b : β) :
    List α :=
  if test (dropName name b kept) then dropName name b kept else kept

/-- All names in turn. -/
def prune (name : α → β) (test : List α → Prop) [DecidablePred test] (order : List β)
    (l : List α) : List α := order.foldl (pruneStep name test) l

theorem dropName_sublist (b : β) (l : List α) : (dropName name b l).Sublist l :=
  List.filter_sublist

theorem pruneStep_sublist (kept : List α) (b : β) : (pruneStep name test kept b).Sublist kept := by
  unfold pruneStep
  split_ifs
  · exact dropName_sublist b kept
  · exact List.Sublist.refl kept

/-- What is left of the entries is in their order. -/
theorem prune_sublist (order : List β) (l : List α) : (prune name test order l).Sublist l := by
  induction order generalizing l with
  | nil => exact List.Sublist.refl l
  | cons b order ih => exact (ih (pruneStep name test l b)).trans (pruneStep_sublist l b)

theorem pruneStep_keeps {P : List α → Prop} (htest : ∀ l, test l → P l) {kept : List α} (b : β)
    (h : P kept) : P (pruneStep name test kept b) := by
  unfold pruneStep
  split_ifs with hdrop
  · exact htest _ hdrop
  · exact h

/-- What holds of the whole list, and of every list that passes the test, holds of what is
left. -/
theorem prune_keeps {P : List α → Prop} (htest : ∀ l, test l → P l) (order : List β) {l : List α}
    (h : P l) : P (prune name test order l) := by
  induction order generalizing l with
  | nil => exact h
  | cons b order ih => exact ih (pruneStep_keeps htest b h)

/-- Entries of names that are not in turn stay. -/
theorem mem_prune {order : List β} {l : List α} {a : α} (ha : a ∈ l) (hname : name a ∉ order) :
    a ∈ prune name test order l := by
  induction order generalizing l with
  | nil => exact ha
  | cons b order ih =>
    refine ih ?_ (List.not_mem_of_not_mem_cons hname)
    unfold pruneStep
    split_ifs
    · exact List.mem_filter.mpr ⟨ha, decide_eq_true (List.ne_of_not_mem_cons hname)⟩
    · exact ha

/-! ## What is left comes first -/

/-- At the first name at which two lists differ, this one lacks it. -/
def Before (name : α → β) : List β → List α → List α → Prop
  | [], _, _ => True
  | b :: order, few, other =>
    (b ∉ few.map name ∧ b ∈ other.map name) ∨
      ((b ∈ few.map name ↔ b ∈ other.map name) ∧ Before name order few other)

theorem sublist_dropName {b : β} {m l : List α} (hm : m.Sublist l) (hb : b ∉ m.map name) :
    m.Sublist (dropName name b l) := by
  have hself : dropName name b m = m :=
    List.filter_eq_self.mpr fun a ha => decide_eq_true fun heq => hb (heq ▸ List.mem_map_of_mem ha)
  rw [← hself]
  exact hm.filter _

/-- Of the parts of a list that pass a test, which more entries do not spoil, the one that is
left comes first. -/
theorem prune_before {order : List β} {l m : List α} (horder : order.Nodup)
    (hmono : ∀ {few many : List α}, few.Sublist many → many.Sublist l → test few → test many)
    (hm : m.Sublist l) (htest : test m) : Before name order (prune name test order l) m := by
  induction order generalizing l with
  | nil => exact trivial
  | cons b order ih =>
    obtain ⟨hfresh, horder⟩ := List.nodup_cons.mp horder
    show Before name (b :: order) (prune name test order (pruneStep name test l b)) m
    by_cases hdrop : test (dropName name b l)
    · rw [pruneStep, if_pos hdrop]
      have hgone : b ∉ (prune name test order (dropName name b l)).map name := by
        intro hmem
        obtain ⟨a, ha, hname⟩ := List.mem_map.mp hmem
        have hkept := (List.mem_filter.mp ((prune_sublist order _).subset ha)).2
        exact of_decide_eq_true hkept hname
      by_cases hb : b ∈ m.map name
      · exact .inl ⟨hgone, hb⟩
      · refine .inr ⟨iff_of_false hgone hb, ih horder ?_ (sublist_dropName hm hb)⟩
        exact fun hsub hl => hmono hsub (hl.trans (dropName_sublist b l))
    · -- without entries of this name the test fails, so `m` has one
      rw [pruneStep, if_neg hdrop]
      have hb : b ∈ m.map name := by
        by_contra hb
        exact hdrop (hmono (sublist_dropName hm hb) (dropName_sublist b l) htest)
      have hkept : b ∈ (prune name test order l).map name := by
        obtain ⟨a, ha, hname⟩ := List.mem_map.mp hb
        exact List.mem_map.mpr ⟨a, mem_prune (hm.subset ha) (hname ▸ hfresh), hname⟩
      exact .inr ⟨iff_of_true hkept hb, ih horder hmono hm⟩

omit [DecidableEq β] in
theorem mem_iff_of_before {order : List β} {m m' : List α} (h : Before name order m m')
    (h' : Before name order m' m) {b : β} (hb : b ∈ order) :
    b ∈ m.map name ↔ b ∈ m'.map name := by
  induction order with
  | nil => exact absurd hb List.not_mem_nil
  | cons c order ih =>
    rcases h with ⟨hc, hc'⟩ | ⟨hiff, hrest⟩
    · rcases h' with ⟨hc'', -⟩ | ⟨hiff', -⟩
      · exact absurd hc' hc''
      · exact absurd (hiff'.mp hc') hc
    · rcases h' with ⟨hc, hc'⟩ | ⟨-, hrest'⟩
      · exact absurd (hiff.mp hc') hc
      · rcases List.mem_cons.mp hb with rfl | hb
        · exact hiff
        · exact ih hrest hrest' hb

omit [DecidableEq β] in
/-- Parts of a list of distinct names are told apart by their names. -/
theorem eq_of_names : ∀ {l m m' : List α}, (l.map name).Nodup → m.Sublist l → m'.Sublist l →
    (∀ b ∈ l.map name, b ∈ m.map name ↔ b ∈ m'.map name) → m = m'
  | [], m, m', _, hm, hm', _ => (List.sublist_nil.mp hm).trans (List.sublist_nil.mp hm').symm
  | a :: l, m, m', hnodup, hm, hm', h => by
    obtain ⟨hfresh, hnodup⟩ := List.nodup_cons.mp hnodup
    have hout : ∀ {part : List α}, part.Sublist l → name a ∉ part.map name :=
      fun hpart hmem => hfresh ((hpart.map name).subset hmem)
    have ha := h (name a) List.mem_cons_self
    have hrest : ∀ b ∈ l.map name, b ∈ m.map name ↔ b ∈ m'.map name :=
      fun b hb => h b (List.mem_cons_of_mem _ hb)
    rcases List.sublist_cons_iff.mp hm with hm | ⟨n, rfl, hn⟩
    · rcases List.sublist_cons_iff.mp hm' with hm' | ⟨n', rfl, hn'⟩
      · exact eq_of_names hnodup hm hm' hrest
      · exact absurd (ha.mpr List.mem_cons_self) (hout hm)
    · rcases List.sublist_cons_iff.mp hm' with hm' | ⟨n', rfl, hn'⟩
      · exact absurd (ha.mp List.mem_cons_self) (hout hm')
      · refine congrArg (a :: ·) (eq_of_names hnodup hn hn' fun b hb => ?_)
        have hne : b ≠ name a := fun heq => hfresh (heq ▸ hb)
        have hiff := hrest b hb
        rw [List.map_cons, List.map_cons, List.mem_cons, List.mem_cons] at hiff
        simpa only [hne, false_or] using hiff

end Prune

end Cathedral
