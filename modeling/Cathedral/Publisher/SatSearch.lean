import Cathedral.Publisher.CnfTexts

/-!
# Cathedral.Publisher.SatSearch — the solver of the scaffold

`dimacs.solve_cnf`: unit propagation and a branch on the literal that is most frequent in the
clauses not yet satisfied. The loop and the recursion run on fuel; the interpreter's limit on
the depth of a recursion is not modelled.
-/

namespace Cathedral.Publisher.SatSearch

open PyStr Clauses Graders CnfTexts

/-! ## The solver -/

/-- How a search ends: not yet, by `None`, or with a result. -/
inductive Search (α : Type) where
  | running
  | exhausted
  | found (sol : α)

abbrev Partial : Type := Dict ℤ Bool

/-- The inner loop over a clause: `none` once a literal is true, else the unassigned ones. -/
def scanClause (a : Partial) : List ℤ → List ℤ → Option (List ℤ)
  | [], unassigned => some unassigned
  | lit :: rest, unassigned =>
    match a.get? |lit| with
    | some b => if b = decide (0 < lit) then none else scanClause a rest unassigned
    | none => scanClause a rest (unassigned ++ [lit])

/-- One clause of a pass: `none` for a conflict, else the assignment and whether it changed. -/
def propagateClause (s : Partial × Bool) (clause : List ℤ) : Option (Partial × Bool) :=
  match scanClause s.1 clause [] with
  | none => some s
  | some [] => none
  | some [u] => some (s.1.set |u| (decide (0 < u)), true)
  | some _ => some s

def pass (clauses : List (List ℤ)) (a : Partial) : Option (Partial × Bool) :=
  clauses.foldlM propagateClause (a, false)

/-- The loop of the unit propagation. -/
def propagate (clauses : List (List ℤ)) : ℕ → Partial → Search Partial
  | 0, _ => .running
  | fuel + 1, a =>
    match pass clauses a with
    | none => .exhausted
    | some (a', changed) => if changed then propagate clauses fuel a' else .found a'

/-- `any(a.get(abs(lit)) == (lit > 0) for lit in cl)`. -/
def satisfied (a : Partial) (clause : List ℤ) : Bool :=
  clause.any fun lit => a.get? |lit| = some (decide (0 < lit))

/-- The literals that count for the branch, with repetitions. -/
def openLiterals (clauses : List (List ℤ)) (a : Partial) : List ℤ :=
  (clauses.filter fun clause => !satisfied a clause).flatten.filter fun lit =>
    (a.get? |lit|).isNone

def score (clauses : List (List ℤ)) (a : Partial) : Dict ℤ ℕ :=
  (openLiterals clauses a).foldl (fun d lit => d.add lit 1) Dict.empty

/-- `max(score, key=lambda lit: (score[lit], -abs(lit), -lit))`. -/
def bestLiteral (score : Dict ℤ ℕ) : Option ℤ :=
  score.keys.maxOn? fun lit => toLex (score.getD lit 0, toLex (-|lit|, -lit))

/-- `for v in range(1, n_vars + 1): a.setdefault(v, True)`. -/
def fillFree (nVars : ℤ) (a : Partial) : Partial :=
  (List.range nVars.toNat).foldl
    (fun a (i : ℕ) => if (a.get? (i + 1)).isSome then a else a.set (i + 1) true) a

/-- `dpll`, with so many passes for a propagation. -/
def dpll (nVars : ℤ) (clauses : List (List ℤ)) (passes : ℕ) : ℕ → Partial → Search Partial
  | 0, _ => .running
  | fuel + 1, assign =>
    match propagate clauses passes assign with
    | .running => .running
    | .exhausted => .exhausted
    | .found a =>
      match bestLiteral (score clauses a) with
      | none => .found (fillFree nVars a)
      | some best =>
        match dpll nVars clauses passes fuel (a.set |best| (decide (0 < best))) with
        | .found sol => .found sol
        | .running => .running
        | .exhausted => dpll nVars clauses passes fuel (a.set |best| (decide (best ≤ 0)))

/-- `solve_cnf` of a parsed formula. -/
def solveParsed (fuel : ℕ) (cnf : ℤ × List (List ℤ)) : Search (List ℤ) :=
  match dpll cnf.1 cnf.2 fuel fuel Dict.empty with
  | .running => .running
  | .exhausted => .exhausted
  | .found sol => .found (literals (fun v => sol.getD v true) cnf.1)

/-- `solve_cnf`; `none` where `parse_cnf` raises. -/
def solveCnf (tables : UnicodeTables) (fuel : ℕ) (cnfText : PyStr) : Option (Search (List ℤ)) :=
  (parseCnf tables cnfText).map (solveParsed fuel)

/-! ## Partial assignments -/

variable {a a' : Partial} {clause : List ℤ} {clauses : List (List ℤ)} {τ : ℤ → Bool} {nVars lit : ℤ}

/-- The valuation has the values that are assigned. -/
def Agrees (τ : ℤ → Bool) (a : Partial) : Prop := ∀ v b, a.get? v = some b → τ v = b

/-- Assigned values stay. -/
def Kept (a a' : Partial) : Prop := ∀ v b, a.get? v = some b → a'.get? v = some b

def Open (a : Partial) (lit : ℤ) : Prop := a.get? |lit| = none

def TrueUnder (a : Partial) (lit : ℤ) : Prop := a.get? |lit| = some (decide (0 < lit))

def FalseUnder (a : Partial) (lit : ℤ) : Prop := a.get? |lit| = some (!decide (0 < lit))

/-- Propagation has nothing to do with the clause: it is satisfied, or a literal is open. -/
def Settled (a : Partial) (clause : List ℤ) : Prop :=
  (∃ lit ∈ clause, TrueUnder a lit) ∨ ∃ lit ∈ clause, Open a lit

def vars (clauses : List (List ℤ)) : Finset ℤ := (clauses.flatten.map abs).toFinset

/-- How many variables of the clauses are not assigned. -/
def free (clauses : List (List ℤ)) (a : Partial) : ℕ := (vars clauses \ a.keys.toFinset).card

theorem Agrees.not_holds (h : Agrees τ a) (hlit : FalseUnder a lit) : ¬Holds τ lit := by
  intro hholds
  have hval := h _ _ hlit
  rw [hholds] at hval
  cases hlt : decide (0 < lit) <;> simp [hlt] at hval

theorem Agrees.set {v : ℤ} {b : Bool} (h : Agrees τ a) (hv : τ v = b) : Agrees τ (a.set v b) := by
  intro w c hw
  rw [Dict.get?_set] at hw
  split_ifs at hw with heq
  · rw [← heq, hv]
    exact Option.some.inj hw
  · exact h w c hw

theorem Kept.refl (a : Partial) : Kept a a := fun _ _ h => h

theorem Kept.trans {b : Partial} (h : Kept a b) (h' : Kept b a') : Kept a a' :=
  fun v c hc => h' v c (h v c hc)

theorem kept_set (hopen : Open a lit) (b : Bool) : Kept a (a.set |lit| b) := by
  intro v c hc
  have hne : |lit| ≠ v := by
    rintro rfl
    rw [hopen] at hc
    cases hc
  rw [Dict.get?_set_ne _ _ hne]
  exact hc

theorem Kept.ne_none (h : Kept a a') {v : ℤ} (hv : a.get? v ≠ none) : a'.get? v ≠ none := by
  obtain ⟨b, hb⟩ := Option.ne_none_iff_exists'.mp hv
  rw [h v b hb]
  exact Option.some_ne_none b

/-- Assigning a variable of the clauses leaves fewer. -/
theorem free_lt (hkept : Kept a a') (hlit : lit ∈ clauses.flatten) (hopen : Open a lit)
    (hset : a'.get? |lit| ≠ none) : free clauses a' < free clauses a := by
  refine Finset.card_lt_card (Finset.ssubset_iff_of_subset ?_ |>.mpr ⟨|lit|, ?_, ?_⟩)
  · intro v hv
    rw [Finset.mem_sdiff, List.mem_toFinset] at hv ⊢
    refine ⟨hv.1, fun hkey => hv.2 ?_⟩
    obtain ⟨b, hb⟩ := Dict.mem_keys.mp hkey
    exact Dict.mem_keys.mpr ⟨b, hkept v b hb⟩
  · rw [Finset.mem_sdiff, vars, List.mem_toFinset, List.mem_toFinset]
    exact ⟨List.mem_map_of_mem hlit, Dict.get?_eq_none.mp hopen⟩
  · intro hmem
    rw [Finset.mem_sdiff, List.mem_toFinset] at hmem
    exact hset (Dict.get?_eq_none.mpr hmem.2)

/-! ## Unit propagation -/

/-- The scan of a clause stops at a true literal, or collects the open ones among false ones. -/
theorem scanClause_cases (a : Partial) : ∀ clause unassigned : List ℤ,
    (scanClause a clause unassigned = none ∧ ∃ lit ∈ clause, TrueUnder a lit) ∨
      ∃ more, scanClause a clause unassigned = some (unassigned ++ more) ∧
        (∀ lit ∈ clause, lit ∈ more ∨ FalseUnder a lit) ∧ ∀ lit ∈ more, lit ∈ clause ∧ Open a lit
  | [], unassigned => by
    refine Or.inr ⟨[], ?_, ?_, ?_⟩
    · rw [List.append_nil, scanClause]
    · exact fun _ h => absurd h List.not_mem_nil
    · exact fun _ h => absurd h List.not_mem_nil
  | lit :: rest, unassigned => by
    cases hget : a.get? |lit| with
    | none =>
      rcases scanClause_cases a rest (unassigned ++ [lit]) with
        ⟨hscan, l, hl, htrue⟩ | ⟨more, hscan, hall, hmore⟩
      · refine Or.inl ⟨?_, l, List.mem_cons_of_mem lit hl, htrue⟩
        rw [scanClause, hget]
        exact hscan
      · refine Or.inr ⟨lit :: more, ?_, ?_, ?_⟩
        · rw [scanClause, hget]
          exact hscan.trans (by rw [List.append_assoc, List.singleton_append])
        · refine List.forall_mem_cons.mpr ⟨Or.inl List.mem_cons_self, fun l hl => ?_⟩
          exact (hall l hl).imp_left (List.mem_cons_of_mem lit)
        · refine List.forall_mem_cons.mpr ⟨⟨List.mem_cons_self, hget⟩, fun l hl => ?_⟩
          exact ⟨List.mem_cons_of_mem lit (hmore l hl).1, (hmore l hl).2⟩
    | some b =>
      by_cases hb : b = decide (0 < lit)
      · refine Or.inl ⟨?_, lit, List.mem_cons_self, ?_⟩
        · rw [scanClause, hget]
          exact if_pos hb
        · rw [TrueUnder, hget, hb]
      · have hfalse : FalseUnder a lit := by
          rw [FalseUnder, hget, Bool.eq_not.mpr hb]
        have hstep : scanClause a (lit :: rest) unassigned = scanClause a rest unassigned := by
          rw [scanClause, hget]
          exact if_neg hb
        rw [hstep]
        rcases scanClause_cases a rest unassigned with
          ⟨hscan, l, hl, htrue⟩ | ⟨more, hscan, hall, hmore⟩
        · exact Or.inl ⟨hscan, l, List.mem_cons_of_mem lit hl, htrue⟩
        · refine Or.inr ⟨more, hscan, ?_, ?_⟩
          · exact List.forall_mem_cons.mpr ⟨Or.inr hfalse, hall⟩
          · exact fun l hl => ⟨List.mem_cons_of_mem lit (hmore l hl).1, (hmore l hl).2⟩

/-- What a clause does in a pass: nothing, a conflict, or a literal that it forces. -/
theorem propagateClause_cases (a : Partial) (changed : Bool) (clause : List ℤ) :
    (propagateClause (a, changed) clause = some (a, changed) ∧ Settled a clause) ∨
      (propagateClause (a, changed) clause = none ∧ ∀ lit ∈ clause, FalseUnder a lit) ∨
      ∃ u ∈ clause, Open a u ∧ (∀ lit ∈ clause, lit = u ∨ FalseUnder a lit) ∧
        propagateClause (a, changed) clause = some (a.set |u| (decide (0 < u)), true) := by
  unfold propagateClause
  rcases scanClause_cases a clause [] with ⟨hscan, htrue⟩ | ⟨more, hscan, hall, hmore⟩
  · rw [hscan]
    exact Or.inl ⟨rfl, Or.inl htrue⟩
  · rw [hscan, List.nil_append]
    match more with
    | [] =>
      refine Or.inr (Or.inl ⟨rfl, fun lit hlit => ?_⟩)
      exact (hall lit hlit).resolve_left List.not_mem_nil
    | [u] =>
      obtain ⟨hu, hopen⟩ := hmore u List.mem_cons_self
      refine Or.inr (Or.inr ⟨u, hu, hopen, fun lit hlit => ?_, rfl⟩)
      exact (hall lit hlit).imp_left List.mem_singleton.mp
    | u :: v :: rest =>
      obtain ⟨hu, hopen⟩ := hmore u List.mem_cons_self
      exact Or.inl ⟨rfl, Or.inr ⟨u, hu, hopen⟩⟩

/-- A pass over clauses: a conflict, or an assignment that the same models extend; either nothing
has changed and the clauses are settled, or a variable of them has been assigned. -/
theorem pass_cases : ∀ (clauses : List (List ℤ)) (a : Partial) (changed : Bool),
    (clauses.foldlM propagateClause (a, changed) = none ∧
        ∀ τ, Agrees τ a → ¬Models τ clauses) ∨
      ∃ a' changed', clauses.foldlM propagateClause (a, changed) = some (a', changed') ∧
        Kept a a' ∧ (∀ τ, Agrees τ a → Models τ clauses → Agrees τ a') ∧
          ((changed' = changed ∧ a' = a ∧ ∀ clause ∈ clauses, Settled a clause) ∨
            (changed' = true ∧ ∃ lit ∈ clauses.flatten, Open a lit ∧ a'.get? |lit| ≠ none))
  | [], a, changed => by
    refine Or.inr ⟨a, changed, rfl, Kept.refl a, fun _ h _ => h, Or.inl ⟨rfl, rfl, ?_⟩⟩
    exact fun _ h => absurd h List.not_mem_nil
  | clause :: clauses, a, changed => by
    rw [List.foldlM_cons]
    rcases propagateClause_cases a changed clause with
      ⟨hstep, hsettled⟩ | ⟨hstep, hfalse⟩ | ⟨u, hu, hopen, hall, hstep⟩
    · rw [hstep]
      rcases pass_cases clauses a changed with
        ⟨hrest, hnone⟩ | ⟨a', changed', hrest, hkept, hagrees, hcase⟩
      · exact Or.inl ⟨hrest, fun τ hτ h => hnone τ hτ (models_cons.mp h).2⟩
      · refine Or.inr ⟨a', changed', hrest, hkept, ?_, ?_⟩
        · exact fun τ hτ h => hagrees τ hτ (models_cons.mp h).2
        · rcases hcase with ⟨rfl, rfl, hrest⟩ | ⟨rfl, lit, hlit, hset⟩
          · exact Or.inl ⟨rfl, rfl, List.forall_mem_cons.mpr ⟨hsettled, hrest⟩⟩
          · refine Or.inr ⟨rfl, lit, ?_, hset⟩
            exact List.mem_append_right clause hlit
    · rw [hstep]
      refine Or.inl ⟨rfl, fun τ hτ h => ?_⟩
      obtain ⟨lit, hlit, hholds⟩ := (models_cons.mp h).1
      exact hτ.not_holds (hfalse lit hlit) hholds
    · rw [hstep]
      have hkept := kept_set hopen (decide (0 < u))
      -- a model that agrees so far makes the one open literal true
      have hforced : ∀ τ, Agrees τ a → Models τ (clause :: clauses) →
          Agrees τ (a.set |u| (decide (0 < u))) := by
        intro τ hτ h
        obtain ⟨lit, hlit, hholds⟩ := (models_cons.mp h).1
        rcases hall lit hlit with rfl | hfalse
        · exact hτ.set hholds
        · exact (hτ.not_holds hfalse hholds).elim
      have hset : (a.set |u| (decide (0 < u))).get? |u| ≠ none := by
        rw [Dict.get?_set_self]
        exact Option.some_ne_none _
      have hmem : u ∈ (clause :: clauses).flatten := List.mem_append_left _ hu
      rcases pass_cases clauses (a.set |u| (decide (0 < u))) true with
        ⟨hrest, hnone⟩ | ⟨a', changed', hrest, hkept', hagrees, hcase⟩
      · exact Or.inl ⟨hrest, fun τ hτ h => hnone τ (hforced τ hτ h) (models_cons.mp h).2⟩
      · refine Or.inr ⟨a', changed', hrest, hkept.trans hkept', ?_,
          Or.inr ⟨?_, u, hmem, hopen, ?_⟩⟩
        · exact fun τ hτ h => hagrees τ (hforced τ hτ h) (models_cons.mp h).2
        · rcases hcase with ⟨rfl, -, -⟩ | ⟨rfl, -⟩ <;> rfl
        · exact hkept'.ne_none hset

/-- Propagation ends, in a conflict or with every clause settled; it loses no model. -/
theorem propagate_cases (clauses : List (List ℤ)) : ∀ {fuel : ℕ} {a : Partial},
    free clauses a < fuel →
    (propagate clauses fuel a = .exhausted ∧ ∀ τ, Agrees τ a → ¬Models τ clauses) ∨
      ∃ a', propagate clauses fuel a = .found a' ∧ Kept a a' ∧
        (∀ τ, Agrees τ a → Models τ clauses → Agrees τ a') ∧ ∀ clause ∈ clauses, Settled a' clause
  | 0, _, h => absurd h (Nat.not_lt_zero _)
  | fuel + 1, a, h => by
    unfold propagate pass
    rcases pass_cases clauses a false with
      ⟨hpass, hnone⟩ | ⟨a', changed', hpass, hkept, hagrees, ⟨rfl, rfl, hsettled⟩ |
        ⟨rfl, lit, hlit, hopen, hset⟩⟩
    · rw [hpass]
      exact Or.inl ⟨rfl, hnone⟩
    · rw [hpass]
      exact Or.inr ⟨a', rfl, hkept, hagrees, hsettled⟩
    · rw [hpass]
      have hless := free_lt hkept hlit hopen hset
      rcases propagate_cases clauses (show free clauses a' < fuel by omega) with
        ⟨hrest, hnone⟩ | ⟨a'', hrest, hkept', hagrees', hsettled⟩
      · exact Or.inl ⟨hrest, fun τ hτ hm => hnone τ (hagrees τ hτ hm) hm⟩
      · refine Or.inr ⟨a'', hrest, hkept.trans hkept', ?_, hsettled⟩
        exact fun τ hτ hm => hagrees' τ (hagrees τ hτ hm) hm

/-! ## The branch -/

theorem mem_keys_count (l : List ℤ) (d : Dict ℤ ℕ) (lit : ℤ) :
    lit ∈ (l.foldl (fun d lit => d.add lit 1) d).keys ↔ lit ∈ d.keys ∨ lit ∈ l := by
  have hkeys := Dict.mem_keys_foldl_add (fun _ => 1) (l.map fun lit => (lit, ())) d lit
  rw [List.foldl_map, List.map_map] at hkeys
  rw [hkeys]
  simp

/-- The literals of the score: open ones of a clause that is not satisfied. -/
theorem mem_score : lit ∈ (score clauses a).keys ↔
    ∃ clause ∈ clauses, satisfied a clause = false ∧ lit ∈ clause ∧ Open a lit := by
  have hmem : lit ∈ (score clauses a).keys ↔ lit ∈ openLiterals clauses a := by
    rw [score, mem_keys_count]
    exact or_iff_right List.not_mem_nil
  rw [hmem, openLiterals, List.mem_filter, List.mem_flatten, Option.isNone_iff_eq_none]
  constructor
  · rintro ⟨⟨clause, hclause, hlit⟩, hopen⟩
    obtain ⟨hmem, hnot⟩ := List.mem_filter.mp hclause
    exact ⟨clause, hmem, by simpa using hnot, hlit, hopen⟩
  · rintro ⟨clause, hmem, hnot, hlit, hopen⟩
    exact ⟨⟨clause, List.mem_filter.mpr ⟨hmem, by simpa using hnot⟩, hlit⟩, hopen⟩

theorem satisfied_iff : satisfied a clause = true ↔ ∃ lit ∈ clause, TrueUnder a lit := by
  simp only [satisfied, List.any_eq_true, decide_eq_true_iff, TrueUnder]

theorem bestLiteral_mem {score : Dict ℤ ℕ} {best : ℤ} (h : bestLiteral score = some best) :
    best ∈ score.keys := List.maxOn?_mem h

theorem bestLiteral_none {score : Dict ℤ ℕ} (h : bestLiteral score = none) : score.keys = [] := by
  by_contra hne
  have hsome : (bestLiteral score).isSome := List.isSome_maxOn?_iff.mpr hne
  rw [h] at hsome
  cases hsome

theorem kept_fillFree (nVars : ℤ) (a : Partial) : Kept a (fillFree nVars a) := by
  unfold fillFree
  generalize List.range nVars.toNat = is
  induction is generalizing a with
  | nil => exact Kept.refl a
  | cons i is ih =>
    refine Kept.trans ?_ (ih _)
    show Kept a (if (a.get? (i + 1)).isSome then a else a.set (i + 1) true)
    split_ifs with hset
    · exact Kept.refl a
    · intro v b hb
      have hne : ((i : ℤ) + 1) ≠ v := by
        rintro rfl
        rw [hb] at hset
        exact hset rfl
      rw [Dict.get?_set_ne _ _ hne]
      exact hb

/-- The search from an assignment ends: no model extends it, or the result satisfies every
clause. -/
theorem dpll_cases (nVars : ℤ) (clauses : List (List ℤ)) {passes : ℕ} : ∀ {fuel : ℕ} {a : Partial},
    free clauses a < fuel → free clauses a < passes →
    (dpll nVars clauses passes fuel a = .exhausted ∧ ∀ τ, Agrees τ a → ¬Models τ clauses) ∨
      ∃ sol, dpll nVars clauses passes fuel a = .found sol ∧
        ∀ clause ∈ clauses, ∃ lit ∈ clause, TrueUnder sol lit
  | 0, _, h, _ => absurd h (Nat.not_lt_zero _)
  | fuel + 1, assign, h, hpasses => by
    unfold dpll
    rcases propagate_cases clauses hpasses with
      ⟨hprop, hnone⟩ | ⟨a, hprop, hkept, hagrees, hsettled⟩
    · rw [hprop]
      exact Or.inl ⟨rfl, hnone⟩
    simp only [hprop]
    have hfree : free clauses a ≤ free clauses assign := by
      refine Finset.card_le_card (Finset.sdiff_subset_sdiff subset_rfl fun v hv => ?_)
      rw [List.mem_toFinset, Dict.mem_keys] at hv ⊢
      obtain ⟨b, hb⟩ := hv
      exact ⟨b, hkept v b hb⟩
    cases hbest : bestLiteral (score clauses a) with
    | none =>
      refine Or.inr ⟨fillFree nVars a, rfl, fun clause hclause => ?_⟩
      -- a settled clause that is not satisfied would have an open literal in the score
      have hsat : satisfied a clause = true := by
        by_contra hnot
        rw [Bool.not_eq_true] at hnot
        rcases hsettled clause hclause with htrue | ⟨lit, hlit, hopen⟩
        · rw [satisfied_iff.mpr htrue] at hnot
          cases hnot
        · have hmem := mem_score.mpr ⟨clause, hclause, hnot, hlit, hopen⟩
          rw [bestLiteral_none hbest] at hmem
          cases hmem
      obtain ⟨lit, hlit, htrue⟩ := satisfied_iff.mp hsat
      exact ⟨lit, hlit, kept_fillFree nVars a _ _ htrue⟩
    | some best =>
      obtain ⟨clause, hclause, -, hlit, hopen⟩ := mem_score.mp (bestLiteral_mem hbest)
      have hless : ∀ b, free clauses (a.set |best| b) < free clauses a := by
        intro b
        have hmem : best ∈ clauses.flatten := List.mem_flatten.mpr ⟨clause, hclause, hlit⟩
        refine free_lt (kept_set hopen b) hmem hopen ?_
        rw [Dict.get?_set_self]
        exact Option.some_ne_none b
      have hfirst := hless (decide (0 < best))
      have hsecond := hless (decide (best ≤ 0))
      dsimp only
      rcases @dpll_cases nVars clauses passes fuel (a.set |best| (decide (0 < best)))
        (by omega) (by omega) with ⟨hsearch, hnone⟩ | ⟨sol, hsearch, hsol⟩
      · rw [hsearch]
        rcases @dpll_cases nVars clauses passes fuel (a.set |best| (decide (best ≤ 0)))
          (by omega) (by omega) with ⟨hsearch', hnone'⟩ | ⟨sol, hsearch', hsol⟩
        · refine Or.inl ⟨hsearch', fun τ hτ hm => ?_⟩
          have ha := hagrees τ hτ hm
          by_cases hholds : Holds τ best
          · exact hnone τ (ha.set hholds) hm
          · have hsign : τ |best| = decide (best ≤ 0) := by
              rw [Bool.eq_not.mpr hholds, ← decide_not, decide_eq_decide, not_lt]
            exact hnone' τ (ha.set hsign) hm
        · exact Or.inr ⟨sol, hsearch', hsol⟩
      · rw [hsearch]
        exact Or.inr ⟨sol, rfl, hsol⟩

/-! ## The solver decides -/

/-- So many steps suffice: as many as the text has literals, and one. -/
def enoughFuel (cnf : ℤ × List (List ℤ)) : ℕ := cnf.2.flatten.length + 1

theorem free_le (clauses : List (List ℤ)) (a : Partial) :
    free clauses a ≤ clauses.flatten.length := by
  refine (Finset.card_le_card Finset.sdiff_subset).trans ?_
  refine (List.toFinset_card_le _).trans ?_
  rw [List.length_map]

/-- The solver of a parsed formula. -/
theorem solveParsed_cases {cnf : ℤ × List (List ℤ)} {fuel : ℕ} (h : enoughFuel cnf ≤ fuel) :
    (solveParsed fuel cnf = .exhausted ∧ ¬Satisfiable cnf.2) ∨
      ∃ τ, solveParsed fuel cnf = .found (literals τ cnf.1) ∧ Models τ cnf.2 := by
  have hfree : free cnf.2 Dict.empty < fuel := by
    have := free_le cnf.2 Dict.empty
    unfold enoughFuel at h
    omega
  have hempty : ∀ τ, Agrees τ Dict.empty := fun τ v b hb => by cases hb
  unfold solveParsed
  rcases dpll_cases cnf.1 cnf.2 hfree hfree with ⟨hsearch, hnone⟩ | ⟨sol, hsearch, hsol⟩
  · rw [hsearch]
    refine Or.inl ⟨rfl, ?_⟩
    rintro ⟨τ, hτ⟩
    exact hnone τ (hempty τ) hτ
  · rw [hsearch]
    refine Or.inr ⟨fun v => sol.getD v true, rfl, fun clause hclause => ?_⟩
    obtain ⟨lit, hlit, htrue⟩ := hsol clause hclause
    refine ⟨lit, hlit, ?_⟩
    rw [Holds, Dict.getD, htrue]
    rfl

/-- On every text that `parse_cnf` accepts, with no negative number of variables and no literal
outside it, the solver ends: it returns a witness that `verify_witness` accepts if the clauses
are satisfiable, and `None` exactly if they are not. -/
theorem solveCnf_decides (tables : UnicodeTables) (cnfText : PyStr) (cnf : ℤ × List (List ℤ))
    (hparse : parseCnf tables cnfText = some cnf) (hvars : 0 ≤ cnf.1)
    (hrange : ∀ clause ∈ cnf.2, ∀ lit ∈ clause, |lit| ≤ cnf.1) (fuel : ℕ)
    (hfuel : enoughFuel cnf ≤ fuel) :
    ∃ result, solveCnf tables fuel cnfText = some result ∧ result ≠ .running ∧
      (Satisfiable cnf.2 → ∃ sol, result = .found sol ∧
        verifyWitness tables cnfText sol = some true) ∧
      (result = .exhausted ↔ ¬Satisfiable cnf.2) := by
  have hin : InRange cnf.1 cnf.2 := by
    intro clause hclause lit hlit
    refine ⟨Int.one_le_abs fun hzero => ?_, hrange clause hclause lit hlit⟩
    exact (parseCnf_clauses hparse clause hclause).2 (hzero ▸ hlit)
  have hsolve : solveCnf tables fuel cnfText = some (solveParsed fuel cnf) := by
    rw [solveCnf, hparse, Option.map_some]
  refine ⟨solveParsed fuel cnf, hsolve, ?_⟩
  rcases solveParsed_cases hfuel with ⟨hresult, hunsat⟩ | ⟨τ, hresult, hmodels⟩
  · rw [hresult]
    refine ⟨?_, fun hsat => absurd hsat hunsat, fun _ => hunsat, fun _ => rfl⟩
    intro heq
    cases heq
  · rw [hresult]
    have hsat : Satisfiable cnf.2 := ⟨τ, hmodels⟩
    refine ⟨?_, fun _ => ⟨literals τ cnf.1, rfl, ?_⟩, ?_, fun hunsat => absurd hsat hunsat⟩
    · intro heq
      cases heq
    · rw [verifyWitness, hparse, Option.map_some]
      exact congrArg some ((checkWitness_literals hvars hin).mpr hmodels)
    · intro heq
      cases heq

section Runs

private def splitText : PyStr := ofString "p cnf 2 2" ++ newline :: ofString "1 2 0 -1 1 0"

/-- A clause that propagation leaves open, and one with a literal and its negative. -/
theorem solveCnf_decides_split :
    ∃ result, solveCnf asciiTables 5 splitText = some result ∧ result ≠ .running ∧
      (Satisfiable [[1, 2], [-1, 1]] → ∃ sol, result = .found sol ∧
        verifyWitness asciiTables splitText sol = some true) ∧
      (result = .exhausted ↔ ¬Satisfiable [[1, 2], [-1, 1]]) :=
  solveCnf_decides asciiTables splitText (2, [[1, 2], [-1, 1]]) (by decide) (by decide) (by decide)
    5 (by decide)

private def negativeText : PyStr := ofString "p cnf -1 0"

/-- A header may declare a negative number of variables. No literal is out of range and no clause
is left to satisfy, but `verify_witness` counts the variables. -/
theorem solveCnf_negative : ¬ ∀ (tables : UnicodeTables) (cnfText : PyStr)
    (cnf : ℤ × List (List ℤ)), parseCnf tables cnfText = some cnf → InRange cnf.1 cnf.2 →
      ∃ enough, ∀ fuel, enough ≤ fuel →
        ∃ result, solveCnf tables fuel cnfText = some result ∧ result ≠ .running ∧
          (Satisfiable cnf.2 → ∃ sol, result = .found sol ∧
            verifyWitness tables cnfText sol = some true) ∧
          (result = .exhausted ↔ ¬Satisfiable cnf.2) := by
  intro h
  have hparse : parseCnf asciiTables negativeText = some (-1, []) := by decide
  obtain ⟨enough, hall⟩ := h asciiTables negativeText (-1, []) hparse
    fun _ hclause => absurd hclause List.not_mem_nil
  obtain ⟨result, hsolve, -, hfound, -⟩ := hall (enough + 1) (Nat.le_succ enough)
  obtain ⟨sol, rfl, hverify⟩ := hfound ⟨fun _ => true, models_nil⟩
  have hempty : solveCnf asciiTables (enough + 1) negativeText = some (.found []) := by
    rw [solveCnf, hparse]
    rfl
  rw [hempty] at hsolve
  cases hsolve
  have hreject : verifyWitness asciiTables negativeText [] = some false := by decide
  rw [hreject] at hverify
  cases hverify

end Runs

end Cathedral.Publisher.SatSearch
