import Cathedral.Publisher.CnfTexts

/-!
# Cathedral.Publisher.PlantedSat — formulas with a planted assignment

`dimacs.gen_planted_3sat`, for any source of randomness. The loop may reject clauses for ever and
runs on fuel; what is proved holds of every result.
-/

namespace Cathedral.Publisher.PlantedSat

open PyStr Clauses Graders CnfTexts

/-! ## The generator -/

/-- Three different variables of `1..n_vars`. -/
structure Three (nVars : ℤ) (vs : List ℤ) : Prop where
  length : vs.length = 3
  distinct : vs.Nodup
  range : ∀ v ∈ vs, 1 ≤ v ∧ v ≤ nVars

/-- `random.Random` as the generator uses it: a state, and what the draws give. -/
structure Rng (ρ : Type) where
  /-- `rng.choice((True, False))` -/
  choice : ρ → Bool × ρ
  /-- `rng.sample(range(1, n + 1), 3)` -/
  sample : ℤ → ρ → List ℤ × ρ
  /-- `rng.random() < 0.5` -/
  half : ρ → Bool × ρ
  /-- `rng.randrange(3)` -/
  randrange3 : ρ → Fin 3 × ρ
  sample_three : ∀ n s, 3 ≤ n → Three n (sample n s).1

variable {ρ : Type} (rng : Rng ρ)

/-- The values of the variables `1, 2, …`. -/
def drawModel : ℕ → ρ → List Bool × ρ
  | 0, s => ([], s)
  | n + 1, s =>
    let (first, s) := rng.choice s
    let (rest, s) := drawModel n s
    (first :: rest, s)

/-- `model[v]`. -/
def value (model : List Bool) (v : ℤ) : Bool := model.getD (v - 1).toNat false

/-- `(lit > 0) == model[abs(lit)]`. -/
def agrees (model : List Bool) (lit : ℤ) : Bool := decide (0 < lit) == value model |lit|

/-- `[v if rng.random() < 0.5 else -v for v in vs]`. -/
def drawSigns : List ℤ → ρ → List ℤ × ρ
  | [], s => ([], s)
  | v :: vs, s =>
    let (positive, s) := rng.half s
    let (rest, s) := drawSigns vs s
    ((if positive then v else -v) :: rest, s)

/-- The literals of an attempt; `rng.sample` raises where there are not three variables. -/
def drawClause (nVars : ℤ) (s : ρ) : Option (List ℤ × ρ) :=
  if nVars < 3 then none
  else
    let (vs, s) := rng.sample nVars s
    some (drawSigns rng vs s)

/-- Under `ajm` a clause is kept or rejected; otherwise one literal is flipped if the planted
assignment fails the clause. -/
def settle (method : String) (model : List Bool) (lits : List ℤ) (s : ρ) : Option (List ℤ) × ρ :=
  if method = "ajm" then
    let nTrue := lits.countP (agrees model)
    if nTrue = 0 ∨ nTrue = 3 then (none, s) else (some lits, s)
  else if lits.any (agrees model) then (some lits, s)
  else
    let (i, s) := rng.randrange3 s
    (some (lits.modify i fun lit => -lit), s)

/-- `while len(clauses) < n_clauses`; `none` where it raises or is not done. -/
def clauseLoop (nVars nClauses : ℤ) (method : String) (model : List Bool) :
    ℕ → List (List ℤ) → ρ → Option (List (List ℤ))
  | 0, _, _ => none
  | fuel + 1, clauses, s =>
    if (clauses.length : ℤ) < nClauses then
      match drawClause rng nVars s with
      | none => none
      | some (lits, s) =>
        let (kept, s) := settle rng method model lits s
        clauseLoop nVars nClauses method model fuel (clauses ++ kept.toList) s
    else some clauses

/-- `gen_planted_3sat`: the text and the planted assignment. -/
def genPlanted3sat (fuel : ℕ) (nVars nClauses : ℤ) (method : String) (s : ρ) :
    Option (PyStr × List ℤ) :=
  let (model, s) := drawModel rng nVars.toNat s
  (clauseLoop rng nVars nClauses method model fuel [] s).bind fun clauses => do
    let header ← headerText nVars nClauses
    let body ← bodyText clauses
    some (header ++ body, literals (value model) nVars)

/-! ## What a clause keeps -/

variable {rng} {model : List Bool} {method : String} {lits clause : List ℤ} {nVars nClauses : ℤ}
variable {s s' : ρ}

/-- What the generator promises of a clause. -/
structure Good (nVars : ℤ) (method : String) (model : List Bool) (clause : List ℤ) : Prop where
  three : Three nVars (clause.map abs)
  planted : ∃ lit ∈ clause, Holds (value model) lit
  complement : method = "ajm" → ∃ lit ∈ clause, ¬Holds (value model) lit

theorem Three.ne_zero (h : Three nVars (clause.map abs)) {lit : ℤ} (hlit : lit ∈ clause) :
    lit ≠ 0 := by
  rintro rfl
  have hpos := (h.range _ (List.mem_map_of_mem hlit)).1
  rw [abs_zero] at hpos
  omega

theorem agrees_iff (model : List Bool) (lit : ℤ) :
    agrees model lit = true ↔ Holds (value model) lit := by
  rw [agrees, beq_iff_eq, Holds]
  exact eq_comm

theorem map_abs_drawSigns : ∀ {vs : List ℤ} {s : ρ}, (∀ v ∈ vs, 1 ≤ v) →
    (drawSigns rng vs s).1.map abs = vs
  | [], _, _ => rfl
  | v :: vs, s, h => by
    obtain ⟨hv, hvs⟩ := List.forall_mem_cons.mp h
    have hrest := @map_abs_drawSigns vs (rng.half s).2 hvs
    have habs : |if (rng.half s).1 then v else -v| = v := by
      split_ifs
      · exact abs_of_pos hv
      · rw [abs_neg, abs_of_pos hv]
    show |if (rng.half s).1 then v else -v| :: _ = v :: vs
    rw [habs]
    exact congrArg (List.cons v) hrest

theorem drawClause_three (h : drawClause rng nVars s = some (lits, s')) :
    Three nVars (lits.map abs) := by
  unfold drawClause at h
  split_ifs at h with hvars
  have hthree := rng.sample_three nVars s (not_lt.mp hvars)
  have hlits : lits = (drawSigns rng (rng.sample nVars s).1 (rng.sample nVars s).2).1 :=
    congrArg Prod.fst (Option.some.inj h).symm
  rw [hlits, map_abs_drawSigns fun v hv => (hthree.range v hv).1]
  exact hthree

/-- Flipping a literal keeps the variables. -/
theorem map_abs_modify (lits : List ℤ) (i : ℕ) :
    (lits.modify i fun lit => -lit).map abs = lits.map abs := by
  refine List.ext_getElem? fun j => ?_
  rw [List.getElem?_map, List.getElem?_map, List.getElem?_modify, Option.map_eq_map, Option.map_map]
  congr 1
  funext lit
  rw [Function.comp_apply]
  split_ifs
  · exact abs_neg lit
  · rfl

/-- A clause that is kept, is good. -/
theorem settle_good (hlits : Three nVars (lits.map abs))
    (h : settle rng method model lits s = (some clause, s')) : Good nVars method model clause := by
  have hlength : lits.length = 3 := by rw [← hlits.length, List.length_map]
  unfold settle at h
  dsimp only at h
  split_ifs at h with hajm hcount hany
  · cases h
  · -- neither none of the three literals is true, nor all
    cases h
    rw [not_or] at hcount
    refine ⟨hlits, ?_, fun _ => ?_⟩
    · obtain ⟨lit, hlit, htrue⟩ := List.countP_pos_iff.mp (Nat.pos_of_ne_zero hcount.1)
      exact ⟨lit, hlit, (agrees_iff model lit).mp htrue⟩
    · by_contra hall
      push Not at hall
      have hfull : lits.countP (agrees model) = lits.length :=
        List.countP_eq_length.mpr fun lit hlit => (agrees_iff model lit).mpr (hall lit hlit)
      exact hcount.2 (hfull.trans hlength)
  · cases h
    obtain ⟨lit, hlit, htrue⟩ := List.any_eq_true.mp hany
    exact ⟨hlits, ⟨lit, hlit, (agrees_iff model lit).mp htrue⟩, fun heq => absurd heq hajm⟩
  · -- no literal is true, so the flipped one is
    have hi : (rng.randrange3 s).1.val < lits.length := by
      rw [hlength]
      exact (rng.randrange3 s).1.isLt
    have hclause : clause = lits.modify (rng.randrange3 s).1.val fun lit => -lit :=
      (Option.some.inj (congrArg Prod.fst h)).symm
    generalize (rng.randrange3 s).1.val = i at hi hclause
    have hmem : lits[i] ∈ lits := List.getElem_mem hi
    have hfalse : ¬Holds (value model) lits[i] := fun hholds =>
      hany (List.any_eq_true.mpr ⟨lits[i], hmem, (agrees_iff model _).mpr hholds⟩)
    have hthree : Three nVars (clause.map abs) := by
      rw [hclause, map_abs_modify]
      exact hlits
    refine ⟨hthree, ⟨-lits[i], ?_, (holds_neg_iff (hlits.ne_zero hmem)).mpr hfalse⟩,
      fun heq => absurd heq hajm⟩
    rw [hclause]
    refine List.mem_iff_getElem.mpr ⟨i, by rwa [List.length_modify], ?_⟩
    rw [List.getElem_modify_eq]

/-- The loop returns as many good clauses as it was asked for. -/
theorem clauseLoop_good : ∀ {fuel : ℕ} {clauses result : List (List ℤ)} {s : ρ},
    clauseLoop rng nVars nClauses method model fuel clauses s = some result →
    (∀ clause ∈ clauses, Good nVars method model clause) →
    (clauses.length : ℤ) ≤ max 0 nClauses →
    (∀ clause ∈ result, Good nVars method model clause) ∧ (result.length : ℤ) = max 0 nClauses
  | 0, _, _, _, h, _, _ => by cases h
  | fuel + 1, clauses, result, s, h, hgood, hcount => by
    unfold clauseLoop at h
    split_ifs at h with hless
    · cases hdraw : drawClause rng nVars s with
      | none =>
        rw [hdraw] at h
        cases h
      | some drawn =>
        obtain ⟨lits, s'⟩ := drawn
        rw [hdraw] at h
        dsimp only at h
        cases hsettle : settle rng method model lits s' with
        | mk kept s'' =>
          rw [hsettle] at h
          cases kept with
          | none =>
            rw [Option.toList_none, List.append_nil] at h
            exact clauseLoop_good h hgood hcount
          | some clause =>
            have hclause := settle_good (drawClause_three hdraw) hsettle
            refine clauseLoop_good h (List.forall_mem_append.mpr ⟨hgood, ?_⟩) ?_
            · exact List.forall_mem_singleton.mpr hclause
            · rw [Option.toList_some, List.length_append, List.length_singleton]
              omega
    · cases h
      exact ⟨hgood, by omega⟩

/-! ## The text and the planted assignment -/

/-- The literals of a valuation, negated, are those of its complement. -/
theorem map_neg_literals (τ : ℤ → Bool) (n : ℤ) :
    (literals τ n).map (fun lit => -lit) = literals (fun v => !τ v) n := by
  unfold literals
  rw [List.map_map]
  refine List.map_congr_left fun i _ => ?_
  show -literal τ (i + 1) = literal (fun v => !τ v) (i + 1)
  unfold literal
  cases hτ : τ (i + 1) <;> simp [hτ]

theorem holds_complement {τ : ℤ → Bool} {lit : ℤ} (h : ¬Holds τ lit) :
    Holds (fun v => !τ v) lit := by
  show (!τ |lit|) = decide (0 < lit)
  rw [Bool.eq_not.mpr h, Bool.not_not]

/-- On three variables or more, for any source of randomness and any number of clauses and method,
what `gen_planted_3sat` returns: `parse_cnf` reads the text back, with as many clauses of three
different variables as asked for; the planted assignment passes `verify_witness`, and under `ajm` so
does its complement. -/
theorem genPlanted3sat_spec (tables : UnicodeTables) (rng : Rng ρ) (fuel : ℕ) (nVars nClauses : ℤ)
    (hvars : 3 ≤ nVars) (method : String) (s : ρ) (text : PyStr) (planted : List ℤ)
    (h : genPlanted3sat rng fuel nVars nClauses method s = some (text, planted)) :
    (∃ clauses, parseCnf tables text = some (nVars, clauses) ∧
      (clauses.length : ℤ) = max 0 nClauses ∧
      ∀ clause ∈ clauses, Three nVars (clause.map abs)) ∧
    verifyWitness tables text planted = some true ∧
    (method = "ajm" → verifyWitness tables text (planted.map fun lit => -lit) = some true) := by
  obtain ⟨clauses, hclauses, h⟩ := Option.bind_eq_some_iff.mp h
  obtain ⟨header, hheader, h⟩ := Option.bind_eq_some_iff.mp h
  obtain ⟨body, hbody, h⟩ := Option.bind_eq_some_iff.mp h
  cases h
  have hnil : ∀ clause ∈ ([] : List (List ℤ)),
      Good nVars method (drawModel rng nVars.toNat s).1 clause :=
    fun _ hclause => absurd hclause List.not_mem_nil
  obtain ⟨hgood, hcount⟩ := clauseLoop_good hclauses hnil (le_max_left _ _)
  have hproper : ∀ clause ∈ clauses, clause ≠ [] ∧ 0 ∉ clause := by
    intro clause hclause
    have hthree := (hgood clause hclause).three
    refine ⟨?_, fun hzero => hthree.ne_zero hzero rfl⟩
    rintro rfl
    cases hthree.length
  have hparse : parseCnf tables (header ++ body) = some (nVars, clauses) :=
    parseCnf_text hheader hbody hproper
  have hrange : InRange nVars clauses := by
    intro clause hclause lit hlit
    exact (hgood clause hclause).three.range _ (List.mem_map_of_mem hlit)
  have hwitness : ∀ τ, Models τ clauses →
      verifyWitness tables (header ++ body) (literals τ nVars) = some true := by
    intro τ hτ
    rw [verifyWitness, hparse, Option.map_some]
    exact congrArg some ((checkWitness_literals (by omega) hrange).mpr hτ)
  refine ⟨⟨clauses, hparse, hcount, fun clause hclause => (hgood clause hclause).three⟩, ?_, ?_⟩
  · exact hwitness _ fun clause hclause => (hgood clause hclause).planted
  · intro hajm
    rw [map_neg_literals]
    refine hwitness _ fun clause hclause => ?_
    obtain ⟨lit, hlit, hfalse⟩ := (hgood clause hclause).complement hajm
    exact ⟨lit, hlit, holds_complement hfalse⟩

/-! ## The generator returns -/

theorem exists_mapM {α β : Type} {f : α → Option β} : ∀ {xs : List α},
    (∀ x ∈ xs, ∃ y, f x = some y) → ∃ ys, xs.mapM f = some ys
  | [], _ => ⟨[], rfl⟩
  | x :: xs, h => by
    obtain ⟨⟨y, hy⟩, hxs⟩ := List.forall_mem_cons.mp h
    obtain ⟨ys, hys⟩ := exists_mapM hxs
    exact ⟨y :: ys, by simp [List.mapM_cons, hy, hys]⟩

theorem exists_settle (hmethod : method ≠ "ajm") :
    ∃ clause s', settle rng method model lits s = (some clause, s') := by
  unfold settle
  rw [if_neg hmethod]
  split_ifs
  · exact ⟨_, _, rfl⟩
  · exact ⟨_, _, rfl⟩

/-- Where nothing is rejected, every turn of the loop adds a clause. -/
theorem exists_clauseLoop (hvars : 3 ≤ nVars) (hmethod : method ≠ "ajm") :
    ∀ {fuel : ℕ} {clauses : List (List ℤ)} {s : ρ},
      nClauses < clauses.length + fuel → 0 < fuel →
        ∃ result, clauseLoop rng nVars nClauses method model fuel clauses s = some result
  | 0, _, _, _, h => absurd h (Nat.lt_irrefl 0)
  | fuel + 1, clauses, s, h, _ => by
    unfold clauseLoop drawClause
    rw [if_neg (not_lt.mpr hvars)]
    split_ifs with hless
    · dsimp only
      obtain ⟨clause, s', hsettle⟩ : ∃ clause s', settle rng method model
          (drawSigns rng (rng.sample nVars s).1 (rng.sample nVars s).2).1
          (drawSigns rng (rng.sample nVars s).1 (rng.sample nVars s).2).2 = (some clause, s') :=
        exists_settle hmethod
      rw [hsettle]
      refine exists_clauseLoop hvars hmethod ?_ ?_
      · rw [Option.toList_some, List.length_append, List.length_singleton]
        push_cast at h ⊢
        omega
      · omega
    · exact ⟨_, rfl⟩

/-- With numbers that `str` takes and enough fuel there is a text. -/
theorem exists_genPlanted3sat (hvars : 3 ≤ nVars) (hmethod : method ≠ "ajm") {fuel : ℕ}
    (hfuel : nClauses < fuel) (hpos : 0 < fuel) (hn : |nVars| < 10 ^ maxStrDigits)
    (hm : |nClauses| < 10 ^ maxStrDigits) :
    ∃ r, genPlanted3sat rng fuel nVars nClauses method s = some r := by
  have hstr : ∀ {n : ℤ}, |n| < 10 ^ maxStrDigits → ∃ w, strInt n = some w := fun h =>
    ⟨_, by rw [strInt, if_pos h]⟩
  obtain ⟨clauses, hloop⟩ : ∃ clauses, clauseLoop rng nVars nClauses method
      (drawModel rng nVars.toNat s).1 fuel [] (drawModel rng nVars.toNat s).2 = some clauses :=
    exists_clauseLoop hvars hmethod (by simpa using hfuel) hpos
  have hgood := (clauseLoop_good hloop (fun _ h => absurd h List.not_mem_nil)
    (le_max_left _ _)).1
  obtain ⟨lines, hlines⟩ : ∃ lines, clauses.mapM clauseText = some lines := by
    refine exists_mapM fun clause hclause => ?_
    have hlits : ∀ lit ∈ clause, ∃ w, strInt lit = some w := fun lit hlit =>
      have hrange := (hgood clause hclause).three.range _ (List.mem_map_of_mem hlit)
      hstr (lt_of_le_of_lt (hrange.2.trans (le_abs_self _)) hn)
    obtain ⟨ws, hws⟩ := exists_mapM hlits
    exact ⟨_, by rw [clauseText, hws]; rfl⟩
  obtain ⟨n, hn⟩ := hstr hn
  obtain ⟨m, hm⟩ := hstr hm
  rw [← Option.isSome_iff_exists]
  unfold genPlanted3sat
  dsimp only
  rw [hloop, Option.bind_some, headerText, hn, hm, bodyText, hlines]
  rfl

section Draws

/-- The coins come from a list, and the sample is always the first three variables. -/
def coins : Rng (List Bool) where
  choice flips := (flips.headD true, flips.tail)
  sample _ flips := ([1, 2, 3], flips)
  half flips := (flips.headD true, flips.tail)
  randrange3 flips := (0, flips)
  sample_three n _ h := by
    have hdistinct : ([1, 2, 3] : List ℤ).Nodup := by decide
    refine ⟨rfl, hdistinct, fun v hv => ?_⟩
    simp only [List.mem_cons, List.not_mem_nil, or_false] at hv
    omega

private def oneClause : PyStr := ofString "p cnf 3 1" ++ newline :: ofString "1 2 -3 0" ++ [newline]

/-- The first attempt has three true literals and is rejected. -/
theorem genPlanted3sat_spec_ajm :
    (∃ clauses, parseCnf asciiTables oneClause = some (3, clauses) ∧
      (clauses.length : ℤ) = max 0 1 ∧ ∀ clause ∈ clauses, Three 3 (clause.map abs)) ∧
    verifyWitness asciiTables oneClause [1, 2, 3] = some true ∧
    ("ajm" = "ajm" → verifyWitness asciiTables oneClause ([1, 2, 3].map fun lit => -lit) =
      some true) :=
  genPlanted3sat_spec asciiTables coins 3 3 1 (by decide) "ajm"
    [true, true, true, true, true, true, true, true, false] oneClause [1, 2, 3] (by decide +kernel)

/-- A negative number of clauses is taken for none. -/
theorem genPlanted3sat_negative : ¬ ∀ (tables : UnicodeTables) (rng : Rng (List Bool)) (fuel : ℕ)
    (nVars nClauses : ℤ), 3 ≤ nVars → ∀ (method : String) (s : List Bool) (text : PyStr)
    (planted : List ℤ), genPlanted3sat rng fuel nVars nClauses method s = some (text, planted) →
      (∃ clauses, parseCnf tables text = some (nVars, clauses) ∧
        (clauses.length : ℤ) = nClauses ∧ ∀ clause ∈ clauses, Three nVars (clause.map abs)) ∧
      verifyWitness tables text planted = some true ∧
      (method = "ajm" → verifyWitness tables text (planted.map fun lit => -lit) = some true) := by
  intro h
  obtain ⟨⟨clauses, -, hcount, -⟩, -⟩ := h asciiTables coins 1 3 (-1) (by decide) "biased" []
    (ofString "p cnf 3 -1" ++ [newline]) [1, 2, 3] (by decide +kernel)
  omega

end Draws

end Cathedral.Publisher.PlantedSat
