import Cathedral.Lib.PyText
import Cathedral.Publisher.Bitset

/-!
# Cathedral.Publisher.Graders — three checks of a witness

`dimacs.verify_witness` checks a list of literals, `sat_solution.verify_dimacs_solution`
the text a solver writes, and `v2_pipeline.verify_assignment_literals` the literals
decoded from a bitset. Each parses the formula with `parse_cnf` and reads the literals
with a loop of its own.
-/

namespace Cathedral.Publisher.Graders

open PyStr

/-! ## The formula -/

structure CnfState where
  nVars : ℤ
  clauses : List (List ℤ)
  cur : List ℤ
deriving DecidableEq, Repr

/-- A literal joins the open clause; zero closes it. -/
def CnfState.push (s : CnfState) (lit : ℤ) : CnfState :=
  if lit = 0 then
    if s.cur = [] then s else { s with clauses := s.clauses ++ [s.cur], cur := [] }
  else { s with cur := s.cur ++ [lit] }

def letter (c : Char) : CodePoint := CodePoint.ofChar c

/-- One line of `parse_cnf`; `none` where `int` raises. -/
def readCnfLine (tables : UnicodeTables) (s : CnfState) (line : PyStr) : Option CnfState :=
  match strip line with
  | [] => some s
  | c :: rest =>
    if c = letter 'c' then some s
    else if c = letter 'p' then
      match words (c :: rest) with
      | _ :: _ :: nVars :: _ => (int? tables nVars).map fun n => { s with nVars := n }
      | _ => some s
    else (words (c :: rest)).foldlM (fun s tok => (int? tables tok).map s.push) s

/-- `parse_cnf`: the number of variables and the clauses. -/
def parseCnf (tables : UnicodeTables) (text : PyStr) : Option (ℤ × List (List ℤ)) := do
  let s ← (splitLines text).foldlM (readCnfLine tables) ⟨0, [], []⟩
  some (s.nVars, if s.cur = [] then s.clauses else s.clauses ++ [s.cur])

/-- Every clause has a literal that is true. -/
def satisfies (val : Dict ℤ Bool) (clauses : List (List ℤ)) : Bool :=
  clauses.all fun clause => clause.any fun lit => val.get? |lit| = some (decide (0 < lit))

/-! ## The checks -/

/-- The loop of `verify_witness` over the literals; `none` where it returns `False`. -/
def witnessValues (nVars : ℤ) : List ℤ → Dict ℤ Bool → Option (Dict ℤ Bool)
  | [], val => some val
  | lit :: rest, val =>
    if lit = 0 then none
    else if nVars < |lit| then none
    else if (val.get? |lit|).any (· ≠ decide (0 < lit)) then none
    else witnessValues nVars rest (val.set |lit| (decide (0 < lit)))

/-- `verify_witness` of a parsed formula. -/
def checkWitness (cnf : ℤ × List (List ℤ)) (assignment : List ℤ) : Bool :=
  match witnessValues cnf.1 assignment Dict.empty with
  | none => false
  | some val => if (val.items.length : ℤ) ≠ cnf.1 then false else satisfies val cnf.2

/-- `verify_witness`; `none` where `parse_cnf` raises. -/
def verifyWitness (tables : UnicodeTables) (cnfText : PyStr) (assignment : List ℤ) : Option Bool :=
  (parseCnf tables cnfText).map fun cnf => checkWitness cnf assignment

/-- `verify_assignment_literals`: the reason, or `none` when it accepts. -/
def verifyAssignmentLiterals (tables : UnicodeTables) (cnfText : PyStr) (assignment : List ℤ) :
    Option (Option String) :=
  (parseCnf tables cnfText).map fun cnf => Bitset.verifyAssignmentLiterals cnf assignment

/-- What `verify_dimacs_solution` has read of a solution. -/
structure SolutionState where
  status : Option PyStr
  lits : List ℤ

/-- One token of a `v` line. -/
def readToken (tables : UnicodeTables) (s : SolutionState) (tok : PyStr) :
    Except SolutionFault SolutionState :=
  if tok = [letter '0'] then .ok s
  else
    match int? tables tok with
    | none => .error .nonIntegerLiteral
    | some lit => .ok (if lit = 0 then s else { s with lits := s.lits ++ [lit] })

def readSolutionLine (tables : UnicodeTables) (s : SolutionState) (line : PyStr) :
    Except SolutionFault SolutionState :=
  match strip line with
  | [] => .ok s
  | c :: rest =>
    if c = letter 'c' then .ok s
    else if c = letter 's' then .ok { s with status := some (upper tables (strip rest)) }
    else if c = letter 'v' then (words rest).foldlM (readToken tables) s
    else .ok s

/-- The loop of `verify_dimacs_solution` over the literals. -/
def solutionValues (nVars : ℤ) : List ℤ → Dict ℤ Bool → Except SolutionFault (Dict ℤ Bool)
  | [], val => .ok val
  | lit :: rest, val =>
    if nVars < |lit| then .error .variableOutOfRange
    else if (val.get? |lit|).any (· ≠ decide (0 < lit)) then .error .contradictoryAssignment
    else solutionValues nVars rest (val.set |lit| (decide (0 < lit)))

/-- The literals of the variables `1..n_vars`; `none` where `val[v]` raises. -/
def witnessOf (val : Dict ℤ Bool) (nVars : ℤ) : Option (List ℤ) :=
  (List.range nVars.toNat).mapM fun i : ℕ =>
    (val.get? (i + 1 : ℤ)).map fun b => if b then (i + 1 : ℤ) else -(i + 1 : ℤ)

/-- The checks of `verify_dimacs_solution` on the literals it has read. -/
def gradeLiterals (cnf : ℤ × List (List ℤ)) (lits : List ℤ) : Option SolveCheck :=
  match solutionValues cnf.1 lits Dict.empty with
  | .error fault => some (.error fault)
  | .ok val =>
    if (val.items.length : ℤ) ≠ cnf.1 then some (.error .incompleteAssignment)
    else if satisfies val cnf.2 then (witnessOf val cnf.1).map .ok
    else some (.error .unsatisfied)

/-- The checks on the status line. -/
def gradeSolution (cnf : ℤ × List (List ℤ)) (s : SolutionState) : Option SolveCheck :=
  match s.status with
  | none => some (.error .missingStatus)
  | some status =>
    if ofString "UNSATISFIABLE" <:+: status then some (.error .statusUnsatisfiable)
    else if ¬ ofString "SATISFIABLE" <:+: status then some (.error .unknownStatus)
    else gradeLiterals cnf s.lits

/-- `verify_dimacs_solution`; `none` where it raises. -/
def verifyDimacsSolution (tables : UnicodeTables) (cnfText : PyStr)
    (dimacsSolution : Option PyStr) : Option SolveCheck :=
  match dimacsSolution.filter fun text => strip text ≠ [] with
  | none => some (.error .missing)
  | some text =>
    (parseCnf tables cnfText).bind fun cnf =>
      match (splitLines text).foldlM (readSolutionLine tables) ⟨none, []⟩ with
      | .error fault => some (.error fault)
      | .ok s => gradeSolution cnf s

variable {tables : UnicodeTables} {cnfText : PyStr} {cnf : ℤ × List (List ℤ)} {nVars : ℤ}
variable {lits assignment : List ℤ} {val val' : Dict ℤ Bool}

/-! ## The number of variables -/

theorem readCnfLine_nVars {s s' : CnfState} {line : PyStr} (hs : |s.nVars| < 10 ^ maxStrDigits)
    (h : readCnfLine tables s line = some s') : |s'.nVars| < 10 ^ maxStrDigits := by
  have hpush : ∀ {toks : List PyStr} {s s' : CnfState}, toks.foldlM
      (fun s tok => (int? tables tok).map s.push) s = some s' → s'.nVars = s.nVars := by
    intro toks
    induction toks with
    | nil =>
      intro s s' h
      cases h
      rfl
    | cons tok toks ih =>
      intro s s' h
      rw [List.foldlM_cons, Option.bind_eq_bind, Option.bind_eq_some_iff] at h
      obtain ⟨mid, hmid, hrest⟩ := h
      obtain ⟨lit, -, rfl⟩ := Option.map_eq_some_iff.mp hmid
      rw [ih hrest, CnfState.push]
      split_ifs <;> rfl
  unfold readCnfLine at h
  split at h
  · cases h
    exact hs
  · split_ifs at h
    · cases h
      exact hs
    · split at h
      · obtain ⟨n, hn, rfl⟩ := Option.map_eq_some_iff.mp h
        exact int?_lt hn
      · cases h
        exact hs
    · rw [hpush h]
      exact hs

/-- `int` has read the number of variables, within its limit. -/
theorem parseCnf_nVars (h : parseCnf tables cnfText = some cnf) : |cnf.1| < 10 ^ maxStrDigits := by
  have hfold : ∀ {lines : List PyStr} {s s' : CnfState}, |s.nVars| < 10 ^ maxStrDigits →
      lines.foldlM (readCnfLine tables) s = some s' → |s'.nVars| < 10 ^ maxStrDigits := by
    intro lines
    induction lines with
    | nil =>
      intro s s' hs h
      cases h
      exact hs
    | cons line lines ih =>
      intro s s' hs h
      rw [List.foldlM_cons, Option.bind_eq_bind, Option.bind_eq_some_iff] at h
      obtain ⟨mid, hmid, hrest⟩ := h
      exact ih (readCnfLine_nVars hs hmid) hrest
  obtain ⟨s, hs, h⟩ := Option.bind_eq_some_iff.mp h
  cases h
  exact hfold (by rw [abs_zero]; positivity) hs

/-! ## The three loops -/

/-- The two loops read the same values from literals. -/
theorem toOption_solutionValues (hlits : ∀ lit ∈ lits, lit ≠ 0) :
    (solutionValues nVars lits val).toOption = witnessValues nVars lits val := by
  induction lits generalizing val with
  | nil => rfl
  | cons lit lits ih =>
    rw [solutionValues, witnessValues, if_neg (hlits lit List.mem_cons_self)]
    split_ifs
    · rfl
    · rfl
    · exact ih fun l hl => hlits l (List.mem_cons_of_mem lit hl)

theorem toOption_readLiterals (hlits : ∀ lit ∈ lits, lit ≠ 0) :
    (Bitset.readLiterals nVars lits val).toOption = witnessValues nVars lits val := by
  induction lits generalizing val with
  | nil => rfl
  | cons lit lits ih =>
    have hlit := hlits lit List.mem_cons_self
    have hpos : ¬ |lit| < 1 := not_lt.mpr (Int.one_le_abs hlit)
    rw [Bitset.readLiterals, witnessValues, if_neg hlit]
    simp only [hpos, false_or]
    split_ifs
    · rfl
    · rfl
    · exact ih fun l hl => hlits l (List.mem_cons_of_mem lit hl)

/-- What the loop leaves: each literal's variable in range with that literal's sign, what
was there before, and nothing else. -/
structure Values (nVars : ℤ) (lits : List ℤ) (val val' : Dict ℤ Bool) : Prop where
  read : ∀ lit ∈ lits, lit ≠ 0 ∧ |lit| ≤ nVars ∧ val'.get? |lit| = some (decide (0 < lit))
  kept : ∀ v b, val.get? v = some b → val'.get? v = some b
  only : ∀ v, val'.get? v ≠ none → val.get? v ≠ none ∨ ∃ lit ∈ lits, |lit| = v

theorem witnessValues_spec (h : witnessValues nVars lits val = some val') :
    Values nVars lits val val' := by
  induction lits generalizing val with
  | nil =>
    cases h
    constructor
    · intro lit hlit
      cases hlit
    · exact fun v b hb => hb
    · exact fun v hv => Or.inl hv
  | cons lit lits ih =>
    rw [witnessValues] at h
    split_ifs at h with hzero hrange hclash
    have hrest := ih h
    have hself := Dict.get?_set_self val |lit| (decide (0 < lit))
    constructor
    · intro l hl
      rcases List.mem_cons.mp hl with rfl | hl
      · exact ⟨hzero, not_lt.mp hrange, hrest.kept _ _ hself⟩
      · exact hrest.read l hl
    · intro v b hb
      apply hrest.kept
      by_cases hv : |lit| = v
      · -- the variable has this literal's sign already
        subst hv
        rw [hb] at hclash
        have hb' : b = decide (0 < lit) := by simpa using hclash
        rw [hself, hb']
      · rw [Dict.get?_set_ne _ _ hv, hb]
    · intro v hv
      rcases hrest.only v hv with hset | ⟨l, hl, rfl⟩
      · by_cases hv' : |lit| = v
        · exact Or.inr ⟨lit, List.mem_cons_self, hv'⟩
        · rw [Dict.get?_set_ne _ _ hv'] at hset
          exact Or.inl hset
      · exact Or.inr ⟨l, List.mem_cons_of_mem lit hl, rfl⟩

/-- The variables of the values are those of the literals. -/
theorem mem_keys_of_spec (h : Values nVars lits Dict.empty val) (v : ℤ) :
    v ∈ val.keys ↔ ∃ lit ∈ lits, |lit| = v := by
  rw [← not_iff_not, ← Dict.get?_eq_none]
  constructor
  · rintro hnone ⟨lit, hlit, rfl⟩
    rw [(h.read lit hlit).2.2] at hnone
    cases hnone
  · intro hnot
    by_contra hsome
    rcases h.only v hsome with hempty | hlit
    · exact hempty (Dict.get?_empty v)
    · exact hnot hlit

theorem length_keys (val : Dict ℤ Bool) : val.keys.toFinset.card = val.items.length := by
  have hnodup : val.keys.Nodup := val.nodup
  rw [List.toFinset_card_of_nodup hnodup, Dict.keys, List.length_map]

/-- With as many values as variables, every variable has one. -/
theorem mem_keys_of_complete (h : Values nVars lits Dict.empty val)
    (hcount : (val.items.length : ℤ) = nVars) {v : ℤ} (hpos : 1 ≤ v) (hle : v ≤ nVars) :
    v ∈ val.keys := by
  have hsub : val.keys.toFinset ⊆ Finset.Icc 1 nVars := by
    intro u hu
    obtain ⟨lit, hlit, rfl⟩ := (mem_keys_of_spec h u).mp (List.mem_toFinset.mp hu)
    obtain ⟨hzero, hrange, -⟩ := h.read lit hlit
    exact Finset.mem_Icc.mpr ⟨Int.one_le_abs hzero, hrange⟩
  have hcard : (Finset.Icc 1 nVars).card ≤ val.keys.toFinset.card := by
    rw [length_keys, Int.card_Icc]
    omega
  have hall := Finset.eq_of_subset_of_card_le hsub hcard
  exact List.mem_toFinset.mp (hall ▸ Finset.mem_Icc.mpr ⟨hpos, hle⟩)

/-- `val[v]` does not raise once the assignment is complete. -/
theorem witnessOf_isSome (h : Values nVars lits Dict.empty val)
    (hcount : (val.items.length : ℤ) = nVars) : (witnessOf val nVars).isSome := by
  rw [Option.isSome_iff_exists]
  have hall : ∀ i ∈ List.range nVars.toNat, ∃ lit, ((val.get? ((i : ℤ) + 1)).map fun b =>
      if b then (i + 1 : ℤ) else -(i + 1)) = some lit := by
    intro i hi
    have hlt : i < nVars.toNat := List.mem_range.mp hi
    have hkey := mem_keys_of_complete h hcount (v := i + 1) (by omega) (by omega)
    cases hget : val.get? ((i : ℤ) + 1) with
    | none => exact absurd hkey (Dict.get?_eq_none.mp hget)
    | some b => exact ⟨_, rfl⟩
  unfold witnessOf
  generalize List.range nVars.toNat = is at hall
  induction is with
  | nil => exact ⟨[], rfl⟩
  | cons i is ih =>
    obtain ⟨lit, hlit⟩ := hall i List.mem_cons_self
    obtain ⟨rest, hrest⟩ := ih fun j hj => hall j (List.mem_cons_of_mem i hj)
    exact ⟨lit :: rest, by rw [List.mapM_cons, hlit, hrest]; rfl⟩

/-- When each variable has a value, there are as many literals as variables just if none
occurs twice. -/
theorem nodup_iff_length (h : Values nVars lits Dict.empty val)
    (hcount : (val.items.length : ℤ) = nVars) : (lits.length : ℤ) = nVars ↔ lits.Nodup := by
  have hinj : ∀ lit ∈ lits, ∀ lit' ∈ lits, |lit| = |lit'| → lit = lit' := by
    intro lit hlit lit' hlit' heq
    have hsign := (h.read lit hlit).2.2
    rw [heq, (h.read lit' hlit').2.2] at hsign
    have hiff : 0 < lit' ↔ 0 < lit := by simpa using hsign
    rcases abs_eq_abs.mp heq with hsame | hopposite
    · exact hsame
    · have hzero := (h.read lit hlit).1
      omega
  have hkeys : (lits.map abs).toFinset = val.keys.toFinset := by
    ext v
    rw [List.mem_toFinset, List.mem_map, List.mem_toFinset, mem_keys_of_spec h v]
  have hcard : ((lits.map abs).toFinset.card : ℤ) = nVars := by
    rw [hkeys, length_keys, hcount]
  constructor
  · intro hlength
    rw [List.card_toFinset] at hcard
    have hfull : (lits.map abs).dedup = lits.map abs := by
      refine (List.dedup_sublist _).eq_of_length ?_
      rw [List.length_map]
      omega
    exact List.Nodup.of_map abs (List.dedup_eq_self.mp hfull)
  · intro hnodup
    have hmap : (lits.map abs).Nodup := List.Nodup.map_on hinj hnodup
    rw [List.toFinset_card_of_nodup hmap, List.length_map] at hcard
    exact hcard

/-- `verify_witness` accepts: the values are complete and satisfy the formula. -/
theorem checkWitness_iff : checkWitness cnf assignment = true ↔
    ∃ val, witnessValues cnf.1 assignment Dict.empty = some val ∧
      (val.items.length : ℤ) = cnf.1 ∧ satisfies val cnf.2 = true := by
  unfold checkWitness
  cases hval : witnessValues cnf.1 assignment Dict.empty with
  | none => simp
  | some val =>
    by_cases hcount : (val.items.length : ℤ) = cnf.1
    · simp [hcount]
    · simp [hcount]

/-- The bitset check accepts what `verify_witness` accepts when no literal occurs twice. -/
theorem bitset_iff (hlits : ∀ lit ∈ assignment, lit ≠ 0) :
    Bitset.verifyAssignmentLiterals cnf assignment = none ↔
      checkWitness cnf assignment = true ∧ assignment.Nodup := by
  have hloop := @toOption_readLiterals cnf.1 assignment Dict.empty hlits
  rw [checkWitness_iff]
  unfold Bitset.verifyAssignmentLiterals
  constructor
  · intro h
    split at h
    · cases h
    · next hlength =>
        rw [not_not] at hlength
        split at h
        · cases h
        · next val hread =>
            rw [hread] at hloop
            have hvalues := witnessValues_spec hloop.symm
            split_ifs at h with hcount hsat
            rw [not_not] at hcount
            exact ⟨⟨val, hloop.symm, hcount, hsat⟩, (nodup_iff_length hvalues hcount).mp hlength⟩
  · rintro ⟨⟨val, hval, hcount, hsat⟩, hnodup⟩
    rw [if_neg (by rw [not_not, (nodup_iff_length (witnessValues_spec hval) hcount).mpr hnodup])]
    rw [hval] at hloop
    split
    · next hread =>
        rw [hread] at hloop
        cases hloop
    · next val' hread =>
        rw [hread] at hloop
        cases hloop
        rw [if_neg (not_not.mpr hcount)]
        exact if_pos hsat

/-- The text check on the literals it has read. -/
theorem gradeLiterals_iff (hlits : ∀ lit ∈ lits, lit ≠ 0) :
    (∃ w, gradeLiterals cnf lits = some (.ok w)) ↔ checkWitness cnf lits = true := by
  have hloop := @toOption_solutionValues cnf.1 lits Dict.empty hlits
  rw [checkWitness_iff, gradeLiterals, ← hloop]
  cases hread : solutionValues cnf.1 lits Dict.empty with
  | error fault => simp [Except.toOption]
  | ok val =>
    rw [hread] at hloop
    have hvalues := witnessValues_spec hloop.symm
    by_cases hcount : (val.items.length : ℤ) = cnf.1
    · obtain ⟨w, hw⟩ := Option.isSome_iff_exists.mp (witnessOf_isSome hvalues hcount)
      by_cases hsat : satisfies val cnf.2 = true
      · simp [Except.toOption, hcount, hsat, hw]
      · simp [Except.toOption, hcount, hsat]
    · simp [Except.toOption, hcount]

theorem gradeLiterals_isSome (hlits : ∀ lit ∈ lits, lit ≠ 0) : (gradeLiterals cnf lits).isSome := by
  have hloop := @toOption_solutionValues cnf.1 lits Dict.empty hlits
  unfold gradeLiterals
  split
  · rfl
  · next val hread =>
      rw [hread] at hloop
      split_ifs with hcount hsat
      · rfl
      · rw [not_not] at hcount
        rw [Option.isSome_map]
        exact witnessOf_isSome (witnessValues_spec hloop.symm) hcount
      · rfl

/-! ## The text check never raises -/

theorem readToken_lits {s s' : SolutionState} {tok : PyStr} (hs : ∀ lit ∈ s.lits, lit ≠ 0)
    (h : readToken tables s tok = .ok s') : ∀ lit ∈ s'.lits, lit ≠ 0 := by
  unfold readToken at h
  split at h
  · cases h
    exact hs
  · split at h
    · cases h
    · next lit _ =>
        cases h
        split
        · exact hs
        · next hzero =>
            intro l hl
            rcases List.mem_append.mp hl with hold | hnew
            · exact hs l hold
            · rw [List.mem_singleton.mp hnew]
              exact hzero

/-- What a loop over `Except` keeps. -/
theorem foldlM_keeps {σ ι ε : Type} {P : σ → Prop} {f : σ → ι → Except ε σ}
    (hf : ∀ s i s', P s → f s i = .ok s' → P s') :
    ∀ {is : List ι} {s s' : σ}, P s → is.foldlM f s = .ok s' → P s' := by
  intro is
  induction is with
  | nil =>
    intro s s' hs h
    cases h
    exact hs
  | cons i is ih =>
    intro s s' hs h
    rw [List.foldlM_cons] at h
    cases hfirst : f s i with
    | error e =>
      rw [hfirst] at h
      cases h
    | ok mid =>
      rw [hfirst] at h
      exact ih (hf s i mid hs hfirst) h

theorem readSolutionLine_lits {s s' : SolutionState} {line : PyStr}
    (hs : ∀ lit ∈ s.lits, lit ≠ 0) (h : readSolutionLine tables s line = .ok s') :
    ∀ lit ∈ s'.lits, lit ≠ 0 := by
  unfold readSolutionLine at h
  split at h
  · cases h
    exact hs
  · split_ifs at h
    · cases h
      exact hs
    · cases h
      exact hs
    · exact foldlM_keeps (P := fun s : SolutionState => ∀ lit ∈ s.lits, lit ≠ 0)
        (fun _ _ _ => readToken_lits) hs h
    · cases h
      exact hs

theorem verifyDimacsSolution_isSome (hparse : parseCnf tables cnfText = some cnf)
    (dimacsSolution : Option PyStr) :
    (verifyDimacsSolution tables cnfText dimacsSolution).isSome := by
  unfold verifyDimacsSolution
  split
  · rfl
  · rw [hparse, Option.bind_some]
    split
    · rfl
    · next s hread =>
        have hlits := foldlM_keeps (P := fun s : SolutionState => ∀ lit ∈ s.lits, lit ≠ 0)
          (fun _ _ _ => readSolutionLine_lits) (by simp) hread
        unfold gradeSolution
        split
        · rfl
        · split_ifs
          · rfl
          · exact gradeLiterals_isSome hlits
          · rfl

/-! ## A text that lists literals -/

/-- A line of a solver's output. -/
inductive SolutionLine where
  | comment (text : PyStr)
  | status
  | values (lits : List ℤ)

namespace SolutionLine

def render : SolutionLine → PyStr
  | .comment text => letter 'c' :: text
  | .status => ofString "s SATISFIABLE"
  | .values lits => letter 'v' :: spaced (lits.map numeral)

/-- The literals of a line; zero ends a list. -/
def literals : SolutionLine → List ℤ
  | .values lits => lits.filter (· ≠ 0)
  | .comment _ | .status => []

def IsStatus : SolutionLine → Prop
  | .status => True
  | .comment _ | .values _ => False

instance : DecidablePred IsStatus
  | .status => isTrue trivial
  | .comment _ | .values _ => isFalse id

/-- A comment stays on its line. -/
def OneLine : SolutionLine → Prop
  | .comment text => ∀ p ∈ text, isLineBreak p = false
  | .status | .values _ => True

end SolutionLine

/-- The text of some lines. -/
def solutionText (lines : List SolutionLine) : PyStr :=
  lines.flatMap fun line => line.render ++ [newline]

/-- A solution that claims satisfiability and lists these literals, in this order, over
any number of lines, with comments and zeros anywhere. -/
structure Lists (lines : List SolutionLine) (assignment : List ℤ) : Prop where
  oneLine : ∀ line ∈ lines, line.OneLine
  status : ∃ line ∈ lines, line.IsStatus
  literals : lines.flatMap SolutionLine.literals = assignment

theorem isLineBreak_render {line : SolutionLine} (h : line.OneLine) :
    ∀ p ∈ line.render, isLineBreak p = false := by
  intro p hp
  cases line with
  | comment text =>
    rcases List.mem_cons.mp hp with rfl | htext
    · decide
    · exact h p htext
  | status =>
    have hall : ((ofString "s SATISFIABLE").all fun q => !isLineBreak q) = true := by decide
    simpa using List.all_eq_true.mp hall p hp
  | values lits =>
    rcases List.mem_cons.mp hp with rfl | hspaced
    · decide
    · obtain ⟨w, hw, hmem⟩ := List.mem_flatMap.mp hspaced
      obtain ⟨lit, -, rfl⟩ := List.mem_map.mp hw
      rcases List.mem_cons.mp hmem with rfl | hdigit
      · decide
      · exact isLineBreak_of_mem_numeral hdigit

variable {lines : List SolutionLine}

theorem splitLines_solutionText (h : ∀ line ∈ lines, line.OneLine) :
    splitLines (solutionText lines) = lines.map SolutionLine.render := by
  induction lines with
  | nil => rfl
  | cons line lines ih =>
    have hcons : solutionText (line :: lines) = line.render ++ newline :: solutionText lines := by
      rw [solutionText, List.flatMap_cons, List.append_assoc]
      rfl
    rw [hcons, splitLines_line (isLineBreak_render (h line List.mem_cons_self)),
      ih fun l hl => h l (List.mem_cons_of_mem line hl), List.map_cons]

/-- Whether `int` reads every literal of a line. -/
def Readable (line : SolutionLine) : Prop :=
  ∀ lit ∈ line.literals, |lit| < 10 ^ maxStrDigits

variable (s : SolutionState)

/-- One numeral: zero is skipped, and so many digits that `int` raises end the check. -/
theorem readToken_numeral (lit : ℤ) :
    (|lit| < 10 ^ maxStrDigits → readToken tables s (numeral lit) =
      .ok { s with lits := s.lits ++ [lit].filter (· ≠ 0) }) ∧
    (¬ |lit| < 10 ^ maxStrDigits → readToken tables s (numeral lit) =
      .error .nonIntegerLiteral) := by
  have hread := @int?_numeral tables lit
  by_cases hzero : lit = 0
  · -- `"0"` is compared as a text
    subst hzero
    have hnumeral : numeral 0 = [letter '0'] := by decide
    have hbound : |(0 : ℤ)| < 10 ^ maxStrDigits := by
      rw [abs_zero]
      positivity
    constructor
    · intro _
      rw [readToken, if_pos hnumeral]
      simp
    · exact fun hnot => absurd hbound hnot
  · have hnumeral : numeral lit ≠ [letter '0'] := by
      intro heq
      have hzero' : numeral 0 = [letter '0'] := by decide
      have hlit := @int?_numeral tables 0
      rw [hzero', ← heq, hread] at hlit
      have hpos : |(0 : ℤ)| < 10 ^ maxStrDigits := by
        rw [abs_zero]
        positivity
      rw [if_pos hpos] at hlit
      split at hlit
      · exact hzero (Option.some.inj hlit)
      · cases hlit
    constructor
    · intro hbound
      rw [readToken, if_neg hnumeral, hread, if_pos hbound]
      simp [hzero]
    · intro hbound
      rw [readToken, if_neg hnumeral, hread, if_neg hbound]

theorem foldlM_readToken (literals : List ℤ) : ∀ s : SolutionState,
    ((∀ lit ∈ literals, |lit| < 10 ^ maxStrDigits) →
      (literals.map numeral).foldlM (readToken tables) s =
        .ok { s with lits := s.lits ++ literals.filter (· ≠ 0) }) ∧
    ((∃ lit ∈ literals, ¬ |lit| < 10 ^ maxStrDigits) →
      (literals.map numeral).foldlM (readToken tables) s = .error .nonIntegerLiteral) := by
  induction literals with
  | nil =>
    intro s
    constructor
    · intro _
      simp [pure, Except.pure]
    · rintro ⟨lit, hlit, -⟩
      cases hlit
  | cons lit literals ih =>
    intro s
    obtain ⟨hok, herror⟩ := @readToken_numeral tables s lit
    rw [List.map_cons, List.foldlM_cons]
    constructor
    · intro hall
      rw [hok (hall lit List.mem_cons_self)]
      have hrest := (ih { s with lits := s.lits ++ [lit].filter (· ≠ 0) }).1
        fun l hl => hall l (List.mem_cons_of_mem lit hl)
      refine hrest.trans ?_
      rw [List.append_assoc, ← List.filter_append, List.singleton_append]
    · rintro ⟨l, hl, hbound⟩
      by_cases hlit : |lit| < 10 ^ maxStrDigits
      · rw [hok hlit]
        refine (ih _).2 ⟨l, ?_, hbound⟩
        rcases List.mem_cons.mp hl with rfl | hl
        · exact absurd hlit hbound
        · exact hl
      · rw [herror hlit]
        rfl

/-- What the loop has read after one line. -/
def SolutionState.after (s : SolutionState) (line : SolutionLine) : SolutionState where
  status := if line.IsStatus then some (ofString "SATISFIABLE") else s.status
  lits := s.lits ++ line.literals

theorem readSolutionLine_comment (text : PyStr) :
    readSolutionLine tables s (SolutionLine.comment text).render = .ok s := by
  have hstrip : strip (letter 'c' :: text) = letter 'c' :: text.rdropWhile isSpace :=
    strip_cons (by decide) text
  rw [readSolutionLine, SolutionLine.render, hstrip]
  rfl

theorem readSolutionLine_status :
    readSolutionLine tables s SolutionLine.status.render =
      .ok { s with status := some (ofString "SATISFIABLE") } := by
  have hstrip : strip (ofString "s SATISFIABLE") = letter 's' :: ofString " SATISFIABLE" := by decide
  have hword : strip (ofString " SATISFIABLE") = ofString "SATISFIABLE" := by decide
  have hascii : ((ofString "SATISFIABLE").all fun p =>
      decide (p.val < 128 ∧ ¬ (97 ≤ p.val ∧ p.val ≤ 122))) = true := by decide
  have hupper : upper tables (ofString "SATISFIABLE") = ofString "SATISFIABLE" :=
    upper_of_ascii fun p hp => of_decide_eq_true (List.all_eq_true.mp hascii p hp)
  have hc : letter 's' ≠ letter 'c' := by decide
  rw [readSolutionLine, SolutionLine.render, hstrip]
  simp only [hc, if_false, if_true, hword, hupper]

theorem readSolutionLine_values (literals : List ℤ) :
    readSolutionLine tables s (SolutionLine.values literals).render =
      (literals.map numeral).foldlM (readToken tables) s := by
  have hstrip : strip (letter 'v' :: spaced (literals.map numeral)) =
      letter 'v' :: (spaced (literals.map numeral)).rdropWhile isSpace :=
    strip_cons (by decide) _
  have hwords : words (spaced (literals.map numeral)) = literals.map numeral := by
    refine words_spaced fun w hw => ?_
    obtain ⟨lit, -, rfl⟩ := List.mem_map.mp hw
    exact ⟨numeral_ne_nil lit, fun p hp => isSpace_of_mem_numeral hp⟩
  have hc : letter 'v' ≠ letter 'c' := by decide
  have hs : letter 'v' ≠ letter 's' := by decide
  rw [readSolutionLine, SolutionLine.render, hstrip]
  simp only [hc, hs, if_false, if_true, words_rstrip, hwords]

/-- One line: its literals are read, or one has too many digits. -/
theorem readSolutionLine_render (line : SolutionLine) :
    (Readable line → readSolutionLine tables s line.render = .ok (s.after line)) ∧
    (¬ Readable line → readSolutionLine tables s line.render = .error .nonIntegerLiteral) := by
  cases line with
  | comment text =>
    rw [readSolutionLine_comment]
    constructor
    · intro _
      simp [SolutionState.after, SolutionLine.IsStatus, SolutionLine.literals]
    · intro hnot
      exact absurd (fun lit hlit => by cases hlit) hnot
  | status =>
    rw [readSolutionLine_status]
    constructor
    · intro _
      simp [SolutionState.after, SolutionLine.IsStatus, SolutionLine.literals]
    · intro hnot
      exact absurd (fun lit hlit => by cases hlit) hnot
  | values literals =>
    rw [readSolutionLine_values]
    obtain ⟨hok, herror⟩ := @foldlM_readToken tables literals s
    have hzero : |(0 : ℤ)| < 10 ^ maxStrDigits := by
      rw [abs_zero]
      positivity
    constructor
    · intro hreadable
      rw [hok ?_]
      · simp [SolutionState.after, SolutionLine.IsStatus, SolutionLine.literals]
      · intro lit hlit
        by_cases hne : lit = 0
        · rw [hne]
          exact hzero
        · exact hreadable lit (List.mem_filter.mpr ⟨hlit, by simpa using hne⟩)
    · intro hnot
      unfold Readable at hnot
      push Not at hnot
      obtain ⟨lit, hlit, hbound⟩ := hnot
      exact herror ⟨lit, (List.mem_filter.mp hlit).1, not_lt.mpr hbound⟩

theorem foldlM_render (lines : List SolutionLine) : ∀ s : SolutionState,
    ((∀ line ∈ lines, Readable line) →
      (lines.map SolutionLine.render).foldlM (readSolutionLine tables) s =
        .ok (lines.foldl SolutionState.after s)) ∧
    ((∃ line ∈ lines, ¬ Readable line) →
      (lines.map SolutionLine.render).foldlM (readSolutionLine tables) s =
        .error .nonIntegerLiteral) := by
  induction lines with
  | nil =>
    intro s
    constructor
    · intro _
      rfl
    · rintro ⟨line, hline, -⟩
      cases hline
  | cons line lines ih =>
    intro s
    obtain ⟨hok, herror⟩ := @readSolutionLine_render tables s line
    rw [List.map_cons, List.foldlM_cons]
    constructor
    · intro hall
      rw [hok (hall line List.mem_cons_self)]
      exact (ih (s.after line)).1 fun l hl => hall l (List.mem_cons_of_mem line hl)
    · rintro ⟨l, hl, hbound⟩
      by_cases hline : Readable line
      · rw [hok hline]
        refine (ih (s.after line)).2 ⟨l, ?_, hbound⟩
        rcases List.mem_cons.mp hl with rfl | hl
        · exact absurd hline hbound
        · exact hl
      · rw [herror hline]
        rfl

theorem foldl_after_lits (lines : List SolutionLine) (s : SolutionState) :
    (lines.foldl SolutionState.after s).lits =
      s.lits ++ lines.flatMap SolutionLine.literals := by
  induction lines generalizing s with
  | nil => simp
  | cons line lines ih => rw [List.foldl_cons, ih, SolutionState.after, List.append_assoc,
      List.flatMap_cons]

theorem foldl_after_status : ∀ s : SolutionState,
    ((∃ line ∈ lines, line.IsStatus) ∨ s.status = some (ofString "SATISFIABLE")) →
      (lines.foldl SolutionState.after s).status = some (ofString "SATISFIABLE") := by
  induction lines with
  | nil =>
    rintro s (⟨line, hline, -⟩ | hs)
    · cases hline
    · exact hs
  | cons line lines ih =>
    intro s hs
    refine ih (s.after line) ?_
    by_cases hline : line.IsStatus
    · exact Or.inr (if_pos hline)
    · rcases hs with ⟨l, hl, hstatus⟩ | hstatus
      · rcases List.mem_cons.mp hl with rfl | hl
        · exact absurd hstatus hline
        · exact Or.inl ⟨l, hl, hstatus⟩
      · exact Or.inr ((if_neg hline).trans hstatus)

theorem strip_solutionText (h : ∃ line ∈ lines, line.IsStatus) :
    strip (solutionText lines) ≠ [] := by
  obtain ⟨line, hline, hstatus⟩ := h
  refine strip_ne_nil (p := letter 's') (by decide) (List.mem_flatMap.mpr ⟨line, hline, ?_⟩)
  cases line with
  | status => exact List.mem_append_left _ (by decide)
  | comment _ => exact hstatus.elim
  | values _ => exact hstatus.elim

/-- The text check on a text that lists some literals: their values decide. -/
theorem verifyDimacsSolution_lists (hparse : parseCnf tables cnfText = some cnf)
    (hlists : Lists lines assignment) :
    (∃ w, verifyDimacsSolution tables cnfText (some (solutionText lines)) = some (.ok w)) ↔
      checkWitness cnf assignment = true := by
  have hlits : ∀ lit ∈ assignment, lit ≠ 0 := by
    intro lit hlit
    rw [← hlists.literals] at hlit
    obtain ⟨line, -, hmem⟩ := List.mem_flatMap.mp hlit
    cases line with
    | values _ => simpa using (List.mem_filter.mp hmem).2
    | comment _ => cases hmem
    | status => cases hmem
  have htext : (some (solutionText lines)).filter (fun text => strip text ≠ []) =
      some (solutionText lines) :=
    Option.filter_some_pos (by simpa using strip_solutionText hlists.status)
  obtain ⟨hok, herror⟩ := @foldlM_render tables lines ⟨none, []⟩
  unfold verifyDimacsSolution
  rw [htext, hparse]
  simp only [Option.bind_some, splitLines_solutionText hlists.oneLine]
  by_cases hreadable : ∀ line ∈ lines, Readable line
  · rw [hok hreadable]
    have hstatus := foldl_after_status ⟨none, []⟩ (Or.inl hlists.status)
    have hread := foldl_after_lits lines ⟨none, []⟩
    rw [hlists.literals, List.nil_append] at hread
    have hunsat : ¬ ofString "UNSATISFIABLE" <:+: ofString "SATISFIABLE" := by decide
    simp only [gradeSolution, hstatus, hread, hunsat, List.infix_rfl, not_true_eq_false, if_false]
    exact gradeLiterals_iff hlits
  · push Not at hreadable
    rw [herror hreadable]
    -- a literal with that many digits is also above the number of variables
    obtain ⟨line, hline, hbound⟩ := hreadable
    unfold Readable at hbound
    push Not at hbound
    obtain ⟨lit, hlit, hbound⟩ := hbound
    have hmem : lit ∈ assignment := by
      rw [← hlists.literals]
      exact List.mem_flatMap.mpr ⟨line, hline, hlit⟩
    refine iff_of_false ?_ ?_
    · rintro ⟨w, hw⟩
      cases hw
    · intro haccept
      obtain ⟨val, hval, -, -⟩ := checkWitness_iff.mp haccept
      have hrange := ((witnessValues_spec hval).read lit hmem).2.1
      have hn := (abs_lt.mp (parseCnf_nVars hparse)).2
      omega

/-- `verify_witness` and `verify_dimacs_solution` accept the same literals;
`verify_assignment_literals` accepts those of them in which none occurs twice; and the
text check never raises. -/
theorem graders_agree (hparse : parseCnf tables cnfText = some cnf) :
    (∀ assignment : List ℤ, (∀ lit ∈ assignment, lit ≠ 0) →
      (∀ lines, Lists lines assignment →
        ((∃ w, verifyDimacsSolution tables cnfText (some (solutionText lines)) = some (.ok w)) ↔
          verifyWitness tables cnfText assignment = some true)) ∧
      (verifyAssignmentLiterals tables cnfText assignment = some none ↔
        verifyWitness tables cnfText assignment = some true ∧ assignment.Nodup)) ∧
    ∀ dimacsSolution, (verifyDimacsSolution tables cnfText dimacsSolution).isSome := by
  have hwitness : ∀ assignment, verifyWitness tables cnfText assignment = some true ↔
      checkWitness cnf assignment = true := by
    intro assignment
    rw [verifyWitness, hparse, Option.map_some, Option.some.injEq]
  constructor
  · intro assignment hlits
    rw [hwitness]
    constructor
    · intro lines hlists
      exact verifyDimacsSolution_lists hparse hlists
    · rw [verifyAssignmentLiterals, hparse, Option.map_some, Option.some.injEq]
      exact bitset_iff hlits
  · exact verifyDimacsSolution_isSome hparse

/-! ## A literal given twice -/

/-- Unicode's tables, ASCII only. -/
def asciiTables : UnicodeTables := ⟨fun _ => none, fun p => [p]⟩

/-- One variable, which has to be true. -/
def unitCnf : PyStr := ofString "p cnf 1 1\n1 0\n"

theorem unitCnf_accepted :
    verifyAssignmentLiterals asciiTables unitCnf [1] = some none ∧
      ∃ w, verifyDimacsSolution asciiTables unitCnf
        (some (solutionText [.status, .values [1], .values [0]])) = some (.ok w) := by
  have hparse : parseCnf asciiTables unitCnf = some (1, [[1]]) := by decide
  obtain ⟨htext, hbitset⟩ := (graders_agree hparse).1 [1] (by decide)
  have hwitness : verifyWitness asciiTables unitCnf [1] = some true := by decide
  constructor
  · exact hbitset.mpr ⟨hwitness, List.nodup_singleton 1⟩
  · refine (htext _ ⟨?_, ⟨.status, List.mem_cons_self, trivial⟩, by decide⟩).mpr hwitness
    intro line hline
    simp only [List.mem_cons, List.not_mem_nil, or_false] at hline
    rcases hline with rfl | rfl | rfl <;> trivial

/-- The first two checks accept a literal given twice, the third counts the literals. -/
theorem repeated_literal_split : ¬ ∀ tables cnfText assignment lines,
    (parseCnf tables cnfText).isSome → (∀ lit ∈ assignment, lit ≠ 0) → Lists lines assignment →
      (verifyWitness tables cnfText assignment = some true ↔
        verifyAssignmentLiterals tables cnfText assignment = some none) ∧
      ((∃ w, verifyDimacsSolution tables cnfText (some (solutionText lines)) = some (.ok w)) ↔
        verifyAssignmentLiterals tables cnfText assignment = some none) := by
  intro h
  have hlists : Lists [.status, .values [1, 1, 0]] [1, 1] := by
    refine ⟨?_, ⟨.status, List.mem_cons_self, trivial⟩, by decide⟩
    intro line hline
    simp only [List.mem_cons, List.not_mem_nil, or_false] at hline
    rcases hline with rfl | rfl <;> trivial
  obtain ⟨hwitness, -⟩ := h asciiTables unitCnf [1, 1] _ (by decide) (by decide) hlists
  have haccept : verifyWitness asciiTables unitCnf [1, 1] = some true := by decide
  have hreject : verifyAssignmentLiterals asciiTables unitCnf [1, 1] =
      some (some "solution_incomplete_assignment") := by decide
  have hclaimed := hwitness.mp haccept
  rw [hreject] at hclaimed
  cases hclaimed

end Cathedral.Publisher.Graders
