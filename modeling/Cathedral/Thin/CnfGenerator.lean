import Cathedral.Thin.Cnf

/-!
# Cathedral.Thin.CnfGenerator — formulas with two planted assignments

`HashRng` and `generate_ajm_cnf` of `cathedral_thin/core.py`. HMAC-SHA256 is a
parameter, so the key stream is any.

The generator rejects what does not fit, in two loops. The source bounds the loop over
the attempts. It does not bound the one of `randbelow`, which runs on fuel here: what
`generated_formula` says holds of every result, for every amount of fuel.
-/

namespace Cathedral.Thin

open PyStr

/-! ## The key stream -/

/-- A block of the key stream. -/
structure Block where
  bytes : Bytes
  length_eq : bytes.length = 32

structure HashRng where
  key : Bytes
  counter : ℕ
  buffer : Bytes

/-- How a generation ends without a result: by an exception, or while it still draws. -/
inductive Halt where
  | raised (e : Exc)
  | drawing
deriving DecidableEq, Repr

/-- `raise ThinSubnetError(message)`. -/
def Halt.fail {α : Type} (message : String) : Except Halt α :=
  .error (.raised (.thinSubnetError message))

/-- `HashRng.__init__`. -/
def HashRng.init (key : Bytes) : Except Halt HashRng :=
  if key.length < 32 then Halt.fail "rng key must contain at least 256 bits"
  else .ok ⟨key, 0, []⟩

/-- A computation that draws from the key stream. -/
abbrev Draw (α : Type) : Type := StateT HashRng (Except Halt) α

/-- `counter.to_bytes(8, "big")`. -/
def bigEndian8 (counter : ℕ) : Bytes :=
  [7, 6, 5, 4, 3, 2, 1, 0].map fun i => UInt8.ofNat (counter / 256 ^ i)

/-- `b"cathedral-thin-rng-v1\x00"`. -/
def rngDomain : Bytes := asciiBytes "cathedral-thin-rng-v1".toList ++ [0]

section Draw

variable (hmac : Bytes → Bytes → Block)

/-- The loop of `_fill`, for a number of blocks. -/
def fillLoop (count : ℕ) : ℕ → HashRng → Except Halt HashRng
  | 0, rng => if rng.buffer.length < count then .error .drawing else .ok rng
  | blocks + 1, rng =>
    if rng.buffer.length < count then
      if rng.counter < 2 ^ 64 then
        let block := hmac rng.key (rngDomain ++ bigEndian8 rng.counter)
        fillLoop count blocks
          { rng with counter := rng.counter + 1, buffer := rng.buffer ++ block.bytes }
      else .error (.raised (.other "OverflowError" "int too big to convert"))
    else .ok rng

/-- `_fill`. Every block adds bytes, so there are no more blocks than bytes. -/
def fill (count : ℕ) (rng : HashRng) : Except Halt HashRng := fillLoop hmac count count rng

/-- `HashRng.bytes`. -/
def drawBytes (count : ℤ) : Draw Bytes := fun rng => do
  if count < 0 then Halt.fail "negative byte request"
  else
    let rng ← fill hmac count.toNat rng
    pure (rng.buffer.take count.toNat, { rng with buffer := rng.buffer.drop count.toNat })

/-- `int.from_bytes(out, "big")`. -/
def fromBytes (out : Bytes) : ℤ := out.foldl (fun n b => n * 256 + b.toNat) 0

/-- The loop of `randbelow`. -/
def randbelowLoop (upper nbytes limit : ℤ) : ℕ → Draw ℤ
  | 0 => fun _ => .error .drawing
  | fuel + 1 => do
    let out ← drawBytes hmac nbytes
    if fromBytes out < limit then pure (fromBytes out % upper)
    else randbelowLoop upper nbytes limit fuel

variable (fuel : ℕ)

def randbelow (upper : ℤ) : Draw ℤ :=
  if upper ≤ 0 then fun _ => Halt.fail "randbelow upper bound must be positive"
  else
    let nbytes := max 1 ((upper.toNat.size + 7) / 8)
    let limit : ℤ := 2 ^ (8 * nbytes) - 2 ^ (8 * nbytes) % upper
    randbelowLoop hmac upper nbytes limit fuel

/-- `HashRng.bit`. -/
def drawBit : Draw Bool := do
  let value ← randbelow hmac fuel 2
  pure (decide (value ≠ 0))

/-- `if b >= a: b += 1`. -/
def skip (a b : ℤ) : ℤ := if a ≤ b then b + 1 else b

def sample3 (upper : ℤ) : Draw (ℤ × ℤ × ℤ) :=
  if upper < 3 then fun _ => Halt.fail "3-SAT needs at least three variables"
  else do
    let a ← randbelow hmac fuel upper
    let drawn ← randbelow hmac fuel (upper - 1)
    let b := skip a drawn
    let drawn ← randbelow hmac fuel (upper - 2)
    let c := skip (max a b) (skip (min a b) drawn)
    pure (a + 1, b + 1, c + 1)

end Draw

/-! ## The generator -/

/-- `sorted` of three numbers. -/
def sorted3 (t : ℤ × ℤ × ℤ) : ℤ × ℤ × ℤ :=
  let low := min t.1 t.2.1
  let high := max t.1 t.2.1
  if t.2.2 < low then (t.2.2, low, high)
  else if t.2.2 < high then (low, t.2.2, high)
  else (low, high, t.2.2)

/-- `(lit > 0) == model[abs(lit)]`. -/
def agrees (model : List Bool) (lit : ℤ) : Bool := decide (0 < lit) == model.getD lit.natAbs false

def trueCount (model : List Bool) (c : Clause) : ℕ := c.lits.countP (agrees model)

/-- The clauses so far, and the set of them. -/
structure Drawn where
  clauses : List Clause
  seen : Finset Clause

/-- The end of an attempt: a clause is kept if it is new and has one or two literals of
the model. -/
def Drawn.offer (model : List Bool) (drawn : Drawn) (c : Clause) : Drawn :=
  if (trueCount model c ≠ 1 ∧ trueCount model c ≠ 2) ∨ c ∈ drawn.seen then drawn
  else ⟨drawn.clauses ++ [c], insert c drawn.seen⟩

/-- `tuple(i if model[i] else -i for i in range(1, n_vars + 1))`. -/
def plantedOf (model : List Bool) (nVars : ℤ) : List ℤ :=
  (varRange nVars).map fun i => if model.getD i false then (i : ℤ) else -i

section Generate

variable (hmac : Bytes → Bytes → Block) (fuel : ℕ)

/-- `[rng.bit() for _ in range(n)]`. -/
def drawBits : ℕ → Draw (List Bool)
  | 0 => pure []
  | n + 1 => do
    let first ← drawBit hmac fuel
    let rest ← drawBits n
    pure (first :: rest)

/-- `v if rng.bit() else -v`. -/
def drawLit (v : ℤ) : Draw ℤ := do
  let positive ← drawBit hmac fuel
  pure (if positive then v else -v)

def drawClause (nVars : ℤ) : Draw Clause := do
  let sample ← sample3 hmac fuel nVars
  let a ← drawLit hmac fuel (sorted3 sample).1
  let b ← drawLit hmac fuel (sorted3 sample).2.1
  let c ← drawLit hmac fuel (sorted3 sample).2.2
  pure (a, b, c)

/-- The loop, with the number of attempts that are left. -/
def clauseLoop (nVars nClauses : ℤ) (model : List Bool) : ℕ → Drawn → Draw (List Clause)
  | 0, drawn =>
    if (drawn.clauses.length : ℤ) < nClauses then
      fun _ => Halt.fail "could not generate enough unique AJM clauses"
    else pure drawn.clauses
  | left + 1, drawn =>
    if (drawn.clauses.length : ℤ) < nClauses then do
      let c ← drawClause hmac fuel nVars
      clauseLoop nVars nClauses model left (drawn.offer model c)
    else pure drawn.clauses

def generateAjmCnf (seed : Bytes) (nVars nClauses : ℤ) : Except Halt (Cnf × List ℤ) :=
  if ¬ (3 ≤ nVars ∧ nVars ≤ 100000) then Halt.fail "n_vars outside safe bounds"
  else if ¬ (1 ≤ nClauses ∧ nClauses ≤ 1000000) then Halt.fail "n_clauses outside safe bounds"
  else do
    let rng ← HashRng.init seed
    let (bits, rng) ← drawBits hmac fuel nVars.toNat rng
    let model := false :: bits
    let maxAttempts := max 10000 (nClauses.toNat * 32)
    let (clauses, _) ← clauseLoop hmac fuel nVars nClauses model maxAttempts ⟨[], ∅⟩ rng
    pure (⟨nVars, clauses⟩, plantedOf model nVars)

end Generate

/-! ## What is drawn -/

/-- A sequence of draws returns when both parts do. -/
theorem draw_bind {α β : Type} {x : Draw α} {f : α → Draw β} {rng rng' : HashRng} {b : β} :
    (x >>= f) rng = .ok (b, rng') ↔ ∃ a mid, x rng = .ok (a, mid) ∧ f a mid = .ok (b, rng') := by
  show (do let (a, mid) ← x rng; f a mid) = .ok (b, rng') ↔ _
  rw [bind_eq_ok]
  exact ⟨fun ⟨⟨a, mid⟩, hx, hf⟩ => ⟨a, mid, hx, hf⟩, fun ⟨a, mid, hx, hf⟩ => ⟨(a, mid), hx, hf⟩⟩

theorem draw_pure {α : Type} {a b : α} {rng rng' : HashRng}
    (h : (pure a : Draw α) rng = .ok (b, rng')) : a = b := by
  cases h
  rfl

section Draw

variable {hmac : Bytes → Bytes → Block} {fuel : ℕ} {rng rng' : HashRng}

theorem randbelowLoop_bounds {upper nbytes limit : ℤ} (hupper : 0 < upper) : ∀ {fuel : ℕ}
    {rng : HashRng} {v : ℤ}, randbelowLoop hmac upper nbytes limit fuel rng = .ok (v, rng') →
    0 ≤ v ∧ v < upper
  | 0, _, _, h => by cases h
  | fuel + 1, rng, v, h => by
    obtain ⟨out, mid, -, h⟩ := draw_bind.mp h
    split_ifs at h with hlimit
    · rw [← draw_pure h]
      exact ⟨Int.emod_nonneg _ hupper.ne', Int.emod_lt_of_pos _ hupper⟩
    · exact randbelowLoop_bounds hupper h

theorem randbelow_bounds {upper v : ℤ} (h : randbelow hmac fuel upper rng = .ok (v, rng')) :
    0 ≤ v ∧ v < upper := by
  unfold randbelow at h
  split_ifs at h with hupper
  · cases h
  · exact randbelowLoop_bounds (by omega) h

/-- Three different numbers from one to the bound. -/
theorem sample3_bounds {upper : ℤ} {t : ℤ × ℤ × ℤ}
    (h : sample3 hmac fuel upper rng = .ok (t, rng')) :
    (t.1 ≠ t.2.1 ∧ t.1 ≠ t.2.2 ∧ t.2.1 ≠ t.2.2) ∧
      (1 ≤ t.1 ∧ t.1 ≤ upper) ∧ (1 ≤ t.2.1 ∧ t.2.1 ≤ upper) ∧ (1 ≤ t.2.2 ∧ t.2.2 ≤ upper) := by
  unfold sample3 at h
  split_ifs at h with hupper
  · cases h
  · obtain ⟨a, mid, ha, h⟩ := draw_bind.mp h
    obtain ⟨b, mid', hb, h⟩ := draw_bind.mp h
    obtain ⟨c, mid'', hc, h⟩ := draw_bind.mp h
    have ht := draw_pure h
    have ha := randbelow_bounds ha
    have hb := randbelow_bounds hb
    have hc := randbelow_bounds hc
    subst ht
    -- each draw steps over the numbers that are taken
    simp only [skip]
    split_ifs <;> omega

/-- Sorting three different numbers within bounds. -/
theorem sorted3_bounds {t : ℤ × ℤ × ℤ} {upper : ℤ}
    (hne : t.1 ≠ t.2.1 ∧ t.1 ≠ t.2.2 ∧ t.2.1 ≠ t.2.2)
    (hrange : (1 ≤ t.1 ∧ t.1 ≤ upper) ∧ (1 ≤ t.2.1 ∧ t.2.1 ≤ upper) ∧
      (1 ≤ t.2.2 ∧ t.2.2 ≤ upper)) :
    1 ≤ (sorted3 t).1 ∧ (sorted3 t).1 < (sorted3 t).2.1 ∧ (sorted3 t).2.1 < (sorted3 t).2.2 ∧
      (sorted3 t).2.2 ≤ upper := by
  obtain ⟨a, b, c⟩ := t
  simp only [sorted3] at hne hrange ⊢
  split_ifs <;> dsimp only <;> omega

theorem drawLit_natAbs {v lit : ℤ} (h : drawLit hmac fuel v rng = .ok (lit, rng')) :
    |lit| = |v| := by
  obtain ⟨positive, mid, -, h⟩ := draw_bind.mp h
  rw [← draw_pure h]
  cases positive
  · exact abs_neg v
  · rfl

/-- A clause over three variables in increasing order. -/
def Clause.Increasing (nVars : ℤ) (c : Clause) : Prop :=
  1 ≤ |c.1| ∧ |c.1| < |c.2.1| ∧ |c.2.1| < |c.2.2| ∧ |c.2.2| ≤ nVars

theorem drawClause_increasing {nVars : ℤ} {c : Clause}
    (h : drawClause hmac fuel nVars rng = .ok (c, rng')) : c.Increasing nVars := by
  obtain ⟨sample, mid, hsample, h⟩ := draw_bind.mp h
  obtain ⟨x, mid1, hx, h⟩ := draw_bind.mp h
  obtain ⟨y, mid2, hy, h⟩ := draw_bind.mp h
  obtain ⟨z, mid3, hz, h⟩ := draw_bind.mp h
  obtain ⟨hne, hrange⟩ := sample3_bounds hsample
  obtain ⟨hfirst, hsecond, hthird, hlast⟩ := sorted3_bounds hne hrange
  rw [← draw_pure h]
  show 1 ≤ |x| ∧ |x| < |y| ∧ |y| < |z| ∧ |z| ≤ nVars
  rw [drawLit_natAbs hx, drawLit_natAbs hy, drawLit_natAbs hz, abs_of_pos (by omega),
    abs_of_pos (by omega), abs_of_pos (by omega)]
  exact ⟨hfirst, hsecond, hthird, hlast⟩

end Draw

/-! ## The loop over the attempts -/

/-- What has been kept. -/
structure Drawn.Good (nVars nClauses : ℤ) (model : List Bool) (drawn : Drawn) : Prop where
  length_le : (drawn.clauses.length : ℤ) ≤ nClauses
  nodup : drawn.clauses.Nodup
  seen : ∀ c, c ∈ drawn.seen ↔ c ∈ drawn.clauses
  increasing : ∀ c ∈ drawn.clauses, c.Increasing nVars
  trueCount : ∀ c ∈ drawn.clauses, trueCount model c = 1 ∨ trueCount model c = 2

theorem Drawn.Good.offer {nVars nClauses : ℤ} {model : List Bool} {drawn : Drawn} {c : Clause}
    (h : drawn.Good nVars nClauses model) (hroom : (drawn.clauses.length : ℤ) < nClauses)
    (hc : c.Increasing nVars) : (drawn.offer model c).Good nVars nClauses model := by
  unfold Drawn.offer
  split_ifs with hreject
  · exact h
  · -- a new clause with one or two true literals
    obtain ⟨hcount, hnew⟩ := not_or.mp hreject
    have hfresh : c ∉ drawn.clauses := fun hmem => hnew ((h.seen c).mpr hmem)
    constructor
    · rw [List.length_append, List.length_singleton]
      omega
    · exact List.nodup_append.mpr ⟨h.nodup, List.nodup_singleton c, by
        rintro d hd e he rfl
        exact hfresh (List.mem_singleton.mp he ▸ hd)⟩
    · intro d
      rw [Finset.mem_insert, List.mem_append, List.mem_singleton, h.seen d, or_comm]
    · intro d hd
      rcases List.mem_append.mp hd with hold | hnew
      · exact h.increasing d hold
      · rw [List.mem_singleton.mp hnew]
        exact hc
    · intro d hd
      rcases List.mem_append.mp hd with hold | hnew
      · exact h.trueCount d hold
      · rw [List.mem_singleton.mp hnew]
        omega

/-- The loop ends with as many clauses as were asked for. -/
theorem clauseLoop_good {hmac : Bytes → Bytes → Block} {fuel : ℕ} {nVars nClauses : ℤ}
    {model : List Bool} {rng' : HashRng} {clauses : List Clause} :
    ∀ {left : ℕ} {drawn : Drawn} {rng : HashRng}, drawn.Good nVars nClauses model →
    clauseLoop hmac fuel nVars nClauses model left drawn rng = .ok (clauses, rng') →
    ∃ final : Drawn, final.Good nVars nClauses model ∧ final.clauses = clauses ∧
      (clauses.length : ℤ) = nClauses
  | 0, drawn, rng, hgood, h => by
    unfold clauseLoop at h
    split_ifs at h with hroom
    · cases h
    · rw [← draw_pure h]
      exact ⟨drawn, hgood, rfl, le_antisymm hgood.length_le (not_lt.mp hroom)⟩
  | left + 1, drawn, rng, hgood, h => by
    unfold clauseLoop at h
    split_ifs at h with hroom
    · obtain ⟨c, mid, hc, h⟩ := draw_bind.mp h
      exact clauseLoop_good (hgood.offer hroom (drawClause_increasing hc)) h
    · rw [← draw_pure h]
      exact ⟨drawn, hgood, rfl, le_antisymm hgood.length_le (not_lt.mp hroom)⟩

/-! ## The planted assignments -/

theorem complete_plantedOf (model : List Bool) (n : ℕ) : Complete (plantedOf model n) n := by
  have hnames : (plantedOf model n).map Int.natAbs = List.range' 1 n := by
    unfold plantedOf varRange
    rw [List.map_map, Int.toNat_natCast]
    refine (List.map_congr_left fun i _ => ?_).trans (List.map_id _)
    show (if model.getD i false then (i : ℤ) else -i).natAbs = i
    split_ifs
    · exact Int.natAbs_natCast i
    · rw [Int.natAbs_neg, Int.natAbs_natCast]
  unfold Complete
  rw [hnames]

/-- The planted literals are those that agree with the model. -/
theorem mem_plantedOf {model : List Bool} {n : ℕ} {lit : ℤ} (hpos : 1 ≤ |lit|) (hn : |lit| ≤ n) :
    lit ∈ plantedOf model n ↔ agrees model lit = true := by
  rw [Int.abs_eq_natAbs] at hpos hn
  have hplanted : (if model.getD lit.natAbs false then (lit.natAbs : ℤ) else -lit.natAbs) ∈
      plantedOf model n :=
    List.mem_map_of_mem (f := fun i : ℕ => if model.getD i false then (i : ℤ) else -i)
      (mem_varRange.mpr (by omega))
  unfold agrees
  rw [beq_iff_eq]
  constructor
  · intro hmem
    have heq := (complete_plantedOf model n).eq_of_natAbs hmem hplanted (by split_ifs <;> omega)
    cases hvalue : model.getD lit.natAbs false with
    | true =>
      rw [hvalue, if_pos rfl] at heq
      exact decide_eq_true (by omega)
    | false =>
      rw [hvalue, if_neg Bool.false_ne_true] at heq
      exact decide_eq_false (by omega)
  · intro hvalue
    rw [← hvalue] at hplanted
    by_cases hlit : 0 < lit
    · rw [if_pos (decide_eq_true hlit)] at hplanted
      exact (show (lit.natAbs : ℤ) = lit by omega) ▸ hplanted
    · rw [if_neg (by simpa using hlit)] at hplanted
      exact (show -(lit.natAbs : ℤ) = lit by omega) ▸ hplanted

theorem Complete.neg {a : List ℤ} {n : ℕ} (h : Complete a n) : Complete (a.map fun l => -l) n := by
  have hnames : (a.map fun l => -l).map Int.natAbs = a.map Int.natAbs := by
    rw [List.map_map]
    exact List.map_congr_left fun l _ => Int.natAbs_neg l
  unfold Complete
  rw [hnames]
  exact h

theorem Clause.Increasing.proper {nVars : ℤ} {c : Clause} (h : c.Increasing nVars) :
    c.Proper nVars := by
  obtain ⟨hfirst, hsecond, hthird, hlast⟩ := h
  constructor
  · simp only [List.nodup_cons, List.mem_cons, List.not_mem_nil, or_false, not_or, List.nodup_nil,
      not_false_eq_true, and_true]
    omega
  · intro lit hlit
    simp only [Clause.lits, List.mem_cons, List.not_mem_nil, or_false] at hlit
    have hzero : lit ≠ 0 ↔ 0 < |lit| := abs_pos.symm
    rw [hzero]
    rcases hlit with rfl | rfl | rfl <;> omega

/-- Both planted assignments satisfy clauses with one or two literals of the model. -/
theorem planted_satisfy {clauses : List Clause} {n : ℕ} {model : List Bool}
    (hincreasing : ∀ c ∈ clauses, c.Increasing n)
    (hcount : ∀ c ∈ clauses, trueCount model c = 1 ∨ trueCount model c = 2) :
    verifyWitness ⟨n, clauses⟩ ((plantedOf model n).map RawLit.int) = .ok true ∧
      verifyWitness ⟨n, clauses⟩ (((plantedOf model n).map fun l => -l).map RawLit.int) =
        .ok true := by
  have hcomplete := complete_plantedOf model n
  have hproper : ∀ c ∈ clauses, c.Proper n := fun c hc => (hincreasing c hc).proper
  have hrange : ∀ c ∈ clauses, ∀ lit ∈ c.lits, 1 ≤ |lit| ∧ |lit| ≤ n := by
    intro c hc lit hlit
    obtain ⟨hzero, hle⟩ := (hproper c hc).range lit hlit
    exact ⟨Int.one_le_abs hzero, hle⟩
  rw [verifyWitness_complete hcomplete hproper, verifyWitness_complete hcomplete.neg hproper]
  simp only [Except.ok.injEq, List.all_eq_true, List.any_eq_true, decide_eq_true_eq]
  constructor
  · -- a true literal is planted
    intro c hc
    have hpos : 0 < c.lits.countP (agrees model) := by
      have hcases := hcount c hc
      unfold trueCount at hcases
      omega
    obtain ⟨lit, hlit, htrue⟩ := List.countP_pos_iff.mp hpos
    obtain ⟨h1, hn⟩ := hrange c hc lit hlit
    exact ⟨lit, hlit, (mem_plantedOf h1 hn).mpr htrue⟩
  · -- a false literal is in the complement
    intro c hc
    have hnot : ¬ ∀ lit ∈ c.lits, agrees model lit = true := by
      intro hall
      have hthree := List.countP_eq_length.mpr hall
      have hcases := hcount c hc
      have hlength : c.lits.length = 3 := rfl
      unfold trueCount at hcases
      omega
    push Not at hnot
    obtain ⟨lit, hlit, hfalse⟩ := hnot
    obtain ⟨h1, hn⟩ := hrange c hc lit hlit
    refine ⟨lit, hlit, List.mem_map.mpr ⟨-lit, ?_, neg_neg lit⟩⟩
    by_contra hneg
    rw [Int.abs_eq_natAbs] at h1 hn
    have hmem : lit ∈ plantedOf model n := (hcomplete.mem_iff_neg (by omega) (by omega)).mpr hneg
    rw [← Int.abs_eq_natAbs] at h1 hn
    exact hfalse ((mem_plantedOf h1 hn).mp hmem)

/-- What a returned formula comes from: the bounds hold, and the loop over the attempts
has kept its clauses. -/
theorem generateAjmCnf_eq_ok {hmac : Bytes → Bytes → Block} {fuel : ℕ} {seed : Bytes}
    {nVars nClauses : ℤ} {cnf : Cnf} {planted : List ℤ}
    (h : generateAjmCnf hmac fuel seed nVars nClauses = .ok (cnf, planted)) :
    (3 ≤ nVars ∧ nVars ≤ 100000) ∧ nClauses ≤ 1000000 ∧ cnf.nVars = nVars ∧
      ∃ model, planted = plantedOf model nVars ∧ (cnf.clauses.length : ℤ) = nClauses ∧
        ∃ drawn : Drawn, drawn.Good nVars nClauses model ∧ drawn.clauses = cnf.clauses := by
  unfold generateAjmCnf at h
  split_ifs at h with hvars hclauses
  · obtain ⟨rng, -, h⟩ := bind_eq_ok.mp h
    obtain ⟨⟨bits, rng1⟩, -, h⟩ := bind_eq_ok.mp h
    obtain ⟨⟨clauses, rng2⟩, hloop, h⟩ := bind_eq_ok.mp h
    cases h
    have hempty : (⟨[], ∅⟩ : Drawn).Good nVars nClauses (false :: bits) := by
      constructor
      · show ((0 : ℕ) : ℤ) ≤ nClauses
        omega
      · exact List.nodup_nil
      · exact fun c => ⟨fun hc => absurd hc (Finset.notMem_empty c), fun hc => by cases hc⟩
      · exact fun c hc => by cases hc
      · exact fun c hc => by cases hc
    obtain ⟨final, hgood, hfinal, hlength⟩ := clauseLoop_good hempty hloop
    exact ⟨hvars, hclauses.2, rfl, false :: bits, rfl, hlength, final, hgood, hfinal⟩
  · cases h
  · cases h

/-- A generated formula has as many different clauses as were asked for, each over three
variables in increasing order; the planted assignment and its complement are witnesses;
and what is sent of it is read back. -/
theorem generated_formula (hmac : Bytes → Bytes → Block) (fuel : ℕ) (seed : Bytes)
    (nVars nClauses : ℤ) (cnf : Cnf) (planted : List ℤ)
    (h : generateAjmCnf hmac fuel seed nVars nClauses = .ok (cnf, planted)) :
    cnf.nVars = nVars ∧ (cnf.clauses.length : ℤ) = nClauses ∧ cnf.clauses.Nodup ∧
      (∀ c ∈ cnf.clauses, c.Increasing nVars) ∧
      verifyWitness cnf (planted.map RawLit.int) = .ok true ∧
      verifyWitness cnf ((planted.map fun l => -l).map RawLit.int) = .ok true ∧
      ∀ libs : CnfLibs, libs.Inflates → ∀ payload digest,
        encodeCnf libs cnf = .ok (payload, digest) →
        decodeCnf libs payload digest nVars nClauses maxDimacsBytes = .ok cnf := by
  obtain ⟨hvars, hclauses, rfl, model, rfl, hlength, drawn, hgood, hdrawn⟩ :=
    generateAjmCnf_eq_ok h
  obtain ⟨n, hn⟩ := Int.eq_ofNat_of_zero_le (show 0 ≤ cnf.nVars by omega)
  have hincreasing : ∀ c ∈ cnf.clauses, c.Increasing cnf.nVars := hdrawn ▸ hgood.increasing
  have hcount := hdrawn ▸ hgood.trueCount
  have hformula : cnf = ⟨n, cnf.clauses⟩ := by
    rw [← hn]
  have hwitness := planted_satisfy (fun c hc => hn ▸ hincreasing c hc) hcount
  rw [← hformula, ← hn] at hwitness
  refine ⟨rfl, hlength, hdrawn ▸ hgood.nodup, hincreasing, hwitness.1, hwitness.2, ?_⟩
  intro libs hzlib payload digest hencode
  -- the numbers of a formula within bounds are far below the limit on digits
  have hdigits : (1000000 : ℤ) < 10 ^ PyStr.maxStrDigits :=
    calc (1000000 : ℤ) < 10 ^ 7 := by decide
      _ ≤ 10 ^ PyStr.maxStrDigits := pow_le_pow_right₀ (by decide) (by decide)
  rw [← hlength]
  refine decode_encodeCnf hzlib ?_ ?_ (fun c hc => (hincreasing c hc).proper) hencode
  · rw [abs_of_nonneg (by omega)]
    omega
  · omega

/-! ## A formula over three variables -/

/-- The first block of the key stream of an empty seed, for every block. -/
def firstBlock : Block where
  bytes := [187, 151, 59, 92, 110, 199, 126, 226, 148, 187, 210, 101, 128, 201, 124, 175,
    2, 166, 151, 199, 138, 84, 53, 153, 91, 246, 248, 239, 3, 80, 150, 101]
  length_eq := rfl

/-- `p cnf 3 1`, `-1 2 -3 0`. -/
def smallText : Bytes := [112, 32, 99, 110, 102, 32, 51, 32, 49, 10, 45, 49, 32, 50, 32, 45, 51,
  32, 48, 10]

def smallCompressed : Bytes := [120, 156, 43, 80, 72, 206, 75, 83, 48, 86, 48, 228, 210, 53, 84,
  48, 82, 208, 53, 86, 48, 224, 2, 0, 49, 236, 4, 0]

def smallDigest : Sha256 where
  hex := "daffa3f53cec2008bdd3a008a2da4bf7c338b7fce1038af7386036ecd2d01736"
  length_eq := by decide
  lowerHex := by decide

/-- The text is compressed as `zlib` does it, any other text is stored. -/
def smallLibs : CnfLibs where
  compress raw := if raw = smallText then smallCompressed else 0 :: raw
  decompress compressed _ :=
    if compressed = smallCompressed then some ⟨smallText, [], true, []⟩
    else
      match compressed with
      | 0 :: raw => some ⟨raw, [], true, []⟩
      | _ => none
  sha256 _ := smallDigest
  tables := ⟨fun _ => none, fun _ => []⟩

theorem smallLibs_inflates : smallLibs.Inflates := by
  intro raw limit _
  by_cases hraw : raw = smallText
  · subst hraw
    rfl
  · have hstored : smallLibs.compress raw = 0 :: raw := if_neg hraw
    have hne : 0 :: raw ≠ smallCompressed := by
      intro heq
      cases heq
    have hread : smallLibs.decompress (0 :: raw) limit =
        if 0 :: raw = smallCompressed then some ⟨smallText, [], true, []⟩
        else some ⟨raw, [], true, []⟩ := rfl
    rw [hstored, hread, if_neg hne]

theorem generated_formula_small :
    verifyWitness ⟨3, [(-1, 2, -3)]⟩ ([1, 2, 3].map RawLit.int) = .ok true ∧
      decodeCnf smallLibs (PyRepr.ascii (Base64.encode smallCompressed))
        (ofString smallDigest.hex) 3 1 maxDimacsBytes = .ok ⟨3, [(-1, 2, -3)]⟩ := by
  have hgenerate : generateAjmCnf (fun _ _ => firstBlock) 4 (List.replicate 32 0) 3 1 =
      .ok (⟨3, [(-1, 2, -3)]⟩, [1, 2, 3]) := by decide +kernel
  have hencode : encodeCnf smallLibs ⟨3, [(-1, 2, -3)]⟩ =
      .ok (PyRepr.ascii (Base64.encode smallCompressed), ofString smallDigest.hex) := by
    decide +kernel
  obtain ⟨-, -, -, -, hplanted, -, hround⟩ := generated_formula _ _ _ _ _ _ _ hgenerate
  exact ⟨hplanted, hround smallLibs smallLibs_inflates _ _ hencode⟩

end Cathedral.Thin
