import Cathedral.Lib.Mixing
import Cathedral.Lib.PyJson

/-!
# Cathedral.Lanes.EncodingReal — the bridge round trip behind a mixing trigger

`lanes/encoding_real.py`, and the minting of a challenge in `lanes/encoding.py`. A query is
what the constraints of the solver say of its one word; the solver is a parameter that finds a
word exactly if there is one.
-/

namespace Cathedral.Lanes.EncodingReal

open Mixing
open PyJson (Value)

/-! ## The encoding -/

inductive Mutation where
  | none
  | offByOne
  | wrongConst
  | truncateLow
deriving DecidableEq

def minWidth : ℕ := 30

def maxWidth : ℕ := 44

def roundConst (width : ℕ) : ℕ := ((0x9E3779B1 ||| 1) &&& (2 ^ width - 1)) ||| 1

/-- `pow(a, -1, mod)`, for coprime numbers. -/
def modInverse (a mod : ℕ) : ℤ := Nat.gcdA a mod % mod

def shifts (width : ℕ) : ℕ × ℕ := (max 1 (width / 2), max 1 (width / 3))

def mixRef (s : ℤ) (width : ℕ) (m1 m2 : ℤ) : ℕ :=
  let (r1, r2) := shifts width
  let x := low width s
  let x := low width (xorShift r1 x * m1)
  let x := low width (xorShift r2 x * m2)
  low width (xorShift r1 x)

def mix {width : ℕ} (x : BitVec width) (m1 m2 : ℤ) : BitVec width :=
  let (r1, r2) := shifts width
  let x := (x ^^^ (x >>> r1)) * BitVec.ofInt width m1
  let x := (x ^^^ (x >>> r2)) * BitVec.ofInt width m2
  x ^^^ (x >>> r1)

/-- What the constraints say of the word `s`. -/
abbrev Query (width : ℕ) : Type := BitVec width → Bool

/-- A bit-vector solver that is exact. -/
structure Solver where
  /-- The word of the model, where the answer is `sat`. -/
  solve : {width : ℕ} → Query width → Option (BitVec width)
  sat : ∀ {width : ℕ} (q : Query width) (s : BitVec width), solve q = some s → q s = true
  unsat : ∀ {width : ℕ} (q : Query width), solve q = none → ∀ s, q s = false

/-- The numbers that a challenge publishes. -/
structure Contract where
  width : ℕ
  mutation : Mutation
  m1 : ℤ
  m2 : ℤ
  trigK : ℤ
  trigT : ℤ
deriving DecidableEq

/-- The word after the round trip of `s`, where the fault fires. -/
def mutated (c : Contract) (s : BitVec c.width) : BitVec c.width :=
  let k := roundConst c.width
  let inv := modInverse k (2 ^ c.width)
  let e := s * BitVec.ofInt c.width k
  let back := e * BitVec.ofInt c.width inv
  match c.mutation with
  | .none => back
  | .offByOne => back + BitVec.ofInt c.width 1
  | .wrongConst => e * BitVec.ofInt c.width ((inv + 2) % 2 ^ c.width)
  | .truncateLow => back &&& BitVec.ofInt c.width (2 ^ c.width - 2)

/-- The word after the round trip of `s`, where it does not. -/
def returned (c : Contract) (s : BitVec c.width) : BitVec c.width :=
  let k := roundConst c.width
  s * BitVec.ofInt c.width k * BitVec.ofInt c.width (modInverse k (2 ^ c.width))

/-- The low bits of the mix are the target; without bits the trigger is always on. -/
def triggered (c : Contract) (s : BitVec c.width) : Bool :=
  c.trigK = 0 ||
    ((mix s c.m1 c.m2).extractLsb' 0 c.trigK.toNat == BitVec.ofInt c.trigK.toNat c.trigT)

/-- `_build`; the error is the name of the exception. -/
def build (c : Contract) : Except String (Query c.width) :=
  if ¬ (minWidth ≤ c.width ∧ c.width ≤ maxWidth) then .error "ValueError"
  else if ¬ (0 ≤ c.trigK ∧ c.trigK ≤ c.width) then .error "ValueError"
  else if ¬ (c.m1 % 2 = 1 ∧ c.m2 % 2 = 1) then .error "ValueError"
  else if c.trigK ≠ 0 ∧ ¬ (0 ≤ c.trigT ∧ c.trigT < 2 ^ c.trigK.toNat) then .error "ValueError"
  else .ok fun s => (if triggered c s then mutated c s else returned c s) != s

/-- `check`: the word of a counterexample, where there is one. -/
def check (solver : Solver) (c : Contract) : Except String (Option (BitVec c.width)) :=
  (build c).map solver.solve

def verifyCached (solver : Solver) (c : Contract) (s : ℤ) : Except String Bool :=
  (build c).map fun q =>
    (solver.solve fun x => q x && x == BitVec.ofInt c.width s).isSome

def verifyCounterexample (solver : Solver) (c : Contract) (value : Value) : Except String Bool :=
  match value with
  | .num (.int s) => if 0 ≤ s ∧ s < 2 ^ c.width then verifyCached solver c s else .ok false
  | _ => .ok false

/-! ## Minting -/

/-- What the generator draws for one challenge, each number in the range it is drawn from. -/
structure Draws (width : ℕ) where
  roll : ℚ
  choice : Mutation
  choice_ne : choice ≠ .none
  m1 : ℕ
  m2 : ℕ
  s0 : ℕ
  s0_lt : s0 < 2 ^ width

def mintWidth (tier : ℤ) : ℕ := (min (maxWidth : ℤ) (max minWidth (32 + 2 * tier))).toNat

structure Hidden extends Contract where
  isBuggy : Bool
  isTrap : Bool
  witness : Option ℕ

/-- The contract of `_mint_z3`; `1 << trig_k` raises below zero. -/
def mintContract (tier : ℤ) (draws : Draws (mintWidth tier)) : Except String Contract :=
  let width := mintWidth tier
  let mutation : Mutation :=
    if draws.roll < 45 / 100 ∧ ¬ draws.roll < 15 / 100 then .none else draws.choice
  let m1 : ℤ := (draws.m1 ||| 1 : ℕ)
  let m2 : ℤ := (draws.m2 ||| 1 : ℕ)
  let trigK : ℤ := min (width - 2) (8 + 2 * tier)
  if mutation = .none then .ok ⟨width, mutation, m1, m2, trigK, 0⟩
  else if trigK < 0 then .error "ValueError"
  else .ok ⟨width, mutation, m1, m2, trigK, (mixRef draws.s0 width m1 m2 % 2 ^ trigK.toNat : ℕ)⟩

/-- `_mint_z3`, as far as the hidden payload goes. -/
def mintZ3 (solver : Solver) (tier : ℤ) (draws : Draws (mintWidth tier)) :
    Except String Hidden := do
  let c ← mintContract tier draws
  let found ← check solver c
  .ok { c with
    isBuggy := found.isSome
    isTrap := draws.roll < 15 / 100
    witness := found.map BitVec.toNat }

/-! ## The mix -/

section Mix

variable {width : ℕ} {m1 m2 : ℤ}

theorem shifts_pos : 0 < (shifts width).1 ∧ 0 < (shifts width).2 := by simp [shifts]

theorem mixRef_lt (s : ℤ) : mixRef s width m1 m2 < 2 ^ width := low_lt _

theorem mixRef_bijOn (hm1 : m1 % 2 = 1) (hm2 : m2 % 2 = 1) :
    Set.BijOn (fun s : ℕ => mixRef s width m1 m2) (Set.Iio (2 ^ width)) (Set.Iio (2 ^ width)) := by
  refine bijOn_of_injOn (fun s _ => mixRef_lt _) fun x hx y hy h => ?_
  obtain ⟨hr1, hr2⟩ := @shifts_pos width
  have hround : ∀ {m : ℤ} {r a b : ℕ}, m % 2 = 1 → 0 < r → a < 2 ^ width → b < 2 ^ width →
      low width (xorShift r a * m) = low width (xorShift r b * m) → a = b := by
    intro m r a b hm hr ha hb hab
    exact xorShift_injective hr (low_mul_injOn hm (xorShift_lt ha) (xorShift_lt hb) hab)
  simp only [mixRef, low_of_lt hx, low_of_lt hy, low_of_lt (xorShift_lt (low_lt _))] at h
  have hlast := xorShift_injective hr1 h
  have hfirst := hround hm2 hr2 (low_lt _) (low_lt _) hlast
  exact hround hm1 hr1 hx hy hfirst

/-- The symbolic mix is the reference. -/
theorem mix_toNat (s : BitVec width) : (mix s m1 m2).toNat = mixRef s.toNat width m1 m2 := by
  simp only [mix, mixRef, toNat_xorShift, toNat_mul_ofInt, low_of_lt s.isLt]
  rw [low_of_lt (xorShift_lt (low_lt _))]

end Mix

/-! ## The round trip -/

section RoundTrip

variable {c : Contract} {s : BitVec c.width}

theorem roundConst_odd (width : ℕ) : (roundConst width : ℤ) % 2 = 1 := by
  have hodd : roundConst width % 2 = 1 := by simp [roundConst, Nat.or_mod_two_eq_one]
  exact_mod_cast hodd

/-- The inverse is one, modulo `2 ^ width`. -/
theorem roundConst_mul_inverse (width : ℕ) :
    (2 ^ width : ℤ) ∣ roundConst width * modInverse (roundConst width) (2 ^ width) - 1 := by
  have hcoprime : Nat.gcd (roundConst width) (2 ^ width) = 1 := by
    have h := (isCoprime_two_pow (roundConst_odd width) width).symm
    exact Nat.isCoprime_iff_coprime.mp (by exact_mod_cast h)
  have hbezout := Nat.gcd_eq_gcd_ab (roundConst width) (2 ^ width)
  rw [hcoprime] at hbezout
  push_cast at hbezout
  have hmod : (2 ^ width : ℤ) ∣
      Nat.gcdA (roundConst width) (2 ^ width) - modInverse (roundConst width) (2 ^ width) := by
    rw [modInverse]
    push_cast
    exact Int.dvd_self_sub_emod
  have hsplit : (roundConst width * modInverse (roundConst width) (2 ^ width) - 1 : ℤ) =
      -(roundConst width * (Nat.gcdA (roundConst width) (2 ^ width) -
          modInverse (roundConst width) (2 ^ width))) -
        2 ^ width * Nat.gcdB (roundConst width) (2 ^ width) := by
    linarith
  rw [hsplit]
  exact dvd_sub (dvd_neg.mpr (hmod.mul_left _)) (dvd_mul_right _ _)

theorem returned_eq : returned c s = s := by
  conv_rhs => rw [← ofInt_toNat s]
  conv_lhs => rw [returned, ← ofInt_toNat s]
  rw [← BitVec.ofInt_mul, ← BitVec.ofInt_mul, ofInt_eq_iff, mul_assoc,
    show ∀ a b : ℤ, a * b - a = a * (b - 1) by intro a b; ring]
  exact (roundConst_mul_inverse _).mul_left _

/-- The wrong inverse is off by twice the word. -/
theorem dvd_wrongConst {width : ℕ} {n : ℤ} :
    (2 ^ width : ℤ) ∣ n * roundConst width *
        ((modInverse (roundConst width) (2 ^ width) + 2) % 2 ^ width) - n ↔
      (2 ^ width : ℤ) ∣ 2 * n * roundConst width := by
  have hround := (roundConst_mul_inverse width).mul_left n
  have hmod : (2 ^ width : ℤ) ∣ n * roundConst width *
      (modInverse (roundConst width) (2 ^ width) + 2 -
        (modInverse (roundConst width) (2 ^ width) + 2) % 2 ^ width) :=
    Int.dvd_self_sub_emod.mul_left _
  generalize modInverse (roundConst width) (2 ^ width) = inv at *
  rw [show n * roundConst width * ((inv + 2) % 2 ^ width) - n =
    2 * n * roundConst width + (n * (roundConst width * inv - 1) -
      n * roundConst width * (inv + 2 - (inv + 2) % 2 ^ width)) by ring]
  exact dvd_add_left (dvd_sub hround hmod)

/-- Clearing the lowest bit changes the odd numbers. -/
theorem and_even_ne_iff {width n : ℕ} (h : n < 2 ^ width) (hW : 0 < width) :
    n &&& (2 ^ width - 2) ≠ n ↔ (n : ℤ) % 2 = 1 := by
  have hone : 1 < 2 ^ width := Nat.one_lt_two_pow hW.ne'
  have hbit : ∀ i, (n &&& (2 ^ width - 2)).testBit i = (n.testBit i && !decide (i = 0)) := by
    intro i
    rw [Nat.testBit_and, Nat.testBit_two_pow_sub_succ hone]
    by_cases hi : i < width
    · have hlowest : Nat.testBit 1 i = decide (i = 0) := by
        rw [Bool.eq_iff_iff, Nat.testBit_one_eq_true_iff_self_eq_zero, decide_eq_true_eq]
      simp [hi, hlowest]
    · simp [hi, Nat.testBit_lt_two_pow (h.trans_le (Nat.pow_le_pow_right two_pos (not_lt.mp hi)))]
  have hodd : (n : ℤ) % 2 = 1 ↔ n.testBit 0 = true := by
    rw [Nat.testBit_zero, decide_eq_true_eq]
    omega
  rw [hodd]
  constructor
  · intro hne
    by_contra heven
    refine hne (Nat.eq_of_testBit_eq fun i => ?_)
    rw [hbit]
    cases i with
    | zero => simpa using heven
    | succ i => simp
  · intro hset heq
    have hclear := hbit 0
    rw [heq, hset] at hclear
    simp at hclear

/-- The mutation changes the word `s`. -/
def Changes (mutation : Mutation) (width : ℕ) (s : ℤ) : Prop :=
  match mutation with
  | .none => False
  | .offByOne => True
  | .wrongConst => ¬ (2 ^ (width - 1) : ℤ) ∣ s
  | .truncateLow => s % 2 = 1

theorem mutated_ne_iff (hW : 0 < c.width) : mutated c s ≠ s ↔ Changes c.mutation c.width s.toNat := by
  have hreturned : s * BitVec.ofInt c.width (roundConst c.width) *
      BitVec.ofInt c.width (modInverse (roundConst c.width) (2 ^ c.width)) = s := returned_eq
  have hpow : (2 ^ c.width : ℤ) = 2 * 2 ^ (c.width - 1) := by
    rw [← pow_succ', Nat.sub_add_cancel hW]
  cases hmutation : c.mutation with
  | none => simp only [mutated, hmutation, hreturned, Changes, ne_eq, not_true_eq_false]
  | offByOne =>
    simp only [mutated, hmutation, hreturned, Changes, iff_true]
    intro h
    have hone : BitVec.ofInt c.width 1 = BitVec.ofInt c.width 0 := by
      simpa using h
    have hdvd : (2 ^ c.width : ℤ) ∣ 1 - 0 := ofInt_eq_iff.mp hone
    rw [hpow, sub_zero] at hdvd
    have htwo : (2 : ℤ) ∣ 1 := (dvd_mul_right _ _).trans hdvd
    omega
  | wrongConst =>
    simp only [mutated, hmutation, Changes, not_iff_not, ne_eq]
    conv_lhs => rw [← ofInt_toNat s]
    rw [← BitVec.ofInt_mul, ← BitVec.ofInt_mul, ofInt_eq_iff, dvd_wrongConst, hpow, mul_assoc,
      mul_dvd_mul_iff_left two_ne_zero]
    exact ⟨(isCoprime_two_pow (roundConst_odd _) _).dvd_of_dvd_mul_right, fun h => h.mul_right _⟩
  | truncateLow =>
    simp only [mutated, hmutation, hreturned, Changes]
    rw [← and_even_ne_iff s.isLt hW, Ne, ← BitVec.toNat_inj, BitVec.toNat_and, toNat_ofInt]
    have hconst : low c.width (2 ^ c.width - 2) = 2 ^ c.width - 2 := by
      rw [← low_of_lt (Nat.sub_lt (Nat.two_pow_pos c.width) two_pos), Nat.cast_sub (by
        exact Nat.le_self_pow hW.ne' 2)]
      norm_cast
    rw [hconst]

end RoundTrip

/-! ## Counterexamples -/

/-- What the builder accepts. -/
structure Contract.Valid (c : Contract) : Prop where
  width : minWidth ≤ c.width ∧ c.width ≤ maxWidth
  odd : c.m1 % 2 = 1 ∧ c.m2 % 2 = 1
  trigger : 0 ≤ c.trigK ∧ c.trigK ≤ c.width
  target : c.trigK ≠ 0 → 0 ≤ c.trigT ∧ c.trigT < 2 ^ c.trigK.toNat

/-- The low bits of the reference equal the target. -/
def Contract.Triggers (c : Contract) (s : ℤ) : Prop :=
  c.trigK = 0 ∨ ((mixRef s c.width c.m1 c.m2 % 2 ^ c.trigK.toNat : ℕ) : ℤ) = c.trigT

section Counterexamples

variable {solver : Solver} {c : Contract}

theorem Contract.Valid.width_pos (h : c.Valid) : 0 < c.width :=
  lt_of_lt_of_le (by decide) h.width.1

theorem build_of_valid (h : c.Valid) : build c =
    .ok fun s => (if triggered c s then mutated c s else returned c s) != s := by
  have htarget : ¬ (c.trigK ≠ 0 ∧ ¬ (0 ≤ c.trigT ∧ c.trigT < 2 ^ c.trigK.toNat)) :=
    fun hbad => hbad.2 (h.target hbad.1)
  rw [build, if_neg (not_not.mpr h.width), if_neg (not_not.mpr h.trigger),
    if_neg (not_not.mpr h.odd), if_neg htarget]

theorem valid_of_build {q : Query c.width} (h : build c = .ok q) : c.Valid := by
  rw [build] at h
  by_cases hwidth : minWidth ≤ c.width ∧ c.width ≤ maxWidth
  · by_cases htrigger : 0 ≤ c.trigK ∧ c.trigK ≤ c.width
    · by_cases hodd : c.m1 % 2 = 1 ∧ c.m2 % 2 = 1
      · by_cases htarget : c.trigK ≠ 0 ∧ ¬ (0 ≤ c.trigT ∧ c.trigT < 2 ^ c.trigK.toNat)
        · simp [hwidth, htrigger, hodd, htarget] at h
        · exact ⟨hwidth, hodd, htrigger, fun hk => not_not.mp fun hn => htarget ⟨hk, hn⟩⟩
      · simp [hwidth, htrigger, hodd] at h
    · simp [hwidth, htrigger] at h
  · simp [hwidth] at h

theorem solve_isSome {width : ℕ} {q : Query width} :
    (solver.solve q).isSome = true ↔ ∃ s, q s = true := by
  cases h : solver.solve q with
  | none => simp [solver.unsat q h]
  | some s => simpa using ⟨s, solver.sat q s h⟩

theorem triggered_iff (hvalid : c.Valid) {s : BitVec c.width} :
    triggered c s = true ↔ c.Triggers s.toNat := by
  rw [triggered, Bool.or_eq_true, decide_eq_true_eq, beq_iff_eq, Contract.Triggers]
  refine or_congr_right' fun hk => ?_
  obtain ⟨hnonneg, hlt⟩ := hvalid.target hk
  rw [← BitVec.toNat_inj, BitVec.extractLsb'_toNat, Nat.shiftRight_zero, mix_toNat, toNat_ofInt,
    ← Int.natCast_inj, low_cast, Int.emod_eq_of_lt hnonneg hlt]

/-- A counterexample of the constraints triggers the fault, and the fault changes it. -/
theorem query_iff (hvalid : c.Valid) {s : BitVec c.width} :
    ((if triggered c s then mutated c s else returned c s) != s) = true ↔
      c.Triggers s.toNat ∧ Changes c.mutation c.width s.toNat := by
  rw [bne_iff_ne, ← triggered_iff hvalid, ← mutated_ne_iff hvalid.width_pos]
  split_ifs with h
  · simp [h]
  · simp [h, returned_eq]

theorem verifyCached_iff (hvalid : c.Valid) {s : ℕ} (hs : s < 2 ^ c.width) :
    ∃ b, verifyCached solver c s = .ok b ∧
      (b = true ↔ c.Triggers s ∧ Changes c.mutation c.width s) := by
  rw [verifyCached, build_of_valid hvalid]
  refine ⟨_, rfl, ?_⟩
  rw [solve_isSome]
  have hword : (BitVec.ofInt c.width (s : ℤ)).toNat = s := by rw [toNat_ofInt, low_of_lt hs]
  constructor
  · rintro ⟨x, hx⟩
    obtain ⟨hquery, heq⟩ := Bool.and_eq_true_iff.mp hx
    rw [beq_iff_eq] at heq
    rw [query_iff hvalid, heq, hword] at hquery
    exact hquery
  · intro h
    refine ⟨BitVec.ofInt c.width s, Bool.and_eq_true_iff.mpr ⟨?_, beq_self_eq_true _⟩⟩
    rwa [query_iff hvalid, hword]

theorem verifyCounterexample_iff (hvalid : c.Valid) (value : Value) :
    ∃ b, verifyCounterexample solver c value = .ok b ∧
      (b = true ↔ ∃ s : ℤ, value = .num (.int s) ∧ 0 ≤ s ∧ s < 2 ^ c.width ∧ c.Triggers s ∧
        Changes c.mutation c.width s) := by
  rw [verifyCounterexample.eq_def]
  split
  next s =>
    split_ifs with hrange
    · obtain ⟨n, rfl⟩ := Int.eq_ofNat_of_zero_le hrange.1
      obtain ⟨b, hb, hiff⟩ := @verifyCached_iff solver c hvalid n (by exact_mod_cast hrange.2)
      refine ⟨b, hb, hiff.trans ⟨fun h => ⟨n, rfl, hrange.1, hrange.2, h⟩, ?_⟩⟩
      rintro ⟨s, heq, _, _, h⟩
      cases heq
      exact h
    · refine ⟨false, rfl, ⟨(nomatch ·), ?_⟩⟩
      rintro ⟨s, heq, hnonneg, hlt, _⟩
      cases heq
      exact absurd ⟨hnonneg, hlt⟩ hrange
  next hother =>
    refine ⟨false, rfl, ⟨(nomatch ·), ?_⟩⟩
    rintro ⟨s, heq, _⟩
    exact absurd heq (hother s)

/-- The seed that the target is anchored on triggers. -/
theorem mintContract_triggers {tier : ℤ} {draws : Draws (mintWidth tier)}
    (h : mintContract tier draws = .ok c) (hmutation : c.mutation = .offByOne) :
    draws.s0 < 2 ^ c.width ∧ c.Triggers draws.s0 := by
  unfold mintContract at h
  dsimp only at h
  by_cases hnone : (if draws.roll < 45 / 100 ∧ ¬ draws.roll < 15 / 100 then Mutation.none
      else draws.choice) = .none
  · rw [if_pos hnone] at h
    cases h
    rw [hnone] at hmutation
    cases hmutation
  · rw [if_neg hnone] at h
    split_ifs at h
    all_goals
      cases h
      exact ⟨draws.s0_lt, .inr rfl⟩

/-- The seed of an off-by-one challenge is a counterexample. -/
theorem mintZ3_seed {tier : ℤ} {draws : Draws (mintWidth tier)} {hidden : Hidden}
    (h : mintZ3 solver tier draws = .ok hidden) (hmutation : hidden.mutation = .offByOne) :
    hidden.isBuggy = true ∧
      verifyCounterexample solver hidden.toContract (.num (.int draws.s0)) = .ok true := by
  obtain ⟨c, hc, h⟩ := bind_eq_ok.mp h
  obtain ⟨found, hfound, h⟩ := bind_eq_ok.mp h
  cases h
  obtain ⟨q, hq, rfl⟩ := map_eq_ok.mp hfound
  have hvalid := valid_of_build hq
  obtain ⟨hlt, htriggers⟩ := mintContract_triggers hc hmutation
  have hbreaks : c.Triggers draws.s0 ∧ Changes c.mutation c.width draws.s0 :=
    ⟨htriggers, by rw [hmutation]; trivial⟩
  constructor
  · rw [build_of_valid hvalid] at hq
    cases hq
    refine solve_isSome.mpr ⟨BitVec.ofInt c.width draws.s0, (query_iff hvalid).mpr ?_⟩
    rwa [toNat_ofInt, low_of_lt hlt]
  · obtain ⟨b, hb, hiff⟩ := @verifyCounterexample_iff solver c hvalid (.num (.int draws.s0))
    rw [hb, hiff.mpr ⟨draws.s0, rfl, by omega, by exact_mod_cast hlt, hbreaks⟩]

end Counterexamples

/-- What the round trip, the mix and the minted challenges promise. -/
structure SolveHard (solver : Solver) : Prop where
  accepts : ∀ c : Contract, c.Valid → ∀ value, ∃ b, verifyCounterexample solver c value = .ok b ∧
    (b = true ↔ ∃ s : ℤ, value = .num (.int s) ∧ 0 ≤ s ∧ s < 2 ^ c.width ∧ c.Triggers s ∧
      Changes c.mutation c.width s)
  bijective : ∀ (width : ℕ) (m1 m2 : ℤ), 1 ≤ width → m1 % 2 = 1 → m2 % 2 = 1 →
    Set.BijOn (fun s : ℕ => mixRef s width m1 m2) (Set.Iio (2 ^ width)) (Set.Iio (2 ^ width))
  triggers : ∀ (width k t : ℕ) (m1 m2 : ℤ), 1 ≤ width → m1 % 2 = 1 → m2 % 2 = 1 → k ≤ width →
    t < 2 ^ k →
    ((Finset.range (2 ^ width)).filter fun s : ℕ => mixRef s width m1 m2 % 2 ^ k = t).card =
      2 ^ (width - k)
  minted : ∀ (tier : ℤ) (draws : Draws (mintWidth tier)) (hidden : Hidden),
    mintZ3 solver tier draws = .ok hidden → hidden.mutation = .offByOne →
      hidden.isBuggy = true ∧
        ∃ s : ℤ, verifyCounterexample solver hidden.toContract (.num (.int s)) = .ok true

theorem solve_hard (solver : Solver) : SolveHard solver where
  accepts _ hvalid value := verifyCounterexample_iff hvalid value
  bijective _ _ _ _ hm1 hm2 := mixRef_bijOn hm1 hm2
  triggers _ _ _ _ _ _ hm1 hm2 hk ht := card_residue_of_bijOn (mixRef_bijOn hm1 hm2) hk ht
  minted _ draws _ h hmutation :=
    let hseed := mintZ3_seed h hmutation
    ⟨hseed.1, draws.s0, hseed.2⟩

end Cathedral.Lanes.EncodingReal
