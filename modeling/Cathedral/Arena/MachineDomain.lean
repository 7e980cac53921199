import Cathedral.Arena.RecalcReplay

/-!
# Cathedral.Arena.MachineDomain — witnesses outside the machine's domain

A harness reads its operands with `int`, and masks only some of them. On which integers each
target of `game/arena/replay.py` and `game/arena/harness_root.py` reports a violation, and
which of them the pinned functions can be given.
-/

namespace Cathedral.Arena

open PyJson (Value)

/-! ## The targets -/

inductive PinnedTarget where
  | recalcOvercharge
  | firstFeeConservation
  | multiTakeSplit
  | firstFeeSilentZero
  | recalcOverchargeRaw
  | depositNoDilution
  | redeemRoundtrip
  | taoSplitConservation
  | payoutNoStrand
deriving DecidableEq

section Minted

variable (tables : UnicodeTables) (cnfSha256 : PyStr)

def silentZeroHarness (w : Members) : Except PyStr Members := do
  let amount ← intField tables w "amount"
  let feeRate ← intField tables w "fee_rate"
  .ok (record [("amount", integer amount), ("fee_rate", integer feeRate),
    ("fee", integer (firstFee amount feeRate))])

def silentZeroInv (o : Members) : Except PyStr Bool := do
  let amount ← observedInt o "amount"
  let feeRate ← observedInt o "fee_rate"
  let fee ← observedInt o "fee"
  .ok (!decide (amount > 0 ∧ feeRate > 0 ∧ fee = 0))

def recalcRawInv (o : Members) : Except PyStr Bool := do
  let paid ← observedInt o "paid"
  let amount ← observedInt o "amount"
  .ok (decide (paid ≤ amount))

/-- One of `_MINT_RULES`, as it is registered. -/
def mintedTarget (family : String) (decode : List String)
    (harness : Members → Except PyStr Members) (invariant : Members → Except PyStr Bool)
    (desc : String) : ReplayTarget where
  family := PyStr.ofString family
  source := PyStr.ofString "z3-factory-mint"
  codeSha256 := cnfSha256
  propertyDesc := PyStr.ofString desc
  decode := decode.map PyStr.ofString
  harness := harness
  invariant := invariant

end Minted

namespace PinnedTarget

def id : PinnedTarget → String
  | recalcOvercharge => "subtensor-amm:recalc-overcharge@HEAD"
  | firstFeeConservation => "subtensor-amm:first-fee-conservation@HEAD"
  | multiTakeSplit => "subtensor-pallet:multi-take-split@HEAD"
  | firstFeeSilentZero => "subtensor-amm:first-fee-silent-zero@MINTED"
  | recalcOverchargeRaw => "subtensor-amm:recalc-overcharge-raw@MINTED"
  | depositNoDilution => "subtensor-root:deposit-no-dilution@HEAD"
  | redeemRoundtrip => "subtensor-root:redeem-roundtrip@HEAD"
  | taoSplitConservation => "subtensor-root:tao-split-conservation@HEAD"
  | payoutNoStrand => "subtensor-root:payout-no-strand@HEAD"

def all : List PinnedTarget :=
  [recalcOvercharge, firstFeeConservation, multiTakeSplit, firstFeeSilentZero,
    recalcOverchargeRaw, depositNoDilution, redeemRoundtrip, taoSplitConservation, payoutNoStrand]

def names : PinnedTarget → List String
  | recalcOvercharge | recalcOverchargeRaw => ["amount", "fee_rate", "delta_in"]
  | firstFeeConservation | firstFeeSilentZero => ["amount", "fee_rate"]
  | multiTakeSplit => ["pool", "rate1_bps", "rate2_bps"]
  | depositNoDilution | redeemRoundtrip => ["bought", "E", "P"]
  | taoSplitConservation => ["tao_total", "w0", "w1"]
  | payoutNoStrand => ["E", "P", "owed"]

/-- The entry of `TARGETS`; the minted ones carry the digest of their formula. -/
def target (tables : UnicodeTables) (cnfSha256 : PyStr) : PinnedTarget → ReplayTarget
  | recalcOvercharge => recalcTarget tables
  | firstFeeConservation => conservationTarget tables
  | multiTakeSplit => Arena.multiTakeSplit tables
  | firstFeeSilentZero =>
    mintedTarget cnfSha256 "B_bounds" ["amount", "fee_rate"] (silentZeroHarness tables)
      silentZeroInv "amount>0 & fee_rate>0 => first_fee>0 (no silent zero fee)"
  | recalcOverchargeRaw =>
    mintedTarget cnfSha256 "I_safety" ["amount", "fee_rate", "delta_in"] (recalcHarness tables)
      recalcRawInv "recalc denominator collapse: delta_in + recalc_fee must stay <= amount"
  | depositNoDilution => a1Target tables
  | redeemRoundtrip => a2Target tables
  | taoSplitConservation => a4Target tables
  | payoutNoStrand => f2Target tables

end PinnedTarget

/-- `TARGETS`. -/
def pinnedRegistry (tables : UnicodeTables) (cnfSha256 : PyStr) : Registry := fun id =>
  (PinnedTarget.all.map fun T => (PyStr.ofString T.id, T.target tables cnfSha256)).lookup id

/-! ## The integers of a witness -/

/-- What a witness gives under the names, read as integers. -/
def readInts (tables : UnicodeTables) (w : Members) (names : List String) :
    Except PyStr (List ℤ) :=
  names.mapM (intField tables w)

def on2 (f : ℤ → ℤ → Prop) : List ℤ → Prop
  | [a, b] => f a b
  | _ => False

def on3 (f : ℤ → ℤ → ℤ → Prop) : List ℤ → Prop
  | [a, b, c] => f a b c
  | _ => False

def IsU64 (n : ℤ) : Prop := 0 ≤ n ∧ n < 2 ^ 64

def IsU16 (n : ℤ) : Prop := 0 ≤ n ∧ n < 2 ^ 16

namespace PinnedTarget

/-- The operands that the pinned function can be given. -/
def domain : PinnedTarget → List ℤ → Prop
  | recalcOvercharge | recalcOverchargeRaw => on3 fun a r d => IsU64 a ∧ IsU16 r ∧ IsU64 d
  | firstFeeConservation | firstFeeSilentZero => on2 fun a r => IsU64 a ∧ IsU16 r
  | multiTakeSplit => on3 fun pool r1 r2 => IsU64 pool ∧ IsU16 r1 ∧ IsU16 r2
  | depositNoDilution | redeemRoundtrip => on3 fun bought E P => 0 ≤ bought ∧ 0 < E ∧ 0 ≤ P
  | taoSplitConservation => on3 fun total w0 w1 => 0 ≤ total ∧ 0 ≤ w0 ∧ 0 ≤ w1
  | payoutNoStrand => on3 fun E P owed => 0 < E ∧ 0 ≤ P ∧ 0 ≤ owed

/-- The operands on which the harness finds the invariant violated. -/
def breaks : PinnedTarget → List ℤ → Prop
  | recalcOvercharge => on3 fun a r d =>
    d ≤ remainder a (firstFee a r) ∧ a < d + recalcFee d r
  | firstFeeConservation => on2 fun a _ => a < 0
  | multiTakeSplit => on3 fun pool r1 r2 => pool < pool * r1 / 10000 + pool * r2 / 10000
  | firstFeeSilentZero => on2 fun a r => 0 < a ∧ 0 < r ∧ firstFee a r = 0
  | recalcOverchargeRaw => on3 fun a r d => a < d + recalcFee d r
  | depositNoDilution => on3 fun bought E P => E < 0 ∧ ¬ E ∣ bought * P
  | redeemRoundtrip => on3 fun bought E P => E ≠ 0 ∧
    (P + (bought * P).fdiv E = 0 ∧ bought < 0 ∨
      0 < E ∧ P + (bought * P).fdiv E < 0 ∧ -(P + (bought * P).fdiv E) ≤ bought * P % E)
  | taoSplitConservation => on3 fun _ _ _ => False
  | payoutNoStrand => on3 fun E P owed =>
    owed < P ∧ (P = 0 ∧ E = 0 ∨ 0 < P ∧ E ≤ 0 ∨ P < 0 ∧ 0 ≤ E)

end PinnedTarget

/-! ## The arithmetic outside the domain -/

section Arithmetic

/-- The operands are masked before anything is computed of them. -/
theorem firstFee_masked (a r : ℤ) : firstFee a r = firstFee (a % 2 ^ 64) (r % 2 ^ 16) := by
  simp only [firstFee, u64ToFixed, u16ToFixed, Int.emod_emod]

theorem firstFee_bounds (a r : ℤ) : 0 ≤ firstFee a r ∧ firstFee a r ≤ a % 2 ^ 64 := by
  have ha : 0 ≤ a % 2 ^ 64 := Int.emod_nonneg _ (by norm_num)
  have halt : a % 2 ^ 64 < 2 ^ 64 := Int.emod_lt_of_pos _ (by norm_num)
  have hr : 0 ≤ r % 2 ^ 16 := Int.emod_nonneg _ (by norm_num)
  have hrlt : r % 2 ^ 16 < 2 ^ 16 := Int.emod_lt_of_pos _ (by norm_num)
  rw [firstFee_masked]
  refine ⟨?_, firstFee_le ha halt hr hrlt⟩
  rw [firstFee_eq ha halt hr hrlt]
  exact Int.ediv_nonneg (mul_nonneg ha (Int.ediv_nonneg (mul_nonneg hr (by norm_num))
    (by norm_num))) (by norm_num)

/-- The first fee is conserved exactly for an amount that is not negative. -/
theorem conserved_iff (a r : ℤ) :
    ¬ (firstFee a r ≤ a ∧ firstFee a r + remainder a (firstFee a r) = a) ↔ a < 0 := by
  obtain ⟨hnonneg, hle⟩ := firstFee_bounds a r
  constructor
  · intro h
    by_contra ha
    have hmask : a % 2 ^ 64 ≤ a := by omega
    exact h ⟨hle.trans hmask, fee_add_remainder (hle.trans hmask)⟩
  · rintro ha ⟨hfee, _⟩
    omega

/-- Floor division by a negative number. -/
theorem fdiv_neg_eq (a : ℤ) {b : ℤ} (hb : b < 0) : a.fdiv b = -a / -b := by
  rw [← Int.neg_fdiv_neg, Int.fdiv_eq_ediv_of_nonneg _ (by omega)]

theorem mul_fdiv_le_iff (a : ℤ) {b : ℤ} (hb : b ≠ 0) :
    ¬ a ≥ b * a.fdiv b ↔ b < 0 ∧ ¬ b ∣ a := by
  rcases lt_or_gt_of_ne hb with hneg | hpos
  · have hsplit := Int.mul_ediv_add_emod (-a) (-b)
    have hrest : 0 ≤ -a % -b := Int.emod_nonneg _ (by omega)
    have hdvd : b ∣ a ↔ -a % -b = 0 := by
      rw [← Int.dvd_iff_emod_eq_zero, Int.neg_dvd, Int.dvd_neg]
    rw [fdiv_neg_eq a hneg, hdvd]
    have hprod : -b * (-a / -b) = -(b * (-a / -b)) := neg_mul _ _
    rw [hprod] at hsplit
    generalize b * (-a / -b) = product at hsplit ⊢
    omega
  · rw [Int.fdiv_eq_ediv_of_nonneg _ hpos.le]
    have hle : b * (a / b) ≤ a := Int.mul_ediv_self_le hb
    exact iff_of_false (not_not_intro hle) fun h => absurd h.1 (by omega)

/-- What a deposit is redeemed for beyond what was paid. -/
theorem lt_payout_iff {b E P s : ℤ} (hE : E ≠ 0) (hs : s = (b * P).fdiv E) (hP : P + s ≠ 0) :
    b < min ((s * (E + b)).fdiv (P + s)) (E + b) ↔
      0 < E ∧ P + s < 0 ∧ -(P + s) ≤ b * P % E := by
  rcases lt_or_gt_of_ne hE with hneg | hpos
  · refine iff_of_false (fun h => ?_) fun h => absurd h.1 (by omega)
    have hle : min ((s * (E + b)).fdiv (P + s)) (E + b) ≤ E + b := min_le_right _ _
    omega
  · rw [Int.fdiv_eq_ediv_of_nonneg _ hpos.le] at hs
    have hsplit : E * s + b * P % E = b * P := hs ▸ Int.mul_ediv_add_emod (b * P) E
    have hrest : 0 ≤ b * P % E := Int.emod_nonneg _ hE
    generalize b * P % E = rest at hsplit hrest ⊢
    -- what is divided is `b` times the divisor, less the rest
    have hnum : s * (E + b) = b * (P + s) - rest := by linarith
    have hmin : b < min ((s * (E + b)).fdiv (P + s)) (E + b) ↔
        b + 1 ≤ (s * (E + b)).fdiv (P + s) := by
      rw [lt_min_iff, Int.add_one_le_iff]
      exact and_iff_left (by omega)
    rw [hmin, hnum]
    rcases lt_or_gt_of_ne hP with hlt | hgt
    · rw [fdiv_neg_eq _ hlt, Int.le_ediv_iff_mul_le (by omega)]
      have hprod : (b + 1) * -(P + s) = -(b * (P + s)) - (P + s) := by ring
      rw [hprod]
      omega
    · rw [Int.fdiv_eq_ediv_of_nonneg _ hgt.le, Int.le_ediv_iff_mul_le hgt]
      have hprod : (b + 1) * (P + s) = b * (P + s) + (P + s) := by ring
      rw [hprod]
      omega

/-- What a part of the shares is paid, where it takes all of the escrow. -/
theorem drains_iff {E P owed : ℤ} (hP : P ≠ 0) (howed : owed < P) :
    E - min ((owed * E).fdiv P) E = 0 ↔ 0 < P ∧ E ≤ 0 ∨ P < 0 ∧ 0 ≤ E := by
  have hmin : E - min ((owed * E).fdiv P) E = 0 ↔ E ≤ (owed * E).fdiv P := by
    rw [sub_eq_zero, eq_comm, min_eq_right_iff]
  rw [hmin]
  rcases lt_or_gt_of_ne hP with hneg | hpos
  · rw [fdiv_neg_eq _ hneg, Int.le_ediv_iff_mul_le (by omega)]
    have hprod : E * -P ≤ -(owed * E) ↔ 0 ≤ (P - owed) * E := by
      constructor <;> intro h <;> linarith
    rw [hprod, mul_nonneg_iff_of_pos_left (by omega)]
    omega
  · rw [Int.fdiv_eq_ediv_of_nonneg _ hpos.le, Int.le_ediv_iff_mul_le hpos]
    have hprod : E * P ≤ owed * E ↔ 0 ≤ (P - owed) * -E := by
      constructor <;> intro h <;> linarith
    rw [hprod, mul_nonneg_iff_of_pos_left (by omega)]
    omega

end Arithmetic

/-! ## What the harnesses find -/

section Harnesses

variable {tables : UnicodeTables} {harness : Members → Except PyStr Members}
  {invariant : Members → Except PyStr Bool}

/-- A harness of two integers, by what it does with them. -/
theorem runs_two {m n : String} {observe : ℤ → ℤ → Except PyStr Members} {f : ℤ → ℤ → Prop}
    (hharness : ∀ w, harness w = do
      let a ← intField tables w m
      let b ← intField tables w n
      observe a b)
    (hbreaks : ∀ a b, (∃ o, observe a b = .ok o ∧ invariant o = .ok false) ↔ f a b)
    (w : Members) :
    (∃ o, harness w = .ok o ∧ invariant o = .ok false) ↔
      ∃ ns, readInts tables w [m, n] = .ok ns ∧ on2 f ns := by
  rw [hharness, readInts, List.mapM_cons, List.mapM_cons, List.mapM_nil]
  cases intField tables w m with
  | error name => simp [bind, Except.bind]
  | ok a =>
    cases intField tables w n with
    | error name => simp [bind, Except.bind]
    | ok b =>
      simp only [bind, Except.bind, pure, Except.pure, Except.ok.injEq, exists_eq_left', on2]
      exact hbreaks a b

/-- A harness of three integers. -/
theorem runs_three {l m n : String} {observe : ℤ → ℤ → ℤ → Except PyStr Members}
    {f : ℤ → ℤ → ℤ → Prop}
    (hharness : ∀ w, harness w = do
      let a ← intField tables w l
      let b ← intField tables w m
      let c ← intField tables w n
      observe a b c)
    (hbreaks : ∀ a b c, (∃ o, observe a b c = .ok o ∧ invariant o = .ok false) ↔ f a b c)
    (w : Members) :
    (∃ o, harness w = .ok o ∧ invariant o = .ok false) ↔
      ∃ ns, readInts tables w [l, m, n] = .ok ns ∧ on3 f ns := by
  rw [hharness, readInts, List.mapM_cons, List.mapM_cons, List.mapM_cons, List.mapM_nil]
  cases intField tables w l with
  | error name => simp [bind, Except.bind]
  | ok a =>
    cases intField tables w m with
    | error name => simp [bind, Except.bind]
    | ok b =>
      cases intField tables w n with
      | error name => simp [bind, Except.bind]
      | ok c =>
        simp only [bind, Except.bind, pure, Except.pure, Except.ok.injEq, exists_eq_left', on3]
        exact hbreaks a b c

theorem exists_ok_iff {x : Members} {b : Bool} (h : invariant x = .ok b) :
    (∃ o, (Except.ok x : Except PyStr Members) = .ok o ∧ invariant o = .ok false) ↔ b = false := by
  simp only [Except.ok.injEq, exists_eq_left', h]

theorem conservation_runs (w : Members) :
    (∃ o, conservationHarness tables w = .ok o ∧ conservationInv o = .ok false) ↔
      ∃ ns, readInts tables w ["amount", "fee_rate"] = .ok ns ∧
        PinnedTarget.firstFeeConservation.breaks ns := by
  refine runs_two (fun _ => rfl) (fun a r => ?_) w
  have hread : conservationInv (conserved a (firstFee a r)) =
      .ok (decide (firstFee a r ≤ a ∧ firstFee a r + remainder a (firstFee a r) = a)) := by
    simp [conservationInv, conserved, observedInt, get_record, List.lookup_cons, integer, bind,
      Except.bind]
  rw [exists_ok_iff hread, decide_eq_false_iff_not, conserved_iff]

theorem split_runs (w : Members) :
    (∃ o, splitHarness tables w = .ok o ∧ splitInv o = .ok false) ↔
      ∃ ns, readInts tables w ["pool", "rate1_bps", "rate2_bps"] = .ok ns ∧
        PinnedTarget.multiTakeSplit.breaks ns := by
  refine runs_three (fun _ => rfl) (fun pool r1 r2 => ?_) w
  have hread : ∀ take1 take2 : ℤ, splitInv (record [("pool", integer pool),
      ("take1", integer take1), ("take2", integer take2), ("total", integer (take1 + take2))]) =
        .ok (decide (take1 + take2 ≤ pool)) := fun take1 take2 => by
    simp [splitInv, get_record, List.lookup_cons, integer]
  rw [exists_ok_iff (hread _ _), decide_eq_false_iff_not, not_le]

theorem silentZero_runs (w : Members) :
    (∃ o, silentZeroHarness tables w = .ok o ∧ silentZeroInv o = .ok false) ↔
      ∃ ns, readInts tables w ["amount", "fee_rate"] = .ok ns ∧
        PinnedTarget.firstFeeSilentZero.breaks ns := by
  refine runs_two (fun _ => rfl) (fun a r => ?_) w
  have hread : silentZeroInv (record [("amount", integer a), ("fee_rate", integer r),
      ("fee", integer (firstFee a r))]) = .ok (!decide (a > 0 ∧ r > 0 ∧ firstFee a r = 0)) := by
    simp [silentZeroInv, observedInt, get_record, List.lookup_cons, integer, bind, Except.bind]
  rw [exists_ok_iff hread, Bool.not_eq_false', decide_eq_true_eq]

theorem recalc_runs (w : Members) :
    (∃ o, recalcHarness tables w = .ok o ∧ recalcInv o = .ok false) ↔
      ∃ ns, readInts tables w ["amount", "fee_rate", "delta_in"] = .ok ns ∧
        PinnedTarget.recalcOvercharge.breaks ns := by
  refine runs_three (fun _ => rfl) (fun a r d => ?_) w
  have hread : recalcInv (recalculated a r d) =
      .ok (!decide (d ≤ remainder a (firstFee a r) ∧ d + recalcFee d r > a)) := by
    simp [recalcInv, recalculated, observedInt, get_record, List.lookup_cons, integer, bind,
      Except.bind]
  rw [exists_ok_iff hread, Bool.not_eq_false', decide_eq_true_eq]

theorem recalcRaw_runs (w : Members) :
    (∃ o, recalcHarness tables w = .ok o ∧ recalcRawInv o = .ok false) ↔
      ∃ ns, readInts tables w ["amount", "fee_rate", "delta_in"] = .ok ns ∧
        PinnedTarget.recalcOverchargeRaw.breaks ns := by
  refine runs_three (fun _ => rfl) (fun a r d => ?_) w
  have hread : recalcRawInv (recalculated a r d) = .ok (decide (d + recalcFee d r ≤ a)) := by
    simp [recalcRawInv, recalculated, observedInt, get_record, List.lookup_cons, integer, bind,
      Except.bind]
  rw [exists_ok_iff hread, decide_eq_false_iff_not, not_le]

theorem a1_runs (w : Members) :
    (∃ o, a1Harness tables w = .ok o ∧ a1Inv o = .ok false) ↔
      ∃ ns, readInts tables w ["bought", "E", "P"] = .ok ns ∧
        PinnedTarget.depositNoDilution.breaks ns := by
  refine runs_three (fun _ => rfl) (fun b E P => ?_) w
  by_cases hE : E = 0
  · subst hE
    simp [floorDiv, bind, Except.bind]
  · have hread : a1Inv (record [("bought", integer b), ("E", integer E), ("P", integer P),
        ("shares", integer ((b * P).fdiv E)), ("lhs", integer (b * P)),
        ("rhs", integer (E * (b * P).fdiv E))]) =
          .ok (decide (b * P ≥ E * (b * P).fdiv E)) := by
      simp [a1Inv, observedInt, get_record, List.lookup_cons, integer, bind, Except.bind]
    rw [floorDiv, if_neg hE]
    exact (exists_ok_iff hread).trans (decide_eq_false_iff_not.trans (mul_fdiv_le_iff _ hE))

theorem a2_runs (w : Members) :
    (∃ o, a2Harness tables w = .ok o ∧ a2Inv o = .ok false) ↔
      ∃ ns, readInts tables w ["bought", "E", "P"] = .ok ns ∧
        PinnedTarget.redeemRoundtrip.breaks ns := by
  refine runs_three (fun _ => rfl) (fun b E P => ?_) w
  have hread : ∀ s e p payout : ℤ, a2Inv (record [("bought", integer b), ("E", integer E),
      ("P", integer P), ("shares", integer s), ("E2", integer e), ("P2", integer p),
      ("payout", integer payout)]) = .ok (decide (payout ≤ b)) := fun s e p payout => by
    simp [a2Inv, observedInt, get_record, List.lookup_cons, integer, bind, Except.bind]
  by_cases hE : E = 0
  · subst hE
    simp [deposit, floorDiv, bind, Except.bind]
  · rw [deposit, floorDiv, if_neg hE]
    by_cases hP : P + (b * P).fdiv E = 0
    · simp only [bind, Except.bind, redeem, hP, if_true]
      rw [exists_ok_iff (hread _ _ _ _), decide_eq_false_iff_not, not_le]
      simp [hE]
    · simp only [bind, Except.bind, redeem, floorDiv, hP, if_false, Except.map]
      rw [exists_ok_iff (hread _ _ _ _), decide_eq_false_iff_not, not_le,
        lt_payout_iff hE rfl hP]
      simp [hE]

theorem a4_runs (w : Members) :
    (∃ o, a4Harness tables w = .ok o ∧ a4Inv o = .ok false) ↔
      ∃ ns, readInts tables w ["tao_total", "w0", "w1"] = .ok ns ∧
        PinnedTarget.taoSplitConservation.breaks ns := by
  refine runs_three (fun _ => rfl) (fun total w0 w1 => ?_) w
  have hread : ∀ s0 : ℤ, a4Inv (record [("tao_total", integer total), ("w0", integer w0),
      ("w1", integer w1), ("s0", integer s0), ("s1", integer (total - s0)),
      ("sum", integer (s0 + (total - s0)))]) = .ok true := fun s0 => by
    simp [a4Inv, observedInt, get_record, List.lookup_cons, integer, bind, Except.bind]
  exact (exists_ok_iff (hread _)).trans (iff_of_false Bool.noConfusion not_false)

theorem f2_runs (w : Members) :
    (∃ o, f2Harness tables w = .ok o ∧ f2Inv o = .ok false) ↔
      ∃ ns, readInts tables w ["E", "P", "owed"] = .ok ns ∧
        PinnedTarget.payoutNoStrand.breaks ns := by
  refine runs_three (fun _ => rfl) (fun E P owed => ?_) w
  have hread : ∀ o payout e p : ℤ, f2Inv (record [("E", integer E), ("P", integer P),
      ("owed", integer o), ("payout", integer payout), ("E2", integer e), ("P2", integer p)]) =
        .ok (!decide (e = 0 ∧ p > 0)) := fun o payout e p => by
    simp [f2Inv, observedInt, get_record, List.lookup_cons, integer, bind, Except.bind]
  by_cases hP : P = 0
  · subst hP
    simp only [redeem, if_true, bind, Except.bind]
    rw [exists_ok_iff (hread _ _ _ _), Bool.not_eq_false', decide_eq_true_eq]
    rw [true_and]
    omega
  · simp only [redeem, floorDiv, hP, if_false, bind, Except.bind, Except.map]
    rw [exists_ok_iff (hread _ _ _ _), Bool.not_eq_false', decide_eq_true_eq]
    by_cases howed : owed < P
    · rw [min_eq_left howed.le, drains_iff hP howed]
      omega
    · rw [min_eq_right (not_lt.mp howed)]
      omega

end Harnesses

/-! ## The replays -/

section Replays

variable {tables : UnicodeTables} {cnfSha256 : PyStr} {w : Members}

theorem readInts_congr {w' : Members} {names : List String}
    (h : ∀ name ∈ names, get w' name = get w name) :
    readInts tables w' names = readInts tables w names := by
  induction names with
  | nil => rfl
  | cons name rest ih =>
    simp only [readInts] at ih ⊢
    rw [List.mapM_cons, List.mapM_cons, intField_congr (h name List.mem_cons_self),
      ih fun n hn => h n (List.mem_cons_of_mem _ hn)]

theorem isSome_of_readInts {names : List String} {ns : List ℤ}
    (h : readInts tables w names = .ok ns) : ∀ name ∈ names, (get w name).isSome := by
  induction names generalizing ns with
  | nil => exact fun name hname => absurd hname List.not_mem_nil
  | cons first rest ih =>
    rw [readInts, List.mapM_cons] at h
    cases hfirst : intField tables w first with
    | error name =>
      rw [hfirst] at h
      cases h
    | ok n =>
      cases hrest : rest.mapM (intField tables w) with
      | error name =>
        rw [hfirst, hrest] at h
        cases h
      | ok ms =>
        intro name hname
        rcases List.mem_cons.mp hname with rfl | hmem
        · exact isSome_of_intField hfirst
        · exact ih hrest name hmem

theorem isSome_of_containsAll {names : List String}
    (h : containsAll (.obj w) (names.map PyStr.ofString) = some true) :
    ∀ name ∈ names, (get w name).isSome := by
  induction names with
  | nil => exact fun name hname => absurd hname List.not_mem_nil
  | cons first rest ih =>
    rw [List.map_cons, containsAll, PyJson.contains, Option.bind_some] at h
    cases hfirst : (Dict.find (PyStr.ofString first) w).isSome with
    | false =>
      rw [hfirst] at h
      cases h
    | true =>
      rw [hfirst, if_pos rfl] at h
      intro name hname
      rcases List.mem_cons.mp hname with rfl | hmem
      · exact hfirst
      · exact ih h name hmem

namespace PinnedTarget

theorem decode_target (T : PinnedTarget) :
    (T.target tables cnfSha256).decode = T.names.map PyStr.ofString := by
  cases T <;> rfl

theorem names_ne (T : PinnedTarget) : T.names ≠ [] := by
  cases T <;> simp [names]

theorem registered (T : PinnedTarget) :
    pinnedRegistry tables cnfSha256 (PyStr.ofString T.id) = some (T.target tables cnfSha256) := by
  have hlookup := lookup_ofString (all.map fun T => (T.id, T.target tables cnfSha256)) T.id
  rw [List.map_map] at hlookup
  refine hlookup.trans ?_
  cases T <;> simp [all, PinnedTarget.id, List.lookup_cons]

/-- A harness finds a violation exactly on the integers that break its target. -/
theorem runs (T : PinnedTarget) (w : Members) :
    (∃ o, (T.target tables cnfSha256).harness w = .ok o ∧
      (T.target tables cnfSha256).invariant o = .ok false) ↔
        ∃ ns, readInts tables w T.names = .ok ns ∧ T.breaks ns := by
  cases T with
  | recalcOvercharge => exact recalc_runs w
  | firstFeeConservation => exact conservation_runs w
  | multiTakeSplit => exact split_runs w
  | firstFeeSilentZero => exact silentZero_runs w
  | recalcOverchargeRaw => exact recalcRaw_runs w
  | depositNoDilution => exact a1_runs w
  | redeemRoundtrip => exact a2_runs w
  | taoSplitConservation => exact a4_runs w
  | payoutNoStrand => exact f2_runs w

/-- A replay reproduces exactly on the objects whose integers break the target. -/
theorem reproduces_iff (T : PinnedTarget) (v : Value) :
    (∃ out, runReplay (pinnedRegistry tables cnfSha256) (PyStr.ofString T.id) v = some out ∧
      out.reproduced = true) ↔
        ∃ w ns, v = .obj w ∧ readInts tables w T.names = .ok ns ∧ T.breaks ns := by
  constructor
  · rintro ⟨out, hout, hreproduced⟩
    obtain ⟨target, htarget, _, hall, inputs, observed, hpick, hharness, hinv⟩ :=
      (reproduced_iff hout).mp hreproduced
    rw [registered, Option.some.injEq] at htarget
    subst htarget
    rw [decode_target] at hall hpick
    cases v with
    | obj w =>
      have hsome := isSome_of_containsAll hall
      rw [(pick_names hsome).2, Except.ok.injEq] at hpick
      subst hpick
      obtain ⟨ns, hread, hbreaks⟩ := (T.runs _).mp ⟨observed, hharness, hinv⟩
      rw [readInts_congr fun name hname => get_selected hsome hname] at hread
      exact ⟨w, ns, rfl, hread, hbreaks⟩
    | _ => cases T <;> cases hpick
  · rintro ⟨w, ns, rfl, hread, hbreaks⟩
    obtain ⟨out, hout, hreproduced, _⟩ := @runReplay_decides
      (pinnedRegistry tables cnfSha256) (PyStr.ofString T.id) (T.target tables cnfSha256) w T.names
      false T.registered T.decode_target T.names_ne (isSome_of_readInts hread)
      fun w' hw' => (T.runs w').mpr ⟨ns, (readInts_congr hw').trans hread, hbreaks⟩
    exact ⟨out, hout, hreproduced⟩

/-- A target reports only witnesses from the machine's domain exactly where what breaks it is in
that domain. -/
theorem replay_in_domain_iff (T : PinnedTarget) (v : Value) :
    (∀ out, runReplay (pinnedRegistry tables cnfSha256) (PyStr.ofString T.id) v = some out →
        out.reproduced = true → ∃ w ns, v = .obj w ∧ readInts tables w T.names = .ok ns ∧
          T.domain ns ∧ Violates (T.target tables cnfSha256) v) ↔
      ∀ w ns, v = .obj w → readInts tables w T.names = .ok ns → T.breaks ns → T.domain ns := by
  constructor
  · intro h w ns hv hread hbreaks
    obtain ⟨out, hout, hreproduced⟩ := (T.reproduces_iff v).mpr ⟨w, ns, hv, hread, hbreaks⟩
    obtain ⟨w', ns', hv', hread', hdomain, _⟩ := h out hout hreproduced
    obtain rfl : w = w' := by
      rw [hv] at hv'
      injection hv'
    rw [hread, Except.ok.injEq] at hread'
    exact hread' ▸ hdomain
  · intro h out hout hreproduced
    obtain ⟨w, ns, hv, hread, hbreaks⟩ := (T.reproduces_iff v).mp ⟨out, hout, hreproduced⟩
    obtain ⟨target, htarget, _, _, hviolates⟩ := (reproduced_iff hout).mp hreproduced
    rw [registered, Option.some.injEq] at htarget
    exact ⟨w, ns, hv, hread, h w ns hv hread hbreaks, htarget ▸ hviolates⟩

end PinnedTarget

end Replays

/-- A negative amount is masked for the fee, and not where it is compared with the fee. -/
theorem replay_negative_amount :
    (runReplay (pinnedRegistry PyStr.exactNumbers.tables [])
        (PyStr.ofString PinnedTarget.firstFeeConservation.id)
        (.obj (record [("amount", integer (-1)), ("fee_rate", integer 30)]))).map
          ReplayOutcome.reproduced = some true ∧
      ¬ PinnedTarget.firstFeeConservation.domain [-1, 30] := by
  refine ⟨by decide +kernel, fun h => ?_⟩
  exact absurd h.1.1 (by decide)

end Cathedral.Arena
