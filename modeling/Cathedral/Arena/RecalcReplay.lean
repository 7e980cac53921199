import Cathedral.Arena.RootReplay

/-!
# Cathedral.Arena.RecalcReplay — the fee that is computed twice

The `recalc-overcharge` target of `game/arena/replay.py`. The second fee is taken of the part
of the amount that the first one leaves, at a rate over that part. Both are rounded down; where
the first one drops nearly a whole unit, the second one takes it back.
-/

namespace Cathedral.Arena

open PyJson (Value)

def recalcFee (deltaIn feeRate : ℤ) : ℤ :=
  let u16max := constFixed 0xFFFF
  let fr := u16ToFixed feeRate
  let den := if fr < u16max then u16max - fr else 0
  fixedToU64 (fixedMul (u64ToFixed deltaIn) (fixedDiv fr den))

/-- What `_recalc_harness` returns. -/
def recalculated (amount feeRate deltaIn : ℤ) : Members :=
  let poss := remainder amount (firstFee amount feeRate)
  let fee2 := recalcFee deltaIn feeRate
  let paid := deltaIn + fee2
  record [("amount", integer amount), ("delta_in", integer deltaIn), ("fee_rate", integer feeRate),
    ("fee2", integer fee2), ("paid", integer paid), ("poss", integer poss),
    ("overcharge", integer (max 0 (paid - amount)))]

def recalcHarness (tables : UnicodeTables) (w : Members) : Except PyStr Members := do
  let amount ← intField tables w "amount"
  let feeRate ← intField tables w "fee_rate"
  let deltaIn ← intField tables w "delta_in"
  .ok (recalculated amount feeRate deltaIn)

def recalcInv (o : Members) : Except PyStr Bool := do
  let deltaIn ← observedInt o "delta_in"
  let poss ← observedInt o "poss"
  let paid ← observedInt o "paid"
  let amount ← observedInt o "amount"
  .ok (!decide (deltaIn ≤ poss ∧ paid > amount))

def recalcTarget (tables : UnicodeTables) : ReplayTarget where
  family := PyStr.ofString "B_bounds"
  source := PyStr.ofString "arena-port"
  codeSha256 := []
  propertyDesc := PyStr.ofString "recalc fee path must never make a user pay more than `amount`."
  decode := ["amount", "fee_rate", "delta_in"].map PyStr.ofString
  harness := recalcHarness tables
  invariant := recalcInv

def recalcId : PyStr := PyStr.ofString "subtensor-amm:recalc-overcharge@HEAD"

/-! ## The rounding -/

section Rounding

variable {amount feeRate deltaIn : ℤ}

/-- Up to half of the whole, the second rate is at most one and nothing saturates. -/
theorem recalcFee_eq (h : 0 ≤ deltaIn) (hlt : deltaIn < 2 ^ 64) (hrate : 0 ≤ feeRate)
    (hgated : feeRate ≤ 32767) :
    recalcFee deltaIn feeRate = deltaIn * (feeRate * 2 ^ 64 / (65535 - feeRate)) / 2 ^ 64 := by
  have hconst : constFixed 0xFFFF = 65535 * 2 ^ 64 := by decide
  have hone : feeRate * 2 ^ 64 / (65535 - feeRate) ≤ 2 ^ 64 :=
    Int.ediv_le_of_le_mul (by omega) (by omega)
  have hpos : 0 ≤ feeRate * 2 ^ 64 / (65535 - feeRate) := Int.ediv_nonneg (by omega) (by omega)
  have hfixed : u16ToFixed feeRate = feeRate * 2 ^ 64 := by
    rw [u16ToFixed, Int.emod_eq_of_lt hrate (by omega)]
  have hdiv : fixedDiv (feeRate * 2 ^ 64) (65535 * 2 ^ 64 - feeRate * 2 ^ 64) =
      feeRate * 2 ^ 64 / (65535 - feeRate) := by
    rw [fixedDiv, if_neg (by omega), Int.fdiv_eq_ediv_of_nonneg _ (by omega), ← sub_mul,
      Int.mul_ediv_mul_of_pos_left _ _ (by norm_num), sat128, if_neg (by omega)]
  have hprod : deltaIn * (feeRate * 2 ^ 64 / (65535 - feeRate)) ≤ deltaIn * 2 ^ 64 :=
    mul_le_mul_of_nonneg_left hone h
  simp only [recalcFee, hconst, hfixed]
  rw [if_pos (by omega), hdiv]
  generalize feeRate * 2 ^ 64 / (65535 - feeRate) = rate at *
  rw [fixedMul, u64ToFixed, Int.emod_eq_of_lt h hlt, mul_right_comm,
    Int.mul_ediv_cancel _ (by norm_num), sat128, if_neg (by omega), fixedToU64,
    if_neg (by omega)]

/-- What the first fee drops, in units of `2 ^ -64`. -/
def dropped (amount feeRate : ℤ) : ℤ := amount * (feeRate * 2 ^ 64 / 65535) % 2 ^ 64

/-- The deposit is the largest that is left, and with what the first fee drops of it the second
fee reaches the next unit. -/
def RoundsUp (amount feeRate deltaIn : ℤ) : Prop :=
  deltaIn = amount - firstFee amount feeRate ∧
    2 ^ 64 * (65535 - feeRate) + deltaIn * (feeRate * 2 ^ 64 % (65535 - feeRate)) ≤
      65535 * dropped amount feeRate + amount * feeRate

/-- The user pays no more than the amount. -/
def PaysAtMost (amount feeRate deltaIn : ℤ) : Prop :=
  deltaIn ≤ amount - firstFee amount feeRate → deltaIn + recalcFee deltaIn feeRate ≤ amount

instance : Decidable (PaysAtMost amount feeRate deltaIn) := inferInstanceAs (Decidable (_ → _))

/-- What the first fee keeps and what it drops. -/
theorem firstFee_add_dropped (h : 0 ≤ amount) (hlt : amount < 2 ^ 64) (hrate : 0 ≤ feeRate)
    (hgated : feeRate ≤ 32767) :
    65535 * (2 ^ 64 * firstFee amount feeRate + dropped amount feeRate) =
      amount * (feeRate * (2 ^ 64 - 1)) := by
  have hexact : 65535 * (feeRate * 2 ^ 64 / 65535) = feeRate * (2 ^ 64 - 1) := by omega
  rw [firstFee_eq h hlt hrate (by omega), dropped, Int.mul_ediv_add_emod, mul_left_comm, hexact]

theorem dropped_lt : dropped amount feeRate < 2 ^ 64 := Int.emod_lt_of_pos _ (by norm_num)

/-- The second fee reaches `n` where the deposit, at the rounded rate, does. -/
theorem le_recalcFee_iff (h : 0 ≤ deltaIn) (hlt : deltaIn < 2 ^ 64) (hrate : 0 ≤ feeRate)
    (hgated : feeRate ≤ 32767) {n : ℤ} :
    n ≤ recalcFee deltaIn feeRate ↔
      n * 2 ^ 64 * (65535 - feeRate) ≤
        deltaIn * (feeRate * 2 ^ 64 - feeRate * 2 ^ 64 % (65535 - feeRate)) := by
  have hden : 0 < 65535 - feeRate := by omega
  have hsplit := Int.mul_ediv_add_emod (feeRate * 2 ^ 64) (65535 - feeRate)
  rw [recalcFee_eq h hlt hrate hgated, Int.le_ediv_iff_mul_le (by norm_num),
    ← mul_le_mul_iff_left₀ hden, mul_assoc deltaIn]
  rw [show feeRate * 2 ^ 64 / (65535 - feeRate) * (65535 - feeRate) =
    feeRate * 2 ^ 64 - feeRate * 2 ^ 64 % (65535 - feeRate) by linarith]

/-- A deposit below the largest one is never overcharged, at a rate up to one half. -/
theorem paysAtMost_of_lt (h : 0 ≤ amount) (hlt : amount < 2 ^ 64) (hd : 0 ≤ deltaIn)
    (hrate : 0 ≤ feeRate) (hgated : feeRate ≤ 32767)
    (hless : deltaIn < amount - firstFee amount feeRate) :
    deltaIn + recalcFee deltaIn feeRate ≤ amount := by
  have hfee := firstFee_add_dropped h hlt hrate hgated
  have hdrop : dropped amount feeRate < 2 ^ 64 := dropped_lt
  have hsmall : amount * feeRate ≤ 2 ^ 64 * feeRate := mul_le_mul_of_nonneg_right hlt.le hrate
  have hnonneg : 0 ≤ amount * feeRate := mul_nonneg h hrate
  have hmod : 0 ≤ deltaIn * (feeRate * 2 ^ 64 % (65535 - feeRate)) :=
    mul_nonneg hd (Int.emod_nonneg _ (by omega))
  by_contra hover
  have hreach := (le_recalcFee_iff hd (by linarith) hrate hgated).mp
    (show amount - deltaIn + 1 ≤ recalcFee deltaIn feeRate by omega)
  have hcross : (amount - deltaIn + 1) * (65535 - feeRate) ≤ deltaIn * feeRate :=
    le_of_mul_le_mul_right (by linarith) (show (0 : ℤ) < 2 ^ 64 by norm_num)
  have hnext : deltaIn + 1 ≤ amount - firstFee amount feeRate := hless
  linarith

/-- Up to half of the whole, the amount is a bound exactly where nothing rounds up. -/
theorem paysAtMost_iff (h : 0 ≤ amount) (hlt : amount < 2 ^ 64) (hd : 0 ≤ deltaIn)
    (hdlt : deltaIn < 2 ^ 64) (hrate : 0 ≤ feeRate) (hgated : feeRate ≤ 32767) :
    PaysAtMost amount feeRate deltaIn ↔ ¬ RoundsUp amount feeRate deltaIn := by
  rcases lt_trichotomy deltaIn (amount - firstFee amount feeRate) with hless | heq | hmore
  · exact iff_of_true (fun _ => paysAtMost_of_lt h hlt hd hrate hgated hless)
      fun hround => hless.ne hround.1
  · have hfee := firstFee_add_dropped h hlt hrate hgated
    have hover : amount < deltaIn + recalcFee deltaIn feeRate ↔
        2 ^ 64 * (65535 - feeRate) + deltaIn * (feeRate * 2 ^ 64 % (65535 - feeRate)) ≤
          65535 * dropped amount feeRate + amount * feeRate := by
      have hreach := @le_recalcFee_iff feeRate deltaIn hd hdlt hrate hgated
        (firstFee amount feeRate + 1)
      rw [show amount < deltaIn + recalcFee deltaIn feeRate ↔
        firstFee amount feeRate + 1 ≤ recalcFee deltaIn feeRate by omega, hreach]
      generalize feeRate * 2 ^ 64 % (65535 - feeRate) = rest
      rw [heq]
      constructor
      · intro hle
        linarith
      · intro hle
        linarith
    rw [PaysAtMost, RoundsUp, ← hover, ← heq]
    simp
  · exact iff_of_true (fun hle => absurd hle (not_le.mpr hmore)) fun hround => hmore.ne' hround.1

end Rounding

/-! ## The replay -/

section Replays

variable {tables : UnicodeTables} {others : Registry} {w : Members} {amount feeRate deltaIn : ℕ}

/-- `TARGETS`, with the recalc target among the others. -/
def withRecalc (tables : UnicodeTables) (others : Registry) : Registry :=
  registered tables fun id => if id = recalcId then some (recalcTarget tables) else others id

theorem withRecalc_recalcId : withRecalc tables others recalcId = some (recalcTarget tables) := by
  rw [withRecalc, registered, recalcId, lookup_ofString, if_pos rfl]
  simp [hardenedTargets, List.lookup_cons]

theorem recalcInv_recalculated {amount feeRate deltaIn : ℤ}
    (hfee : firstFee amount feeRate ≤ amount) :
    recalcInv (recalculated amount feeRate deltaIn) =
      .ok (decide (PaysAtMost amount feeRate deltaIn)) := by
  have hposs : remainder amount (firstFee amount feeRate) = amount - firstFee amount feeRate :=
    if_pos hfee
  have hread : recalcInv (recalculated amount feeRate deltaIn) =
      .ok (!decide (deltaIn ≤ amount - firstFee amount feeRate ∧
        deltaIn + recalcFee deltaIn feeRate > amount)) := by
    simp [recalcInv, recalculated, hposs, observedInt, get_record, List.lookup_cons, integer, bind,
      Except.bind]
  rw [hread, ← decide_not]
  congr 1
  rw [decide_eq_decide, PaysAtMost, not_and, not_lt]

theorem recalcHarness_naturals {w' : Members}
    (h : Naturals tables w' [("amount", amount), ("fee_rate", feeRate), ("delta_in", deltaIn)]) :
    recalcHarness tables w' = .ok (recalculated amount feeRate deltaIn) := by
  rw [recalcHarness, h ("amount", amount) (by simp), h ("fee_rate", feeRate) (by simp),
    h ("delta_in", deltaIn) (by simp)]
  rfl

/-- Up to half of the whole, a replay reproduces the overcharge exactly where the second fee
rounds up. -/
theorem recalc_overcharge_iff (hamount : amount < 2 ^ 64) (hdelta : deltaIn < 2 ^ 64)
    (hrate : feeRate ≤ 32767)
    (hw : Naturals tables w [("amount", amount), ("fee_rate", feeRate), ("delta_in", deltaIn)]) :
    (PaysAtMost amount feeRate deltaIn ↔ ¬ RoundsUp amount feeRate deltaIn) ∧
      ∃ out, runReplay (withRecalc tables others) recalcId (.obj w) = some out ∧
        (out.reproduced = true ↔ RoundsUp amount feeRate deltaIn) := by
  have hbound : PaysAtMost amount feeRate deltaIn ↔ ¬ RoundsUp amount feeRate deltaIn :=
    paysAtMost_iff (by omega) (by omega) (by omega) (by omega) (by omega) (by omega)
  refine ⟨hbound, ?_⟩
  have hfee : firstFee amount feeRate ≤ amount :=
    firstFee_le (by omega) (by omega) (by omega) (by omega)
  obtain ⟨out, hout, hreproduced, _⟩ := @runReplay_decides (withRecalc tables others)
    recalcId (recalcTarget tables) w ["amount", "fee_rate", "delta_in"]
    (decide (PaysAtMost amount feeRate deltaIn)) withRecalc_recalcId rfl (by simp)
    (fun name hname => by
      obtain ⟨f, hf, rfl⟩ := List.mem_map.mp
        (show name ∈ [("amount", amount), ("fee_rate", feeRate), ("delta_in", deltaIn)].map
          Prod.fst from hname)
      exact isSome_of_intField (hw f hf))
    fun w' hw' => ⟨_, recalcHarness_naturals fun f hf => by
      rw [intField_congr (hw' f.1 (List.mem_map_of_mem hf)), hw f hf],
      recalcInv_recalculated hfee⟩
  refine ⟨out, hout, ?_⟩
  rw [hreproduced, Bool.not_eq_true', decide_eq_false_iff_not, hbound, not_not]

/-- At a rate of one third, two units pay three. -/
theorem recalc_overcharge_low_rate :
    ¬ PaysAtMost 2 21845 2 ∧
      (runReplay (withRecalc PyStr.exactNumbers.tables fun _ => none) recalcId
        (.obj (record [("amount", integer 2), ("fee_rate", integer 21845),
          ("delta_in", integer 2)]))).map ReplayOutcome.reproduced = some true := by
  decide +kernel

theorem recalc_overcharge_iff_low_rate :
    (PaysAtMost 2 21845 2 ↔ ¬ RoundsUp 2 21845 2) ∧
      ∃ out, runReplay (withRecalc PyStr.exactNumbers.tables fun _ => none) recalcId
          (.obj (record [("amount", integer 2), ("fee_rate", integer 21845),
            ("delta_in", integer 2)])) = some out ∧
        (out.reproduced = true ↔ RoundsUp 2 21845 2) :=
  @recalc_overcharge_iff PyStr.exactNumbers.tables (fun _ => none) _ 2 21845 2 (by decide)
    (by decide) (by decide)
    (by simp [Naturals, intField, get_record, List.lookup_cons, integer, toInt])

end Replays

end Cathedral.Arena
