import Mathlib.Data.Int.Log
import Cathedral.Lib.PyDecimal
import Cathedral.Thin.BundleChain

/-!
# Cathedral.Thin.Aggregation — verified work for each miner

`canonical_decimal` and `aggregate_receipts` of `cathedral_thin/ml_receipts.py`. The sums
are taken in a context of 64 digits, which the receipts of a bundle do not fill.

`bundle_chain_counts_once` puts the chain of bundles and the aggregation together: over
epochs that follow one another, each request counts once.
-/

namespace Cathedral.Thin

/-! ## Decimals -/

/-- The value with a number of significant digits that is nearest to `q`. -/
def significant (digits : ℕ) (q : ℚ) : ℚ :=
  if q = 0 then 0
  else
    let unit : ℚ := 10 ^ (Int.log 10 |q| + 1 - digits)
    roundHalfEven (q / unit) * unit

theorem roundHalfEven_intCast (n : ℤ) : roundHalfEven n = n := by
  simp only [roundHalfEven, Int.floor_intCast, sub_self]
  exact if_pos (by norm_num)

/-- A value of few digits is its own rounding. -/
theorem significant_eq_self {digits precision n : ℕ} (h : n < 10 ^ digits) :
    significant digits (n / 10 ^ precision) = n / 10 ^ precision := by
  unfold significant
  split_ifs with hzero
  · exact hzero.symm
  · have hpos : (0 : ℚ) < n / 10 ^ precision := lt_of_le_of_ne (by positivity) (Ne.symm hzero)
    have hlog : Int.log 10 |(n : ℚ) / 10 ^ precision| + precision + 1 ≤ digits := by
      have hlt : |(n : ℚ) / 10 ^ precision| < ((10 : ℕ) : ℚ) ^ ((digits : ℤ) - precision) := by
        rw [abs_of_pos hpos, div_lt_iff₀ (by positivity), Nat.cast_ofNat,
          ← zpow_natCast (10 : ℚ) precision, ← zpow_add₀ (by norm_num), sub_add_cancel,
          zpow_natCast]
        exact_mod_cast h
      have hlog := (Int.lt_zpow_iff_log_lt (by decide) (abs_pos.mpr hzero)).mp hlt
      omega
    -- the unit divides the last digit
    obtain ⟨k, hk⟩ : ∃ k : ℕ, Int.log 10 |(n : ℚ) / 10 ^ precision| + 1 - digits =
        -((precision + k : ℕ) : ℤ) :=
      ⟨(digits - (Int.log 10 |(n : ℚ) / 10 ^ precision| + 1) - precision).toNat, by omega⟩
    have hquotient : (n : ℚ) / 10 ^ precision / 10 ^ (-((precision + k : ℕ) : ℤ)) =
        ((n * 10 ^ k : ℤ) : ℚ) := by
      rw [zpow_neg, zpow_natCast, pow_add]
      push_cast
      field_simp
    simp only [hk, hquotient, roundHalfEven_intCast]
    rw [← hquotient]
    exact div_mul_cancel₀ _ (by positivity)

/-- A number of units of the last place that a canonical decimal has. -/
def decimalUnit (n : ℕ) : ℚ := n / 10 ^ 12

theorem decimalUnit_add (m n : ℕ) : decimalUnit m + decimalUnit n = decimalUnit (m + n) := by
  unfold decimalUnit
  push_cast
  ring

/-- `canonical_decimal` of a finite `Decimal`. -/
def canonicalDecimal (value : ℚ) : Except Exc String := do
  refuse (value < 0) "value is not a finite non-negative decimal"
  refuse (¬ ((value * 10 ^ 12).den = 1 ∧ value < 10 ^ 30))
    "decimal exceeds canonical precision or range"
  pure (String.ofList (PyDecimal.text 12 (value * 10 ^ 12).num.toNat))

/-- A canonical decimal is a multiple of the last place. -/
theorem decimal?_unit {text : List Char} {q : ℚ} (h : decimal? text = some q) :
    ∃ n, q = decimalUnit n := by
  unfold decimal? at h
  simp only at h
  split_ifs at h with hwhole hpoint hpart
  · refine ⟨Nat.ofDigitChars 10 (text.takeWhile (· ≠ '.')) 0 * 10 ^ 12, ?_⟩
    rw [← Option.some.inj h, decimalUnit]
    push_cast
    exact (mul_div_cancel_right₀ _ (by norm_num)).symm
  · rw [← Option.some.inj h]
    generalize (text.dropWhile (· ≠ '.')).drop 1 = part at hpart ⊢
    obtain ⟨k, hk⟩ : ∃ k, 12 = part.length + k := ⟨12 - part.length, by omega⟩
    refine ⟨Nat.ofDigitChars 10 (text.takeWhile (· ≠ '.')) 0 * 10 ^ 12 +
      Nat.ofDigitChars 10 part 0 * 10 ^ k, ?_⟩
    have hpow : (10 : ℚ) ^ part.length * 10 ^ k ≠ 0 := by positivity
    have hk' : (10 : ℚ) ^ k ≠ 0 := by positivity
    rw [decimalUnit, hk, pow_add]
    push_cast
    rw [pow_add, add_div, mul_div_cancel_right₀ _ hpow, mul_div_mul_right _ _ hk']

/-- The digits before a decimal point. -/
structure WholePart (whole : List Char) : Prop where
  digits : ∀ c ∈ whole, c.isDigit = true
  nonempty : 1 ≤ whole.length
  length_le : whole.length ≤ 30
  lead : whole.head? ≠ some '0' ∨ whole.length = 1

theorem WholePart.ne_point {whole : List Char} (h : WholePart whole) :
    ∀ c ∈ whole, decide (c ≠ '.') = true := fun c hc =>
  decide_eq_true (Json.ne_of_isDigit (h.digits c hc) (by decide))

theorem WholePart.checks {whole : List Char} (h : WholePart whole) :
    whole.all Char.isDigit = true ∧ 1 ≤ whole.length ∧ whole.length ≤ 30 ∧
      (whole.head? ≠ some '0' ∨ whole.length = 1) :=
  ⟨List.all_eq_true.mpr h.digits, h.nonempty, h.length_le, h.lead⟩

theorem decimal?_whole {whole : List Char} (h : WholePart whole) :
    decimal? whole = some (Nat.ofDigitChars 10 whole 0 : ℚ) := by
  have hpoint : whole.contains '.' = false := by
    rw [List.contains_eq_mem, decide_eq_false_iff_not]
    intro hmem
    exact absurd (h.digits '.' hmem) (by decide)
  unfold decimal?
  rw [List.takeWhile_eq_self_iff.mpr h.ne_point]
  exact (if_pos h.checks).trans (if_pos hpoint)

theorem decimal?_point {whole part : List Char} (h : WholePart whole)
    (hdigits : ∀ c ∈ part, c.isDigit = true) (hpos : 1 ≤ part.length) (hle : part.length ≤ 12) :
    decimal? (whole ++ '.' :: part) =
      some (Nat.ofDigitChars 10 whole 0 + PyDecimal.fraction part) := by
  have htake : (whole ++ '.' :: part).takeWhile (· ≠ '.') = whole := by
    rw [List.takeWhile_append_of_pos h.ne_point]
    exact List.append_nil _
  have hdrop : (whole ++ '.' :: part).dropWhile (· ≠ '.') = '.' :: part := by
    rw [List.dropWhile_append_of_pos h.ne_point]
    rfl
  have hpoint : (whole ++ '.' :: part).contains '.' ≠ false := by simp
  unfold decimal?
  rw [htake, hdrop]
  refine (if_pos h.checks).trans ((if_neg hpoint).trans (if_pos ⟨?_, hpos, hle⟩))
  exact List.all_eq_true.mpr hdigits

theorem wholePart_toDigits {n : ℕ} (h : n < 10 ^ 30) : WholePart (Nat.toDigits 10 n) := by
  refine ⟨fun c hc => Nat.isDigit_of_mem_toDigits (by decide) (by decide) hc,
    Nat.length_toDigits_pos, (Nat.length_toDigits_le_iff (by decide) (by decide)).mpr h, ?_⟩
  rcases Json.toDigits_cons n with ⟨c, cs, heq, _⟩
  rw [heq, List.head?_cons]
  by_cases hc : c = '0'
  · rw [hc] at heq
    rw [Json.toDigits_lead_zero heq]
    exact .inr rfl
  · exact .inl fun h => hc (Option.some.inj h)

/-- The text of a value in range is read back. -/
theorem decimal?_text {n : ℕ} (h : n < 10 ^ 42) :
    decimal? (PyDecimal.text 12 n) = some (decimalUnit n) := by
  have hwhole : WholePart (Nat.toDigits 10 (n / 10 ^ 12)) := wholePart_toDigits (by omega)
  have hvalue : (n / 10 ^ 12 : ℕ) + PyDecimal.fraction
      (PyDecimal.stripZeros (fixedDigits 12 (n % 10 ^ 12))) = decimalUnit n := by
    rw [PyDecimal.fraction_stripZeros, PyDecimal.fraction, ofDigitChars_fixedDigits,
      length_fixedDigits, Nat.mod_mod, decimalUnit]
    have hsplit : ((10 ^ 12 * (n / 10 ^ 12) + n % 10 ^ 12 : ℕ) : ℚ) = n :=
      congrArg _ (Nat.div_add_mod n (10 ^ 12))
    rw [← hsplit]
    push_cast
    ring
  have hpre : PyDecimal.stripZeros (fixedDigits 12 (n % 10 ^ 12)) <+:
      fixedDigits 12 (n % 10 ^ 12) := List.rdropWhile_prefix _ _
  show decimal? (_ ++ if _ = [] then [] else '.' :: _) = _
  split_ifs with hnil
  · rw [List.append_nil, decimal?_whole hwhole, Nat.ofDigitChars_ten_toDigits, ← hvalue, hnil,
      PyDecimal.fraction, Nat.ofDigitChars_nil, Nat.cast_zero, zero_div, add_zero]
  · have hlength := hpre.length_le
    rw [length_fixedDigits] at hlength
    rw [decimal?_point hwhole (fun c hc => isDigit_fixedDigits (hpre.subset hc))
      (List.length_pos_iff.mpr hnil) hlength, Nat.ofDigitChars_ten_toDigits, hvalue]

theorem canonicalDecimal_unit {n : ℕ} (h : n < 10 ^ 42) :
    canonicalDecimal (decimalUnit n) = .ok (String.ofList (PyDecimal.text 12 n)) := by
  have hscaled : decimalUnit n * 10 ^ 12 = n := by
    unfold decimalUnit
    field_simp
  unfold canonicalDecimal
  rw [hscaled]
  refine bind_eq_ok.mpr ⟨(), refuse_eq_ok.mpr (not_lt.mpr ?_), bind_eq_ok.mpr ⟨(),
    refuse_eq_ok.mpr (not_not.mpr ⟨rfl, ?_⟩), rfl⟩⟩
  · unfold decimalUnit
    positivity
  · rw [decimalUnit, div_lt_iff₀ (by positivity)]
    exact_mod_cast h

/-! ## `aggregate_receipts` -/

/-- A row while receipts are added to it. A set is a list without repetitions. -/
structure MinerRow where
  verifiedWorkUnits : ℚ := 0
  verifiedRequests : ℕ := 0
  inputTokens : ℤ := 0
  outputTokens : ℤ := 0
  receiptIds : List String := []
  modelDigests : List String := []
  imageDigests : List String := []
  runnerDigests : List String := []

def MinerRow.add (row : MinerRow) (receipt : VerifiedReceipt) : MinerRow where
  verifiedWorkUnits := significant 64 (row.verifiedWorkUnits + receipt.workUnits)
  verifiedRequests := row.verifiedRequests + 1
  inputTokens := row.inputTokens + receipt.inputTokens
  outputTokens := row.outputTokens + receipt.outputTokens
  receiptIds := row.receiptIds ++ [receipt.receiptId]
  modelDigests := row.modelDigests.insert receipt.weightsDigest
  imageDigests := row.imageDigests.insert receipt.imageDigest
  runnerDigests := row.runnerDigests.insert receipt.runnerDigest

/-- A row that is returned. -/
structure AggregatedRow where
  verifiedWorkUnits : String
  verifiedRequests : ℕ
  inputTokens : ℤ
  outputTokens : ℤ
  receiptIds : List String
  modelDigests : List String
  imageDigests : List String
  runnerDigests : List String

def MinerRow.finish (row : MinerRow) : Except Exc AggregatedRow := do
  let units ← canonicalDecimal row.verifiedWorkUnits
  pure
    { verifiedWorkUnits := units
      verifiedRequests := row.verifiedRequests
      inputTokens := row.inputTokens
      outputTokens := row.outputTokens
      receiptIds := row.receiptIds.insertionSort (· ≤ ·)
      modelDigests := row.modelDigests.insertionSort (· ≤ ·)
      imageDigests := row.imageDigests.insertionSort (· ≤ ·)
      runnerDigests := row.runnerDigests.insertionSort (· ≤ ·) }

structure AggregateState where
  seenReceipts : List String := []
  seenRequests : List String := []
  rows : Dict String MinerRow := Dict.empty

/-- Attested receipts enter the row of their miner. -/
def addReceipt (rows : Dict String MinerRow) (receipt : VerifiedReceipt) : Dict String MinerRow :=
  if receipt.attestationVerified = true then
    rows.set receipt.minerHotkey ((rows.getD receipt.minerHotkey {}).add receipt)
  else rows

def aggregateStep (state : AggregateState) (receipt : VerifiedReceipt) :
    Except Exc AggregateState := do
  refuse (receipt.receiptId ∈ state.seenReceipts ∨ receipt.requestId ∈ state.seenRequests)
    "duplicate receipt or request cannot be aggregated"
  pure
    { seenReceipts := state.seenReceipts ++ [receipt.receiptId]
      seenRequests := state.seenRequests ++ [receipt.requestId]
      rows := addReceipt state.rows receipt }

def aggregateReceipts (receipts : List VerifiedReceipt) :
    Except Exc (Dict String AggregatedRow) := do
  let state ← receipts.foldlM aggregateStep {}
  let rows ← state.rows.items.mapM fun item => (Prod.mk item.1) <$> item.2.finish
  pure (Dict.ofList rows).sorted

/-- `Decimal(rows[hotkey]["verified_work_units"])`, where the hotkey has a row. -/
def unitsOf (rows : Dict String AggregatedRow) (hotkey : String) : ℚ :=
  (rows.get? hotkey).elim 0 fun row => (decimal? row.verifiedWorkUnits.toList).getD 0

/-- The work units that a list of receipts counts for a miner. -/
def countedUnits (receipts : List VerifiedReceipt) (hotkey : String) : ℚ :=
  ((receipts.filter fun receipt =>
    receipt.attestationVerified && receipt.minerHotkey == hotkey).map
      VerifiedReceipt.workUnits).sum

/-! ## What is counted -/

section Counting

/-- Work units as receipts state them. -/
structure BoundedUnits (receipt : VerifiedReceipt) : Prop where
  units : ∃ n, receipt.workUnits = decimalUnit n ∧ n ≤ 10 ^ 24

theorem boundedUnits_of_verified {platform : ReceiptPlatform} {context : ReceiptContext}
    {raw : Bytes} {receipt : VerifiedReceipt}
    (h : verifyReceipt platform context raw = .ok receipt) : BoundedUnits receipt := by
  rcases verifyReceipt_ok h with ⟨checks⟩
  have hwork := receiptWork_ok (receiptCore_ok checks.core_ok).work
  rcases hwork.units with ⟨text, htext⟩
  rcases decimal?_unit htext with ⟨n, hn⟩
  refine ⟨n, checks.workUnits_eq.trans hn, ?_⟩
  have hle := hwork.bounded
  rw [hn, decimalUnit, maxWorkUnitsPerReceipt, div_le_iff₀ (by positivity)] at hle
  have hcast : (n : ℚ) ≤ ((10 ^ 24 : ℕ) : ℚ) := by
    refine hle.trans ?_
    norm_num
  exact_mod_cast hcast

/-- A row holds a number of units of the last place, for a number of receipts. -/
def MinerRow.Holds (row : MinerRow) (count n : ℕ) : Prop :=
  row.verifiedWorkUnits = decimalUnit n ∧ n ≤ count * 10 ^ 24

theorem MinerRow.holds_empty (count : ℕ) : ({} : MinerRow).Holds count 0 := by
  refine ⟨?_, Nat.zero_le _⟩
  rw [decimalUnit, Nat.cast_zero, zero_div]

/-- The context rounds nothing, as long as there are not too many receipts. -/
theorem MinerRow.holds_add {row : MinerRow} {receipt : VerifiedReceipt} {count n : ℕ}
    (hrow : row.Holds count n) (hunits : BoundedUnits receipt) (hcount : count < maxBundleReceipts) :
    (row.add receipt).verifiedWorkUnits = row.verifiedWorkUnits + receipt.workUnits ∧
      ∃ m, (row.add receipt).Holds (count + 1) m := by
  rcases hrow with ⟨hvalue, hbound⟩
  rcases hunits.units with ⟨k, hk, hkle⟩
  have hsum : row.verifiedWorkUnits + receipt.workUnits = decimalUnit (n + k) := by
    rw [hvalue, hk, decimalUnit_add]
  have hcount' : count < 4096 := hcount
  have hsmall : n + k < 10 ^ 64 := by
    have : n + k ≤ (count + 1) * 10 ^ 24 := by omega
    omega
  have hexact : (row.add receipt).verifiedWorkUnits = decimalUnit (n + k) := by
    show significant 64 (row.verifiedWorkUnits + receipt.workUnits) = _
    rw [hsum]
    exact significant_eq_self hsmall
  refine ⟨hexact.trans hsum.symm, n + k, hexact, ?_⟩
  omega

theorem getD_addReceipt (rows : Dict String MinerRow) (receipt : VerifiedReceipt)
    (hotkey : String) : (addReceipt rows receipt).getD hotkey {} =
      if receipt.attestationVerified = true ∧ receipt.minerHotkey = hotkey
      then (rows.getD hotkey {}).add receipt else rows.getD hotkey {} := by
  unfold addReceipt
  by_cases hattested : receipt.attestationVerified = true
  · by_cases hhotkey : receipt.minerHotkey = hotkey
    · subst hhotkey
      rw [if_pos hattested, if_pos ⟨hattested, rfl⟩, Dict.getD, Dict.get?_set_self]
      rfl
    · rw [if_pos hattested, if_neg fun h => hhotkey h.2, Dict.getD, Dict.get?_set_ne _ _ hhotkey]
      rfl
  · rw [if_neg hattested, if_neg fun h => hattested h.1]

theorem MinerRow.Holds.mono {row : MinerRow} {count n : ℕ} (h : row.Holds count n) :
    row.Holds (count + 1) n :=
  ⟨h.1, h.2.trans (Nat.mul_le_mul_right _ (Nat.le_succ count))⟩

/-- What the loop has counted. -/
structure Counted (receipts : List VerifiedReceipt) (state : AggregateState) : Prop where
  seenReceipts : state.seenReceipts = receipts.map VerifiedReceipt.receiptId
  seenRequests : state.seenRequests = receipts.map VerifiedReceipt.requestId
  units : ∀ hotkey, (state.rows.getD hotkey {}).verifiedWorkUnits = countedUnits receipts hotkey
  holds : ∀ hotkey, ∃ n, (state.rows.getD hotkey {}).Holds receipts.length n

theorem countedUnits_snoc (receipts : List VerifiedReceipt) (receipt : VerifiedReceipt)
    (hotkey : String) : countedUnits (receipts ++ [receipt]) hotkey =
      countedUnits receipts hotkey +
        if receipt.attestationVerified = true ∧ receipt.minerHotkey = hotkey
        then receipt.workUnits else 0 := by
  unfold countedUnits
  rw [List.filter_append, List.map_append, List.sum_append, List.filter_singleton]
  congr 1
  by_cases hcond : receipt.attestationVerified = true ∧ receipt.minerHotkey = hotkey
  · simp [hcond]
  · rw [if_neg hcond]
    have hfalse : (receipt.attestationVerified && receipt.minerHotkey == hotkey) = false := by
      simpa using hcond
    rw [hfalse]
    rfl

/-- The loop over receipts with distinct ids. -/
theorem counted_loop {receipts : List VerifiedReceipt}
    (hids : (receipts.map VerifiedReceipt.receiptId).Nodup)
    (hrequests : (receipts.map VerifiedReceipt.requestId).Nodup)
    (hunits : ∀ receipt ∈ receipts, BoundedUnits receipt)
    (hlength : receipts.length ≤ maxBundleReceipts) :
    ∃ state, receipts.foldlM aggregateStep {} = .ok state ∧ Counted receipts state := by
  induction receipts using List.reverseRecOn with
  | nil => exact ⟨{}, rfl, rfl, rfl, fun _ => rfl, fun _ => ⟨0, MinerRow.holds_empty _⟩⟩
  | append_singleton receipts receipt ih =>
    rw [List.map_append, List.map_singleton, List.nodup_append] at hids hrequests
    rw [List.length_append, List.length_singleton] at hlength
    rcases ih hids.1 hrequests.1 (fun r hr => hunits r (List.mem_append_left _ hr))
      (by omega) with ⟨state, hfold, hstate⟩
    have hnew : ¬ (receipt.receiptId ∈ state.seenReceipts ∨
        receipt.requestId ∈ state.seenRequests) := by
      rw [hstate.seenReceipts, hstate.seenRequests]
      rintro (hmem | hmem)
      · exact hids.2.2 _ hmem _ (List.mem_singleton_self _) rfl
      · exact hrequests.2.2 _ hmem _ (List.mem_singleton_self _) rfl
    have hstep : (receipts ++ [receipt]).foldlM aggregateStep {} = .ok
        { seenReceipts := state.seenReceipts ++ [receipt.receiptId]
          seenRequests := state.seenRequests ++ [receipt.requestId]
          rows := addReceipt state.rows receipt } := by
      rw [List.foldlM_append, hfold]
      refine bind_eq_ok.mpr ⟨state, rfl, ?_⟩
      exact bind_eq_ok.mpr ⟨_, bind_eq_ok.mpr ⟨(), refuse_eq_ok.mpr hnew, rfl⟩, rfl⟩
    refine ⟨_, hstep, ?_⟩
    · have hreceipt := hunits receipt (List.mem_append_right _ (List.mem_singleton_self _))
      refine ⟨?_, ?_, ?_, ?_⟩
      · rw [List.map_append, hstate.seenReceipts]
        rfl
      · rw [List.map_append, hstate.seenRequests]
        rfl
      · intro hotkey
        rcases hstate.holds hotkey with ⟨n, hn⟩
        show ((addReceipt state.rows receipt).getD hotkey {}).verifiedWorkUnits = _
        rw [countedUnits_snoc, ← hstate.units hotkey, getD_addReceipt]
        split_ifs
        · exact (MinerRow.holds_add hn hreceipt (by omega)).1
        · exact (add_zero _).symm
      · intro hotkey
        rcases hstate.holds hotkey with ⟨n, hn⟩
        show ∃ m, ((addReceipt state.rows receipt).getD hotkey {}).Holds _ m
        rw [getD_addReceipt, List.length_append, List.length_singleton]
        split_ifs
        · exact (MinerRow.holds_add hn hreceipt (by omega)).2
        · exact ⟨n, hn.mono⟩

/-- A row is returned with its units. -/
theorem MinerRow.finish_ok {row : MinerRow} {count n : ℕ} (h : row.Holds count n)
    (hcount : count ≤ maxBundleReceipts) :
    ∃ aggregated, row.finish = .ok aggregated ∧
      decimal? aggregated.verifiedWorkUnits.toList = some row.verifiedWorkUnits := by
  have hcount' : count ≤ 4096 := hcount
  have hbound : n ≤ count * 10 ^ 24 := h.2
  have hsmall : n < 10 ^ 42 := by
    have hmax : n ≤ 4096 * 10 ^ 24 := hbound.trans (Nat.mul_le_mul_right _ hcount')
    omega
  have hcanonical : canonicalDecimal row.verifiedWorkUnits =
      .ok (String.ofList (PyDecimal.text 12 n)) := h.1 ▸ canonicalDecimal_unit hsmall
  refine ⟨_, bind_eq_ok.mpr ⟨_, hcanonical, rfl⟩, ?_⟩
  rw [h.1, String.toList_ofList]
  exact decimal?_text hsmall

/-- The rows that are returned hold what was counted. -/
theorem aggregateReceipts_counts {receipts : List VerifiedReceipt}
    (hids : (receipts.map VerifiedReceipt.receiptId).Nodup)
    (hrequests : (receipts.map VerifiedReceipt.requestId).Nodup)
    (hunits : ∀ receipt ∈ receipts, BoundedUnits receipt)
    (hlength : receipts.length ≤ maxBundleReceipts) :
    ∃ rows, aggregateReceipts receipts = .ok rows ∧
      ∀ hotkey, unitsOf rows hotkey = countedUnits receipts hotkey := by
  rcases counted_loop hids hrequests hunits hlength with ⟨state, hfold, hstate⟩
  have hfinish : ∀ item ∈ state.rows.items, ∃ aggregated, item.2.finish = .ok aggregated ∧
      decimal? aggregated.verifiedWorkUnits.toList = some item.2.verifiedWorkUnits := by
    rintro ⟨hotkey, row⟩ hitem
    rcases hstate.holds hotkey with ⟨n, hn⟩
    rw [Dict.getD, Dict.mem_items.mp hitem] at hn
    exact MinerRow.finish_ok hn hlength
  have hmap : ∃ rows, state.rows.items.mapM (fun item => (Prod.mk item.1) <$> item.2.finish) =
      .ok rows := by
    refine mapM_isOk fun item hitem => ?_
    rcases hfinish item hitem with ⟨aggregated, hok, _⟩
    exact ⟨(item.1, aggregated), by rw [hok]; rfl⟩
  rcases hmap with ⟨rows, hrows⟩
  have hforall := mapM_eq_ok.mp hrows
  have hkeys : (rows.map Prod.fst).Nodup := by
    have hsame : state.rows.items.map Prod.fst = rows.map Prod.fst := by
      refine map_eq_of_forall₂ (hforall.imp fun item entry hentry => ?_)
      rcases map_eq_ok.mp hentry with ⟨aggregated, _, rfl⟩
      rfl
    exact hsame ▸ state.rows.nodup
  refine ⟨_, bind_eq_ok.mpr ⟨state, hfold, bind_eq_ok.mpr ⟨rows, hrows, rfl⟩⟩, fun hotkey => ?_⟩
  rw [← hstate.units hotkey, unitsOf, Dict.get?_sorted, Dict.getD]
  cases hrow : state.rows.get? hotkey with
  | none =>
    have hnone : (Dict.ofList rows).get? hotkey = none := by
      rw [Dict.get?_eq_none, Dict.mem_keys_ofList]
      intro hmem
      rcases List.mem_map.mp hmem with ⟨entry, hentry, rfl⟩
      rcases exists_of_forall₂ hforall.flip hentry with ⟨item, hitem, hok⟩
      rcases map_eq_ok.mp hok with ⟨aggregated, _, rfl⟩
      rw [Dict.mem_items.mp hitem] at hrow
      cases hrow
    rw [hnone]
    rfl
  | some row =>
    rcases exists_of_forall₂ hforall (Dict.mem_items.mpr hrow) with ⟨entry, hentry, hok⟩
    rcases map_eq_ok.mp hok with ⟨aggregated, haggregated, rfl⟩
    rcases hfinish (hotkey, row) (Dict.mem_items.mpr hrow) with ⟨aggregated', hok', hunits'⟩
    rw [haggregated] at hok'
    cases hok'
    rw [Dict.get?_ofList_of_mem hkeys hentry, Option.elim_some, hunits']
    rfl

end Counting

/-! ## Epochs that follow one another -/

section Epochs

variable {platform : ReceiptPlatform} {start final : Option BundleCheckpoint}
variable {visits : List BundleVisit}

theorem countedUnits_append (receipts more : List VerifiedReceipt) (hotkey : String) :
    countedUnits (receipts ++ more) hotkey =
      countedUnits receipts hotkey + countedUnits more hotkey := by
  unfold countedUnits
  rw [List.filter_append, List.map_append, List.sum_append]

/-- The requests of bundles of different epochs are different. -/
theorem nodup_requests (h : ChainState platform start visits final)
    (hfree : RequestsCollisionFree platform.toPlatform (acceptedBundles visits))
    {picks : List AcceptedBundle} (hpicks : picks ⊆ acceptedBundles visits)
    (hepochs : (picks.map fun a => a.1.sourceEpoch).Nodup) :
    (picks.flatMap fun a => a.1.receipts.map VerifiedReceipt.requestId).Nodup := by
  refine List.nodup_flatMap.mpr ⟨fun a ha => ?_, ?_⟩
  · rcases h.accepted a (hpicks ha) with ⟨_, haccepted⟩
    exact haccepted.nodup
  · refine (List.pairwise_map.mp hepochs).imp_of_mem ?_
    intro a b ha hb hne
    exact requestIds_disjoint h hfree (hpicks ha) (hpicks hb) hne

/-- Each bundle is aggregated, and the sums over bundles are those over their receipts. -/
theorem aggregate_picks (h : ChainState platform start visits final)
    {picks : List AcceptedBundle} (hpicks : picks ⊆ acceptedBundles visits) :
    ∃ results, picks.mapM (fun a => aggregateReceipts a.1.receipts) = .ok results ∧
      ∀ hotkey, (results.map fun rows => unitsOf rows hotkey).sum =
        countedUnits (picks.flatMap fun a => a.1.receipts) hotkey := by
  induction picks with
  | nil => exact ⟨[], rfl, fun _ => rfl⟩
  | cons a picks ih =>
    rcases ih fun b hb => hpicks (List.mem_cons_of_mem _ hb) with ⟨results, hresults, hsum⟩
    rcases h.accepted a (hpicks (List.mem_cons_self ..)) with ⟨_, haccepted⟩
    have hunits : ∀ receipt ∈ a.1.receipts, BoundedUnits receipt := by
      intro receipt hreceipt
      rcases haccepted.verified receipt hreceipt with ⟨_, _, _, hok⟩
      exact boundedUnits_of_verified hok
    rcases aggregateReceipts_counts haccepted.receiptIds haccepted.nodup hunits
      haccepted.length_le with ⟨rows, hrows, hcounts⟩
    refine ⟨rows :: results, mapM_eq_ok.mpr (.cons hrows (mapM_eq_ok.mp hresults)), ?_⟩
    intro hotkey
    rw [List.map_cons, List.sum_cons, List.flatMap_cons, countedUnits_append, hcounts, hsum]

/-- The accepted bundles of a sequence of verifications. -/
structure ChainCountsOnce (platform : ReceiptPlatform) (start : Option BundleCheckpoint)
    (accepted : List AcceptedBundle) : Prop where
  /-- The first bundle extends the checkpoint that was there. -/
  first : ∀ checkpoint ∈ start, ∀ a ∈ accepted.head?, Extends checkpoint a
  /-- Every other one repeats the one before it, or names it and is of the next epoch. -/
  advances : accepted.IsChain fun a b =>
    (b.1.sourceEpoch = a.1.sourceEpoch ∧ b.1.bundleId = a.1.bundleId) ∨
      b.1.sourceEpoch = a.1.sourceEpoch + 1 ∧ b.1.previousBundleId = some a.1.bundleId ∧
        a.2.generatedAt.micros < b.2.generatedAt.micros
  sorted : accepted.Pairwise fun a b => a.1.sourceEpoch ≤ b.1.sourceEpoch
  /-- The times that are compared are those of the bundles. -/
  generatedAt : start = none → BundlesCollisionFree platform.toPlatform accepted →
    ∀ a ∈ accepted, GeneratedAt a.1 a.2.generatedAt
  /-- What is accepted for one epoch is one bundle. -/
  sameBundle : ∀ a ∈ accepted, ∀ b ∈ accepted, a.1.sourceEpoch = b.1.sourceEpoch →
    a.1.bundleId = b.1.bundleId ∧ (BundlesCollisionFree platform.toPlatform accepted →
      ∀ name, a.1.document.get name = b.1.document.get name)
  nodup : ∀ a ∈ accepted, (a.1.receipts.map VerifiedReceipt.requestId).Nodup
  disjoint : RequestsCollisionFree platform.toPlatform accepted → ∀ a ∈ accepted,
    ∀ b ∈ accepted, a.1.sourceEpoch ≠ b.1.sourceEpoch →
      (a.1.receipts.map VerifiedReceipt.requestId).Disjoint
        (b.1.receipts.map VerifiedReceipt.requestId)
  /-- With one bundle for each of some epochs, the aggregated units add up to those of
  receipts with distinct requests. -/
  counted : RequestsCollisionFree platform.toPlatform accepted → ∀ picks ⊆ accepted,
    (picks.map fun a => a.1.sourceEpoch).Nodup →
      (picks.flatMap fun a => a.1.receipts.map VerifiedReceipt.requestId).Nodup ∧
        ∃ results, picks.mapM (fun a => aggregateReceipts a.1.receipts) = .ok results ∧
          ∀ hotkey, (results.map fun rows => unitsOf rows hotkey).sum =
            countedUnits (picks.flatMap fun a => a.1.receipts) hotkey

/-- Bundles that are verified one after another advance epoch by epoch, and over epochs
each request counts once. -/
theorem bundle_chain_counts_once (platform : ReceiptPlatform)
    (start : Option BundleCheckpoint) (attempts : List BundleAttempt) :
    ChainCountsOnce platform start (acceptedBundles (visitsFrom platform start attempts)) := by
  rcases run_visitsFrom platform attempts start with ⟨final, hrun⟩
  have h := chainState_of_run hrun
  constructor
  · exact h.linked.first
  · refine List.IsChain.imp_of_mem_imp ?_ h.linked.chain
    intro a b ha hb hextends
    rcases h.accepted a ha with ⟨_, ha⟩
    rcases h.accepted b hb with ⟨_, hb⟩
    exact extends_cases ha hb hextends
  · exact (marks_sorted h).imp Mark.number_le
  · exact h.generatedAt
  · intro a ha b hb hepoch
    have hid := bundleId_of_epoch h ha hb hepoch
    refine ⟨hid, fun hfree name => ?_⟩
    rcases h.accepted a ha with ⟨_, haccepted⟩
    rcases h.accepted b hb with ⟨_, haccepted'⟩
    exact sameDocument hfree ha hb haccepted haccepted' hid name
  · intro a ha
    rcases h.accepted a ha with ⟨_, haccepted⟩
    exact haccepted.nodup
  · intro hfree a ha b hb hepoch
    exact requestIds_disjoint h hfree ha hb hepoch
  · intro hfree picks hpicks hepochs
    exact ⟨nodup_requests h hfree hpicks hepochs, aggregate_picks h hpicks⟩

end Epochs

end Cathedral.Thin
