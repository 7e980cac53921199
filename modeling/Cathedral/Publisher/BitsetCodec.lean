import Cathedral.Thin.Assignment

/-!
# Cathedral.Publisher.BitsetCodec — assignments packed into bytes

`encode_bitset_assignment` and `decode_bitset_assignment` of `v2_pipeline.py`, and the intake
check `decode_assignment_b64` of `v2_bitset_submit.py`. The intake refuses a byte string with a
bit set above the last variable; the decoder, which the workers also use without the intake, does
not look at these bits.
-/

namespace Cathedral.Publisher.BitsetCodec

open Cathedral.Bitset Thin

/-! ## The three pieces -/

/-- The loop of `encode_bitset_assignment`: the variables seen and the bytes. -/
def encodeLoop (nVars : ℕ) : List ℤ → Finset ℕ → Bytes → Option (Finset ℕ × Bytes)
  | [], seen, out => some (seen, out)
  | lit :: rest, seen, out =>
    let v := lit.natAbs
    if v < 1 ∨ nVars < v ∨ v ∈ seen then none
    else encodeLoop nVars rest (insert v seen) (if 0 < lit then setBit out (v - 1) else out)

/-- `encode_bitset_assignment`; `none` where it raises. -/
def encodeBitsetAssignment (assignment : List ℤ) : Option Bytes :=
  let nVars := assignment.length
  (encodeLoop nVars assignment ∅ (List.replicate ((nVars + 7) / 8) 0)).bind fun (seen, out) =>
    if seen.card ≠ nVars then none else some out

/-- `(data[k // 8] >> (k % 8)) & 1`. -/
def shiftedBit (data : Bytes) (k : ℕ) : ℕ := (data.getD (k / 8) 0).toNat >>> (k % 8) &&& 1

/-- `decode_bitset_assignment`; `none` where it raises `bitset_size_mismatch`. -/
def decodeBitsetAssignment (data : Bytes) (nVars : ℕ) : Option (List ℤ) :=
  let expected := (nVars + 7) / 8
  if data.length ≠ expected then none
  else some ((List.range' 1 nVars).map fun i : ℕ =>
    if shiftedBit data (i - 1) ≠ 0 then (i : ℤ) else -i)

/-- The reasons of the intake check. -/
inductive Refusal where
  | invalidAssignmentB64
  | bitsetSizeMismatch
  | bitsetTrailingBitsNonzero
deriving DecidableEq, Repr

def decodeAssignmentB64 (assignmentB64 : PyStr) (nVars : ℕ) : Except Refusal (Bytes × List ℤ) :=
  match b64decode assignmentB64 with
  | none => .error .invalidAssignmentB64
  | some raw =>
    let expected := (nVars + 7) / 8
    if raw.length ≠ expected then .error .bitsetSizeMismatch
    else
      let extraBits := expected * 8 - nVars
      let mask := (1 <<< extraBits - 1) <<< (8 - extraBits)
      if 0 < extraBits ∧ ∃ last ∈ raw.getLast?, last.toNat &&& mask ≠ 0 then
        .error .bitsetTrailingBitsNonzero
      else
        match decodeBitsetAssignment raw nVars with
        | none => .error .bitsetSizeMismatch
        | some assignment => .ok (raw, assignment)

/-- No bit is set above the last variable. -/
def PaddingZero (nVars : ℕ) (data : Bytes) : Prop := ∀ k, nVars ≤ k → bit data k = false

/-! ## Encoding -/

variable {n : ℕ} {data raw : Bytes} {a lits : List ℤ}

theorem encodeLoop_spec : ∀ {lits : List ℤ} {seen : Finset ℕ} {out : Bytes},
    (∀ lit ∈ lits, 1 ≤ lit.natAbs ∧ lit.natAbs ≤ n ∧ lit.natAbs ∉ seen) →
    (lits.map Int.natAbs).Nodup → out.length = (n + 7) / 8 →
    ∃ out', encodeLoop n lits seen out = some (seen ∪ (lits.map Int.natAbs).toFinset, out') ∧
      out'.length = (n + 7) / 8 ∧
      ∀ k, bit out' k = (bit out k || decide (((k + 1 : ℕ) : ℤ) ∈ lits))
  | [], seen, out, _, _, hout => ⟨out, by simp [encodeLoop], hout, fun k => by simp⟩
  | lit :: rest, seen, out, hlits, hnodup, hout => by
    obtain ⟨⟨hpos, hle, hnew⟩, hrest⟩ := List.forall_mem_cons.mp hlits
    rw [List.map_cons, List.nodup_cons] at hnodup
    obtain ⟨hfirst, hnodup⟩ := hnodup
    have hrefuse : ¬(lit.natAbs < 1 ∨ n < lit.natAbs ∨ lit.natAbs ∈ seen) := by
      rintro (hlow | hhigh | hseen)
      · omega
      · omega
      · exact hnew hseen
    have hnext : ∀ l ∈ rest, 1 ≤ l.natAbs ∧ l.natAbs ≤ n ∧ l.natAbs ∉ insert lit.natAbs seen := by
      intro l hl
      obtain ⟨hlow, hhigh, hseen⟩ := hrest l hl
      refine ⟨hlow, hhigh, fun hmem => ?_⟩
      rcases Finset.mem_insert.mp hmem with heq | hmem
      · exact hfirst (heq ▸ List.mem_map_of_mem hl)
      · exact hseen hmem
    -- the byte of the variable is there
    have hbyte : (lit.natAbs - 1) / 8 < out.length := by
      rw [hout]
      omega
    have hlength : (if 0 < lit then setBit out (lit.natAbs - 1) else out).length =
        (n + 7) / 8 := by
      split_ifs
      · rw [length_setBit, hout]
      · exact hout
    obtain ⟨out', hloop, hout', hbits⟩ := encodeLoop_spec hnext hnodup hlength
    refine ⟨out', ?_, hout', fun k => ?_⟩
    · rw [encodeLoop, if_neg hrefuse, hloop, List.map_cons, List.toFinset_cons,
        Finset.insert_union, Finset.union_insert]
    · rw [hbits k]
      have hset : bit (if 0 < lit then setBit out (lit.natAbs - 1) else out) k =
          (bit out k || decide (((k + 1 : ℕ) : ℤ) = lit)) := by
        split_ifs with hsign
        · rw [bit_setBit hbyte]
          congr 1
          rw [decide_eq_decide]
          omega
        · have hne : ((k + 1 : ℕ) : ℤ) ≠ lit := by omega
          rw [decide_eq_false hne, Bool.or_false]
      rw [hset, Bool.or_assoc, ← Bool.decide_or]
      simp only [List.mem_cons]

/-- A complete assignment is encoded: bit `k` says that variable `k + 1` is true. -/
theorem encode_complete (h : Complete a n) : ∃ raw, encodeBitsetAssignment a = some raw ∧
    raw.length = (n + 7) / 8 ∧ ∀ k, bit raw k = decide (((k + 1 : ℕ) : ℤ) ∈ a) := by
  have hlits : ∀ lit ∈ a, 1 ≤ lit.natAbs ∧ lit.natAbs ≤ n ∧ lit.natAbs ∉ (∅ : Finset ℕ) := by
    intro lit hlit
    obtain ⟨hpos, hle⟩ := h.bounds hlit
    exact ⟨hpos, hle, Finset.notMem_empty _⟩
  obtain ⟨raw, hloop, hlength, hbits⟩ :=
    encodeLoop_spec hlits h.nodup_natAbs (List.length_replicate (n := (n + 7) / 8) (a := 0))
  refine ⟨raw, ?_, hlength, fun k => ?_⟩
  · have hcard : (∅ ∪ (a.map Int.natAbs).toFinset).card = n := by
      rw [Finset.empty_union, List.toFinset_card_of_nodup h.nodup_natAbs, List.length_map, h.length]
    unfold encodeBitsetAssignment
    simp only [h.length, hloop, Option.bind_some, hcard, ne_eq, not_true_eq_false, if_false]
  · rw [hbits k, bit_zeros, Bool.false_or]

/-! ## Decoding -/

theorem shiftedBit_ne_zero (data : Bytes) (k : ℕ) : shiftedBit data k ≠ 0 ↔ bit data k = true := by
  rw [bit_eq_testBit, shiftedBit, Nat.testBit, bne_iff_ne]
  rw [Nat.land_comm]

theorem decode_eq (hlength : data.length = (n + 7) / 8) :
    decodeBitsetAssignment data n = some (literals data n) := by
  unfold decodeBitsetAssignment
  rw [if_neg (not_not.mpr hlength)]
  refine congrArg some (List.map_congr_left fun i _ => ?_)
  rw [literalOf]
  exact if_congr (shiftedBit_ne_zero data (i - 1)) rfl rfl

theorem decode_isSome : (decodeBitsetAssignment data n).isSome ↔ data.length = (n + 7) / 8 := by
  constructor
  · intro h
    by_contra hne
    rw [decodeBitsetAssignment, if_pos hne] at h
    cases h
  · intro h
    rw [decode_eq h]
    rfl

/-- Every complete assignment comes back, in the order of the variables. -/
theorem decode_encode_bitset (h : Complete a n) : ∃ raw b, encodeBitsetAssignment a = some raw ∧
    decodeBitsetAssignment raw n = some b ∧ b.map Int.natAbs = List.range' 1 n ∧ b.Perm a := by
  obtain ⟨raw, hencode, hlength, hbits⟩ := encode_complete h
  refine ⟨raw, literals raw n, hencode, decode_eq hlength, natAbs_literals raw n, ?_⟩
  refine (List.perm_ext_iff_of_nodup (complete_literals raw n).nodup h.nodup).mpr ?_
  refine mem_congr_of_positive (complete_literals raw n) h fun k => ?_
  rw [mem_literals, hbits k, decide_eq_true_iff]
  refine and_iff_right_of_imp fun hmem => ?_
  have hle := (h.bounds hmem).2
  omega

/-- What is decoded re-encodes to the same bytes exactly if their padding is zero. -/
theorem encode_decode_bitset (hlength : data.length = (n + 7) / 8) :
    encodeBitsetAssignment (literals data n) = some data ↔ PaddingZero n data := by
  obtain ⟨raw, hencode, hraw, hbits⟩ := encode_complete (complete_literals data n)
  rw [hencode, Option.some_inj]
  constructor
  · rintro rfl k hk
    rw [hbits k, decide_eq_false_iff_not, mem_literals]
    rintro ⟨hlt, -⟩
    omega
  · intro hzero
    refine bitset_ext (hraw.trans hlength.symm) fun k => ?_
    rw [hbits k, Bool.eq_iff_iff, decide_eq_true_iff, mem_literals]
    refine and_iff_right_of_imp fun htrue => ?_
    by_contra hlt
    rw [hzero k (by omega)] at htrue
    cases htrue

/-! ## The intake check -/

/-- The mask covers the bits above the last variable. -/
theorem and_mask (b : UInt8) {r : ℕ} (hr : r < 8) :
    b.toNat &&& (1 <<< (8 - r) - 1) <<< r = 0 ↔ b.toNat >>> r = 0 := by
  have hmask : ∀ j, (b.toNat &&& (1 <<< (8 - r) - 1) <<< r).testBit j =
      (b.toNat.testBit j && decide (r ≤ j)) := by
    intro j
    rw [Nat.testBit_and, Nat.testBit_shiftLeft, Nat.one_shiftLeft, Nat.testBit_two_pow_sub_one]
    by_cases hj : j < 8
    · by_cases hrj : r ≤ j
      · have hlow : j - r < 8 - r := by omega
        simp [hrj, hlow]
      · simp [hrj]
    · -- a byte has eight bits
      have hhigh : b.toNat.testBit j = false := Nat.testBit_lt_two_pow
        (b.toNat_lt.trans_le (Nat.pow_le_pow_right (by decide) (by omega)))
      simp [hhigh]
  constructor
  · intro h
    refine Nat.eq_of_testBit_eq fun j => ?_
    have hbit := hmask (r + j)
    rw [h, Nat.zero_testBit, decide_eq_true (Nat.le_add_right r j), Bool.and_true] at hbit
    rw [Nat.testBit_shiftRight, ← hbit, Nat.zero_testBit]
  · intro h
    refine Nat.eq_of_testBit_eq fun j => ?_
    rw [hmask j, Nat.zero_testBit]
    by_cases hrj : r ≤ j
    · have hbit : (b.toNat >>> r).testBit (j - r) = false := by rw [h, Nat.zero_testBit]
      rw [Nat.testBit_shiftRight, Nat.add_sub_cancel' hrj] at hbit
      rw [hbit, Bool.false_and]
    · rw [decide_eq_false hrj, Bool.and_false]

/-- The intake check of the last byte is that of the padding. -/
theorem trailing_iff (hlength : raw.length = (n + 7) / 8) :
    (0 < (n + 7) / 8 * 8 - n ∧ ∃ last ∈ raw.getLast?, last.toNat &&&
      (1 <<< ((n + 7) / 8 * 8 - n) - 1) <<< (8 - ((n + 7) / 8 * 8 - n)) ≠ 0) ↔
        ¬PaddingZero n raw := by
  rw [PaddingZero, bits_zero_from hlength]
  by_cases hr : n % 8 = 0
  · have hextra : (n + 7) / 8 * 8 - n = 0 := by omega
    rw [hextra]
    simp [hr]
  · have hextra : (n + 7) / 8 * 8 - n = 8 - n % 8 := by omega
    have hback : 8 - (8 - n % 8) = n % 8 := by omega
    have hpos : 0 < 8 - n % 8 := by omega
    rw [hextra, hback]
    simp only [hpos, true_and, ne_eq, hr, not_false_eq_true, true_implies, not_forall]
    refine exists_congr fun last => ?_
    rw [exists_prop, not_iff_not.mpr (and_mask last (Nat.mod_lt n (by decide)))]

/-- What the intake admits: the decoded bytes have the right length and no padding. -/
theorem intake_isOk {text : PyStr} : (∃ admitted, decodeAssignmentB64 text n = .ok admitted) ↔
    ∃ raw, b64decode text = some raw ∧ raw.length = (n + 7) / 8 ∧ PaddingZero n raw := by
  unfold decodeAssignmentB64
  cases hraw : b64decode text with
  | none => simp
  | some raw =>
    simp only [Option.some_inj, exists_eq_left']
    by_cases hlength : raw.length = (n + 7) / 8
    · rw [if_neg (not_not.mpr hlength)]
      by_cases hzero : PaddingZero n raw
      · rw [if_neg (mt (trailing_iff hlength).mp (not_not.mpr hzero)), decode_eq hlength]
        simp [hlength, hzero]
      · rw [if_pos ((trailing_iff hlength).mpr hzero)]
        simp [hzero]
    · rw [if_pos hlength]
      simp [hlength]

/-- What is claimed of a text: what the decoder accepts of its bytes has the right length and no
padding and re-encodes to itself, and the intake admits it if and only if the decoder does. -/
structure Meets (n : ℕ) (text : PyStr) : Prop where
  canonical : ∀ data b, b64decode text = some data → decodeBitsetAssignment data n = some b →
    data.length = (n + 7) / 8 ∧ PaddingZero n data ∧ encodeBitsetAssignment b = some data
  admitted : (∃ admitted, decodeAssignmentB64 text n = .ok admitted) ↔
    ∃ data, b64decode text = some data ∧ (decodeBitsetAssignment data n).isSome

theorem meets_iff (n : ℕ) (text : PyStr) : Meets n text ↔
    ∀ data, b64decode text = some data → data.length = (n + 7) / 8 → PaddingZero n data := by
  constructor
  · intro h data hdata hlength
    exact (h.canonical data _ hdata (decode_eq hlength)).2.1
  · intro h
    constructor
    · intro data b hdata hdecode
      have hlength : data.length = (n + 7) / 8 := decode_isSome.mp (hdecode ▸ rfl)
      have hzero := h data hdata hlength
      rw [decode_eq hlength] at hdecode
      cases hdecode
      exact ⟨hlength, hzero, (encode_decode_bitset hlength).mpr hzero⟩
    · rw [intake_isOk]
      refine exists_congr fun data => and_congr_right fun hdata => ?_
      rw [decode_isSome]
      exact and_iff_left_of_imp (h data hdata)

/-- For every number of variables: a complete assignment comes back from its encoding in the order
of the variables, what the intake admits is never refused by the decoder, and the rest of the claim
holds of a text exactly if its bytes, where they have the right length, have zero padding. -/
theorem bitset_intake (n : ℕ) :
    (∀ a, Complete a n → ∃ raw b, encodeBitsetAssignment a = some raw ∧
      decodeBitsetAssignment raw n = some b ∧ b.map Int.natAbs = List.range' 1 n ∧ b.Perm a) ∧
    (∀ text raw b, decodeAssignmentB64 text n = .ok (raw, b) →
      decodeBitsetAssignment raw n = some b) ∧
    ∀ text, Meets n text ↔
      ∀ data, b64decode text = some data → data.length = (n + 7) / 8 → PaddingZero n data := by
  refine ⟨fun a => decode_encode_bitset, ?_, meets_iff n⟩
  intro text raw b h
  unfold decodeAssignmentB64 at h
  split at h
  · cases h
  · dsimp only at h
    split_ifs at h
    split at h
    · cases h
    · next hdecode =>
        cases h
        exact hdecode

/-- Three variables: an assignment out of order, and a text whose byte has no padding. -/
theorem bitset_intake_three :
    (∃ raw b, encodeBitsetAssignment [-2, 1, 3] = some raw ∧
      decodeBitsetAssignment raw 3 = some b ∧ b.map Int.natAbs = List.range' 1 3 ∧
      b.Perm [-2, 1, 3]) ∧
    decodeBitsetAssignment [5] 3 = some [1, -2, 3] ∧ Meets 3 (PyStr.ofString "AA=") := by
  obtain ⟨hround, hadmitted, hmeets⟩ := bitset_intake 3
  have hcomplete : Complete [-2, 1, 3] 3 := by
    unfold Complete
    decide
  refine ⟨hround [-2, 1, 3] hcomplete, ?_, (hmeets _).mpr fun data hdata => ?_⟩
  · exact hadmitted (PyStr.ofString "BQ==") [5] [1, -2, 3] (by decide)
  · -- the text is no base64 at all
    have hnone : b64decode (PyStr.ofString "AA=") = none := by decide
    rw [hnone] at hdata
    cases hdata

/-- One variable and a byte of ones: the decoder accepts it, the intake does not. -/
theorem padding_accepted : ¬ ∀ n text, Meets n text := by
  intro h
  have hdata : b64decode (PyStr.ofString "/w==") = some [0xFF] := by decide
  have hzero := (h 1 (PyStr.ofString "/w==")).canonical [0xFF] [1] hdata (by decide)
  have hbit : bit [0xFF] 1 = true := by decide
  rw [hzero.2.1 1 le_rfl] at hbit
  cases hbit

end Cathedral.Publisher.BitsetCodec
