import Cathedral.Lib.Bytes
import Mathlib.Data.Nat.Bitwise

/-!
# Cathedral.Lib.Bitset — bits packed into bytes

Bit `k` of a byte sequence is bit `k % 8` of its byte `k / 8`, the lowest first.
-/

namespace Cathedral.Bitset

/-- `bytes[k // 8] & (1 << (k % 8))`, as a truth value. -/
def bit (bytes : Bytes) (k : ℕ) : Bool := (bytes.getD (k / 8) 0).toNat &&& 1 <<< (k % 8) ≠ 0

/-- `bytes[k // 8] |= 1 << (k % 8)`. -/
def setBit (bytes : Bytes) (k : ℕ) : Bytes :=
  bytes.modify (k / 8) fun b => UInt8.ofNat (b.toNat ||| 1 <<< (k % 8))

theorem bit_eq_testBit (bytes : Bytes) (k : ℕ) :
    bit bytes k = (bytes.getD (k / 8) 0).toNat.testBit (k % 8) := by
  unfold bit
  rw [Nat.one_shiftLeft, Nat.and_two_pow]
  cases (bytes.getD (k / 8) 0).toNat.testBit (k % 8) <;> simp

@[simp] theorem length_setBit (bytes : Bytes) (k : ℕ) : (setBit bytes k).length = bytes.length :=
  List.length_modify ..

theorem bit_of_length_le {bytes : Bytes} {k : ℕ} (h : bytes.length ≤ k / 8) :
    bit bytes k = false := by
  rw [bit_eq_testBit, List.getD_eq_default _ _ h]
  exact Nat.zero_testBit _

@[simp] theorem bit_zeros (n k : ℕ) : bit (List.replicate n 0) k = false := by
  have hzero : (List.replicate n (0 : UInt8)).getD (k / 8) 0 = 0 := by
    by_cases h : k / 8 < n
    · rw [List.getD_replicate _ h]
    · exact List.getD_eq_default _ _ (by rw [List.length_replicate]; omega)
  rw [bit_eq_testBit, hzero]
  exact Nat.zero_testBit _

/-- Setting a bit sets it and no other. -/
theorem bit_setBit {bytes : Bytes} {k : ℕ} (h : k / 8 < bytes.length) (j : ℕ) :
    bit (setBit bytes k) j = (bit bytes j || decide (k = j)) := by
  rw [bit_eq_testBit, bit_eq_testBit, setBit, List.getD_eq_getElem?_getD,
    List.getD_eq_getElem?_getD, List.getElem?_modify]
  by_cases hbyte : k / 8 = j / 8
  · have hj : j / 8 < bytes.length := by omega
    have hor : (bytes[j / 8].toNat ||| 1 <<< (k % 8)) < 2 ^ 8 := by
      refine Nat.or_lt_two_pow (bytes[j / 8]).toNat_lt ?_
      rw [Nat.one_shiftLeft]
      exact Nat.pow_lt_pow_right (by decide) (by omega)
    rw [List.getElem?_eq_getElem hj, Option.map_eq_map, Option.map_some, if_pos hbyte,
      Option.getD_some, Option.getD_some, UInt8.toNat_ofNat', Nat.mod_eq_of_lt hor, Nat.testBit_or,
      Nat.one_shiftLeft, Nat.testBit_two_pow]
    congr 1
    rw [decide_eq_decide]
    omega
  · have hne : k ≠ j := by
      rintro rfl
      exact hbyte rfl
    simp only [if_neg hbyte, decide_eq_false hne, Bool.or_false, Option.map_eq_map, Option.map_id']

/-- A byte sequence is its length and its bits. -/
theorem bitset_ext {xs ys : Bytes} (hlength : xs.length = ys.length)
    (h : ∀ k, bit xs k = bit ys k) : xs = ys := by
  refine List.ext_getElem hlength fun i hx hy => UInt8.toNat_inj.mp ?_
  refine Nat.eq_of_testBit_eq fun j => ?_
  by_cases hj : j < 8
  · have hbit := h (8 * i + j)
    have hdiv : (8 * i + j) / 8 = i := by omega
    have hmod : (8 * i + j) % 8 = j := by omega
    rw [bit_eq_testBit, bit_eq_testBit, hdiv, hmod, List.getD_eq_getElem _ _ hx,
      List.getD_eq_getElem _ _ hy] at hbit
    exact hbit
  · -- a byte has eight bits
    have hlow : ∀ b : UInt8, b.toNat.testBit j = false := fun b =>
      Nat.testBit_lt_two_pow (b.toNat_lt.trans_le (Nat.pow_le_pow_right (by decide) (by omega)))
    rw [hlow, hlow]

/-- What fills the last byte up is zero exactly if all bits from `n` on are. -/
theorem bits_zero_from {bytes : Bytes} {n : ℕ} (hlength : bytes.length = (n + 7) / 8) :
    (∀ k, n ≤ k → bit bytes k = false) ↔
      (n % 8 ≠ 0 → ∀ last ∈ bytes.getLast?, last.toNat >>> (n % 8) = 0) := by
  constructor
  · intro h hrest last hlast
    rw [List.getLast?_eq_getElem?, Option.mem_def, List.getElem?_eq_some_iff] at hlast
    obtain ⟨hi, hlast⟩ := hlast
    refine Nat.eq_of_testBit_eq fun j => ?_
    rw [Nat.testBit_shiftRight, Nat.zero_testBit]
    by_cases hj : n % 8 + j < 8
    · have hbit := h (8 * (bytes.length - 1) + (n % 8 + j)) (by omega)
      have hdiv : (8 * (bytes.length - 1) + (n % 8 + j)) / 8 = bytes.length - 1 := by omega
      have hmod : (8 * (bytes.length - 1) + (n % 8 + j)) % 8 = n % 8 + j := by omega
      rw [bit_eq_testBit, hdiv, hmod, List.getD_eq_getElem _ _ hi, hlast] at hbit
      exact hbit
    · exact Nat.testBit_lt_two_pow
        (last.toNat_lt.trans_le (Nat.pow_le_pow_right (by decide) (by omega)))
  · intro h k hk
    by_cases hi : k / 8 < bytes.length
    · -- only the last byte has bits from `n` on
      have hrest : n % 8 ≠ 0 := by omega
      have hbyte : k / 8 = bytes.length - 1 := by omega
      have hlast : bytes[k / 8] ∈ bytes.getLast? := by
        rw [List.getLast?_eq_getElem?, ← hbyte, List.getElem?_eq_getElem hi]
        rfl
      have hzero := h hrest _ hlast
      rw [bit_eq_testBit, List.getD_eq_getElem _ _ hi]
      have htest : (bytes[k / 8].toNat >>> (n % 8)).testBit (k % 8 - n % 8) = false := by
        rw [hzero, Nat.zero_testBit]
      rw [Nat.testBit_shiftRight, show n % 8 + (k % 8 - n % 8) = k % 8 by omega] at htest
      exact htest
    · exact bit_of_length_le (by omega)

end Cathedral.Bitset
