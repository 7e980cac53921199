import Mathlib.Data.BitVec
import Mathlib.Data.Nat.Bitwise
import Mathlib.Order.Interval.Set.Infinite
import Mathlib.Order.Interval.Finset.Nat
import Mathlib.RingTheory.Coprime.Lemmas
import Mathlib.Tactic.Positivity

/-!
# Cathedral.Lib.Mixing — invertible steps on the words of a width

A xor with a proper right shift of itself and a product with an odd number are injective on
the numbers below `2 ^ w`. What is injective there is a bijection, and so meets every residue
modulo a smaller power of two equally often.
-/

namespace Cathedral.Mixing

variable {w : ℕ}

/-! ## Steps -/

/-- `x ^ (x >> r)`. -/
def xorShift (r x : ℕ) : ℕ := x ^^^ (x >>> r)

theorem xorShift_lt {r x : ℕ} (h : x < 2 ^ w) : xorShift r x < 2 ^ w :=
  Nat.xor_lt_two_pow h ((Nat.shiftRight_le x r).trans_lt h)

theorem xorShift_injective {r : ℕ} (hr : 0 < r) : Function.Injective (xorShift r) := by
  intro x y h
  have hshift : x ^^^ y = (x ^^^ y) >>> r := by
    apply Nat.xor_eq_zero_iff.mp
    rw [Nat.shiftRight_xor_distrib]
    calc x ^^^ y ^^^ (x >>> r ^^^ y >>> r)
        = xorShift r x ^^^ xorShift r y := by simp only [xorShift]; ac_rfl
      _ = 0 := by rw [h, Nat.xor_self]
  -- a number that its own proper shift leaves alone is zero
  apply Nat.xor_eq_zero_iff.mp
  by_contra hne
  have hlt := Nat.div_lt_self (Nat.pos_of_ne_zero hne) (Nat.one_lt_two_pow hr.ne')
  rw [Nat.shiftRight_eq_div_pow] at hshift
  omega

/-- `n & (2 ** w - 1)` of a Python integer. -/
def low (w : ℕ) (n : ℤ) : ℕ := (n % 2 ^ w).toNat

theorem low_cast (n : ℤ) : (low w n : ℤ) = n % 2 ^ w :=
  Int.toNat_of_nonneg (Int.emod_nonneg _ (by positivity))

theorem low_lt (n : ℤ) : low w n < 2 ^ w := by
  have hlt := Int.emod_lt_of_pos n (show (0 : ℤ) < 2 ^ w by positivity)
  rw [← low_cast] at hlt
  exact_mod_cast hlt

theorem low_of_lt {n : ℕ} (h : n < 2 ^ w) : low w n = n := by
  rw [low, Int.emod_eq_of_lt (by omega) (by exact_mod_cast h), Int.toNat_natCast]

theorem low_eq_iff {a b : ℤ} : low w a = low w b ↔ (2 ^ w : ℤ) ∣ a - b := by
  rw [← Int.natCast_inj, low_cast, low_cast]
  rw [Int.emod_eq_emod_iff_emod_sub_eq_zero, Int.dvd_iff_emod_eq_zero]

theorem isCoprime_two_pow {m : ℤ} (hm : m % 2 = 1) (k : ℕ) : IsCoprime (2 ^ k : ℤ) m :=
  IsCoprime.pow_left ⟨-(m / 2), 1, by omega⟩

theorem low_mul_injOn {m : ℤ} (hm : m % 2 = 1) :
    Set.InjOn (fun x : ℕ => low w (x * m)) (Set.Iio (2 ^ w)) := by
  intro x hx y hy h
  have hdvd : (2 ^ w : ℤ) ∣ (x - y : ℤ) * m := by
    rw [sub_mul]
    exact low_eq_iff.mp h
  have hlow := low_eq_iff.mpr ((isCoprime_two_pow hm w).dvd_of_dvd_mul_right hdvd)
  rwa [low_of_lt hx, low_of_lt hy] at hlow

/-! ## Residues -/

theorem bijOn_of_injOn {f : ℕ → ℕ} (hmaps : ∀ x < 2 ^ w, f x < 2 ^ w)
    (hinj : Set.InjOn f (Set.Iio (2 ^ w))) : Set.BijOn f (Set.Iio (2 ^ w)) (Set.Iio (2 ^ w)) :=
  ((Set.finite_Iio _).injOn_iff_bijOn_of_mapsTo fun x hx => hmaps x hx).mp hinj

/-- The numbers below `2 ^ w` with a given residue. -/
theorem card_residue {k t : ℕ} (hk : k ≤ w) (ht : t < 2 ^ k) :
    ((Finset.range (2 ^ w)).filter fun y => y % 2 ^ k = t).card = 2 ^ (w - k) := by
  have hsplit : 2 ^ w = 2 ^ (w - k) * 2 ^ k := by rw [← Nat.pow_add, Nat.sub_add_cancel hk]
  have himage : (Finset.range (2 ^ w)).filter (fun y => y % 2 ^ k = t) =
      (Finset.range (2 ^ (w - k))).image fun j => j * 2 ^ k + t := by
    ext y
    simp only [Finset.mem_filter, Finset.mem_range, Finset.mem_image]
    constructor
    · rintro ⟨hy, rfl⟩
      exact ⟨y / 2 ^ k, Nat.div_lt_of_lt_mul (by rwa [mul_comm, ← hsplit]), Nat.div_add_mod' y _⟩
    · rintro ⟨j, hj, rfl⟩
      refine ⟨?_, by rw [Nat.mul_add_mod', Nat.mod_eq_of_lt ht]⟩
      have hle := Nat.mul_le_mul_right (2 ^ k) (Nat.succ_le_of_lt hj)
      rw [Nat.succ_mul] at hle
      omega
  rw [himage, Finset.card_image_of_injective, Finset.card_range]
  intro i j hij
  exact Nat.eq_of_mul_eq_mul_right (Nat.two_pow_pos k) (Nat.add_right_cancel hij)

theorem card_residue_of_bijOn {f : ℕ → ℕ} (hf : Set.BijOn f (Set.Iio (2 ^ w)) (Set.Iio (2 ^ w)))
    {k t : ℕ} (hk : k ≤ w) (ht : t < 2 ^ k) :
    ((Finset.range (2 ^ w)).filter fun x => f x % 2 ^ k = t).card = 2 ^ (w - k) := by
  rw [← card_residue hk ht]
  refine Finset.card_nbij f (fun x hx => ?_) (fun x hx y hy h => ?_) fun y hy => ?_
  · have hmem := Finset.mem_filter.mp hx
    exact Finset.mem_filter.mpr
      ⟨Finset.mem_range.mpr (hf.mapsTo (Finset.mem_range.mp hmem.1)), hmem.2⟩
  · have hmemx := Finset.mem_range.mp (Finset.mem_filter.mp (Finset.mem_coe.mp hx)).1
    have hmemy := Finset.mem_range.mp (Finset.mem_filter.mp (Finset.mem_coe.mp hy)).1
    exact hf.injOn hmemx hmemy h
  · have hmem := Finset.mem_filter.mp (Finset.mem_coe.mp hy)
    obtain ⟨x, hx, rfl⟩ := hf.surjOn (Finset.mem_range.mp hmem.1)
    exact ⟨x, Finset.mem_coe.mpr (Finset.mem_filter.mpr ⟨Finset.mem_range.mpr hx, hmem.2⟩), rfl⟩

/-! ## Words -/

theorem toNat_ofInt (n : ℤ) : (BitVec.ofInt w n).toNat = low w n := by
  rw [BitVec.toNat_ofInt, low]
  norm_cast

theorem ofInt_eq_iff {a b : ℤ} : BitVec.ofInt w a = BitVec.ofInt w b ↔ (2 ^ w : ℤ) ∣ a - b := by
  rw [← low_eq_iff, ← toNat_ofInt, ← toNat_ofInt, BitVec.toNat_inj]

theorem ofInt_toNat (x : BitVec w) : BitVec.ofInt w x.toNat = x := by
  apply BitVec.eq_of_toNat_eq
  rw [toNat_ofInt, low_of_lt x.isLt]

theorem toNat_mul_ofInt (x : BitVec w) (m : ℤ) :
    (x * BitVec.ofInt w m).toNat = low w (x.toNat * m) := by
  conv_lhs => rw [← ofInt_toNat x]
  rw [← BitVec.ofInt_mul, toNat_ofInt]

theorem toNat_xorShift (x : BitVec w) (r : ℕ) : (x ^^^ (x >>> r)).toNat = xorShift r x.toNat := by
  rw [BitVec.toNat_xor, BitVec.toNat_ushiftRight, xorShift]

end Cathedral.Mixing
