import Cathedral.Lib.Bytes
import Cathedral.Lib.PyStr

/-!
# Cathedral.Lib.Hex — bytes as hexadecimal digits

`bytes.hex` and `bytes.fromhex`: the reader also takes upper case, and skips ASCII blanks
between the pairs of digits. `encode_decode` is the round trip from the digits that the
writer uses; many other texts stand for the same bytes.
-/

namespace Cathedral.Hex

/-- A digit in lower case. -/
def digit (n : ℕ) : CodePoint := if n < 10 then Fin.ofNat _ (48 + n) else Fin.ofNat _ (87 + n)

/-- `bytes.hex()`. -/
def encode (bytes : Bytes) : PyStr :=
  bytes.flatMap fun b => [digit (b.toNat / 16), digit (b.toNat % 16)]

/-- A digit that `bytes.fromhex` takes. -/
def value? (p : CodePoint) : Option ℕ :=
  if 48 ≤ p.val ∧ p.val ≤ 57 then some (p.val - 48)
  else if 97 ≤ p.val ∧ p.val ≤ 102 then some (p.val - 87)
  else if 65 ≤ p.val ∧ p.val ≤ 70 then some (p.val - 55)
  else none

/-- A blank that `bytes.fromhex` skips. -/
def isSpace (p : CodePoint) : Bool := p.val = 32 || (9 ≤ p.val && p.val ≤ 13)

/-- `bytes.fromhex`; `none` where it raises `ValueError`. -/
def decode : PyStr → Option Bytes
  | [] => some []
  | [a] => if isSpace a then some [] else none
  | a :: b :: rest =>
    if isSpace a then decode (b :: rest)
    else do
      let high ← value? a
      let low ← value? b
      let bytes ← decode rest
      some (UInt8.ofNat (16 * high + low) :: bytes)

/-- A digit that `bytes.hex` writes. -/
def IsLower (p : CodePoint) : Prop := (48 ≤ p.val ∧ p.val ≤ 57) ∨ (97 ≤ p.val ∧ p.val ≤ 102)

instance (p : CodePoint) : Decidable (IsLower p) := inferInstanceAs (Decidable (_ ∨ _))

@[simp] theorem encode_nil : encode [] = [] := rfl

theorem encode_cons (b : UInt8) (bytes : Bytes) :
    encode (b :: bytes) = digit (b.toNat / 16) :: digit (b.toNat % 16) :: encode bytes := rfl

@[simp] theorem length_encode (bytes : Bytes) : (encode bytes).length = 2 * bytes.length := by
  induction bytes with
  | nil => rfl
  | cons b bytes ih =>
    rw [encode_cons, List.length_cons, List.length_cons, List.length_cons, ih]
    omega

theorem value?_digit : ∀ n < 16, value? (digit n) = some n := by decide

theorem isSpace_digit : ∀ n < 16, isSpace (digit n) = false := by decide

theorem isLower_digit : ∀ n < 16, IsLower (digit n) := by decide

theorem isLower_of_mem_encode {bytes : Bytes} {p : CodePoint} (h : p ∈ encode bytes) :
    IsLower p := by
  obtain ⟨b, -, hp⟩ := List.mem_flatMap.mp h
  have hb := b.toNat_lt
  rcases List.mem_cons.mp hp with rfl | hp
  · exact isLower_digit _ (by omega)
  · rw [List.mem_singleton] at hp
    subst hp
    exact isLower_digit _ (by omega)

/-- What is written is read back. -/
theorem decode_encode (bytes : Bytes) : decode (encode bytes) = some bytes := by
  induction bytes with
  | nil => rfl
  | cons b bytes ih =>
    have hb := b.toNat_lt
    rw [encode_cons, decode, isSpace_digit _ (by omega), value?_digit _ (by omega),
      value?_digit _ (by omega), ih]
    show some (UInt8.ofNat (16 * (b.toNat / 16) + b.toNat % 16) :: bytes) = some (b :: bytes)
    rw [show 16 * (b.toNat / 16) + b.toNat % 16 = b.toNat by omega, UInt8.ofNat_toNat]

theorem encode_injective : Function.Injective encode := by
  intro a b h
  have hdecode := decode_encode a
  rw [h, decode_encode, Option.some.injEq] at hdecode
  exact hdecode.symm

theorem lower_of_isLower {p : CodePoint} (h : IsLower p) :
    isSpace p = false ∧ ∃ n < 16, value? p = some n ∧ digit n = p := by
  have hspace : isSpace p = false := by
    simp only [isSpace, Bool.or_eq_false_iff, decide_eq_false_iff_not, Bool.and_eq_false_iff]
    rcases h with h | h <;> omega
  refine ⟨hspace, ?_⟩
  rcases h with h | h
  · refine ⟨p.val - 48, by omega, by rw [value?, if_pos h], ?_⟩
    rw [digit, if_pos (by omega)]
    apply Fin.ext
    rw [Fin.val_ofNat, Nat.mod_eq_of_lt (by omega)]
    omega
  · refine ⟨p.val - 87, by omega, by rw [value?, if_neg (by omega), if_pos h], ?_⟩
    rw [digit, if_neg (by omega)]
    apply Fin.ext
    rw [Fin.val_ofNat, Nat.mod_eq_of_lt (by omega)]
    omega

/-- A text of pairs of lower-case digits is what its bytes are written as. -/
theorem encode_decode : ∀ {s : PyStr}, (∀ p ∈ s, IsLower p) → s.length % 2 = 0 →
    ∃ bytes, decode s = some bytes ∧ encode bytes = s
  | [], _, _ => ⟨[], rfl, rfl⟩
  | [_], _, heven => by simp at heven
  | a :: b :: rest, h, heven => by
    obtain ⟨hspace, high, hhigh, hvalueA, hdigitA⟩ := lower_of_isLower (h a (by simp))
    obtain ⟨-, low, hlow, hvalueB, hdigitB⟩ := lower_of_isLower (h b (by simp))
    obtain ⟨bytes, hdecode, hencode⟩ := encode_decode (s := rest)
      (fun p hp => h p (by simp [hp]))
      (by rw [List.length_cons, List.length_cons] at heven; omega)
    refine ⟨UInt8.ofNat (16 * high + low) :: bytes, ?_, ?_⟩
    · rw [decode, hspace, hvalueA, hvalueB, hdecode]
      rfl
    · have hbyte : (UInt8.ofNat (16 * high + low)).toNat = 16 * high + low := by
        rw [UInt8.toNat_ofNat']
        omega
      rw [encode_cons, hencode, hbyte, show (16 * high + low) / 16 = high by omega,
        show (16 * high + low) % 16 = low by omega, hdigitA, hdigitB]

end Cathedral.Hex
