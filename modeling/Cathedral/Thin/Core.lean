import Cathedral.Lib.Fallible
import Cathedral.Lib.PyFloat
import Mathlib.Data.Rat.Floor

/-!
# Cathedral.Thin.Core — scoring and recovery primitives

The pure functions of `cathedral_thin/core.py` that the validator runner rests
on: EMA update and gating, Sybil collapse by coldkey, the digest of a weight
vector, the pending vector with its retry metadata, and the checks made when a
state file is loaded.

Numbers: Python floats and decimals are exact rationals. Where the source tests
`math.isfinite` on a value that comes from outside (a state file, the weight
processor of the SDK) the value is a `PyFloat`.

Hash functions are parameters; what they return is the type `Sha256` of 64
lower-case hex digits.
-/

namespace Cathedral.Thin

/-! ## Exceptions -/

/-- A Python exception: the fail-closed `ThinSubnetError`, or any other with
its type name. -/
inductive Exc where
  | thinSubnetError (message : String)
  | other (type message : String)
deriving DecidableEq, Repr

/-- `type(exc).__name__`. -/
def Exc.typeName : Exc → String
  | .thinSubnetError _ => "ThinSubnetError"
  | .other type _ => type

/-- `str(exc)`. -/
def Exc.message : Exc → String
  | .thinSubnetError message => message
  | .other _ message => message

/-- `raise ThinSubnetError(message)`. -/
def fail {α : Type} (message : String) : Except Exc α := .error (.thinSubnetError message)

/-- `if condition: raise ThinSubnetError(message)`. -/
def refuse (condition : Prop) [Decidable condition] (message : String) : Except Exc Unit :=
  if condition then fail message else pure ()

@[simp] theorem refuse_eq_ok {condition : Prop} [Decidable condition] {message : String}
    {u : Unit} : refuse condition message = .ok u ↔ ¬ condition := by
  unfold refuse
  split_ifs with h <;> simp [fail, pure, Except.pure, h]

/-! ## Rounding -/

/-- The nearest integer, ties to even. -/
def roundHalfEven (x : ℚ) : ℤ :=
  let down := ⌊x⌋
  let rest := x - down
  if rest < 1 / 2 then down
  else if 1 / 2 < rest then down + 1
  else if down % 2 = 0 then down
  else down + 1

/-- `round(x, 12)`. -/
def round12 (x : ℚ) : ℚ := roundHalfEven (x * 10 ^ 12) / 10 ^ 12

/-! ## Digests -/

/-- A character of `bytes.hex()`. -/
def isLowerHex (c : Char) : Bool := c.isDigit || ('a' ≤ c && c ≤ 'f')

/-- What `hashlib.sha256(...).hexdigest()` returns. -/
structure Sha256 where
  hex : String
  length_eq : hex.length = 64
  lowerHex : hex.toList.all isLowerHex = true

/-- `"sha256:" + hexdigest`. -/
def Sha256.tagged (d : Sha256) : String := "sha256:" ++ d.hex

def zeroDigest : Sha256 where
  hex := "0000000000000000000000000000000000000000000000000000000000000000"
  length_eq := by decide
  lowerHex := by decide

/-- `Py_ISSPACE`, the bytes that `bytes.fromhex` skips between two digits pairs. -/
def isAsciiSpace (c : Char) : Bool := c == ' ' || ('\t' ≤ c && c ≤ '\r')

/-- A digit that `bytes.fromhex` accepts. -/
def isHexDigit (c : Char) : Bool := isLowerHex c || ('A' ≤ c && c ≤ 'F')

/-- `bytes.fromhex(text)` returns. -/
def fromHexOk : List Char → Bool
  | [] => true
  | [c] => isAsciiSpace c
  | a :: b :: rest =>
    if isAsciiSpace a then fromHexOk (b :: rest)
    else isHexDigit a && isHexDigit b && fromHexOk rest

/-- `x.startswith("sha256:") and len(x) == 71`, and the rest is hex. -/
def isSha256Ref (text : String) : Bool :=
  "sha256:".toList.isPrefixOf text.toList && text.length == 71 &&
    fromHexOk (text.toList.drop 7)

theorem char_le_iff {a b : Char} : a ≤ b ↔ a.toNat ≤ b.toNat := UInt32.le_iff_toNat_le

theorem not_isAsciiSpace_of_isLowerHex {c : Char} (h : isLowerHex c = true) :
    isAsciiSpace c = false := by
  have hspace : (' ' : Char).toNat = 32 := rfl
  have htab : ('\t' : Char).toNat = 9 := rfl
  have hret : ('\r' : Char).toNat = 13 := rfl
  have hzero : ('0' : Char).toNat = 48 := rfl
  have ha : ('a' : Char).toNat = 97 := rfl
  simp only [isLowerHex, Char.isDigit_iff_toNat, Bool.or_eq_true, Bool.and_eq_true, decide_eq_true_eq,
    char_le_iff] at h
  rw [isAsciiSpace, Bool.or_eq_false_iff, beq_eq_false_iff_ne, Bool.and_eq_false_iff,
    decide_eq_false_iff_not, decide_eq_false_iff_not, char_le_iff, char_le_iff]
  constructor
  · rintro rfl
    omega
  · omega

theorem fromHexOk_of_lowerHex : ∀ l : List Char,
    l.length % 2 = 0 → l.all isLowerHex = true → fromHexOk l = true
  | [], _, _ => rfl
  | [_], hlen, _ => by simp at hlen
  | a :: b :: rest, hlen, hall => by
    simp only [List.all_cons, Bool.and_eq_true] at hall
    simp only [List.length_cons] at hlen
    have ha := not_isAsciiSpace_of_isLowerHex hall.1
    have hrest := fromHexOk_of_lowerHex rest (by omega) hall.2.2
    simp [fromHexOk, ha, isHexDigit, hall.1, hall.2.1, hrest]

/-- A tagged digest passes the check made on every stored digest. -/
theorem Sha256.isSha256Ref_tagged (d : Sha256) : isSha256Ref d.tagged = true := by
  have hlist : d.tagged.toList = "sha256:".toList ++ d.hex.toList := by
    simp [Sha256.tagged]
  have hlen : d.tagged.length = 71 := by
    rw [Sha256.tagged, String.length_append, d.length_eq]
    rfl
  have hdrop : d.tagged.toList.drop 7 = d.hex.toList := by
    rw [hlist]
    rfl
  have hpre : "sha256:".toList.isPrefixOf d.tagged.toList = true := by
    rw [List.isPrefixOf_iff_prefix, hlist]
    exact List.prefix_append _ _
  have hhex : fromHexOk d.hex.toList = true := by
    refine fromHexOk_of_lowerHex _ ?_ d.lowerHex
    rw [String.length_toList, d.length_eq]
  rw [isSha256Ref, hpre, hlen, hdrop, hhex]
  rfl

end Cathedral.Thin
