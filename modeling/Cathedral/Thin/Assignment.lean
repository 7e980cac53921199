import Cathedral.Lib.Bitset
import Cathedral.Lib.PyRepr
import Cathedral.Thin.Core

/-!
# Cathedral.Thin.Assignment — assignments on the wire

`encode_assignment` and `decode_assignment` of `cathedral_thin/core.py`, and the loop
over the literals that the encoder shares with `verify_witness`.

An assignment travels as a bit set in base64. Three layers are padded: the bits of the
last byte, the bytes of the last base64 group, and the bits of its last character. The
decoder checks the first, the second only up to the length limit, and the third not at
all. `assignment_wire_form` says what that leaves: what is decoded is always a complete
assignment, and it is written as it was read exactly if the text is tight.
-/

namespace Cathedral.Thin

open Bitset

/-! ## Literals -/

/-- An item of an assignment: an integer, or something that is none. -/
inductive RawLit where
  | int (lit : ℤ)
  | bool (b : Bool)
  | other
deriving DecidableEq, Repr

/-- Why the loop over the literals stops. -/
inductive LitFault where
  | invalid
  | duplicateOrRange
deriving DecidableEq, Repr

/-- One pass of the loop over the literals. -/
def literalStep (nVars : ℤ) (values : Dict ℤ Bool) : RawLit → Except LitFault (Dict ℤ Bool)
  | .int lit =>
    if lit = 0 then .error .invalid
    else if nVars < |lit| ∨ values.contains |lit| then .error .duplicateOrRange
    else .ok (values.set |lit| (0 < lit))
  | _ => .error .invalid

/-- The loop over the literals: the value of each variable. -/
def literalValues (nVars : ℤ) (assignment : List RawLit) : Except LitFault (Dict ℤ Bool) :=
  assignment.foldlM (literalStep nVars) ∅

/-! ## The codec -/

def LitFault.message : LitFault → String
  | .invalid => "invalid assignment literal"
  | .duplicateOrRange => "duplicate or out-of-range assignment literal"

/-- `range(1, n_vars + 1)`. -/
def varRange (nVars : ℤ) : List ℕ := List.range' 1 nVars.toNat

/-- One pass of the packing loop. -/
def packStep (values : Dict ℤ Bool) (packed : Bytes) (var : ℕ) : Except Exc Bytes :=
  match values.get? var with
  | some true => .ok (setBit packed (var - 1))
  | some false => .ok packed
  | none => .error (.other "KeyError" (toString var))

def encodeAssignment (assignment : List RawLit) (nVars : ℤ) : Except Exc PyStr :=
  match literalValues nVars assignment with
  | .error fault => fail fault.message
  | .ok values => do
    refuse ((values.items.length : ℤ) ≠ nVars) "assignment must be complete"
    let packed ← (varRange nVars).foldlM (packStep values)
      (List.replicate ((nVars + 7) / 8).toNat 0)
    pure (PyRepr.ascii (Base64.encode packed))

/-- `base64.b64decode(text, validate=True)` of a string. -/
def b64decode (text : PyStr) : Option Bytes := (text.mapM CodePoint.toChar?).bind Base64.decode

def decodeAssignment (payload : PyStr) (nVars : ℤ) : Except Exc (List ℤ) := do
  let expectedBytes := (nVars + 7) / 8
  refuse ((expectedBytes + 2) / 3 * 4 + 4 < payload.length) "assignment payload exceeds limit"
  match b64decode payload with
  | none => fail "invalid base64 assignment"
  | some packed => do
    refuse ((packed.length : ℤ) ≠ expectedBytes) "assignment bitset length mismatch"
    refuse (nVars % 8 ≠ 0 ∧ ∃ last ∈ packed.getLast?, last.toNat >>> (nVars % 8).toNat ≠ 0)
      "non-zero assignment padding bits"
    pure ((varRange nVars).map fun var => if bit packed (var - 1) then (var : ℤ) else -var)

/-! ## Complete assignments -/

/-- A literal for every variable, in any order. -/
def Complete (a : List ℤ) (n : ℕ) : Prop := (a.map Int.natAbs).Perm (List.range' 1 n)

theorem mem_varRange {n var : ℕ} : var ∈ varRange n ↔ 1 ≤ var ∧ var ≤ n := by
  unfold varRange
  rw [Int.toNat_natCast, List.mem_range'_1]
  omega

section Complete

variable {a : List ℤ} {n : ℕ} (h : Complete a n)
include h

theorem Complete.length : a.length = n := by
  have hlength := h.length_eq
  rw [List.length_map, List.length_range'] at hlength
  exact hlength

theorem Complete.nodup_natAbs : (a.map Int.natAbs).Nodup := h.nodup_iff.mpr List.nodup_range'

theorem Complete.nodup : a.Nodup := List.Nodup.of_map _ h.nodup_natAbs

theorem Complete.bounds {l : ℤ} (hl : l ∈ a) : 1 ≤ l.natAbs ∧ l.natAbs ≤ n := by
  have hmem := h.mem_iff.mp (List.mem_map_of_mem hl)
  rw [List.mem_range'_1] at hmem
  omega

theorem Complete.exists_mem {var : ℕ} (h1 : 1 ≤ var) (hn : var ≤ n) : ∃ l ∈ a, l.natAbs = var := by
  have hmem : var ∈ a.map Int.natAbs := h.mem_iff.mpr (List.mem_range'_1.mpr (by omega))
  obtain ⟨l, hl, hvar⟩ := List.mem_map.mp hmem
  exact ⟨l, hl, hvar⟩

/-- No variable has two literals. -/
theorem Complete.eq_of_natAbs {l m : ℤ} (hl : l ∈ a) (hm : m ∈ a) (heq : l.natAbs = m.natAbs) :
    l = m := List.inj_on_of_nodup_map h.nodup_natAbs hl hm heq

/-- One of a literal and its negation. -/
theorem Complete.mem_iff_neg {l : ℤ} (hpos : 1 ≤ l.natAbs) (hn : l.natAbs ≤ n) :
    l ∈ a ↔ -l ∉ a := by
  constructor
  · intro hl hneg
    have heq := h.eq_of_natAbs hl hneg (Int.natAbs_neg l).symm
    omega
  · intro hneg
    obtain ⟨m, hm, hname⟩ := h.exists_mem hpos hn
    rcases Int.natAbs_eq_natAbs_iff.mp hname with rfl | rfl
    · exact hm
    · exact absurd hm hneg

end Complete

/-- Complete assignments with the same positive literals are the same. -/
theorem mem_congr_of_positive {a b : List ℤ} {n : ℕ} (hb : Complete b n) (ha : Complete a n)
    (h : ∀ k : ℕ, ((k + 1 : ℕ) : ℤ) ∈ b ↔ ((k + 1 : ℕ) : ℤ) ∈ a) (l : ℤ) : l ∈ b ↔ l ∈ a := by
  have hhalf : ∀ {x y : List ℤ}, Complete x n → Complete y n →
      (∀ k : ℕ, ((k + 1 : ℕ) : ℤ) ∈ x ↔ ((k + 1 : ℕ) : ℤ) ∈ y) → l ∈ x → l ∈ y := by
    intro x y hx hy hxy hl
    obtain ⟨hpos, hn⟩ := hx.bounds hl
    obtain ⟨m, hm, hname⟩ := hy.exists_mem hpos hn
    have hsucc : ∀ {j : ℤ}, 0 < j → ((j.toNat - 1 + 1 : ℕ) : ℤ) = j := by
      intro j hj
      omega
    rcases lt_trichotomy 0 l with hl0 | rfl | hl0
    · rw [← hsucc hl0] at hl ⊢
      exact (hxy _).mp hl
    · simp at hpos
    · rcases lt_trichotomy 0 m with hm0 | rfl | hm0
      · -- a positive literal of one is one of the other
        rw [← hsucc hm0] at hm
        have hmx := (hxy _).mpr hm
        rw [hsucc hm0] at hmx
        have heq := hx.eq_of_natAbs hmx hl hname
        omega
      · simp at hname
        omega
      · have heq : l = m := by omega
        rw [heq]
        exact hm
  exact ⟨hhalf hb ha h, hhalf ha hb fun k => (h k).symm⟩

/-! ## What the loops compute -/

/-- A literal's variable and its value. -/
def entry (lit : ℤ) : ℤ × Bool := (|lit|, 0 < lit)

/-- Literals of fresh variables within range are all taken up. -/
theorem literalLoop {nVars : ℤ} : ∀ {a : List ℤ} {d : Dict ℤ Bool},
    (∀ l ∈ a, l ≠ 0 ∧ |l| ≤ nVars) → (a.map fun l => |l|).Nodup → (∀ l ∈ a, |l| ∉ d.keys) →
    ∃ d', (a.map RawLit.int).foldlM (literalStep nVars) d = .ok d' ∧
      d'.items = d.items ++ a.map entry
  | [], d, _, _, _ => ⟨d, rfl, (List.append_nil _).symm⟩
  | l :: a, d, hrange, hnodup, hfresh => by
    obtain ⟨hzero, hle⟩ := hrange l (List.mem_cons_self ..)
    obtain ⟨hnew, hnodup⟩ := List.nodup_cons.mp hnodup
    have hl := hfresh l (List.mem_cons_self ..)
    have hcontains : d.contains |l| = false := by
      rw [Dict.contains, Dict.get?_eq_none.mpr hl]
      rfl
    have hstep : literalStep nVars d (.int l) = .ok (d.set |l| (0 < l)) := by
      rw [literalStep, if_neg hzero, if_neg]
      rw [hcontains]
      simp [hle]
    have hitems : (d.set |l| (0 < l)).items = d.items ++ [entry l] := by
      rw [Dict.set]
      exact Dict.upsert_of_notMem _ hl
    obtain ⟨d', hrun, hd'⟩ := literalLoop (a := a) (d := d.set |l| (0 < l))
      (fun m hm => hrange m (List.mem_cons_of_mem _ hm)) hnodup (by
        intro m hm hmem
        rw [Dict.keys_set_of_notMem _ hl, List.mem_append, List.mem_singleton] at hmem
        rcases hmem with hold | heq
        · exact hfresh m (List.mem_cons_of_mem _ hm) hold
        · exact hnew (List.mem_map.mpr ⟨m, hm, heq⟩))
    refine ⟨d', ?_, ?_⟩
    · rw [List.map_cons, List.foldlM_cons, hstep]
      exact hrun
    · rw [hd', hitems, List.map_cons, List.append_assoc, List.singleton_append]

/-- The values that a complete assignment gives its variables. -/
theorem literalValues_complete {a : List ℤ} {n : ℕ} (h : Complete a n) :
    ∃ values, literalValues n (a.map RawLit.int) = .ok values ∧ values.items.length = n ∧
      ∀ var : ℕ, 1 ≤ var → var ≤ n →
        values.get? (var : ℤ) = some (decide ((var : ℤ) ∈ a)) := by
  have hrange : ∀ l ∈ a, l ≠ 0 ∧ |l| ≤ (n : ℤ) := by
    intro l hl
    have hbounds := h.bounds hl
    rw [Int.abs_eq_natAbs]
    omega
  have hnodup : (a.map fun l => |l|).Nodup := by
    refine (List.nodup_map_iff_inj_on h.nodup).mpr fun l hl m hm heq => ?_
    refine h.eq_of_natAbs hl hm ?_
    rw [Int.abs_eq_natAbs, Int.abs_eq_natAbs] at heq
    exact_mod_cast heq
  obtain ⟨values, hrun, hitems⟩ := literalLoop hrange hnodup (d := ∅) fun l _ hmem => by cases hmem
  have hitems' : values.items = a.map entry := hitems.trans (List.nil_append _)
  refine ⟨values, hrun, ?_, fun var hpos hn => ?_⟩
  · rw [hitems', List.length_map, h.length]
  · obtain ⟨l, hl, hname⟩ := h.exists_mem hpos hn
    have habs : |l| = (var : ℤ) := by
      rw [Int.abs_eq_natAbs, hname]
    have hget : values.get? |l| = some (decide (0 < l)) := by
      rw [← Dict.mem_items, hitems']
      exact List.mem_map_of_mem (f := entry) hl
    rw [← habs, hget, habs]
    congr 1
    rw [decide_eq_decide]
    constructor
    · intro hpositive
      rw [abs_of_pos hpositive] at habs
      exact habs ▸ hl
    · intro hmem
      have heq := h.eq_of_natAbs hl hmem (hname.trans (Int.natAbs_natCast var).symm)
      omega

/-- The packing loop sets the bits of the variables that are true. -/
theorem packLoop {values : Dict ℤ Bool} {value : ℕ → Bool} : ∀ {vs : List ℕ} {packed : Bytes},
    (∀ var ∈ vs, 1 ≤ var ∧ (var - 1) / 8 < packed.length ∧ values.get? var = some (value var)) →
    ∃ packed', vs.foldlM (packStep values) packed = .ok packed' ∧
      packed'.length = packed.length ∧
      ∀ k, bit packed' k = (bit packed k || decide (k + 1 ∈ vs ∧ value (k + 1) = true))
  | [], packed, _ => ⟨packed, rfl, rfl, fun k => by simp⟩
  | var :: vs, packed, h => by
    obtain ⟨hpos, hbyte, hget⟩ := h var (List.mem_cons_self ..)
    -- the pass for this variable
    obtain ⟨next, hstep, hlength, hnext⟩ : ∃ next, packStep values packed var = .ok next ∧
        next.length = packed.length ∧
        ∀ k, bit next k = (bit packed k || decide (k + 1 = var ∧ value var = true)) := by
      unfold packStep
      rw [hget]
      cases value var with
      | true =>
        refine ⟨_, rfl, length_setBit .., fun k => ?_⟩
        rw [bit_setBit hbyte]
        congr 1
        rw [decide_eq_decide, eq_self_iff_true, and_true]
        omega
      | false => exact ⟨packed, rfl, rfl, fun k => by simp⟩
    have hrest : ∀ v ∈ vs, 1 ≤ v ∧ (v - 1) / 8 < next.length ∧ values.get? v = some (value v) := by
      rw [hlength]
      exact fun v hv => h v (List.mem_cons_of_mem _ hv)
    obtain ⟨packed', hrun, hlength', hbits⟩ := packLoop hrest
    refine ⟨packed', ?_, hlength'.trans hlength, fun k => ?_⟩
    · rw [List.foldlM_cons, hstep]
      exact hrun
    · rw [hbits, hnext, Bool.or_assoc]
      congr 1
      rw [← Bool.decide_or, decide_eq_decide, List.mem_cons]
      constructor
      · rintro (⟨heq, htrue⟩ | ⟨hmem, htrue⟩)
        · exact ⟨Or.inl heq, heq ▸ htrue⟩
        · exact ⟨Or.inr hmem, htrue⟩
      · rintro ⟨heq | hmem, htrue⟩
        · exact Or.inl ⟨heq, heq ▸ htrue⟩
        · exact Or.inr ⟨hmem, htrue⟩

/-! ## The round trips -/

/-- The literal of a variable under a bit set. -/
def literalOf (packed : Bytes) (var : ℕ) : ℤ := if bit packed (var - 1) then var else -var

theorem natAbs_literalOf (packed : Bytes) (var : ℕ) : (literalOf packed var).natAbs = var := by
  unfold literalOf
  split_ifs
  · exact Int.natAbs_natCast var
  · rw [Int.natAbs_neg, Int.natAbs_natCast]

/-- The literals of a bit set, in the order of the variables. -/
def literals (packed : Bytes) (n : ℕ) : List ℤ := (List.range' 1 n).map (literalOf packed)

theorem natAbs_literals (packed : Bytes) (n : ℕ) :
    (literals packed n).map Int.natAbs = List.range' 1 n := by
  unfold literals
  rw [List.map_map]
  refine (List.map_congr_left fun var _ => ?_).trans (List.map_id _)
  exact natAbs_literalOf packed var

theorem complete_literals (packed : Bytes) (n : ℕ) : Complete (literals packed n) n := by
  unfold Complete
  rw [natAbs_literals]

/-- A positive literal is one whose bit is set. -/
theorem mem_literals {packed : Bytes} {n k : ℕ} :
    ((k + 1 : ℕ) : ℤ) ∈ literals packed n ↔ k < n ∧ bit packed k = true := by
  unfold literals
  rw [List.mem_map]
  constructor
  · rintro ⟨var, hvar, heq⟩
    have hname : var = k + 1 := by
      rw [← natAbs_literalOf packed var, heq, Int.natAbs_natCast]
    subst hname
    rw [List.mem_range'_1] at hvar
    refine ⟨by omega, ?_⟩
    by_contra hbit
    rw [literalOf, Nat.add_sub_cancel, if_neg hbit] at heq
    omega
  · rintro ⟨hk, hbit⟩
    refine ⟨k + 1, List.mem_range'_1.mpr (by omega), ?_⟩
    rw [literalOf, Nat.add_sub_cancel, if_pos hbit]

theorem b64decode_ascii (text : List Char) :
    b64decode (PyRepr.ascii text) = Base64.decode text := by
  have htext : (PyRepr.ascii text).mapM CodePoint.toChar? = some text :=
    PyStr.mapM_toChar?_eq_some.mpr rfl
  rw [b64decode, htext, Option.bind_some]

theorem b64decode_eq_some {payload : PyStr} {packed : Bytes} (h : b64decode payload = some packed) :
    ∃ text, payload = PyRepr.ascii text ∧ Base64.decode text = some packed := by
  obtain ⟨text, htext, hdecode⟩ := Option.bind_eq_some_iff.mp h
  exact ⟨text, PyStr.mapM_toChar?_eq_some.mp htext, hdecode⟩

/-- What the encoder makes of a complete assignment: the bits of its positive literals. -/
theorem encodeAssignment_complete {a : List ℤ} {n : ℕ} (h : Complete a n) :
    ∃ packed, encodeAssignment (a.map RawLit.int) n = .ok (PyRepr.ascii (Base64.encode packed)) ∧
      packed.length = (n + 7) / 8 ∧
      ∀ k, bit packed k = decide (k < n ∧ ((k + 1 : ℕ) : ℤ) ∈ a) := by
  obtain ⟨values, hvalues, hlength, hget⟩ := literalValues_complete h
  have hsize : (((n : ℤ) + 7) / 8).toNat = (n + 7) / 8 := by omega
  -- a variable is true when it is one of the literals
  have hvalue : ∀ var ∈ varRange n, 1 ≤ var ∧
      (var - 1) / 8 < (List.replicate ((n + 7) / 8) (0 : UInt8)).length ∧
      values.get? (var : ℤ) = some (decide ((var : ℤ) ∈ a)) := by
    intro var hvar
    obtain ⟨hpos, hn⟩ := mem_varRange.mp hvar
    exact ⟨hpos, by rw [List.length_replicate]; omega, hget var hpos hn⟩
  obtain ⟨packed, hpack, hpacked, hbits⟩ := packLoop hvalue
  refine ⟨packed, ?_, ?_, fun k => ?_⟩
  · unfold encodeAssignment
    simp only [hvalues, hlength, hsize, hpack, refuse, ne_eq, not_true_eq_false, if_false]
    rfl
  · rw [hpacked, List.length_replicate]
  · rw [hbits, bit_zeros, Bool.false_or, decide_eq_decide, mem_varRange, decide_eq_true_iff]
    refine and_congr_left fun _ => ?_
    omega

/-- When the decoder accepts a text, and what it returns. -/
theorem decodeAssignment_eq_ok {payload : PyStr} {n : ℕ} {b : List ℤ} :
    decodeAssignment payload n = .ok b ↔
      payload.length ≤ ((n + 7) / 8 + 2) / 3 * 4 + 4 ∧
      ∃ packed, b64decode payload = some packed ∧ packed.length = (n + 7) / 8 ∧
        (∀ k, n ≤ k → bit packed k = false) ∧ b = literals packed n := by
  unfold decodeAssignment
  simp only [bind_eq_ok, refuse_eq_ok, exists_const]
  have hlimit : ¬ (((n : ℤ) + 7) / 8 + 2) / 3 * 4 + 4 < (payload.length : ℤ) ↔
      payload.length ≤ ((n + 7) / 8 + 2) / 3 * 4 + 4 := by omega
  rw [hlimit]
  refine and_congr_right fun _ => ?_
  cases hdecode : b64decode payload with
  | none => simp [fail]
  | some packed =>
    simp only [bind_eq_ok, refuse_eq_ok, exists_const, Option.some.injEq, exists_eq_left']
    have hlength : ¬ (packed.length : ℤ) ≠ ((n : ℤ) + 7) / 8 ↔ packed.length = (n + 7) / 8 := by
      omega
    rw [hlength]
    refine and_congr_right fun hlen => ?_
    have hpadding : ¬ ((n : ℤ) % 8 ≠ 0 ∧
          ∃ last ∈ packed.getLast?, last.toNat >>> ((n : ℤ) % 8).toNat ≠ 0) ↔
        ∀ k, n ≤ k → bit packed k = false := by
      have hmod : ((n : ℤ) % 8).toNat = n % 8 := by omega
      have hzero : (n : ℤ) % 8 ≠ 0 ↔ n % 8 ≠ 0 := by omega
      rw [bits_zero_from hlen, hmod, hzero]
      push Not
      rfl
    rw [hpadding]
    refine and_congr_right fun _ => ?_
    show Except.ok _ = Except.ok b ↔ _
    rw [Except.ok.injEq, eq_comm]
    unfold literals varRange
    rw [Int.toNat_natCast]
    rfl

/-- What the encoder writes is read back in the order of the variables. -/
theorem decode_encodeAssignment {a : List ℤ} {n : ℕ} (h : Complete a n) :
    ∃ s b, encodeAssignment (a.map RawLit.int) n = .ok s ∧ decodeAssignment s n = .ok b ∧
      b.Perm a ∧ b.map Int.natAbs = List.range' 1 n := by
  obtain ⟨packed, hencode, hlength, hbits⟩ := encodeAssignment_complete h
  have hzero : ∀ k, n ≤ k → bit packed k = false := by
    intro k hk
    rw [hbits, decide_eq_false_iff_not]
    omega
  have hdecode : decodeAssignment (PyRepr.ascii (Base64.encode packed)) n =
      .ok (literals packed n) := by
    refine decodeAssignment_eq_ok.mpr ⟨?_, packed, ?_, hlength, hzero, rfl⟩
    · rw [PyRepr.ascii, List.length_map, Base64.length_encode, hlength]
      omega
    · rw [b64decode_ascii, Base64.decode_encode]
  refine ⟨_, _, hencode, hdecode, ?_, natAbs_literals packed n⟩
  -- both hold one literal for each variable, with the same sign
  have hliterals := complete_literals packed n
  refine (List.perm_ext_iff_of_nodup hliterals.nodup h.nodup).mpr fun l => ?_
  have hpositive : ∀ k : ℕ, ((k + 1 : ℕ) : ℤ) ∈ literals packed n ↔ ((k + 1 : ℕ) : ℤ) ∈ a := by
    intro k
    rw [mem_literals, hbits, decide_eq_true_iff]
    constructor
    · rintro ⟨-, -, hmem⟩
      exact hmem
    · intro hmem
      have hbounds := h.bounds hmem
      rw [Int.natAbs_natCast] at hbounds
      exact ⟨by omega, by omega, hmem⟩
  exact mem_congr_of_positive hliterals h hpositive l

/-- The text is base64 without a bit or a character too many. -/
def TightText (payload : PyStr) : Prop :=
  ∃ text, payload = PyRepr.ascii text ∧ Base64.tight text = true

/-- What is decoded is complete, and written as it was read exactly if the text is tight. -/
theorem encode_decodeAssignment {s : PyStr} {n : ℕ} {b : List ℤ}
    (h : decodeAssignment s n = .ok b) :
    Complete b n ∧ (encodeAssignment (b.map RawLit.int) n = .ok s ↔ TightText s) := by
  obtain ⟨-, packed, hpacked, hlength, hzero, rfl⟩ := decodeAssignment_eq_ok.mp h
  have hcomplete := complete_literals packed n
  obtain ⟨packed', hencode, hlength', hbits⟩ := encodeAssignment_complete hcomplete
  have hsame : packed' = packed := by
    refine bitset_ext (hlength'.trans hlength.symm) fun k => ?_
    rw [hbits, Bool.eq_iff_iff, decide_eq_true_iff, mem_literals]
    constructor
    · rintro ⟨-, -, hbit⟩
      exact hbit
    · intro hbit
      have hk : k < n := by
        by_contra hk
        rw [hzero k (by omega)] at hbit
        cases hbit
      exact ⟨hk, hk, hbit⟩
  subst hsame
  obtain ⟨text, rfl, hdecode⟩ := b64decode_eq_some hpacked
  refine ⟨hcomplete, ?_⟩
  have hinjective : Function.Injective PyRepr.ascii :=
    List.map_injective_iff.mpr CodePoint.ofChar_injective
  rw [hencode, Except.ok.injEq, hinjective.eq_iff, Base64.encode_of_decode hdecode]
  constructor
  · intro htight
    exact ⟨text, rfl, htight⟩
  · rintro ⟨text', heq, htight⟩
    rw [hinjective heq]
    exact htight

/-- Every complete assignment is read back in the order of its variables; what is
decoded is complete; and it is written as it was read exactly if the text is tight. -/
theorem assignment_wire_form (n : ℕ) :
    (∀ a, Complete a n → ∃ s b, encodeAssignment (a.map RawLit.int) n = .ok s ∧
      decodeAssignment s n = .ok b ∧ b.Perm a ∧ b.map Int.natAbs = List.range' 1 n) ∧
    (∀ s b, decodeAssignment s n = .ok b → Complete b n ∧
      (encodeAssignment (b.map RawLit.int) n = .ok s ↔ TightText s)) :=
  ⟨fun _ => decode_encodeAssignment, fun _ _ => encode_decodeAssignment⟩

/-- Eight variables that are false have a second text: the last character before the
padding holds four bits that no byte takes up. -/
theorem second_wire_form :
    decodeAssignment (PyRepr.ascii ['A', 'B', '=', '=']) 8 =
        .ok [-1, -2, -3, -4, -5, -6, -7, -8] ∧
      encodeAssignment ([-1, -2, -3, -4, -5, -6, -7, -8].map RawLit.int) 8 =
        .ok (PyRepr.ascii ['A', 'A', '=', '=']) ∧
      PyRepr.ascii ['A', 'A', '=', '='] ≠ PyRepr.ascii ['A', 'B', '=', '='] := by
  decide +kernel

theorem assignment_wire_form_two :
    (∃ s b, encodeAssignment ([-2, 1].map RawLit.int) 2 = .ok s ∧
      decodeAssignment s 2 = .ok b ∧ b.Perm [-2, 1] ∧ b.map Int.natAbs = List.range' 1 2) ∧
    encodeAssignment ([1, -2].map RawLit.int) 2 = .ok (PyRepr.ascii ['A', 'Q', '=', '=']) := by
  have htext : decodeAssignment (PyRepr.ascii ['A', 'Q', '=', '=']) 2 = .ok [1, -2] := by
    decide +kernel
  have htight : TightText (PyRepr.ascii ['A', 'Q', '=', '=']) := ⟨_, rfl, by decide⟩
  exact ⟨(assignment_wire_form 2).1 [-2, 1] (by unfold Complete; decide),
    ((assignment_wire_form 2).2 _ _ htext).2.mpr htight⟩

end Cathedral.Thin
