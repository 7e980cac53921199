import Cathedral.Lib.PyText
import Cathedral.Thin.Assignment

/-!
# Cathedral.Thin.Cnf — formulas, their transport and their witnesses

`Cnf.to_dimacs`, `parse_dimacs_strict`, `encode_cnf`, `decode_cnf` and `verify_witness`
of `cathedral_thin/core.py`. Compression, SHA-256 and the Unicode tables are parameters.
-/

namespace Cathedral.Thin

open PyStr

/-! ## Formulas -/

/-- A clause of three literals. -/
abbrev Clause : Type := ℤ × ℤ × ℤ

def Clause.lits (c : Clause) : List ℤ := [c.1, c.2.1, c.2.2]

structure Cnf where
  nVars : ℤ
  clauses : List Clause
deriving DecidableEq, Repr

/-! ## DIMACS -/

def headerLine (cnf : Cnf) : PyStr :=
  ofString "p" ++ spaced [ofString "cnf", numeral cnf.nVars, numeral cnf.clauses.length]

def clauseLine (c : Clause) : PyStr :=
  numeral c.1 ++ spaced [numeral c.2.1, numeral c.2.2, numeral 0]

def Cnf.toDimacs (cnf : Cnf) : PyStr :=
  headerLine cnf ++ newline :: cnf.clauses.flatMap fun c => clauseLine c ++ [newline]

/-- What has been read: `n_vars` with `declared_clauses`, and the clauses. -/
structure DimacsState where
  header : Option (ℤ × ℤ)
  clauses : List Clause
deriving DecidableEq, Repr

def invalidInt : Exc := .other "ValueError" "invalid literal for int()"

/-- A header line; `int` may raise. -/
def readHeader (tables : UnicodeTables) (line : PyStr) : Except Exc (ℤ × ℤ) :=
  match words line with
  | [_, format, nVars, nClauses] =>
    if format ≠ ofString "cnf" then fail "invalid DIMACS header"
    else
      match int? tables nVars, int? tables nClauses with
      | some n, some m => .ok (n, m)
      | _, _ => .error invalidInt
  | _ => fail "invalid DIMACS header"

/-- A clause line, under a header. -/
def readClause (tables : UnicodeTables) (nVars : ℤ) (line : PyStr) : Except Exc Clause :=
  match (words line).mapM (int? tables) with
  | none => fail "non-integer DIMACS token"
  | some [a, b, c, last] => do
    refuse (last ≠ 0) "only one terminated 3-SAT clause per line is accepted"
    refuse (¬ [|a|, |b|, |c|].Nodup) "clause variables must be distinct"
    refuse (∃ lit ∈ [a, b, c], lit = 0 ∨ nVars < |lit|)
      "literal outside declared variable range"
    pure (a, b, c)
  | some _ => fail "only one terminated 3-SAT clause per line is accepted"

/-- One pass of the loop over the lines. -/
def readDimacsLine (tables : UnicodeTables) (s : DimacsState) (raw : PyStr) :
    Except Exc DimacsState :=
  let line := strip raw
  if line = [] ∨ (ofString "c").isPrefixOf line then .ok s
  else if (ofString "p ").isPrefixOf line then
    match s.header with
    | some _ => fail "multiple DIMACS headers"
    | none => do
      let header ← readHeader tables line
      pure { s with header := some header }
  else
    match s.header with
    | none => fail "DIMACS clause precedes header"
    | some (nVars, _) => do
      let clause ← readClause tables nVars line
      pure { s with clauses := s.clauses ++ [clause] }

def parseDimacsStrict (tables : UnicodeTables) (text : PyStr)
    (expectedVars expectedClauses : Option ℤ) : Except Exc Cnf := do
  let s ← (splitLines text).foldlM (readDimacsLine tables) ⟨none, []⟩
  match s.header with
  | none => fail "missing DIMACS header"
  | some (nVars, declared) => do
    refuse ((s.clauses.length : ℤ) ≠ declared) "DIMACS clause count mismatch"
    refuse (∃ n ∈ expectedVars, nVars ≠ n) "DIMACS variable count mismatch"
    refuse (∃ m ∈ expectedClauses, (s.clauses.length : ℤ) ≠ m)
      "DIMACS expected clause count mismatch"
    pure ⟨nVars, s.clauses⟩

/-! ## Transport -/

def maxCompressedCnfBytes : ℕ := 512000

def maxDimacsBytes : ℕ := 4000000

/-- What a decompressor has done with its input. -/
structure Inflated where
  raw : Bytes
  unconsumedTail : Bytes
  eof : Bool
  unusedData : Bytes
deriving DecidableEq, Repr

/-- `zlib`, `hashlib` and the Unicode tables. -/
structure CnfLibs where
  compress : Bytes → Bytes
  decompress : Bytes → ℕ → Option Inflated
  sha256 : Bytes → Sha256
  tables : UnicodeTables

/-- What was compressed is inflated again where the limit leaves room for it. -/
def CnfLibs.Inflates (libs : CnfLibs) : Prop := ∀ raw limit, raw.length < limit →
  libs.decompress (libs.compress raw) limit = some ⟨raw, [], true, []⟩

/-- `text.encode("ascii")`, `none` where it raises. -/
def encodeAscii (text : PyStr) : Option Bytes :=
  text.mapM fun p => if p.val < 128 then some (UInt8.ofNat p.val) else none

/-- `raw.decode("ascii")`, `none` where it raises. -/
def decodeAscii (raw : Bytes) : Option PyStr :=
  raw.mapM fun b => if b.toNat < 128 then some (Fin.ofNat 0x110000 b.toNat) else none

/-- `str.lower`, where it leads to ASCII: the capital letters, and the Kelvin sign. -/
def lowerPoint (p : CodePoint) : CodePoint :=
  if 65 ≤ p.val ∧ p.val ≤ 90 then p + 32 else if p.val = 0x212A then 107 else p

/-- `hmac.compare_digest(digest, expected.lower())`. -/
def digestMatches (digest expected : PyStr) : Except Exc Bool :=
  let lowered := expected.map lowerPoint
  if lowered.all fun p => p.val < 128 then .ok (digest = lowered)
  else .error (.other "TypeError"
    "comparing strings with non-ASCII characters is not supported")

section Transport

variable (libs : CnfLibs)

/-- `encode_cnf`: the payload and the digest. -/
def encodeCnf (cnf : Cnf) : Except Exc (PyStr × PyStr) :=
  match encodeAscii cnf.toDimacs with
  | none => .error (.other "UnicodeEncodeError" "ordinal not in range(128)")
  | some raw => do
    refuse (maxDimacsBytes < raw.length) "DIMACS payload exceeds limit"
    let compressed := libs.compress raw
    refuse (maxCompressedCnfBytes < compressed.length) "compressed CNF exceeds limit"
    pure (PyRepr.ascii (Base64.encode compressed), ofString (libs.sha256 raw).hex)

def decodeCnf (payload expectedSha256 : PyStr) (expectedVars expectedClauses : ℤ)
    (maxBytes : ℕ) : Except Exc Cnf := do
  refuse ((maxCompressedCnfBytes + 2) / 3 * 4 + 8 < payload.length) "base64 CNF exceeds limit"
  match b64decode payload with
  | none => fail "invalid base64 CNF"
  | some compressed => do
    refuse (maxCompressedCnfBytes < compressed.length) "compressed CNF exceeds limit"
    match libs.decompress compressed (maxBytes + 1) with
    | none => fail "invalid compressed CNF"
    | some inflated => do
      refuse (maxBytes < inflated.raw.length ∨ inflated.unconsumedTail ≠ [] ∨
          inflated.eof = false ∨ inflated.unusedData ≠ [])
        "decompressed CNF exceeds limit or has trailing data"
      let same ← digestMatches (ofString (libs.sha256 inflated.raw).hex) expectedSha256
      refuse (same = false) "CNF digest mismatch"
      match decodeAscii inflated.raw with
      | none => fail "DIMACS must be ASCII"
      | some text => parseDimacsStrict libs.tables text expectedVars expectedClauses

end Transport

/-! ## Witnesses -/

/-- `any(values[abs(lit)] == (lit > 0) for lit in clause)`. -/
def clauseHolds (values : Dict ℤ Bool) : List ℤ → Except Exc Bool
  | [] => .ok false
  | lit :: rest =>
    match values.get? |lit| with
    | none => .error (.other "KeyError" (toString |lit|))
    | some value => if value = decide (0 < lit) then .ok true else clauseHolds values rest

/-- `all(... for clause in cnf.clauses)`. -/
def clausesHold (values : Dict ℤ Bool) : List Clause → Except Exc Bool
  | [] => .ok true
  | c :: rest => do
    let holds ← clauseHolds values c.lits
    if holds then clausesHold values rest else pure false

def verifyWitness (cnf : Cnf) (assignment : List RawLit) : Except Exc Bool :=
  match literalValues cnf.nVars assignment with
  | .error _ => .ok false
  | .ok values =>
    if (values.items.length : ℤ) ≠ cnf.nVars ∨ ∃ v ∈ varRange cnf.nVars,
        values.contains (v : ℤ) = false then .ok false
    else clausesHold values cnf.clauses

/-! ## The text is read back -/

/-- A clause over three different variables within range. -/
structure Clause.Proper (nVars : ℤ) (c : Clause) : Prop where
  distinct : [|c.1|, |c.2.1|, |c.2.2|].Nodup
  range : ∀ lit ∈ c.lits, lit ≠ 0 ∧ |lit| ≤ nVars

theorem header_words (cnf : Cnf) : ∀ v ∈ ofString "p" ::
    [ofString "cnf", numeral cnf.nVars, numeral cnf.clauses.length],
    v ≠ [] ∧ ∀ p ∈ v, isSpace p = false := by
  intro v hv
  simp only [List.mem_cons, List.not_mem_nil, or_false] at hv
  rcases hv with rfl | rfl | rfl | rfl
  · exact word_of_all (by decide) (by decide)
  · exact word_of_all (by decide) (by decide)
  · exact numeral_word _
  · exact numeral_word _

theorem clause_words (c : Clause) : ∀ v ∈ numeral c.1 ::
    [numeral c.2.1, numeral c.2.2, numeral 0], v ≠ [] ∧ ∀ p ∈ v, isSpace p = false := by
  intro v hv
  simp only [List.mem_cons, List.not_mem_nil, or_false] at hv
  rcases hv with rfl | rfl | rfl | rfl <;> exact numeral_word _

theorem isLineBreak_headerLine (cnf : Cnf) : ∀ p ∈ headerLine cnf, isLineBreak p = false := by
  refine isLineBreak_words fun v hv => ?_
  have hletters : ∀ w ∈ [ofString "p", ofString "cnf"], (w.all fun p => !isLineBreak p) = true := by
    decide
  simp only [List.mem_cons, List.not_mem_nil, or_false] at hv
  rcases hv with rfl | rfl | rfl | rfl
  · exact fun p hp => by simpa using List.all_eq_true.mp (hletters _ (by simp)) p hp
  · exact fun p hp => by simpa using List.all_eq_true.mp (hletters _ (by simp)) p hp
  · exact fun _ => isLineBreak_of_mem_numeral
  · exact fun _ => isLineBreak_of_mem_numeral

theorem isLineBreak_clauseLine (c : Clause) : ∀ p ∈ clauseLine c, isLineBreak p = false := by
  refine isLineBreak_words fun v hv => ?_
  simp only [List.mem_cons, List.not_mem_nil, or_false] at hv
  rcases hv with rfl | rfl | rfl | rfl <;> exact fun _ => isLineBreak_of_mem_numeral

theorem splitLines_clauseLines : ∀ clauses : List Clause,
    splitLines (clauses.flatMap fun c => clauseLine c ++ [newline]) = clauses.map clauseLine
  | [] => rfl
  | c :: clauses => by
    rw [List.flatMap_cons, List.append_assoc, List.singleton_append,
      splitLines_line (isLineBreak_clauseLine c), splitLines_clauseLines clauses, List.map_cons]

theorem splitLines_toDimacs (cnf : Cnf) :
    splitLines cnf.toDimacs = headerLine cnf :: cnf.clauses.map clauseLine := by
  rw [Cnf.toDimacs, splitLines_line (isLineBreak_headerLine cnf), splitLines_clauseLines]

section Read

variable {tables : UnicodeTables} {cnf : Cnf} (hvars : |cnf.nVars| < 10 ^ PyStr.maxStrDigits)
include hvars

theorem readHeader_headerLine (hclauses : (cnf.clauses.length : ℤ) < 10 ^ PyStr.maxStrDigits) :
    readHeader tables (headerLine cnf) = .ok (cnf.nVars, cnf.clauses.length) := by
  have hwords := words_joined (header_words cnf)
  rw [readHeader, headerLine, hwords]
  simp only [int?_numeral, if_pos hvars, Nat.abs_cast, if_pos hclauses]
  rfl

theorem readDimacsLine_headerLine (hclauses : (cnf.clauses.length : ℤ) < 10 ^ PyStr.maxStrDigits) :
    readDimacsLine tables ⟨none, []⟩ (headerLine cnf) =
      .ok ⟨some (cnf.nVars, cnf.clauses.length), []⟩ := by
  have hstrip : strip (headerLine cnf) = headerLine cnf := strip_words (header_words cnf)
  have hcomment : ¬ (headerLine cnf = [] ∨ (ofString "c").isPrefixOf (headerLine cnf)) := by
    rintro (hnil | hprefix)
    · cases hnil
    · cases hprefix
  have hformat : (ofString "p ").isPrefixOf (headerLine cnf) = true := rfl
  unfold readDimacsLine
  simp only [hstrip, if_neg hcomment, hformat, if_true, readHeader_headerLine hvars hclauses]
  rfl

theorem readClause_clauseLine {c : Clause} (hc : c.Proper cnf.nVars) :
    readClause tables cnf.nVars (clauseLine c) = .ok c := by
  have hwords := words_joined (clause_words c)
  have hint : ∀ lit ∈ c.lits, int? tables (numeral lit) = some lit := by
    intro lit hlit
    have hle := (hc.range lit hlit).2
    rw [int?_numeral, if_pos (hle.trans_lt ((le_abs_self _).trans_lt hvars))]
  have hzero : int? tables (numeral 0) = some 0 := by
    rw [int?_numeral, if_pos (by positivity)]
  have htokens : (words (clauseLine c)).mapM (int? tables) = some [c.1, c.2.1, c.2.2, 0] := by
    rw [clauseLine, hwords]
    simp only [List.mapM_cons, List.mapM_nil, hint c.1 (by simp [Clause.lits]),
      hint c.2.1 (by simp [Clause.lits]), hint c.2.2 (by simp [Clause.lits]), hzero]
    rfl
  have hrange : ¬ ∃ lit ∈ [c.1, c.2.1, c.2.2], lit = 0 ∨ cnf.nVars < |lit| := by
    rintro ⟨lit, hlit, hzero | hlarge⟩
    · exact (hc.range lit hlit).1 hzero
    · exact absurd (hc.range lit hlit).2 (not_le.mpr hlarge)
  unfold readClause
  simp only [htokens, refuse, ne_eq, not_true_eq_false, if_false, hc.distinct,
    if_neg hrange]
  rfl

theorem readDimacsLine_clauseLine {s : DimacsState} {c : Clause} {declared : ℤ}
    (hs : s.header = some (cnf.nVars, declared)) (hc : c.Proper cnf.nVars) :
    readDimacsLine tables s (clauseLine c) = .ok { s with clauses := s.clauses ++ [c] } := by
  have hstrip : strip (clauseLine c) = clauseLine c := strip_words (clause_words c)
  -- the line starts with a minus sign or a digit
  obtain ⟨p, rest, hline, hp⟩ : ∃ p rest, clauseLine c = p :: rest ∧
      (p.val = 45 ∨ (48 ≤ p.val ∧ p.val ≤ 57)) := by
    cases hnumeral : numeral c.1 with
    | nil => exact absurd hnumeral (numeral_ne_nil c.1)
    | cons p rest =>
      have hmem : p ∈ numeral c.1 := by
        rw [hnumeral]
        exact List.mem_cons_self
      exact ⟨p, rest ++ spaced [numeral c.2.1, numeral c.2.2, numeral 0], by
        rw [clauseLine, hnumeral, List.cons_append], mem_numeral hmem⟩
  have hother : ∀ q : CodePoint, 57 < q.val → ∀ more,
      (q :: more).isPrefixOf (p :: rest) = false := by
    intro q hq more
    have hne : q ≠ p := by
      rintro rfl
      omega
    rw [List.isPrefixOf, beq_eq_false_iff_ne.mpr hne, Bool.false_and]
  have hcomment : (ofString "c").isPrefixOf (p :: rest) = false :=
    hother (CodePoint.ofChar 'c') (by decide) _
  have hformat : (ofString "p ").isPrefixOf (p :: rest) = false :=
    hother (CodePoint.ofChar 'p') (by decide) _
  have hread := @readClause_clauseLine tables cnf hvars c hc
  rw [hline] at hstrip hread ⊢
  unfold readDimacsLine
  simp only [hstrip, hcomment, hformat, hs, List.cons_ne_nil, or_self, Bool.false_eq_true, if_false,
    hread]
  rfl

theorem readClauseLines {declared : ℤ} : ∀ {clauses : List Clause} {s : DimacsState},
    s.header = some (cnf.nVars, declared) → (∀ c ∈ clauses, c.Proper cnf.nVars) →
    (clauses.map clauseLine).foldlM (readDimacsLine tables) s =
      .ok { s with clauses := s.clauses ++ clauses }
  | [], s, _, _ => by
    rw [List.append_nil]
    rfl
  | c :: clauses, s, hs, hproper => by
    have hc := hproper c List.mem_cons_self
    have hproper' : ∀ d ∈ clauses, d.Proper cnf.nVars :=
      fun d hd => hproper d (List.mem_cons_of_mem c hd)
    have hrest := readClauseLines (s := { s with clauses := s.clauses ++ [c] }) hs hproper'
    rw [List.map_cons, List.foldlM_cons, readDimacsLine_clauseLine hvars hs hc]
    refine hrest.trans ?_
    rw [List.append_assoc, List.singleton_append]

/-- A formula with proper clauses is read back from its text. -/
theorem parse_toDimacs (hclauses : (cnf.clauses.length : ℤ) < 10 ^ PyStr.maxStrDigits)
    (hproper : ∀ c ∈ cnf.clauses, c.Proper cnf.nVars) :
    parseDimacsStrict tables cnf.toDimacs (some cnf.nVars) (some cnf.clauses.length) =
      .ok cnf := by
  have hread : (splitLines cnf.toDimacs).foldlM (readDimacsLine tables) ⟨none, []⟩ =
      .ok ⟨some (cnf.nVars, cnf.clauses.length), cnf.clauses⟩ := by
    rw [splitLines_toDimacs, List.foldlM_cons, readDimacsLine_headerLine hvars hclauses]
    exact readClauseLines hvars rfl hproper
  unfold parseDimacsStrict
  simp only [hread, refuse, ne_eq, not_true_eq_false, if_false, Option.mem_some_iff,
    exists_eq_left', bind, Except.bind, pure, Except.pure]

end Read

/-! ## The transport form is read back -/

theorem decodeAscii_of_encodeAscii : ∀ {text : PyStr} {raw : Bytes},
    encodeAscii text = some raw → decodeAscii raw = some text
  | [], raw, h => by
    cases h
    rfl
  | p :: text, raw, h => by
    unfold encodeAscii at h
    rw [List.mapM_cons, Option.bind_eq_bind, Option.bind_eq_some_iff] at h
    obtain ⟨b, hb, h⟩ := h
    obtain ⟨rest, hrest, h⟩ := Option.bind_eq_some_iff.mp h
    cases h
    split_ifs at hb with hp
    have hrest' : decodeAscii rest = some text := decodeAscii_of_encodeAscii hrest
    have hb' := Option.some.inj hb
    have hval : b.toNat = p.val := by
      rw [← hb', UInt8.toNat_ofNat']
      exact Nat.mod_eq_of_lt (by omega)
    have hpoint : Fin.ofNat 0x110000 b.toNat = p := by
      rw [hval]
      exact Fin.ofNat_val_eq_self p
    unfold decodeAscii at hrest' ⊢
    rw [List.mapM_cons, hrest', if_pos (by omega), hpoint]
    rfl

/-- A digest is compared with itself, whatever its letters are lowered to. -/
theorem digestMatches_self (d : Sha256) :
    digestMatches (ofString d.hex) (ofString d.hex) = .ok true := by
  have hpoint : ∀ p ∈ ofString d.hex, lowerPoint p = p ∧ p.val < 128 := by
    intro p hp
    obtain ⟨c, hc, rfl⟩ := List.mem_map.mp hp
    have hhex := List.all_eq_true.mp d.lowerHex c hc
    have ha : 'a'.toNat = 97 := rfl
    have hf : 'f'.toNat = 102 := rfl
    have h0 : '0'.toNat = 48 := rfl
    have h9 : '9'.toNat = 57 := rfl
    simp only [isLowerHex, Char.isDigit_iff_toNat, Bool.or_eq_true, Bool.and_eq_true,
      decide_eq_true_eq, char_le_iff] at hhex
    have hval := CodePoint.ofChar_val c
    refine ⟨?_, by omega⟩
    unfold lowerPoint
    rw [if_neg (by omega), if_neg (by omega)]
  have hlowered : (ofString d.hex).map lowerPoint = ofString d.hex :=
    (List.map_congr_left fun p hp => (hpoint p hp).1).trans (List.map_id _)
  have hascii : ((ofString d.hex).all fun p => p.val < 128) = true :=
    List.all_eq_true.mpr fun p hp => decide_eq_true (hpoint p hp).2
  unfold digestMatches
  simp only [hlowered, hascii, if_true, decide_true]

/-- What the encoder sends is read back under the same digest and dimensions. -/
theorem decode_encodeCnf {libs : CnfLibs} {cnf : Cnf} {payload digest : PyStr}
    (hzlib : libs.Inflates) (hvars : |cnf.nVars| < 10 ^ PyStr.maxStrDigits)
    (hclauses : (cnf.clauses.length : ℤ) < 10 ^ PyStr.maxStrDigits)
    (hproper : ∀ c ∈ cnf.clauses, c.Proper cnf.nVars)
    (h : encodeCnf libs cnf = .ok (payload, digest)) :
    decodeCnf libs payload digest cnf.nVars cnf.clauses.length maxDimacsBytes = .ok cnf := by
  unfold encodeCnf at h
  split at h
  · cases h
  · next raw hraw =>
      simp only [bind_eq_ok, refuse_eq_ok, exists_const] at h
      obtain ⟨hsize, hcompressed, h⟩ := h
      cases h
      have hlength : ¬ (maxCompressedCnfBytes + 2) / 3 * 4 + 8 <
          (PyRepr.ascii (Base64.encode (libs.compress raw))).length := by
        rw [PyRepr.ascii, List.length_map, Base64.length_encode]
        omega
      have hdecode : b64decode (PyRepr.ascii (Base64.encode (libs.compress raw))) =
          some (libs.compress raw) := by
        rw [b64decode_ascii, Base64.decode_encode]
      have hinflate := hzlib raw (maxDimacsBytes + 1) (by omega)
      unfold decodeCnf
      simp only [refuse, if_neg hlength, hdecode, if_neg hcompressed, hinflate, hsize, ne_eq,
        not_true_eq_false, or_self, if_false, digestMatches_self, Bool.true_eq_false,
        decodeAscii_of_encodeAscii hraw]
      exact parse_toDimacs hvars hclauses hproper

/-! ## Complete assignments as witnesses -/

/-- Every literal has a variable with a value, and is true when the value is its sign. -/
def LitsDecided (values : Dict ℤ Bool) (truth : ℤ → Bool) (lits : List ℤ) : Prop :=
  ∀ lit ∈ lits, ∃ value, values.get? |lit| = some value ∧
    (value = decide (0 < lit) ↔ truth lit = true)

theorem clauseHolds_eq {values : Dict ℤ Bool} {truth : ℤ → Bool} : ∀ {lits : List ℤ},
    LitsDecided values truth lits → clauseHolds values lits = .ok (lits.any truth)
  | [], _ => rfl
  | lit :: rest, h => by
    obtain ⟨value, hvalue, htruth⟩ := h lit List.mem_cons_self
    have hdecided : LitsDecided values truth rest :=
      fun l hl => h l (List.mem_cons_of_mem lit hl)
    have hrest := clauseHolds_eq hdecided
    rw [clauseHolds, hvalue, List.any_cons]
    by_cases heq : value = decide (0 < lit)
    · simp [heq, htruth.mp heq]
    · have hfalse : truth lit = false := Bool.eq_false_iff.mpr fun htrue => heq (htruth.mpr htrue)
      simp [heq, hfalse, hrest]

theorem clausesHold_eq {values : Dict ℤ Bool} {truth : ℤ → Bool} : ∀ {clauses : List Clause},
    (∀ c ∈ clauses, LitsDecided values truth c.lits) →
    clausesHold values clauses = .ok (clauses.all fun c => c.lits.any truth)
  | [], _ => rfl
  | c :: rest, h => by
    have hc := clauseHolds_eq (h c List.mem_cons_self)
    have hrest : clausesHold values rest = .ok (rest.all fun d => d.lits.any truth) :=
      clausesHold_eq fun d hd => h d (List.mem_cons_of_mem c hd)
    rw [clausesHold, hc, List.all_cons]
    cases hany : c.lits.any truth with
    | true => simpa [bind, Except.bind] using hrest
    | false => rfl

/-- A complete assignment passes exactly if it has a literal of every clause. -/
theorem verifyWitness_complete {clauses : List Clause} {n : ℕ} {a : List ℤ} (ha : Complete a n)
    (hproper : ∀ c ∈ clauses, c.Proper n) :
    verifyWitness ⟨n, clauses⟩ (a.map RawLit.int) =
      .ok (clauses.all fun c => c.lits.any fun lit => decide (lit ∈ a)) := by
  obtain ⟨values, hvalues, hlength, hget⟩ := literalValues_complete ha
  have hdecided : ∀ c ∈ clauses, LitsDecided values (fun lit => decide (lit ∈ a)) c.lits := by
    intro c hc lit hlit
    obtain ⟨hzero, hle⟩ := (hproper c hc).range lit hlit
    rw [Int.abs_eq_natAbs] at hle
    refine ⟨decide (((lit.natAbs : ℕ) : ℤ) ∈ a), ?_, ?_⟩
    · rw [Int.abs_eq_natAbs]
      exact hget lit.natAbs (by omega) (by omega)
    · rw [decide_eq_decide, decide_eq_true_iff]
      rcases lt_or_gt_of_ne hzero with hneg | hpos
      · -- a negative literal is there when its variable is not
        have hname : ((lit.natAbs : ℕ) : ℤ) = -lit := by omega
        rw [hname, ha.mem_iff_neg (l := lit) (by omega) (by omega)]
        simp only [not_lt.mpr hneg.le, iff_false]
      · have hname : ((lit.natAbs : ℕ) : ℤ) = lit := by omega
        rw [hname]
        simp only [hpos, iff_true]
  have hdefined : ¬ ∃ v ∈ varRange n, values.contains (v : ℤ) = false := by
    rintro ⟨v, hv, hnone⟩
    obtain ⟨hpos, hle⟩ := mem_varRange.mp hv
    rw [Dict.contains, hget v hpos hle] at hnone
    cases hnone
  unfold verifyWitness
  simp only [hvalues, hlength, ne_eq, not_true_eq_false, false_or, if_neg hdefined]
  exact clausesHold_eq hdecided

end Cathedral.Thin
