import Cathedral.Lib.Clauses
import Cathedral.Publisher.Graders

/-!
# Cathedral.Publisher.CnfTexts — formulas as texts, and witnesses of their models

The generators of the publisher write a formula line by line; `parse_cnf` reads it back, and
`verify_witness` checks the literals of a valuation against it.
-/

namespace Cathedral.Publisher.CnfTexts

open PyStr Clauses Graders

/-! ## Writing -/

/-- `str` of an integer, `none` where it raises. -/
def strInt (n : ℤ) : Option PyStr := if |n| < 10 ^ maxStrDigits then some (numeral n) else none

/-- `" ".join`. -/
def joinSpace : List PyStr → PyStr
  | [] => []
  | w :: ws => w ++ spaced ws

/-- `f"p cnf {n_vars} {n_clauses}\n"`. -/
def headerText (nVars nClauses : ℤ) : Option PyStr := do
  let n ← strInt nVars
  let m ← strInt nClauses
  some (ofString "p" ++ spaced [ofString "cnf", n, m] ++ [newline])

/-- `" ".join(map(str, clause)) + " 0\n"`. -/
def clauseText (clause : List ℤ) : Option PyStr := do
  let lits ← clause.mapM strInt
  some (joinSpace lits ++ spaced [ofString "0"] ++ [newline])

def bodyText (clauses : List (List ℤ)) : Option PyStr := do
  let lines ← clauses.mapM clauseText
  some lines.flatten

/-! ## What is written is read -/

variable {tables : UnicodeTables} {text header body : PyStr} {clauses : List (List ℤ)} {n m : ℤ}

theorem strInt_eq_some {w : PyStr} (h : strInt n = some w) :
    w = numeral n ∧ |n| < 10 ^ maxStrDigits := by
  unfold strInt at h
  split_ifs at h with hfits
  cases h
  exact ⟨rfl, hfits⟩

theorem int?_fits (h : |n| < 10 ^ maxStrDigits) : int? tables (numeral n) = some n := by
  rw [int?_numeral, if_pos h]

/-- Writing literals, each fits. -/
theorem mapM_strInt : ∀ {clause : List ℤ} {ws : List PyStr}, clause.mapM strInt = some ws →
    ws = clause.map numeral ∧ ∀ lit ∈ clause, |lit| < 10 ^ maxStrDigits
  | [], ws, h => by
    cases h
    exact ⟨rfl, fun _ hlit => absurd hlit List.not_mem_nil⟩
  | lit :: clause, ws, h => by
    rw [List.mapM_cons, Option.bind_eq_bind, Option.bind_eq_some_iff] at h
    obtain ⟨w, hw, h⟩ := h
    obtain ⟨rest, hrest, h⟩ := Option.bind_eq_some_iff.mp h
    cases h
    obtain ⟨rfl, hfits⟩ := strInt_eq_some hw
    obtain ⟨rfl, hall⟩ := mapM_strInt hrest
    exact ⟨rfl, List.forall_mem_cons.mpr ⟨hfits, hall⟩⟩

/-- A text without line boundaries. -/
def OneLine (t : PyStr) : Prop := ∀ p ∈ t, isLineBreak p = false

theorem oneLine_append {t t' : PyStr} : OneLine (t ++ t') ↔ OneLine t ∧ OneLine t' :=
  List.forall_mem_append

theorem oneLine_numeral (n : ℤ) : OneLine (numeral n) := fun _ => isLineBreak_of_mem_numeral

/-- A fixed text, by computation. -/
theorem oneLine_of_all {t : PyStr} (h : (t.all fun p => !isLineBreak p) = true) : OneLine t :=
  fun p hp => by simpa using List.all_eq_true.mp h p hp

theorem splitLines_headerText (h : headerText n m = some header) (rest : PyStr) :
    splitLines (header ++ rest) =
      (ofString "p" ++ spaced [ofString "cnf", numeral n, numeral m]) :: splitLines rest := by
  obtain ⟨w, hw, h⟩ := Option.bind_eq_some_iff.mp h
  obtain ⟨w', hw', h⟩ := Option.bind_eq_some_iff.mp h
  cases h
  obtain ⟨rfl, -⟩ := strInt_eq_some hw
  obtain ⟨rfl, -⟩ := strInt_eq_some hw'
  rw [List.append_assoc, List.singleton_append]
  refine splitLines_line (isLineBreak_words fun v hv => ?_) rest
  simp only [List.mem_cons, List.not_mem_nil, or_false] at hv
  rcases hv with rfl | rfl | rfl | rfl
  · exact oneLine_of_all (by decide)
  · exact oneLine_of_all (by decide)
  · exact oneLine_numeral n
  · exact oneLine_numeral m

/-- The header sets the number of variables. -/
theorem readCnfLine_header (h : headerText n m = some header) (s : CnfState) :
    readCnfLine tables s (ofString "p" ++ spaced [ofString "cnf", numeral n, numeral m]) =
      some { s with nVars := n } := by
  obtain ⟨w, hw, -⟩ := Option.bind_eq_some_iff.mp h
  obtain ⟨rfl, hfits⟩ := strInt_eq_some hw
  have hint : int? tables (numeral n) = some n := int?_fits hfits
  have hwords : ∀ v ∈ ofString "p" :: [ofString "cnf", numeral n, numeral m],
      v ≠ [] ∧ ∀ p ∈ v, isSpace p = false := by
    intro v hv
    simp only [List.mem_cons, List.not_mem_nil, or_false] at hv
    rcases hv with rfl | rfl | rfl | rfl
    · exact word_of_all (by decide) (by decide)
    · exact word_of_all (by decide) (by decide)
    · exact numeral_word n
    · exact numeral_word m
  have hstrip := strip_words hwords
  have hsplit := words_joined hwords
  have hline : ofString "p" ++ spaced [ofString "cnf", numeral n, numeral m] =
      letter 'p' :: spaced [ofString "cnf", numeral n, numeral m] := rfl
  have hletter : ¬letter 'p' = letter 'c' := by decide
  rw [hline] at hstrip hsplit ⊢
  unfold readCnfLine
  rw [hstrip]
  simp only [if_neg hletter, if_true, hsplit, hint, Option.map_some]

/-- The tokens of a clause's literals join the open clause. -/
theorem readTokens : ∀ {clause : List ℤ} {s : CnfState}, 0 ∉ clause →
    (∀ lit ∈ clause, |lit| < 10 ^ maxStrDigits) →
    (clause.map numeral).foldlM (fun s tok => (int? tables tok).map s.push) s =
      some { s with cur := s.cur ++ clause }
  | [], s, _, _ => by
    rw [List.append_nil]
    rfl
  | lit :: clause, s, hzero, hfits => by
    have hlit : lit ≠ 0 := fun h => hzero (h ▸ List.mem_cons_self)
    have hrest := readTokens (s := { s with cur := s.cur ++ [lit] })
      (fun h => hzero (List.mem_cons_of_mem lit h))
      fun l hl => hfits l (List.mem_cons_of_mem lit hl)
    rw [List.map_cons, List.foldlM_cons, int?_fits (hfits lit List.mem_cons_self),
      Option.map_some, CnfState.push, if_neg hlit]
    refine hrest.trans ?_
    rw [List.append_assoc, List.singleton_append]

def clauseLine (clause : List ℤ) : PyStr :=
  joinSpace (clause.map numeral ++ [numeral 0])

/-- The line of a clause appends it. -/
theorem readCnfLine_clause {clause : List ℤ} (hne : clause ≠ []) (hzero : 0 ∉ clause)
    (hfits : ∀ lit ∈ clause, |lit| < 10 ^ maxStrDigits) {s : CnfState}
    (hs : s.cur = []) :
    readCnfLine tables s (clauseLine clause) =
      some { s with clauses := s.clauses ++ [clause] } := by
  obtain ⟨lit, rest, rfl⟩ := List.exists_cons_of_ne_nil hne
  have hwords : ∀ v ∈ numeral lit :: (rest.map numeral ++ [numeral 0]),
      v ≠ [] ∧ ∀ p ∈ v, isSpace p = false := by
    intro v hv
    rw [← List.cons_append, ← List.map_cons, ← List.map_singleton, ← List.map_append] at hv
    obtain ⟨l, -, rfl⟩ := List.mem_map.mp hv
    exact numeral_word l
  have hline : clauseLine (lit :: rest) = numeral lit ++ spaced (rest.map numeral ++ [numeral 0]) :=
    rfl
  -- the line starts with a minus sign or a digit
  obtain ⟨p, more, hnumeral⟩ := List.exists_cons_of_ne_nil (numeral_ne_nil lit)
  have hp : p.val = 45 ∨ (48 ≤ p.val ∧ p.val ≤ 57) :=
    mem_numeral (n := lit) (by rw [hnumeral]; exact List.mem_cons_self)
  have hother : ∀ q : CodePoint, 57 < q.val → p ≠ q := by
    rintro q hq rfl
    omega
  have hstrip := strip_words hwords
  have hsplit := words_joined hwords
  have htokens : (numeral lit :: (rest.map numeral ++ [numeral 0])).foldlM
      (fun s tok => (int? tables tok).map s.push) s =
        some { s with clauses := s.clauses ++ [lit :: rest] } := by
    have hread := @readTokens tables _ s hzero hfits
    have hend : int? tables (numeral 0) = some 0 := int?_fits (by rw [abs_zero]; positivity)
    rw [← List.cons_append, ← List.map_cons, List.foldlM_append, hread, hs]
    simp only [List.nil_append, Option.bind_eq_bind, Option.bind_some, List.foldlM_cons,
      List.foldlM_nil, hend, Option.map_some, CnfState.push, if_true, reduceCtorEq, if_false]
    rfl
  rw [hline]
  rw [hnumeral, List.cons_append] at hstrip hsplit ⊢
  rw [← hnumeral] at hsplit
  unfold readCnfLine
  rw [hstrip]
  simp only [if_neg (hother (letter 'c') (by decide)), if_neg (hother (letter 'p') (by decide)),
    hsplit, htokens]

theorem clauseText_eq_some {clause : List ℤ} {line : PyStr} (hne : clause ≠ [])
    (h : clauseText clause = some line) : line = clauseLine clause ++ [newline] ∧
      ∀ lit ∈ clause, |lit| < 10 ^ maxStrDigits := by
  obtain ⟨ws, hws, h⟩ := Option.bind_eq_some_iff.mp h
  obtain ⟨rfl, hfits⟩ := mapM_strInt hws
  obtain ⟨lit, rest, rfl⟩ := List.exists_cons_of_ne_nil hne
  cases h
  refine ⟨?_, hfits⟩
  have hspaced : spaced (rest.map numeral ++ [numeral 0]) =
      spaced (rest.map numeral) ++ spaced [ofString "0"] := List.flatMap_append
  show numeral lit ++ spaced (rest.map numeral) ++ spaced [ofString "0"] ++ [newline] =
    numeral lit ++ spaced (rest.map numeral ++ [numeral 0]) ++ [newline]
  rw [hspaced, List.append_assoc (numeral lit)]

theorem isLineBreak_clauseLine {clause : List ℤ} (hne : clause ≠ []) :
    ∀ p ∈ clauseLine clause, isLineBreak p = false := by
  obtain ⟨lit, rest, rfl⟩ := List.exists_cons_of_ne_nil hne
  refine isLineBreak_words fun v hv => ?_
  change v ∈ numeral lit :: (rest.map numeral ++ [numeral 0]) at hv
  rw [← List.cons_append, ← List.map_cons, ← List.map_singleton, ← List.map_append] at hv
  obtain ⟨l, -, rfl⟩ := List.mem_map.mp hv
  exact fun _ => isLineBreak_of_mem_numeral

/-- The lines of the clauses append them. -/
theorem readBody : ∀ {clauses : List (List ℤ)} {body : PyStr} {s : CnfState},
    bodyText clauses = some body → (∀ clause ∈ clauses, clause ≠ [] ∧ 0 ∉ clause) → s.cur = [] →
    (splitLines body).foldlM (readCnfLine tables) s =
      some { s with clauses := s.clauses ++ clauses }
  | [], body, s, h, _, _ => by
    cases h
    rw [List.append_nil]
    rfl
  | clause :: clauses, body, s, h, hclauses, hs => by
    obtain ⟨lines, hlines, h⟩ := Option.bind_eq_some_iff.mp h
    rw [List.mapM_cons, Option.bind_eq_bind, Option.bind_eq_some_iff] at hlines
    obtain ⟨line, hline, hlines⟩ := hlines
    obtain ⟨rest, hrest, hlines⟩ := Option.bind_eq_some_iff.mp hlines
    cases hlines
    cases h
    obtain ⟨⟨hne, hzero⟩, hclauses⟩ := List.forall_mem_cons.mp hclauses
    obtain ⟨rfl, hfits⟩ := clauseText_eq_some hne hline
    have hbody : bodyText clauses = some rest.flatten := by
      rw [bodyText, hrest]
      rfl
    have hread := readBody (s := { s with clauses := s.clauses ++ [clause] }) hbody hclauses hs
    rw [List.flatten_cons, List.append_assoc, List.singleton_append,
      splitLines_line (isLineBreak_clauseLine hne), List.foldlM_cons,
      readCnfLine_clause hne hzero hfits hs]
    refine hread.trans ?_
    rw [List.append_assoc, List.singleton_append]

/-- A formula is read back from its text. -/
theorem parseCnf_text (hheader : headerText n m = some header)
    (hbody : bodyText clauses = some body)
    (hclauses : ∀ clause ∈ clauses, clause ≠ [] ∧ 0 ∉ clause) :
    parseCnf tables (header ++ body) = some (n, clauses) := by
  unfold parseCnf
  rw [splitLines_headerText hheader, List.foldlM_cons, readCnfLine_header hheader]
  simp only [Option.bind_eq_bind, Option.bind_some]
  rw [readBody hbody hclauses rfl]
  rfl

/-- A comment line is skipped. -/
theorem parseCnf_comment {line : PyStr} (hline : OneLine line) (text : PyStr) :
    parseCnf tables (letter 'c' :: line ++ newline :: text) = parseCnf tables text := by
  have hletter : isLineBreak (letter 'c') = false := by decide
  have hspace : isSpace (letter 'c') = false := by decide
  have hskip : readCnfLine tables ⟨0, [], []⟩ (letter 'c' :: line) = some ⟨0, [], []⟩ := by
    unfold readCnfLine
    rw [strip_cons hspace]
    simp only [if_true]
  unfold parseCnf
  rw [splitLines_line (List.forall_mem_cons.mpr ⟨hletter, hline⟩), List.foldlM_cons, hskip]
  rfl

/-! ## What is read -/

/-- No clause is empty and no literal is zero, in what is closed and in what is open. -/
def CnfState.Proper (s : CnfState) : Prop :=
  (∀ clause ∈ s.clauses, clause ≠ [] ∧ 0 ∉ clause) ∧ 0 ∉ s.cur

theorem proper_push {s : CnfState} (h : CnfState.Proper s) (lit : ℤ) :
    CnfState.Proper (s.push lit) := by
  unfold CnfState.push
  split_ifs with hzero hopen
  · exact h
  · refine ⟨List.forall_mem_append.mpr ⟨h.1, ?_⟩, List.not_mem_nil⟩
    exact List.forall_mem_singleton.mpr ⟨hopen, h.2⟩
  · refine ⟨h.1, fun hmem => ?_⟩
    rcases List.mem_append.mp hmem with hold | hnew
    · exact h.2 hold
    · exact hzero (List.mem_singleton.mp hnew).symm

theorem proper_tokens : ∀ {toks : List PyStr} {s s' : CnfState}, CnfState.Proper s →
    toks.foldlM (fun s tok => (int? tables tok).map s.push) s = some s' → CnfState.Proper s'
  | [], s, s', hs, h => by
    cases h
    exact hs
  | tok :: toks, s, s', hs, h => by
    rw [List.foldlM_cons, Option.bind_eq_bind, Option.bind_eq_some_iff] at h
    obtain ⟨mid, hmid, hrest⟩ := h
    obtain ⟨lit, -, rfl⟩ := Option.map_eq_some_iff.mp hmid
    exact proper_tokens (proper_push hs lit) hrest

theorem proper_line {s s' : CnfState} {line : PyStr} (hs : CnfState.Proper s)
    (h : readCnfLine tables s line = some s') : CnfState.Proper s' := by
  unfold readCnfLine at h
  split at h
  · cases h
    exact hs
  · split_ifs at h
    · cases h
      exact hs
    · split at h
      · obtain ⟨n, -, rfl⟩ := Option.map_eq_some_iff.mp h
        exact hs
      · cases h
        exact hs
    · exact proper_tokens hs h

theorem proper_lines : ∀ {lines : List PyStr} {s s' : CnfState}, CnfState.Proper s →
    lines.foldlM (readCnfLine tables) s = some s' → CnfState.Proper s'
  | [], s, s', hs, h => by
    cases h
    exact hs
  | line :: lines, s, s', hs, h => by
    rw [List.foldlM_cons, Option.bind_eq_bind, Option.bind_eq_some_iff] at h
    obtain ⟨mid, hmid, hrest⟩ := h
    exact proper_lines (proper_line hs hmid) hrest

/-- What is read has no empty clause and no zero. -/
theorem parseCnf_clauses (h : parseCnf tables text = some (n, clauses)) :
    ∀ clause ∈ clauses, clause ≠ [] ∧ 0 ∉ clause := by
  obtain ⟨s, hs, h⟩ := Option.bind_eq_some_iff.mp h
  obtain ⟨hclosed, hopen⟩ :=
    proper_lines ⟨fun _ h => absurd h List.not_mem_nil, List.not_mem_nil⟩ hs
  cases h
  split_ifs with hempty
  · exact hclosed
  · exact List.forall_mem_append.mpr ⟨hclosed, List.forall_mem_singleton.mpr ⟨hempty, hopen⟩⟩

/-! ## The literals of a valuation as a witness -/

variable {τ : ℤ → Bool} {lits : List ℤ} {val : Dict ℤ Bool}

/-- Literals that hold contradict nothing. -/
theorem witnessValues_isSome (hlits : ∀ lit ∈ lits, 1 ≤ |lit| ∧ |lit| ≤ n ∧ Holds τ lit)
    (hval : ∀ v b, val.get? v = some b → τ v = b) :
    ∃ val', witnessValues n lits val = some val' := by
  induction lits generalizing val with
  | nil => exact ⟨val, rfl⟩
  | cons lit lits ih =>
    obtain ⟨⟨hpos, hle, hholds⟩, hrest⟩ := List.forall_mem_cons.mp hlits
    have hzero : lit ≠ 0 := by
      rintro rfl
      rw [abs_zero] at hpos
      omega
    have hclash : ¬((val.get? |lit|).any (· ≠ decide (0 < lit))) = true := by
      intro hany
      obtain ⟨b, hb, hne⟩ := (Option.any_eq_true _ _).mp hany
      rw [← hval |lit| b hb, hholds] at hne
      simp at hne
    rw [witnessValues, if_neg hzero, if_neg (not_lt.mpr hle), if_neg hclash]
    refine ih hrest fun v b hb => ?_
    by_cases hv : |lit| = v
    · subst hv
      rw [Dict.get?_set_self] at hb
      exact hholds.trans (Option.some.inj hb)
    · rw [Dict.get?_set_ne _ _ hv] at hb
      exact hval v b hb

/-- The literals of a valuation are accepted exactly if it is a model. -/
theorem checkWitness_literals (hn : 0 ≤ n) (hrange : InRange n clauses) :
    checkWitness (n, clauses) (literals τ n) = true ↔ Models τ clauses := by
  have hlits : ∀ lit ∈ literals τ n, 1 ≤ |lit| ∧ |lit| ≤ n ∧ Holds τ lit := by
    intro lit hlit
    obtain ⟨v, hpos, hle, rfl⟩ := mem_literals.mp hlit
    rw [abs_literal (by omega)]
    exact ⟨hpos, hle, holds_literal (by omega)⟩
  have hempty : ∀ v b, (Dict.empty : Dict ℤ Bool).get? v = some b → τ v = b := by
    intro v b hb
    cases hb
  obtain ⟨val, hval⟩ := witnessValues_isSome hlits hempty
  have hvalues := witnessValues_spec hval
  have hkeys : ∀ v, v ∈ val.keys ↔ 1 ≤ v ∧ v ≤ n := by
    intro v
    rw [mem_keys_of_spec hvalues]
    constructor
    · rintro ⟨lit, hlit, rfl⟩
      exact ⟨(hlits lit hlit).1, (hlits lit hlit).2.1⟩
    · rintro ⟨hpos, hle⟩
      exact ⟨literal τ v, mem_literals.mpr ⟨v, hpos, hle, rfl⟩, abs_literal (by omega)⟩
  have hget : ∀ v, 1 ≤ v → v ≤ n → val.get? v = some (τ v) := by
    intro v hpos hle
    have hread := (hvalues.read _ (mem_literals.mpr ⟨v, hpos, hle, rfl⟩)).2.2
    rw [← holds_literal (show 0 < v by omega), abs_literal (by omega)] at hread
    exact hread
  have hcount : (val.items.length : ℤ) = n := by
    have hset : val.keys.toFinset = Finset.Icc 1 n := by
      ext v
      rw [List.mem_toFinset, hkeys, Finset.mem_Icc]
    rw [← length_keys, hset, Int.card_Icc]
    omega
  have hsat : satisfies val clauses = true ↔ Models τ clauses := by
    unfold satisfies Models
    rw [List.all_eq_true]
    refine forall₂_congr fun clause hclause => ?_
    rw [List.any_eq_true]
    refine exists_congr fun lit => and_congr_right fun hlit => ?_
    obtain ⟨hpos, hle⟩ := hrange clause hclause lit hlit
    rw [hget |lit| hpos hle, decide_eq_true_iff, Option.some_inj]
    exact Iff.rfl
  rw [checkWitness_iff, ← hsat]
  constructor
  · rintro ⟨val', hval', -, h⟩
    cases hval.symm.trans hval'
    exact h
  · exact fun h => ⟨val, hval, hcount, h⟩

end Cathedral.Publisher.CnfTexts
