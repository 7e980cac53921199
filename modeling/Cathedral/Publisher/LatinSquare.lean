import Cathedral.Lib.DirectEncoding
import Cathedral.Publisher.CnfTexts

/-!
# Cathedral.Publisher.LatinSquare — completions of Latin squares as formulas

`_full_latin_square` and `gen_latin_square` of `real_corpus.py`, for any source of randomness. The
number of clues comes from floating-point arithmetic and is a parameter.
-/

namespace Cathedral.Publisher.LatinSquare

open PyStr Clauses DirectEncoding Graders CnfTexts

/-! ## The generator -/

/-- `random.Random` as the generator uses it: what `rng.shuffle` makes of a list. -/
structure Rng (ρ : Type) where
  shuffle : {α : Type} → List α → ρ → List α × ρ
  shuffle_perm : ∀ {α : Type} (l : List α) (s : ρ), (shuffle l s).1.Perm l

/-- `base[r][c]`. -/
def base (n r c : ℕ) : ℕ := (r + c) % n

variable {ρ : Type} (rng : Rng ρ)

/-- `_full_latin_square`: the grid, by row and column. -/
def fullLatinSquare (n : ℕ) (s : ρ) : ℕ → ℕ → ℕ :=
  let (rowPerm, s) := rng.shuffle (List.range n) s
  let (colPerm, s) := rng.shuffle (List.range n) s
  let (symPerm, _) := rng.shuffle (List.range n) s
  fun r c => symPerm.getD (base n (rowPerm.getD r 0) (colPerm.getD c 0)) 0

def cells (n : ℕ) : List (ℕ × ℕ) :=
  (List.range n).flatMap fun r => (List.range n).map fun c => (r, c)

/-- `{(r, c): grid[r][c] for (r, c) in cells[:n_clues]}`. -/
def cluesOf (grid : ℕ → ℕ → ℕ) (shuffled : List (ℕ × ℕ)) (nClues : ℕ) : Dict (ℕ × ℕ) ℕ :=
  Dict.ofList ((shuffled.take nClues).map fun rc => (rc, grid rc.1 rc.2))

def var (n r c v : ℕ) : ℤ := cellVar n (r * n + c) v

/-- Every cell has exactly one value. -/
def cellClauses (n : ℕ) : List (List ℤ) :=
  (List.range n).flatMap fun r => (List.range n).flatMap fun c => oneOf (var n r c) n

/-- Every value appears in each row, and in each column. -/
def lineClauses (n : ℕ) : List (List ℤ) :=
  ((List.range n).flatMap fun r => (List.range n).map fun v =>
    (List.range n).map fun c => var n r c v) ++
  (List.range n).flatMap fun c => (List.range n).map fun v =>
    (List.range n).map fun r => var n r c v

/-- The clues are given. -/
def clueClauses (n : ℕ) (clues : Dict (ℕ × ℕ) ℕ) : List (List ℤ) :=
  clues.items.map fun clue => [var n clue.1.1 clue.1.2 clue.2]

def latinClauses (n : ℕ) (clues : Dict (ℕ × ℕ) ℕ) : List (List ℤ) :=
  cellClauses n ++ lineClauses n ++ clueClauses n clues

/-- `f"c latin-square n={n} clues={len(clues)}\n"`. -/
def commentText (n clues : ℕ) : Option PyStr := do
  let n ← strInt n
  let m ← strInt clues
  some (ofString "c latin-square n=" ++ n ++ ofString " clues=" ++ m ++ [newline])

/-- The clues of `gen_latin_square`, whose cells are drawn from a second source. -/
def emittedClues (n nClues : ℕ) (s s' : ρ) : Dict (ℕ × ℕ) ℕ :=
  cluesOf (fullLatinSquare rng n s) (rng.shuffle (cells n) s').1 nClues

/-- `gen_latin_square`; `none` where `str` raises. -/
def genLatinSquare (n nClues : ℕ) (s s' : ρ) : Option PyStr := do
  let clues := emittedClues rng n nClues s s'
  let clauses := latinClauses n clues
  let comment ← commentText n clues.items.length
  let header ← headerText (n * n * n : ℕ) clauses.length
  let body ← bodyText clauses
  some (comment ++ header ++ body)

/-! ## Squares -/

variable {n : ℕ} {clues : Dict (ℕ × ℕ) ℕ}

/-- No value occurs twice in a row or column. -/
structure Latin (L : Fin n → Fin n → Fin n) : Prop where
  rows : ∀ r, Function.Injective (L r)
  columns : ∀ c, Function.Injective fun r => L r c

/-- The square has the clues. -/
def Extends (clues : Dict (ℕ × ℕ) ℕ) (L : Fin n → Fin n → Fin n) : Prop :=
  ∀ clue ∈ clues.items, ∀ (hr : clue.1.1 < n) (hc : clue.1.2 < n),
    (L ⟨clue.1.1, hr⟩ ⟨clue.1.2, hc⟩).val = clue.2

/-- The cells of a square, row by row. -/
def flat (L : Fin n → Fin n → Fin n) : Fin (n * n) → Fin n :=
  fun p => L (argument p) ⟨p.val % n, Nat.mod_lt _ (argument p).pos⟩

/-- The square of the cells. -/
def square (g : Fin (n * n) → Fin n) : Fin n → Fin n → Fin n :=
  fun r c => g ⟨r.val * n + c.val, index_lt r.isLt c.isLt⟩

theorem square_flat (L : Fin n → Fin n → Fin n) : square (flat L) = L := by
  funext r c
  have hdiv : (r.val * n + c.val) / n = r.val := by
    rw [Nat.mul_comm, Nat.mul_add_div r.pos, Nat.div_eq_of_lt c.isLt, Nat.add_zero]
  have hmod : (r.val * n + c.val) % n = c.val := by
    rw [Nat.mul_comm, Nat.mul_add_mod, Nat.mod_eq_of_lt c.isLt]
  simp only [square, flat, argument, hdiv, hmod]

theorem flat_square (g : Fin (n * n) → Fin n) : flat (square g) = g := by
  funext p
  simp only [flat, square, argument, Nat.div_add_mod']

/-! ## The square that is drawn -/

/-- Looking up a permutation of `range(n)`: in range, and each value once. -/
theorem perm_getD {l : List ℕ} (h : l.Perm (List.range n)) :
    (∀ i < n, l.getD i 0 < n) ∧ ∀ i < n, ∀ j < n, l.getD i 0 = l.getD j 0 → i = j := by
  have hlength : l.length = n := h.length_eq.trans List.length_range
  have hnodup : l.Nodup := h.nodup_iff.mpr List.nodup_range
  have hget : ∀ i (hi : i < n), l.getD i 0 = l.get ⟨i, hlength.symm ▸ hi⟩ := by
    intro i hi
    rw [List.getD_eq_getElem?_getD, List.getElem?_eq_getElem (hlength.symm ▸ hi), Option.getD_some]
    rfl
  constructor
  · intro i hi
    rw [hget i hi]
    exact List.mem_range.mp (h.subset (List.get_mem _ _))
  · intro i hi j hj heq
    rw [hget i hi, hget j hj] at heq
    exact Fin.mk.inj_iff.mp (hnodup.get_inj_iff.mp heq)

theorem fullLatinSquare_lt (s : ρ) {r c : ℕ} (hr : r < n) : fullLatinSquare rng n s r c < n := by
  have hn : 0 < n := by omega
  refine (perm_getD (rng.shuffle_perm _ _)).1 _ ?_
  exact Nat.mod_lt _ hn

/-- The drawn square is Latin. -/
theorem fullLatinSquare_latin (n : ℕ) (s : ρ) : Latin (n := n) fun r c =>
    ⟨fullLatinSquare rng n s r.val c.val, fullLatinSquare_lt rng s r.isLt⟩ := by
  have hrow := perm_getD (rng.shuffle_perm (List.range n) s)
  have hcol := perm_getD (rng.shuffle_perm (List.range n) (rng.shuffle (List.range n) s).2)
  have hsym := perm_getD (rng.shuffle_perm (List.range n)
    (rng.shuffle (List.range n) (rng.shuffle (List.range n) s).2).2)
  constructor
  · intro r c c' heq
    have hn : 0 < n := r.pos
    have hbase := hsym.2 _ (Nat.mod_lt _ hn) _ (Nat.mod_lt _ hn) (congrArg Fin.val heq)
    have hmod := Nat.ModEq.add_left_cancel' _ hbase
    have hsum := hmod.eq_of_lt_of_lt (hcol.1 c c.isLt) (hcol.1 c' c'.isLt)
    exact Fin.ext (hcol.2 c c.isLt c' c'.isLt hsum)
  · intro c r r' heq
    have hn : 0 < n := c.pos
    have hbase := hsym.2 _ (Nat.mod_lt _ hn) _ (Nat.mod_lt _ hn) (congrArg Fin.val heq)
    have hmod := Nat.ModEq.add_right_cancel' _ hbase
    have hsum := hmod.eq_of_lt_of_lt (hrow.1 r r.isLt) (hrow.1 r' r'.isLt)
    exact Fin.ext (hrow.2 r r.isLt r' r'.isLt hsum)

/-! ## The formula -/

variable {τ : ℤ → Bool}

/-- The clauses of the cells are those of the direct encoding. -/
theorem models_cellClauses : Models τ (cellClauses n) ↔ Models τ (direct (n * n) n) := by
  unfold cellClauses direct
  simp only [models_flatMap, List.mem_range]
  constructor
  · intro h p hp
    have hn : 0 < n := by
      rcases Nat.eq_zero_or_pos n with rfl | hpos
      · exact absurd hp (Nat.not_lt_zero p)
      · exact hpos
    have hcell := h (p / n) (Nat.div_lt_of_lt_mul hp) (p % n) (Nat.mod_lt p hn)
    unfold var at hcell
    rwa [Nat.div_add_mod'] at hcell
  · intro h r hr c hc
    exact h (r * n + c) (index_lt hr hc)

theorem holds_var (L : Fin n → Fin n → Fin n) {r c v : ℕ} (hr : r < n) (hc : c < n) (hv : v < n) :
    Holds (valuation (encode (flat L))) (var n r c v) ↔ (L ⟨r, hr⟩ ⟨c, hc⟩).val = v := by
  rw [var, holds_pos (cellVar_pos n _ v), valuation_encode (flat L) (index_lt hr hc) hv,
    decide_eq_true_iff]
  have hcell := congrFun (congrFun (square_flat L) ⟨r, hr⟩) ⟨c, hc⟩
  exact Eq.congr_left (congrArg Fin.val hcell)

/-- Every value appears in each line: as many cells as values, so none twice. -/
theorem models_lines (L : Fin n → Fin n → Fin n) :
    Models (valuation (encode (flat L))) (lineClauses n) ↔ Latin L := by
  have hrow : Models (valuation (encode (flat L))) ((List.range n).flatMap fun r =>
      (List.range n).map fun v => (List.range n).map fun c => var n r c v) ↔
        ∀ r, Function.Injective (L r) := by
    simp only [models_flatMap, models_map, List.mem_range]
    constructor
    · intro h r
      refine Finite.injective_iff_surjective.mpr fun v => ?_
      obtain ⟨lit, hlit, hholds⟩ := h r.val r.isLt v.val v.isLt
      obtain ⟨c, hc, rfl⟩ := List.mem_map.mp hlit
      have hc := List.mem_range.mp hc
      exact ⟨⟨c, hc⟩, Fin.ext ((holds_var L r.isLt hc v.isLt).mp hholds)⟩
    · intro h r hr v hv
      obtain ⟨c, hc⟩ := Finite.injective_iff_surjective.mp (h ⟨r, hr⟩) ⟨v, hv⟩
      refine ⟨_, List.mem_map_of_mem (List.mem_range.mpr c.isLt), ?_⟩
      exact (holds_var L hr c.isLt hv).mpr (congrArg Fin.val hc)
  have hcolumn : Models (valuation (encode (flat L))) ((List.range n).flatMap fun c =>
      (List.range n).map fun v => (List.range n).map fun r => var n r c v) ↔
        ∀ c, Function.Injective fun r => L r c := by
    simp only [models_flatMap, models_map, List.mem_range]
    constructor
    · intro h c
      refine Finite.injective_iff_surjective.mpr fun v => ?_
      obtain ⟨lit, hlit, hholds⟩ := h c.val c.isLt v.val v.isLt
      obtain ⟨r, hr, rfl⟩ := List.mem_map.mp hlit
      have hr := List.mem_range.mp hr
      exact ⟨⟨r, hr⟩, Fin.ext ((holds_var L hr c.isLt v.isLt).mp hholds)⟩
    · intro h c hc v hv
      obtain ⟨r, hr⟩ := Finite.injective_iff_surjective.mp (h ⟨c, hc⟩) ⟨v, hv⟩
      refine ⟨_, List.mem_map_of_mem (List.mem_range.mpr r.isLt), ?_⟩
      exact (holds_var L r.isLt hc hv).mpr (congrArg Fin.val hr)
  rw [lineClauses, models_append, hrow, hcolumn]
  exact ⟨fun ⟨hrows, hcolumns⟩ => ⟨hrows, hcolumns⟩, fun h => ⟨h.rows, h.columns⟩⟩

/-- The clues are cells of a square of order `n`, with a value each. -/
def Within (n : ℕ) (clues : Dict (ℕ × ℕ) ℕ) : Prop :=
  ∀ clue ∈ clues.items, clue.1.1 < n ∧ clue.1.2 < n ∧ clue.2 < n

theorem models_clues (hclues : Within n clues) (L : Fin n → Fin n → Fin n) :
    Models (valuation (encode (flat L))) (clueClauses n clues) ↔ Extends clues L := by
  unfold clueClauses
  rw [models_map]
  constructor
  · intro h clue hclue hr hc
    obtain ⟨lit, hlit, hholds⟩ := h clue hclue
    rw [List.mem_singleton.mp hlit] at hholds
    exact (holds_var L hr hc (hclues clue hclue).2.2).mp hholds
  · intro h clue hclue
    obtain ⟨hr, hc, hv⟩ := hclues clue hclue
    exact ⟨_, List.mem_singleton_self _, (holds_var L hr hc hv).mpr (h clue hclue hr hc)⟩

/-- The models are the Latin squares with the clues. -/
theorem bijOn_latin (hclues : Within n clues) :
    Set.BijOn (fun L => encode (flat L)) {L : Fin n → Fin n → Fin n | Latin L ∧ Extends clues L}
      {m | Models (valuation m) (latinClauses n clues)} := by
  have hclauses : ∀ τ, Models τ (latinClauses n clues) ↔ Models τ (direct (n * n) n) ∧
      Models τ (lineClauses n ++ clueClauses n clues) := by
    intro τ
    rw [latinClauses, List.append_assoc, models_append, models_cellClauses]
  have hok : ∀ g : Fin (n * n) → Fin n, Models (valuation (encode g))
      (lineClauses n ++ clueClauses n clues) ↔ Latin (square g) ∧ Extends clues (square g) := by
    intro g
    have hlines := models_lines (square g)
    have hgiven := models_clues hclues (square g)
    rw [flat_square] at hlines hgiven
    rw [models_append, hlines, hgiven]
  have hflat : Set.BijOn flat {L : Fin n → Fin n → Fin n | Latin L ∧ Extends clues L}
      {g | Latin (square g) ∧ Extends clues (square g)} := by
    refine ⟨fun L hL => ?_, fun L _ L' _ heq => ?_, fun g hg => ⟨square g, hg, flat_square g⟩⟩
    · show Latin (square (flat L)) ∧ Extends clues (square (flat L))
      rwa [square_flat]
    · rw [← square_flat L, heq, square_flat]
  exact (bijOn_encode hclauses hok).comp hflat

/-! ## The clues and the text -/

/-- The clues are values of the drawn square. -/
theorem mem_emittedClues {nClues : ℕ} {s s' : ρ} {clue : (ℕ × ℕ) × ℕ}
    (h : clue ∈ (emittedClues rng n nClues s s').items) : clue.1.1 < n ∧ clue.1.2 < n ∧
      clue.2 = fullLatinSquare rng n s clue.1.1 clue.1.2 := by
  have hget := Dict.mem_items.mp h
  obtain ⟨rc, hrc, heq⟩ := List.mem_map.mp (Dict.mem_of_get?_ofList hget)
  have hcell := (rng.shuffle_perm (cells n) s').subset (List.mem_of_mem_take hrc)
  obtain ⟨r, hr, hcell⟩ := List.mem_flatMap.mp hcell
  obtain ⟨c, hc, rfl⟩ := List.mem_map.mp hcell
  obtain ⟨⟨r', c'⟩, v⟩ := clue
  cases heq
  exact ⟨List.mem_range.mp hr, List.mem_range.mp hc, rfl⟩

theorem within_emittedClues (nClues : ℕ) (s s' : ρ) :
    Within n (emittedClues rng n nClues s s') := by
  intro clue hclue
  obtain ⟨hr, hc, hv⟩ := mem_emittedClues rng hclue
  exact ⟨hr, hc, hv ▸ fullLatinSquare_lt rng s hr⟩

theorem var_range {r c v : ℕ} (hr : r < n) (hc : c < n) (hv : v < n) :
    1 ≤ |var n r c v| ∧ |var n r c v| ≤ (n * n * n : ℕ) := by
  rw [var, abs_of_pos (cellVar_pos n _ v)]
  exact ⟨cellVar_pos n _ v, cellVar_le (index_lt hr hc) hv⟩

theorem inRange_latinClauses (hclues : Within n clues) :
    InRange (n * n * n : ℕ) (latinClauses n clues) := by
  refine inRange_append.mpr ⟨inRange_append.mpr ⟨?_, inRange_append.mpr ⟨?_, ?_⟩⟩, ?_⟩
  · refine inRange_flatMap.mpr fun r hr => inRange_flatMap.mpr fun c hc => ?_
    exact inRange_cell (index_lt (List.mem_range.mp hr) (List.mem_range.mp hc))
  · refine inRange_flatMap.mpr fun r hr clause hclause lit hlit => ?_
    obtain ⟨v, hv, rfl⟩ := List.mem_map.mp hclause
    obtain ⟨c, hc, rfl⟩ := List.mem_map.mp hlit
    exact var_range (List.mem_range.mp hr) (List.mem_range.mp hc) (List.mem_range.mp hv)
  · refine inRange_flatMap.mpr fun c hc clause hclause lit hlit => ?_
    obtain ⟨v, hv, rfl⟩ := List.mem_map.mp hclause
    obtain ⟨r, hr, rfl⟩ := List.mem_map.mp hlit
    exact var_range (List.mem_range.mp hr) (List.mem_range.mp hc) (List.mem_range.mp hv)
  · intro clause hclause lit hlit
    obtain ⟨clue, hclue, rfl⟩ := List.mem_map.mp hclause
    obtain ⟨hr, hc, hv⟩ := hclues clue hclue
    rw [List.mem_singleton.mp hlit]
    exact var_range hr hc hv

/-- A clause over all of `range(n)`, under an index of it, is not empty. -/
theorem map_range_ne_nil {i : ℕ} (hi : i < n) (x : ℕ → ℤ) : (List.range n).map x ≠ [] := by
  intro hnil
  have hlength := congrArg List.length hnil
  rw [List.length_map, List.length_range, List.length_nil] at hlength
  omega

theorem proper_latinClauses (hclues : Within n clues) :
    ∀ clause ∈ latinClauses n clues, clause ≠ [] ∧ 0 ∉ clause := by
  intro clause hclause
  refine ⟨?_, fun hzero => ?_⟩
  · rintro rfl
    rcases List.mem_append.mp hclause with hsquare | hclue
    · rcases List.mem_append.mp hsquare with hcell | hline
      · obtain ⟨r, hr, hcell⟩ := List.mem_flatMap.mp hcell
        obtain ⟨c, hc, hcell⟩ := List.mem_flatMap.mp hcell
        exact nil_notMem_oneOf (List.mem_range.mp hc) hcell
      · rcases List.mem_append.mp hline with hrow | hcolumn
        · obtain ⟨r, hr, hrow⟩ := List.mem_flatMap.mp hrow
          obtain ⟨v, hv, hrow⟩ := List.mem_map.mp hrow
          exact map_range_ne_nil (List.mem_range.mp hv) _ hrow
        · obtain ⟨c, hc, hcolumn⟩ := List.mem_flatMap.mp hcolumn
          obtain ⟨v, hv, hcolumn⟩ := List.mem_map.mp hcolumn
          exact map_range_ne_nil (List.mem_range.mp hv) _ hcolumn
    · obtain ⟨clue, -, hnil⟩ := List.mem_map.mp hclue
      cases hnil
  · have hpos := (inRange_latinClauses hclues clause hclause 0 hzero).1
    rw [abs_zero] at hpos
    omega

theorem commentText_eq_some {n m : ℕ} {comment : PyStr} (h : commentText n m = some comment) :
    ∃ line, comment = letter 'c' :: line ++ [newline] ∧ OneLine line := by
  obtain ⟨_, hn, h⟩ := Option.bind_eq_some_iff.mp h
  obtain ⟨_, hm, h⟩ := Option.bind_eq_some_iff.mp h
  cases h
  obtain ⟨rfl, -⟩ := strInt_eq_some hn
  obtain ⟨rfl, -⟩ := strInt_eq_some hm
  refine ⟨ofString " latin-square n=" ++ numeral n ++ ofString " clues=" ++ numeral m, rfl, ?_⟩
  simp only [oneLine_append]
  exact ⟨⟨⟨oneLine_of_all (by decide), oneLine_numeral n⟩, oneLine_of_all (by decide)⟩,
    oneLine_numeral m⟩

/-- For any sources of randomness, any order and number of clues: the text is read as a formula over
the variables `1..n * n * n`, it is satisfiable, and an assignment of these variables satisfies it
exactly if it is the one of a Latin square with the clues; every such square has its own. -/
theorem genLatinSquare_spec (tables : UnicodeTables) (rng : Rng ρ) (n nClues : ℕ) (s s' : ρ)
    (text : PyStr) (h : genLatinSquare rng n nClues s s' = some text) :
    ∃ clauses, parseCnf tables text = some (((n * n * n : ℕ) : ℤ), clauses) ∧
      InRange (n * n * n : ℕ) clauses ∧ Satisfiable clauses ∧
      Set.BijOn (fun L => encode (flat L))
        {L : Fin n → Fin n → Fin n | Latin L ∧ Extends (emittedClues rng n nClues s s') L}
        {m | Models (valuation m) clauses} := by
  obtain ⟨comment, hcomment, h⟩ := Option.bind_eq_some_iff.mp h
  obtain ⟨header, hheader, h⟩ := Option.bind_eq_some_iff.mp h
  obtain ⟨body, hbody, h⟩ := Option.bind_eq_some_iff.mp h
  cases h
  obtain ⟨line, rfl, hline⟩ := commentText_eq_some hcomment
  have hwithin := within_emittedClues rng (n := n) nClues s s'
  have hbij := bijOn_latin hwithin
  refine ⟨latinClauses n _, ?_, inRange_latinClauses hwithin, ?_, hbij⟩
  · rw [List.append_assoc, List.append_assoc, List.singleton_append, parseCnf_comment hline]
    exact parseCnf_text hheader hbody (proper_latinClauses hwithin)
  · -- the drawn square is one of them
    have hdrawn := hbij.mapsTo ⟨fullLatinSquare_latin rng n s, fun clue hclue hr hc =>
      (mem_emittedClues rng hclue).2.2.symm⟩
    exact ⟨_, hdrawn⟩

section Draws

/-- Nothing is moved. -/
private def still : Rng Unit where
  shuffle l s := (l, s)
  shuffle_perm l _ := List.Perm.refl l

private def orderTwoText : PyStr :=
  ofString "c latin-square n=2 clues=1\np cnf 8 17\n1 2 0\n-1 -2 0\n3 4 0\n-3 -4 0\n" ++
    ofString "5 6 0\n-5 -6 0\n7 8 0\n-7 -8 0\n1 3 0\n2 4 0\n5 7 0\n6 8 0\n" ++
    ofString "1 5 0\n2 6 0\n3 7 0\n4 8 0\n1 0\n"

/-- The squares of order two with a clue. -/
theorem genLatinSquare_spec_two :
    ∃ clauses, parseCnf asciiTables orderTwoText = some (((2 * 2 * 2 : ℕ) : ℤ), clauses) ∧
      InRange (2 * 2 * 2 : ℕ) clauses ∧ Satisfiable clauses ∧
      Set.BijOn (fun L => encode (flat L))
        {L : Fin 2 → Fin 2 → Fin 2 | Latin L ∧ Extends (emittedClues still 2 1 () ()) L}
        {m | Models (valuation m) clauses} :=
  genLatinSquare_spec asciiTables still 2 1 () () orderTwoText (by decide +kernel)

end Draws

end Cathedral.Publisher.LatinSquare
