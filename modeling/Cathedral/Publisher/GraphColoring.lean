import Cathedral.Lib.DirectEncoding
import Cathedral.Publisher.CnfTexts

/-!
# Cathedral.Publisher.GraphColoring — colouring problems as formulas

`_find_coloring` and `gen_graph_coloring` of `real_corpus.py`, for any source of randomness. The
threshold of a coin is left to the source; the depth of the interpreter's stack is not modelled.
-/

namespace Cathedral.Publisher.GraphColoring

open PyStr Clauses DirectEncoding Graders CnfTexts

/-! ## The search for a colouring -/

/-- `adj[i]`. -/
def neighbours (edges : List (ℕ × ℕ)) (i : ℕ) : List ℕ :=
  edges.flatMap fun e => (if e.1 = i then [e.2] else []) ++ if e.2 = i then [e.1] else []

/-- `color[i]`; a node without a colour has -1. -/
def colorAt (color : List ℤ) (i : ℕ) : ℤ := color.getD i (-1)

/-- The loop of `bt(i)` over the colours, with what `bt(i + 1)` does. -/
def tryColors (edges : List (ℕ × ℕ)) (i : ℕ) (next : List ℤ → Bool × List ℤ) :
    List ℕ → List ℤ → Bool × List ℤ
  | [], color => (false, color)
  | c :: cs, color =>
    if ∀ nb ∈ neighbours edges i, colorAt color nb ≠ c then
      match next (color.set i c) with
      | (true, color) => (true, color)
      | (false, color) => tryColors edges i next cs (color.set i (-1))
    else tryColors edges i next cs color

/-- `bt`, with the number of nodes that are left. -/
def bt (kColors : ℕ) (edges : List (ℕ × ℕ)) : ℕ → ℕ → List ℤ → Bool × List ℤ
  | 0, _, color => (true, color)
  | left + 1, i, color =>
    tryColors edges i (bt kColors edges left (i + 1)) (List.range kColors) color

def findColoring (nNodes kColors : ℕ) (edges : List (ℕ × ℕ)) : Option (List ℤ) :=
  match bt kColors edges nNodes 0 (List.replicate nNodes (-1)) with
  | (true, color) => some color
  | (false, _) => none

/-! ## The generator -/

/-- The pairs `i < j` of nodes. -/
def pairs (nNodes : ℕ) : List (ℕ × ℕ) :=
  (List.range nNodes).flatMap fun i =>
    (List.range' (i + 1) (nNodes - (i + 1))).map fun j => (i, j)

variable {ρ : Type} (coin : ρ → Bool × ρ)

/-- The pairs for which `rng.random() < p`. -/
def drawEdges : List (ℕ × ℕ) → ρ → List (ℕ × ℕ) × ρ
  | [], s => ([], s)
  | e :: es, s =>
    let (kept, s) := coin s
    let (rest, s) := drawEdges es s
    (if kept then e :: rest else rest, s)

/-- The attempts; after the last one there are no edges. -/
def sampleGraph (nNodes kColors : ℕ) : ℕ → ρ → List (ℕ × ℕ)
  | 0, _ => []
  | left + 1, s =>
    let (candidate, s) := drawEdges coin (pairs nNodes) s
    match findColoring nNodes kColors candidate with
    | some _ => candidate
    | none => sampleGraph nNodes kColors left s

def var (kColors v c : ℕ) : ℤ := cellVar kColors v c

/-- The clauses of the nodes, and of the edges. -/
def coloringClauses (nNodes kColors : ℕ) (edges : List (ℕ × ℕ)) : List (List ℤ) :=
  ((List.range nNodes).flatMap fun v => oneOf (var kColors v) kColors) ++
    edges.flatMap fun e =>
      (List.range kColors).map fun c => [-var kColors e.1 c, -var kColors e.2 c]

/-- `f"c graph-coloring n_nodes={n_nodes} k_colors={k_colors} edges={len(edges)}\n"`. -/
def commentText (nNodes kColors edges : ℕ) : Option PyStr := do
  let n ← strInt nNodes
  let k ← strInt kColors
  let e ← strInt edges
  some (ofString "c graph-coloring n_nodes=" ++ n ++ ofString " k_colors=" ++ k ++
    ofString " edges=" ++ e ++ [newline])

/-- `gen_graph_coloring`; `none` where `str` raises. -/
def genGraphColoring (nNodes kColors : ℕ) (maxAttempts : ℤ) (s : ρ) : Option PyStr := do
  let edges := sampleGraph coin nNodes kColors (max 1 maxAttempts).toNat s
  let clauses := coloringClauses nNodes kColors edges
  let comment ← commentText nNodes kColors edges.length
  let header ← headerText (nNodes * kColors : ℕ) clauses.length
  let body ← bodyText clauses
  some (comment ++ header ++ body)

/-! ## What the search finds -/

variable {nNodes kColors i left : ℕ} {edges : List (ℕ × ℕ)} {color color' : List ℤ}

/-- Edges lead to later nodes. -/
def Forward (nNodes : ℕ) (edges : List (ℕ × ℕ)) : Prop := ∀ e ∈ edges, e.1 < e.2 ∧ e.2 < nNodes

/-- The nodes before `i` have proper colours, the others none. -/
structure Colored (nNodes kColors : ℕ) (edges : List (ℕ × ℕ)) (i : ℕ) (color : List ℤ) : Prop where
  length : color.length = nNodes
  before : ∀ j < i, 0 ≤ colorAt color j ∧ colorAt color j < kColors
  after : ∀ j, i ≤ j → colorAt color j = -1
  proper : ∀ e ∈ edges, e.2 < i → colorAt color e.1 ≠ colorAt color e.2

theorem mem_neighbours {j : ℕ} :
    j ∈ neighbours edges i ↔ ∃ e ∈ edges, (e.1 = i ∧ e.2 = j) ∨ (e.2 = i ∧ e.1 = j) := by
  unfold neighbours
  rw [List.mem_flatMap]
  refine exists_congr fun e => and_congr_right fun _ => ?_
  rw [List.mem_append]
  split_ifs <;> simp_all [eq_comm]

theorem colorAt_set_self (h : i < color.length) (c : ℤ) : colorAt (color.set i c) i = c := by
  rw [colorAt, List.getD_eq_getElem?_getD, List.getElem?_set_self h, Option.getD_some]

theorem colorAt_set_ne {j : ℕ} (h : i ≠ j) (c : ℤ) :
    colorAt (color.set i c) j = colorAt color j := by
  rw [colorAt, colorAt, List.getD_eq_getElem?_getD, List.getElem?_set_ne h,
    List.getD_eq_getElem?_getD]

/-- A free colour extends a proper colouring. -/
theorem Colored.set (hedges : Forward nNodes edges) (h : Colored nNodes kColors edges i color)
    (hi : i < nNodes) {c : ℕ} (hc : c < kColors)
    (hfree : ∀ nb ∈ neighbours edges i, colorAt color nb ≠ c) :
    Colored nNodes kColors edges (i + 1) (color.set i c) := by
  have hself : colorAt (color.set i c) i = c := colorAt_set_self (h.length ▸ hi) c
  constructor
  · rw [List.length_set, h.length]
  · intro j hj
    rcases Nat.lt_succ_iff_lt_or_eq.mp hj with hlt | rfl
    · rw [colorAt_set_ne (by omega)]
      exact h.before j hlt
    · rw [hself]
      omega
  · intro j hj
    rw [colorAt_set_ne (by omega)]
    exact h.after j (by omega)
  · intro e he hlt
    obtain ⟨hforward, -⟩ := hedges e he
    rcases Nat.lt_succ_iff_lt_or_eq.mp hlt with hbefore | heq
    · rw [colorAt_set_ne (by omega), colorAt_set_ne (by omega)]
      exact h.proper e he hbefore
    · -- the edge ends here, and its start is a neighbour
      rw [colorAt_set_ne (by omega), heq, hself]
      exact hfree e.1 (mem_neighbours.mpr ⟨e, he, Or.inr ⟨heq, rfl⟩⟩)

theorem set_set_eq (h : Colored nNodes kColors edges i color) (hi : i < nNodes) (c : ℤ) :
    (color.set i c).set i (-1) = color := by
  have hlength : i < color.length := h.length ▸ hi
  have hnone : color[i] = -1 := by
    have hafter := h.after i le_rfl
    rwa [colorAt, List.getD_eq_getElem?_getD, List.getElem?_eq_getElem hlength,
      Option.getD_some] at hafter
  rw [List.set_set, ← hnone, List.set_getElem_self]

/-- The search either succeeds with a proper colouring, or leaves everything as it was. -/
theorem bt_cases (hedges : Forward nNodes edges) : ∀ {left i : ℕ} {color : List ℤ},
    i + left = nNodes → Colored nNodes kColors edges i color →
    (∃ color', bt kColors edges left i color = (true, color') ∧
        Colored nNodes kColors edges nNodes color') ∨
      bt kColors edges left i color = (false, color)
  | 0, i, color, hi, h => by
    have heq : i = nNodes := by omega
    exact Or.inl ⟨color, rfl, heq ▸ h⟩
  | left + 1, i, color, hi, h => by
    unfold bt
    have hlt : i < nNodes := by omega
    have hcolors : ∀ c ∈ List.range kColors, c < kColors := fun c hc => List.mem_range.mp hc
    generalize List.range kColors = cs at hcolors
    induction cs with
    | nil => exact Or.inr rfl
    | cons c cs ih =>
      obtain ⟨hc, hcs⟩ := List.forall_mem_cons.mp hcolors
      unfold tryColors
      split_ifs with hfree
      · rcases bt_cases hedges (show i + 1 + left = nNodes by omega)
          (h.set hedges hlt hc hfree) with ⟨color', hnext, hcolor'⟩ | hnext
        · rw [hnext]
          exact Or.inl ⟨color', rfl, hcolor'⟩
        · rw [hnext]
          dsimp only
          rw [set_set_eq h hlt]
          exact ih hcs
      · exact ih hcs

/-- What is found is a proper colouring. -/
theorem findColoring_proper (hedges : Forward nNodes edges)
    (h : findColoring nNodes kColors edges = some color) :
    Colored nNodes kColors edges nNodes color := by
  have hnone : ∀ j, colorAt (List.replicate nNodes (-1)) j = -1 := by
    intro j
    rw [colorAt, List.getD_eq_getElem?_getD, List.getElem?_replicate]
    split_ifs <;> rfl
  have hstart : Colored nNodes kColors edges 0 (List.replicate nNodes (-1)) := by
    refine ⟨List.length_replicate, ?_, fun j _ => hnone j, ?_⟩
    · exact fun j hj => absurd hj (Nat.not_lt_zero j)
    · exact fun e _ hlt => absurd hlt (Nat.not_lt_zero _)
  unfold findColoring at h
  rcases bt_cases hedges (Nat.zero_add nNodes) hstart with ⟨color', hbt, hcolor⟩ | hbt
  · rw [hbt] at h
    cases h
    exact hcolor
  · rw [hbt] at h
    cases h

/-! ## The graph -/

/-- Adjacent nodes have different colours. -/
def Proper (edges : List (ℕ × ℕ)) (g : Fin nNodes → Fin kColors) : Prop :=
  ∀ e ∈ edges, ∀ (hu : e.1 < nNodes) (hw : e.2 < nNodes), g ⟨e.1, hu⟩ ≠ g ⟨e.2, hw⟩

theorem exists_proper (hedges : Forward nNodes edges)
    (h : findColoring nNodes kColors edges = some color) :
    ∃ g : Fin nNodes → Fin kColors, Proper edges g := by
  have hcolored := findColoring_proper hedges h
  have hlt : ∀ v : Fin nNodes, (colorAt color v.val).toNat < kColors := by
    intro v
    obtain ⟨hpos, hless⟩ := hcolored.before v.val v.isLt
    omega
  refine ⟨fun v => ⟨(colorAt color v.val).toNat, hlt v⟩, fun e he hu hw heq => ?_⟩
  have hval : (colorAt color e.1).toNat = (colorAt color e.2).toNat := congrArg Fin.val heq
  have hfirst := (hcolored.before e.1 hu).1
  have hsecond := (hcolored.before e.2 hw).1
  exact hcolored.proper e he hw (by omega)

theorem forward_pairs : Forward nNodes (pairs nNodes) := by
  intro e he
  obtain ⟨i, hi, he⟩ := List.mem_flatMap.mp he
  obtain ⟨j, hj, rfl⟩ := List.mem_map.mp he
  have hrange := List.mem_range'_1.mp hj
  have hlt := List.mem_range.mp hi
  exact ⟨by omega, by omega⟩

theorem drawEdges_subset (coin : ρ → Bool × ρ) : ∀ (es : List (ℕ × ℕ)) (s : ρ),
    (drawEdges coin es s).1 ⊆ es
  | [], _ => List.nil_subset _
  | e :: es, s => by
    have hrest := drawEdges_subset coin es (coin s).2
    show (if (coin s).1 then e :: (drawEdges coin es (coin s).2).1
      else (drawEdges coin es (coin s).2).1) ⊆ e :: es
    split_ifs
    · exact List.cons_subset_cons e hrest
    · exact List.subset_cons_of_subset e hrest

/-- The graph that is kept can be coloured: a search has confirmed it, or it has no edges. -/
theorem sampleGraph_colorable (coin : ρ → Bool × ρ) (hk : 1 ≤ kColors) : ∀ (left : ℕ) (s : ρ),
    Forward nNodes (sampleGraph coin nNodes kColors left s) ∧
      ∃ g : Fin nNodes → Fin kColors, Proper (sampleGraph coin nNodes kColors left s) g
  | 0, s => by
    refine ⟨fun _ h => absurd h List.not_mem_nil, fun _ => ⟨0, hk⟩, ?_⟩
    exact fun _ h => absurd h List.not_mem_nil
  | left + 1, s => by
    have hforward : Forward nNodes (drawEdges coin (pairs nNodes) s).1 :=
      fun e he => forward_pairs e (drawEdges_subset coin _ s he)
    unfold sampleGraph
    dsimp only
    cases hfind : findColoring nNodes kColors (drawEdges coin (pairs nNodes) s).1 with
    | some color => exact ⟨hforward, exists_proper hforward hfind⟩
    | none => exact sampleGraph_colorable coin hk left _

/-! ## The formula -/

theorem models_coloringClauses {τ : ℤ → Bool} :
    Models τ (coloringClauses nNodes kColors edges) ↔ Models τ (direct nNodes kColors) ∧
      Models τ (edges.flatMap fun e =>
        (List.range kColors).map fun c => [-var kColors e.1 c, -var kColors e.2 c]) := models_append

/-- The clauses of the edges say that the colouring is proper. -/
theorem models_edges (hedges : Forward nNodes edges) (g : Fin nNodes → Fin kColors) :
    Models (valuation (encode g)) (edges.flatMap fun e =>
      (List.range kColors).map fun c => [-var kColors e.1 c, -var kColors e.2 c]) ↔
        Proper edges g := by
  simp only [models_flatMap, models_map,
    exists_neg_pair (cellVar_pos kColors _ _) (cellVar_pos kColors _ _), var, List.mem_range]
  constructor
  · intro h e he hu hw heq
    refine h e he (g ⟨e.1, hu⟩).val (g ⟨e.1, hu⟩).isLt ⟨?_, ?_⟩
    · rw [valuation_encode g hu (g ⟨e.1, hu⟩).isLt, decide_eq_true rfl]
    · rw [valuation_encode g hw (g ⟨e.1, hu⟩).isLt, heq, decide_eq_true rfl]
  · rintro h e he c hc ⟨hfirst, hsecond⟩
    obtain ⟨hlt, hw⟩ := hedges e he
    have hu : e.1 < nNodes := by omega
    rw [valuation_encode g hu hc] at hfirst
    rw [valuation_encode g hw hc] at hsecond
    refine h e he hu hw (Fin.ext ?_)
    rw [of_decide_eq_true hfirst, of_decide_eq_true hsecond]

theorem bijOn_coloring (hedges : Forward nNodes edges) :
    Set.BijOn encode {g : Fin nNodes → Fin kColors | Proper edges g}
      {m | Models (valuation m) (coloringClauses nNodes kColors edges)} :=
  bijOn_encode (fun _ => models_coloringClauses) (models_edges hedges)

theorem inRange_coloringClauses (hedges : Forward nNodes edges) :
    InRange (nNodes * kColors : ℕ) (coloringClauses nNodes kColors edges) := by
  refine inRange_append.mpr ⟨inRange_flatMap.mpr fun v hv => ?_, inRange_flatMap.mpr ?_⟩
  · exact inRange_cell (List.mem_range.mp hv)
  · intro e he clause hclause lit hlit
    obtain ⟨c, hc, rfl⟩ := List.mem_map.mp hclause
    obtain ⟨hlt, hw⟩ := hedges e he
    have hvar : ∀ v < nNodes, 1 ≤ |-var kColors v c| ∧
        |-var kColors v c| ≤ (nNodes * kColors : ℕ) := by
      intro v hv
      rw [abs_neg, var, abs_of_pos (cellVar_pos kColors v c)]
      exact ⟨cellVar_pos kColors v c, cellVar_le hv (List.mem_range.mp hc)⟩
    rcases List.mem_pair.mp hlit with rfl | rfl
    · exact hvar e.1 (by omega)
    · exact hvar e.2 hw

theorem proper_coloringClauses (hk : 1 ≤ kColors) (hedges : Forward nNodes edges) :
    ∀ clause ∈ coloringClauses nNodes kColors edges, clause ≠ [] ∧ 0 ∉ clause := by
  intro clause hclause
  refine ⟨?_, fun hzero => ?_⟩
  · rintro rfl
    rcases List.mem_append.mp hclause with hnode | hedge
    · obtain ⟨v, -, hv⟩ := List.mem_flatMap.mp hnode
      exact nil_notMem_oneOf hk hv
    · obtain ⟨_, -, hedge⟩ := List.mem_flatMap.mp hedge
      obtain ⟨_, -, hedge⟩ := List.mem_map.mp hedge
      cases hedge
  · have hpos := (inRange_coloringClauses hedges clause hclause 0 hzero).1
    rw [abs_zero] at hpos
    omega

theorem commentText_eq_some {n k m : ℕ} {comment : PyStr} (h : commentText n k m = some comment) :
    ∃ line, comment = letter 'c' :: line ++ [newline] ∧ OneLine line := by
  obtain ⟨_, hn, h⟩ := Option.bind_eq_some_iff.mp h
  obtain ⟨_, hk, h⟩ := Option.bind_eq_some_iff.mp h
  obtain ⟨_, hm, h⟩ := Option.bind_eq_some_iff.mp h
  cases h
  obtain ⟨rfl, -⟩ := strInt_eq_some hn
  obtain ⟨rfl, -⟩ := strInt_eq_some hk
  obtain ⟨rfl, -⟩ := strInt_eq_some hm
  refine ⟨ofString " graph-coloring n_nodes=" ++ numeral n ++ ofString " k_colors=" ++ numeral k ++
    ofString " edges=" ++ numeral m, rfl, ?_⟩
  simp only [oneLine_append]
  refine ⟨⟨⟨⟨⟨oneLine_of_all (by decide), oneLine_numeral n⟩, oneLine_of_all (by decide)⟩,
    oneLine_numeral k⟩, oneLine_of_all (by decide)⟩, oneLine_numeral m⟩

/-- For any source of randomness, any number of nodes and of attempts, and at least one colour: the
text is read as a formula over the variables `1..n_nodes * k_colors`, it is satisfiable, and an
assignment of these variables satisfies it exactly if it is the one of a proper colouring of the
graph that was kept; every proper colouring has its own. -/
theorem genGraphColoring_spec (tables : UnicodeTables) (coin : ρ → Bool × ρ) (nNodes kColors : ℕ)
    (hk : 1 ≤ kColors) (maxAttempts : ℤ) (s : ρ) (text : PyStr)
    (h : genGraphColoring coin nNodes kColors maxAttempts s = some text) :
    ∃ clauses, parseCnf tables text = some (((nNodes * kColors : ℕ) : ℤ), clauses) ∧
      InRange (nNodes * kColors : ℕ) clauses ∧ Satisfiable clauses ∧
      Set.BijOn encode
        {g : Fin nNodes → Fin kColors |
          Proper (sampleGraph coin nNodes kColors (max 1 maxAttempts).toNat s) g}
        {m | Models (valuation m) clauses} := by
  obtain ⟨comment, hcomment, h⟩ := Option.bind_eq_some_iff.mp h
  obtain ⟨header, hheader, h⟩ := Option.bind_eq_some_iff.mp h
  obtain ⟨body, hbody, h⟩ := Option.bind_eq_some_iff.mp h
  cases h
  obtain ⟨hedges, g, hg⟩ := @sampleGraph_colorable _ nNodes _ coin hk (max 1 maxAttempts).toNat s
  obtain ⟨line, rfl, hline⟩ := commentText_eq_some hcomment
  have hbij := @bijOn_coloring _ kColors _ hedges
  refine ⟨coloringClauses nNodes kColors _, ?_, inRange_coloringClauses hedges, ?_, hbij⟩
  · rw [List.append_assoc, List.append_assoc, List.singleton_append, parseCnf_comment hline]
    exact parseCnf_text hheader hbody (proper_coloringClauses hk hedges)
  · exact ⟨valuation (encode g), hbij.mapsTo hg⟩

section Draws

/-- The coins come from a list. -/
private def flip (flips : List Bool) : Bool × List Bool := (flips.headD false, flips.tail)

private def edgeText : PyStr :=
  ofString "c graph-coloring n_nodes=2 k_colors=2 edges=1\np cnf 4 6\n" ++
    ofString "1 2 0\n-1 -2 0\n3 4 0\n-3 -4 0\n-1 -3 0\n-2 -4 0\n"

/-- Two nodes, two colours and an edge. -/
theorem genGraphColoring_spec_edge :
    ∃ clauses, parseCnf asciiTables edgeText = some (((2 * 2 : ℕ) : ℤ), clauses) ∧
      InRange (2 * 2 : ℕ) clauses ∧ Satisfiable clauses ∧
      Set.BijOn encode
        {g : Fin 2 → Fin 2 | Proper (sampleGraph flip 2 2 (max 1 (500 : ℤ)).toNat [true]) g}
        {m | Models (valuation m) clauses} :=
  genGraphColoring_spec asciiTables flip 2 2 (by decide) 500 [true] edgeText (by decide +kernel)

end Draws

end Cathedral.Publisher.GraphColoring
