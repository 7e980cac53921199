import Mathlib.Algebra.Order.BigOperators.Group.List
import Mathlib.Tactic.FieldSimp
import Cathedral.Lib.Leader
import Cathedral.Lib.Table

/-!
# Cathedral.Arena.Reward — the composed weights

`game/reward.py`. The contributions of the credited solves are summed for each hotkey, gated
by liveness, summed again for each coldkey, divided by the largest coldkey sum and split evenly
over the hotkeys of the coldkey.
-/

namespace Cathedral.Arena

/-- One (miner, challenge) outcome. -/
structure SolveCredit where
  hotkey : String
  challengeId : String
  tier : ℤ
  verified : Bool
  attestGate : Bool
  tierWeight : ℚ
  speed : ℚ
  reason : String := ""
deriving DecidableEq

def SolveCredit.contrib (c : SolveCredit) : ℚ :=
  (if c.verified then 1 else 0) * (if c.attestGate then 1 else 0) * c.tierWeight * c.speed

structure MinerResult where
  hotkey : String
  coldkey : String
  archetype : String
  live : Bool
  metric : ℚ := 0
  reward : ℚ := 0
  weight : ℚ := 0
  credits : List SolveCredit := []
  notes : List String := []
deriving DecidableEq

/-- A miner as `compose` is given it. -/
structure Miner where
  hotkey : String
  coldkey : String
  archetype : String
  live : Bool
deriving DecidableEq

def Miner.result (m : Miner) : MinerResult :=
  { hotkey := m.hotkey, coldkey := m.coldkey, archetype := m.archetype, live := m.live }

/-- The results before any credit. -/
def enrolled (miners : List Miner) : Dict String MinerResult :=
  Dict.ofList (miners.map fun m => (m.hotkey, m.result))

/-- The step for one credit; a credit of no enrolled hotkey is skipped. -/
def credit (byHk : Dict String MinerResult) (c : SolveCredit) : Dict String MinerResult :=
  byHk.modify c.hotkey fun r =>
    { r with credits := r.credits ++ [c], metric := r.metric + c.contrib }

def gated (r : MinerResult) : MinerResult :=
  { r with reward := (if r.live then 1 else 0) * r.metric }

/-- The results before the normalisation. -/
def rewarded (miners : List Miner) (credits : List SolveCredit) : Dict String MinerResult :=
  (credits.foldl credit (enrolled miners)).mapItems fun _ r => gated r

def ckReward (results : Dict String MinerResult) : Dict String ℚ :=
  results.items.foldl (fun d row => d.add row.2.coldkey row.2.reward) Dict.empty

def ckHotkeys (results : Dict String MinerResult) : Dict String (List String) :=
  results.items.foldl
    (fun d row => d.set row.2.coldkey (d.getD row.2.coldkey [] ++ [row.2.hotkey])) Dict.empty

/-- The rule and the normalisation; `round6` is the final rounding to six places. -/
def compose (round6 : ℚ → ℚ) (miners : List Miner) (credits : List SolveCredit) :
    Dict String MinerResult :=
  let byHk := rewarded miners credits
  let totals := ckReward byHk
  let hotkeys := ckHotkeys byHk
  let top := Leader.top totals.values
  if 0 < top then
    totals.items.foldl (fun d entry =>
      let members := hotkeys.getD entry.1 []
      let share := entry.2 / top / members.length
      d.modifyAll members fun r => { r with weight := round6 share }) byHk
  else byHk

def coldkeyTotals (weights : Dict String ℚ) (coldkeyOf : Dict String String) : Dict String ℚ :=
  weights.items.foldl (fun d row => d.add (coldkeyOf.getD row.1 row.1) row.2) Dict.empty

/-- What a coldkey collects of a composed vector. -/
def coldkeyShare (results : Dict String MinerResult) (ck : String) : ℚ :=
  (coldkeyTotals (results.mapItems fun _ r => r.weight)
    (results.mapItems fun _ r => r.coldkey)).getD ck 0

/-! ## The stages, item by item -/

section Stages

variable {miners : List Miner} {credits : List SolveCredit}

def creditsOf (credits : List SolveCredit) (hk : String) : List SolveCredit :=
  credits.filter fun c => c.hotkey = hk

/-- The reward of an enrolled hotkey. -/
def paid (credits : List SolveCredit) (row : String × MinerResult) : ℚ :=
  (if row.2.live then 1 else 0) * ((creditsOf credits row.1).map SolveCredit.contrib).sum

theorem items_foldl_credit (d : Dict String MinerResult) :
    (credits.foldl credit d).items = d.items.map fun row =>
      (row.1, { row.2 with
        credits := row.2.credits ++ creditsOf credits row.1
        metric := row.2.metric + ((creditsOf credits row.1).map SolveCredit.contrib).sum }) := by
  induction credits generalizing d with
  | nil => simp [creditsOf]
  | cons c rest ih =>
    rw [List.foldl_cons, ih, credit, Dict.items_modify, List.map_map]
    refine List.map_congr_left fun row _ => ?_
    by_cases hc : c.hotkey = row.1
    · simp [creditsOf, hc, add_assoc]
    · simp [creditsOf, hc, Ne.symm hc]

theorem enrolled_fields {hk : String} {r : MinerResult}
    (h : (hk, r) ∈ (enrolled miners).items) : r.hotkey = hk ∧ r.metric = 0 ∧ r.weight = 0 := by
  obtain ⟨m, _, heq⟩ := List.mem_map.mp (Dict.mem_of_get?_ofList (Dict.mem_items.mp h))
  obtain ⟨rfl, rfl⟩ := Prod.mk.inj heq
  exact ⟨rfl, rfl, rfl⟩

/-- The row of a hotkey before the normalisation. -/
def rewardedRow (credits : List SolveCredit) (row : String × MinerResult) : MinerResult :=
  gated { row.2 with
    credits := row.2.credits ++ creditsOf credits row.1
    metric := row.2.metric + ((creditsOf credits row.1).map SolveCredit.contrib).sum }

theorem items_rewarded : (rewarded miners credits).items =
    (enrolled miners).items.map fun row => (row.1, rewardedRow credits row) := by
  simp only [rewarded, Dict.mapItems, items_foldl_credit, List.map_map]
  rfl

theorem rewardedRow_reward {row : String × MinerResult} (h : row ∈ (enrolled miners).items) :
    (rewardedRow credits row).reward = paid credits row := by
  simp [rewardedRow, gated, paid, (enrolled_fields h).2.1]

end Stages

/-! ## Sums and members of a coldkey -/

section Totals

variable {results : Dict String MinerResult} {ck : String}

def rowsOf (results : Dict String MinerResult) (ck : String) : List (String × MinerResult) :=
  results.items.filter fun row => row.2.coldkey = ck

theorem getD_ckReward :
    (ckReward results).getD ck 0 = ((rowsOf results ck).map fun row => row.2.reward).sum := by
  have hfold := Dict.sumOn_foldl_add (fun k => k = ck) (fun kv : String × ℚ => kv.2)
    (results.items.map fun row => (row.2.coldkey, row.2.reward)) Dict.empty
  rw [List.foldl_map, Dict.sumOn_eq, Dict.sumOn_empty, zero_add, List.filter_map,
    List.map_map] at hfold
  exact hfold

theorem mem_keys_ckReward :
    ck ∈ (ckReward results).keys ↔ ck ∈ results.items.map fun row => row.2.coldkey := by
  have hfold := Dict.mem_keys_foldl_add (fun kv : String × ℚ => kv.2)
    (results.items.map fun row => (row.2.coldkey, row.2.reward)) Dict.empty ck
  rw [List.foldl_map, List.map_map] at hfold
  exact hfold.trans (or_iff_right List.not_mem_nil)

theorem getD_ckHotkeys :
    (ckHotkeys results).getD ck [] = (rowsOf results ck).map fun row => row.2.hotkey := by
  have hloop : ∀ (rows : List (String × MinerResult)) (d : Dict String (List String)),
      (rows.foldl (fun d row =>
          d.set row.2.coldkey (d.getD row.2.coldkey [] ++ [row.2.hotkey])) d).getD ck [] =
        d.getD ck [] ++
          (rows.filter fun row => row.2.coldkey = ck).map fun row => row.2.hotkey := by
    intro rows
    induction rows with
    | nil => simp
    | cons row rest ih =>
      intro d
      rw [List.foldl_cons, ih]
      by_cases hck : row.2.coldkey = ck
      · simp [hck, Dict.getD]
      · simp [hck, Dict.getD, Dict.get?_set]
  exact hloop results.items Dict.empty

/-- A batch update, row by row. -/
theorem items_modifyAll (f : MinerResult → MinerResult) :
    ∀ {members : List String} (d : Dict String MinerResult), members.Nodup →
      (d.modifyAll members f).items =
        d.items.map fun row => if row.1 ∈ members then (row.1, f row.2) else row
  | [], d, _ => by simp [Dict.modifyAll]
  | hk :: members, d, hnd => by
    rw [List.nodup_cons] at hnd
    have hstep : d.modifyAll (hk :: members) f = (d.modify hk f).modifyAll members f := rfl
    rw [hstep, items_modifyAll f _ hnd.2, Dict.items_modify, List.map_map]
    refine List.map_congr_left fun row _ => ?_
    by_cases hrow : row.1 = hk
    · simp [hrow, hnd.1]
    · simp [hrow]

/-- The loop over the coldkeys gives every row the weight of its own coldkey. -/
theorem items_foldl_weights {group : String → List String} {w : String × ℚ → ℚ}
    (hgroup : ∀ k, (group k).Nodup) : ∀ (entries : List (String × ℚ)) (d : Dict String MinerResult),
      (entries.map Prod.fst).Nodup →
      (∀ row ∈ d.items, ∀ k, row.1 ∈ group k ↔ row.2.coldkey = k) →
      (entries.foldl (fun d entry =>
          d.modifyAll (group entry.1) fun r => { r with weight := w entry }) d).items =
        d.items.map fun row => (row.1, { row.2 with
          weight := ((Dict.find row.2.coldkey entries).map fun total =>
            w (row.2.coldkey, total)).getD row.2.weight })
  | [], d, _, _ => by simp [Dict.find]
  | (k, total) :: rest, d, hnd, hrows => by
    rw [List.map_cons, List.nodup_cons] at hnd
    have hitems := items_modifyAll (fun r => { r with weight := w (k, total) }) d (hgroup k)
    have hkept : ∀ row ∈ (d.modifyAll (group k) fun r => { r with weight := w (k, total) }).items,
        ∀ j, row.1 ∈ group j ↔ row.2.coldkey = j := by
      rw [hitems]
      intro row hrow j
      obtain ⟨old, hold, rfl⟩ := List.mem_map.mp hrow
      split_ifs
      · exact hrows old hold j
      · exact hrows old hold j
    rw [List.foldl_cons, items_foldl_weights hgroup rest _ hnd.2 hkept, hitems, List.map_map]
    refine List.map_congr_left fun row hrow => ?_
    by_cases hck : row.2.coldkey = k
    · -- no later entry is for this coldkey
      have hnone : Dict.find k rest = none := Dict.find_eq_none.mpr hnd.1
      simp [(hrows row hrow k).mpr hck, hnone, Dict.find, hck]
    · have hnot : row.1 ∉ group k := fun hmem => hck ((hrows row hrow k).mp hmem)
      simp [hnot, Dict.find, Ne.symm hck]

theorem coldkeyShare_eq :
    coldkeyShare results ck = ((rowsOf results ck).map fun row => row.2.weight).sum := by
  have hkey : ∀ row ∈ results.items,
      (results.mapItems fun _ r => r.coldkey).getD row.1 row.1 = row.2.coldkey := fun row hrow => by
    simp [Dict.getD, Dict.get?_mapItems, Dict.mem_items.mp hrow]
  have hfold := Dict.sumOn_foldl_add (fun k => k = ck) (fun kv : String × ℚ => kv.2)
    (results.items.map fun row => (row.2.coldkey, row.2.weight)) Dict.empty
  rw [List.foldl_map, Dict.sumOn_eq, Dict.sumOn_empty, zero_add, List.filter_map,
    List.map_map] at hfold
  have hsame := List.foldl_ext
    (fun (d : Dict String ℚ) (row : String × MinerResult) =>
      d.add ((results.mapItems fun _ r => r.coldkey).getD row.1 row.1) row.2.weight)
    (fun d row => d.add row.2.coldkey row.2.weight) Dict.empty
    fun d row hrow => by rw [hkey row hrow]
  have hitems : (results.mapItems fun _ r => r.weight).items =
      results.items.map fun row => (row.1, row.2.weight) := rfl
  rw [coldkeyShare, coldkeyTotals, hitems, List.foldl_map, hsame]
  exact hfold

end Totals

/-! ## The share of a coldkey -/

section Share

variable {miners : List Miner} {credits : List SolveCredit} {ck : String}

/-- What the hotkeys of a coldkey earn together. -/
def coldkeyPay (miners : List Miner) (credits : List SolveCredit) (ck : String) : ℚ :=
  ((rowsOf (enrolled miners) ck).map (paid credits)).sum

/-- The coldkeys of the enrolled hotkeys. -/
def coldkeys (miners : List Miner) : List String :=
  (enrolled miners).items.map fun row => row.2.coldkey

theorem rowsOf_rewarded : rowsOf (rewarded miners credits) ck =
    (rowsOf (enrolled miners) ck).map fun row => (row.1, rewardedRow credits row) := by
  rw [rowsOf, items_rewarded, List.filter_map]
  rfl

theorem getD_ckReward_rewarded :
    (ckReward (rewarded miners credits)).getD ck 0 = coldkeyPay miners credits ck := by
  rw [getD_ckReward, rowsOf_rewarded, List.map_map, coldkeyPay]
  exact congrArg List.sum (List.map_congr_left fun row hrow =>
    rewardedRow_reward (List.mem_of_mem_filter hrow))

theorem mem_keys_rewarded :
    ck ∈ (ckReward (rewarded miners credits)).keys ↔ ck ∈ coldkeys miners := by
  rw [mem_keys_ckReward, items_rewarded, List.map_map]
  rfl

theorem values_ckReward : (ckReward (rewarded miners credits)).values =
    (ckReward (rewarded miners credits)).keys.map (coldkeyPay miners credits) := by
  rw [Dict.values, Dict.keys, List.map_map]
  refine List.map_congr_left fun entry hentry => ?_
  have hget := Dict.mem_items.mp hentry
  simp [← getD_ckReward_rewarded, Dict.getD, hget]

/-- The hotkeys that the members of a coldkey are. -/
theorem mem_members {row : String × MinerResult} (hrow : row ∈ (rewarded miners credits).items)
    (k : String) :
    row.1 ∈ (ckHotkeys (rewarded miners credits)).getD k [] ↔ row.2.coldkey = k := by
  have hown : ∀ other ∈ (rewarded miners credits).items, other.2.hotkey = other.1 := by
    rw [items_rewarded]
    intro other hother
    obtain ⟨old, hold, rfl⟩ := List.mem_map.mp hother
    exact (enrolled_fields hold).1
  rw [getD_ckHotkeys, List.mem_map]
  constructor
  · rintro ⟨other, hother, hhotkey⟩
    obtain ⟨hmem, hck⟩ := List.mem_filter.mp hother
    have hsame : other.2 = row.2 := by
      have hkey : other.1 = row.1 := (hown other hmem).symm.trans hhotkey
      have hget := Dict.mem_items.mp hmem
      rw [hkey, Dict.mem_items.mp hrow] at hget
      exact (Option.some.inj hget).symm
    exact hsame ▸ of_decide_eq_true hck
  · exact fun hck => ⟨row, List.mem_filter.mpr ⟨hrow, decide_eq_true hck⟩, hown row hrow⟩

theorem nodup_members (k : String) :
    ((ckHotkeys (rewarded miners credits)).getD k []).Nodup := by
  have hkeys : ((rowsOf (rewarded miners credits) k).map Prod.fst).Nodup :=
    (rewarded miners credits).nodup.sublist (List.filter_sublist.map _)
  have hhotkeys : (rowsOf (rewarded miners credits) k).map (fun row => row.2.hotkey) =
      (rowsOf (rewarded miners credits) k).map Prod.fst := by
    rw [rowsOf_rewarded, List.map_map, List.map_map]
    exact List.map_congr_left fun row hrow =>
      (enrolled_fields (List.mem_of_mem_filter hrow)).1
  rw [getD_ckHotkeys, hhotkeys]
  exact hkeys

variable {round6 : ℚ → ℚ}

theorem items_compose (htop : 0 < Leader.top (ckReward (rewarded miners credits)).values) :
    (compose round6 miners credits).items = (rewarded miners credits).items.map fun row =>
      (row.1, { row.2 with
        weight := ((Dict.find row.2.coldkey (ckReward (rewarded miners credits)).items).map
          fun total => round6 (total / Leader.top (ckReward (rewarded miners credits)).values /
            ((ckHotkeys (rewarded miners credits)).getD row.2.coldkey []).length)).getD
              row.2.weight }) := by
  rw [compose, if_pos htop]
  exact items_foldl_weights
    (w := fun entry => round6 (entry.2 / Leader.top (ckReward (rewarded miners credits)).values /
      ((ckHotkeys (rewarded miners credits)).getD entry.1 []).length))
    nodup_members (ckReward (rewarded miners credits)).items (rewarded miners credits)
    (ckReward (rewarded miners credits)).nodup fun row hrow => mem_members hrow

/-- The weight of a member, where something is shared. -/
theorem weight_compose (htop : 0 < Leader.top (ckReward (rewarded miners credits)).values)
    {row : String × MinerResult} (hrow : row ∈ rowsOf (compose round6 miners credits) ck) :
    row.2.weight = round6 (coldkeyPay miners credits ck /
      Leader.top (ckReward (rewarded miners credits)).values /
        (rowsOf (rewarded miners credits) ck).length) := by
  obtain ⟨hmem, hck⟩ := List.mem_filter.mp hrow
  rw [items_compose htop] at hmem
  obtain ⟨old, hold, rfl⟩ := List.mem_map.mp hmem
  have hck : old.2.coldkey = ck := of_decide_eq_true hck
  have hkey : ck ∈ (ckReward (rewarded miners credits)).keys :=
    mem_keys_ckReward.mpr (List.mem_map.mpr ⟨old, hold, hck⟩)
  obtain ⟨total, hget⟩ := Dict.mem_keys.mp hkey
  have htotal : total = coldkeyPay miners credits ck := by
    rw [← getD_ckReward_rewarded, Dict.getD, hget, Option.getD_some]
  have hfind : Dict.find ck (ckReward (rewarded miners credits)).items = some total := hget
  simp only [hck, hfind, Option.map_some, Option.getD_some, htotal, getD_ckHotkeys,
    List.length_map]

theorem length_rowsOf_compose (htop : 0 < Leader.top (ckReward (rewarded miners credits)).values) :
    (rowsOf (compose round6 miners credits) ck).length =
      (rowsOf (rewarded miners credits) ck).length := by
  rw [rowsOf, items_compose htop, List.filter_map, List.length_map]
  rfl

theorem coldkeyPay_nonneg (h : ∀ c ∈ credits, 0 ≤ c.contrib) :
    0 ≤ coldkeyPay miners credits ck := by
  refine List.sum_nonneg fun pay hpay => ?_
  obtain ⟨row, _, rfl⟩ := List.mem_map.mp hpay
  have hsum : 0 ≤ ((creditsOf credits row.1).map SolveCredit.contrib).sum := by
    refine List.sum_nonneg fun x hx => ?_
    obtain ⟨c, hc, rfl⟩ := List.mem_map.mp hx
    exact h c (List.mem_of_mem_filter hc)
  rw [paid]
  split_ifs
  · rwa [one_mul]
  · rw [zero_mul]

theorem weight_nonneg (hround : ∀ x, 0 ≤ x → 0 ≤ round6 x) (h : ∀ c ∈ credits, 0 ≤ c.contrib)
    {row : String × MinerResult} (hrow : row ∈ (compose round6 miners credits).items) :
    0 ≤ row.2.weight := by
  by_cases htop : 0 < Leader.top (ckReward (rewarded miners credits)).values
  · have hmem : row ∈ rowsOf (compose round6 miners credits) row.2.coldkey :=
      List.mem_filter.mpr ⟨hrow, decide_eq_true rfl⟩
    rw [weight_compose htop hmem]
    exact hround _ (div_nonneg (div_nonneg (coldkeyPay_nonneg h) htop.le) (Nat.cast_nonneg _))
  · rw [compose, if_neg htop, items_rewarded] at hrow
    obtain ⟨old, hold, rfl⟩ := List.mem_map.mp hrow
    exact (enrolled_fields hold).2.2.ge

/-- In exact arithmetic the members of a coldkey collect its sum over the largest one. -/
theorem coldkeyShare_compose : coldkeyShare (compose (fun x => x) miners credits) ck =
    Leader.shareOf (coldkeys miners) (coldkeyPay miners credits) ck := by
  have hscore : Leader.shareOf (coldkeys miners) (coldkeyPay miners credits) ck =
      Leader.shareOf (ckReward (rewarded miners credits)).keys (coldkeyPay miners credits) ck :=
    Leader.shareOf_congr (fun j => mem_keys_rewarded.symm) (fun _ _ => rfl) rfl
  rw [hscore, Leader.shareOf, ← values_ckReward, Leader.share, coldkeyShare_eq]
  split_ifs with htop
  · have hsum := List.eq_replicate_of_mem fun weight (hweight : weight ∈
        (rowsOf (compose (fun x => x) miners credits) ck).map fun row => row.2.weight) => by
      obtain ⟨row, hrow, rfl⟩ := List.mem_map.mp hweight
      exact weight_compose htop hrow
    rw [hsum, List.sum_replicate, List.length_map, length_rowsOf_compose htop, nsmul_eq_mul]
    by_cases hnil : rowsOf (rewarded miners credits) ck = []
    · -- a coldkey without hotkeys earns nothing
      have hpay : coldkeyPay miners credits ck = 0 := by
        rw [← getD_ckReward_rewarded, getD_ckReward, hnil, List.map_nil, List.sum_nil]
      rw [hpay, hnil, zero_div, zero_div, mul_zero]
    · have hlen : ((rowsOf (rewarded miners credits) ck).length : ℚ) ≠ 0 :=
        Nat.cast_ne_zero.mpr (List.length_pos_of_ne_nil hnil).ne'
      rw [mul_div_cancel₀ _ hlen]
  · rw [compose, if_neg htop, rowsOf_rewarded, List.map_map]
    refine List.sum_eq_zero fun weight hweight => ?_
    obtain ⟨row, hrow, rfl⟩ := List.mem_map.mp hweight
    exact (enrolled_fields (List.mem_of_mem_filter hrow)).2.2

end Share

/-! ## Two runs -/

section Runs

variable {miners : List Miner} {credits credits' : List SolveCredit} {p : String → Bool}

/-- The miners whose hotkey is kept. -/
def keepHotkeys (p : String → Bool) (miners : List Miner) : List Miner :=
  miners.filter fun m => p m.hotkey

theorem get?_enrolled_keep (hk : String) : (enrolled (keepHotkeys p miners)).get? hk =
    if p hk then (enrolled miners).get? hk else none := by
  have hloop : ∀ (miners : List Miner) (d d' : Dict String MinerResult),
      (∀ k, d'.get? k = if p k then d.get? k else none) →
      (((keepHotkeys p miners).map fun m => (m.hotkey, m.result)).foldl
          (fun d kv => d.set kv.1 kv.2) d').get? hk =
        if p hk then ((miners.map fun m => (m.hotkey, m.result)).foldl
          (fun d kv => d.set kv.1 kv.2) d).get? hk else none := by
    intro miners
    induction miners with
    | nil => exact fun d d' h => h hk
    | cons m rest ih =>
      intro d d' h
      by_cases hm : p m.hotkey
      · have hcons : keepHotkeys p (m :: rest) = m :: keepHotkeys p rest :=
          List.filter_cons_of_pos hm
        rw [hcons]
        refine ih (d.set m.hotkey m.result) (d'.set m.hotkey m.result) fun k => ?_
        by_cases hk' : m.hotkey = k
        · subst hk'
          simp [hm]
        · simp only [Dict.get?_set, if_neg hk', h k]
      · have hcons : keepHotkeys p (m :: rest) = keepHotkeys p rest := List.filter_cons_of_neg hm
        rw [hcons]
        refine ih (d.set m.hotkey m.result) d' fun k => ?_
        by_cases hk' : m.hotkey = k
        · subst hk'
          simp [hm, h]
        · simp only [Dict.get?_set, if_neg hk', h k]
  refine hloop miners Dict.empty Dict.empty fun k => ?_
  simp

theorem mem_items_keep {row : String × MinerResult} :
    row ∈ (enrolled (keepHotkeys p miners)).items ↔
      row ∈ (enrolled miners).items ∧ p row.1 = true := by
  obtain ⟨hk, r⟩ := row
  rw [Dict.mem_items, Dict.mem_items, get?_enrolled_keep]
  by_cases hp : p hk
  · simp [hp]
  · simp [hp]

theorem mem_coldkeys_keep {ck : String} : ck ∈ coldkeys (keepHotkeys p miners) ↔
    ∃ row ∈ (enrolled miners).items, p row.1 = true ∧ row.2.coldkey = ck := by
  simp only [coldkeys, List.mem_map, mem_items_keep, and_assoc]

theorem coldkeyPay_keep {ck : String} : coldkeyPay (keepHotkeys p miners) credits ck =
    (((rowsOf (enrolled miners) ck).filter fun row => p row.1).map (paid credits)).sum := by
  have hnd : ∀ miners : List Miner, (enrolled miners).items.Nodup :=
    fun miners => (enrolled miners).nodup.of_map
  have hperm : (rowsOf (enrolled (keepHotkeys p miners)) ck).Perm
      ((rowsOf (enrolled miners) ck).filter fun row => p row.1) := by
    refine (List.perm_ext_iff_of_nodup ((hnd _).filter _) (((hnd _).filter _).filter _)).mpr
      fun row => ?_
    simp only [List.mem_filter, mem_items_keep]
    exact and_right_comm
  exact (hperm.map _).sum_eq

/-- The one row of a hotkey. -/
theorem filter_hotkey {hk : String} {r : MinerResult} (h : (enrolled miners).get? hk = some r) :
    (enrolled miners).items.filter (fun row => row.1 = hk) = [(hk, r)] := by
  have hnd : (enrolled miners).items.Nodup := (enrolled miners).nodup.of_map
  refine List.perm_singleton.mp ((List.perm_ext_iff_of_nodup (hnd.filter _)
    (List.nodup_singleton _)).mpr fun row => ?_)
  rw [List.mem_filter, List.mem_singleton]
  constructor
  · rintro ⟨hmem, hkey⟩
    obtain ⟨key, other⟩ := row
    obtain rfl : key = hk := of_decide_eq_true hkey
    have hget := Dict.mem_items.mp hmem
    rw [h] at hget
    rw [Option.some.inj hget]
  · rintro rfl
    exact ⟨Dict.mem_items.mpr h, decide_eq_true rfl⟩

/-- The rows of a coldkey that are of one hotkey. -/
theorem rowsOf_hotkey {ck hk : String} {r : MinerResult}
    (h : (enrolled miners).get? hk = some r) :
    (rowsOf (enrolled miners) ck).filter (fun row => row.1 = hk) =
      if r.coldkey = ck then [(hk, r)] else [] := by
  rw [rowsOf, List.filter_comm, filter_hotkey h]
  by_cases hck : r.coldkey = ck
  · simp [hck]
  · simp [hck]

theorem paid_congr {row : String × MinerResult}
    (h : creditsOf credits' row.1 = creditsOf credits row.1) :
    paid credits' row = paid credits row := by
  rw [paid, paid, h]

/-- What a further hotkey adds to the sum of its coldkey. -/
theorem coldkeyPay_insert {hk ck : String} {r : MinerResult}
    (h : (enrolled miners).get? hk = some r)
    (hcredits : ∀ k, k ≠ hk → creditsOf credits' k = creditsOf credits k) :
    coldkeyPay miners credits' ck =
      coldkeyPay (keepHotkeys (· ≠ hk) miners) credits ck +
        if r.coldkey = ck then paid credits' (hk, r) else 0 := by
  have hsplit := ((List.filter_append_perm (fun row : String × MinerResult => row.1 = hk)
    (rowsOf (enrolled miners) ck)).map (paid credits')).sum_eq
  rw [List.map_append, List.sum_append, rowsOf_hotkey h] at hsplit
  have hrest : ((rowsOf (enrolled miners) ck).filter fun row => decide (row.1 ≠ hk)).map
        (paid credits') =
      ((rowsOf (enrolled miners) ck).filter fun row => decide (row.1 ≠ hk)).map
        (paid credits) :=
    List.map_congr_left fun row hrow =>
      paid_congr (hcredits row.1 (of_decide_eq_true (List.mem_filter.mp hrow).2))
  have hnot : (fun row : String × MinerResult => !decide (row.1 = hk)) =
      fun row => decide (row.1 ≠ hk) := by
    funext row
    rw [decide_not]
  rw [hnot, hrest] at hsplit
  rw [coldkeyPay_keep, coldkeyPay, ← hsplit, add_comm]
  by_cases hck : r.coldkey = ck
  · simp [hck]
  · simp [hck]

/-- The miners with only the hotkey `hk` of the coldkey `ck`. -/
def soleHotkey (ck hk : String) (miners : List Miner) : List Miner :=
  keepHotkeys (fun k => k = hk ∨ ((enrolled miners).get? k).map (·.coldkey) ≠ some ck) miners

theorem coldkeyPay_sole {hk : String} {r : MinerResult}
    (h : (enrolled miners).get? hk = some r) (ck : String) :
    coldkeyPay (soleHotkey r.coldkey hk miners) credits ck =
      if ck = r.coldkey then paid credits (hk, r) else coldkeyPay miners credits ck := by
  have hown : ∀ row ∈ rowsOf (enrolled miners) ck,
      ((enrolled miners).get? row.1).map (·.coldkey) = some ck := fun row hrow => by
    obtain ⟨hmem, hck⟩ := List.mem_filter.mp hrow
    rw [Dict.mem_items.mp hmem, Option.map_some, of_decide_eq_true hck]
  rw [soleHotkey, coldkeyPay_keep]
  by_cases hck : ck = r.coldkey
  · subst hck
    have hfilter : ((rowsOf (enrolled miners) r.coldkey).filter fun row => decide (row.1 = hk ∨
          ((enrolled miners).get? row.1).map (·.coldkey) ≠ some r.coldkey)) =
        (rowsOf (enrolled miners) r.coldkey).filter fun row => decide (row.1 = hk) :=
      List.filter_congr fun row hrow =>
        decide_eq_decide.mpr (or_iff_left (not_not_intro (hown row hrow)))
    rw [hfilter, rowsOf_hotkey h]
    simp
  · have hall : ∀ row ∈ rowsOf (enrolled miners) ck, decide (row.1 = hk ∨
        ((enrolled miners).get? row.1).map (·.coldkey) ≠ some r.coldkey) = true := fun row hrow =>
      decide_eq_true (.inr (by simpa [hown row hrow] using hck))
    rw [List.filter_eq_self.mpr hall, if_neg hck, coldkeyPay]

theorem mem_coldkeys_sole {hk : String} {r : MinerResult}
    (h : (enrolled miners).get? hk = some r) (ck : String) :
    ck ∈ coldkeys (soleHotkey r.coldkey hk miners) ↔ ck ∈ coldkeys miners := by
  rw [soleHotkey, mem_coldkeys_keep, coldkeys, List.mem_map]
  constructor
  · rintro ⟨row, hrow, _, hck⟩
    exact ⟨row, hrow, hck⟩
  · rintro ⟨row, hrow, rfl⟩
    by_cases hck : row.2.coldkey = r.coldkey
    · exact ⟨(hk, r), Dict.mem_items.mpr h, decide_eq_true (.inl rfl), hck.symm⟩
    · refine ⟨row, hrow, decide_eq_true (.inr ?_), rfl⟩
      rw [Dict.mem_items.mp hrow]
      simpa using hck

variable {pre post : List Miner} {m : Miner}

theorem enrolled_insert (hfresh : m.hotkey ∉ (pre ++ post).map Miner.hotkey) :
    (enrolled (pre ++ m :: post)).get? m.hotkey = some m.result ∧
      keepHotkeys (· ≠ m.hotkey) (pre ++ m :: post) = pre ++ post := by
  have hother : ∀ other ∈ pre ++ post, other.hotkey ≠ m.hotkey := fun other hmem heq =>
    hfresh (List.mem_map.mpr ⟨other, hmem, heq⟩)
  constructor
  · have hkey : m.hotkey ∈ (enrolled (pre ++ m :: post)).keys :=
      Dict.mem_keys_ofList.mpr (by simp)
    obtain ⟨r, hget⟩ := Dict.mem_keys.mp hkey
    obtain ⟨other, hmem, heq⟩ := List.mem_map.mp (Dict.mem_of_get?_ofList hget)
    obtain ⟨hhotkey, rfl⟩ := Prod.mk.inj heq
    rcases List.mem_append.mp hmem with hpre | hpost
    · exact absurd hhotkey (hother other (List.mem_append_left _ hpre))
    · rcases List.mem_cons.mp hpost with rfl | hpost
      · exact hget
      · exact absurd hhotkey (hother other (List.mem_append_right _ hpost))
  · have hpre : pre.filter (fun other => decide (other.hotkey ≠ m.hotkey)) = pre :=
      List.filter_eq_self.mpr fun other hmem =>
        decide_eq_true (hother other (List.mem_append_left _ hmem))
    have hpost : post.filter (fun other => decide (other.hotkey ≠ m.hotkey)) = post :=
      List.filter_eq_self.mpr fun other hmem =>
        decide_eq_true (hother other (List.mem_append_right _ hmem))
    rw [keepHotkeys, List.filter_append, List.filter_cons_of_neg (by simp), hpre, hpost]

/-- A further hotkey of a coldkey moves no share exactly where it is paid nothing, nobody is
paid anything positive with or without it, or its coldkey is the only one that is paid. -/
theorem shares_insert_iff (hfresh : m.hotkey ∉ (pre ++ post).map Miner.hotkey)
    (hown : m.coldkey ∈ coldkeys (pre ++ post))
    (hcredits : ∀ hk, hk ≠ m.hotkey → creditsOf credits' hk = creditsOf credits hk) :
    (∀ ck ∈ coldkeys (pre ++ post),
        coldkeyShare (compose (fun x => x) (pre ++ m :: post) credits') ck =
          coldkeyShare (compose (fun x => x) (pre ++ post) credits) ck) ↔
      paid credits' (m.hotkey, m.result) = 0 ∨
      (∀ ck ∈ coldkeys (pre ++ post), coldkeyPay (pre ++ post) credits ck ≤ 0 ∧
        coldkeyPay (pre ++ m :: post) credits' ck ≤ 0) ∨
      (0 < coldkeyPay (pre ++ post) credits m.coldkey ∧
        0 < coldkeyPay (pre ++ m :: post) credits' m.coldkey ∧
        ∀ ck ∈ coldkeys (pre ++ post), ck ≠ m.coldkey →
          coldkeyPay (pre ++ post) credits ck = 0) := by
  obtain ⟨hget, hkeep⟩ := enrolled_insert hfresh
  have hpay : ∀ ck, coldkeyPay (pre ++ m :: post) credits' ck =
      coldkeyPay (pre ++ post) credits ck +
        if m.coldkey = ck then paid credits' (m.hotkey, m.result) else 0 := fun ck => by
    rw [coldkeyPay_insert hget hcredits, hkeep]
    rfl
  have hmem : ∀ ck, ck ∈ coldkeys (pre ++ m :: post) ↔ ck ∈ coldkeys (pre ++ post) := fun ck => by
    constructor
    · intro hck
      obtain ⟨row, hrow, rfl⟩ := List.mem_map.mp hck
      by_cases hhk : row.1 = m.hotkey
      · have hrow' := Dict.mem_items.mp hrow
        rw [hhk, hget] at hrow'
        rw [← Option.some.inj hrow']
        exact hown
      · rw [← hkeep]
        exact mem_coldkeys_keep.mpr ⟨row, hrow, decide_eq_true hhk, rfl⟩
    · intro hck
      rw [← hkeep] at hck
      obtain ⟨row, hrow, _, hck⟩ := mem_coldkeys_keep.mp hck
      exact List.mem_map.mpr ⟨row, hrow, hck⟩
  have hshare : ∀ ck, coldkeyShare (compose (fun x => x) (pre ++ m :: post) credits') ck =
      Leader.shareOf (coldkeys (pre ++ post)) (coldkeyPay (pre ++ m :: post) credits') ck :=
    fun ck => coldkeyShare_compose.trans (Leader.shareOf_congr hmem (fun _ _ => rfl) rfl)
  have hself : coldkeyPay (pre ++ m :: post) credits' m.coldkey =
      coldkeyPay (pre ++ post) credits m.coldkey ↔ paid credits' (m.hotkey, m.result) = 0 := by
    rw [hpay, if_pos rfl, add_eq_left]
  simp only [hshare, coldkeyShare_compose]
  rw [Leader.shares_eq_iff hown fun ck _ hne => (hpay ck).trans (by rw [if_neg hne.symm, add_zero]),
    hself]

/-- A coldkey is given no more than with one hotkey alone exactly where that hotkey is paid no
less than all of them, leads the coldkeys by itself, or nobody is paid anything positive. -/
theorem share_sole_iff {hk : String} {r : MinerResult}
    (h : (enrolled miners).get? hk = some r) :
    coldkeyShare (compose (fun x => x) miners credits) r.coldkey ≤
        coldkeyShare (compose (fun x => x) (soleHotkey r.coldkey hk miners) credits) r.coldkey ↔
      coldkeyPay miners credits r.coldkey ≤ paid credits (hk, r) ∨
      (0 < paid credits (hk, r) ∧ ∀ ck ∈ coldkeys miners, ck ≠ r.coldkey →
        coldkeyPay miners credits ck ≤ paid credits (hk, r)) ∨
      (coldkeyPay miners credits r.coldkey ≤ 0 ∧ ∀ ck ∈ coldkeys miners, ck ≠ r.coldkey →
        coldkeyPay miners credits ck ≤ 0) := by
  have hown : r.coldkey ∈ coldkeys miners :=
    List.mem_map.mpr ⟨(hk, r), Dict.mem_items.mpr h, rfl⟩
  have hsole : Leader.shareOf (coldkeys (soleHotkey r.coldkey hk miners))
        (coldkeyPay (soleHotkey r.coldkey hk miners) credits) r.coldkey =
      Leader.shareOf (coldkeys miners)
        (coldkeyPay (soleHotkey r.coldkey hk miners) credits) r.coldkey :=
    Leader.shareOf_congr (mem_coldkeys_sole h) (fun _ _ => rfl) rfl
  have hself : coldkeyPay (soleHotkey r.coldkey hk miners) credits r.coldkey =
      paid credits (hk, r) := (coldkeyPay_sole h _).trans (if_pos rfl)
  rw [coldkeyShare_compose, coldkeyShare_compose, hsole,
    Leader.shareOf_le_iff hown fun ck _ hne => (coldkeyPay_sole h ck).trans (if_neg hne), hself]

/-- When the normalisation collapses the hotkeys of a coldkey: the sum is over them all, so a
further hotkey that is paid raises its coldkey unless there is nobody else to compare with. -/
theorem sybil_collapse_iff (hfresh : m.hotkey ∉ (pre ++ post).map Miner.hotkey)
    (hown : m.coldkey ∈ coldkeys (pre ++ post))
    (hcredits : ∀ hk, hk ≠ m.hotkey → creditsOf credits' hk = creditsOf credits hk) {hk : String}
    {r : MinerResult} (hbest : (enrolled miners).get? hk = some r) :
    ((∀ ck ∈ coldkeys (pre ++ post),
        coldkeyShare (compose (fun x => x) (pre ++ m :: post) credits') ck =
          coldkeyShare (compose (fun x => x) (pre ++ post) credits) ck) ↔
      paid credits' (m.hotkey, m.result) = 0 ∨
      (∀ ck ∈ coldkeys (pre ++ post), coldkeyPay (pre ++ post) credits ck ≤ 0 ∧
        coldkeyPay (pre ++ m :: post) credits' ck ≤ 0) ∨
      (0 < coldkeyPay (pre ++ post) credits m.coldkey ∧
        0 < coldkeyPay (pre ++ m :: post) credits' m.coldkey ∧
        ∀ ck ∈ coldkeys (pre ++ post), ck ≠ m.coldkey →
          coldkeyPay (pre ++ post) credits ck = 0)) ∧
    (coldkeyShare (compose (fun x => x) miners credits) r.coldkey ≤
        coldkeyShare (compose (fun x => x) (soleHotkey r.coldkey hk miners) credits) r.coldkey ↔
      coldkeyPay miners credits r.coldkey ≤ paid credits (hk, r) ∨
      (0 < paid credits (hk, r) ∧ ∀ ck ∈ coldkeys miners, ck ≠ r.coldkey →
        coldkeyPay miners credits ck ≤ paid credits (hk, r)) ∨
      (coldkeyPay miners credits r.coldkey ≤ 0 ∧ ∀ ck ∈ coldkeys miners, ck ≠ r.coldkey →
        coldkeyPay miners credits ck ≤ 0)) :=
  ⟨shares_insert_iff hfresh hown hcredits, share_sole_iff hbest⟩

end Runs

/-! ## Two coldkeys -/

def sampleMiner (hotkey coldkey : String) : Miner :=
  { hotkey := hotkey, coldkey := coldkey, archetype := "solver", live := true }

def sampleCredit (hotkey : String) (tierWeight : ℚ) : SolveCredit :=
  { hotkey := hotkey, challengeId := "c-1", tier := 1, verified := true, attestGate := true,
    tierWeight := tierWeight, speed := 1 / 2 }

def sampleMiners : List Miner := [sampleMiner "a-1" "alice", sampleMiner "b-1" "bob"]

def sampleClone : Miner := sampleMiner "a-2" "alice"

def sampleCredits : List SolveCredit :=
  [sampleCredit "a-1" 1, sampleCredit "b-1" 2, sampleCredit "a-2" 1]

theorem sybil_collapse_iff_clone :
    ((∀ ck ∈ coldkeys (sampleMiners ++ []),
        coldkeyShare (compose (fun x => x) (sampleMiners ++ sampleClone :: []) sampleCredits) ck =
          coldkeyShare (compose (fun x => x) (sampleMiners ++ []) sampleCredits) ck) ↔
      paid sampleCredits (sampleClone.hotkey, sampleClone.result) = 0 ∨
      (∀ ck ∈ coldkeys (sampleMiners ++ []),
        coldkeyPay (sampleMiners ++ []) sampleCredits ck ≤ 0 ∧
        coldkeyPay (sampleMiners ++ sampleClone :: []) sampleCredits ck ≤ 0) ∨
      (0 < coldkeyPay (sampleMiners ++ []) sampleCredits sampleClone.coldkey ∧
        0 < coldkeyPay (sampleMiners ++ sampleClone :: []) sampleCredits sampleClone.coldkey ∧
        ∀ ck ∈ coldkeys (sampleMiners ++ []), ck ≠ sampleClone.coldkey →
          coldkeyPay (sampleMiners ++ []) sampleCredits ck = 0)) ∧
    (coldkeyShare (compose (fun x => x) sampleMiners sampleCredits) "alice" ≤
        coldkeyShare (compose (fun x => x) (soleHotkey "alice" "a-1" sampleMiners)
          sampleCredits) "alice" ↔
      coldkeyPay sampleMiners sampleCredits "alice" ≤
        paid sampleCredits ("a-1", (sampleMiner "a-1" "alice").result) ∨
      (0 < paid sampleCredits ("a-1", (sampleMiner "a-1" "alice").result) ∧
        ∀ ck ∈ coldkeys sampleMiners, ck ≠ "alice" → coldkeyPay sampleMiners sampleCredits ck ≤
          paid sampleCredits ("a-1", (sampleMiner "a-1" "alice").result)) ∨
      (coldkeyPay sampleMiners sampleCredits "alice" ≤ 0 ∧
        ∀ ck ∈ coldkeys sampleMiners, ck ≠ "alice" →
          coldkeyPay sampleMiners sampleCredits ck ≤ 0)) :=
  sybil_collapse_iff (by decide) (by decide) (fun _ _ => rfl)
    (r := (sampleMiner "a-1" "alice").result) (by decide)

/-- A clone that earns what the first hotkey earns doubles the share of the coldkey, which is
then more than its best hotkey's alone. -/
theorem sybil_collapse_clone :
    paid sampleCredits (sampleClone.hotkey, sampleClone.result) ≤
        paid sampleCredits ("a-1", (sampleMiner "a-1" "alice").result) ∧
      coldkeyShare (compose (fun x => x) sampleMiners sampleCredits) "alice" = 1 / 2 ∧
      coldkeyShare (compose (fun x => x) (sampleMiners ++ [sampleClone]) sampleCredits) "alice" =
        1 ∧
      coldkeyShare (compose (fun x => x) (soleHotkey "alice" "a-1" (sampleMiners ++ [sampleClone]))
        sampleCredits) "alice" = 1 / 2 := by
  decide +kernel

end Cathedral.Arena
