import Cathedral.Arena.Replay

/-!
# Cathedral.Arena.RootReplay — the targets that no witness violates

The fee of `game/arena/replay.py` in saturating fixed point, and the share arithmetic of
`game/arena/harness_root.py`. `hardened_hold` has the arithmetic of the five targets at full
width, and that replaying them on naturals reproduces nothing.
-/

namespace Cathedral.Arena

open PyJson (Value)

/-! ## Fixed point -/

def sat128 (v : ℤ) : ℤ := if v > 2 ^ 128 - 1 then 2 ^ 128 - 1 else v

def fixedMul (a b : ℤ) : ℤ := sat128 (a * b / 2 ^ 64)

def fixedDiv (a b : ℤ) : ℤ := if b = 0 then 0 else sat128 ((a * 2 ^ 64).fdiv b)

/-- `(x & U64MAX) << SCALE`. -/
def u64ToFixed (x : ℤ) : ℤ := x % 2 ^ 64 * 2 ^ 64

def u16ToFixed (x : ℤ) : ℤ := x % 2 ^ 16 * 2 ^ 64

def constFixed (n : ℤ) : ℤ := n * 2 ^ 64 % 2 ^ 128

def fixedToU64 (a : ℤ) : ℤ := if a / 2 ^ 64 > 2 ^ 64 - 1 then 2 ^ 64 - 1 else a / 2 ^ 64

def firstFee (amount feeRate : ℤ) : ℤ :=
  fixedToU64 (fixedMul (u64ToFixed amount) (fixedDiv (u16ToFixed feeRate) (constFixed 0xFFFF)))

/-- `amount - fee1 if amount >= fee1 else 0`. -/
def remainder (amount fee : ℤ) : ℤ := if amount ≥ fee then amount - fee else 0

/-! ## Shares -/

/-- `a // b`; the error is the name of the exception. -/
def floorDiv (a b : ℤ) : Except PyStr ℤ :=
  if b = 0 then .error (PyStr.ofString "ZeroDivisionError") else .ok (a.fdiv b)

/-- `_deposit`: the shares, and the escrow and the principal with the deposit. -/
def deposit (bought escrow principal : ℤ) : Except PyStr (ℤ × ℤ × ℤ) := do
  let shares ← floorDiv (bought * principal) escrow
  .ok (shares, escrow + bought, principal + shares)

/-- `min((owed * E) // P, E) if P else 0`. -/
def redeem (owed escrow principal : ℤ) : Except PyStr ℤ :=
  if principal = 0 then .ok 0
  else (floorDiv (owed * escrow) principal).map fun payout => min payout escrow

/-- The share of the first weight, `0` where the weights are. -/
def taoShare (total w0 w1 : ℤ) : ℤ := if w0 + w1 = 0 then 0 else (total * w0).fdiv (w0 + w1)

/-! ## Targets -/

/-- `observed[name]`, of what a harness writes. -/
def observedInt (o : Members) (name : String) : Except PyStr ℤ :=
  match get o name with
  | some (.num (.int n)) => .ok n
  | some _ => .error (PyStr.ofString "TypeError")
  | none => .error (PyStr.ofString "KeyError")

section Harnesses

variable (tables : UnicodeTables) (w o : Members)

/-- What `_conservation_harness` returns of a fee. -/
def conserved (amount fee1 : ℤ) : Members :=
  record [("amount", integer amount), ("fee1", integer fee1),
    ("delta", integer (remainder amount fee1)), ("paid", integer (fee1 + remainder amount fee1))]

def conservationHarness : Except PyStr Members := do
  let amount ← intField tables w "amount"
  let feeRate ← intField tables w "fee_rate"
  .ok (conserved amount (firstFee amount feeRate))

def conservationInv : Except PyStr Bool := do
  let fee1 ← observedInt o "fee1"
  let amount ← observedInt o "amount"
  let paid ← observedInt o "paid"
  .ok (decide (fee1 ≤ amount ∧ paid = amount))

def a1Harness : Except PyStr Members := do
  let bought ← intField tables w "bought"
  let escrow ← intField tables w "E"
  let principal ← intField tables w "P"
  let shares ← floorDiv (bought * principal) escrow
  .ok (record [("bought", integer bought), ("E", integer escrow), ("P", integer principal),
    ("shares", integer shares), ("lhs", integer (bought * principal)),
    ("rhs", integer (escrow * shares))])

def a1Inv : Except PyStr Bool := do
  let lhs ← observedInt o "lhs"
  let rhs ← observedInt o "rhs"
  .ok (decide (lhs ≥ rhs))

def a2Harness : Except PyStr Members := do
  let bought ← intField tables w "bought"
  let escrow ← intField tables w "E"
  let principal ← intField tables w "P"
  let (shares, escrowAfter, principalAfter) ← deposit bought escrow principal
  let payout ← redeem shares escrowAfter principalAfter
  .ok (record [("bought", integer bought), ("E", integer escrow), ("P", integer principal),
    ("shares", integer shares), ("E2", integer escrowAfter), ("P2", integer principalAfter),
    ("payout", integer payout)])

def a2Inv : Except PyStr Bool := do
  let payout ← observedInt o "payout"
  let bought ← observedInt o "bought"
  .ok (decide (payout ≤ bought))

def a4Harness : Except PyStr Members := do
  let total ← intField tables w "tao_total"
  let w0 ← intField tables w "w0"
  let w1 ← intField tables w "w1"
  let s0 := taoShare total w0 w1
  let s1 := total - s0
  .ok (record [("tao_total", integer total), ("w0", integer w0), ("w1", integer w1),
    ("s0", integer s0), ("s1", integer s1), ("sum", integer (s0 + s1))])

def a4Inv : Except PyStr Bool := do
  let sum ← observedInt o "sum"
  let total ← observedInt o "tao_total"
  .ok (decide (sum = total))

def f2Harness : Except PyStr Members := do
  let escrow ← intField tables w "E"
  let principal ← intField tables w "P"
  let asked ← intField tables w "owed"
  let owed := min asked principal
  let payout ← redeem owed escrow principal
  .ok (record [("E", integer escrow), ("P", integer principal), ("owed", integer owed),
    ("payout", integer payout), ("E2", integer (escrow - payout)),
    ("P2", integer (principal - owed))])

def f2Inv : Except PyStr Bool := do
  let escrow ← observedInt o "E2"
  let principal ← observedInt o "P2"
  .ok (!decide (escrow = 0 ∧ principal > 0))

end Harnesses

section Targets

variable (tables : UnicodeTables)

def conservationTarget : ReplayTarget where
  family := PyStr.ofString "A_conservation"
  source := PyStr.ofString "arena-port"
  codeSha256 := []
  propertyDesc := PyStr.ofString
    "first_fee path conserves value: fee + delta == amount, fee <= amount."
  decode := ["amount", "fee_rate"].map PyStr.ofString
  harness := conservationHarness tables
  invariant := conservationInv

/-- One of `_ROOT_SPECS`, as it is registered. -/
def rootTarget (family : String) (decode : List String)
    (harness : Members → Except PyStr Members) (invariant : Members → Except PyStr Bool)
    (desc : String) : ReplayTarget where
  family := PyStr.ofString family
  source := PyStr.ofString "root-reborn-port"
  codeSha256 := []
  propertyDesc := PyStr.ofString desc
  decode := decode.map PyStr.ofString
  harness := harness
  invariant := invariant

def a1Target : ReplayTarget :=
  rootTarget "A_conservation" ["bought", "E", "P"] (a1Harness tables) a1Inv
    "deposit: E'/P' >= E/P (existing holders not diluted)"

def a2Target : ReplayTarget :=
  rootTarget "R_roundtrip" ["bought", "E", "P"] (a2Harness tables) a2Inv
    "round-trip: redeem(deposit(bought)) <= bought (no free value)"

def a4Target : ReplayTarget :=
  rootTarget "A_conservation" ["tao_total", "w0", "w1"] (a4Harness tables) a4Inv
    "TAO split: tao_s0 + remainder == tao_total (exact)"

def f2Target : ReplayTarget :=
  rootTarget "F_emission" ["E", "P", "owed"] (f2Harness tables) f2Inv
    "no-strand: a partial redeem must not drain escrow to 0 while shares remain"

/-- The five targets under their ids, in the order in which they are registered. -/
def hardenedTargets : List (String × ReplayTarget) :=
  [("subtensor-amm:first-fee-conservation@HEAD", conservationTarget tables),
    ("subtensor-root:deposit-no-dilution@HEAD", a1Target tables),
    ("subtensor-root:redeem-roundtrip@HEAD", a2Target tables),
    ("subtensor-root:tao-split-conservation@HEAD", a4Target tables),
    ("subtensor-root:payout-no-strand@HEAD", f2Target tables)]

/-- `TARGETS`: the five, and whatever others there are. -/
def registered (others : Registry) : Registry := fun id =>
  (((hardenedTargets tables).map fun t => (PyStr.ofString t.1, t.2)).lookup id).or (others id)

end Targets

/-! ## The arithmetic -/

section Arithmetic

variable {amount feeRate : ℤ}

/-- The rate is at most one, and nothing saturates. -/
theorem firstFee_eq (h : 0 ≤ amount) (hlt : amount < 2 ^ 64) (hrate : 0 ≤ feeRate)
    (hratelt : feeRate < 2 ^ 16) :
    firstFee amount feeRate = amount * (feeRate * 2 ^ 64 / 65535) / 2 ^ 64 := by
  have hconst : constFixed 0xFFFF = 65535 * 2 ^ 64 := by decide
  have hdiv : fixedDiv (u16ToFixed feeRate) (constFixed 0xFFFF) = feeRate * 2 ^ 64 / 65535 := by
    rw [fixedDiv, hconst, if_neg (by norm_num), u16ToFixed, Int.emod_eq_of_lt hrate hratelt,
      Int.fdiv_eq_ediv_of_nonneg _ (by norm_num), Int.mul_ediv_mul_of_pos_left _ _ (by norm_num),
      sat128, if_neg (by omega)]
  have hone : feeRate * 2 ^ 64 / 65535 ≤ 2 ^ 64 := by omega
  have hpos : 0 ≤ feeRate * 2 ^ 64 / 65535 := by omega
  rw [firstFee, hdiv]
  generalize feeRate * 2 ^ 64 / 65535 = rate at hone hpos
  have hprod : amount * rate ≤ amount * 2 ^ 64 := mul_le_mul_of_nonneg_left hone h
  rw [fixedMul, u64ToFixed, Int.emod_eq_of_lt h hlt, mul_right_comm,
    Int.mul_ediv_cancel _ (by norm_num), sat128, if_neg (by omega), fixedToU64,
    if_neg (by omega)]

theorem firstFee_le (h : 0 ≤ amount) (hlt : amount < 2 ^ 64) (hrate : 0 ≤ feeRate)
    (hratelt : feeRate < 2 ^ 16) : firstFee amount feeRate ≤ amount := by
  rw [firstFee_eq h hlt hrate hratelt]
  have hone : feeRate * 2 ^ 64 / 65535 ≤ 2 ^ 64 := by omega
  have hprod := mul_le_mul_of_nonneg_left hone h
  omega

theorem fee_add_remainder {fee : ℤ} (h : fee ≤ amount) : fee + remainder amount fee = amount := by
  rw [remainder, if_pos h]
  omega

theorem floorDiv_eq {a b : ℤ} (hb : 0 < b) : floorDiv a b = .ok (a / b) := by
  rw [floorDiv, if_neg (by omega), Int.fdiv_eq_ediv_of_nonneg _ (by omega)]

variable {bought escrow principal owed : ℤ}

theorem deposit_eq (hE : 0 < escrow) : deposit bought escrow principal =
    .ok (bought * principal / escrow, escrow + bought,
      principal + bought * principal / escrow) := by
  rw [deposit, floorDiv_eq hE]
  rfl

/-- The shares are worth no more than what was paid for them. -/
theorem shares_mul_le (hE : 0 < escrow) :
    escrow * (bought * principal / escrow) ≤ bought * principal :=
  Int.mul_ediv_self_le hE.ne'

theorem shares_nonneg (hb : 0 ≤ bought) (hE : 0 < escrow) (hP : 0 ≤ principal) :
    0 ≤ bought * principal / escrow :=
  Int.ediv_nonneg (mul_nonneg hb hP) hE.le

theorem redeem_eq (hP : 0 < principal) :
    redeem owed escrow principal = .ok (min (owed * escrow / principal) escrow) := by
  rw [redeem, if_neg hP.ne', floorDiv_eq hP]
  rfl

/-- What is deposited is not redeemed for more. -/
theorem redeem_deposit (hb : 0 ≤ bought) (hE : 0 < escrow) (hP : 0 ≤ principal) :
    ∃ payout, redeem (bought * principal / escrow) (escrow + bought)
      (principal + bought * principal / escrow) = .ok payout ∧ payout ≤ bought := by
  have hpaid : escrow * (bought * principal / escrow) ≤ bought * principal := shares_mul_le hE
  have hshares := shares_nonneg hb hE hP
  generalize bought * principal / escrow = shares at hpaid hshares
  rcases hP.lt_or_eq with hpos | rfl
  · refine ⟨_, redeem_eq (by omega), (min_le_left _ _).trans ?_⟩
    refine Int.ediv_le_of_le_mul (by omega) ?_
    nlinarith
  · -- without principal there are no shares
    obtain rfl : shares = 0 := by nlinarith
    exact ⟨0, rfl, hb⟩

/-- What is paid for some of the shares leaves escrow for the others. -/
theorem redeem_part (hE : 0 < escrow) (hP : 0 ≤ principal) :
    ∃ payout, redeem (min owed principal) escrow principal = .ok payout ∧
      (0 < principal - min owed principal → 0 < escrow - payout) := by
  rcases hP.lt_or_eq with hpos | rfl
  · refine ⟨_, redeem_eq hpos, fun hleft => ?_⟩
    have hless : min owed principal < principal := by omega
    generalize min owed principal = part at hless
    have hpay : part * escrow / principal < escrow :=
      Int.ediv_lt_of_lt_mul hpos (by nlinarith)
    omega
  · exact ⟨0, rfl, fun hleft => by omega⟩

end Arithmetic

/-! ## Replays -/

section Replays

variable {tables : UnicodeTables} {targets : Registry} {id : PyStr} {target : ReplayTarget}
  {w : Members} {names : List String}

/-- The members of `w` under the names. -/
def selected (w : Members) (names : List String) : Members :=
  record (names.map fun name => (name, (get w name).getD .null))

theorem get_selected (h : ∀ name ∈ names, (get w name).isSome) {name : String}
    (hname : name ∈ names) : get (selected w names) name = get w name := by
  rw [selected, get_record]
  induction names with
  | nil => cases hname
  | cons first rest ih =>
    rw [List.map_cons, List.lookup_cons]
    by_cases heq : name = first
    · subst heq
      obtain ⟨v, hv⟩ := Option.isSome_iff_exists.mp (h name List.mem_cons_self)
      simp [hv]
    · rw [show (name == first) = false by simpa using heq]
      exact ih (fun n hn => h n (List.mem_cons_of_mem _ hn))
        ((List.mem_cons.mp hname).resolve_left heq)

theorem pick_names (h : ∀ name ∈ names, (get w name).isSome) :
    containsAll (.obj w) (names.map PyStr.ofString) = some true ∧
      pick (.obj w) (names.map PyStr.ofString) = .ok (selected w names) := by
  induction names with
  | nil => exact ⟨rfl, rfl⟩
  | cons name rest ih =>
    obtain ⟨hall, hpick⟩ := ih fun n hn => h n (List.mem_cons_of_mem _ hn)
    obtain ⟨v, hv⟩ := Option.isSome_iff_exists.mp (h name List.mem_cons_self)
    have hfind : Dict.find (PyStr.ofString name) w = some v := hv
    constructor
    · rw [List.map_cons, containsAll, PyJson.contains, hfind]
      exact hall
    · rw [pick] at hpick ⊢
      rw [List.map_cons, List.mapM_cons, hfind, hpick]
      show Except.ok _ = Except.ok _
      rw [selected, selected, List.map_cons, hv]
      rfl

/-- A replay whose harness and invariant go through on the names says what they say. -/
theorem runReplay_decides {held : Bool} (htarget : targets id = some target)
    (hdecode : target.decode = names.map PyStr.ofString) (hne : names ≠ [])
    (h : ∀ name ∈ names, (get w name).isSome)
    (hrun : ∀ w', (∀ name ∈ names, get w' name = get w name) →
      ∃ o, target.harness w' = .ok o ∧ target.invariant o = .ok held) :
    ∃ out, runReplay targets id (.obj w) = some out ∧ out.reproduced = !held ∧
      out.invariantHeld = held := by
  obtain ⟨hall, hpick⟩ := pick_names h
  obtain ⟨o, hharness, hinv⟩ := hrun _ fun name hname => get_selected h hname
  have htruthy : PyJson.truthy (.obj w) = true := by
    cases w with
    | nil =>
      obtain ⟨name, hname⟩ := List.exists_mem_of_ne_nil names hne
      exact absurd (h name hname) (by simp [get, Dict.find])
    | cons m rest => rfl
  refine ⟨⟨!held, held, o, if held then some .proofDidNotReproduce else none⟩, ?_, rfl, rfl⟩
  rw [runReplay, htarget]
  dsimp only
  rw [htruthy, if_neg (by simp), hdecode, hall, Option.bind_some, if_pos rfl, hpick]
  simp only [Except.bind, hharness]
  rw [hinv]
  rfl

theorem isSome_of_intField {name : String} {n : ℤ} (h : intField tables w name = .ok n) :
    (get w name).isSome := by
  rw [intField] at h
  cases hget : get w name with
  | none =>
    rw [hget] at h
    cases h
  | some v => rfl

theorem intField_congr {w' : Members} {name : String} (h : get w' name = get w name) :
    intField tables w' name = intField tables w name := by
  rw [intField, intField, h]

end Replays

/-! ## The five targets -/

/-- The witness gives a natural under each of the names. -/
def Naturals (tables : UnicodeTables) (w : Members) (fields : List (String × ℕ)) : Prop :=
  ∀ f ∈ fields, intField tables w f.1 = .ok (f.2 : ℤ)

/-- A replay of the target on the witness reproduces nothing. -/
def NotReproduced (targets : Registry) (id : String) (w : Members) : Prop :=
  ∃ out, runReplay targets (PyStr.ofString id) (.obj w) = some out ∧ out.reproduced = false ∧
    out.invariantHeld = true

section Targets

variable {tables : UnicodeTables} {others : Registry} {w : Members}

theorem lookup_ofString {α : Type} (l : List (String × α)) (name : String) :
    (l.map fun t => (PyStr.ofString t.1, t.2)).lookup (PyStr.ofString name) = l.lookup name := by
  induction l with
  | nil => rfl
  | cons t l ih =>
    rw [List.map_cons, List.lookup_cons, List.lookup_cons, ih]
    congr 1
    rw [Bool.eq_iff_iff, beq_iff_eq, beq_iff_eq, PyStr.ofString_injective.eq_iff]

theorem exists_of_bind {x : Except PyStr Members} {f : Members → Except PyStr Bool}
    (h : x.bind f = .ok true) : ∃ o, x = .ok o ∧ f o = .ok true := by
  cases x with
  | error name => cases h
  | ok o => exact ⟨o, rfl, h⟩

/-- A registered target whose harness and invariant go through wherever the same naturals are
given. -/
theorem notReproduced {id : String} (target : ReplayTarget) {fields : List (String × ℕ)}
    (htarget : (hardenedTargets tables).lookup id = some target)
    (hdecode : target.decode = (fields.map Prod.fst).map PyStr.ofString) (hne : fields ≠ [])
    (hw : Naturals tables w fields)
    (hrun : ∀ w', Naturals tables w' fields →
      ∃ o, target.harness w' = .ok o ∧ target.invariant o = .ok true) :
    NotReproduced (registered tables others) id w := by
  have hregistered : registered tables others (PyStr.ofString id) = some target := by
    rw [registered, lookup_ofString, htarget]
    rfl
  refine runReplay_decides hregistered hdecode (by simpa using hne) (fun name hname => ?_)
    fun w' hw' => hrun w' fun f hf => ?_
  · obtain ⟨f, hf, rfl⟩ := List.mem_map.mp hname
    exact isSome_of_intField (hw f hf)
  · rw [intField_congr (hw' f.1 (List.mem_map_of_mem hf)), hw f hf]

theorem conservationInv_conserved {amount fee1 : ℤ} (h : fee1 ≤ amount) :
    conservationInv (conserved amount fee1) = .ok true := by
  simp [conservationInv, conserved, observedInt, get_record, List.lookup_cons, integer, bind,
    Except.bind, h, fee_add_remainder h]

theorem conservation_not_reproduced {amount feeRate : ℕ} (hamount : amount < 2 ^ 64)
    (hrate : feeRate < 2 ^ 16) (hw : Naturals tables w [("amount", amount), ("fee_rate", feeRate)]) :
    NotReproduced (registered tables others) "subtensor-amm:first-fee-conservation@HEAD" w := by
  refine notReproduced (conservationTarget tables)
    (by simp [hardenedTargets]) rfl (by simp) hw fun w' hw' => ?_
  have hread : conservationHarness tables w' = .ok (conserved amount (firstFee amount feeRate)) := by
    rw [conservationHarness, hw' ("amount", amount) (by simp), hw' ("fee_rate", feeRate) (by simp)]
    rfl
  have hfee : firstFee amount feeRate ≤ amount :=
    firstFee_le (by omega) (by omega) (by omega) (by omega)
  exact ⟨_, hread, conservationInv_conserved hfee⟩

theorem deposit_not_reproduced {bought escrow principal : ℕ} (hE : 0 < escrow)
    (hw : Naturals tables w [("bought", bought), ("E", escrow), ("P", principal)]) :
    NotReproduced (registered tables others) "subtensor-root:deposit-no-dilution@HEAD" w := by
  refine notReproduced (a1Target tables)
    (by simp [hardenedTargets, List.lookup_cons]) rfl (by simp) hw fun w' hw' => ?_
  have hpaid : (escrow : ℤ) * (bought * principal / escrow) ≤ bought * principal :=
    shares_mul_le (by omega)
  refine exists_of_bind ?_
  show (a1Harness tables w').bind a1Inv = _
  rw [a1Harness, hw' ("bought", bought) (by simp), hw' ("E", escrow) (by simp),
    hw' ("P", principal) (by simp)]
  show ((floorDiv _ _).bind _).bind _ = _
  rw [floorDiv_eq (by omega)]
  show a1Inv (record _) = _
  simp [a1Inv, observedInt, get_record, List.lookup_cons, integer, bind, Except.bind, hpaid]

theorem roundtrip_not_reproduced {bought escrow principal : ℕ} (hE : 0 < escrow)
    (hw : Naturals tables w [("bought", bought), ("E", escrow), ("P", principal)]) :
    NotReproduced (registered tables others) "subtensor-root:redeem-roundtrip@HEAD" w := by
  refine notReproduced (a2Target tables)
    (by simp [hardenedTargets, List.lookup_cons]) rfl (by simp) hw fun w' hw' => ?_
  obtain ⟨payout, hpayout, hle⟩ := @redeem_deposit bought escrow principal (by omega)
    (by omega) (by omega)
  refine exists_of_bind ?_
  show (a2Harness tables w').bind a2Inv = _
  rw [a2Harness, hw' ("bought", bought) (by simp), hw' ("E", escrow) (by simp),
    hw' ("P", principal) (by simp)]
  show ((deposit _ _ _).bind _).bind _ = _
  rw [deposit_eq (by omega)]
  show ((redeem _ _ _).bind _).bind _ = _
  rw [hpayout]
  show a2Inv (record _) = _
  simp [a2Inv, observedInt, get_record, List.lookup_cons, integer, bind, Except.bind, hle]

theorem split_not_reproduced {total w0 w1 : ℕ}
    (hw : Naturals tables w [("tao_total", total), ("w0", w0), ("w1", w1)]) :
    NotReproduced (registered tables others) "subtensor-root:tao-split-conservation@HEAD" w := by
  refine notReproduced (a4Target tables)
    (by simp [hardenedTargets, List.lookup_cons]) rfl (by simp) hw fun w' hw' => ?_
  refine exists_of_bind ?_
  show (a4Harness tables w').bind a4Inv = _
  rw [a4Harness, hw' ("tao_total", total) (by simp), hw' ("w0", w0) (by simp),
    hw' ("w1", w1) (by simp)]
  show a4Inv (record _) = _
  simp [a4Inv, observedInt, get_record, List.lookup_cons, integer, bind, Except.bind]

theorem strand_not_reproduced {escrow principal owed : ℕ} (hE : 0 < escrow)
    (hw : Naturals tables w [("E", escrow), ("P", principal), ("owed", owed)]) :
    NotReproduced (registered tables others) "subtensor-root:payout-no-strand@HEAD" w := by
  refine notReproduced (f2Target tables)
    (by simp [hardenedTargets, List.lookup_cons]) rfl (by simp) hw fun w' hw' => ?_
  obtain ⟨payout, hpayout, hleft⟩ := @redeem_part escrow principal owed (by omega)
    (by omega)
  refine exists_of_bind ?_
  show (f2Harness tables w').bind f2Inv = _
  rw [f2Harness, hw' ("E", escrow) (by simp), hw' ("P", principal) (by simp),
    hw' ("owed", owed) (by simp)]
  show ((redeem _ _ _).bind _).bind _ = _
  rw [hpayout]
  show f2Inv (record _) = _
  have hheld : ¬ ((escrow : ℤ) - payout = 0 ∧ (principal : ℤ) - min ↑owed ↑principal > 0) := by
    rintro ⟨hzero, hpos⟩
    have := hleft hpos
    omega
  simp [f2Inv, observedInt, get_record, List.lookup_cons, integer, bind, Except.bind]
  omega

end Targets

/-- What the hardened targets say, and that no replay of one of them says otherwise. -/
structure HardenedHold (tables : UnicodeTables) (targets : Registry) : Prop where
  fee : ∀ amount feeRate : ℕ, amount < 2 ^ 64 → feeRate < 2 ^ 16 →
    firstFee amount feeRate ≤ amount ∧
      firstFee amount feeRate + remainder amount (firstFee amount feeRate) = amount
  noDilution : ∀ bought escrow principal : ℕ, 0 < escrow → ∃ shares escrow' principal',
    deposit bought escrow principal = .ok (shares, escrow', principal') ∧
      (escrow / principal : ℚ) ≤ escrow' / principal' ∧ escrow * principal' ≤ escrow' * principal
  roundtrip : ∀ bought escrow principal : ℕ, 0 < escrow → ∃ shares escrow' principal' payout,
    deposit bought escrow principal = .ok (shares, escrow', principal') ∧
      redeem shares escrow' principal' = .ok payout ∧ payout ≤ bought
  split : ∀ total w0 w1 : ℕ, taoShare total w0 w1 + (total - taoShare total w0 w1) = total ∧
    0 ≤ taoShare total w0 w1 ∧ taoShare total w0 w1 ≤ total
  noStrand : ∀ escrow principal owed : ℕ, 0 < escrow → ∃ payout,
    redeem (min owed principal : ℤ) escrow principal = .ok payout ∧
      ((0 : ℤ) < principal - min (owed : ℤ) principal → (0 : ℤ) < escrow - payout)
  feeReplay : ∀ (w : Members) (amount feeRate : ℕ), amount < 2 ^ 64 → feeRate < 2 ^ 16 →
    Naturals tables w [("amount", amount), ("fee_rate", feeRate)] →
      NotReproduced targets "subtensor-amm:first-fee-conservation@HEAD" w
  depositReplay : ∀ (w : Members) (bought escrow principal : ℕ), 0 < escrow →
    Naturals tables w [("bought", bought), ("E", escrow), ("P", principal)] →
      NotReproduced targets "subtensor-root:deposit-no-dilution@HEAD" w ∧
        NotReproduced targets "subtensor-root:redeem-roundtrip@HEAD" w
  splitReplay : ∀ (w : Members) (total w0 w1 : ℕ),
    Naturals tables w [("tao_total", total), ("w0", w0), ("w1", w1)] →
      NotReproduced targets "subtensor-root:tao-split-conservation@HEAD" w
  strandReplay : ∀ (w : Members) (escrow principal owed : ℕ), 0 < escrow →
    Naturals tables w [("E", escrow), ("P", principal), ("owed", owed)] →
      NotReproduced targets "subtensor-root:payout-no-strand@HEAD" w

theorem hardened_hold (tables : UnicodeTables) (others : Registry) :
    HardenedHold tables (registered tables others) where
  fee amount feeRate hamount hrate := by
    have hfee : firstFee amount feeRate ≤ amount :=
      firstFee_le (by omega) (by omega) (by omega) (by omega)
    exact ⟨hfee, fee_add_remainder hfee⟩
  noDilution bought escrow principal hE := by
    refine ⟨_, _, _, deposit_eq (by omega), ?_⟩
    have hpaid := @shares_mul_le bought escrow principal (by omega)
    have hshares := @shares_nonneg bought escrow principal (by omega) (by omega) (by omega)
    generalize (bought * principal / escrow : ℤ) = shares at hpaid hshares
    have hcross : (escrow * (principal + shares) : ℤ) ≤ (escrow + bought) * principal := by
      linarith
    refine ⟨?_, hcross⟩
    rcases Nat.eq_zero_or_pos principal with rfl | hpos
    · rw [Nat.cast_zero, div_zero]
      exact div_nonneg (by exact_mod_cast (by omega : (0 : ℤ) ≤ escrow + bought))
        (by exact_mod_cast (by omega : (0 : ℤ) ≤ (0 : ℕ) + shares))
    · rw [div_le_div_iff₀ (by exact_mod_cast hpos)
        (by exact_mod_cast (by omega : (0 : ℤ) < principal + shares))]
      exact_mod_cast hcross
  roundtrip bought escrow principal hE := by
    obtain ⟨payout, hpayout, hle⟩ := @redeem_deposit bought escrow principal (by omega)
      (by omega) (by omega)
    exact ⟨_, _, _, payout, deposit_eq (by omega), hpayout, hle⟩
  split total w0 w1 := by
    refine ⟨by omega, ?_⟩
    rw [taoShare]
    split_ifs with hzero
    · omega
    · have hpart : (total * w0 : ℤ) ≤ total * (w0 + w1) :=
        mul_le_mul_of_nonneg_left (by omega) (by omega)
      rw [Int.fdiv_eq_ediv_of_nonneg _ (by omega)]
      exact ⟨Int.ediv_nonneg (by positivity) (by omega), Int.ediv_le_of_le_mul (by omega) hpart⟩
  noStrand escrow principal owed hE := redeem_part (by omega) (by omega)
  feeReplay _ _ _ hamount hrate hw := conservation_not_reproduced hamount hrate hw
  depositReplay _ _ _ _ hE hw := ⟨deposit_not_reproduced hE hw, roundtrip_not_reproduced hE hw⟩
  splitReplay _ _ _ _ hw := split_not_reproduced hw
  strandReplay _ _ _ _ hE hw := strand_not_reproduced hE hw

/-- The last of the shares that can be asked for leaves one unit of three in escrow. -/
theorem hardened_hold_small :
    NotReproduced (registered PyStr.exactNumbers.tables fun _ => none)
      "subtensor-root:payout-no-strand@HEAD"
      (record [("E", integer 3), ("P", integer 1000000), ("owed", integer 999999)]) :=
  (hardened_hold PyStr.exactNumbers.tables fun _ => none).strandReplay _ 3 1000000 999999
    (by decide) (by simp [Naturals, intField, get_record, List.lookup_cons, integer, toInt])

end Cathedral.Arena
