import Cathedral.Lib.Fallible
import Cathedral.Lib.PyFloat
import Mathlib.Data.Rat.Floor
import Mathlib.Data.String.Basic

/-!
# Cathedral.Sn39.Vector — signed weight vectors

The signed vector of `scaffold/wire_vector.py` with `invariant_check`, and the
policy blocks of its metadata that `scaffold/validator_thin.py` validates.

A payload is typed as far as the wire guarantees: rows with a string hotkey and
a numeric weight, a burn uid that is an integer or null. Every other number is an
`Attr`, a JSON value that `float(...)` may refuse. Error messages are the fixed
text of the source's message, without the values interpolated into it.
-/

namespace Cathedral.Sn39

/-! ## Exceptions -/

/-- `wire.VectorError` and its subclasses. -/
inductive VectorErrorClass where
  | vectorError
  | retryablePreSignHeadDrift
  | pendingReceiptNotProven
  | postSignedSubmissionMismatch
deriving DecidableEq, Repr

inductive Exc where
  | vectorError (class_ : VectorErrorClass) (message : String)
  | other (type message : String)
deriving DecidableEq, Repr

/-- `raise wire.VectorError(message)`. -/
def fail {α : Type} (message : String) : Except Exc α := .error (.vectorError .vectorError message)

/-- `if condition: raise wire.VectorError(message)`. -/
def refuse (condition : Prop) [Decidable condition] (message : String) : Except Exc Unit :=
  if condition then fail message else pure ()

@[simp] theorem refuse_eq_ok {condition : Prop} [Decidable condition] {message : String}
    {u : Unit} : refuse condition message = .ok u ↔ ¬ condition := by
  unfold refuse
  split_ifs with h <;> simp [fail, pure, Except.pure, h]

/-! ## Payloads -/

/-- A JSON value that the source reads as a number: absent, a number (or a
Boolean), a string with what `float(...)` makes of it, or anything else. -/
inductive Attr where
  | missing
  | number (value : PyFloat)
  | text (value : Option PyFloat)
  | other
deriving DecidableEq, Repr

/-- `float(row[key])`. -/
def Attr.float : Attr → Except Exc PyFloat
  | .missing => .error (.other "KeyError" "")
  | .number value => pure value
  | .text (some value) => pure value
  | .text none => .error (.other "ValueError" "could not convert string to float")
  | .other => .error (.other "TypeError" "float() argument must be a string or a real number")

/-- `value > 0.0` on the attribute itself. -/
def Attr.positive : Attr → Except Exc Bool
  | .missing => .error (.other "KeyError" "")
  | .number (.finite value) => pure (0 < value)
  | .number .posInf => pure true
  | .number _ => pure false
  | _ => .error (.other "TypeError" "'>' not supported")

/-- `math.isfinite(x)` and its value, for a float that has been accepted. -/
def finiteOf : PyFloat → ℚ
  | .finite value => value
  | _ => 0

/-- `float(x)` with its exceptions turned into a `VectorError`. -/
def Attr.floatOr (a : Attr) (message : String) : Except Exc PyFloat :=
  match a.float with
  | .ok value => pure value
  | .error _ => fail message

structure Row where
  minerHotkey : String
  weight : PyFloat
  baseComponent : Attr := .missing
  externalComponent : Attr := .missing
deriving DecidableEq, Repr

structure BurnSnapshot where
  burnUid : Option ℤ
  burnHotkey : Option String
  forcedBurnPercentage : Attr
deriving DecidableEq, Repr

/-- A block of the policy metadata: `None`, no object, or an object. -/
inductive Block (α : Type) where
  | absent
  | malformed
  | fields (value : α)
deriving DecidableEq, Repr

/-- `policy_metadata.confidential_tdx_cap`. -/
structure TdxCap where
  capVersion : Option String
  configuredFraction : Attr
deriving DecidableEq, Repr

/-- `policy_metadata.confidential_primary`; a flag is `none` when it is no
Boolean. -/
structure PrimaryBlock where
  contractVersion : Option String
  source : Option String
  baseMass : Attr
  confidentialMass : Attr
  complete : Option Bool
  mode : Option String
  fresh : Option Bool
  confirmed : Option Bool
deriving DecidableEq, Repr

/-- `policy_metadata.validated_supply`, with its key set. -/
structure SupplyBlock where
  keys : List String
  contractVersion : Option String
  intelTdxAllocation : Attr
  fixedBurnAllocation : Attr
  burnHotkey : Option String
deriving DecidableEq, Repr

structure PolicyMetadata where
  confidentialTdxCap : Option TdxCap := none
  confidentialPrimary : Block PrimaryBlock := .absent
  validatedSupply : Block SupplyBlock := .absent
deriving DecidableEq, Repr

/-- A vector as the wire delivers it. -/
structure Payload where
  weights : List Row
  burnSnapshot : Option BurnSnapshot
  policyMetadata : PolicyMetadata := {}
  network : Option String
  netuid : Option ℤ
  generatedAt : Option String
  expiresAt : Option String
deriving DecidableEq, Repr

/-! ## Structural invariants -/

def maxVectorEntries : ℕ := 8192

def maxVectorLifetimeSeconds : ℤ := 3600

def maxVectorFutureSkewSeconds : ℤ := 120

/-- `float(snap.get("forced_burn_percentage", -1))`. -/
def burnPercentage (snap : Option BurnSnapshot) : Except Exc PyFloat :=
  match snap.map BurnSnapshot.forcedBurnPercentage with
  | none => pure (.finite (-1))
  | some .missing => pure (.finite (-1))
  | some attr => attr.float

/-- `0.0 <= b_pct <= 100.0`. -/
def PercentageInRange (x : PyFloat) : Prop := ∃ q, x = .finite q ∧ 0 ≤ q ∧ q ≤ 100

instance : DecidablePred PercentageInRange
  | .finite q => decidable_of_iff (0 ≤ q ∧ q ≤ 100)
      ⟨fun h => ⟨q, rfl, h⟩, by rintro ⟨_, ⟨⟩, h⟩; exact h⟩
  | .nan => isFalse (by rintro ⟨_, h, _⟩; cases h)
  | .posInf => isFalse (by rintro ⟨_, h, _⟩; cases h)
  | .negInf => isFalse (by rintro ⟨_, h, _⟩; cases h)

/-- `not math.isfinite(v) or v < 0` for no row. -/
def WeightsValid (rows : List Row) : Prop := ∀ row ∈ rows, row.weight.FiniteNonneg

instance (rows : List Row) : Decidable (WeightsValid rows) :=
  inferInstanceAs (Decidable (∀ _ ∈ _, _))

def Row.value (row : Row) : ℚ := finiteOf row.weight

/-- The checks of `invariant_check` on the allocation. -/
def checkAllocation (payload : Payload) : Except Exc Unit := do
  let burnUid := payload.burnSnapshot.bind BurnSnapshot.burnUid
  let burnHotkey := payload.burnSnapshot.bind BurnSnapshot.burnHotkey
  let percentage ← burnPercentage payload.burnSnapshot
  refuse (maxVectorEntries < payload.weights.length) "weights vector exceeds 8192"
  refuse (¬ PercentageInRange percentage) "forced_burn_percentage out of range"
  refuse (∃ hotkey ∈ burnHotkey, ¬ (1 ≤ hotkey.length ∧ hotkey.length ≤ 128))
    "burn_hotkey must be a non-empty bounded string"
  refuse (0 < finiteOf percentage ∧ burnUid = none ∧ burnHotkey = none)
    "forced_burn_percentage requires a burn destination"
  refuse (¬ WeightsValid payload.weights) "bad weight"
  refuse ((payload.weights.map Row.value).sum ≤ 0 ∧ burnUid = none ∧ burnHotkey = none)
    "empty/zero-sum weights without burn fallback"

/-- The checks of `invariant_check` on the times; `parseUtc` is
`_parse_canonical_utc`, in microseconds. -/
def checkLifetime (parseUtc : String → Option ℤ) (payload : Payload) (nowIso : String) :
    Except Exc Unit := do
  let parse := fun (text : Option String) (message : String) =>
    match text.bind parseUtc with
    | some time => (pure time : Except Exc ℤ)
    | none => fail message
  let generatedAt ← parse payload.generatedAt "generated_at must be canonical UTC"
  let expiresAt ← parse payload.expiresAt "expires_at must be canonical UTC"
  let now ← parse (some nowIso) "validator now must be canonical UTC"
  refuse (expiresAt ≤ generatedAt) "expires_at must be after generated_at"
  refuse (maxVectorLifetimeSeconds * 1000000 < expiresAt - generatedAt)
    "vector lifetime exceeds 3600s"
  refuse (maxVectorFutureSkewSeconds * 1000000 < generatedAt - now)
    "generated_at is in the future"
  refuse (expiresAt ≤ now) "vector expired"

def invariantCheck (parseUtc : String → Option ℤ) (payload : Payload) (network : String)
    (netuid : ℤ) (nowIso : String) : Except Exc Unit := do
  checkAllocation payload
  refuse (payload.network ≠ some network) "network mismatch"
  refuse (payload.netuid.getD (-1) ≠ netuid) "netuid mismatch"
  checkLifetime parseUtc payload nowIso

/-! ## Policy blocks -/

/-- `math.isclose(a, b, rel_tol=0.0, abs_tol=tol)` for finite floats. -/
def isClose (a b tol : ℚ) : Prop := |a - b| ≤ tol

instance (a b tol : ℚ) : Decidable (isClose a b tol) := inferInstanceAs (Decidable (_ ≤ _))

/-- `math.isclose(x, b, rel_tol=0.0, abs_tol=tol)`. -/
def closeTo (x : PyFloat) (b tol : ℚ) : Prop := ∃ q, x = .finite q ∧ isClose q b tol

instance (x : PyFloat) (b tol : ℚ) : Decidable (closeTo x b tol) :=
  match x with
  | .finite q => decidable_of_iff (isClose q b tol)
      ⟨fun h => ⟨q, rfl, h⟩, by rintro ⟨_, ⟨⟩, h⟩; exact h⟩
  | .nan => isFalse (by rintro ⟨_, h, _⟩; cases h)
  | .posInf => isFalse (by rintro ⟨_, h, _⟩; cases h)
  | .negInf => isFalse (by rintro ⟨_, h, _⟩; cases h)

/-- The weight and the two components of a row, as finite floats that are not
negative. -/
def attribution (row : Row) (malformed negative : String) : Except Exc (ℚ × ℚ × ℚ) := do
  let weight ← (Attr.number row.weight).floatOr malformed
  let base ← row.baseComponent.floatOr malformed
  let external ← row.externalComponent.floatOr malformed
  refuse (¬ (weight.FiniteNonneg ∧ base.FiniteNonneg ∧ external.FiniteNonneg)) negative
  pure (finiteOf weight, finiteOf base, finiteOf external)

/-- The running state of the v3 row loop: the hotkeys seen and the masses. -/
structure TdxMass where
  hotkeys : List String := []
  weight : ℚ := 0
  base : ℚ := 0
  external : ℚ := 0

/-- One pass of the row loop of `_confidential_tdx_v3_rows`. -/
def tdxRow (acc : TdxMass) (row : Row) : Except Exc TdxMass := do
  let (weight, base, external) ← attribution row
    "confidential_tdx v3 row missing or invalid attribution component"
    "confidential_tdx v3 row has non-finite or negative attribution"
  refuse (¬ isClose weight (base + external) (1 / 10 ^ 12))
    "confidential_tdx v3 row weight != base+external"
  refuse (row.minerHotkey = "") "confidential_tdx v3 row missing miner_hotkey"
  refuse (row.minerHotkey ∈ acc.hotkeys) "confidential_tdx v3 duplicate hotkey"
  pure
    { hotkeys := row.minerHotkey :: acc.hotkeys
      weight := acc.weight + weight
      base := acc.base + base
      external := acc.external + external }

/-- `0.0 < configured_fraction <= 0.10` for a finite fraction. -/
def tdxFraction (cap : TdxCap) : Except Exc ℚ := do
  let fraction ← cap.configuredFraction.floatOr "confidential_tdx v3 missing configured_fraction"
  match fraction with
  | .finite q =>
    if 0 < q ∧ q ≤ 1 / 10 then pure q
    else fail "confidential_tdx v3 invalid configured_fraction"
  | _ => fail "confidential_tdx v3 invalid configured_fraction"

/-- `_confidential_tdx_v3_rows`: the rows of a v3 vector, `none` for any other. -/
def confidentialTdxV3Rows (payload : Payload) : Except Exc (Option (List Row)) :=
  match payload.policyMetadata.confidentialTdxCap with
  | none => pure none
  | some cap =>
    if cap.capVersion ≠ some "v3" then pure none
    else do
      let configured ← tdxFraction cap
      let mass ← payload.weights.foldlM tdxRow {}
      refuse (¬ isClose mass.weight (mass.base + mass.external) (1 / 10 ^ 12))
        "confidential_tdx v3 weight mass != component mass"
      refuse (mass.base ≤ 0 ∨ mass.external ≤ 0)
        "confidential_tdx v3 requires positive base and external mass"
      refuse (1 / 10 ^ 12 < |mass.external / (mass.base + mass.external) - configured|)
        "confidential_tdx v3 external fraction != configured_fraction"
      pure (some payload.weights)

/-- The mass of a validated confidential-primary block. -/
inductive PrimaryMass where
  | zero
  | one
deriving DecidableEq, Repr

/-- The checks of `_confidential_primary_meta` on a block. -/
def checkPrimaryBlock (cp : PrimaryBlock) : Except Exc PrimaryMass := do
  refuse (cp.contractVersion ≠ some "v1") "confidential_primary unsupported contract_version"
  refuse (cp.source ≠ some "cathedral_confidential_tdx") "confidential_primary invalid source"
  let baseMass ← cp.baseMass.floatOr "confidential_primary missing base/confidential mass"
  let confidentialMass ← cp.confidentialMass.floatOr
    "confidential_primary missing base/confidential mass"
  refuse (baseMass ≠ .finite 0) "confidential_primary base_mass must be 0"
  refuse (confidentialMass ≠ .finite 0 ∧ confidentialMass ≠ .finite 1)
    "confidential_primary confidential_mass must be 0 or 1"
  refuse (cp.complete = none) "confidential_primary complete flag must be a bool"
  let claimed := confidentialMass = .finite 1
  -- a vector that claims mass must assert every liveness field
  refuse (claimed ∧ cp.mode ≠ some "confidential_primary")
    "confidential_primary mass=1 requires mode=confidential_primary"
  refuse (claimed ∧ cp.complete ≠ some true) "confidential_primary mass=1 requires complete=true"
  refuse (claimed ∧ cp.fresh ≠ some true) "confidential_primary mass=1 requires fresh=true"
  refuse (claimed ∧ cp.confirmed ≠ some true)
    "confidential_primary mass=1 requires confirmed=true"
  pure (if confidentialMass = .finite 1 then .one else .zero)

def confidentialPrimaryMeta (payload : Payload) : Except Exc (Option PrimaryMass) :=
  match payload.policyMetadata.confidentialPrimary with
  | .absent => pure none
  | .malformed => fail "confidential_primary metadata must be an object"
  | .fields cp => do
    let mass ← checkPrimaryBlock cp
    pure (some mass)

def supplyKeys : List String :=
  ["contract_version", "intel_tdx_allocation", "fixed_burn_allocation", "burn_hotkey"]

/-- The checks of `_validated_supply_meta` on a block. -/
def checkSupplyBlock (snap : Option BurnSnapshot) (policy : SupplyBlock) : Except Exc Unit := do
  refuse (policy.keys.toFinset ≠ supplyKeys.toFinset) "validated_supply metadata fields mismatch"
  refuse (policy.contractVersion ≠ some "v2") "validated_supply unsupported contract_version"
  let tdx ← policy.intelTdxAllocation.floatOr "validated_supply allocations must be numeric"
  let fixedBurn ← policy.fixedBurnAllocation.floatOr
    "validated_supply allocations must be numeric"
  refuse (¬ closeTo tdx (9 / 10) (1 / 10 ^ 12))
    "validated_supply Intel TDX allocation must equal 0.90"
  refuse (¬ closeTo fixedBurn (1 / 10) (1 / 10 ^ 12))
    "validated_supply fixed burn allocation must equal 0.10"
  refuse (¬ isClose (finiteOf tdx + finiteOf fixedBurn) 1 (1 / 10 ^ 12))
    "validated_supply allocations must sum to 1"
  refuse (∀ hotkey ∈ policy.burnHotkey, hotkey = "") "validated_supply burn_hotkey is missing"
  refuse (snap.bind BurnSnapshot.burnHotkey ≠ policy.burnHotkey)
    "validated_supply burn_hotkey does not match snapshot"
  refuse (snap.bind BurnSnapshot.burnUid ≠ none)
    "validated_supply burn destination must not pin a UID"
  let percentage ← ((snap.map BurnSnapshot.forcedBurnPercentage).getD .missing).floatOr
    "validated_supply burn percentage is missing"
  refuse (¬ closeTo percentage 10 (1 / 10 ^ 12))
    "validated_supply fixed burn allocation must burn 10%"

/-- `_validated_supply_meta`: whether the vector carries the launch contract. -/
def validatedSupplyMeta (payload : Payload) : Except Exc Bool :=
  match payload.policyMetadata.validatedSupply with
  | .absent => pure false
  | .malformed => fail "validated_supply metadata must be an object"
  | .fields policy => do
    checkSupplyBlock payload.burnSnapshot policy
    pure true

end Cathedral.Sn39
