import Cathedral.Publisher.BaseScores
import Cathedral.Publisher.ExternalReports

/-!
# Cathedral.Publisher.ExternalBlend — external scores in the weight vector

The external step of `compose_scores` and what `build_signed_vector` does to its result:
the snapshot collapsed by identity, the registration and payable filters, the blend with
its fraction, the global cap of the confidential source, and the mode in which that
source alone is paid.

A build reads the metagraph table several times; each read is an input of its own. The
metadata is kept as far as later steps read it.
-/

namespace Cathedral.Publisher.Weights

open ExternalReports (ScoreEnv Content ScoreTables latestSnapshotScores latestStatus)

/-! ## Settings -/

/-- `CATHEDRAL_WEIGHTS_PAYABLE_HOTKEYS`. -/
inductive PayableMode where
  | off
  | mark
  | filter
deriving DecidableEq, Repr

/-- The modes `external_scores_mode` returns. -/
inductive ExternalMode where
  | blend
  | externalPrimary
  | confidentialPrimary
deriving DecidableEq, Repr

/-- A variable that should hold a number. -/
inductive EnvNumber where
  | unset
  | notNumeric
  | value (x : ℚ)
deriving DecidableEq, Repr

/-- `_env_float`. -/
def EnvNumber.getD : EnvNumber → ℚ → ℚ
  | .value x, _ => x
  | _, default => default

/-- The environment variables the external step reads, parsed. Durations are
microseconds. -/
structure ExternalSettings where
  enabled : Bool
  source : String
  /-- The mode variable in lower case, without blanks around it. -/
  modeText : String
  window : ℤ
  fraction : EnvNumber
  maxFraction : EnvNumber
  baseWeight : EnvNumber
  weight : EnvNumber
  requireRegistered : Bool
  primaryConfirm : Bool
  payableMode : PayableMode
  payableMaxAge : ℤ
  network : String
  netuid : ℤ

def fractionRequiredSources : List String := ["cathedral_confidential_tdx"]

def noPrimarySources : List String := ["cathedral_confidential_tdx"]

def globalCapSources : List String := ["cathedral_confidential_tdx"]

def confidentialPrimarySources : List String := ["cathedral_confidential_tdx"]

def confidentialTdxHardCap : ℚ := 1 / 10

def externalScoresMode (s : ExternalSettings) : Except Exc ExternalMode :=
  if s.modeText = "" ∨ s.modeText = "blend" then .ok .blend
  else if s.modeText = "confidential_primary" then .ok .confidentialPrimary
  else if s.modeText = "external_primary" then
    if s.source ∈ noPrimarySources then .ok .blend else .ok .externalPrimary
  else .error (.vectorError "unknown external scores mode")

/-! ## The metagraph -/

/-- A row of `metagraph_hotkeys`. -/
structure MetagraphRow where
  network : String
  netuid : ℤ
  hotkey : String
  updatedAt : Millis
deriving DecidableEq, Repr

/-- What a query of the table sees; `none` when it raises. -/
abbrev MetagraphRead : Type := Option (List MetagraphRow)

structure Reads where
  scoreEnv : ScoreEnv Content
  scores : ScoreTables
  registration : MetagraphRead
  payableBase : MetagraphRead
  payableExternal : MetagraphRead
  payableFinal : MetagraphRead

def loadFreshMetagraphHotkeys (s : ExternalSettings) (now : ℤ) (read : MetagraphRead) :
    Option (List String) :=
  let hotkeys := (read.getD []).filter fun row =>
    row.network = s.network && row.netuid = s.netuid && (now - s.payableMaxAge) / 1000 < row.updatedAt
  if hotkeys = [] then none else some (hotkeys.map (·.hotkey))

/-- Restriction of scores to listed hotkeys. -/
def keepHotkeys (hotkeys : List String) (scores : Dict String ℚ) : Dict String ℚ :=
  scores.filterItems fun hk _ => hk ∈ hotkeys

def applyPayableHotkeyPolicy (s : ExternalSettings) (now : ℤ) (read : MetagraphRead)
    (scores : Dict String ℚ) : Dict String ℚ :=
  match s.payableMode with
  | .off | .mark => scores
  | .filter =>
    match loadFreshMetagraphHotkeys s now read with
    | none => scores
    | some payable => keepHotkeys payable scores

/-! ## The external vector -/

def identityCollapseScores (b : BaseSettings) (ident : String → String) (strict : Bool)
    (raw : Dict String ℚ) : Except Exc (Dict String ℚ) :=
  if strict ∧ raw.values.any fun score => score < 0 || 1 < score then
    .error (.vectorError "confidential score must be finite and in [0, 1]")
  else
    let positive := raw.filterItems fun _ score => 0 < score
    .ok (splitScores b (bestByIdentity ident positive) (groupHotkeys ident positive.keys))

def composeExternalScores (b : BaseSettings) (s : ExternalSettings) (reads : Reads)
    (ident : String → String) (now : ℤ) : Except Exc (Dict String ℚ) :=
  if ¬ s.enabled then .ok Dict.empty
  else
    match latestSnapshotScores reads.scoreEnv reads.scores s.source s.window now with
    | .error _ | .ok none => .ok Dict.empty
    | .ok (some raw) => identityCollapseScores b ident (s.source ∈ globalCapSources) raw

def l1Normalize (scores : Dict String ℚ) : Dict String ℚ :=
  let clean := scores.filterItems fun _ v => 0 < v
  if clean.total ≤ 0 then Dict.empty else clean.mapItems fun _ v => v / clean.total

/-! ## Fractions -/

def confidentialTdxFraction (s : ExternalSettings) : Except Exc (Option ℚ) :=
  match s.fraction with
  | .unset => .ok none
  | .notNumeric => .error (.vectorError "confidential_tdx fraction is not numeric")
  | .value x =>
    if 0 < x ∧ x ≤ confidentialTdxHardCap then .ok (some x)
    else .error (.vectorError "confidential_tdx fraction must be finite and in (0, 0.10]")

/-- `CATHEDRAL_EXTERNAL_SCORES_MAX_FRACTION` between 0 and 1. -/
def maxFraction (s : ExternalSettings) : ℚ := min 1 (max 0 (s.maxFraction.getD (1 / 2)))

/-- `_external_blend_weights`: base weight, external weight and effective share. -/
def externalBlendWeights (s : ExternalSettings) : ℚ × ℚ × ℚ :=
  let maxFrac := maxFraction s
  if s.fraction ≠ .unset then
    let frac := min maxFrac (max 0 (s.fraction.getD 0))
    (1 - frac, frac, frac)
  else if s.source ∈ fractionRequiredSources then (1, 0, 0)
  else
    let baseWeight := max 0 (s.baseWeight.getD 1)
    let externalWeight := max 0 (s.weight.getD 1)
    let tot := baseWeight + externalWeight
    if tot ≤ 0 then (0, 0, 0)
    else
      let share := externalWeight / tot
      if maxFrac < share ∧ maxFrac < 1 then
        (baseWeight, baseWeight * maxFrac / (1 - maxFrac), maxFrac)
      else (baseWeight, externalWeight, share)

/-! ## The global cap -/

/-- The components of a confidential blend. -/
structure Components where
  base : Dict String ℚ
  ext : Dict String ℚ

/-- One turn of the checks of `_validate_confidential_tdx_components`. -/
def checkComponent (scores : Dict String ℚ) (parts : Components) (hk : String) :
    Except Exc Unit :=
  match scores.get? hk with
  | none =>
    if parts.base.getD hk 0 < 0 ∨ parts.ext.getD hk 0 < 0 then
      .error (.vectorError "invalid component")
    else if parts.base.getD hk 0 ≠ 0 ∨ parts.ext.getD hk 0 ≠ 0 then
      .error (.vectorError "attribution has no signed weight")
    else .ok ()
  | some weight =>
    match parts.base.get? hk, parts.ext.get? hk with
    | some a, some c =>
      if weight < 0 ∨ a < 0 ∨ c < 0 then .error (.vectorError "negative weight/component")
      -- in exact arithmetic the unit in the last place is zero
      else if weight ≠ a + c then .error (.vectorError "weight != components")
      else .ok ()
    | _, _ => .error (.vectorError "missing signed attribution component")

/-- The mass of a component over the signed hotkeys. -/
def signedMass (scores part : Dict String ℚ) : ℚ := part.sumOn fun hk => hk ∈ scores.keys

def validateConfidentialTdxComponents (scores : Dict String ℚ) (parts : Components)
    (fraction : ℚ) : Except Exc Unit := do
  if ¬ (0 < fraction ∧ fraction ≤ confidentialTdxHardCap) then
    .error (.vectorError "invalid confidential fraction")
  else
    (parts.base.keys ++ parts.ext.keys ++ scores.keys).forM (checkComponent scores parts)
    let baseMass := signedMass scores parts.base
    let extMass := signedMass scores parts.ext
    let totalMass := baseMass + extMass
    if 1 / 10 ^ 12 < |scores.total - totalMass| then
      .error (.vectorError "score mass != component mass")
    else if totalMass = 0 ∧ extMass ≠ 0 then
      .error (.vectorError "zero total mass has nonzero confidential mass")
    else if 0 < totalMass ∧ 1 / 10 ^ 12 < |extMass / totalMass - fraction| then
      .error (.vectorError "confidential aggregate != fraction")
    else .ok ()

/-- The union of the hotkeys of two vectors, sorted. -/
def unionKeys (base ext : Dict String ℚ) : List String :=
  (base.keys ++ ext.keys).dedup.insertionSort (· ≤ ·)

/-- The parts of a blend over the union of its hotkeys. -/
def componentsOf (fraction : ℚ) (baseNorm extNorm : Dict String ℚ) : Components where
  base := Dict.ofList ((unionKeys baseNorm extNorm).map fun hk =>
    (hk, (1 - fraction) * baseNorm.getD hk 0))
  ext := Dict.ofList ((unionKeys baseNorm extNorm).map fun hk => (hk, fraction * extNorm.getD hk 0))

/-- `base_coeff * base_norm + ext_coeff * ext_norm` over the union. -/
def blendedScores (fraction : ℚ) (baseNorm extNorm : Dict String ℚ) : Dict String ℚ :=
  Dict.ofList ((unionKeys baseNorm extNorm).map fun hk =>
    (hk, (1 - fraction) * baseNorm.getD hk 0 + fraction * extNorm.getD hk 0))

/-- `_apply_confidential_tdx_global_cap`: the positive blended scores and their parts. -/
def applyConfidentialTdxGlobalCap (fraction : ℚ) (baseNorm extNorm : Dict String ℚ) :
    Except Exc (Dict String ℚ × Components) := do
  if ¬ (0 < fraction ∧ fraction ≤ confidentialTdxHardCap) then
    .error (.vectorError "confidential_tdx fraction invalid")
  else
    let parts := componentsOf fraction baseNorm extNorm
    if parts.base.values.any (· < 0) ∨ parts.ext.values.any (· < 0) then
      .error (.vectorError "invalid component")
    else
      let blended := (blendedScores fraction baseNorm extNorm).filterItems fun _ w => 0 < w
      validateConfidentialTdxComponents blended parts fraction
      .ok (blended, parts)

/-! ## The external step -/

/-- How a blend has allocated its mass. -/
structure Allocation where
  fraction : ℚ
  baseNorm : Dict String ℚ
  extNorm : Dict String ℚ
  /-- The components of a confidential blend. -/
  parts : Option Components

/-- `confidential_primary` in the metadata. -/
structure PrimaryMeta where
  complete : Bool
  fresh : Bool
  degradationReason : Option String
deriving DecidableEq, Repr

structure BlendMeta where
  degraded : Option String
  allocation : Option Allocation
  confidentialPrimary : Option PrimaryMeta

def BlendMeta.none : BlendMeta := ⟨Option.none, Option.none, Option.none⟩

def primaryRegistered (s : ExternalSettings) (reads : Reads) (now : ℤ) (ext : Dict String ℚ) :
    Except String (Dict String ℚ) :=
  if ¬ s.requireRegistered then .ok ext
  else
    match loadFreshMetagraphHotkeys s now reads.registration with
    | none => .error "registration_snapshot_unavailable"
    | some registered =>
      let kept := keepHotkeys registered ext
      if kept.isEmpty then .error "no_registered_confidential_scores" else .ok kept

def primaryPayable (s : ExternalSettings) (reads : Reads) (now : ℤ) (ext : Dict String ℚ) :
    Except String (Dict String ℚ) :=
  if s.payableMode ≠ .filter then .ok ext
  else
    let kept := applyPayableHotkeyPolicy s now reads.payableExternal ext
    if kept.isEmpty then .error "no_payable_confidential_scores" else .ok kept

/-- The filters and the normalisation of `_apply_confidential_primary`, or the reason it
degrades for. -/
def primaryScores (s : ExternalSettings) (reads : Reads) (now : ℤ) (status : Bool × Bool)
    (ext : Dict String ℚ) : Except String (Dict String ℚ) := do
  if ext.isEmpty then
    .error (if status.1 ∧ status.2 then "confidential_snapshot_revoked_all"
      else "confidential_snapshot_unavailable")
  else
    let registered ← primaryRegistered s reads now ext
    let payable ← primaryPayable s reads now registered
    let normalized := l1Normalize payable
    if normalized.isEmpty then .error "confidential_norm_zero" else .ok normalized

/-- Whether the latest snapshot is complete and fresh, for the metadata. -/
def primaryStatus (s : ExternalSettings) (reads : Reads) (now : ℤ) : Bool × Bool :=
  match latestStatus reads.scoreEnv reads.scores s.source ((now - s.window) / 1000) with
  | .ok status => status
  | .error _ => (false, false)

/-- `_apply_confidential_primary`. Base scores are not an input. -/
def applyConfidentialPrimary (b : BaseSettings) (s : ExternalSettings) (reads : Reads)
    (ident : String → String) (now : ℤ) : Except Exc (Dict String ℚ × BlendMeta) := do
  let degrade := fun (status : Bool × Bool) (reason : String) =>
    (Dict.empty, { BlendMeta.none with
      confidentialPrimary := some ⟨status.1, status.2, some reason⟩ })
  if s.source ∉ confidentialPrimarySources then .ok (degrade (false, false) "invalid_source")
  else
    let status := primaryStatus s reads now
    if ¬ s.primaryConfirm then .ok (degrade status "primary_confirm_missing")
    else
      let ext ← composeExternalScores b s reads ident now
      match primaryScores s reads now status ext with
      | .error reason => .ok (degrade status reason)
      | .ok normalized =>
        .ok (normalized, { BlendMeta.none with
          confidentialPrimary := some ⟨true, true, none⟩ })

def blendRegistered (s : ExternalSettings) (reads : Reads) (now : ℤ) (ext : Dict String ℚ) :
    Dict String ℚ × Option String :=
  if ext.isEmpty ∨ ¬ (s.source ∈ globalCapSources ∨ s.requireRegistered) then (ext, none)
  else
    match loadFreshMetagraphHotkeys s now reads.registration with
    | none => (Dict.empty,
        if s.source ∈ globalCapSources then some "confidential_registration_snapshot_unavailable"
        else none)
    | some registered => (keepHotkeys registered ext, none)

/-- `bool(d) and any(v > 0 for v in d.values())`. -/
def hasPositive (d : Dict String ℚ) : Bool := d.values.any (0 < ·)

/-- The allocation of a blend with a positive fraction. -/
def allocate (s : ExternalSettings) (fraction : ℚ) (degraded : Option String)
    (base ext : Dict String ℚ) : Except Exc (Dict String ℚ × BlendMeta) := do
  let baseNorm := l1Normalize base
  let extNorm := l1Normalize ext
  if baseNorm.isEmpty then .ok (base, { BlendMeta.none with degraded := some "base_norm_zero" })
  else if extNorm.isEmpty then .ok (base, { BlendMeta.none with degraded })
  else if s.source ∈ globalCapSources then
    let (blended, parts) ← applyConfidentialTdxGlobalCap fraction baseNorm extNorm
    .ok (blended, { BlendMeta.none with
      degraded, allocation := some ⟨fraction, baseNorm, extNorm, some parts⟩ })
  else
    .ok (blendedScores fraction baseNorm extNorm, { BlendMeta.none with
      degraded, allocation := some ⟨fraction, baseNorm, extNorm, none⟩ })

/-- The branches of `_apply_external_scores` once both vectors are filtered. -/
def blendFiltered (s : ExternalSettings) (confidentialFraction : Option ℚ)
    (degraded : Option String) (base ext : Dict String ℚ) :
    Except Exc (Dict String ℚ × BlendMeta) :=
  match hasPositive base, hasPositive ext with
  | false, false => .ok (Dict.empty, { BlendMeta.none with degraded })
  | false, true => .ok (Dict.empty, { BlendMeta.none with
      degraded := some "external_only_fail_closed" })
  | true, false => .ok (base, { BlendMeta.none with degraded })
  | true, true =>
    let fraction := confidentialFraction.getD (externalBlendWeights s).2.2
    if fraction ≤ 0 then .ok (base, { BlendMeta.none with degraded })
    else allocate s fraction degraded base ext

/-- The confidential fraction, read only for its source. -/
def fractionFor (s : ExternalSettings) : Except Exc (Option ℚ) :=
  if s.source ∈ globalCapSources then confidentialTdxFraction s else .ok none

def applyExternalScores (b : BaseSettings) (s : ExternalSettings) (reads : Reads)
    (ident : String → String) (now : ℤ) (base : Dict String ℚ) :
    Except Exc (Dict String ℚ × BlendMeta) := do
  let mode ← externalScoresMode s
  if mode = .confidentialPrimary then applyConfidentialPrimary b s reads ident now
  else if ¬ s.enabled then .ok (base, .none)
  else
    let confidentialFraction ← fractionFor s
    if s.source ∈ globalCapSources ∧ confidentialFraction = none then
      .ok (base, { BlendMeta.none with degraded := some "confidential_fraction_missing" })
    else
      let composed ← composeExternalScores b s reads ident now
      let (ext, degraded) := blendRegistered s reads now composed
      -- both vectors pass the payable filter before they are normalised
      blendFiltered s confidentialFraction degraded
        (applyPayableHotkeyPolicy s now reads.payableBase base)
        (if ext.isEmpty then ext else applyPayableHotkeyPolicy s now reads.payableExternal ext)

def composeScores (b : BaseSettings) (s : ExternalSettings) (reads : Reads) (t : WorkTables)
    (since : Millis) (coldkeyOf : Dict String String) (now : ℤ) :
    Except Exc (Dict String ℚ × BlendMeta) := do
  let base ← composeWork b t since coldkeyOf
  applyExternalScores b s reads (identOf b coldkeyOf) now base

end Cathedral.Publisher.Weights
