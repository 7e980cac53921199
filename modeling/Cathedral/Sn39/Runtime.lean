import Cathedral.Lib.Durable
import Cathedral.Sn39.Mirror

/-!
# Cathedral.Sn39.Runtime — the runtime around the journal

The durable state of an SN39 validator, the effects on it, and the runtime contract of a
process: `_validate_resolved_chain_contract`, `_bind_submission_identity` and
`_continuous_transition_required` with the launch obligation behind it.

A tick is a computation with durable effects: every replacement of the journal or of the
lane state file is one effect, and so is the call that submits an extrinsic. What a tick
asks the chain, the feed, the verifiers and the clock for is an argument; an answer that
may raise is an `Except`. The journal belongs to one signer on netuid 39, so the netuid of
a runtime is not an argument.
-/

namespace Cathedral.Sn39

/-! ## Effects -/

/-- The two files, and the extrinsics handed to the node with their attempt ids. -/
structure World where
  journal : Journal := {}
  lane : LaneState := {}
  submitted : List (String × String) := []

/-- What the commit of a signed intent makes irreversible. -/
structure SignedAttempt where
  id : String
  lane : Lane
  fence : ℤ
  launch : Bool
  extrinsicHash : String
deriving DecidableEq, Repr

inductive Effect where
  | reserved (attemptId : String)
  | signed (attempt : SignedAttempt)
  | submitted (attemptId extrinsicHash : String)
  | receiptRecorded (attemptId : String)
  | proofRecorded (attemptId : String) (status : ProofStatus)
  | finalized (attemptId : String)
  | released (attemptId : String)
  | expired (attemptId : String)
  | enabled (launchAttemptId : Option String)
  | mirrored (attemptId : String)
deriving DecidableEq, Repr

/-- A part of a tick. -/
abbrev Tick (α : Type) : Type := Durable World Effect Exc α

namespace Tick

/-- One atomic replacement of the journal. -/
def write (label : Journal → Effect) (op : Journal → Except Exc Journal) : Tick Unit :=
  Durable.effect (fun world => label world.journal) fun world =>
    match op world.journal with
    | .ok journal => .ok { world with journal := journal }
    | .error e => .error e

/-- One atomic replacement of the lane state file. -/
def writeLane (label : Effect) (op : LaneState → Except Exc LaneState) : Tick Unit :=
  Durable.effect (fun _ => label) fun world =>
    match op world.lane with
    | .ok lane => .ok { world with lane := lane }
    | .error e => .error e

/-- `substrate.submit_extrinsic`: the call itself, whatever the node then answers. -/
def submit (attemptId extrinsicHash : String) : Tick Unit :=
  Durable.effect (fun _ => .submitted attemptId extrinsicHash) fun world =>
    .ok { world with submitted := world.submitted ++ [(attemptId, extrinsicHash)] }

/-- `_read_state` of the journal. -/
def readJournal : Tick Journal := do
  let world ← Durable.read
  pure world.journal

/-- `_read_state` of the lane state file. -/
def readLane : Tick LaneState := do
  let world ← Durable.read
  pure world.lane

/-- `raise exc`. -/
def raise {α : Type} (exc : Exc) : Tick α := Durable.lift (.error exc)

section Rules

open Durable

variable {step : World → Effect → World → Prop} {world : World}

variable {label : Journal → Effect} {op : Journal → Except Exc Journal} {E : Exc → World → Prop}

theorem wp_write {Q : Unit → World → Prop} :
    wp step (write label op) Q E world ↔
      (∀ journal, op world.journal = .ok journal →
        step world (label world.journal) { world with journal := journal } ∧
          Q () { world with journal := journal }) ∧
      (∀ e, op world.journal = .error e → E e world) := by
  unfold write
  rw [wp_effect]
  cases op world.journal <;> simp

theorem wp_writeLane {label : Effect} {op : LaneState → Except Exc LaneState}
    {Q : Unit → World → Prop} :
    wp step (writeLane label op) Q E world ↔
      (∀ lane, op world.lane = .ok lane →
        step world label { world with lane := lane } ∧ Q () { world with lane := lane }) ∧
      (∀ e, op world.lane = .error e → E e world) := by
  unfold writeLane
  rw [wp_effect]
  cases op world.lane <;> simp

theorem wp_readJournal {Q : Journal → World → Prop} :
    wp step readJournal Q E world ↔ Q world.journal world := by
  unfold readJournal
  rw [wp_bind, wp_read, wp_pure]

theorem wp_readLane {Q : LaneState → World → Prop} :
    wp step readLane Q E world ↔ Q world.lane world := by
  unfold readLane
  rw [wp_bind, wp_read, wp_pure]

/-- A write that succeeds is one effect. -/
theorem write_of_ok {journal : Journal} (h : op world.journal = .ok journal) :
    write label op world = ⟨[(label world.journal, { world with journal := journal })], .ok ()⟩ := by
  unfold write
  exact effect_of_ok (by simp only [h])

/-- A write that raises changes nothing. -/
theorem write_of_error {e : Exc} (h : op world.journal = .error e) :
    write label op world = ⟨[], .error e⟩ := by
  unfold write
  exact effect_of_error (by simp only [h])

end Rules

end Tick

/-! ## Runtime -/

/-- The attributes of `args` that vary between SN39 runtimes. -/
structure Args where
  broadcast : Bool
  offline : Bool
  network : String
  requirePolicy : Option RequirePolicy
  /-- `args.provenance == "authority"`. -/
  authority : Bool
  /-- `args.require_full_provenance_for_broadcast`. -/
  launch : Bool
  requireCompletedLaunch : Option Bool
  maxSubmissions : ℤ
  burnHotkey : Option String
  canonicalRuntimeRoot : Bool
  /-- Whether the controlled launch material is on the host. -/
  launchMaterial : Bool

/-- `_submission_validator_hotkey` and `_submission_genesis_hash`. -/
structure Signer where
  validatorHotkey : String
  genesisHash : String

/-- `args` at the write boundary, with the attributes that the tick has set. -/
structure Contract extends Args where
  signer : Signer
  authorization : Option ContinuousAuthorization

/-- `str(text).strip().lower()`. -/
def normalized (text : String) : String :=
  let stripped := text.toList.dropWhile Char.isWhitespace
  lower (String.ofList (stripped.reverse.dropWhile Char.isWhitespace).reverse)

/-- `_sn39_launch_lineage`, once the signer is bound. -/
def launchLineage (state : Journal) : Bool :=
  state.launch.status.isSome || state.launch.attemptId.isSome ||
    !state.launch.attemptIds.isEmpty || state.continuous.enabled ||
    state.continuous.launchAttemptId.isSome || state.pending.launchAttempt == some true

/-- `_continuous_transition_required`, with `_sn39_launch_obligation`. -/
def continuousTransitionRequired (args : Args) (state : Journal) : Bool :=
  if args.broadcast && !args.offline &&
      (args.authority || args.launch || args.launchMaterial || launchLineage state) then true
  else
    match args.requireCompletedLaunch with
    | some explicit => explicit
    | none => args.requirePolicy == some .validatedSupplyV1

def validateResolvedChainContract (args : Args) (preflight : ChainPreflight)
    (requireSn39Identity : Bool) : Except Exc Unit :=
  if args.broadcast = false ∧ requireSn39Identity = false ∨ args.offline = true then pure ()
  else do
    refuse (lower preflight.genesisHash ≠ finneyGenesisHash)
      "SN39 broadcast is supported only on the pinned Finney genesis"
    refuse (normalized args.network ≠ "finney")
      ("Finney SN39 broadcast requires the `finney` signed-vector audience even when a " ++
        "self-hosted RPC endpoint is used")
    refuse (args.requirePolicy ≠ some .validatedSupplyV1)
      "Finney SN39 broadcast requires the validated_supply_v1 policy"
    refuse (preflight.minAllowedWeights ≠ 1 ∨ ¬ closeTo preflight.maxWeightLimit 1 (1 / 10 ^ 12))
      ("Finney SN39 broadcast requires min_allowed_weights=1 and max_weight_limit=1.0 so " ++
        "revocation can fail safe to burn")
    refuse (preflight.commitRevealEnabled = true)
      "Finney SN39 broadcast requires commit-reveal disabled"
    refuse (∀ burnHotkey ∈ args.burnHotkey, burnHotkey = "" ∨
        preflight.subnetOwnerHotkey ≠ burnHotkey ∨ preflight.hotkeyToUid.get? burnHotkey = none)
      ("Finney SN39 broadcast requires the pinned burn hotkey to remain the live subnet " ++
        "owner")
    refuse (args.canonicalRuntimeRoot = false)
      "Finney SN39 broadcast requires the canonical owner-only runtime root"

/-- `_bind_submission_identity`: the signer of a process never changes. -/
def bindSubmissionIdentity (bound : Option Signer) (preflight : ChainPreflight) :
    Except Exc Signer := do
  let signer : Signer :=
    { validatorHotkey := preflight.validatorHotkey
      genesisHash := lower preflight.genesisHash }
  refuse (signer.validatorHotkey = "" ∨ isChainHash signer.genesisHash = false)
    "chain preflight did not establish a canonical signer/genesis identity"
  refuse (∃ old ∈ bound, old.validatorHotkey ≠ signer.validatorHotkey)
    "validator signer changed within one tick"
  refuse (∃ old ∈ bound, old.genesisHash ≠ signer.genesisHash)
    "chain genesis changed within one tick"
  pure signer

/-- `_prepare_tick_preflight` of an online runtime. -/
def prepareTickPreflight (args : Args) (bound : Option Signer)
    (chainPreflight : Except Exc ChainPreflight) : Except Exc (ChainPreflight × Signer) := do
  let preflight ← chainPreflight
  validateResolvedChainContract args preflight false
  let signer ← bindSubmissionIdentity bound preflight
  pure (preflight, signer)

end Cathedral.Sn39
