import Cathedral.Sn39.Journal

/-!
# Cathedral.Sn39.Receipts — finding and proving an included extrinsic

`_locate_pending_broadcast_receipt`, the bounded scan that restart recovery makes for a
journaled transaction whose receipt was lost, and `_classify_finalized_receipt`, the proof
of one receipt at its inclusion block. Both turn every exception of the node into the
inconclusive verdict.

A node may leave an extrinsic of a block undecoded; such an item has no hash and no call.
-/

namespace Cathedral.Sn39

/-! ## Blocks as the node returns them -/

/-- The value of a call argument. -/
inductive ArgValue where
  | int (value : ℤ)
  | ints (values : List ℤ)
  | other
deriving DecidableEq, Repr

structure Call where
  callModule : Option String
  callFunction : Option String
  callArgs : List (String × ArgValue)
deriving DecidableEq, Repr

/-- The decoded value of an extrinsic. -/
structure Extrinsic where
  extrinsicHash : String
  address : Option String
  call : Option Call
deriving DecidableEq, Repr

inductive Item where
  | undecoded
  | decoded (value : Extrinsic)
deriving DecidableEq, Repr

def chainCallArg (call : Call) (name : String) : Option ArgValue :=
  (call.callArgs.find? fun arg => arg.1 = name).map Prod.snd

/-- The weights that a validator sets. -/
structure WeightCall where
  validatorHotkey : String
  versionKey : ℤ
  wireUids : List ℤ
  wireWeights : List ℤ

/-- The signer and the decoded call are exactly those of `expected`. -/
def Extrinsic.Exact (observed : Extrinsic) (expected : WeightCall) : Prop :=
  observed.address = some expected.validatorHotkey ∧
    ∃ call ∈ observed.call,
      call.callModule = some "SubtensorModule" ∧
      call.callFunction = some "set_mechanism_weights" ∧
      chainCallArg call "netuid" = some (.int sn39Netuid) ∧
      chainCallArg call "mecid" = some (.int 0) ∧
      chainCallArg call "version_key" = some (.int expected.versionKey) ∧
      chainCallArg call "dests" = some (.ints expected.wireUids) ∧
      chainCallArg call "weights" = some (.ints expected.wireWeights)

instance (observed : Extrinsic) (expected : WeightCall) : Decidable (observed.Exact expected) :=
  inferInstanceAs (Decidable (_ ∧ ∃ _ ∈ _, _))

/-! ## Scan -/

/-- The verdict of the scan. -/
inductive Located where
  | pass (submission : ChainSubmission)
  | fail
  | notProven
  | expiredWithoutInclusion

/-- What the node answers to one scan; `block` is asked for the hash that `blockHash`
has answered. -/
structure ScanAnswers where
  finalisedHead : Except Exc String
  blockNumber : Except Exc ℤ
  canonicalHash : Except Exc String
  blockHash : ℤ → Except Exc String
  block : ℤ → Except Exc (Option (List Item))

/-- An answer of the node, where an exception ends the scan without a verdict. -/
def ask {α : Type} (answer : Except Exc α) : Except Located α :=
  match answer with
  | .ok a => .ok a
  | .error _ => .error .notProven

/-- A condition that ends the scan. -/
def stopIf (condition : Prop) [Decidable condition] (verdict : Located) : Except Located Unit :=
  if condition then .error verdict else pure ()

/-- One item of a block: a match is collected, a match with another call contradicts. -/
def scanItem (extrinsicHash : String) (expected : WeightCall) (blockHash : String)
    (blockNumber : ℤ) (found : List ChainSubmission) (item : Item) :
    Except Located (List ChainSubmission) :=
  match item with
  | .undecoded => pure found
  | .decoded observed =>
    if lower observed.extrinsicHash ≠ lower extrinsicHash then pure found
    else if ¬ observed.Exact expected then .error .fail
    else
      pure (found ++
        [{ success := true
           extrinsicHash := some (lower extrinsicHash)
           blockHash := some blockHash
           blockNumber := some blockNumber
           finalized := true }])

/-- A block that the node returns with its list of extrinsics. -/
def readable (block : Option (List Item)) : Except Located (List Item) :=
  match block with
  | some items => pure items
  | none => .error .notProven

def scanBlock (answers : ScanAnswers) (extrinsicHash : String) (expected : WeightCall)
    (finalizedNumber : ℤ) (found : List ChainSubmission) (blockNumber : ℤ) :
    Except Located (List ChainSubmission) :=
  if finalizedNumber < blockNumber then pure found
  else do
    let blockHash ← ask (answers.blockHash blockNumber)
    stopIf (isChainHash blockHash = false) .notProven
    let block ← ask (answers.block blockNumber)
    let items ← readable block
    items.foldlM (scanItem extrinsicHash expected blockHash blockNumber) found

/-- `range(start, stop)`. -/
def blockRange (start stop : ℤ) : List ℤ :=
  (List.range (stop - start).toNat).map fun k : ℕ => start + (k : ℤ)

def scanVerdict (found : List ChainSubmission) (finalizedNumber searchUntil : ℤ) : Located :=
  match found with
  | [] => if searchUntil - 1 ≤ finalizedNumber then .expiredWithoutInclusion else .notProven
  | [submission] => .pass submission
  | _ => .fail

def scanWindow (answers : ScanAnswers) (intent : BroadcastIntent) (expected : WeightCall)
    (policy : InclusionPolicy) : Except Located Located := do
  let finalizedHash ← ask answers.finalisedHead
  let finalizedNumber ← ask answers.blockNumber
  let canonicalHash ← ask answers.canonicalHash
  stopIf (isChainHash finalizedHash = false ∨ lower canonicalHash ≠ lower finalizedHash) .notProven
  let searchFrom := max policy.validFromBlock intent.eraReferenceBlock
  let searchUntil := min policy.validUntilBlock
    (intent.eraReferenceBlock + intent.mortalPeriodBlocks)
  stopIf (searchUntil ≤ searchFrom) .fail
  let found ← (blockRange searchFrom searchUntil).foldlM
    (scanBlock answers intent.extrinsicHash expected finalizedNumber) []
  pure (scanVerdict found finalizedNumber searchUntil)

def locatePendingBroadcastReceipt (answers : ScanAnswers) (intent : BroadcastIntent)
    (validatorHotkey : String) (policy : InclusionPolicy) : Located :=
  if isChainHash intent.extrinsicHash = false ∨ intent.eraReferenceBlock ≤ 0 ∨
      intent.mortalPeriodBlocks ≠ sn39MortalPeriodBlocks then .notProven
  else
    match scanWindow answers intent
        { validatorHotkey := validatorHotkey
          versionKey := intent.versionKey
          wireUids := intent.wireUids
          wireWeights := intent.wireWeights } policy with
    | .ok verdict => verdict
    | .error verdict => verdict

/-! ## Proof of one receipt -/

structure InclusionMetagraph where
  uids : List ℤ
  hotkeys : List String
  validatorPermit : List Bool
  block : Option ℤ

/-- The recorded execution of an extrinsic. -/
structure HistoricalExecution where
  isSuccess : Option Bool
  errorMessage : Bool
  extrinsicIdx : Option ℤ

/-- What the node answers to one proof; `none` is an answer of an unexpected type. -/
structure ProofAnswers where
  finalisedHead : Except Exc String
  finalizedNumber : Except Exc (Option ℤ)
  canonicalFinalizedHash : Except Exc String
  canonicalHash : Except Exc String
  block : Except Exc (Option (List Item))
  metagraph : Except Exc (Option InclusionMetagraph)
  commitReveal : Except Exc (Option Bool)
  timestampMs : Except Exc (Option ℤ)
  nextEpoch : Except Exc (Option ℤ)
  owner : Except Exc String
  execution : Except Exc (Option HistoricalExecution)

/-- The ways to end a proof before its last test. -/
inductive ProofStop where
  | fail
  | notProven
deriving DecidableEq, Repr

def ProofStop.status : ProofStop → ProofStatus
  | .fail => .fail
  | .notProven => .notProven

/-- A condition that ends the proof. -/
def concludeIf (condition : Prop) [Decidable condition] (stop : ProofStop) :
    Except ProofStop Unit :=
  if condition then .error stop else pure ()

/-- An answer of the node, where an exception is inconclusive. -/
def observe {α : Type} (answer : Except Exc α) : Except ProofStop α :=
  match answer with
  | .ok a => .ok a
  | .error _ => .error .notProven

/-- An answer that is asked for only sometimes. -/
def observeIf {α : Type} (asked : Bool) (default : α) (answer : Except Exc α) :
    Except ProofStop α :=
  if asked then observe answer else .ok default

/-- A value that the proof cannot do without. -/
def proven {α : Type} (value : Option α) : Except ProofStop α :=
  match value with
  | some a => .ok a
  | none => .error .notProven

/-- The matching items of a block with their positions. -/
def matching (extrinsicHash : String) (items : List Item) : List (ℕ × Extrinsic) :=
  items.zipIdx.filterMap fun entry =>
    match entry.1 with
    | .undecoded => none
    | .decoded observed =>
      if lower observed.extrinsicHash = lower extrinsicHash then some (entry.2, observed)
      else none

/-- The one extrinsic of the block with the hash. -/
def uniqueMatch (extrinsicHash : String) (items : List Item) : Except ProofStop (ℕ × Extrinsic) :=
  match matching extrinsicHash items with
  | [] => .error .notProven
  | [entry] => .ok entry
  | _ => .error .fail

/-- The bindings of the uids at the inclusion block, and the permit of the signer. -/
def inclusionBindings (metagraph : InclusionMetagraph) (uidHotkeys : Dict ℤ String)
    (validatorHotkey : String) (blockNumber : ℤ) : Except ProofStop Bool := do
  let inclusionMap := Dict.ofList (metagraph.uids.zip metagraph.hotkeys)
  concludeIf (metagraph.uids.length ≠ metagraph.hotkeys.length ∨
      inclusionMap.items.length ≠ metagraph.uids.length ∨
      metagraph.block ≠ some blockNumber ∨
      metagraph.validatorPermit.length ≠ metagraph.hotkeys.length) .notProven
  let permits := ((metagraph.hotkeys.zip metagraph.validatorPermit).filter fun entry =>
    entry.1 = validatorHotkey).map Prod.snd
  match permits with
  | [permit] =>
    pure (permit && uidHotkeys.items.all fun entry => inclusionMap.get? entry.1 == some entry.2)
  | _ => .error .fail

def InclusionPolicyOk (policy : InclusionPolicy) (blockNumber timestampMs : ℤ)
    (commitReveal : Bool) (nextEpoch : Option ℤ) : Prop :=
  policy.validFromBlock ≤ blockNumber ∧ blockNumber < policy.validUntilBlock ∧
    policy.validFromTime ≤ timestampMs * 1000 ∧ timestampMs * 1000 < policy.validUntilTime ∧
    (policy.requireCommitRevealDisabled = true → commitReveal = false) ∧
    (policy.expectedNextEpochStartBlock = none ∨ nextEpoch = policy.expectedNextEpochStartBlock)

instance (policy : InclusionPolicy) (blockNumber timestampMs : ℤ) (commitReveal : Bool)
    (nextEpoch : Option ℤ) :
    Decidable (InclusionPolicyOk policy blockNumber timestampMs commitReveal nextEpoch) :=
  inferInstanceAs (Decidable (_ ∧ _))

/-- The transaction whose inclusion is to be proved. -/
structure ReceiptClaim where
  extrinsicHash : String
  blockHash : String
  blockNumber : ℤ
  expected : WeightCall
  uidHotkeys : Dict ℤ String
  burnHotkey : String
  policy : InclusionPolicy

/-- The execution that the node recorded, for the extrinsic at its position. -/
def checkExecution (execution : HistoricalExecution) (index : ℕ) : Except ProofStop Unit := do
  let success ← proven execution.isSuccess
  let position ← proven execution.extrinsicIdx
  concludeIf (success = false ∨ execution.errorMessage = true ∨ position ≠ index) .fail

/-- The body of the proof, after the receipt itself. -/
def proveReceipt (answers : ProofAnswers) (claim : ReceiptClaim) : Except ProofStop Bool := do
  let finalizedHash ← observe answers.finalisedHead
  let finalizedNumber ← observe answers.finalizedNumber
  let canonicalFinalizedHash ← observeIf finalizedNumber.isSome "" answers.canonicalFinalizedHash
  let canonicalHash ← observe answers.canonicalHash
  let block ← observe answers.block
  let metagraph ← observe answers.metagraph
  let commitReveal ← observe answers.commitReveal
  let timestamp ← observe answers.timestampMs
  let timestampMs ← proven timestamp
  concludeIf (timestampMs ≤ 0) .notProven
  let nextEpoch ← observeIf claim.policy.expectedNextEpochStartBlock.isSome none answers.nextEpoch
  let owner ← observe answers.owner
  let execution ← observe answers.execution
  let items ← proven block
  let (index, observed) ← uniqueMatch claim.extrinsicHash items
  let execution ← proven execution
  checkExecution execution index
  let finalizedNumber ← proven finalizedNumber
  let _ ← proven observed.address
  let call ← proven observed.call
  concludeIf (isChainHash finalizedHash = false ∨ isChainHash canonicalFinalizedHash = false ∨
      isChainHash canonicalHash = false ∨ call.callModule = none ∨ call.callFunction = none)
    .notProven
  concludeIf (lower canonicalFinalizedHash ≠ lower finalizedHash) .notProven
  concludeIf (lower canonicalHash ≠ lower claim.blockHash) .fail
  concludeIf (finalizedNumber < claim.blockNumber) .notProven
  let commitReveal ← proven commitReveal
  concludeIf (claim.policy.expectedNextEpochStartBlock ≠ none ∧ nextEpoch = none) .notProven
  concludeIf (owner = "") .notProven
  let metagraph ← proven metagraph
  let bindingsOk ← inclusionBindings metagraph claim.uidHotkeys claim.expected.validatorHotkey
    claim.blockNumber
  pure (decide (observed.Exact claim.expected) && bindingsOk &&
    decide (InclusionPolicyOk claim.policy claim.blockNumber timestampMs commitReveal nextEpoch) &&
    owner == claim.burnHotkey)

/-- A receipt as the SDK returns it from the submission. -/
structure ChainReceipt where
  extrinsicHash : Option String
  blockHash : Option String
  blockNumber : Option ℤ
  isSuccess : Option Bool
  errorMessage : Bool

/-- The verdict of a proof. -/
def verdict (proof : Except ProofStop Bool) : ProofStatus :=
  match proof with
  | .ok true => .pass
  | .ok false => .fail
  | .error stop => stop.status

/-- `_classify_finalized_receipt`; without a receipt nothing is required of it. -/
def classifyFinalizedReceipt (answers : ProofAnswers) (receipt : Option ChainReceipt)
    (claim : ReceiptClaim) : ProofStatus :=
  match receipt with
  | none => verdict (proveReceipt answers claim)
  | some receipt =>
    match receipt.isSuccess with
    | none => .notProven
    | some success =>
      if success = false ∨ receipt.errorMessage = true then .fail
      else verdict (proveReceipt answers claim)

end Cathedral.Sn39
