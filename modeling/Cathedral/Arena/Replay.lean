import Cathedral.Arena.Primitives

/-!
# Cathedral.Arena.Replay — the pinned targets, re-run on a witness

`game/arena/replay.py`. A target is a harness and an invariant; a witness reproduces when
the invariant fails of what the harness observes on it. Which targets there are is settled
when the module is imported (some come from beside the repository, some are minted by a
solver), so the registry is a parameter; `multiTakeSplit` is one that the file itself has.

An exception of the harness is a reason, an exception of the invariant is not caught.
-/

namespace Cathedral.Arena

open PyJson (Value)

structure ReplayTarget where
  family : PyStr
  source : PyStr
  codeSha256 : PyStr
  propertyDesc : PyStr
  /-- The keys that the harness reads. -/
  decode : List PyStr
  /-- What is observed; an error is the name of the exception. -/
  harness : Members → Except PyStr Members
  /-- True where the property holds. -/
  invariant : Members → Except PyStr Bool

/-- `TARGETS`. -/
abbrev Registry : Type := PyStr → Option ReplayTarget

inductive ReplayReason where
  | unknownTarget
  | witnessMissingKeys (decode : List PyStr)
  | harnessError (name : PyStr)
  | proofDidNotReproduce
deriving DecidableEq

structure ReplayOutcome where
  reproduced : Bool
  invariantHeld : Bool
  observed : Members
  reason : Option ReplayReason

/-- Nothing was observed. -/
def ReplayOutcome.refused (reason : ReplayReason) : ReplayOutcome := ⟨false, true, [], some reason⟩

/-- `all(k in witness for k in keys)`, which stops at the first that is missing; `none` where
it raises. -/
def containsAll (witness : Value) : List PyStr → Option Bool
  | [] => some true
  | k :: keys =>
    (PyJson.contains k witness).bind fun found =>
      if found then containsAll witness keys else some false

/-- `{k: witness[k] for k in keys}`. -/
def pick (witness : Value) (keys : List PyStr) : Except PyStr Members :=
  match witness with
  | .obj members =>
    keys.mapM fun k =>
      match Dict.find k members with
      | some v => .ok (k, v)
      | none => .error (PyStr.ofString "KeyError")
  | _ => if keys = [] then .ok [] else .error (PyStr.ofString "TypeError")

/-- `run_replay`; `none` where it raises. -/
def runReplay (targets : Registry) (targetId : PyStr) (witness : Value) : Option ReplayOutcome :=
  match targets targetId with
  | none => some (.refused .unknownTarget)
  | some target =>
    if PyJson.truthy witness = false then some (.refused (.witnessMissingKeys target.decode))
    else
      (containsAll witness target.decode).bind fun complete =>
        if complete then
          match (pick witness target.decode).bind target.harness with
          | .error name => some (.refused (.harnessError name))
          | .ok observed =>
            (target.invariant observed).toOption.map fun held =>
              ⟨!held, held, observed, if held then some .proofDidNotReproduce else none⟩
        else some (.refused (.witnessMissingKeys target.decode))

/-- The target's own code on this witness: its harness observes something of which its
invariant fails. -/
def Violates (target : ReplayTarget) (witness : Value) : Prop :=
  ∃ inputs observed, pick witness target.decode = .ok inputs ∧
    target.harness inputs = .ok observed ∧ target.invariant observed = .ok false

/-- A replay that answers says whether the witness violates the invariant. -/
theorem reproduced_iff {targets : Registry} {targetId : PyStr} {witness : Value}
    {out : ReplayOutcome} (h : runReplay targets targetId witness = some out) :
    out.reproduced = true ↔ ∃ target, targets targetId = some target ∧
      PyJson.truthy witness = true ∧ containsAll witness target.decode = some true ∧
        Violates target witness := by
  unfold runReplay at h
  cases htarget : targets targetId with
  | none =>
    rw [htarget] at h
    cases h
    simp [ReplayOutcome.refused]
  | some target =>
    rw [htarget] at h
    dsimp only at h
    cases htruthy : PyJson.truthy witness with
    | false =>
      rw [htruthy, if_pos rfl] at h
      cases h
      simp [ReplayOutcome.refused]
    | true =>
      rw [htruthy, if_neg (by simp), Option.bind_eq_some_iff] at h
      obtain ⟨complete, hcomplete, h⟩ := h
      cases complete with
      | false =>
        cases h
        simp [ReplayOutcome.refused, hcomplete]
      | true =>
        rw [if_pos rfl] at h
        simp only [Option.some.injEq, exists_eq_left', hcomplete, true_and]
        cases hpick : pick witness target.decode with
        | error name =>
          simp only [hpick, Except.bind] at h
          cases h
          simp [ReplayOutcome.refused, Violates, hpick]
        | ok inputs =>
          cases hharness : target.harness inputs with
          | error name =>
            simp only [hpick, Except.bind, hharness] at h
            cases h
            simp [ReplayOutcome.refused, Violates, hpick, hharness]
          | ok observed =>
            simp only [hpick, Except.bind, hharness] at h
            obtain ⟨held, hheld, rfl⟩ := Option.map_eq_some_iff.mp h
            cases hinv : target.invariant observed with
            | error name =>
              rw [hinv] at hheld
              cases hheld
            | ok held' =>
              rw [hinv] at hheld
              cases hheld
              cases held <;> simp [Violates, hpick, hharness, hinv]

/-! ## A target of the file -/

/-- `int(value)`; an error is the name of the exception. -/
def toInt (tables : UnicodeTables) : Value → Except PyStr ℤ
  | .num (.int n) => .ok n
  | .num (.float (.finite q)) => .ok (q.num.tdiv q.den)
  | .num (.float .nan) => .error (PyStr.ofString "ValueError")
  | .num (.float _) => .error (PyStr.ofString "OverflowError")
  | .bool b => .ok (if b then 1 else 0)
  | .str s =>
    match PyStr.int? tables (PyStr.strip s) with
    | some n => .ok n
    | none => .error (PyStr.ofString "ValueError")
  | _ => .error (PyStr.ofString "TypeError")

/-- `int(members[name])`. -/
def intField (tables : UnicodeTables) (members : Members) (name : String) : Except PyStr ℤ :=
  match get members name with
  | some v => toInt tables v
  | none => .error (PyStr.ofString "KeyError")

def splitHarness (tables : UnicodeTables) (w : Members) : Except PyStr Members := do
  let pool ← intField tables w "pool"
  let r1 ← intField tables w "rate1_bps"
  let r2 ← intField tables w "rate2_bps"
  let take1 := pool * r1 / 10000
  let take2 := pool * r2 / 10000
  .ok (record [("pool", integer pool), ("take1", integer take1), ("take2", integer take2),
    ("total", integer (take1 + take2))])

def splitInv (o : Members) : Except PyStr Bool :=
  match get o "total", get o "pool" with
  | some (.num (.int total)), some (.num (.int pool)) => .ok (decide (total ≤ pool))
  | none, _ | _, none => .error (PyStr.ofString "KeyError")
  | _, _ => .error (PyStr.ofString "TypeError")

def multiTakeSplitId : PyStr := PyStr.ofString "subtensor-pallet:multi-take-split@HEAD"

def multiTakeSplit (tables : UnicodeTables) : ReplayTarget where
  family := PyStr.ofString "F_emission"
  source := PyStr.ofString "arena-port"
  codeSha256 := []
  propertyDesc := PyStr.ofString
    "total distributed across takes must never exceed the pool (no minting)."
  decode := ["pool", "rate1_bps", "rate2_bps"].map PyStr.ofString
  harness := splitHarness tables
  invariant := splitInv

/-- A registry with only this target. -/
def splitTargets : Registry := fun id =>
  if id = multiTakeSplitId then some (multiTakeSplit PyStr.exactNumbers.tables) else none

/-- Two takes of one pool that together are more than it. -/
def splitWitness : Members :=
  record [("pool", integer 1000000), ("rate1_bps", integer 7000), ("rate2_bps", integer 6000)]

end Cathedral.Arena
