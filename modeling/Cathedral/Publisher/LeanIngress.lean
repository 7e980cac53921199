import Cathedral.Lib.JsonRoundTrip
import Cathedral.Lib.Run
import Cathedral.Lib.Selection

/-!
# Cathedral.Publisher.LeanIngress — the local event log of the bitset ingress

The ingress admits signed bitset submissions into a local table, one row for each
(miner, challenge) pair, and answers with a receipt. Whether a submission is a
replay, replaces a rejected row, or is refused under pressure is decided in one
transaction, and any exception in it rolls back.

Texts that cannot be encoded, and integers that SQLite cannot store, make a write
raise; those writes are among the failures of `Faults`.
-/

namespace Cathedral.Publisher.LeanIngress

/-! ## Events -/

/-- The body of a submission after `normalize_submit_body`. -/
structure Submit where
  minerHotkey : String
  challengeId : String
  cardId : String
  submittedAt : String
  submitToken : String
  assignmentEncoding : String
  assignmentB64 : String
deriving DecidableEq, Repr

/-- The fields of a verified submit token that admission reads. -/
structure TokenPayload where
  epoch : ℤ
  tier : ℤ
  seq : ℤ
  cnfSha256 : String
deriving DecidableEq, Repr

/-- The hash and the letters of the platform. -/
structure Platform where
  /-- `hashlib.sha256(…).hexdigest()`. -/
  sha256 : Bytes → String
  lower : String → String

/-- The columns that a row shares with its event. -/
structure EventFields where
  receiptId : String
  idempotencyKey : String
  minerHotkey : String
  challengeId : String
  cardId : String
  epoch : ℤ
  tier : ℤ
  seq : ℤ
  cnfSha256 : String
  assignmentEncoding : String
  assignmentSha256 : String
  receivedAt : String
  submittedAt : String
  submitTokenId : String
deriving DecidableEq, Repr

def text (s : String) : Json ℤ := .str (PyStr.ofString s)

/-- An object with the members in the order of the source. -/
def object (members : List (String × Json ℤ)) : Json ℤ :=
  .obj (members.map fun m => (PyStr.ofString m.1, m.2))

/-- `_json_dumps`: sorted keys, no blanks. -/
def jsonDumps (value : Json ℤ) : List Char := Json.render Json.intNumeral value.sorted

/-- `submit_events_local.status`. -/
inductive IngressStatus where
  | received
  | rejected
deriving DecidableEq, Repr

def IngressStatus.name : IngressStatus → String
  | .received => "received"
  | .rejected => "rejected"

/-- The event with a status; `replaces_rejected` is set on a resubmission only. -/
def eventWith (status : IngressStatus) (f : EventFields) (replacesRejected : Bool) : Json ℤ :=
  object ([
    ("schema", text "cathedral.v2.lean_ingress_event.v1"),
    ("receipt_id", text f.receiptId),
    ("idempotency_key", text f.idempotencyKey),
    ("miner_hotkey", text f.minerHotkey),
    ("challenge_id", text f.challengeId),
    ("card_id", text f.cardId),
    ("epoch", .num f.epoch),
    ("tier", .num f.tier),
    ("seq", .num f.seq),
    ("cnf_sha256", text f.cnfSha256),
    ("assignment_encoding", text f.assignmentEncoding),
    ("assignment_sha256", text f.assignmentSha256),
    ("status", text status.name),
    ("received_at_iso", text f.receivedAt),
    ("submitted_at", text f.submittedAt),
    ("submit_token_id", text f.submitTokenId)] ++
    if replacesRejected then [("replaces_rejected", .bool true)] else [])

def eventOf (f : EventFields) (replacesRejected : Bool) : Json ℤ :=
  eventWith .received f replacesRejected

/-- A row of `submit_events_local`; the table is keyed by its idempotency key. -/
structure Row where
  fields : EventFields
  assignmentB64 : String
  status : IngressStatus
  eligibilityStatus : String
  verifiedAt : Option String
  signature : String
  weightedScore : ℚ
  eventJson : List Char
  eventSha256 : String
  flushedAt : Option String
  rejectionReason : Option String

/-- `submit_events_local`, under its unique idempotency keys. -/
abbrev Table : Type := Dict String Row

def utf8 (s : String) : Bytes := s.toUTF8.toList

def idempotencyKey (p : Platform) (minerHotkey challengeId : String) : String :=
  p.sha256 (asciiBytes "cathedral:v2:submit-bitset:".toList ++ 0 ::
    asciiBytes (jsonDumps (object [("miner_hotkey", text minerHotkey),
      ("challenge_id", text challengeId)])))

/-! ## Pressure -/

/-- The limits of `admit_event`; one that is not positive is off. -/
structure Limits where
  maxUnflushedEvents : ℤ
  maxStorageBytes : ℤ
  minFreeDiskBytes : ℤ
  maxUnflushedAgeSecs : ℤ
deriving DecidableEq, Repr

/-- What the pressure check reads from the machine. -/
structure Machine where
  storageBytes : ℤ
  diskFreeBytes : Option ℤ
  /-- `time.time() - parse_iso(…)`, `none` where the text does not parse. -/
  secondsSince : String → Option ℚ

/-- `flushed_at_iso IS NULL`. -/
def Row.unflushed (e : Row) : Bool := e.flushedAt.isNone

def unflushed (t : Table) : ℕ := t.count fun _ e => e.unflushed

/-- `MIN(received_at_iso)` over the unflushed rows. -/
def oldestUnflushed (t : Table) : Option String :=
  ((t.items.filter fun row => row.2.unflushed).map fun row => row.2.fields.receivedAt).min?

def pressureReason (limits : Limits) (machine : Machine) (t : Table) : Option String :=
  if 0 < limits.maxUnflushedEvents ∧ limits.maxUnflushedEvents ≤ unflushed t then
    some "ingress_backlog_full"
  else if 0 < limits.maxStorageBytes ∧ limits.maxStorageBytes ≤ machine.storageBytes then
    some "ingress_storage_limit"
  else if 0 < limits.minFreeDiskBytes ∧
      machine.diskFreeBytes.any (· < limits.minFreeDiskBytes) then
    some "ingress_disk_pressure"
  else if 0 < limits.maxUnflushedAgeSecs ∧
      ((oldestUnflushed t).bind fun oldest =>
        if oldest = "" then none else machine.secondsSince oldest).any
          ((limits.maxUnflushedAgeSecs : ℚ) < ·) then
    some "ingress_flush_lag"
  else none

/-! ## Admission -/

/-- A call of `admit_event`; `receiptId` is the fresh id it makes up. -/
structure Admission where
  submit : Submit
  token : TokenPayload
  signature : String
  assignmentRaw : Bytes
  receivedAt : String
  receiptId : String
  limits : Limits
  machine : Machine

/-- Where an exception strikes a transaction. -/
structure Faults where
  /-- `_connect` or `BEGIN IMMEDIATE`. -/
  opening : Bool
  lookup : Bool
  pressure : Bool
  /-- The `UPDATE` or the `INSERT`. -/
  write : Bool
  readBack : Bool
  commit : Bool
deriving DecidableEq, Repr

def Faults.none : Faults := ⟨false, false, false, false, false, false⟩

inductive AdmitError where
  /-- `LeanIngressPressureError`. -/
  | pressure (reason : String)
  /-- Any other exception. -/
  | raised
deriving DecidableEq, Repr

def Admission.key (p : Platform) (call : Admission) : String :=
  idempotencyKey p call.submit.minerHotkey call.submit.challengeId

/-- The columns of the event of a call, under a receipt id. -/
def Admission.fields (p : Platform) (call : Admission) (receiptId : String) : EventFields where
  receiptId := receiptId
  idempotencyKey := call.key p
  minerHotkey := call.submit.minerHotkey
  challengeId := call.submit.challengeId
  cardId := call.submit.cardId
  epoch := call.token.epoch
  tier := call.token.tier
  seq := call.token.seq
  cnfSha256 := p.lower call.token.cnfSha256
  assignmentEncoding := call.submit.assignmentEncoding
  assignmentSha256 := p.sha256 call.assignmentRaw
  receivedAt := call.receivedAt
  submittedAt := call.submit.submittedAt
  submitTokenId := ((p.sha256 (utf8 call.submit.submitToken)).take 32).toString

/-- `event_json` of a call. -/
def Admission.eventJson (p : Platform) (call : Admission) (receiptId : String)
    (replacesRejected : Bool) : List Char :=
  jsonDumps (eventOf (call.fields p receiptId) replacesRejected)

/-- `event_sha256`. -/
def eventSha (p : Platform) (eventJson : List Char) : String := p.sha256 (asciiBytes eventJson)

/-- The row of an `INSERT`. -/
def insertedRow (p : Platform) (call : Admission) : Row where
  fields := call.fields p call.receiptId
  assignmentB64 := call.submit.assignmentB64
  status := .received
  eligibilityStatus := "unknown_beta"
  verifiedAt := none
  signature := call.signature
  weightedScore := 0
  eventJson := call.eventJson p call.receiptId false
  eventSha256 := eventSha p (call.eventJson p call.receiptId false)
  flushedAt := none
  rejectionReason := none

/-- The row an `UPDATE` leaves in place of a rejected one: the receipt id, the pair and
the card stay. -/
def resubmittedRow (p : Platform) (call : Admission) (old : Row) : Row :=
  let eventJson := call.eventJson p old.fields.receiptId true
  { old with
    fields := { old.fields with
      epoch := call.token.epoch
      tier := call.token.tier
      seq := call.token.seq
      cnfSha256 := p.lower call.token.cnfSha256
      assignmentEncoding := call.submit.assignmentEncoding
      assignmentSha256 := p.sha256 call.assignmentRaw
      receivedAt := call.receivedAt
      submittedAt := call.submit.submittedAt
      submitTokenId := ((p.sha256 (utf8 call.submit.submitToken)).take 32).toString }
    assignmentB64 := call.submit.assignmentB64
    status := .received
    eligibilityStatus := "unknown_beta"
    verifiedAt := none
    signature := call.signature
    weightedScore := 0
    eventJson := eventJson
    eventSha256 := eventSha p eventJson
    flushedAt := none
    rejectionReason := none }

/-- An exception at a point. -/
def strike (fault : Bool) : Except AdmitError Unit := if fault then .error .raised else .ok ()

def checkPressure (call : Admission) (faults : Faults) (t : Table) : Except AdmitError Unit := do
  strike faults.pressure
  match pressureReason call.limits call.machine t with
  | some reason => .error (.pressure reason)
  | none => .ok ()

/-- Write a row, read it back and commit. -/
def writeRow (faults : Faults) (key : String) (row : Row) (t : Table) :
    Except AdmitError ((Row × Bool) × Table) := do
  strike faults.write
  strike faults.readBack
  strike faults.commit
  .ok ((row, true), t.set key row)

/-- The body of `admit_event`: the answer and the table it commits. -/
def transaction (p : Platform) (call : Admission) (faults : Faults) (t : Table) :
    Except AdmitError ((Row × Bool) × Table) := do
  strike faults.opening
  strike faults.lookup
  match t.get? (call.key p) with
  | some old =>
    if old.status ≠ .rejected then
      strike faults.commit
      .ok ((old, false), t)
    else
      checkPressure call faults t
      writeRow faults (call.key p) (resubmittedRow p call old) t
  | none =>
    checkPressure call faults t
    -- the primary key: a fresh id that is taken raises
    strike (t.items.any fun row => row.2.fields.receiptId = call.receiptId)
    writeRow faults (call.key p) (insertedRow p call) t

/-- `admit_event`: an exception rolls back. -/
def admitEvent (p : Platform) (call : Admission) (faults : Faults) (t : Table) :
    Except AdmitError (Row × Bool) × Table :=
  match transaction p call faults t with
  | .ok (answer, t') => (.ok answer, t')
  | .error e => (.error e, t)

/-! ## The system -/

/-- `_FAMILY`, the card every caller passes. -/
def family : String := "synthetic_boolean_v1"

inductive Action where
  | enter (call : Admission) (faults : Faults)
  | flush (receiptIds : List String) (flushedAt : String)
  | reject (key reason : String)

def flushedRow (receiptIds : List String) (flushedAt : String) (e : Row) : Row :=
  if e.fields.receiptId ∈ receiptIds then { e with flushedAt := some flushedAt } else e

def rejectedRow (reason : String) (e : Row) : Row :=
  { e with status := .rejected, rejectionReason := some reason }

inductive Step (p : Platform) (limit : ℤ) : Table → Action → Table → Prop where
  | enter {t : Table} {call : Admission} {faults : Faults} :
      call.limits.maxUnflushedEvents = limit → call.submit.cardId = family →
      Step p limit t (.enter call faults) (admitEvent p call faults t).2
  | flush {t : Table} {receiptIds : List String} {flushedAt : String} :
      Step p limit t (.flush receiptIds flushedAt)
        (t.mapItems fun _ e => flushedRow receiptIds flushedAt e)
  | reject {t : Table} {key reason : String} :
      Step p limit t (.reject key reason) (t.modify key (rejectedRow reason))

/-! ## What an admission can do -/

section Cases

variable {p : Platform} {call : Admission} {faults : Faults} {t : Table}

theorem checkPressure_eq_ok {u : Unit} (h : checkPressure call faults t = .ok u) :
    pressureReason call.limits call.machine t = none := by
  unfold checkPressure at h
  obtain ⟨-, -, h⟩ := bind_eq_ok.mp h
  cases hreason : pressureReason call.limits call.machine t with
  | none => rfl
  | some reason =>
    rw [hreason] at h
    cases h

theorem writeRow_eq_ok {key : String} {row : Row} {answer : (Row × Bool) × Table}
    (h : writeRow faults key row t = .ok answer) : answer = ((row, true), t.set key row) := by
  unfold writeRow at h
  obtain ⟨-, -, h⟩ := bind_eq_ok.mp h
  obtain ⟨-, -, h⟩ := bind_eq_ok.mp h
  obtain ⟨-, -, h⟩ := bind_eq_ok.mp h
  exact (Except.ok.inj h).symm

/-- The four ways an admission ends. -/
theorem admitEvent_cases (p : Platform) (call : Admission) (faults : Faults) (t : Table) :
    (∃ e, admitEvent p call faults t = (.error e, t)) ∨
    (∃ old, t.get? (call.key p) = some old ∧ old.status ≠ .rejected ∧
      admitEvent p call faults t = (.ok (old, false), t)) ∨
    (∃ old, t.get? (call.key p) = some old ∧ old.status = .rejected ∧
      pressureReason call.limits call.machine t = none ∧
      admitEvent p call faults t = (.ok (resubmittedRow p call old, true),
        t.set (call.key p) (resubmittedRow p call old))) ∨
    (t.get? (call.key p) = none ∧ pressureReason call.limits call.machine t = none ∧
      admitEvent p call faults t =
        (.ok (insertedRow p call, true), t.set (call.key p) (insertedRow p call))) := by
  cases htx : transaction p call faults t with
  | error e => exact Or.inl ⟨e, by rw [admitEvent, htx]⟩
  | ok answer =>
    right
    have haccept : admitEvent p call faults t = (.ok answer.1, answer.2) := by
      rw [admitEvent, htx]
    unfold transaction at htx
    obtain ⟨-, -, htx⟩ := bind_eq_ok.mp htx
    obtain ⟨-, -, htx⟩ := bind_eq_ok.mp htx
    cases hget : t.get? (call.key p) with
    | some old =>
      rw [hget] at htx
      dsimp only at htx
      by_cases hstatus : old.status ≠ .rejected
      · -- a row that is not rejected is the answer, before any pressure check
        rw [if_pos hstatus] at htx
        obtain ⟨-, -, htx⟩ := bind_eq_ok.mp htx
        refine Or.inl ⟨old, rfl, hstatus, ?_⟩
        rw [haccept, ← Except.ok.inj htx]
      · rw [if_neg hstatus] at htx
        obtain ⟨_, hpressure, htx⟩ := bind_eq_ok.mp htx
        refine Or.inr (Or.inl ⟨old, rfl, not_not.mp hstatus,
          checkPressure_eq_ok hpressure, ?_⟩)
        rw [haccept, writeRow_eq_ok htx]
    | none =>
      rw [hget] at htx
      obtain ⟨_, hpressure, htx⟩ := bind_eq_ok.mp htx
      obtain ⟨-, -, htx⟩ := bind_eq_ok.mp htx
      refine Or.inr (Or.inr ⟨rfl, checkPressure_eq_ok hpressure, ?_⟩)
      rw [haccept, writeRow_eq_ok htx]

/-- A refused or failed admission leaves the table. -/
theorem admitEvent_unchanged {e : AdmitError} (h : (admitEvent p call faults t).1 = .error e) :
    (admitEvent p call faults t).2 = t := by
  unfold admitEvent at h ⊢
  cases htx : transaction p call faults t with
  | error e => rfl
  | ok answer =>
    rw [htx] at h
    cases h

/-- A replay is answered whatever the limits. -/
theorem admitEvent_replay {old : Row} (hget : t.get? (call.key p) = some old)
    (hstatus : old.status ≠ .rejected) (hopening : faults.opening = false)
    (hlookup : faults.lookup = false) (hcommit : faults.commit = false) :
    admitEvent p call faults t = (.ok (old, false), t) := by
  have htx : transaction p call faults t = .ok ((old, false), t) := by
    unfold transaction
    rw [hopening, hlookup, hget]
    dsimp only
    rw [if_pos hstatus, hcommit]
    rfl
  rw [admitEvent, htx]

/-- The row of an answer is the row of the table. -/
theorem admitEvent_answered {row : Row} {inserted : Bool}
    (h : (admitEvent p call faults t).1 = .ok (row, inserted)) :
    (admitEvent p call faults t).2.get? (call.key p) = some row := by
  rcases admitEvent_cases p call faults t with
    ⟨e, heq⟩ | ⟨old, hget, -, heq⟩ | ⟨old, -, -, -, heq⟩ | ⟨-, -, heq⟩
  · rw [heq] at h
    cases h
  · rw [heq] at h ⊢
    cases h
    exact hget
  · rw [heq] at h ⊢
    cases h
    exact Dict.get?_set_self _ _ _
  · rw [heq] at h ⊢
    cases h
    exact Dict.get?_set_self _ _ _

theorem unflushed_lt_of_no_pressure {limits : Limits} {machine : Machine}
    (h : pressureReason limits machine t = none) (hlimit : 0 < limits.maxUnflushedEvents) :
    (unflushed t : ℤ) < limits.maxUnflushedEvents := by
  unfold pressureReason at h
  split at h
  · cases h
  · next hfull =>
      rw [not_and] at hfull
      exact not_le.mp (hfull hlimit)

end Cases

/-! ## What a run keeps -/

section Runs

variable {p : Platform} {limit : ℤ} {t t' : Table} {action : Action} {actions : List Action}

def Row.pair (e : Row) : String × String := (e.fields.minerHotkey, e.fields.challengeId)

def Admission.pair (call : Admission) : String × String :=
  (call.submit.minerHotkey, call.submit.challengeId)

/-- What every row satisfies by itself. -/
structure RowInv (p : Platform) (key : String) (e : Row) : Prop where
  idempotencyKey : e.fields.idempotencyKey = key
  key : LeanIngress.idempotencyKey p e.fields.minerHotkey e.fields.challengeId = key
  card : e.fields.cardId = family
  hashed : e.eventSha256 = eventSha p e.eventJson

theorem rowInv_inserted {call : Admission} (hcard : call.submit.cardId = family) :
    RowInv p (call.key p) (insertedRow p call) := ⟨rfl, rfl, hcard, rfl⟩

theorem rowInv_resubmitted {key : String} {old : Row} (call : Admission) (h : RowInv p key old) :
    RowInv p key (resubmittedRow p call old) := ⟨h.idempotencyKey, h.key, h.card, rfl⟩

/-- What a step does to one row: an update that keeps its pair, or its first insert. -/
theorem step_origin (h : Step p limit t action t') {key : String} {e' : Row}
    (hget : t'.get? key = some e') :
    t.get? key = some e' ∨
    (∃ e f, t.get? key = some e ∧ e' = { e with
      flushedAt := f, status := e'.status, rejectionReason := e'.rejectionReason }) ∨
    (∃ call faults old, action = .enter call faults ∧ key = call.key p ∧ t.get? key = some old ∧
      old.status = .rejected ∧ e' = resubmittedRow p call old) ∨
    (∃ call faults, action = .enter call faults ∧ key = call.key p ∧ t.get? key = none ∧
      call.submit.cardId = family ∧ e' = insertedRow p call) := by
  cases h with
  | @enter call faults _ hcard =>
    rcases admitEvent_cases p call faults t with
      ⟨e, heq⟩ | ⟨old, -, -, heq⟩ | ⟨old, hold, hstatus, -, heq⟩ | ⟨hnone, -, heq⟩
    · rw [heq] at hget
      exact Or.inl hget
    · rw [heq] at hget
      exact Or.inl hget
    · rw [heq, Dict.get?_set] at hget
      split at hget
      · next hkey =>
          subst hkey
          rw [Option.some.injEq] at hget
          exact Or.inr (Or.inr (Or.inl ⟨call, faults, old, rfl, rfl, hold, hstatus, hget.symm⟩))
      · exact Or.inl hget
    · rw [heq, Dict.get?_set] at hget
      split at hget
      · next hkey =>
          subst hkey
          rw [Option.some.injEq] at hget
          exact Or.inr (Or.inr (Or.inr ⟨call, faults, rfl, rfl, hnone, hcard, hget.symm⟩))
      · exact Or.inl hget
  | @flush receiptIds flushedAt =>
    rw [Dict.get?_mapItems, Option.map_eq_some_iff] at hget
    obtain ⟨e, he, rfl⟩ := hget
    refine Or.inr (Or.inl ⟨e, (flushedRow receiptIds flushedAt e).flushedAt, he, ?_⟩)
    unfold flushedRow
    split <;> rfl
  | @reject j reason =>
    rw [Dict.get?_modify] at hget
    split at hget
    · rw [Option.map_eq_some_iff] at hget
      obtain ⟨e, he, rfl⟩ := hget
      exact Or.inr (Or.inl ⟨e, e.flushedAt, he, rfl⟩)
    · exact Or.inl hget

theorem rowInv_step (h : Step p limit t action t')
    (hinv : ∀ key e, t.get? key = some e → RowInv p key e) :
    ∀ key e, t'.get? key = some e → RowInv p key e := by
  intro key e' hget
  rcases step_origin h hget with
    hold | ⟨e, f, hold, heq⟩ | ⟨call, faults, old, -, rfl, hold, -, rfl⟩ |
    ⟨call, faults, -, rfl, -, hcard, rfl⟩
  · exact hinv key e' hold
  · have he := hinv key e hold
    rw [heq]
    exact ⟨he.idempotencyKey, he.key, he.card, he.hashed⟩
  · exact rowInv_resubmitted call (hinv _ old hold)
  · exact rowInv_inserted hcard

def submittedPairs (actions : List Action) : List (String × String) :=
  actions.filterMap fun
    | .enter call _ => some call.pair
    | _ => none

/-- No two submitted pairs share an idempotency key. -/
def KeysCollisionFree (p : Platform) (actions : List Action) : Prop :=
  ∀ a ∈ submittedPairs actions, ∀ b ∈ submittedPairs actions,
    idempotencyKey p a.1 a.2 = idempotencyKey p b.1 b.2 → a = b

theorem submittedPairs_append (actions : List Action) (action : Action) :
    submittedPairs (actions ++ [action]) = submittedPairs actions ++ submittedPairs [action] :=
  List.filterMap_append

theorem KeysCollisionFree.prefix (h : KeysCollisionFree p (actions ++ [action])) :
    KeysCollisionFree p actions := by
  intro a ha b hb
  rw [KeysCollisionFree, submittedPairs_append] at h
  exact h a (List.mem_append_left _ ha) b (List.mem_append_left _ hb)

/-- The event of a row is the object of its columns. -/
def Row.FieldsMatch (e : Row) : Prop :=
  ∃ replacesRejected, e.eventJson = jsonDumps (eventOf e.fields replacesRejected)

/-- The rows after a history: submitted pairs, and events that match the columns. -/
structure RowsInv (p : Platform) (actions : List Action) (t : Table) : Prop where
  rows : ∀ key e, t.get? key = some e → RowInv p key e
  pairs : ∀ key e, t.get? key = some e → e.pair ∈ submittedPairs actions
  fields : KeysCollisionFree p actions → ∀ key e, t.get? key = some e → e.FieldsMatch

/-- A resubmission of the same pair writes the columns of its event. -/
theorem resubmittedRow_fieldsMatch {call : Admission} {old : Row} (hinv : RowInv p (call.key p) old)
    (hpair : old.pair = call.pair) (hcard : call.submit.cardId = family) :
    (resubmittedRow p call old).FieldsMatch := by
  obtain ⟨hminer, hchallenge⟩ := Prod.mk.inj hpair
  have hkey := hinv.idempotencyKey
  have hold := hinv.card
  refine ⟨true, ?_⟩
  have hfields : (resubmittedRow p call old).fields = call.fields p old.fields.receiptId := by
    simp only [resubmittedRow, Admission.fields, hminer, hchallenge, hkey, hold, hcard]
  rw [hfields]
  rfl

theorem rowsInv_step (h : Step p limit t action t') (hinv : RowsInv p actions t) :
    RowsInv p (actions ++ [action]) t' := by
  have hsub : ∀ a ∈ submittedPairs actions, a ∈ submittedPairs (actions ++ [action]) := by
    intro a ha
    rw [submittedPairs_append]
    exact List.mem_append_left _ ha
  refine ⟨rowInv_step h hinv.rows, ?_, ?_⟩
  · intro key e' hget
    rcases step_origin h hget with
      hold | ⟨e, f, hold, heq⟩ | ⟨call, faults, old, -, rfl, hold, -, rfl⟩ |
      ⟨call, faults, rfl, rfl, -, -, rfl⟩
    · exact hsub _ (hinv.pairs key e' hold)
    · rw [heq]
      exact hsub _ (hinv.pairs key e hold)
    · exact hsub _ (hinv.pairs _ old hold)
    · rw [submittedPairs_append]
      exact List.mem_append_right _ (List.mem_singleton_self _)
  · intro hfree key e' hget
    have hbefore := hinv.fields hfree.prefix
    rcases step_origin h hget with
      hold | ⟨e, f, hold, heq⟩ | ⟨call, faults, old, rfl, rfl, hold, -, rfl⟩ |
      ⟨call, faults, rfl, rfl, -, -, rfl⟩
    · exact hbefore key e' hold
    · rw [heq]
      exact hbefore key e hold
    · -- the rejected row had the key of the call, so it had its pair
      have hcall : call.pair ∈ submittedPairs (actions ++ [.enter call faults]) := by
        rw [submittedPairs_append]
        exact List.mem_append_right _ (List.mem_singleton_self _)
      have hrow := hinv.rows _ old hold
      have hpair := hfree old.pair (hsub _ (hinv.pairs _ old hold)) call.pair hcall hrow.key
      cases h with
      | enter _ hcard => exact resubmittedRow_fieldsMatch hrow hpair hcard
    · exact ⟨false, rfl⟩

theorem bounded_step (h : Step p limit t action t') (hlimit : 0 < limit)
    (hinv : (unflushed t : ℤ) ≤ limit) : (unflushed t' : ℤ) ≤ limit := by
  cases h with
  | @enter call faults hlimits _ =>
    -- a write happens below the limit, and adds at most one unflushed row
    have hwrite : ∀ row, pressureReason call.limits call.machine t = none →
        (unflushed (t.set (call.key p) row) : ℤ) ≤ limit := by
      intro row hpressure
      have hlt := unflushed_lt_of_no_pressure hpressure (hlimits ▸ hlimit)
      have hle := Dict.count_set_le (p := fun _ e => e.unflushed) t (call.key p) row
      rw [hlimits] at hlt
      simp only [unflushed] at hlt ⊢
      omega
    rcases admitEvent_cases p call faults t with
      ⟨e, heq⟩ | ⟨old, -, -, heq⟩ | ⟨old, -, -, hpressure, heq⟩ | ⟨-, hpressure, heq⟩
    · rw [heq]
      exact hinv
    · rw [heq]
      exact hinv
    · rw [heq]
      exact hwrite _ hpressure
    · rw [heq]
      exact hwrite _ hpressure
  | @flush receiptIds flushedAt =>
    have hle := Dict.count_mapItems_le (p := fun _ e => e.unflushed) t
      (f := fun _ e => flushedRow receiptIds flushedAt e) (fun _ e he => by
        unfold flushedRow at he
        split at he
        · cases he
        · exact he)
    simp only [unflushed] at hinv ⊢
    omega
  | @reject key reason =>
    have hafter := Dict.count_modify (p := fun _ e => e.unflushed) t key (rejectedRow reason)
    have hbefore := Dict.count_eq_add t (fun _ e => e.unflushed) key
    have hsame : (t.get? key).any (fun e => (rejectedRow reason e).unflushed) =
        (t.get? key).any fun e => e.unflushed := rfl
    rw [hsame, ← hbefore] at hafter
    simp only [unflushed] at hinv ⊢
    rw [hafter]
    exact hinv

/-- What a step may change of a row that is not rejected. -/
def SameEvent (e e' : Row) : Prop :=
  e' = { e with
    flushedAt := e'.flushedAt, status := e'.status, rejectionReason := e'.rejectionReason }

/-- The row of a key after a step: it stays, with its receipt id, and its event too
unless it was rejected. -/
theorem row_kept (h : Step p limit t action t') {key : String} {e : Row}
    (hget : t.get? key = some e) :
    ∃ e', t'.get? key = some e' ∧ e'.fields.receiptId = e.fields.receiptId ∧
      (e.status ≠ .rejected → SameEvent e e') := by
  have hsome : ∃ e', t'.get? key = some e' := by
    cases h with
    | @enter call faults _ _ =>
      rcases admitEvent_cases p call faults t with
        ⟨_, heq⟩ | ⟨_, -, -, heq⟩ | ⟨_, -, -, -, heq⟩ | ⟨-, -, heq⟩ <;> rw [heq]
      · exact ⟨e, hget⟩
      · exact ⟨e, hget⟩
      all_goals
        rw [Dict.get?_set]
        split
        · exact ⟨_, rfl⟩
        · exact ⟨e, hget⟩
    | flush => exact ⟨_, by rw [Dict.get?_mapItems, hget]; rfl⟩
    | @reject j reason =>
      rw [Dict.get?_modify]
      split
      · exact ⟨_, by rw [hget]; rfl⟩
      · exact ⟨e, hget⟩
  obtain ⟨e', hget'⟩ := hsome
  refine ⟨e', hget', ?_⟩
  rcases step_origin h hget' with
    hold | ⟨old, f, hold, heq⟩ | ⟨call, faults, old, -, rfl, hold, hstatus, rfl⟩ |
    ⟨call, faults, -, rfl, hnone, -, rfl⟩
  · rw [hget, Option.some.injEq] at hold
    subst hold
    exact ⟨rfl, fun _ => rfl⟩
  · rw [hget, Option.some.injEq] at hold
    subst hold
    constructor
    · rw [heq]
    · intro _
      rw [SameEvent, heq]
  · rw [hget, Option.some.injEq] at hold
    subst hold
    exact ⟨rfl, fun hne => absurd hstatus hne⟩
  · rw [hget] at hnone
    cases hnone

theorem receipt_kept (h : Run (Step p limit) t actions t') {key : String} {e : Row}
    (hget : t.get? key = some e) :
    ∃ e', t'.get? key = some e' ∧ e'.fields.receiptId = e.fields.receiptId := by
  refine Run.invariant (I := fun t' => ∃ e', t'.get? key = some e' ∧
    e'.fields.receiptId = e.fields.receiptId) ⟨e, hget, rfl⟩ ?_ h
  rintro t action u ⟨e₁, hget₁, hreceipt⟩ hs
  obtain ⟨e₂, hget₂, hsame, -⟩ := row_kept hs hget₁
  exact ⟨e₂, hget₂, hsame.trans hreceipt⟩

end Runs

/-! ## The promise -/

section Promise

variable {p : Platform} {limit : ℤ} {t : Table} {actions : List Action}

/-- What holds after a history of admissions under one limit, flushes and rejections. -/
structure Promise (p : Platform) (limit : ℤ) (actions : List Action) (t : Table) : Prop where
  /-- At most one row for each (miner, challenge). -/
  onePerPair : ∀ key key' e e', t.get? key = some e → t.get? key' = some e' →
    e.pair = e'.pair → key = key'
  /-- A row that is not rejected is not replaced. -/
  kept : ∀ action u, Step p limit t action u → ∀ key e, t.get? key = some e →
    e.status ≠ .rejected → ∃ e', u.get? key = some e' ∧ SameEvent e e'
  /-- A receipt id stays with its row. -/
  receipt : ∀ actions' u, Run (Step p limit) t actions' u → ∀ key e, t.get? key = some e →
    ∃ e', u.get? key = some e' ∧ e'.fields.receiptId = e.fields.receiptId
  hashed : ∀ key e, t.get? key = some e → e.eventSha256 = eventSha p e.eventJson
  fields : KeysCollisionFree p actions → ∀ key e, t.get? key = some e → e.FieldsMatch
  bounded : 0 < limit → (unflushed t : ℤ) ≤ limit
  /-- An answer is the row of the table. -/
  answered : ∀ call faults row inserted, (admitEvent p call faults t).1 = .ok (row, inserted) →
    (admitEvent p call faults t).2.get? (call.key p) = some row
  /-- A replay is answered at any limit. -/
  replay : ∀ call faults e, t.get? (call.key p) = some e → e.status ≠ .rejected →
    faults.opening = false → faults.lookup = false → faults.commit = false →
    admitEvent p call faults t = (.ok (e, false), t)
  unchanged : ∀ call faults err, (admitEvent p call faults t).1 = .error err →
    (admitEvent p call faults t).2 = t

theorem rowsInv_run (h : Run (Step p limit) Dict.empty actions t) : RowsInv p actions t := by
  refine Run.history (P := fun actions t => RowsInv p actions t) ?_ ?_ h
  · refine ⟨?_, ?_, ?_⟩
    · intro key e hget
      cases hget
    · intro key e hget
      cases hget
    · intro _ key e hget
      cases hget
  · intro actions t action u hinv hs
    exact rowsInv_step hs hinv

theorem bounded_run (h : Run (Step p limit) Dict.empty actions t) (hlimit : 0 < limit) :
    (unflushed t : ℤ) ≤ limit := by
  refine Run.invariant (I := fun t => (unflushed t : ℤ) ≤ limit) ?_ ?_ h
  · exact hlimit.le
  · intro t action u hinv hs
    exact bounded_step hs hlimit hinv

/-- The promise holds after every run from an empty table. -/
theorem ingress_promise (h : Run (Step p limit) Dict.empty actions t) :
    Promise p limit actions t := by
  have hrows := rowsInv_run h
  refine ⟨?_, ?_, fun _ _ hrun _ _ => receipt_kept hrun, fun key e hget => (hrows.rows key e hget).hashed,
    hrows.fields, bounded_run h, fun _ _ _ _ => admitEvent_answered,
    fun _ _ _ => admitEvent_replay, fun _ _ _ => admitEvent_unchanged⟩
  · intro key key' e e' hget hget' hpair
    obtain ⟨hminer, hchallenge⟩ := Prod.mk.inj hpair
    have hkey := (hrows.rows key e hget).key
    have hkey' := (hrows.rows key' e' hget').key
    rw [← hkey, ← hkey', hminer, hchallenge]
  · intro action u hs key e hget hstatus
    obtain ⟨e', hget', -, hsame⟩ := row_kept hs hget
    exact ⟨e', hget', hsame hstatus⟩

end Promise

/-! ## A rejected row -/

/-- A platform whose hash is the length of its input. -/
def lengthPlatform : Platform := ⟨fun bytes => toString bytes.length, id⟩

/-- A submission under a limit of one unflushed row. -/
def firstCall : Admission where
  submit := ⟨"miner", "pm-t2-e495232-s7", family, "2026-07-01T00:00:00.000Z", "token", "bitset/v1",
    "AAA="⟩
  token := ⟨495232, 2, 7, "ab"⟩
  signature := "sig"
  assignmentRaw := [0, 0]
  receivedAt := "2026-07-01T00:00:01.000Z"
  receiptId := "v2in_1"
  limits := ⟨1, 0, 0, 0⟩
  machine := ⟨0, none, fun _ => none⟩

def firstKey : String := firstCall.key lengthPlatform

def firstRow : Row := insertedRow lengthPlatform firstCall

/-- An admission and its rejection. -/
def rejectedHistory : List Action :=
  [.enter firstCall Faults.none, .reject firstKey "witness_check_failed"]

def rejectedTable : Table := Dict.empty.set firstKey (rejectedRow "witness_check_failed" firstRow)

theorem firstCall_admitted : (admitEvent lengthPlatform firstCall Faults.none Dict.empty).2 =
    Dict.empty.set firstKey firstRow := rfl

theorem rejected_run :
    Run (Step lengthPlatform 1) Dict.empty rejectedHistory rejectedTable := by
  have haccept : Step lengthPlatform 1 Dict.empty (.enter firstCall Faults.none)
      (Dict.empty.set firstKey firstRow) := firstCall_admitted ▸ Step.enter rfl rfl
  have hreject : Step lengthPlatform 1 (Dict.empty.set firstKey firstRow)
      (.reject firstKey "witness_check_failed") rejectedTable := by
    have h := @Step.reject lengthPlatform 1 (Dict.empty.set firstKey firstRow) firstKey
      "witness_check_failed"
    rwa [Dict.modify_singleton] at h
  exact (Run.nil.snoc haccept).snoc hreject

/-- The rejected row still counts as unflushed, and one row is the limit. -/
theorem firstCall_refused :
    (admitEvent lengthPlatform firstCall Faults.none rejectedTable).1 =
      .error (.pressure "ingress_backlog_full") := by
  have hget : rejectedTable.get? (firstCall.key lengthPlatform) =
      some (rejectedRow "witness_check_failed" firstRow) := Dict.get?_set_self _ _ _
  have hpressure : pressureReason firstCall.limits firstCall.machine rejectedTable =
      some "ingress_backlog_full" := if_pos ⟨by decide, le_rfl⟩
  have hcheck : checkPressure firstCall Faults.none rejectedTable =
      .error (.pressure "ingress_backlog_full") := by
    rw [checkPressure, hpressure]
    rfl
  have htx : transaction lengthPlatform firstCall Faults.none rejectedTable =
      .error (.pressure "ingress_backlog_full") := by
    rw [transaction, hget]
    dsimp only
    rw [hcheck]
    rfl
  rw [admitEvent, htx]

theorem rejected_promise : Promise lengthPlatform 1 rejectedHistory rejectedTable :=
  ingress_promise rejected_run

/-- After a rejection the status column is no longer that of the event, and the
event's replay is refused at the limit. -/
theorem rejected_row_refused :
    (¬ ∀ actions t, Run (Step lengthPlatform 1) Dict.empty actions t → ∀ key e,
      t.get? key = some e → ∃ replacesRejected,
        e.eventJson = jsonDumps (eventWith e.status e.fields replacesRejected)) ∧
    ¬ ∀ actions t call, Run (Step lengthPlatform 1) Dict.empty actions t →
      .enter call Faults.none ∈ actions → ∃ row,
        (admitEvent lengthPlatform call Faults.none t).1 = .ok (row, false) := by
  constructor
  · intro h
    obtain ⟨replaces, heq⟩ := h rejectedHistory rejectedTable rejected_run firstKey
      (rejectedRow "witness_check_failed" firstRow) (Dict.get?_set_self _ _ _)
    revert heq
    cases replaces <;> decide +kernel
  · intro h
    obtain ⟨row, heq⟩ := h rejectedHistory rejectedTable firstCall rejected_run
      List.mem_cons_self
    rw [firstCall_refused] at heq
    cases heq

end Cathedral.Publisher.LeanIngress
