import Cathedral.Lib.Machine
import Cathedral.Lib.Table
import Cathedral.Publisher.TeeGpu

/-!
# Cathedral.Publisher.TeeGpuCalls — calls over the capacity tables

The operations of `scaffold/publisher/tee_gpu.py` as calls that run side by side. A call reads a
row when it begins, and each of its further steps is one query, one transaction, or one run of
the evidence verifier or of the Chutes command; other calls may take any number of steps in
between. What the verifier and the command answer is given with the step.

`step_cases` says once what an action may do, `start_cases` how a call begins and
`continues_cases` how it goes on. Every write is one of the five of `Call.writes`, on the row
that its transaction finds.
-/

namespace Cathedral.Publisher.TeeGpu

open Arena (Members get record text)
open PyJson (Value)

/-! ## Calls -/

/-- What is called: `create_capacity`, `update_capacity_admin`, `verify_capacity_evidence`,
`record_provider_status`, `record_health_receipt`, `record_usage_receipt`,
`list_capacity_on_chutes` with `execute`, and `capacity_launch_evidence`. -/
inductive Request where
  | create (offer : Offer)
  | update (id : PyStr) (body : Members)
  | verify (id : PyStr)
  | provider (id : PyStr) (body : Members)
  | health (id : PyStr) (body : Members)
  | usage (id : PyStr) (body : Members)
  | list (id : PyStr) (timeoutSecs : Option ℤ)
  | launch (id : PyStr)

/-- `review_capacity_evidence`. -/
def Request.review (id : PyStr) (body : Members) : Request :=
  .update id (record [("attestation_review", .obj body)])

/-- Where a call on a capacity is. -/
inductive Call where
  /-- The row of an offer, before its transaction. -/
  | creating (byAdmin : Bool) (row : Row)
  /-- `update_capacity_admin` has read a row; an event may follow its write. -/
  | planning (row : Row) (body : Members) (keepReview : Bool) (after : Option Payload)
  /-- It has planned the updates, and writes them next. -/
  | updating (row : Row) (u : Updates) (after : Option Payload)
  /-- A verification has read a row. -/
  | verifying (row : Row) (attestation : Members) (requestId : PyStr)
  /-- It has found the request, and the verifier runs. -/
  | requested (row : Row) (attestation : Members) (request : EvidenceRequest)
  /-- The verifier has accepted. -/
  | verified (row : Row) (blob : PyStr)
  | providing (receipt : ProviderReceipt) (serverName updatedAtIso : PyStr)
  | probing
  | probed
  | metering (receipt : UsageReceipt)
  /-- An event is inserted next. -/
  | recording (payload : Payload)
  /-- A listing has read a row, and claims it next. -/
  | listing (row : Row) (timeoutSecs : ℤ)
  | claimed (row : Row) (timeoutSecs : ℤ)
  /-- The `add-node` command runs. -/
  | running (row : Row) (timeoutSecs : ℤ) (since : UtcTime)
  | ended (row : Row) (succeeded : Bool)
  /-- `capacity_launch_evidence` has read a row. -/
  | reporting (row : Row)

structure State where
  rows : Dict PyStr Row
  /-- `tee_gpu_capacity_events`, in the order of insertion. -/
  events : List (PyStr × Event)
  calls : Dict ℕ (PyStr × Call)

def State.eventsOf (s : State) (id : PyStr) : List Event :=
  (s.events.filter fun e => e.1 = id).map Prod.snd

/-- What the verifier or the command answers. -/
inductive Oracle where
  | none
  | verifier (result : Members) (returncode : ℤ)
  /-- The command has been started, or not; it has returned zero, or not. -/
  | command (ok : Bool)

/-- The row of a capacity, `capacity_not_found` where there is none. -/
def State.read (s : State) (id : PyStr) : Except Stop Row :=
  match s.rows.get? id with
  | some row => .ok row
  | none => .error (.http 404 "capacity_not_found")

/-- The first reads of a call. -/
def Request.start (H : Host) (E : Settings) (s : State) (now : UtcTime) :
    Request → Except Stop (PyStr × Call)
  | .create offer => do
    let requestExists (id requestId : PyStr) := evidenceRequestExists (s.eventsOf id) requestId
    let (id, row) ← offeredRow H E offer requestExists now
    .ok (id, .creating offer.byAdmin row)
  | .update id body => do
    let row ← s.read id
    .ok (id, .planning row body false none)
  | .verify id => do
    let row ← s.read id
    let (attestation, requestId) ← submittedAttestation H row
    .ok (id, .verifying row attestation requestId)
  | .provider id body => do
    let row ← s.read id
    let (receipt, serverName) ← planProviderStatus H row body
    .ok (id, .providing receipt serverName (H.iso now))
  | .health id body => do
    let row ← s.read id
    requireLaunchReadyBase H row
    require ((get body "ok").any H.boolish) 400 "health_receipt_not_ok"
    .ok (id, .probing)
  | .usage id body => do
    let row ← s.read id
    requireLaunchReadyBase H row
    let receipt ← usageReceipt H body
    .ok (id, .metering receipt)
  | .list id timeoutSecs => do
    let row ← s.read id
    let claims ← startListing H E row
    if claims then .ok (id, .listing row (boundedTimeout E timeoutSecs))
    else .error (.http 200 "already_listed")
  | .launch id => do
    let row ← s.read id
    .ok (id, .reporting row)

/-- The row that a step of a call writes over the current one. -/
def Call.writes (H : Host) (E : Settings) (now : UtcTime) (current : Option Row) :
    Call → Option Row
  | .creating byAdmin row => some (createdRow byAdmin row current)
  | .updating _ u _ => current.map (u.apply H)
  | .providing receipt serverName updatedAtIso =>
    current.map fun row => row.listedAs receipt.serverId serverName updatedAtIso
  | .listing _ _ =>
    current.bind fun row =>
      if claimChutesListing H E row now = .claimed then some (row.claimedAt (H.iso now)) else none
  | .ended row succeeded =>
    current.map fun found => found.afterCommand row succeeded (H.iso now)
  | _ => none

/-- The event that a step of a call inserts. -/
def Call.records : Call → Option Payload
  | .providing receipt _ _ => some (.provider receipt)
  | .recording payload => some payload
  | _ => none

/-- The launch evidence that a call asks for. -/
def Call.reports (H : Host) (events : List Event) : Call → Option LaunchEvidence
  | .reporting row => capacityLaunchEvidence H row events
  | _ => none

def found (current : Option Row) : Except Stop Row :=
  match current with
  | some row => .ok row
  | none => .error (.http 404 "capacity_not_found")

/-- `capacity_launch_evidence` inside another call. -/
def launchNow (H : Host) (current : Option Row) (events : List Event) :
    Except Stop LaunchEvidence := do
  let row ← found current
  match capacityLaunchEvidence H row events with
  | some launch => .ok launch
  | none => .error .raised

/-- How a call goes on after a step; an error where it raises. -/
def Call.continues (H : Host) (E : Settings) (now : UtcTime) (current : Option Row)
    (events : List Event) (oracle : Oracle) : Call → Except Stop (Option Call)
  | .creating _ _ | .providing _ _ _ | .recording _ | .ended _ _ | .reporting _ => .ok none
  | .planning row body keepReview after => do
    let u ← planUpdate H E row body keepReview (evidenceRequestExists events) now
    .ok (some (.updating row u after))
  | .updating _ _ after => .ok (after.map .recording)
  | .verifying row attestation requestId =>
    match evidenceRequestPayload events requestId with
    | none => .error (.http 400 "evidence_request_not_found")
    | some request => do
      requireFresh H request now
      .ok (some (.requested row attestation request))
  | .requested row attestation request =>
    match oracle with
    | .verifier result returncode => do
      require (verifierAccepts H result returncode) 400 "tee_gpu_evidence_not_verified"
      .ok (some (.verified row (attestationVerifiedJson H E attestation result request now)))
    | _ => .error .raised
  | .verified _ blob => do
    let row ← found current
    .ok (some (.planning row (record [("attestation_json", .str blob)]) true none))
  | .probing => do
    let launch ← launchNow H current events
    require launch.providerListingVerified 400 "provider_listing_required"
    .ok (some .probed)
  | .probed => do
    let row ← found current
    -- of the fields that it sets, `health_json` and `last_heartbeat_iso`, none is modelled
    .ok (some (.planning row [] false (some .health)))
  | .metering receipt => do
    let launch ← launchNow H current events
    require launch.providerListingVerified 400 "provider_listing_required"
    require launch.healthVerified 400 "health_receipt_required"
    .ok (some (.recording (.usage receipt)))
  | .listing row timeoutSecs => do
    let current ← found current
    match claimChutesListing H E current now with
    | .claimed => .ok (some (.claimed row timeoutSecs))
    | .alreadyListed => .ok none
    | .inProgress => .error (.http 409 "chutes_listing_in_progress")
  | .claimed row timeoutSecs =>
    match oracle with
    | .command true => .ok (some (.running row timeoutSecs now))
    | .command false => .ok (some (.ended row false))
    | _ => .error .raised
  | .running row _ _ =>
    match oracle with
    | .command succeeded => .ok (some (.ended row succeeded))
    | _ => .error .raised

/-! ## Steps -/

inductive Action where
  | requestEvidence (ownerHotkey nodeId requestId : PyStr) (ttlSecs : Option ℤ) (now : UtcTime)
  | begin (c : ℕ) (request : Request) (now : UtcTime)
  | next (c : ℕ) (oracle : Oracle) (now : UtcTime)
  /-- A call raises, or its process dies. -/
  | stop (c : ℕ)

/-- What a step of a call has done. -/
structure Effect where
  id : PyStr
  /-- Where the call was. -/
  call : Call
  /-- The row that the step has found. -/
  before : Option Row
  written : Option Row
  recorded : Option Payload
  report : Option LaunchEvidence

/-- The calls with one that goes on, or ends. -/
def settle (calls : Dict ℕ (PyStr × Call)) (c : ℕ) (after : Option (PyStr × Call)) :
    Dict ℕ (PyStr × Call) :=
  match after with
  | some call => calls.set c call
  | none => calls.filterItems fun k _ => k ≠ c

def store (rows : Dict PyStr Row) (id : PyStr) : Option Row → Dict PyStr Row
  | some row => rows.set id row
  | none => rows

/-- The state after a step of a call, and what the step has done. -/
def State.step (H : Host) (E : Settings) (s : State) (c : ℕ) (id : PyStr) (call : Call)
    (oracle : Oracle) (now : UtcTime) : State × Effect :=
  let current := s.rows.get? id
  let written := call.writes H E now current
  ({ rows := store s.rows id written
     events := s.events ++ (call.records.map fun payload => (id, ⟨payload, H.iso now⟩)).toList
     calls := settle s.calls c
      (((call.continues H E now current (s.eventsOf id) oracle).toOption.join).map
        fun call => (id, call)) },
    ⟨id, call, current, written, call.records, call.reports H (s.eventsOf id)⟩)

/-- One action: the state after it, and what a step of a call has done. -/
def act (H : Host) (E : Settings) (s : State) : Action → Option (State × Option Effect)
  | .requestEvidence ownerHotkey nodeId requestId ttlSecs now =>
    (createEvidenceRequest H E ownerHotkey nodeId requestId ttlSecs now).map fun r =>
      ({ s with events := s.events ++ [(r.1, ⟨.evidenceRequest r.2, H.iso now⟩)] }, none)
  | .begin c request now =>
    if s.calls.contains c then none
    else
      match request.start H E s now with
      | .ok call => some ({ s with calls := s.calls.set c call }, none)
      | .error _ => none
  | .next c oracle now =>
    (s.calls.get? c).map fun call =>
      let r := s.step H E c call.1 call.2 oracle now
      (r.1, some r.2)
  | .stop c => some ({ s with calls := settle s.calls c none }, none)

def initial : State := ⟨Dict.empty, [], Dict.empty⟩

abbrev Label : Type := Action × Option Effect

def step (H : Host) (E : Settings) : State → Label → State → Prop := Acts (act H E)

section Steps

variable {H : Host} {E : Settings} {s t : State} {ls : List Label}

theorem get?_settle (calls : Dict ℕ (PyStr × Call)) (c k : ℕ) (after : Option (PyStr × Call)) :
    (settle calls c after).get? k = if k = c then after else calls.get? k := by
  cases after with
  | some call =>
    rw [settle, Dict.get?_set]
    by_cases hk : k = c
    · rw [if_pos hk, if_pos hk.symm]
    · rw [if_neg hk, if_neg (Ne.symm hk)]
  | none =>
    rw [settle, Dict.get?_filterItems]
    by_cases hk : k = c
    · cases calls.get? k <;> simp [hk]
    · cases calls.get? k <;> simp [hk]

theorem get?_store (rows : Dict PyStr Row) (id k : PyStr) (written : Option Row) :
    (store rows id written).get? k =
      if k = id then written.or (rows.get? id) else rows.get? k := by
  cases written with
  | some row =>
    rw [store, Dict.get?_set]
    by_cases hk : k = id
    · rw [if_pos hk, if_pos hk.symm, Option.some_or]
    · rw [if_neg hk, if_neg (Ne.symm hk)]
  | none =>
    rw [store, Option.none_or]
    split
    · next hk => rw [hk]
    · rfl

/-- What an action may do. -/
inductive Step (H : Host) (E : Settings) (s : State) : Label → State → Prop where
  | requested {ownerHotkey nodeId requestId ttlSecs now id request}
      (h : createEvidenceRequest H E ownerHotkey nodeId requestId ttlSecs now =
        some (id, request)) :
      Step H E s (.requestEvidence ownerHotkey nodeId requestId ttlSecs now, none)
        { s with events := s.events ++ [(id, ⟨.evidenceRequest request, H.iso now⟩)] }
  | began {c request now id call} (hfree : s.calls.get? c = none)
      (h : request.start H E s now = .ok (id, call)) :
      Step H E s (.begin c request now, none) { s with calls := s.calls.set c (id, call) }
  | went {c oracle now id call} (h : s.calls.get? c = some (id, call)) :
      Step H E s (.next c oracle now, some (s.step H E c id call oracle now).2)
        (s.step H E c id call oracle now).1
  | stopped {c} : Step H E s (.stop c, none) { s with calls := settle s.calls c none }

theorem step_cases {l : Label} (h : step H E s l t) : Step H E s l t := by
  obtain ⟨action, effect⟩ := l
  cases action with
  | requestEvidence ownerHotkey nodeId requestId ttlSecs now =>
    obtain ⟨⟨id, request⟩, hcreate, heq⟩ := Option.map_eq_some_iff.mp h
    cases heq
    exact .requested hcreate
  | begin c request now =>
    have hact : (if s.calls.contains c then none else _) = some (t, effect) := h
    split_ifs at hact with hfree
    split at hact
    · next call hstart =>
        cases hact
        exact .began (by simpa [Dict.contains] using hfree) hstart
    · cases hact
  | next c oracle now =>
    obtain ⟨⟨id, call⟩, hcall, heq⟩ := Option.map_eq_some_iff.mp h
    cases heq
    exact .went hcall
  | stop c =>
    cases h
    exact .stopped

/-! ## How calls begin and go on -/

/-- The calls that a request begins, with what they have read. -/
inductive Starts (H : Host) (E : Settings) (s : State) (now : UtcTime) :
    Request → PyStr → Call → Prop where
  | create {offer id row}
      (h : offeredRow H E offer (fun id requestId =>
        evidenceRequestExists (s.eventsOf id) requestId) now = .ok (id, row)) :
      Starts H E s now (.create offer) id (.creating offer.byAdmin row)
  | update {id body row} (hrow : s.rows.get? id = some row) :
      Starts H E s now (.update id body) id (.planning row body false none)
  | verify {id row attestation requestId} (hrow : s.rows.get? id = some row)
      (h : submittedAttestation H row = .ok (attestation, requestId)) :
      Starts H E s now (.verify id) id (.verifying row attestation requestId)
  | provider {id body row receipt serverName} (hrow : s.rows.get? id = some row)
      (h : planProviderStatus H row body = .ok (receipt, serverName)) :
      Starts H E s now (.provider id body) id (.providing receipt serverName (H.iso now))
  | health {id body row} (hrow : s.rows.get? id = some row)
      (h : requireLaunchReadyBase H row = .ok ()) : Starts H E s now (.health id body) id .probing
  | usage {id body row receipt} (hrow : s.rows.get? id = some row)
      (h : requireLaunchReadyBase H row = .ok ()) (hreceipt : usageReceipt H body = .ok receipt) :
      Starts H E s now (.usage id body) id (.metering receipt)
  | list {id timeoutSecs row} (hrow : s.rows.get? id = some row)
      (hlistable : row.listable H E = true) :
      Starts H E s now (.list id timeoutSecs) id (.listing row (boundedTimeout E timeoutSecs))
  | launch {id row} (hrow : s.rows.get? id = some row) :
      Starts H E s now (.launch id) id (.reporting row)

theorem read_eq_ok {id : PyStr} {row : Row} (h : s.read id = .ok row) :
    s.rows.get? id = some row := by
  unfold State.read at h
  split at h
  · next hget =>
      cases h
      exact hget
  · cases h

theorem start_cases {request : Request} {now : UtcTime} {id : PyStr} {call : Call}
    (h : request.start H E s now = .ok (id, call)) : Starts H E s now request id call := by
  cases request with
  | create offer =>
    obtain ⟨⟨id', row⟩, hrow, h⟩ := bind_eq_ok.mp h
    cases h
    exact .create hrow
  | update id body =>
    obtain ⟨row, hrow, h⟩ := bind_eq_ok.mp h
    cases h
    exact .update (read_eq_ok hrow)
  | verify id =>
    obtain ⟨row, hrow, h⟩ := bind_eq_ok.mp h
    obtain ⟨⟨attestation, requestId⟩, hsubmitted, h⟩ := bind_eq_ok.mp h
    cases h
    exact .verify (read_eq_ok hrow) hsubmitted
  | provider id body =>
    obtain ⟨row, hrow, h⟩ := bind_eq_ok.mp h
    obtain ⟨⟨receipt, serverName⟩, hplan, h⟩ := bind_eq_ok.mp h
    cases h
    exact .provider (read_eq_ok hrow) hplan
  | health id body =>
    obtain ⟨row, hrow, h⟩ := bind_eq_ok.mp h
    obtain ⟨_, hbase, h⟩ := bind_eq_ok.mp h
    obtain ⟨_, -, h⟩ := bind_eq_ok.mp h
    cases h
    exact .health (read_eq_ok hrow) hbase
  | usage id body =>
    obtain ⟨row, hrow, h⟩ := bind_eq_ok.mp h
    obtain ⟨_, hbase, h⟩ := bind_eq_ok.mp h
    obtain ⟨receipt, hreceipt, h⟩ := bind_eq_ok.mp h
    cases h
    exact .usage (read_eq_ok hrow) hbase hreceipt
  | list id timeoutSecs =>
    obtain ⟨row, hrow, h⟩ := bind_eq_ok.mp h
    obtain ⟨claims, hstart, h⟩ := bind_eq_ok.mp h
    obtain ⟨_, hlistable, -⟩ := bind_eq_ok.mp hstart
    split at h
    · cases h
      exact .list (read_eq_ok hrow) (require_eq_ok.mp hlistable)
    · cases h
  | launch id =>
    obtain ⟨row, hrow, h⟩ := bind_eq_ok.mp h
    cases h
    exact .launch (read_eq_ok hrow)

/-- Where a call goes on to, and what it has found there. -/
inductive Follows (H : Host) (E : Settings) (now : UtcTime) (current : Option Row)
    (events : List Event) (oracle : Oracle) : Call → Call → Prop where
  | plan {row body keepReview after u}
      (h : planUpdate H E row body keepReview (evidenceRequestExists events) now = .ok u) :
      Follows H E now current events oracle (.planning row body keepReview after)
        (.updating row u after)
  | record {row u payload} :
      Follows H E now current events oracle (.updating row u (some payload)) (.recording payload)
  | find {row attestation requestId request}
      (h : evidenceRequestPayload events requestId = some request) :
      Follows H E now current events oracle (.verifying row attestation requestId)
        (.requested row attestation request)
  | accept {row attestation request result returncode}
      (horacle : oracle = .verifier result returncode)
      (h : verifierAccepts H result returncode = true) :
      Follows H E now current events oracle (.requested row attestation request)
        (.verified row (attestationVerifiedJson H E attestation result request now))
  | reread {row blob found} (h : current = some found) :
      Follows H E now current events oracle (.verified row blob)
        (.planning found (record [("attestation_json", .str blob)]) true none)
  | probe : Follows H E now current events oracle .probing .probed
  | heal {found} (h : current = some found) :
      Follows H E now current events oracle .probed (.planning found [] false (some .health))
  | meter {receipt} :
      Follows H E now current events oracle (.metering receipt) (.recording (.usage receipt))
  | claim {row timeoutSecs found} (hfound : current = some found)
      (h : claimChutesListing H E found now = .claimed) :
      Follows H E now current events oracle (.listing row timeoutSecs) (.claimed row timeoutSecs)
  | run {row timeoutSecs} (horacle : oracle = .command true) :
      Follows H E now current events oracle (.claimed row timeoutSecs)
        (.running row timeoutSecs now)
  | miss {row timeoutSecs} (horacle : oracle = .command false) :
      Follows H E now current events oracle (.claimed row timeoutSecs) (.ended row false)
  | finish {row timeoutSecs since succeeded} (horacle : oracle = .command succeeded) :
      Follows H E now current events oracle (.running row timeoutSecs since)
        (.ended row succeeded)

theorem found_eq_ok {current : Option Row} {row : Row} (h : found current = .ok row) :
    current = some row := by
  unfold found at h
  split at h
  · cases h
    rfl
  · cases h

theorem continues_cases {call after : Call} {now : UtcTime} {current : Option Row}
    {events : List Event} {oracle : Oracle}
    (h : call.continues H E now current events oracle = .ok (some after)) :
    Follows H E now current events oracle call after := by
  cases call with
  | creating byAdmin row => cases h
  | providing receipt serverName at' => cases h
  | recording payload => cases h
  | ended row succeeded => cases h
  | reporting row => cases h
  | planning row body keepReview payload =>
    obtain ⟨u, hplan, h⟩ := bind_eq_ok.mp h
    cases h
    exact .plan hplan
  | updating row u payload =>
    cases payload with
    | none => cases h
    | some payload =>
      cases h
      exact .record
  | verifying row attestation requestId =>
    rw [Call.continues] at h
    split at h
    · cases h
    · next request hrequest =>
        obtain ⟨_, -, h⟩ := bind_eq_ok.mp h
        cases h
        exact .find hrequest
  | requested row attestation request =>
    cases oracle with
    | verifier result returncode =>
      obtain ⟨_, haccepts, h⟩ := bind_eq_ok.mp h
      cases h
      exact .accept rfl (require_eq_ok.mp haccepts)
    | none => cases h
    | command ok => cases h
  | verified row blob =>
    obtain ⟨row', hfound, h⟩ := bind_eq_ok.mp h
    cases h
    exact .reread (found_eq_ok hfound)
  | probing =>
    obtain ⟨launch, -, h⟩ := bind_eq_ok.mp h
    obtain ⟨_, -, h⟩ := bind_eq_ok.mp h
    cases h
    exact .probe
  | probed =>
    obtain ⟨row, hfound, h⟩ := bind_eq_ok.mp h
    cases h
    exact .heal (found_eq_ok hfound)
  | metering receipt =>
    obtain ⟨launch, -, h⟩ := bind_eq_ok.mp h
    obtain ⟨_, -, h⟩ := bind_eq_ok.mp h
    obtain ⟨_, -, h⟩ := bind_eq_ok.mp h
    cases h
    exact .meter
  | listing row timeoutSecs =>
    obtain ⟨row', hfound, h⟩ := bind_eq_ok.mp h
    split at h
    · next hclaim =>
        cases h
        exact .claim (found_eq_ok hfound) hclaim
    · cases h
    · cases h
  | claimed row timeoutSecs =>
    cases oracle with
    | command ok =>
      cases ok with
      | true =>
        cases h
        exact .run rfl
      | false =>
        cases h
        exact .miss rfl
    | none => cases h
    | verifier result returncode => cases h
  | running row timeoutSecs since =>
    cases oracle with
    | command succeeded =>
      cases h
      exact .finish rfl
    | none => cases h
    | verifier result returncode => cases h

/-- The calls after a step of one. -/
theorem get?_calls_step {c k : ℕ} {id id' : PyStr} {call after : Call} {oracle : Oracle}
    {now : UtcTime} (h : (s.step H E c id call oracle now).1.calls.get? k = some (id', after)) :
    (k = c ∧ id' = id ∧
        Follows H E now (s.rows.get? id) (s.eventsOf id) oracle call after) ∨
      (k ≠ c ∧ s.calls.get? k = some (id', after)) := by
  have hget : (settle s.calls c (((call.continues H E now (s.rows.get? id) (s.eventsOf id)
    oracle).toOption.join).map fun call => (id, call))).get? k = some (id', after) := h
  rw [get?_settle] at hget
  split at hget
  · next hk =>
      obtain ⟨after', hafter, heq⟩ := Option.map_eq_some_iff.mp hget
      cases heq
      have hcontinues := toOption_eq_some.mp (Option.join_eq_some_iff.mp hafter)
      exact .inl ⟨hk, rfl, continues_cases hcontinues⟩
  · next hk => exact .inr ⟨hk, hget⟩

theorem get?_rows_step_eq (s : State) (c : ℕ) (id id' : PyStr) (call : Call) (oracle : Oracle)
    (now : UtcTime) : (s.step H E c id call oracle now).1.rows.get? id' =
      if id' = id then (call.writes H E now (s.rows.get? id)).or (s.rows.get? id)
      else s.rows.get? id' :=
  get?_store s.rows id id' _

/-- The rows after a step of a call. -/
theorem get?_rows_step {c : ℕ} {id id' : PyStr} {call : Call} {oracle : Oracle} {now : UtcTime}
    {row : Row} (h : (s.step H E c id call oracle now).1.rows.get? id' = some row) :
    (id' = id ∧ call.writes H E now (s.rows.get? id) = some row) ∨
      (s.rows.get? id' = some row ∧
        (id' = id → call.writes H E now (s.rows.get? id) = none)) := by
  rw [get?_rows_step_eq] at h
  split at h
  · next hid =>
      rcases Option.or_eq_some_iff.mp h with hwrite | ⟨hnone, hold⟩
      · exact .inl ⟨hid, hwrite⟩
      · exact .inr ⟨hid ▸ hold, fun _ => hnone⟩
  · next hid => exact .inr ⟨h, fun heq => absurd heq hid⟩

end Steps

/-! ## A publisher to try calls on -/

section Sample

/-- A digest of 32 bytes as it is written. -/
def hexDigest (n : ℕ) : PyStr :=
  let digits := Nat.toDigits 16 n
  PyRepr.ascii (List.replicate (64 - digits.length) '0' ++ digits)

/-- The digests of the texts that are hashed below, by their lengths. -/
def sampleSha256 (content : Bytes) : PyStr :=
  hexDigest
    (if content.length = 13 then
      0xb3a166557fc6e96ca697d94d8be319a4afebf18daa02ede862871f519b1fbb27
    else if content.length = 16 then
      0xe74226d783a3e0d4b747ce9762b05be9891a9fc2685921386e277a2a86f10c29
    else if content.length = 37 then
      0xd93995dc0853125e76cbbe0a0f5a0e5a0d34698fcd1e8d4cbed588d6c9753643
    else if content.length = 171 then
      0x2c9d2a37abb802b04b1f5bd31db495f1f0e7281de41940982148c5d9c588cc01
    else 0x0d3af91b3eaaad02f3b21ec8e23e1add0f7522a5966475df6a46d0a4642c5eb1)

def sampleHost : Host where
  numbers := PyStr.exactNumbers
  depth := 8
  loadsLone _ := none
  lowerAbove t := t
  printable _ := true
  floatRepr _ := "0.0".toList
  floatRepr_numeral _ := ⟨by decide, forall_mem_of_all (by decide)⟩
  sqliteReal _ := "0.0".toList
  sqliteReal_numeral _ := ⟨by decide, forall_mem_of_all (by decide)⟩
  sha256Hex := sampleSha256
  padsYear := true

def sampleSettings : Settings where
  requireCryptoEvidence := false
  requireEvidence := false
  chutesExecuteEnabled := true
  hasHotkeyPath := true
  chutesTimeoutSecs := 120
  listingStaleSecs := 900
  evidenceRequestTtlSecs := 600
  verifierCommandDigest :=
    hexDigest 0x6ee2ceab568ce61f030f141e9afdaee565ccd9121bdc01e5d9a91c2f310440ae

/-- The signed offer of a miner that passes the preflight. -/
def sampleOffer : Offer where
  byAdmin := false
  ownerHotkey := PyStr.ofString "5Miner"
  body := record
    [("node_id", text "node-1"), ("gpu_short_ref", text "h200"), ("gpu_count", Arena.integer 8),
      ("agent_api", text "http://10.0.0.1:32000"), ("tdx_claimed", .bool true),
      ("gpu_cc_claimed", .bool true), ("operator_use_authorized", .bool true),
      ("attestation", .obj (record [("nonce", text "r1"), ("quote_b64", text "cXVvdGU=")]))]

/-- Its `capacity_id`. -/
def sampleId : PyStr := capacityId sampleHost (PyStr.ofString "5Miner") (PyStr.ofString "node-1")

def sampleNow : UtcTime := ⟨2026, 7, 26, 12, 0, 0, 0, by decide⟩

/-- The steps of call `c`, one after the other, without an answer from outside. -/
def callSteps (c : ℕ) (request : Request) (n : ℕ) : List Action :=
  .begin c request sampleNow :: List.replicate n (.next c .none sampleNow)

/-- An update by an admin, as call `c`. -/
def updateSteps (c : ℕ) (body : List (String × Value)) : List Action :=
  callSteps c (.update sampleId (record body)) 2

end Sample

end Cathedral.Publisher.TeeGpu
