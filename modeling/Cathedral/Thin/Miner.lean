import Mathlib.Algebra.Order.Ring.Rat
import Cathedral.Lib.Machine
import Cathedral.Lib.OrderedDict
import Cathedral.Lib.PyStr

/-!
# Cathedral.Thin.Miner — one answer for each validator's round

`MinerService.solve` of `cathedral_thin/miner.py`. A call is checked, reserves its round in a
bounded cache, waits for a slot, runs the external solver and completes the round in the cache;
other calls run wherever it waits. An entry without a response is a reservation.

`served_once` says what every call is promised as long as none comes for a round whose entry
was evicted, or whose reservation was left behind by a call that was cancelled. What is
evicted, and what a cancelled call leaves behind, breaks the promise (`lost_round_breaks`).

The decoding of a formula, the encoding of an assignment and the commitment of a challenge are
parameters, and so is what the external solver comes to. The measured times of the replies are
left out.
-/

namespace Cathedral.Thin.Miner

/-! ## Challenges -/

/-- The fields of a `SatChallenge` that a miner reads. -/
structure SatChallenge where
  protocolVersion : ℤ
  challengeId : PyStr
  validatorHotkey : PyStr
  minerHotkey : PyStr
  netuid : ℤ
  roundId : ℤ
  issuedAtMs : ℤ
  expiresAtMs : ℤ
  nVars : ℤ
  nClauses : ℤ
  cnfB64 : PyStr
  cnfSha256 : PyStr
deriving DecidableEq

/-- What a call sets in its synapse. -/
structure Reply where
  assignmentB64 : String
  solverName : String
  error : String
deriving DecidableEq

/-- The text of an exception that has one. -/
abbrev Message : Type := { text : String // text ≠ "" }

/-- An exception: one of `ThinSubnetError`, `OSError` and `ValueError`, or one that `solve` does
not handle. -/
inductive Fault where
  | handled (message : Message)
  | escapes

/-- `raise ThinSubnetError(message)`. -/
def fail {α : Type} (message : Message) : Except Fault α := .error (.handled message)

/-- `if condition: raise ThinSubnetError(message)`. -/
def refuse (condition : Bool) (message : Message) : Except Fault Unit :=
  if condition then fail message else .ok ()

structure Cnf where
  nVars : ℤ
  clauses : List (ℤ × ℤ × ℤ)

structure MinerConfig where
  hotkey : PyStr
  solverTimeoutSecs : ℚ
  maxVars : ℤ
  maxClauses : ℤ

structure Host where
  config : MinerConfig
  maxConcurrency : ℕ
  responseCacheSize : ℕ
  /-- `_challenge_commitment` of the public fields. -/
  challengeCommitment : SatChallenge → PyStr
  /-- `decode_cnf` on a payload, a digest and the two counts. -/
  decodeCnf : PyStr → PyStr → ℤ → ℤ → Except Fault Cnf
  encodeAssignment : List ℤ → ℤ → Except Fault String

def protocolVersion : ℤ := 1

/-- A digit of `digest.lower()`. -/
def isHexDigit (p : CodePoint) : Bool :=
  p ∈ PyStr.ofString "0123456789abcdefABCDEF"

/-- A code point that `hmac.compare_digest` takes in a string. -/
def isAscii (p : CodePoint) : Bool := p.val < 128

/-- `validate_challenge_envelope` with both expected hotkeys. -/
def validateChallengeEnvelope (H : Host) (c : SatChallenge) (nowMs : ℤ)
    (expectedMiner expectedValidator : PyStr) : Except Fault Unit := do
  refuse (c.protocolVersion ≠ protocolVersion) ⟨"unsupported protocol version", by decide⟩
  refuse (c.validatorHotkey = [] || c.minerHotkey = []) ⟨"missing challenge identity", by decide⟩
  refuse (c.minerHotkey ≠ expectedMiner) ⟨"challenge targets another miner", by decide⟩
  refuse (c.validatorHotkey ≠ expectedValidator) ⟨"challenge claims another validator", by decide⟩
  refuse (c.expiresAtMs ≤ c.issuedAtMs) ⟨"invalid challenge expiry", by decide⟩
  refuse (c.expiresAtMs < nowMs) ⟨"challenge expired", by decide⟩
  refuse (nowMs + 30000 < c.issuedAtMs) ⟨"challenge issue time is in the future", by decide⟩
  refuse (!(3 ≤ c.nVars && c.nVars ≤ 100000))
    ⟨"challenge variable count outside safe bounds", by decide⟩
  refuse (!(1 ≤ c.nClauses && c.nClauses ≤ 1000000))
    ⟨"challenge clause count outside safe bounds", by decide⟩
  refuse (c.cnfSha256.length ≠ 64 || c.cnfSha256.any fun p => !isHexDigit p)
    ⟨"invalid CNF digest", by decide⟩
  -- `compare_digest` raises a `TypeError` on other texts
  if c.challengeId.all isAscii then pure () else .error .escapes
  refuse (c.challengeId ≠ H.challengeCommitment c) ⟨"challenge commitment mismatch", by decide⟩

/-- The checks of `solve` on two readings of the clock; what is left until the expiry. -/
def admitCall (H : Host) (c : SatChallenge) (caller : PyStr) (checkedMs admittedMs : ℤ) :
    Except Fault ℚ := do
  validateChallengeEnvelope H c checkedMs H.config.hotkey caller
  refuse (H.config.maxVars < c.nVars || H.config.maxClauses < c.nClauses)
    ⟨"challenge exceeds configured miner bounds", by decide⟩
  let remaining : ℚ := (c.expiresAtMs - admittedMs) / 1000
  refuse (remaining ≤ 0) ⟨"challenge expired", by decide⟩
  pure remaining

/-! ## The cache -/

structure CachedResponse where
  challengeId : PyStr
  cnfSha256 : PyStr
  reply : Reply

/-- The caller and the round. -/
abbrev Key : Type := PyStr × ℤ

abbrev RoundCache : Type := Dict Key (Option CachedResponse)

/-- What `_reserve_round` comes to. -/
inductive Reservation where
  | reserved
  | cached (response : CachedResponse)
  | turnedAway (message : Message)

def reserveRound (cacheSize : ℕ) (cache : RoundCache) (key : Key) (cnfSha256 : PyStr) :
    Reservation × RoundCache :=
  match cache.get? key with
  | some none => (.turnedAway ⟨"challenge already in progress", by decide⟩, cache.moveToEnd key)
  | some (some response) =>
    (if response.cnfSha256 ≠ cnfSha256 then
        .turnedAway ⟨"validator already used a different formula this round", by decide⟩
      else .cached response, cache.moveToEnd key)
  | none => (.reserved, (cache.set key none).trim cacheSize)

def completeRound (cacheSize : ℕ) (cache : RoundCache) (key : Key) (response : CachedResponse) :
    RoundCache :=
  ((cache.set key (some response)).moveToEnd key).trim cacheSize

/-! ## Calls -/

/-- What a handled exception sets in the synapse. -/
def errorReply (message : Message) : Reply := ⟨"", "", String.ofList (message.1.toList.take 240)⟩

/-- The reply of a call, unless an exception escapes from it. -/
def replyOf : Except Fault Reply → Option Reply
  | .ok reply => some reply
  | .error (.handled message) => some (errorReply message)
  | .error .escapes => none

/-- A call that has reserved its round. -/
structure Call where
  key : Key
  request : SatChallenge
  cnf : Cnf
  timeoutSecs : ℚ
  running : Bool

structure State where
  cache : RoundCache
  calls : ℕ → Option Call
  /-- The slots taken. -/
  running : ℕ
  /-- How many calls have been made. -/
  served : ℕ
  /-- The rounds that some call has reserved. -/
  reserved : List Key
  /-- The rounds whose reservation was left behind. -/
  abandoned : List Key

def State.start : State := ⟨Dict.empty, fun _ => none, 0, 0, [], []⟩

inductive Action where
  /-- A call, with the two readings of the clock. -/
  | request (caller : PyStr) (c : SatChallenge) (checkedMs admittedMs : ℤ)
  /-- A call gets a slot and starts the solver. -/
  | start (call : ℕ)
  /-- The solver of a call comes to an assignment and a name, or raises. -/
  | finish (call : ℕ) (outcome : Except Fault (List ℤ × String))
  /-- A call is cancelled where it waits. -/
  | cancel (call : ℕ)

/-- What is seen of a call. -/
inductive What where
  /-- It fails its checks. -/
  | refused (reply : Option Reply)
  | turnedAway (message : Message)
  | fromCache (reply : Reply)
  | reserved
  | started
  | solved (assignment : List ℤ)
  /-- It has reserved its round, and ends with a reply or an exception. -/
  | ended (reply : Option Reply)
deriving DecidableEq

structure Seen where
  call : ℕ
  key : Key
  request : SatChallenge
  what : What
deriving DecidableEq

/-- The end of a call that has reserved its round. -/
def endCall (H : Host) (s : State) (key : Key) (request : SatChallenge) (reply : Option Reply) :
    State :=
  match reply with
  | some r =>
    let response : CachedResponse := ⟨request.challengeId, request.cnfSha256, r⟩
    { s with cache := completeRound H.responseCacheSize s.cache key response }
  | none => { s with abandoned := key :: s.abandoned }

/-- A call up to its first wait. -/
def request (H : Host) (s : State) (caller : PyStr) (c : SatChallenge)
    (checkedMs admittedMs : ℤ) : State × List Seen :=
  let key := (caller, c.roundId)
  let seen := Seen.mk s.served key c
  let s' := { s with served := s.served + 1 }
  match admitCall H c caller checkedMs admittedMs with
  | .error fault => (s', [seen (.refused (replyOf (.error fault)))])
  | .ok remaining =>
    match reserveRound H.responseCacheSize s.cache key c.cnfSha256 with
    | (.turnedAway message, cache) => ({ s' with cache := cache }, [seen (.turnedAway message)])
    | (.cached response, cache) =>
      ({ s' with cache := cache }, [seen (.fromCache response.reply)])
    | (.reserved, cache) =>
      let s' := { s' with cache := cache, reserved := key :: s.reserved }
      match H.decodeCnf c.cnfB64 c.cnfSha256 c.nVars c.nClauses with
      | .error fault =>
        let reply := replyOf (.error fault)
        (endCall H s' key c reply, [seen .reserved, seen (.ended reply)])
      | .ok cnf =>
        ({ s' with calls := Function.update s'.calls s.served (some
          ⟨key, c, cnf, min H.config.solverTimeoutSecs remaining, false⟩) },
          [seen .reserved])

/-- The reply of a call whose solver came to something. -/
def solvedReply (H : Host) (call : Call) (outcome : Except Fault (List ℤ × String)) :
    Except Fault Reply := do
  let solution ← outcome
  let assignmentB64 ← H.encodeAssignment solution.1 call.cnf.nVars
  pure ⟨assignmentB64, solution.2, ""⟩

/-- The assignment that a solver came to. -/
def seenSolved (seen : What → Seen) : Except Fault (List ℤ × String) → List Seen
  | .ok solution => [seen (.solved solution.1)]
  | .error _ => []

def act (H : Host) (s : State) : Action → Option (State × List Seen)
  | .request caller c checkedMs admittedMs => some (request H s caller c checkedMs admittedMs)
  | .start p =>
    match s.calls p with
    | some call =>
      if call.running = false ∧ s.running < H.maxConcurrency then
        some ({ s with
          calls := Function.update s.calls p (some { call with running := true })
          running := s.running + 1 }, [⟨p, call.key, call.request, .started⟩])
      else none
    | none => none
  | .finish p outcome =>
    match s.calls p with
    | some call =>
      if call.running = true then
        let reply := replyOf (solvedReply H call outcome)
        let seen := Seen.mk p call.key call.request
        some (endCall H
          { s with calls := Function.update s.calls p none, running := s.running - 1 }
          call.key call.request reply, seenSolved seen outcome ++ [seen (.ended reply)])
      else none
    | none => none
  | .cancel p =>
    match s.calls p with
    | some call =>
      some (endCall H
        { s with
          calls := Function.update s.calls p none
          running := if call.running then s.running - 1 else s.running }
        call.key call.request none, [⟨p, call.key, call.request, .ended none⟩])
    | none => none

/-- An action with what is seen of it. -/
abbrev Event : Type := Action × List Seen

def step (H : Host) : State → Event → State → Prop := Acts (act H)

/-- What is seen in a run. -/
def shown (ls : List Event) : List Seen := ls.flatMap Prod.snd

/-! ## The promise -/

/-- The reply that a call has got. -/
def What.reply? : What → Option Reply
  | .refused reply => reply
  | .turnedAway message => some (errorReply message)
  | .fromCache reply => some reply
  | .ended reply => reply
  | _ => none

/-- A call that has passed its checks comes to the cache. -/
def What.Arrives : What → Prop
  | .turnedAway _ | .fromCache _ | .reserved => True
  | _ => False

/-- The solver of a call with this key and digest came to an assignment of this encoding. -/
def SolvedBy (H : Host) (key : Key) (cnfSha256 : PyStr) (assignmentB64 : String) (y : Seen) :
    Prop :=
  y.key = key ∧ y.request.cnfSha256 = cnfSha256 ∧ ∃ assignment cnf, y.what = .solved assignment ∧
    H.decodeCnf y.request.cnfB64 y.request.cnfSha256 y.request.nVars y.request.nClauses = .ok cnf ∧
      H.encodeAssignment assignment cnf.nVars = .ok assignmentB64

/-- A reply without an error carries an assignment computed for the digest of the request. -/
def Computed (H : Host) (before : List Seen) (x : Seen) : Prop :=
  ∀ r, x.what.reply? = some r → r.error = "" →
    ∃ y ∈ before, SolvedBy H x.key x.request.cnfSha256 r.assignmentB64 y

/-- What is promised of something seen, after all that was seen before it. -/
structure Honoured (H : Host) (before : List Seen) (x : Seen) : Prop where
  /-- No other solver was started for the round. -/
  once : x.what = .started → ∀ y ∈ before, y.what = .started → y.key ≠ x.key
  computed : Computed H before x
  /-- A second formula is turned away. -/
  oneFormula : ∀ first ∈ before, first.what = .reserved → first.key = x.key → x.what.Arrives →
    first.request.cnfSha256 ≠ x.request.cnfSha256 → ∃ message, x.what = .turnedAway message
  /-- Once the first call has ended, its reply is the one given. -/
  answered : ∀ first ∈ before, first.what = .reserved → first.key = x.key → x.what.Arrives →
    first.request.cnfSha256 = x.request.cnfSha256 → ∀ last ∈ before, last.call = first.call →
      ∀ reply, last.what = .ended reply → ∃ r, reply = some r ∧ x.what = .fromCache r

/-- The promise of a whole run. -/
def OncePerRound (H : Host) (seen : List Seen) : Prop :=
  ∀ before x after, seen = before ++ x :: after → Honoured H before x

/-- A round that was reserved and has lost its entry, or is reserved by a call that is gone. -/
def Lost (s : State) (key : Key) : Prop :=
  key ∈ s.reserved ∧ (s.cache.get? key = none ∨ key ∈ s.abandoned)

instance (s : State) (key : Key) : Decidable (Lost s key) :=
  inferInstanceAs (Decidable (_ ∧ (s.cache.get? key = none ∨ _)))

/-- No call comes for a lost round. -/
def Kept (s : State) : Action → Prop
  | .request caller c _ _ => ¬ Lost s (caller, c.roundId)
  | _ => True

instance (s : State) : DecidablePred (Kept s)
  | .request caller c _ _ => inferInstanceAs (Decidable (¬ Lost s (caller, c.roundId)))
  | .start _ | .finish _ _ | .cancel _ => isTrue trivial

/-! ## The cache, step by step -/

section Cache

variable {cacheSize : ℕ} {cache cache' : RoundCache} {key k : Key} {digest : PyStr}
  {response : CachedResponse} {entry : Option CachedResponse}

/-- A reservation is new; every other call finds the entry of its round. -/
theorem reserveRound_cases {res : Reservation}
    (h : reserveRound cacheSize cache key digest = (res, cache')) :
    (∃ message entry, res = .turnedAway message ∧ cache.get? key = some entry ∧
        (∀ r, entry = some r → r.cnfSha256 ≠ digest) ∧ ∀ k, cache'.get? k = cache.get? k) ∨
      (∃ r, res = .cached r ∧ cache.get? key = some (some r) ∧ r.cnfSha256 = digest ∧
        ∀ k, cache'.get? k = cache.get? k) ∨
      (res = .reserved ∧ cache.get? key = none ∧
        ∀ k e, cache'.get? k = some e → (k = key ∧ e = none) ∨ cache.get? k = some e) := by
  unfold reserveRound at h
  split at h
  · next hbusy =>
      cases h
      exact Or.inl ⟨_, none, rfl, hbusy, by simp, fun k => Dict.get?_moveToEnd ..⟩
  · next r hr =>
      split_ifs at h with hdigest
      · cases h
        refine Or.inl ⟨_, some r, rfl, hr, fun r' hr' => ?_, fun k => Dict.get?_moveToEnd ..⟩
        cases hr'
        exact hdigest
      · cases h
        exact Or.inr (Or.inl ⟨r, rfl, hr, not_not.mp hdigest, fun k => Dict.get?_moveToEnd ..⟩)
  · next hnone =>
      cases h
      refine Or.inr (Or.inr ⟨rfl, hnone, fun k e hk => ?_⟩)
      have hset := Dict.get?_trim hk
      rw [Dict.get?_set] at hset
      split_ifs at hset with heq
      · exact Or.inl ⟨heq.symm, (Option.some.inj hset).symm⟩
      · exact Or.inr hset

/-- After a completion an entry is the one of the round, or was there before. -/
theorem get?_completeRound (h : (completeRound cacheSize cache key response).get? k = some entry) :
    (k = key ∧ entry = some response) ∨ (k ≠ key ∧ cache.get? k = some entry) := by
  have hset := Dict.get?_trim h
  rw [Dict.get?_moveToEnd, Dict.get?_set] at hset
  split_ifs at hset with heq
  · exact Or.inl ⟨heq.symm, (Option.some.inj hset).symm⟩
  · exact Or.inr ⟨Ne.symm heq, hset⟩

end Cache

/-! ## Assignments -/

/-- A reply with an error is not one without. -/
theorem errorReply_error (message : Message) : (errorReply message).error ≠ "" := by
  obtain ⟨text, htext⟩ := message
  intro h
  have hnil : text.toList.take 240 = [] := by
    have := congrArg String.toList h
    simpa [errorReply] using this
  rw [List.take_eq_nil_iff] at hnil
  rcases hnil with hzero | hempty
  · cases hzero
  · exact htext (String.toList_eq_nil_iff.mp hempty)

/-- The replies in the cache and the formulas of the calls are what they should be. -/
structure Sound (H : Host) (seen : List Seen) (s : State) : Prop where
  cached : ∀ key r, s.cache.get? key = some (some r) → r.reply.error = "" →
    ∃ y ∈ seen, SolvedBy H key r.cnfSha256 r.reply.assignmentB64 y
  formula : ∀ p call, s.calls p = some call →
    H.decodeCnf call.request.cnfB64 call.request.cnfSha256 call.request.nVars
      call.request.nClauses = .ok call.cnf

section Sound

variable {H : Host} {s t : State} {seen new : List Seen} {x : Seen}

theorem Sound.mono (h : Sound H seen s) (hcache : ∀ key r, t.cache.get? key = some (some r) →
      s.cache.get? key = some (some r))
    (hcalls : ∀ p call, t.calls p = some call → s.calls p = some call) :
    Sound H (seen ++ new) t where
  cached := fun key r hr herror => by
    obtain ⟨y, hy, hsolved⟩ := h.cached key r (hcache key r hr) herror
    exact ⟨y, List.mem_append_left _ hy, hsolved⟩
  formula := fun p call hcall => h.formula p call (hcalls p call hcall)

/-- The end of a call keeps the cache sound, if its reply was computed. -/
theorem Sound.endCall (h : Sound H seen s) {key : Key} {request : SatChallenge}
    {reply : Option Reply} (hreply : ∀ r, reply = some r → r.error = "" →
      ∃ y ∈ seen, SolvedBy H key request.cnfSha256 r.assignmentB64 y) :
    Sound H (seen ++ [x]) (endCall H s key request reply) := by
  cases reply with
  | none => exact h.mono (fun _ _ hr => hr) (fun _ _ hcall => hcall)
  | some r =>
    refine ⟨fun k c hc herror => ?_, fun p call hcall => h.formula p call hcall⟩
    rcases get?_completeRound hc with ⟨rfl, heq⟩ | ⟨-, hold⟩
    · cases heq
      obtain ⟨y, hy, hsolved⟩ := hreply r rfl herror
      exact ⟨y, List.mem_append_left _ hy, hsolved⟩
    · obtain ⟨y, hy, hsolved⟩ := h.cached k c hold herror
      exact ⟨y, List.mem_append_left _ hy, hsolved⟩

theorem reply_of_error {fault : Fault} {r : Reply} (h : replyOf (.error fault) = some r) :
    r.error ≠ "" := by
  cases fault with
  | handled message =>
    cases h
    exact errorReply_error message
  | escapes => cases h

/-- What a solver comes to is what the call replies. -/
theorem solvedReply_eq_ok {call : Call} {outcome : Except Fault (List ℤ × String)} {r : Reply}
    (h : replyOf (solvedReply H call outcome) = some r) (herror : r.error = "") :
    ∃ solution, outcome = .ok solution ∧
      H.encodeAssignment solution.1 call.cnf.nVars = .ok r.assignmentB64 := by
  cases outcome with
  | error fault => exact absurd herror (reply_of_error h)
  | ok solution =>
    refine ⟨solution, rfl, ?_⟩
    cases hencode : H.encodeAssignment solution.1 call.cnf.nVars with
    | error fault =>
      have hfault : solvedReply H call (.ok solution) = .error fault := by
        show (H.encodeAssignment solution.1 call.cnf.nVars).bind _ = _
        rw [hencode]
        rfl
      rw [hfault] at h
      exact absurd herror (reply_of_error h)
    | ok assignmentB64 =>
      have hreply : solvedReply H call (.ok solution) =
          .ok ⟨assignmentB64, solution.2, ""⟩ := by
        show (H.encodeAssignment solution.1 call.cnf.nVars).bind _ = _
        rw [hencode]
        rfl
      rw [hreply] at h
      cases h
      rfl

/-- A reply that has an error, or none, is nothing to be computed. -/
theorem computed_of_error (h : ∀ r, x.what.reply? = some r → r.error ≠ "") :
    Computed H seen x := fun r hr herror => absurd herror (h r hr)

/-- What the request of a call comes to. -/
inductive Requested (H : Host) (s : State) (caller : PyStr) (c : SatChallenge) :
    State → List Seen → Prop where
  | refused (reply : Option Reply) (hreply : ∀ r, reply = some r → r.error ≠ "") :
      Requested H s caller c { s with served := s.served + 1 }
        [⟨s.served, (caller, c.roundId), c, .refused reply⟩]
  | turnedAway (message : Message) (cache : RoundCache) (entry : Option CachedResponse)
      (hsame : ∀ k, cache.get? k = s.cache.get? k)
      (hentry : s.cache.get? (caller, c.roundId) = some entry)
      (hother : ∀ r, entry = some r → r.cnfSha256 ≠ c.cnfSha256) :
      Requested H s caller c { s with served := s.served + 1, cache := cache }
        [⟨s.served, (caller, c.roundId), c, .turnedAway message⟩]
  | cached (response : CachedResponse) (cache : RoundCache)
      (hsame : ∀ k, cache.get? k = s.cache.get? k)
      (hentry : s.cache.get? (caller, c.roundId) = some (some response))
      (hdigest : response.cnfSha256 = c.cnfSha256) :
      Requested H s caller c { s with served := s.served + 1, cache := cache }
        [⟨s.served, (caller, c.roundId), c, .fromCache response.reply⟩]
  | failed (cache : RoundCache) (reply : Option Reply)
      (hnone : s.cache.get? (caller, c.roundId) = none)
      (hcache : ∀ k e, cache.get? k = some e →
        (k = (caller, c.roundId) ∧ e = none) ∨ s.cache.get? k = some e)
      (hreply : ∀ r, reply = some r → r.error ≠ "") :
      Requested H s caller c
        (endCall H
          { s with
            served := s.served + 1
            cache := cache
            reserved := (caller, c.roundId) :: s.reserved } (caller, c.roundId) c reply)
        [⟨s.served, (caller, c.roundId), c, .reserved⟩,
          ⟨s.served, (caller, c.roundId), c, .ended reply⟩]
  | reserved (cache : RoundCache) (call : Call)
      (hnone : s.cache.get? (caller, c.roundId) = none)
      (hcache : ∀ k e, cache.get? k = some e →
        (k = (caller, c.roundId) ∧ e = none) ∨ s.cache.get? k = some e)
      (hkey : call.key = (caller, c.roundId)) (hrequest : call.request = c)
      (hrunning : call.running = false)
      (hcnf : H.decodeCnf c.cnfB64 c.cnfSha256 c.nVars c.nClauses = .ok call.cnf) :
      Requested H s caller c
        { s with
          served := s.served + 1
          cache := cache
          reserved := (caller, c.roundId) :: s.reserved
          calls := Function.update s.calls s.served (some call) }
        [⟨s.served, (caller, c.roundId), c, .reserved⟩]

theorem request_cases (H : Host) (s : State) (caller : PyStr) (c : SatChallenge)
    (checkedMs admittedMs : ℤ) :
    Requested H s caller c (request H s caller c checkedMs admittedMs).1
      (request H s caller c checkedMs admittedMs).2 := by
  unfold request
  dsimp only
  cases admitCall H c caller checkedMs admittedMs with
  | error fault => exact .refused _ fun r hr => reply_of_error hr
  | ok remaining =>
    dsimp only
    rcases hres : reserveRound H.responseCacheSize s.cache (caller, c.roundId) c.cnfSha256 with
      ⟨res, cache⟩
    rcases reserveRound_cases hres with ⟨message, entry, rfl, hentry, hother, hsame⟩ |
      ⟨r, rfl, hentry, hdigest, hsame⟩ | ⟨rfl, hnone, hcache⟩
    · exact .turnedAway message cache entry hsame hentry hother
    · exact .cached r cache hsame hentry hdigest
    · dsimp only
      cases hdecode : H.decodeCnf c.cnfB64 c.cnfSha256 c.nVars c.nClauses with
      | error fault => exact .failed cache _ hnone hcache fun r hr => reply_of_error hr
      | ok cnf => exact .reserved cache _ hnone hcache rfl rfl rfl hdecode

/-- Every action keeps the cache sound, and every reply without an error was computed. -/
theorem Sound.act {action : Action} (h : Sound H seen s) (hact : act H s action = some (t, new)) :
    EachAfter (Computed H) seen new ∧ Sound H (seen ++ new) t := by
  -- the calls of a state with one of them ended
  have hended : ∀ (q p : ℕ) (call : Call), Function.update s.calls q none p = some call →
      s.calls p = some call := by
    intro q p call hcall
    rw [Function.update_apply] at hcall
    split_ifs at hcall
    exact hcall
  cases action with
  | request caller c checkedMs admittedMs =>
    have hrequested := request_cases H s caller c checkedMs admittedMs
    rw [Option.some.inj hact] at hrequested
    cases hrequested with
    | refused reply hreply =>
      exact ⟨⟨computed_of_error hreply, trivial⟩, h.mono (fun _ _ hr => hr) (fun _ _ hr => hr)⟩
    | turnedAway message cache entry hsame hentry hother =>
      refine ⟨⟨computed_of_error fun r hr => ?_, trivial⟩,
        h.mono (fun key r hr => ?_) (fun _ _ hr => hr)⟩
      · cases hr
        exact errorReply_error message
      · rw [← hsame]
        exact hr
    | cached response cache hsame hentry hdigest =>
      refine ⟨⟨fun r hr herror => ?_, trivial⟩, h.mono (fun key r hr => ?_) (fun _ _ hr => hr)⟩
      · cases hr
        rw [← hdigest]
        exact h.cached _ response hentry herror
      · rw [← hsame]
        exact hr
    | failed cache reply hnone hcache hreply =>
      refine ⟨⟨computed_of_error (by simp [What.reply?]), computed_of_error hreply, trivial⟩,
        ?_⟩
      have hreserved : Sound H (seen ++ [⟨s.served, (caller, c.roundId), c, .reserved⟩])
          { s with
            served := s.served + 1
            cache := cache
            reserved := (caller, c.roundId) :: s.reserved } := by
        refine h.mono (fun key r hr => ?_) (fun _ _ hr => hr)
        rcases hcache key _ hr with ⟨-, hnew⟩ | hold
        · cases hnew
        · exact hold
      rw [List.append_cons]
      exact hreserved.endCall fun r hr herror => absurd herror (hreply r hr)
    | reserved cache call hnone hcache hkey hrequest hrunning hcnf =>
      refine ⟨⟨computed_of_error (by simp [What.reply?]), trivial⟩, ?_, ?_⟩
      · intro key r hr herror
        rcases hcache key _ hr with ⟨-, hnew⟩ | hold
        · cases hnew
        · obtain ⟨y, hy, hsolved⟩ := h.cached key r hold herror
          exact ⟨y, List.mem_append_left _ hy, hsolved⟩
      · intro p call' hcall
        dsimp only at hcall
        rw [Function.update_apply] at hcall
        split_ifs at hcall
        · cases hcall
          rw [hrequest]
          exact hcnf
        · exact h.formula p call' hcall
  | start p =>
    simp only [Miner.act] at hact
    split at hact
    · next call hcall =>
        split_ifs at hact
        cases hact
        refine ⟨⟨computed_of_error (by simp [What.reply?]), trivial⟩,
          (h.mono (t := s) (fun _ _ hr => hr) (fun _ _ hr => hr)).cached, ?_⟩
        intro q call' hcall'
        dsimp only at hcall'
        rw [Function.update_apply] at hcall'
        split_ifs at hcall'
        · cases hcall'
          exact h.formula p call hcall
        · exact h.formula q call' hcall'
    · cases hact
  | finish p outcome =>
    simp only [Miner.act] at hact
    split at hact
    · next call hcall =>
        split_ifs at hact
        cases hact
        have hcomputed : ∀ r, replyOf (solvedReply H call outcome) = some r → r.error = "" →
            ∃ y ∈ seen ++ seenSolved (Seen.mk p call.key call.request) outcome,
              SolvedBy H call.key call.request.cnfSha256 r.assignmentB64 y := by
          intro r hr herror
          obtain ⟨solution, rfl, hencode⟩ := solvedReply_eq_ok hr herror
          exact ⟨_, List.mem_append_right _ (List.mem_singleton_self _), rfl, rfl, _, _, rfl,
            h.formula p call hcall, hencode⟩
        rw [eachAfter_append, ← List.append_assoc]
        have hfreed : Sound H (seen ++ seenSolved (Seen.mk p call.key call.request) outcome)
            { s with calls := Function.update s.calls p none, running := s.running - 1 } :=
          h.mono (fun _ _ hr => hr) (hended p)
        refine ⟨⟨?_, hcomputed, trivial⟩, hfreed.endCall hcomputed⟩
        cases outcome with
        | error fault => trivial
        | ok solution => exact ⟨computed_of_error (by simp [What.reply?]), trivial⟩
    · cases hact
  | cancel p =>
    simp only [Miner.act] at hact
    split at hact
    · next call hcall =>
        cases hact
        have hfreed : Sound H seen
            { s with
              calls := Function.update s.calls p none
              running := if call.running then s.running - 1 else s.running } :=
          ⟨h.cached, fun q call' hcall' => h.formula q call' (hended p q call' hcall')⟩
        exact ⟨⟨computed_of_error (by simp [What.reply?]), trivial⟩, hfreed.endCall (by simp)⟩
    · cases hact

end Sound

/-! ## One call for each round -/

/-- Where the call that has reserved a round is. -/
inductive RoundKept (seen : List Seen) (s : State) (x : Seen) : Prop where
  | live (call : Call) (hcall : s.calls x.call = some call) (hkey : call.key = x.key)
      (hentry : ∀ e, s.cache.get? x.key = some e → e = none)
  | abandoned (habandoned : x.key ∈ s.abandoned)
  | ended (r : Reply) (hgone : s.calls x.call = none)
      (hended : ∀ y ∈ seen, y.call = x.call → ∀ reply, y.what = .ended reply → reply = some r)
      (hentry : ∀ e, s.cache.get? x.key = some e →
        ∃ response, e = some response ∧ response.reply = r ∧
          response.cnfSha256 = x.request.cnfSha256)

/-- What holds between any two actions, while no call comes for a lost round. -/
structure Inv (seen : List Seen) (s : State) : Prop where
  served : ∀ x ∈ seen, x.call < s.served
  known : ∀ key, key ∈ s.reserved ↔ ∃ x ∈ seen, x.what = .reserved ∧ x.key = key
  cached : ∀ key e, s.cache.get? key = some e → key ∈ s.reserved
  unique : ∀ x ∈ seen, ∀ y ∈ seen, x.what = .reserved → y.what = .reserved → x.key = y.key → x = y
  live : ∀ p call, s.calls p = some call → ⟨p, call.key, call.request, .reserved⟩ ∈ seen
  unended : ∀ p call, s.calls p = some call → ∀ x ∈ seen, x.call = p →
    ∀ reply, x.what ≠ .ended reply
  waiting : ∀ p call, s.calls p = some call → call.running = false → ∀ x ∈ seen,
    x.what = .started → x.key ≠ call.key
  begun : ∀ x ∈ seen, x.what = .started → x.key ∈ s.reserved
  rounds : ∀ x ∈ seen, x.what = .reserved → RoundKept seen s x

/-- Something seen that neither reserves a round nor starts a solver nor ends a call. -/
def What.Quiet (w : What) : Prop :=
  w ≠ .reserved ∧ w ≠ .started ∧ ∀ reply, w ≠ .ended reply

section Inv

variable {H : Host} {s t : State} {seen new : List Seen} {x : Seen} {call : Call} {p : ℕ}
  {key : Key} {cache : RoundCache}

theorem inv_start : Inv [] State.start where
  served := by simp
  known := by simp [State.start]
  cached := by simp [State.start]
  unique := by simp
  live := by simp [State.start]
  unended := by simp
  waiting := by simp
  begun := by simp
  rounds := by simp

/-- What is found under a live call's round in `seen` is that call. -/
theorem Inv.eq_of_live (h : Inv seen s) (hcall : s.calls p = some call) (hx : x ∈ seen)
    (hreserved : x.what = .reserved) (hkey : x.key = call.key) :
    x = ⟨p, call.key, call.request, .reserved⟩ :=
  h.unique x hx _ (h.live p call hcall) hreserved rfl hkey

theorem Inv.bound (h : Inv seen s) (hcall : s.calls p = some call) : p < s.served :=
  h.served _ (h.live p call hcall)

/-- The next call has not been made. -/
theorem Inv.free (h : Inv seen s) : s.calls s.served = none := by
  cases hcall : s.calls s.served with
  | none => rfl
  | some call => exact absurd (h.bound hcall) (lt_irrefl _)

theorem mem_snoc {y : Seen} (h : y ∈ seen ++ [x]) : y ∈ seen ∨ y = x := by
  simpa using h

/-- Something seen that reserves no round leaves it open who has reserved which. -/
theorem Inv.known_snoc (h : Inv seen s) (hx : x.what ≠ .reserved) (key : Key) :
    key ∈ s.reserved ↔ ∃ y ∈ seen ++ [x], y.what = .reserved ∧ y.key = key := by
  rw [h.known key]
  constructor
  · rintro ⟨y, hy, hwhat⟩
    exact ⟨y, List.mem_append_left _ hy, hwhat⟩
  · rintro ⟨y, hy, hwhat, hkey⟩
    rcases mem_snoc hy with hmem | rfl
    · exact ⟨y, hmem, hwhat, hkey⟩
    · exact absurd hwhat hx

theorem Inv.unique_snoc (h : Inv seen s) (hx : x.what ≠ .reserved) : ∀ y ∈ seen ++ [x],
    ∀ z ∈ seen ++ [x], y.what = .reserved → z.what = .reserved → y.key = z.key → y = z := by
  intro y hy z hz hywhat hzwhat hkey
  rcases mem_snoc hy with hymem | rfl
  · rcases mem_snoc hz with hzmem | rfl
    · exact h.unique y hymem z hzmem hywhat hzwhat hkey
    · exact absurd hzwhat hx
  · exact absurd hywhat hx

theorem Inv.served_snoc (h : Inv seen s) {n : ℕ} (hn : s.served ≤ n) (hx : x.call < n) :
    ∀ y ∈ seen ++ [x], y.call < n := by
  intro y hy
  rcases mem_snoc hy with hmem | rfl
  · exact (h.served y hmem).trans_le hn
  · exact hx

theorem Inv.begun_snoc (h : Inv seen s) (hx : x.what = .started → x.key ∈ s.reserved) :
    ∀ y ∈ seen ++ [x], y.what = .started → y.key ∈ s.reserved := by
  intro y hy hstarted
  rcases mem_snoc hy with hmem | rfl
  · exact h.begun y hmem hstarted
  · exact hx hstarted

/-- A round is kept where its call and its entry are what they were. -/
theorem RoundKept.snoc {y : Seen} (h : RoundKept seen s y)
    (hcalls : t.calls y.call = s.calls y.call)
    (hcache : ∀ e, t.cache.get? y.key = some e → s.cache.get? y.key = some e)
    (habandoned : ∀ k ∈ s.abandoned, k ∈ t.abandoned)
    (hx : x.call = y.call → ∀ reply, x.what ≠ .ended reply) : RoundKept (seen ++ [x]) t y := by
  cases h with
  | live call hlive hkey hentry =>
    exact .live call (hcalls.trans hlive) hkey fun e he => hentry e (hcache e he)
  | abandoned hgone => exact .abandoned (habandoned _ hgone)
  | ended r hgone hended hentry =>
    refine .ended r (hcalls.trans hgone) (fun z hz hcallz reply hreply => ?_)
      fun e he => hentry e (hcache e he)
    rcases mem_snoc hz with hzmem | rfl
    · exact hended z hzmem hcallz reply hreply
    · exact absurd hreply (hx hcallz reply)

theorem Inv.quiet (h : Inv seen s) (hx : x.what.Quiet) (hcall : x.call < t.served)
    (hserved : s.served ≤ t.served) (hcache : ∀ k, t.cache.get? k = s.cache.get? k)
    (hcalls : t.calls = s.calls) (hreserved : t.reserved = s.reserved)
    (habandoned : t.abandoned = s.abandoned) : Inv (seen ++ [x]) t := by
  -- what is seen of these three kinds was seen before
  obtain ⟨hxreserved, hxstarted, hxended⟩ := hx
  exact {
    served := h.served_snoc hserved hcall
    known := fun key => by
      rw [hreserved]
      exact h.known_snoc hxreserved key
    cached := fun key e he => by
      rw [hreserved]
      rw [hcache] at he
      exact h.cached key e he
    unique := h.unique_snoc hxreserved
    live := fun p call hlive => by
      rw [hcalls] at hlive
      exact List.mem_append_left _ (h.live p call hlive)
    unended := fun p call hlive y hy hp reply => by
      rw [hcalls] at hlive
      rcases mem_snoc hy with hmem | rfl
      · exact h.unended p call hlive y hmem hp reply
      · exact hxended reply
    waiting := fun p call hlive hrunning y hy hstarted => by
      rw [hcalls] at hlive
      rcases mem_snoc hy with hmem | rfl
      · exact h.waiting p call hlive hrunning y hmem hstarted
      · exact absurd hstarted hxstarted
    begun := by
      rw [hreserved]
      exact h.begun_snoc fun hstarted => absurd hstarted hxstarted
    rounds := fun y hy hwhat => by
      rcases mem_snoc hy with hmem | rfl
      · refine (h.rounds y hmem hwhat).snoc (by rw [hcalls]) (fun e he => ?_)
          (fun k hk => habandoned ▸ hk) fun _ => hxended
        rwa [hcache] at he
      · exact absurd hwhat hxreserved }

/-- A round that no call has reserved is reserved. -/
theorem Inv.reserve {request : SatChallenge} (h : Inv seen s) (hfresh : key ∉ s.reserved)
    (hkey : call.key = key) (hrequest : call.request = request)
    (hcache : ∀ k e, cache.get? k = some e → (k = key ∧ e = none) ∨ s.cache.get? k = some e) :
    Inv (seen ++ [⟨s.served, key, request, .reserved⟩])
      { s with
        served := s.served + 1
        cache := cache
        reserved := key :: s.reserved
        calls := Function.update s.calls s.served (some call) } := by
  have hnone : ∀ y ∈ seen, y.what = .reserved → y.key ≠ key := by
    intro y hy hwhat heq
    exact hfresh ((h.known key).mpr ⟨y, hy, hwhat, heq⟩)
  have hcalls : ∀ q call', Function.update s.calls s.served (some call) q = some call' →
      (q = s.served ∧ call' = call) ∨ (q ≠ s.served ∧ s.calls q = some call') := by
    intro q call' hcall'
    rw [Function.update_apply] at hcall'
    split_ifs at hcall' with hq
    · exact Or.inl ⟨hq, (Option.some.inj hcall').symm⟩
    · exact Or.inr ⟨hq, hcall'⟩
  exact {
    served := h.served_snoc (Nat.le_succ _) (Nat.lt_succ_self _)
    known := fun k => by
      rw [List.mem_cons, h.known k]
      constructor
      · rintro (rfl | ⟨y, hy, hwhat⟩)
        · exact ⟨_, List.mem_append_right _ (List.mem_singleton_self _), rfl, rfl⟩
        · exact ⟨y, List.mem_append_left _ hy, hwhat⟩
      · rintro ⟨y, hy, hwhat, rfl⟩
        rcases mem_snoc hy with hmem | rfl
        · exact Or.inr ⟨y, hmem, hwhat, rfl⟩
        · exact Or.inl rfl
    cached := fun k e he => by
      rcases hcache k e he with ⟨rfl, -⟩ | hbefore
      · exact List.mem_cons_self
      · exact List.mem_cons_of_mem _ (h.cached k e hbefore)
    unique := fun y hy z hz hywhat hzwhat heq => by
      rcases mem_snoc hy with hymem | rfl
      · rcases mem_snoc hz with hzmem | rfl
        · exact h.unique y hymem z hzmem hywhat hzwhat heq
        · exact absurd heq (hnone y hymem hywhat)
      · rcases mem_snoc hz with hzmem | rfl
        · exact absurd heq.symm (hnone z hzmem hzwhat)
        · rfl
    live := fun q call' hlive => by
      rcases hcalls q call' hlive with ⟨rfl, rfl⟩ | ⟨-, hbefore⟩
      · rw [hkey, hrequest]
        exact List.mem_append_right _ (List.mem_singleton_self _)
      · exact List.mem_append_left _ (h.live q call' hbefore)
    unended := fun q call' hlive y hy hq reply => by
      rcases mem_snoc hy with hmem | rfl
      · rcases hcalls q call' hlive with ⟨rfl, -⟩ | ⟨-, hbefore⟩
        · exact absurd hq (h.served y hmem).ne
        · exact h.unended q call' hbefore y hmem hq reply
      · simp
    waiting := fun q call' hlive hrunning y hy hstarted => by
      rcases mem_snoc hy with hmem | rfl
      · rcases hcalls q call' hlive with ⟨-, rfl⟩ | ⟨-, hbefore⟩
        · -- a solver that was started belongs to a round that was reserved before
          intro heq
          exact hfresh (hkey ▸ heq ▸ h.begun y hmem hstarted)
        · exact h.waiting q call' hbefore hrunning y hmem hstarted
      · cases hstarted
    begun := fun y hy hstarted => by
      rcases mem_snoc hy with hmem | rfl
      · exact List.mem_cons_of_mem _ (h.begun y hmem hstarted)
      · cases hstarted
    rounds := fun y hy hwhat => by
      rcases mem_snoc hy with hmem | rfl
      · refine (h.rounds y hmem hwhat).snoc (Function.update_of_ne (h.served y hmem).ne _ _)
          (fun e he => ?_) (fun _ hk => hk) (by simp)
        rcases hcache y.key e he with ⟨heq, -⟩ | hbefore
        · exact absurd heq (hnone y hmem hwhat)
        · exact hbefore
      · refine .live call (Function.update_self ..) hkey fun e he => ?_
        rcases hcache key e he with ⟨-, hnew⟩ | hbefore
        · exact hnew
        · exact absurd (h.cached key e hbefore) hfresh }

/-- A waiting call starts its solver. -/
theorem Inv.begin (h : Inv seen s) (hcall : s.calls p = some call) (n : ℕ) :
    Inv (seen ++ [⟨p, call.key, call.request, .started⟩])
      { s with
        calls := Function.update s.calls p (some { call with running := true })
        running := n } := by
  have hreserved := h.live p call hcall
  have hcalls : ∀ q call', Function.update s.calls p (some { call with running := true }) q =
      some call' → (q = p ∧ call' = { call with running := true }) ∨
        (q ≠ p ∧ s.calls q = some call') := by
    intro q call' hcall'
    rw [Function.update_apply] at hcall'
    split_ifs at hcall' with hq
    · exact Or.inl ⟨hq, (Option.some.inj hcall').symm⟩
    · exact Or.inr ⟨hq, hcall'⟩
  exact {
    served := h.served_snoc le_rfl (h.bound hcall)
    known := h.known_snoc (by simp)
    cached := h.cached
    unique := h.unique_snoc (by simp)
    live := fun q call' hlive => by
      rcases hcalls q call' hlive with ⟨rfl, rfl⟩ | ⟨-, hbefore⟩
      · exact List.mem_append_left _ hreserved
      · exact List.mem_append_left _ (h.live q call' hbefore)
    unended := fun q call' hlive y hy hq reply => by
      rcases mem_snoc hy with hmem | rfl
      · rcases hcalls q call' hlive with ⟨rfl, -⟩ | ⟨-, hbefore⟩
        · exact h.unended q call hcall y hmem hq reply
        · exact h.unended q call' hbefore y hmem hq reply
      · simp
    waiting := fun q call' hlive hwaiting y hy hstarted => by
      rcases hcalls q call' hlive with ⟨-, rfl⟩ | ⟨hq, hbefore⟩
      · cases hwaiting
      · rcases mem_snoc hy with hmem | rfl
        · exact h.waiting q call' hbefore hwaiting y hmem hstarted
        · -- two live calls have two rounds
          intro heq
          have hsame := h.eq_of_live hcall (h.live q call' hbefore) rfl heq.symm
          exact hq (congrArg Seen.call hsame)
    begun := h.begun_snoc fun _ => (h.known _).mpr ⟨_, hreserved, rfl, rfl⟩
    rounds := fun y hy hwhat => by
      rcases mem_snoc hy with hmem | rfl
      · by_cases hq : y.call = p
        · -- the call that starts its solver stays the one of its round
          cases h.rounds y hmem hwhat with
          | live call' hlive hkey hentry =>
            rw [hq, hcall] at hlive
            cases hlive
            exact .live { call with running := true } (by rw [hq]; exact Function.update_self ..)
              hkey hentry
          | abandoned hgone => exact .abandoned hgone
          | ended r hgone _ _ =>
            rw [hq, hcall] at hgone
            cases hgone
        · exact (h.rounds y hmem hwhat).snoc (Function.update_of_ne hq _ _) (fun _ he => he)
            (fun _ hk => hk) (by simp)
      · cases hwhat }

/-- What the end of a call changes. -/
theorem endCall_frame (H : Host) (s : State) (key : Key) (request : SatChallenge)
    (reply : Option Reply) :
    (endCall H s key request reply).calls = s.calls ∧
      (endCall H s key request reply).served = s.served ∧
        (endCall H s key request reply).reserved = s.reserved ∧
          ∀ k, k ∈ (endCall H s key request reply).abandoned ↔
            (reply = none ∧ k = key) ∨ k ∈ s.abandoned := by
  cases reply with
  | none => exact ⟨rfl, rfl, rfl, by simp [endCall]⟩
  | some r => exact ⟨rfl, rfl, rfl, by simp [endCall]⟩

theorem endCall_cache {request : SatChallenge} {reply : Option Reply} {k : Key}
    {e : Option CachedResponse} (he : (endCall H s key request reply).cache.get? k = some e) :
    (k = key ∧ ∃ r, reply = some r ∧ e = some ⟨request.challengeId, request.cnfSha256, r⟩) ∨
      ((reply ≠ none → k ≠ key) ∧ s.cache.get? k = some e) := by
  cases reply with
  | none => exact Or.inr ⟨by simp, he⟩
  | some r =>
    rcases get?_completeRound he with ⟨rfl, rfl⟩ | ⟨hne, hbefore⟩
    · exact Or.inl ⟨rfl, r, rfl, rfl⟩
    · exact Or.inr ⟨fun _ => hne, hbefore⟩

/-- A call that has reserved its round ends; its reply is the entry of the round. -/
theorem Inv.finish (h : Inv seen s) (hcall : s.calls p = some call) (reply : Option Reply) (n : ℕ) :
    Inv (seen ++ [⟨p, call.key, call.request, .ended reply⟩])
      (endCall H { s with calls := Function.update s.calls p none, running := n } call.key
        call.request reply) := by
  have hreserved := h.live p call hcall
  obtain ⟨hcalls, hserved, hrounds, habandoned⟩ := endCall_frame H
    { s with calls := Function.update s.calls p none, running := n } call.key call.request reply
  have hentries := @endCall_cache H
    { s with calls := Function.update s.calls p none, running := n } call.key call.request reply
  generalize endCall H { s with calls := Function.update s.calls p none, running := n } call.key
    call.request reply = t at *
  have hlive : ∀ q call', t.calls q = some call' → q ≠ p ∧ s.calls q = some call' := by
    intro q call' hcall'
    rw [hcalls] at hcall'
    have hupdated : Function.update s.calls p none q = some call' := hcall'
    rw [Function.update_apply] at hupdated
    split_ifs at hupdated with hq
    exact ⟨hq, hupdated⟩
  exact {
    served := by
      rw [hserved]
      exact h.served_snoc le_rfl (h.bound hcall)
    known := fun key => by
      rw [hrounds]
      exact h.known_snoc (by simp) key
    cached := fun k e he => by
      rw [hrounds]
      rcases hentries he with ⟨rfl, -⟩ | ⟨-, hbefore⟩
      · exact (h.known _).mpr ⟨_, hreserved, rfl, rfl⟩
      · exact h.cached k e hbefore
    unique := h.unique_snoc (by simp)
    live := fun q call' hcall' =>
      List.mem_append_left _ (h.live q call' (hlive q call' hcall').2)
    unended := fun q call' hcall' y hy hq reply' => by
      obtain ⟨hne, hbefore⟩ := hlive q call' hcall'
      rcases mem_snoc hy with hmem | rfl
      · exact h.unended q call' hbefore y hmem hq reply'
      · exact absurd hq.symm hne
    waiting := fun q call' hcall' hrunning y hy hstarted => by
      rcases mem_snoc hy with hmem | rfl
      · exact h.waiting q call' (hlive q call' hcall').2 hrunning y hmem hstarted
      · cases hstarted
    begun := by
      rw [hrounds]
      exact h.begun_snoc (by simp)
    rounds := fun y hy hwhat => by
      rcases mem_snoc hy with hmem | rfl
      · by_cases hq : y.call = p
        · -- the round of the call that ends
          have hround : y.key = call.key → y = ⟨p, call.key, call.request, .reserved⟩ :=
            h.eq_of_live hcall hmem hwhat
          cases h.rounds y hmem hwhat with
          | live call' hlive' hkey hentry =>
            rw [hq, hcall] at hlive'
            cases hlive'
            cases hround hkey.symm
            cases reply with
            | none => exact .abandoned ((habandoned _).mpr (Or.inl ⟨rfl, rfl⟩))
            | some r =>
              refine .ended r (by rw [hcalls]; exact Function.update_self ..)
                (fun z hz hcallz reply' hreply' => ?_) fun e he => ?_
              · rcases mem_snoc hz with hzmem | rfl
                · exact absurd hreply' (h.unended p call hcall z hzmem hcallz reply')
                · cases hreply'
                  rfl
              · rcases hentries he with ⟨-, r', hr', rfl⟩ | ⟨hne, -⟩
                · cases hr'
                  exact ⟨_, rfl, rfl, rfl⟩
                · exact absurd rfl (hne (by simp))
          | abandoned hgone => exact .abandoned ((habandoned _).mpr (Or.inr hgone))
          | ended r hgone _ _ =>
            rw [hq, hcall] at hgone
            cases hgone
        · -- another round: its entry is the one it had
          refine (h.rounds y hmem hwhat).snoc ?_ (fun e he => ?_)
            (fun k hk => (habandoned k).mpr (Or.inr hk)) fun hsame => absurd hsame.symm hq
          · rw [hcalls]
            exact Function.update_of_ne hq _ _
          · rcases hentries he with ⟨hkey, -⟩ | ⟨-, hbefore⟩
            · exact absurd (congrArg Seen.call (h.eq_of_live hcall hmem hwhat hkey)) hq
            · exact hbefore
      · cases hwhat }

/-- A round that is reserved and not lost has its entry: a reservation, or the response of the
one call that has reserved it. -/
theorem Inv.found (h : Inv seen s) (hkept : ¬ Lost s key) (hx : x ∈ seen)
    (hreserved : x.what = .reserved) (hkey : x.key = key) :
    (s.cache.get? key = some none ∧ ∀ y ∈ seen, y.call = x.call → ∀ reply, y.what ≠ .ended reply) ∨
      ∃ response, s.cache.get? key = some (some response) ∧
        response.cnfSha256 = x.request.cnfSha256 ∧
          ∀ y ∈ seen, y.call = x.call → ∀ reply, y.what = .ended reply →
            reply = some response.reply := by
  subst hkey
  have hknown : x.key ∈ s.reserved := (h.known _).mpr ⟨x, hx, hreserved, rfl⟩
  obtain ⟨hentry, hunabandoned⟩ : s.cache.get? x.key ≠ none ∧ x.key ∉ s.abandoned :=
    ⟨fun hnone => hkept ⟨hknown, Or.inl hnone⟩, fun hgone => hkept ⟨hknown, Or.inr hgone⟩⟩
  obtain ⟨e, he⟩ := Option.ne_none_iff_exists'.mp hentry
  cases h.rounds x hx hreserved with
  | live call hcall _ hnone =>
    obtain rfl := hnone e he
    exact Or.inl ⟨he, h.unended x.call call hcall⟩
  | abandoned hgone => exact absurd hgone hunabandoned
  | ended r _ hended hresponse =>
    obtain ⟨response, rfl, rfl, hdigest⟩ := hresponse e he
    exact Or.inr ⟨response, he, hdigest, hended⟩

/-- What is seen of a call that neither starts a solver nor comes to the cache is honoured. -/
theorem honoured_of_plain (hstarted : x.what ≠ .started) (harrives : ¬ x.what.Arrives)
    (hcomputed : Computed H seen x) : Honoured H seen x where
  once := fun h => absurd h hstarted
  computed := hcomputed
  oneFormula := fun _ _ _ _ h => absurd h harrives
  answered := fun _ _ _ _ h => absurd h harrives

/-- What is seen of a new reservation is honoured. -/
theorem honoured_of_fresh {request : SatChallenge} (hfresh : ∀ y ∈ seen, y.what = .reserved →
    y.key ≠ key) (hcomputed : Computed H seen ⟨p, key, request, .reserved⟩) :
    Honoured H seen ⟨p, key, request, .reserved⟩ where
  once := by simp
  computed := hcomputed
  oneFormula := fun first hfirst hwhat hkey => absurd hkey (hfresh first hfirst hwhat)
  answered := fun first hfirst hwhat hkey => absurd hkey (hfresh first hfirst hwhat)

/-- Every action keeps the promise, unless it is a call for a lost round. -/
theorem Inv.act {action : Action} (h : Inv seen s) (hkept : Kept s action)
    (hact : act H s action = some (t, new)) :
    EachAfter (fun before x => Computed H before x → Honoured H before x) seen new ∧
      Inv (seen ++ new) t := by
  cases action with
  | request caller c checkedMs admittedMs =>
    have hrequested := request_cases H s caller c checkedMs admittedMs
    rw [Option.some.inj hact] at hrequested
    -- without an entry the round is new
    have hfresh : s.cache.get? (caller, c.roundId) = none →
        (caller, c.roundId) ∉ s.reserved ∧
          ∀ y ∈ seen, y.what = .reserved → y.key ≠ (caller, c.roundId) := by
      intro hnone
      have hnew : (caller, c.roundId) ∉ s.reserved := fun hmem => hkept ⟨hmem, Or.inl hnone⟩
      exact ⟨hnew, fun y hy hwhat heq => hnew ((h.known _).mpr ⟨y, hy, hwhat, heq⟩)⟩
    cases hrequested with
    | refused reply hreply =>
      refine ⟨⟨honoured_of_plain (by simp) (by simp [What.Arrives]), trivial⟩, ?_⟩
      exact h.quiet (by simp [What.Quiet]) (Nat.lt_succ_self _) (Nat.le_succ _) (fun _ => rfl)
        rfl rfl rfl
    | turnedAway message cache entry hsame hentry hother =>
      refine ⟨⟨fun hcomputed => ⟨by simp, hcomputed, fun _ _ _ _ _ _ => ⟨message, rfl⟩, ?_⟩,
        trivial⟩, ?_⟩
      · intro first hfirst hwhat hkey _ hdigest last hlast hcall reply hended
        rcases h.found hkept hfirst hwhat hkey with
          ⟨-, hopen⟩ | ⟨response, hresponse, hfound, -⟩
        · exact absurd hended (hopen last hlast hcall reply)
        · rw [hentry, Option.some.injEq] at hresponse
          exact absurd (hfound.trans hdigest) (hother response hresponse)
      · exact h.quiet (by simp [What.Quiet]) (Nat.lt_succ_self _) (Nat.le_succ _) hsame
          rfl rfl rfl
    | cached response cache hsame hentry hdigest =>
      refine ⟨⟨fun hcomputed => ⟨by simp, hcomputed, ?_, ?_⟩, trivial⟩, ?_⟩
      · intro first hfirst hwhat hkey _ hother
        rcases h.found hkept hfirst hwhat hkey with
          ⟨hnone, -⟩ | ⟨response', hresponse, hfound, -⟩
        · rw [hentry] at hnone
          cases hnone
        · rw [hentry] at hresponse
          cases hresponse
          exact absurd (hfound.symm.trans hdigest) hother
      · intro first hfirst hwhat hkey _ _ last hlast hcall reply hended
        rcases h.found hkept hfirst hwhat hkey with
          ⟨hnone, -⟩ | ⟨response', hresponse, -, hreply⟩
        · rw [hentry] at hnone
          cases hnone
        · rw [hentry] at hresponse
          cases hresponse
          exact ⟨_, hreply last hlast hcall reply hended, rfl⟩
      · exact h.quiet (by simp [What.Quiet]) (Nat.lt_succ_self _) (Nat.le_succ _) hsame
          rfl rfl rfl
    | failed cache reply hnone hcache hreply =>
      obtain ⟨hnew, hother⟩ := hfresh hnone
      refine ⟨⟨honoured_of_fresh hother, honoured_of_plain (by simp) (by simp [What.Arrives]),
        trivial⟩, ?_⟩
      -- the call that ends before it waits is one that was live and ends
      let call : Call := ⟨(caller, c.roundId), c, ⟨0, []⟩, 0, false⟩
      have hreserved := @Inv.reserve _ _ call _ _ c h hnew rfl rfl hcache
      have hended := @Inv.finish H _ _ _ _ hreserved (Function.update_self ..) reply s.running
      have hcalls : Function.update (Function.update s.calls s.served (some call)) s.served
          none = s.calls := by
        rw [Function.update_idem]
        exact Function.update_eq_self_iff.mpr h.free.symm
      rw [hcalls] at hended
      rw [List.append_cons]
      exact hended
    | reserved cache call hnone hcache hkey hrequest hrunning hcnf =>
      obtain ⟨hnew, hother⟩ := hfresh hnone
      exact ⟨⟨honoured_of_fresh hother, trivial⟩, h.reserve hnew hkey hrequest hcache⟩
  | start p =>
    simp only [Miner.act] at hact
    split at hact
    · next call hcall =>
        split_ifs at hact with hslot
        cases hact
        refine ⟨⟨fun hcomputed => ⟨fun _ => h.waiting p call hcall hslot.1, hcomputed,
          fun _ _ _ _ harrives => harrives.elim, fun _ _ _ _ harrives => harrives.elim⟩,
            trivial⟩, ?_⟩
        exact h.begin hcall _
    · cases hact
  | finish p outcome =>
    simp only [Miner.act] at hact
    split at hact
    · next call hcall =>
        split_ifs at hact
        cases hact
        have hsolved : Inv (seen ++ seenSolved (Seen.mk p call.key call.request) outcome) s := by
          cases outcome with
          | error fault => simpa [seenSolved] using h
          | ok solution =>
            exact h.quiet (by simp [What.Quiet]) (h.bound hcall) le_rfl (fun _ => rfl) rfl rfl rfl
        rw [eachAfter_append, ← List.append_assoc]
        refine ⟨⟨?_, honoured_of_plain (by simp) (by simp [What.Arrives]), trivial⟩,
          hsolved.finish hcall _ _⟩
        cases outcome with
        | error fault => trivial
        | ok solution => exact ⟨honoured_of_plain (by simp) (by simp [What.Arrives]), trivial⟩
    · cases hact
  | cancel p =>
    simp only [Miner.act] at hact
    split at hact
    · next call hcall =>
        cases hact
        exact ⟨⟨honoured_of_plain (by simp) (by simp [What.Arrives]), trivial⟩,
          h.finish hcall none _⟩
    · cases hact

end Inv

/-! ## Runs -/

section Runs

variable {H : Host} {s t : State} {ls : List Event}

theorem shown_snoc (ls : List Event) (l : Event) : shown (ls ++ [l]) = shown ls ++ l.2 := by
  simp [shown]

theorem sound_start : Sound H [] State.start where
  cached := by simp [State.start]
  formula := by simp [State.start]

/-- In every run without a call for a lost round each round is served once. -/
theorem served_once (h : Run (fun s l t => step H s l t ∧ Kept s l.1) State.start ls t) :
    OncePerRound H (shown ls) := by
  have hall : Inv (shown ls) t ∧ Sound H (shown ls) t ∧
      EachAfter (Honoured H) [] (shown ls) := by
    refine Run.history (P := fun ls t => Inv (shown ls) t ∧ Sound H (shown ls) t ∧
      EachAfter (Honoured H) [] (shown ls)) ⟨inv_start, sound_start, trivial⟩ ?_ h
    rintro ls t l u ⟨hinv, hsound, hhonoured⟩ ⟨hact, hkept⟩
    obtain ⟨hpromised, hinv'⟩ := hinv.act hkept hact
    obtain ⟨hcomputed, hsound'⟩ := hsound.act hact
    rw [shown_snoc]
    refine ⟨hinv', hsound', eachAfter_append.mpr ⟨hhonoured, ?_⟩⟩
    exact EachAfter.both (fun _ _ hp hq => hp hq) hpromised hcomputed
  intro before x after heq
  simpa using eachAfter_iff.mp hall.2.2 before x after heq

end Runs

/-! ## A round that is lost -/

/-- A miner with room for one round and two slots, whose formulas are all decoded. -/
def smallHost : Host where
  config := ⟨PyStr.ofString "m", 1, 100, 100⟩
  maxConcurrency := 2
  responseCacheSize := 1
  challengeCommitment := fun _ => PyStr.ofString "id"
  decodeCnf := fun _ _ nVars _ => .ok ⟨nVars, []⟩
  encodeAssignment := fun _ _ => .ok "AA=="

def challenge (round : ℤ) : SatChallenge where
  protocolVersion := 1
  challengeId := PyStr.ofString "id"
  validatorHotkey := PyStr.ofString "v"
  minerHotkey := PyStr.ofString "m"
  netuid := 1
  roundId := round
  issuedAtMs := 0
  expiresAtMs := 1000
  nVars := 3
  nClauses := 1
  cnfB64 := []
  cnfSha256 := List.replicate 64 (CodePoint.ofChar 'a')

def ask (round : ℤ) : Action := .request (PyStr.ofString "v") (challenge round) 0 0

/-- The second round evicts the first one, which is then asked for again. -/
def evictingActions : List Action := [ask 1, .start 0, ask 2, ask 1, .start 2]

/-- The call of a round is cancelled, and the round is asked for again. -/
def cancellingActions : List Action := [ask 1, .start 0, .cancel 0, ask 1]

/-- What is seen of a call for a round. -/
def seenOf (call : ℕ) (round : ℤ) (what : What) : Seen :=
  ⟨call, (PyStr.ofString "v", round), challenge round, what⟩

theorem evicting_run :
    (perform (act smallHost) State.start evictingActions).map (fun r => shown r.1) =
      some [seenOf 0 1 .reserved, seenOf 0 1 .started, seenOf 1 2 .reserved, seenOf 2 1 .reserved,
        seenOf 2 1 .started] := by
  decide +kernel

theorem cancelling_run :
    (perform (act smallHost) State.start cancellingActions).map (fun r => shown r.1) =
      some [seenOf 0 1 .reserved, seenOf 0 1 .started, seenOf 0 1 (.ended none),
        seenOf 1 1 (.turnedAway ⟨"challenge already in progress", by decide⟩)] := by
  decide +kernel

/-- Two solvers are started for one round, and a round is in progress for good. -/
theorem lost_round_breaks :
    (∃ ls t, Run (step smallHost) State.start ls t ∧
      (shown ls).countP (fun x => x.what = .started ∧ x.key = (PyStr.ofString "v", 1)) = 2 ∧
        ¬ OncePerRound smallHost (shown ls)) ∧
    ∃ ls t, Run (step smallHost) State.start ls t ∧
      (shown ls).all (fun x => x.key = (PyStr.ofString "v", 1)) ∧
        ¬ OncePerRound smallHost (shown ls) := by
  constructor
  · obtain ⟨⟨ls, t⟩, hall, hshown⟩ := Option.map_eq_some_iff.mp evicting_run
    refine ⟨ls, t, Acts.run hall, by rw [hshown]; decide, fun hpromise => ?_⟩
    have hlast := hpromise [seenOf 0 1 .reserved, seenOf 0 1 .started, seenOf 1 2 .reserved,
      seenOf 2 1 .reserved] (seenOf 2 1 .started) [] hshown
    exact hlast.once rfl (seenOf 0 1 .started) (by simp) rfl rfl
  · obtain ⟨⟨ls, t⟩, hall, hshown⟩ := Option.map_eq_some_iff.mp cancelling_run
    refine ⟨ls, t, Acts.run hall, by rw [hshown]; decide, fun hpromise => ?_⟩
    have hlast := hpromise [seenOf 0 1 .reserved, seenOf 0 1 .started, seenOf 0 1 (.ended none)]
      _ [] hshown
    -- the round has been given up, and its second call is turned away
    obtain ⟨r, hreply, -⟩ := hlast.answered (seenOf 0 1 .reserved) (by simp) rfl rfl trivial rfl
      (seenOf 0 1 (.ended none)) (by simp) rfl none rfl
    cases hreply

/-- Two calls for one round, the second after the first has ended, and one for another. -/
def keptActions : List Action :=
  [ask 1, .start 0, .finish 0 (.ok ([1, 2, 3], "s")), ask 1, ask 2]

theorem kept_run :
    (perform (guarded (act smallHost) Kept) State.start keptActions).map
      (fun r => (shown r.1).map Seen.what) =
      some [.reserved, .started, .solved [1, 2, 3], .ended (some ⟨"AA==", "s", ""⟩),
        .fromCache ⟨"AA==", "s", ""⟩, .reserved] := by
  decide +kernel

/-- The second call gets the reply of the first one. -/
theorem served_once_kept :
    ∃ ls : List Event, (shown ls).map Seen.what =
      [.reserved, .started, .solved [1, 2, 3], .ended (some ⟨"AA==", "s", ""⟩),
        .fromCache ⟨"AA==", "s", ""⟩, .reserved] ∧ OncePerRound smallHost (shown ls) := by
  obtain ⟨⟨ls, t⟩, hall, hshown⟩ := Option.map_eq_some_iff.mp kept_run
  exact ⟨ls, hshown, served_once (Acts.run_of_guarded hall)⟩

end Cathedral.Thin.Miner
