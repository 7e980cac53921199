import Cathedral.Lib.Register
import Cathedral.Lib.Run
import Cathedral.Publisher.CybergymContract
import Cathedral.Publisher.Mechanisms

/-!
# Cathedral.Publisher.MechanismIntake — signed score posts

`POST /mechanisms/{mechanism_id}/scores` of `scaffold/publisher/mechanism_intake.py` over
the SQLite store of `mechanism_router.py`. A post carries its own signing time; the store
keeps one row of scores for each mechanism and replaces it at every accepted post.

`latest_claim_wins_iff` says which runs of posts keep the claim that was signed last: those
that accept no post signed before the stored one.

The signature check is a parameter. The JSON text of a stored vector stands for the
mapping that it reads back to.
-/

namespace Cathedral.Publisher.Mechanisms

open Cybergym (Interp Members field)

/-! ## The store -/

/-- A row of `mechanism_scores`. -/
structure ScoresRow where
  scores : ScoreVector
  signedAtMs : ℤ
  sigOk : Bool
  source : String

/-- `SqliteMechanismStore`, its two tables by mechanism id. -/
structure MechanismStore where
  specs : Dict String MechanismSpec
  scores : Dict String ScoresRow

def MechanismStore.getSpec (s : MechanismStore) (mechanismId : String) : Option MechanismSpec :=
  s.specs.get? mechanismId

def MechanismStore.upsertSpec (s : MechanismStore) (spec : MechanismSpec) : MechanismStore :=
  { s with specs := s.specs.set spec.mechanismId spec }

/-- `put_scores`; `none` where SQLite has no integer for the signing time. -/
def MechanismStore.putScores (s : MechanismStore) (mechanismId : String) (scores : ScoreVector)
    (info : ScoreVectorMeta) : Option MechanismStore :=
  if -2 ^ 63 ≤ info.signedAtMs ∧ info.signedAtMs < 2 ^ 63 then
    some { s with
      scores := s.scores.set mechanismId ⟨scores, info.signedAtMs, info.sigOk, info.source⟩ }
  else none

def MechanismStore.getScores (s : MechanismStore) (mechanismId : String) :
    Option (ScoreVector × ScoreVectorMeta) :=
  (s.scores.get? mechanismId).map fun row =>
    (row.scores, ⟨mechanismId, row.signedAtMs, row.sigOk, row.source⟩)

/-! ## A post -/

/-- What the intake takes from the interpreter and its libraries. -/
structure Runtime extends Interp where
  /-- Containers that `json.dumps` opens before it raises `RecursionError`. -/
  writeDepth : ℕ
  /-- `verifier.verify(hotkey, canonical, signature)`. -/
  verify : String → Bytes → String → Bool

/-- The settings of a publisher process. -/
structure Intake where
  enabled : Bool
  storeConfigured : Bool
  maxBodyBytes : ℕ
  maxScores : ℕ

structure PostRequest where
  /-- The segment of the path. -/
  mechanismId : String
  hotkey : String
  signature : String
  contentLength : Option String
  body : Bytes

/-- How a post fails: an `HTTPException`, or an exception that leaves the handler. -/
inductive Failure where
  | http (status : ℕ) (detail : String)
  | internal

structure Receipt where
  mechanismId : String
  nUids : ℕ
  signedAtMs : ℤ
  accepted : Bool
  receiptId : String

def badRequest {α : Type} (detail : String) : Except Failure α := .error (.http 400 detail)

def require (passes : Bool) (status : ℕ) (detail : String) : Except Failure Unit :=
  if passes then .ok () else .error (.http status detail)

/-- `json.dumps(body, sort_keys=True, separators=(",", ":"))`; `none` where it raises. -/
def canonicalScorePostBytes (R : Runtime) (payload : PyJson.Value) : Option Bytes :=
  if payload.fits (fun _ => true) R.writeDepth then
    some (asciiBytes (Json.render R.numeral payload.sorted))
  else none

def allowedKeys : List PyStr := ["mechanism_id", "scores", "signed_at_ms"].map PyStr.ofString

/-- A payload of the right shape: its scores and its signing time. -/
structure Shape where
  scoresRaw : Members
  signedAtMs : ℤ

/-- `_validate_shape`, up to the canonical bytes. -/
def validateShape (cfg : Intake) (payload : PyJson.Value) (pathMechanismId : PyStr) :
    Except Failure Shape := do
  let .obj members := payload | badRequest "invalid_body"
  let keys := members.map Prod.fst
  require (keys.all (· ∈ allowedKeys)) 400 "unexpected_fields"
  require (allowedKeys.all (· ∈ keys)) 400 "missing_fields"
  let some (.str bodyId) := field members "mechanism_id" | badRequest "mechanism_id_mismatch"
  require (PyStr.strip bodyId = pathMechanismId) 400 "mechanism_id_mismatch"
  let some (.obj scoresRaw) := field members "scores" | badRequest "invalid_scores"
  require (!scoresRaw.isEmpty) 400 "invalid_scores"
  require (scoresRaw.length ≤ cfg.maxScores) 400 "too_many_scores"
  let some (.num (.int signedAtMs)) := field members "signed_at_ms"
    | badRequest "invalid_signed_at_ms"
  require (0 < signedAtMs) 400 "invalid_signed_at_ms"
  pure ⟨scoresRaw, signedAtMs⟩

/-- `_UID_RE.match`: digits, and perhaps a line feed after them. -/
def isUidText (tables : UnicodeTables) (text : PyStr) : Bool :=
  let lineFeed : CodePoint := 10
  let digits := if text.getLast? = some lineFeed then text.dropLast else text
  !digits.isEmpty && digits.all fun p => (PyStr.digit? tables p).isSome

/-- One turn of the loop of `_validate_scores`. -/
def addScore (I : Interp) (out : ScoreVector) (entry : PyStr × PyJson.Value) :
    Except Failure ScoreVector := do
  require (isUidText I.numbers.tables entry.1) 400 "invalid_uid"
  -- too many digits raise a `ValueError` that nothing catches
  let some uid := PyStr.int? I.numbers.tables (PyStr.strip entry.1) | .error .internal
  let .num number := entry.2 | badRequest "invalid_score"
  let some score := I.toFloat number | .error .internal
  let .finite q := score | badRequest "invalid_score"
  require (0 ≤ q) 400 "invalid_score"
  pure (out.set uid q)

def validateScores (I : Interp) (scoresRaw : Members) : Except Failure ScoreVector :=
  scoresRaw.foldlM (addScore I) Dict.empty

def receiptId (I : Interp) (canonical : Bytes) : String :=
  "mech-" ++ String.ofList ((I.sha256Hex (encodeUtf8
    "cathedral:mechanism-intake:v1\x00".toList ++ canonical)).toList.take 32)

/-- The checks on the declared and on the real size. -/
def checkSize (I : Interp) (cfg : Intake) (r : PostRequest) : Except Failure Unit := do
  match r.contentLength with
  | none | some "" => pure ()
  | some text =>
    match PyStr.int? I.numbers.tables (PyStr.strip (PyStr.ofString text)) with
    | none => badRequest "invalid_content_length"
    | some declared =>
      require (declared ≤ cfg.maxBodyBytes) 413 "score_post_body_too_large"
  require (r.body.length ≤ cfg.maxBodyBytes) 413 "score_post_body_too_large"

/-- What an owner claims. -/
structure Claim where
  mechanismId : String
  scores : ScoreVector
  signedAtMs : ℤ

/-- What is stored with the scores of a claim. -/
def Claim.info (c : Claim) : ScoreVectorMeta := ⟨c.mechanismId, c.signedAtMs, true, "signed_post"⟩

/-- The claim of a post that passes every check of `post_scores`, with its signed bytes. -/
def checkPost (R : Runtime) (cfg : Intake) (s : MechanismStore) (r : PostRequest) :
    Except Failure (Claim × Bytes) := do
  require cfg.enabled 404 "mechanism_intake_not_enabled"
  require cfg.storeConfigured 503 "mechanism_store_not_configured"
  let pathId := PyStr.strip (PyStr.ofString r.mechanismId)
  require (!pathId.isEmpty && pathId.length ≤ 128) 400 "invalid_mechanism_id"
  checkSize R.toInterp cfg r
  let some payload := PyJson.loads R.numbers R.readDepth r.body | badRequest "invalid_json"
  let shape ← validateShape cfg payload pathId
  let some canonical := canonicalScorePostBytes R payload | .error .internal
  require (R.verify r.hotkey canonical r.signature) 401 "invalid_signature"
  let mechanismId := PyStr.display pathId
  let some spec := s.getSpec mechanismId | badRequest "unknown_mechanism_id"
  require (spec.ownerPubkey = r.hotkey) 403 "not_mechanism_owner"
  let scores ← validateScores R.toInterp shape.scoresRaw
  pure (⟨mechanismId, scores, shape.signedAtMs⟩, canonical)

/-- The route: its answer, the store after it, and the claim it has stored. -/
def postScores (R : Runtime) (cfg : Intake) (s : MechanismStore) (r : PostRequest) :
    Except Failure Receipt × MechanismStore × Option Claim :=
  match checkPost R cfg s r with
  | .error failure => (.error failure, s, none)
  | .ok (c, canonical) =>
    match s.putScores c.mechanismId c.scores c.info with
    | none => (.error (.http 500 "score_store_failed"), s, none)
    | some s' =>
      (.ok ⟨c.mechanismId, c.scores.items.length, c.signedAtMs, true,
        receiptId R.toInterp canonical⟩, s', some c)

/-! ## Runs -/

/-- A request to a publisher; the settings may differ from one to the next. -/
inductive Request where
  | post (cfg : Intake) (r : PostRequest)
  | upsert (spec : MechanismSpec)

/-- The store after a request, and the claim that the request has stored. -/
def Request.serve (R : Runtime) (s : MechanismStore) : Request → MechanismStore × Option Claim
  | .post cfg r => (postScores R cfg s r).2
  | .upsert spec => (s.upsertSpec spec, none)

/-- A request with the claim that it has stored. -/
structure Served where
  request : Request
  accepted : Option Claim

def step (R : Runtime) (s : MechanismStore) (l : Served) (t : MechanismStore) : Prop :=
  l.request.serve R s = (t, l.accepted)

/-- Requests served one after the other. -/
def serveAll (R : Runtime) (s : MechanismStore) : List Request → List Served × MechanismStore
  | [] => ([], s)
  | request :: rest =>
    let (t, claim) := request.serve R s
    let (ls, u) := serveAll R t rest
    (⟨request, claim⟩ :: ls, u)

theorem run_serveAll (R : Runtime) : ∀ (s : MechanismStore) (requests : List Request),
    Run (step R) s (serveAll R s requests).1 (serveAll R s requests).2
  | s, [] => .nil
  | s, request :: rest => by
    have hfirst : Run (step R) s [⟨request, (request.serve R s).2⟩] (request.serve R s).1 :=
      Run.single_iff.mpr rfl
    exact hfirst.append (run_serveAll R (request.serve R s).1 rest)

theorem length_serveAll (R : Runtime) : ∀ (s : MechanismStore) (requests : List Request),
    (serveAll R s requests).1.length = requests.length
  | _, [] => rfl
  | s, request :: rest => congrArg (· + 1) (length_serveAll R (request.serve R s).1 rest)

def MechanismStore.fresh (specs : Dict String MechanismSpec) : MechanismStore := ⟨specs, Dict.empty⟩

/-- The claim that a request has stored for a mechanism. -/
def Served.claim (mechanismId : String) (l : Served) : Option Claim :=
  l.accepted.filter fun c => c.mechanismId = mechanismId

/-- The accepted claims for a mechanism, in the order of their arrival. -/
def accepted (mechanismId : String) (ls : List Served) : List Claim :=
  ls.filterMap (Served.claim mechanismId)

/-- Whatever was accepted, the stored scores are those of the claim that was signed last. -/
def LatestWins (mechanismId : String) (ls : List Served) (t : MechanismStore) : Prop :=
  accepted mechanismId ls ≠ [] →
    ∃ c, Register.Newest Claim.signedAtMs (accepted mechanismId ls) c ∧
      t.getScores mechanismId = some (c.scores, c.info)

section Runs

variable {R : Runtime} {s t : MechanismStore} {ls : List Served} {mechanismId : String}

theorem putScores_eq_some {scores : ScoreVector} {info : ScoreVectorMeta}
    (h : s.putScores mechanismId scores info = some t) :
    t = { s with
      scores := s.scores.set mechanismId ⟨scores, info.signedAtMs, info.sigOk, info.source⟩ } := by
  unfold MechanismStore.putScores at h
  split_ifs at h
  exact (Option.some.inj h).symm

/-- A request stores the claim it accepts, and nothing else. -/
theorem serve_cases {request : Request} {claim : Option Claim}
    (h : request.serve R s = (t, claim)) :
    (claim = none ∧ t.scores = s.scores) ∨
      ∃ c, claim = some c ∧
        t.scores = s.scores.set c.mechanismId ⟨c.scores, c.signedAtMs, true, "signed_post"⟩ := by
  cases request with
  | upsert spec =>
    cases h
    exact Or.inl ⟨rfl, rfl⟩
  | post cfg r =>
    rw [Request.serve, postScores] at h
    split at h
    · cases h
      exact Or.inl ⟨rfl, rfl⟩
    · next c canonical _ =>
        split at h
        · cases h
          exact Or.inl ⟨rfl, rfl⟩
        · next s' hput =>
            cases h
            have hs' := putScores_eq_some hput
            exact Or.inr ⟨c, rfl, by rw [hs']; rfl⟩

theorem claim_eq_some {l : Served} {c : Claim} :
    l.claim mechanismId = some c ↔ l.accepted = some c ∧ c.mechanismId = mechanismId := by
  rw [Served.claim, Option.filter_eq_some_iff, decide_eq_true_eq]

theorem accepted_concat (l : Served) :
    accepted mechanismId (ls ++ [l]) = accepted mechanismId ls ++ (l.claim mechanismId).toList := by
  rw [accepted, List.filterMap_append, List.filterMap_cons]
  cases l.claim mechanismId <;> rfl

/-- The row of a mechanism is that of the claim accepted last. -/
theorem getScores_of_run {specs : Dict String MechanismSpec}
    (h : Run (step R) (MechanismStore.fresh specs) ls t) :
    t.getScores mechanismId =
      (accepted mechanismId ls).getLast?.map fun c => (c.scores, c.info) := by
  refine Run.history (P := fun ls t => t.getScores mechanismId =
    (accepted mechanismId ls).getLast?.map fun c => (c.scores, c.info)) rfl ?_ h
  intro ls s l t ih hstep
  rw [accepted_concat]
  by_cases hclaim : ∃ c, l.claim mechanismId = some c
  · -- the row is replaced
    obtain ⟨c, hc⟩ := hclaim
    obtain ⟨haccepted, hid⟩ := claim_eq_some.mp hc
    rcases serve_cases hstep with ⟨hnone, -⟩ | ⟨c', hc', hscores⟩
    · rw [haccepted] at hnone
      cases hnone
    · obtain rfl : c = c' := Option.some.inj (haccepted.symm.trans hc')
      rw [hc, Option.toList_some, List.getLast?_concat, MechanismStore.getScores, hscores, hid,
        Dict.get?_set_self, Option.map_some, Option.map_some, Claim.info, hid]
  · have hnone : l.claim mechanismId = none := Option.eq_none_iff_forall_ne_some.mpr
      fun c hc => hclaim ⟨c, hc⟩
    rw [hnone, Option.toList_none, List.append_nil, ← ih]
    unfold MechanismStore.getScores
    rcases serve_cases hstep with ⟨-, hscores⟩ | ⟨c, hc, hscores⟩
    · rw [hscores]
    · -- a row of another mechanism
      have hid : c.mechanismId ≠ mechanismId := fun hid => hclaim ⟨c, claim_eq_some.mpr ⟨hc, hid⟩⟩
      rw [hscores, Dict.get?_set_ne _ _ hid]

/-- The stored scores are those of the claim signed last, as a law of the accepted claims. -/
theorem latestWins_iff {specs : Dict String MechanismSpec}
    (h : Run (step R) (MechanismStore.fresh specs) ls t) :
    (∀ before after, ls = before ++ after →
      ∀ s, Run (step R) (MechanismStore.fresh specs) before s → LatestWins mechanismId before s) ↔
    ∀ before after, accepted mechanismId ls = before ++ after →
      ∀ w ∈ before.getLast?, Register.Newest Claim.signedAtMs before w := by
  constructor
  · intro hall before after hsplit w hw
    obtain ⟨ls₁, ls₂, rfl, rfl, -⟩ := List.filterMap_eq_append_iff.mp hsplit
    change w ∈ (accepted mechanismId ls₁).getLast? at hw
    obtain ⟨s, hs, -⟩ := h.split
    obtain ⟨c, hc, hstored⟩ := hall ls₁ ls₂ rfl s hs (List.ne_nil_of_mem (List.mem_of_getLast? hw))
    -- the stored claim is the last one, so both were signed at one time
    rw [getScores_of_run hs, Option.mem_def.mp hw, Option.map_some] at hstored
    have hsigned : w.signedAtMs = c.signedAtMs :=
      congrArg (fun entry => entry.2.signedAtMs) (Option.some.inj hstored)
    exact ⟨List.mem_of_getLast? hw, fun x hx => hsigned ▸ hc.le x hx⟩
  · intro hall before after hsplit s hs hne
    obtain ⟨w, hw⟩ : ∃ w, (accepted mechanismId before).getLast? = some w :=
      Option.ne_none_iff_exists'.mp fun hnone => hne (List.getLast?_eq_none_iff.mp hnone)
    refine ⟨w, hall _ (accepted mechanismId after) ?_ w hw, ?_⟩
    · rw [hsplit]
      exact List.filterMap_append
    · rw [getScores_of_run hs, hw, Option.map_some]

/-- No post is accepted that was signed before the stored one, as a law of the accepted claims. -/
theorem signedInOrder_iff {specs : Dict String MechanismSpec}
    (h : Run (step R) (MechanismStore.fresh specs) ls t) :
    (∀ before l after, ls = before ++ l :: after →
      ∀ s, Run (step R) (MechanismStore.fresh specs) before s →
        ∀ c, l.accepted = some c → c.mechanismId = mechanismId →
          ∀ entry ∈ s.getScores mechanismId, entry.2.signedAtMs ≤ c.signedAtMs) ↔
    ∀ before x after, accepted mechanismId ls = before ++ x :: after →
      ∀ w ∈ before.getLast?, w.signedAtMs ≤ x.signedAtMs := by
  constructor
  · intro hall before c after hsplit w hw
    obtain ⟨ls₁, rest, rfl, rfl, hrest⟩ := List.filterMap_eq_append_iff.mp hsplit
    obtain ⟨skipped, l, ls₂, rfl, hskipped, hl, -⟩ := List.filterMap_eq_cons_iff.mp hrest
    -- the requests in between have stored nothing for the mechanism
    have hparts : ls₁ ++ (skipped ++ l :: ls₂) = (ls₁ ++ skipped) ++ l :: ls₂ := by
      rw [List.append_assoc]
    have hbefore : accepted mechanismId (ls₁ ++ skipped) = accepted mechanismId ls₁ := by
      rw [accepted, List.filterMap_append, List.filterMap_eq_nil_iff.mpr hskipped, List.append_nil]
      rfl
    rw [hparts] at h
    obtain ⟨s, hs, -⟩ := h.split
    obtain ⟨haccepted, hid⟩ := claim_eq_some.mp hl
    refine hall _ l ls₂ hparts s hs c haccepted hid (w.scores, w.info) ?_
    rw [getScores_of_run hs, hbefore, Option.mem_def]
    exact congrArg (Option.map _) hw
  · intro hall before l after hsplit s hs c haccepted hid entry hentry
    rw [getScores_of_run hs, Option.mem_def, Option.map_eq_some_iff] at hentry
    obtain ⟨w, hw, rfl⟩ := hentry
    refine hall _ c (accepted mechanismId after) ?_ w hw
    rw [hsplit, accepted, List.filterMap_append,
      List.filterMap_cons_some (claim_eq_some.mpr ⟨haccepted, hid⟩)]
    rfl

/-- In every run the stored scores stay those of the claim signed last, exactly when no post
is accepted that was signed before the stored one. -/
theorem latest_claim_wins_iff {specs : Dict String MechanismSpec}
    (h : Run (step R) (MechanismStore.fresh specs) ls t) :
    (∀ before after, ls = before ++ after →
      ∀ s, Run (step R) (MechanismStore.fresh specs) before s → LatestWins mechanismId before s) ↔
    ∀ before l after, ls = before ++ l :: after →
      ∀ s, Run (step R) (MechanismStore.fresh specs) before s →
        ∀ c, l.accepted = some c → c.mechanismId = mechanismId →
          ∀ entry ∈ s.getScores mechanismId, entry.2.signedAtMs ≤ c.signedAtMs := by
  rw [latestWins_iff h, signedInOrder_iff h]
  exact Register.newest_getLast_iff

end Runs

/-! ## A replayed post -/

/-- An interpreter whose signature check knows one key, which signs nothing but its posts. -/
def ownerRuntime : Runtime where
  numbers := PyStr.exactNumbers
  readDepth := 3
  floatRepr _ := []
  padsYear := true
  sha256Hex _ := ""
  hmacHex _ _ := ""
  writeDepth := 3
  verify hotkey _ signature := hotkey = "owner" && signature = "signed"

def openIntake : Intake := ⟨true, true, 65536, 8192⟩

def ownedSpec : MechanismSpec := ⟨"sat", "owner", 1 / 2, "signed", none, true, false⟩

def signedPost (body : String) : PostRequest :=
  ⟨"sat", "owner", "signed", none, encodeUtf8 body.toList⟩

def olderPost : PostRequest :=
  signedPost "\x7b\"mechanism_id\":\"sat\",\"scores\":\x7b\"1\":1\x7d,\"signed_at_ms\":1\x7d"

def newerPost : PostRequest :=
  signedPost "\x7b\"mechanism_id\":\"sat\",\"scores\":\x7b\"2\":1\x7d,\"signed_at_ms\":2\x7d"

def ownedStore : MechanismStore := MechanismStore.fresh (Dict.ofList [("sat", ownedSpec)])

def replayedRequests : List Request :=
  [.post openIntake olderPost, .post openIntake newerPost, .post openIntake olderPost]

/-- The first post, sent again, puts its scores back over those signed after it. -/
theorem replayed_post_rolls_back :
    ¬ LatestWins "sat" (serveAll ownerRuntime ownedStore replayedRequests).1
      (serveAll ownerRuntime ownedStore replayedRequests).2 := by
  have hsigned : (accepted "sat" (serveAll ownerRuntime ownedStore replayedRequests).1).map
      Claim.signedAtMs = [1, 2, 1] := by decide +kernel
  have hstored : ((serveAll ownerRuntime ownedStore replayedRequests).2.getScores "sat").map
      (·.2.signedAtMs) = some 1 := by decide +kernel
  intro h
  obtain ⟨c, hc, hentry⟩ := h fun hnone => by
    rw [hnone] at hsigned
    cases hsigned
  rw [hentry, Option.map_some, Option.some.injEq] at hstored
  obtain ⟨newer, hmem, hnewer⟩ : ∃ newer ∈ accepted "sat"
      (serveAll ownerRuntime ownedStore replayedRequests).1, newer.signedAtMs = 2 :=
    List.mem_map.mp (hsigned ▸ by simp)
  have hle := hc.le newer hmem
  have hone : c.signedAtMs = 1 := hstored
  omega

/-- After one post its claim is the one stored. -/
theorem latest_claim_wins_iff_first :
    (accepted "sat" (serveAll ownerRuntime ownedStore (replayedRequests.take 1)).1).map
      Claim.signedAtMs = [1] ∧
    LatestWins "sat" (serveAll ownerRuntime ownedStore (replayedRequests.take 1)).1
      (serveAll ownerRuntime ownedStore (replayedRequests.take 1)).2 := by
  have hrun := run_serveAll ownerRuntime ownedStore (replayedRequests.take 1)
  refine ⟨by decide +kernel, (latest_claim_wins_iff hrun).mpr ?_ _ [] (List.append_nil _).symm _ hrun⟩
  intro before l after hsplit s hs c _ _ entry hentry
  -- nothing was stored before the only post
  have hbefore : before = [] := by
    have hlength := congrArg List.length hsplit
    rw [List.length_append, List.length_cons] at hlength
    have hone := length_serveAll ownerRuntime ownedStore (replayedRequests.take 1)
    have htake : (replayedRequests.take 1).length = 1 := rfl
    exact List.length_eq_zero_iff.mp (by omega)
  subst hbefore
  rw [Run.eq_of_nil hs] at hentry
  cases hentry

end Cathedral.Publisher.Mechanisms
