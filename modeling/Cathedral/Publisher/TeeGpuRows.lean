import Cathedral.Publisher.TeeGpuCalls

/-!
# Cathedral.Publisher.TeeGpuRows — derived columns of a capacity row

Of a row of `tee_gpu_capacity` the preflight columns follow from the row itself, an active row
is eligible, and the digest is that of the stored attestation: `Row.Consistent`. Every
operation of `scaffold/publisher/tee_gpu.py` restores this for the row that it has read, and
writes it over the row that is there by then.

`rows_consistent` says that every row stays consistent through all interleavings in which a
write still fits the row that it meets (`Call.KeepsUp`); `blocked_row_active` is one in which an
update activates a row between the read and the write of another one that blocks it.
-/

namespace Cathedral.Publisher.TeeGpu

open Arena (record text)

/-! ## Consistent rows -/

structure Row.Consistent (H : Host) (E : Settings) (row : Row) : Prop where
  preflight : ∃ checkedAt,
    row.preflightStatus = (preflightCapacity H E (row.judged H) checkedAt).status ∧
      row.preflightJson = (preflightCapacity H E (row.judged H) checkedAt).blob H
  eligible : row.status = .active → row.preflightStatus = .eligible
  digest : row.attestationDigest = TeeGpu.attestationDigest H row.attestationJson

/-- A write of a call fits the row that it meets: an update would be judged on it as it was
judged on the row that was read, and does not leave it active by what was read; a provider
status and the outcome of a command meet an eligible row. -/
def Call.KeepsUp (H : Host) (E : Settings) (current : Row) : Call → Prop
  | .updating row u _ =>
    preflightCapacity H E ((u.apply H current).judged H) u.preflight.checkedAt =
        preflightCapacity H E ((u.apply H row).judged H) u.preflight.checkedAt ∧
      (u.status = none → current.status = .active →
        row.status = .active ∨ u.preflight.status = .eligible)
  | .providing _ _ _ => current.preflightStatus = .eligible
  | .ended _ _ => current.preflightStatus = .eligible
  | _ => True

instance (H : Host) (E : Settings) (current : Row) (call : Call) :
    Decidable (call.KeepsUp H E current) := by
  cases call <;> dsimp only [Call.KeepsUp] <;> infer_instance

/-- The write of an action, if it makes one, fits the row that it meets. -/
def KeepsUp (H : Host) (E : Settings) (s : State) : Action → Prop
  | .next c _ _ =>
    ∀ call ∈ s.calls.get? c, ∀ current ∈ s.rows.get? call.1, call.2.KeepsUp H E current
  | _ => True

instance (H : Host) (E : Settings) (s : State) (action : Action) :
    Decidable (KeepsUp H E s action) := by
  cases action <;> dsimp only [KeepsUp] <;> infer_instance

section Invariant

variable {H : Host} {E : Settings} {s t : State} {ls : List Label}

/-- What a call promises of the row that it holds. -/
def Call.Sound (H : Host) (E : Settings) : Call → Prop
  | .creating _ row => row.Consistent H E
  | .updating row u _ => (∃ (patch : Patch H) (now : UtcTime), u = patch.updates row E now) ∧
      (u.status = some .active → u.preflight.status = .eligible)
  | _ => True

structure Inv (H : Host) (E : Settings) (s : State) : Prop where
  rows : ∀ id row, s.rows.get? id = some row → row.Consistent H E
  calls : ∀ c id call, s.calls.get? c = some (id, call) → call.Sound H E

theorem offeredStatus_active {offer : Offer} {verdict : Verdict}
    (h : offeredStatus H offer verdict = .active) : verdict = .eligible := by
  by_contra hne
  unfold offeredStatus at h
  dsimp only at h
  generalize (if offer.byAdmin = true then _ else Status.pending) = requested at h
  by_cases hactive : requested = .active
  · rw [if_pos ⟨hactive, hne⟩] at h
    cases h
  · rw [if_neg fun hif => hactive hif.1] at h
    exact hactive h

/-- The row of an offer is consistent before it is merged. -/
theorem offeredRow_consistent {offer : Offer} {requestExists : PyStr → PyStr → Bool} {now : UtcTime}
    {id : PyStr} {row : Row} (h : offeredRow H E offer requestExists now = .ok (id, row)) :
    row.Consistent H E := by
  obtain ⟨nodeId, -, h⟩ := bind_eq_ok.mp h
  obtain ⟨gpuShortRef, -, h⟩ := bind_eq_ok.mp h
  obtain ⟨hourlyCost, -, h⟩ := bind_eq_ok.mp h
  obtain ⟨blob, -, h⟩ := bind_eq_ok.mp h
  obtain ⟨_, -, h⟩ := bind_eq_ok.mp h
  obtain ⟨_, -, h⟩ := bind_eq_ok.mp h
  split at h
  · cases h
    exact ⟨⟨H.iso now, rfl, rfl⟩, offeredStatus_active, rfl⟩
  · cases h

theorem resubmitted_consistent {row existing : Row} (h : row.Consistent H E) :
    (row.resubmitted existing).Consistent H E where
  preflight := h.preflight
  eligible hactive := by
    by_contra hne
    -- the status that is kept is active, and the last test of the merge is for that
    dsimp only [Row.resubmitted] at hactive hne
    by_cases hif : (if row.Changes existing ∧ existing.status.reopens then Status.pending
        else existing.status) = .active ∧ row.preflightStatus ≠ .eligible
    · rw [if_pos hif] at hactive
      cases hactive
    · rw [if_neg hif] at hactive
      exact hif ⟨hactive, hne⟩
  digest := h.digest

theorem createdRow_consistent {byAdmin : Bool} {row : Row} {current : Option Row}
    (h : row.Consistent H E) : (createdRow byAdmin row current).Consistent H E := by
  cases current with
  | none => exact h
  | some existing =>
    rw [createdRow]
    split
    · exact h
    · exact resubmitted_consistent h

/-- An update that fits a consistent row leaves it consistent. -/
theorem apply_consistent {row current : Row} {u : Updates} {after : Option Payload}
    (hsound : (Call.updating row u after).Sound H E) (hcurrent : current.Consistent H E)
    (hkeeps : (Call.updating row u after).KeepsUp H E current) :
    (u.apply H current).Consistent H E := by
  obtain ⟨⟨patch, now, rfl⟩, hexplicit⟩ := hsound
  obtain ⟨hsame, hactive⟩ := hkeeps
  have hplanned : (patch.updates row E now).preflight = preflightCapacity H E
      (((patch.updates row E now).apply H current).judged H) (H.iso now) :=
    (patch.preflight_apply row now).symm.trans hsame.symm
  refine ⟨⟨H.iso now, congrArg Preflight.status hplanned, congrArg (Preflight.blob H) hplanned⟩,
    fun hstatus => ?_, ?_⟩
  · have happlied : (patch.updates row E now).status.getD current.status = .active := hstatus
    show (patch.updates row E now).preflight.status = .eligible
    cases hset : (patch.updates row E now).status with
    | some status =>
      rw [hset, Option.getD_some] at happlied
      exact hexplicit (hset.trans (congrArg some happlied))
    | none =>
      rw [hset, Option.getD_none] at happlied
      rcases hactive hset happlied with hrow | heligible
      · exact Patch.eligible_of_status_none hset hrow
      · exact heligible
  · show patch.attestation.elim current.attestationDigest (attestationDigest H) =
      attestationDigest H (patch.attestation.getD current.attestationJson)
    cases patch.attestation with
    | none => exact hcurrent.digest
    | some blob => rfl

/-- A write that changes neither what is judged nor the digest. -/
theorem Row.Consistent.of_eligible {row row' : Row} (h : row.Consistent H E)
    (hjudged : row'.judged H = row.judged H) (hstatus : row'.preflightStatus = row.preflightStatus)
    (hjson : row'.preflightJson = row.preflightJson)
    (hdigest : row'.attestationDigest = row.attestationDigest)
    (hblob : row'.attestationJson = row.attestationJson)
    (hactive : row'.status = row.status ∨ row.preflightStatus = .eligible) :
    row'.Consistent H E where
  preflight := by
    rw [hjudged, hstatus, hjson]
    exact h.preflight
  eligible := by
    rw [hstatus]
    rintro hactive'
    rcases hactive with heq | heligible
    · exact h.eligible (heq ▸ hactive')
    · exact heligible
  digest := by
    rw [hdigest, hblob]
    exact h.digest

/-- What a call writes over a consistent row is consistent. -/
theorem writes_consistent {call : Call} {now : UtcTime} {current : Option Row} {row : Row}
    (hsound : call.Sound H E) (hcurrent : ∀ found ∈ current, found.Consistent H E)
    (hkeeps : ∀ found ∈ current, call.KeepsUp H E found)
    (h : call.writes H E now current = some row) : row.Consistent H E := by
  cases call with
  | creating byAdmin offered =>
    cases h
    exact createdRow_consistent hsound
  | updating planned u after =>
    obtain ⟨found, rfl, rfl⟩ := Option.map_eq_some_iff.mp h
    exact apply_consistent hsound (hcurrent found rfl) (hkeeps found rfl)
  | providing receipt serverName at' =>
    obtain ⟨found, rfl, rfl⟩ := Option.map_eq_some_iff.mp h
    exact (hcurrent found rfl).of_eligible rfl rfl rfl rfl rfl (.inr (hkeeps found rfl))
  | listing planned timeoutSecs =>
    obtain ⟨found, rfl, hclaim⟩ := Option.bind_eq_some_iff.mp h
    split at hclaim
    · cases hclaim
      exact (hcurrent found rfl).of_eligible rfl rfl rfl rfl rfl (.inl rfl)
    · cases hclaim
  | ended planned succeeded =>
    obtain ⟨found, rfl, rfl⟩ := Option.map_eq_some_iff.mp h
    exact (hcurrent found rfl).of_eligible rfl rfl rfl rfl rfl (.inr (hkeeps found rfl))
  | _ => cases h

/-- A call that begins promises what it should. -/
theorem start_sound {request : Request} {now : UtcTime} {id : PyStr} {call : Call}
    (h : Starts H E s now request id call) : call.Sound H E := by
  cases h with
  | create h => exact offeredRow_consistent h
  | _ => trivial

/-- A call goes on soundly: only a plan is a new promise. -/
theorem follows_sound {call after : Call} {now : UtcTime} {current : Option Row}
    {events : List Event} {oracle : Oracle}
    (h : Follows H E now current events oracle call after) : after.Sound H E := by
  cases h with
  | plan h =>
    obtain ⟨-, patch, -, -, hu, hexplicit⟩ := planUpdate_eq_ok h
    exact ⟨⟨patch, now, hu⟩, hexplicit⟩
  | _ => trivial

theorem inv_initial : Inv H E initial where
  rows id row h := by cases h
  calls c id call h := by cases h

theorem inv_step {l : Label} (hinv : Inv H E s) (h : Step H E s l t) (hkeeps : KeepsUp H E s l.1) :
    Inv H E t := by
  cases h with
  | requested h => exact ⟨hinv.rows, hinv.calls⟩
  | began hfree h =>
    refine ⟨hinv.rows, fun k id' call' hget => ?_⟩
    rw [Dict.get?_set] at hget
    split at hget
    · cases hget
      exact start_sound (start_cases h)
    · exact hinv.calls k id' call' hget
  | @went c oracle now id call h =>
    refine ⟨fun id' row hget => ?_, fun k id' call' hget => ?_⟩
    · rcases get?_rows_step hget with ⟨rfl, hwrite⟩ | ⟨hold, -⟩
      · exact writes_consistent (hinv.calls c id' call h)
          (fun found hfound => hinv.rows id' found hfound) (hkeeps (id', call) h) hwrite
      · exact hinv.rows id' row hold
    · rcases get?_calls_step hget with ⟨-, -, hfollows⟩ | ⟨-, hold⟩
      · exact follows_sound hfollows
      · exact hinv.calls k id' call' hold
  | stopped =>
    refine ⟨hinv.rows, fun k id' call' hget => ?_⟩
    rw [get?_settle] at hget
    split at hget
    · cases hget
    · exact hinv.calls k id' call' hget

/-- Every row stays consistent while the writes fit the rows that they meet. -/
theorem rows_consistent
    (h : Run (Run.Guarded (step H E) fun s l => KeepsUp H E s l.1) initial ls t) :
    ∀ id row, t.rows.get? id = some row → row.Consistent H E :=
  (Run.invariant inv_initial (fun _ _ _ hinv hs => inv_step hinv (step_cases hs.1) hs.2) h).rows

end Invariant

/-! ## Two updates of one row -/

section Race

/-- An offer, and its activation by an admin. -/
def activation : List Action :=
  callSteps 0 (.create sampleOffer) 1 ++
    updateSteps 1 [("status", text "active")]

theorem activation_runs :
    ((perform (guarded (act sampleHost sampleSettings) (KeepsUp sampleHost sampleSettings)) initial
      activation).map fun r => (r.2.rows.get? sampleId).map fun row =>
        (row.status, row.preflightStatus)) = some (some (.active, .eligible)) := by
  decide +kernel

theorem activation_consistent :
    ∃ ls t row, Run (Run.Guarded (step sampleHost sampleSettings) fun s l =>
        KeepsUp sampleHost sampleSettings s l.1) initial ls t ∧
      t.rows.get? sampleId = some row ∧ row.status = .active ∧
        row.Consistent sampleHost sampleSettings := by
  obtain ⟨⟨ls, t⟩, hperform, hrow⟩ := Option.map_eq_some_iff.mp activation_runs
  obtain ⟨row, hget, hstatus⟩ := Option.map_eq_some_iff.mp hrow
  have hrun := Acts.run_of_guarded hperform
  exact ⟨ls, t, row, hrun, hget, (Prod.mk.inj hstatus).1, rows_consistent hrun sampleId row hget⟩

/-- An update that withdraws the authorization is planned, another one activates the row, and then
the first one is written. -/
def blockedActivation : List Action :=
  callSteps 0 (.create sampleOffer) 1 ++
    callSteps 1 (.update sampleId (record [("operator_use_authorized", .bool false)])) 1 ++
    updateSteps 2 [("status", text "active")] ++
    [.next 1 .none sampleNow]

theorem blockedActivation_runs :
    ((perform (act sampleHost sampleSettings) initial blockedActivation).map fun r =>
      (r.2.rows.get? sampleId).map fun row => (row.status, row.preflightStatus)) =
        some (some (.active, .blocked)) := by
  decide +kernel

/-- The row is active, and blocked. -/
theorem blocked_row_active :
    ∃ ls t row, Run (step sampleHost sampleSettings) initial ls t ∧
      t.rows.get? sampleId = some row ∧ ¬ row.Consistent sampleHost sampleSettings := by
  obtain ⟨⟨ls, t⟩, hperform, hrow⟩ := Option.map_eq_some_iff.mp blockedActivation_runs
  obtain ⟨row, hget, hpair⟩ := Option.map_eq_some_iff.mp hrow
  obtain ⟨hstatus, hverdict⟩ := Prod.mk.inj hpair
  refine ⟨ls, t, row, Acts.run hperform, hget, fun hconsistent => ?_⟩
  have heligible := hconsistent.eligible hstatus
  rw [hverdict] at heligible
  cases heligible

end Race

end Cathedral.Publisher.TeeGpu
