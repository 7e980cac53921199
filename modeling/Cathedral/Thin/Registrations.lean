import Cathedral.Thin.Checkpoints

/-!
# Cathedral.Thin.Registrations — the fence of the owner registrations

The owner of a source subnet delegates the report keys of a class in numbered
registrations. The checkpoint of the class holds the newest one accepted, and
`enforce_registration_checkpoint` compares only registrations of the same owner
with it: a registration of another owner is a new trust root and replaces the
checkpoint whole.

So the fence is the checkpoint as long as one owner keeps registering
(`owner_sequences_fenced`), and nothing of it is left once another owner has
registered (`returning_owner_unfenced`).
-/

namespace Cathedral.Thin

/-! ## Acceptance -/

def VerifiedOwnerRegistration.checkpoint (registration : VerifiedOwnerRegistration) :
    RegistrationCheckpoint :=
  ⟨registration.ownerColdkey, registration.delegateHotkey, registration.sequence,
    registration.registrationId⟩

def enforceRegistrationCheckpoint (registration : VerifiedOwnerRegistration)
    (checkpoint : Option RegistrationCheckpoint) : Except Exc RegistrationCheckpoint :=
  match checkpoint with
  | none => pure registration.checkpoint
  | some checkpoint =>
    -- a transfer of ownership starts a line of its own
    if checkpoint.ownerColdkey ≠ registration.ownerColdkey then pure registration.checkpoint
    else if registration.sequence < checkpoint.sequence then
      fail "owner registration sequence rolled back"
    else if registration.sequence = checkpoint.sequence then
      if registration.registrationId ≠ checkpoint.registrationId then
        fail "subnet owner equivocated at an accepted sequence"
      else pure checkpoint
    else if registration.sequence = checkpoint.sequence + 1 ∧
        registration.previousRegistrationId ≠ some checkpoint.registrationId then
      fail "contiguous owner registration does not extend the accepted chain"
    else pure registration.checkpoint

/-- `load_best_owner_registration`; `mirror` is the part of
`verify_owner_registration` before the checkpoint on what `fetch_report` returns
for a location. -/
def loadBestOwnerRegistration
    (mirror : RegistrationRequest → String → Except Exc VerifiedOwnerRegistration)
    (request : RegistrationRequest) :
    Except Exc (VerifiedOwnerRegistration × RegistrationCheckpoint) :=
  match request.policy.ownerRegistration with
  | none => fail "score class does not use owner registration"
  | some registrationPolicy => do
    let (valid, errors) ← collectMirrors (registrationPolicy.locations.map fun location => do
      let registration ← mirror request location
      let checkpoint ← enforceRegistrationCheckpoint registration request.checkpoint
      pure (registration, checkpoint))
    refuse (valid = []) ("no valid owner registration for class " ++ request.policy.classId ++
      ": " ++ "; ".intercalate errors)
    selectNewest (fun item => item.1.sequence) (fun item => item.1.registrationId)
      "owner registration mirrors expose same-sequence equivocation" valid

/-- One acceptance, from the stored checkpoint to the returned one. -/
def Registers (stored : Option RegistrationCheckpoint) (registration : VerifiedOwnerRegistration)
    (returned : Option RegistrationCheckpoint) : Prop :=
  ∃ checkpoint, enforceRegistrationCheckpoint registration stored = .ok checkpoint ∧
    returned = some checkpoint

/-! ## The fence of one owner -/

def VerifiedOwnerRegistration.mark (registration : VerifiedOwnerRegistration) : Mark ℤ String :=
  ⟨registration.sequence, registration.registrationId⟩

/-- What the checkpoint fences for an owner: its mark when it is the owner's,
else nothing. -/
def ownerFence (owner : String) : Option RegistrationCheckpoint → WithBot (Mark ℤ String)
  | none => ⊥
  | some checkpoint =>
    if checkpoint.ownerColdkey = owner then
      ((⟨checkpoint.sequence, checkpoint.registrationId⟩ : Mark ℤ String) : WithBot _)
    else ⊥

/-- An accepted registration lies above what was fenced for its owner, and is
what is fenced for the owner afterwards. -/
theorem Registers.fence {stored returned : Option RegistrationCheckpoint}
    {registration : VerifiedOwnerRegistration} (h : Registers stored registration returned) :
    ownerFence registration.ownerColdkey stored ≤ registration.mark ∧
      ownerFence registration.ownerColdkey returned = registration.mark := by
  rcases h with ⟨checkpoint, h, rfl⟩
  have hown : ownerFence registration.ownerColdkey (some registration.checkpoint) =
      registration.mark := if_pos rfl
  cases stored with
  | none =>
    cases h
    exact ⟨bot_le, hown⟩
  | some old =>
    simp only [enforceRegistrationCheckpoint] at h
    split_ifs at h with hother hback hsame hid hnext
    · cases h
      refine ⟨?_, hown⟩
      rw [ownerFence, if_neg hother]
      exact bot_le
    · cases h
    · cases h
    · cases h
      rw [not_not] at hother hid
      have heq : ownerFence registration.ownerColdkey (some checkpoint) =
          registration.mark := by
        rw [ownerFence, if_pos hother, ← hid, ← hsame]
        rfl
      exact ⟨heq.le, heq⟩
    · cases h
    · cases h
      rw [not_not] at hother
      refine ⟨?_, hown⟩
      rw [ownerFence, if_pos hother]
      refine WithBot.coe_le_coe.mpr (Or.inl ?_)
      show old.sequence < registration.sequence
      omega

/-- Two registrations of one owner respect its fence: the sequence does not
decrease, and one sequence has one registration. -/
def Fenced (first second : VerifiedOwnerRegistration) : Prop :=
  first.sequence ≤ second.sequence ∧
    (second.sequence = first.sequence → second.registrationId = first.registrationId)

theorem fenced_of_mark_le {first second : VerifiedOwnerRegistration}
    (h : first.mark ≤ second.mark) : Fenced first second := by
  refine ⟨Mark.number_le h, fun hsequence => ?_⟩
  exact (congrArg Mark.id (Mark.eq_of_number_eq h hsequence.symm)).symm

/-- Over every sequence of accepted registrations, from any checkpoint: two of
one owner respect its fence when no other owner has registered between them. -/
theorem owner_sequences_fenced {stored returned : Option RegistrationCheckpoint}
    {before between after : List VerifiedOwnerRegistration}
    {first second : VerifiedOwnerRegistration}
    (hrun : Run Registers stored (before ++ first :: between ++ second :: after) returned)
    (howner : second.ownerColdkey = first.ownerColdkey)
    (hbetween : ∀ registration ∈ between, registration.ownerColdkey = first.ownerColdkey) :
    Fenced first second := by
  -- the stretch from the first registration to the second has one owner
  have hlabels : before ++ first :: between ++ second :: after =
      before ++ (first :: between ++ [second]) ++ after := by simp
  rw [hlabels] at hrun
  rcases hrun.split with ⟨_, hrun, _⟩
  rcases hrun.split with ⟨_, _, hstretch⟩
  have hsame : ∀ registration ∈ first :: between ++ [second],
      registration.ownerColdkey = first.ownerColdkey := by
    intro registration hmem
    rcases List.mem_append.mp hmem with hmem | hmem
    · rcases List.mem_cons.mp hmem with rfl | hmem
      · rfl
      · exact hbetween registration hmem
    · rw [List.mem_singleton] at hmem
      exact hmem ▸ howner
  have hsorted := Run.marks_monotone (ownerFence first.ownerColdkey)
    (fun registration : VerifiedOwnerRegistration => (registration.mark : WithBot _))
    (by
      rintro old registration new ⟨hregistration, hstep⟩
      rcases hstep.fence with ⟨habove, hnew⟩
      rw [hregistration] at habove hnew
      exact ⟨habove, hnew.ge⟩)
    (hstretch.restrict hsame)
  rw [List.map_append, List.map_cons, List.cons_append, List.pairwise_cons] at hsorted
  have hle := hsorted.1 (second.mark : WithBot (Mark ℤ String)) (by simp)
  exact fenced_of_mark_le (WithBot.coe_le_coe.mp hle)

/-- The registration of `owner` at a sequence. -/
def registrationBy (owner : String) (sequence : ℤ) (id : String) (previous : Option String) :
    VerifiedOwnerRegistration where
  sourceNetuid := 5
  targetNetuid := 39
  ownerColdkey := owner
  delegateHotkey := "delegate"
  sourceId := "source"
  classIds := ["external_class"]
  reportLocations := []
  reportKeys := ∅
  sequence
  previousRegistrationId := previous
  registrationId := id
  validFromBlock := 0
  validUntilBlock := 100

theorem registers_of_eq {stored : Option RegistrationCheckpoint}
    {registration : VerifiedOwnerRegistration}
    (h : enforceRegistrationCheckpoint registration stored = .ok registration.checkpoint) :
    Registers stored registration (some registration.checkpoint) := ⟨_, h, rfl⟩

theorem owner_sequences_fenced_rotation :
    Fenced (registrationBy "a" 3 "a3" none) (registrationBy "a" 7 "a7" none) := by
  have hrun : Run Registers none ([registrationBy "b" 9 "b9" none] ++
      registrationBy "a" 3 "a3" none :: [registrationBy "a" 4 "a4" (some "a3")] ++
      registrationBy "a" 7 "a7" none :: [])
      (some (registrationBy "a" 7 "a7" none).checkpoint) :=
    (((Run.nil.snoc (registers_of_eq rfl)).snoc (registers_of_eq (by decide))).snoc
      (registers_of_eq (by decide))).snoc (registers_of_eq (by decide))
  refine owner_sequences_fenced hrun rfl ?_
  intro registration hmem
  rw [List.mem_singleton] at hmem
  exact hmem ▸ rfl

/-- Ownership goes from `a` to `b` and back: `a` is accepted at a lower sequence,
and at the old sequence with another registration. -/
theorem returning_owner_unfenced :
    (∃ returned, Run Registers none
        [registrationBy "a" 5 "a5" none, registrationBy "b" 0 "b0" none,
          registrationBy "a" 4 "a4" none] returned) ∧
      ¬ Fenced (registrationBy "a" 5 "a5" none) (registrationBy "a" 4 "a4" none) ∧
    (∃ returned, Run Registers none
        [registrationBy "a" 5 "a5" none, registrationBy "b" 0 "b0" none,
          registrationBy "a" 5 "other" none] returned) ∧
      ¬ Fenced (registrationBy "a" 5 "a5" none) (registrationBy "a" 5 "other" none) := by
  refine ⟨⟨some (registrationBy "a" 4 "a4" none).checkpoint, ?_⟩,
    fun h => absurd h.1 (by decide),
    ⟨some (registrationBy "a" 5 "other" none).checkpoint, ?_⟩, fun h => ?_⟩
  · exact ((Run.nil.snoc (registers_of_eq rfl)).snoc (registers_of_eq (by decide))).snoc
      (registers_of_eq (by decide))
  · exact ((Run.nil.snoc (registers_of_eq rfl)).snoc (registers_of_eq (by decide))).snoc
      (registers_of_eq (by decide))
  · exact absurd (h.2 rfl) (by decide)

end Cathedral.Thin
