import Cathedral.Lib.Fallible
import Cathedral.Lib.PyDatetime
import Cathedral.Publisher.Mechanisms

/-!
# Cathedral.Publisher.Metagraph — who is registered, and under which uid

The snapshot table `metagraph_hotkeys` and what the mechanisms read from it:
`_load_fresh_metagraph_hotkeys` of `weights.py`, the mapping `_load_hotkey_to_uid`
that the eligibility gate and both adapters share, and `compose_eligible`.

The table has one row for a hotkey of an audience. A row is fresh when it is newer
than the cutoff, and only the eligibility gate looks at that.
-/

namespace Cathedral.Publisher.Mechanisms

/-! ## The table -/

/-- A row of `metagraph_hotkeys`. -/
structure MetagraphRow where
  uid : Option ℤ
  updatedAtIso : String
deriving DecidableEq

/-- The rows by network, netuid and hotkey. -/
abbrev Metagraph : Type := Dict (String × ℤ × String) MetagraphRow

structure Audience where
  network : String
  netuid : ℤ

/-- The exceptions that leave the composition. -/
inductive Exc where
  | overflowError
  | valueError
  | forfeitPreservationRequired (blocking : List String)
  | epochNotClosed (epoch : ℤ) (state : PyStr)
deriving DecidableEq

/-- `SELECT ... FROM metagraph_hotkeys WHERE network=? AND netuid=?`. -/
def audienceRows (g : Metagraph) (a : Audience) : List (String × MetagraphRow) :=
  (g.items.filter fun kv => kv.1.1 = a.network && kv.1.2.1 = a.netuid).map fun kv =>
    (kv.1.2.2, kv.2)

/-- `_load_hotkey_to_uid`: rows of any age. -/
def loadHotkeyToUid (g : Metagraph) (a : Audience) : Dict String ℤ :=
  Dict.ofList ((audienceRows g a).filterMap fun row => row.2.uid.map fun uid => (row.1, uid))

/-- The settings of the payable-hotkeys policy. -/
structure SnapshotSettings where
  audience : Audience
  /-- `timedelta(seconds=payable_hotkeys_max_age_secs())`, in microseconds. -/
  maxAge : ℤ
  padsYear : Bool

/-- `_ms_iso(now - timedelta(seconds=max_age))`. -/
def SnapshotSettings.cutoff (s : SnapshotSettings) (now : ℤ) : Except Exc String :=
  match UtcTime.ofMicros (now - s.maxAge) with
  | some moment => .ok (String.ofList (msIso s.padsYear moment))
  | none => .error .overflowError

structure SnapshotMeta where
  fresh : Bool
  hotkeyCount : ℕ
  updatedAt : Option String

/-- `_load_fresh_metagraph_hotkeys`; `none` when no row is fresh. -/
def loadFreshMetagraphHotkeys (s : SnapshotSettings) (g : Metagraph) (now : ℤ) :
    Except Exc (Option (List String) × SnapshotMeta) := do
  let cutoff ← s.cutoff now
  let rows := (audienceRows g s.audience).filter fun row => cutoff < row.2.updatedAtIso
  if rows = [] then pure (none, ⟨false, 0, none⟩)
  else
    pure (some (rows.map (·.1)), ⟨true, rows.length, (rows.map (·.2.updatedAtIso)).max?⟩)

/-! ## The eligibility gate -/

structure EligibilityMeta where
  audience : Audience
  registeredCount : ℕ
  eligibleUidCount : ℕ
  failClosed : Bool
  reason : String
  minStakeRequested : ℚ
  minStakeEnforced : Bool
  unmappedHotkeys : ℕ
  snapshot : SnapshotMeta

/-- `eligible_uids`: no fresh snapshot, no uid. -/
def eligibleUids (s : SnapshotSettings) (g : Metagraph) (now : ℤ) (minStake : ℚ) :
    Except Exc (Finset ℤ × EligibilityMeta) := do
  let (hotkeys, snapshot) ← loadFreshMetagraphHotkeys s g now
  match hotkeys with
  | none =>
    pure (∅, ⟨s.audience, 0, 0, true, "snapshot_unavailable", minStake, false, 0, snapshot⟩)
  | some hotkeys =>
    let hotkeyToUid := loadHotkeyToUid g s.audience
    let uids := (hotkeys.filterMap hotkeyToUid.get?).toFinset
    let unmapped := hotkeys.countP fun hotkey => (hotkeyToUid.get? hotkey).isNone
    pure (uids, ⟨s.audience, hotkeys.length, uids.card, false, "ok", minStake, minStake ≤ 0,
      unmapped, snapshot⟩)

/-- The keyword arguments that `compose_eligible` passes on. -/
structure ComposeArgs where
  blockSelfWeight : Bool
  maxScoreAgeMs : Option ℤ
  preserveForfeited : Bool

def ComposeArgs.options (args : ComposeArgs) (uids : Finset ℤ) (nowMs : ℤ) : Options :=
  ⟨uids, args.blockSelfWeight, args.maxScoreAgeMs, nowMs, args.preserveForfeited⟩

/-- `compose_eligible`: `compose` over the eligible uids. -/
def composeEligible (s : SnapshotSettings) (g : Metagraph) (now : ℤ) (minStake : ℚ)
    (specs : List MechanismSpec) (scores : Scores) (nowMs : ℤ) (args : ComposeArgs) :
    Except Exc (Dict ℤ ℚ × Debug × EligibilityMeta) := do
  let (uids, eligibility) ← eligibleUids s g now minStake
  match compose specs scores (args.options uids nowMs) with
  | .ok (weights, debug) => pure (weights, debug, eligibility)
  | .error e => .error (.forfeitPreservationRequired e.blocking)

/-! ## Scores by uid -/

/-- `vector[uid] = vector.get(uid, 0.0) + score` of a hotkey with a uid. -/
def creditHotkey {K : Type} (uidOf : K → Option ℤ) (vector : ScoreVector) (entry : K × ℚ) :
    ScoreVector :=
  match uidOf entry.1 with
  | none => vector
  | some uid => vector.add uid entry.2

/-- The loop of the adapters over the scored hotkeys. -/
def creditUids {K : Type} (uidOf : K → Option ℤ) (totals : Dict K ℚ) : ScoreVector :=
  totals.items.foldl (creditHotkey uidOf) Dict.empty

/-- The hotkeys that the loop drops. -/
def droppedHotkeys {K : Type} (uidOf : K → Option ℤ) (totals : Dict K ℚ) : ℕ :=
  totals.items.countP fun kv => (uidOf kv.1).isNone

theorem mem_keys_creditUids {K : Type} (uidOf : K → Option ℤ) (totals : Dict K ℚ) (uid : ℤ) :
    uid ∈ (creditUids uidOf totals).keys ↔ ∃ k ∈ totals.keys, uidOf k = some uid := by
  have hloop : ∀ (l : List (K × ℚ)) (vector : ScoreVector),
      uid ∈ (l.foldl (creditHotkey uidOf) vector).keys ↔
        uid ∈ vector.keys ∨ ∃ k ∈ l.map Prod.fst, uidOf k = some uid := by
    intro l
    induction l with
    | nil => simp
    | cons kv rest ih =>
      intro vector
      rw [List.foldl_cons, ih, creditHotkey]
      cases huid : uidOf kv.1 with
      | none => simp [huid]
      | some u =>
        have hadd : uid ∈ (vector.add u kv.2).keys ↔ uid ∈ vector.keys ∨ u = uid := by
          simp only [Dict.mem_keys, Dict.get?_add]
          by_cases heq : u = uid
          · simp [heq]
          · simp [heq]
        rw [hadd, or_assoc]
        simp [huid]
  rw [creditUids, hloop]
  simp [Dict.keys, Dict.empty]

/-! ## What the reads say -/

/-- The snapshot has a fresh row that binds a hotkey to a uid. -/
def FreshlyBinds (g : Metagraph) (a : Audience) (cutoff : String) (hotkey : String) (uid : ℤ) :
    Prop :=
  ∃ row, g.get? (a.network, a.netuid, hotkey) = some row ∧ row.uid = some uid ∧
    cutoff < row.updatedAtIso

section Reads

variable {g : Metagraph} {a : Audience}

theorem mem_audienceRows {hotkey : String} {row : MetagraphRow} :
    (hotkey, row) ∈ audienceRows g a ↔ g.get? (a.network, a.netuid, hotkey) = some row := by
  simp only [audienceRows, List.mem_map, List.mem_filter, Bool.and_eq_true, decide_eq_true_eq]
  constructor
  · rintro ⟨⟨⟨network, netuid, hk⟩, r⟩, ⟨hmem, rfl, rfl⟩, heq⟩
    obtain ⟨rfl, rfl⟩ := Prod.mk.inj heq
    exact Dict.mem_items.mp hmem
  · intro h
    exact ⟨_, ⟨Dict.mem_items.mpr h, rfl, rfl⟩, rfl⟩

theorem nodup_audienceRows (g : Metagraph) (a : Audience) :
    ((audienceRows g a).map Prod.fst).Nodup := by
  unfold audienceRows
  rw [List.map_map]
  refine List.Nodup.map_on ?_ (g.nodup.of_map.filter _)
  intro x hx y hy heq
  simp only [List.mem_filter, Bool.and_eq_true, decide_eq_true_eq] at hx hy
  refine List.inj_on_of_nodup_map g.nodup hx.1 hy.1 ?_
  exact Prod.ext (hx.2.1.trans hy.2.1.symm) (Prod.ext (hx.2.2.trans hy.2.2.symm) heq)

theorem mappedRows_sublist (rows : List (String × MetagraphRow)) :
    ((rows.filterMap fun row => row.2.uid.map fun uid => (row.1, uid)).map Prod.fst).Sublist
      (rows.map Prod.fst) := by
  induction rows with
  | nil => exact List.Sublist.slnil
  | cons row rows ih =>
    rw [List.filterMap_cons]
    cases row.2.uid with
    | none => exact ih.cons _
    | some uid => exact ih.cons_cons _

/-- A mapped hotkey has a row with a uid, of any age. -/
theorem get?_loadHotkeyToUid (g : Metagraph) (a : Audience) (hotkey : String) (uid : ℤ) :
    (loadHotkeyToUid g a).get? hotkey = some uid ↔
      ∃ row, g.get? (a.network, a.netuid, hotkey) = some row ∧ row.uid = some uid := by
  have hnodup := (nodup_audienceRows g a).sublist (mappedRows_sublist (audienceRows g a))
  have hmem : (hotkey, uid) ∈
      (audienceRows g a).filterMap (fun row => row.2.uid.map fun uid => (row.1, uid)) ↔
        ∃ row, g.get? (a.network, a.netuid, hotkey) = some row ∧ row.uid = some uid := by
    simp only [List.mem_filterMap, Option.map_eq_some_iff]
    constructor
    · rintro ⟨⟨hk, row⟩, hrow, u, hu, heq⟩
      obtain ⟨rfl, rfl⟩ := Prod.mk.inj heq
      exact ⟨row, mem_audienceRows.mp hrow, hu⟩
    · rintro ⟨row, hrow, hu⟩
      exact ⟨(hotkey, row), mem_audienceRows.mpr hrow, uid, hu, rfl⟩
  rw [← hmem, loadHotkeyToUid]
  exact ⟨Dict.mem_of_get?_ofList, Dict.get?_ofList_of_mem hnodup⟩

variable {s : SnapshotSettings} {now : ℤ}

theorem loadFresh_ok {hotkeys : Option (List String)} {snapshot : SnapshotMeta}
    (h : loadFreshMetagraphHotkeys s g now = .ok (hotkeys, snapshot)) :
    ∃ cutoff, s.cutoff now = .ok cutoff ∧ ∀ hotkey, hotkey ∈ hotkeys.getD [] ↔
      ∃ row, g.get? (s.audience.network, s.audience.netuid, hotkey) = some row ∧
        cutoff < row.updatedAtIso := by
  unfold loadFreshMetagraphHotkeys at h
  obtain ⟨cutoff, hcutoff, h⟩ := bind_eq_ok.mp h
  refine ⟨cutoff, hcutoff, fun hotkey => ?_⟩
  have hrows : hotkey ∈ ((audienceRows g s.audience).filter fun row =>
      cutoff < row.2.updatedAtIso).map (·.1) ↔
        ∃ row, g.get? (s.audience.network, s.audience.netuid, hotkey) = some row ∧
          cutoff < row.updatedAtIso := by
    simp only [List.mem_map, List.mem_filter, decide_eq_true_eq]
    constructor
    · rintro ⟨⟨hk, row⟩, ⟨hrow, hfresh⟩, rfl⟩
      exact ⟨row, mem_audienceRows.mp hrow, hfresh⟩
    · rintro ⟨row, hrow, hfresh⟩
      exact ⟨(hotkey, row), ⟨mem_audienceRows.mpr hrow, hfresh⟩, rfl⟩
  rw [← hrows]
  dsimp only at h
  split_ifs at h with hempty
  · cases h
    rw [hempty]
    exact Iff.rfl
  · cases h
    exact Iff.rfl

/-- A uid is eligible when a fresh row binds a hotkey to it. -/
theorem eligibleUids_ok {minStake : ℚ} {uids : Finset ℤ} {info : EligibilityMeta}
    (h : eligibleUids s g now minStake = .ok (uids, info)) :
    ∃ cutoff, s.cutoff now = .ok cutoff ∧ ∀ uid, uid ∈ uids ↔
      ∃ hotkey, FreshlyBinds g s.audience cutoff hotkey uid := by
  unfold eligibleUids at h
  obtain ⟨⟨hotkeys, snapshot⟩, hload, h⟩ := bind_eq_ok.mp h
  obtain ⟨cutoff, hcutoff, hfresh⟩ := loadFresh_ok hload
  refine ⟨cutoff, hcutoff, fun uid => ?_⟩
  have hmem : uid ∈ ((hotkeys.getD []).filterMap (loadHotkeyToUid g s.audience).get?).toFinset ↔
      ∃ hotkey, FreshlyBinds g s.audience cutoff hotkey uid := by
    simp only [List.mem_toFinset, List.mem_filterMap, get?_loadHotkeyToUid, hfresh]
    constructor
    · rintro ⟨hotkey, ⟨row, hrow, hage⟩, row', hrow', huid⟩
      cases Option.some.inj (hrow.symm.trans hrow')
      exact ⟨hotkey, row, hrow, huid, hage⟩
    · rintro ⟨hotkey, row, hrow, huid, hage⟩
      exact ⟨hotkey, ⟨row, hrow, hage⟩, row, hrow, huid⟩
  rw [← hmem]
  cases hotkeys <;> cases h <;> exact Iff.rfl

variable {specs : List MechanismSpec}

theorem composeEligible_compose {minStake : ℚ} {scores : Scores} {nowMs : ℤ} {args : ComposeArgs}
    {weights : Dict ℤ ℚ} {debug : Debug} {info : EligibilityMeta}
    (h : composeEligible s g now minStake specs scores nowMs args = .ok (weights, debug, info)) :
    ∃ uids, eligibleUids s g now minStake = .ok (uids, info) ∧
      compose specs scores (args.options uids nowMs) = .ok (weights, debug) := by
  unfold composeEligible at h
  obtain ⟨⟨uids, info'⟩, heligible, h⟩ := bind_eq_ok.mp h
  dsimp only at h
  split at h
  · next w d hcompose =>
      cases h
      exact ⟨uids, heligible, hcompose⟩
  · cases h

theorem composeEligible_ok {minStake : ℚ} {scores : Scores} {nowMs : ℤ} {args : ComposeArgs}
    (hargs : args.preserveForfeited = true) {weights : Dict ℤ ℚ} {debug : Debug}
    {info : EligibilityMeta}
    (h : composeEligible s g now minStake specs scores nowMs args = .ok (weights, debug, info)) :
    ∃ uids, Composed (args.options uids nowMs) scores specs weights debug := by
  obtain ⟨uids, -, hcompose⟩ := composeEligible_compose h
  obtain ⟨w, d, hcompose', hcomposed⟩ :=
    compose_composed (o := args.options uids nowMs) hargs scores specs
  rw [hcompose'] at hcompose
  cases hcompose
  exact ⟨uids, hcomposed⟩

/-- Only the time arithmetic raises here. -/
theorem loadFresh_error {e : Exc} (h : loadFreshMetagraphHotkeys s g now = .error e) :
    s.cutoff now = .error e := by
  unfold loadFreshMetagraphHotkeys at h
  rcases bind_eq_error.mp h with hcutoff | ⟨cutoff, -, h⟩
  · exact hcutoff
  · dsimp only at h
    split_ifs at h <;> cases h

theorem composeEligible_error {minStake : ℚ} {scores : Scores} {nowMs : ℤ} {args : ComposeArgs}
    (hargs : args.preserveForfeited = true) {e : Exc}
    (h : composeEligible s g now minStake specs scores nowMs args = .error e) :
    s.cutoff now = .error e := by
  unfold composeEligible at h
  rcases bind_eq_error.mp h with heligible | ⟨⟨uids, info⟩, -, h⟩
  · unfold eligibleUids at heligible
    rcases bind_eq_error.mp heligible with hload | ⟨⟨hotkeys, snapshot⟩, -, hrest⟩
    · exact loadFresh_error hload
    · cases hotkeys <;> cases hrest
  · obtain ⟨w, d, hcompose, -⟩ :=
      compose_composed (o := args.options uids nowMs) hargs scores specs
    dsimp only at h
    rw [hcompose] at h
    cases h

end Reads

end Cathedral.Publisher.Mechanisms
