import Cathedral.Lib.Run
import Cathedral.Publisher.Queue

/-!
# Cathedral.Publisher.Leases — receipts and locks over every schedule

Clients admit submissions, workers claim rows and close them, in any order; a
worker may close a row long after its lock expired. `Step` lists the writes
with what each returned.
-/

namespace Cathedral.Publisher.Leases

variable {settings : Settings}

/-! ## The system -/

/-- A transaction on the attempts table, with its result. -/
inductive Action where
  | admission (limits : Option QueueBackpressure) (receiptId : String) (adm : Admission)
      (outcome : AdmitOutcome)
  | admitShadow (receiptId : String) (adm : Admission) (inlineMarker : String) (now : Millis)
  | inline (attemptId : String) (row : Attempt)
  | claim (workerId : String) (now lockDeadline : Millis) (batchSize : ℕ)
      (claimed : List (String × Attempt))
  | reject (receiptId reason : String) (now : Millis)
  | rank (receiptId rowUuid : String) (now : Millis) (rank : ℕ) (score : ℚ)
  | shadow (receiptId : String) (err : Option String) (now : Millis)

/-- What a verified signature guarantees of a hotkey: it is an account address. -/
def IsHotkey (minerHotkey : String) : Prop :=
  '\x00' ∉ minerHotkey.toList ∧ minerHotkey ≠ "shadow"

/-- The steps. Receipt ids are newly generated, and a lock never ends before it
begins; the finalisers write by receipt id without looking at the row. -/
inductive Step (settings : Settings) : Attempts → Action → Attempts → Prop where
  | admission {t t' : Attempts} {limits : Option QueueBackpressure} {receiptId : String}
      {adm : Admission} {outcome : AdmitOutcome} :
      IsHotkey adm.minerHotkey → t.get? receiptId = none →
      admitPending limits t receiptId (adm.key settings) adm = (t', outcome) →
      Step settings t (.admission limits receiptId adm outcome) t'
  | admitShadow {t : Attempts} {receiptId inlineMarker : String} {adm : Admission} {now : Millis} :
      t.get? receiptId = none →
      Step settings t (.admitShadow receiptId adm inlineMarker now)
        (admitPmShadow t receiptId (adm.shadowKey settings) adm inlineMarker now)
  /-- The request path records its own verdict, without a key. -/
  | inline {t : Attempts} {attemptId : String} {row : Attempt} :
      t.get? attemptId = none → row.idempotencyKey = none →
      Step settings t (.inline attemptId row) (t.set attemptId row)
  | claim {t t' : Attempts} {workerId : String} {now lockDeadline : Millis} {batchSize : ℕ}
      {claimed : List (String × Attempt)} :
      now ≤ lockDeadline →
      claimPending settings t workerId now lockDeadline batchSize = (t', claimed) →
      Step settings t (.claim workerId now lockDeadline batchSize claimed) t'
  | reject {t : Attempts} {receiptId reason : String} {now : Millis} :
      Step settings t (.reject receiptId reason now) (markRejected t receiptId reason now)
  | rank {t : Attempts} {receiptId rowUuid : String} {now : Millis} {rank : ℕ} {score : ℚ} :
      Step settings t (.rank receiptId rowUuid now rank score)
        (markRanked t receiptId rowUuid now rank score)
  | shadow {t : Attempts} {receiptId : String} {err : Option String} {now : Millis} :
      Step settings t (.shadow receiptId err now) (markShadow t receiptId err now)

/-! ## Claims -/

instance : Std.Total claimBefore where
  total a b := by
    unfold claimBefore
    rcases a with ⟨x, a⟩
    rcases b with ⟨y, b⟩
    cases ha : a.receivedAt <;> cases hb : b.receivedAt
    · exact String.le_total x y
    · exact Or.inl trivial
    · exact Or.inr trivial
    · next s t =>
        rcases lt_trichotomy s t with hlt | heq | hgt
        · exact Or.inl (Or.inl hlt)
        · exact (String.le_total x y).imp (fun h => Or.inr ⟨heq, h⟩) fun h => Or.inr ⟨heq.symm, h⟩
        · exact Or.inr (Or.inl hgt)

instance : IsTrans (String × Attempt) claimBefore where
  trans a b c hab hbc := by
    unfold claimBefore at *
    rcases a with ⟨x, a⟩
    rcases b with ⟨y, b⟩
    rcases c with ⟨z, c⟩
    cases ha : a.receivedAt <;> cases hb : b.receivedAt <;> cases hc : c.receivedAt <;>
      simp only [ha, hb, hc] at hab hbc ⊢
    · exact String.le_trans hab hbc
    · rcases hab with hlt | ⟨rfl, hle⟩
      · rcases hbc with hlt' | ⟨rfl, -⟩
        · exact Or.inl (hlt.trans hlt')
        · exact Or.inl hlt
      · rcases hbc with hlt' | ⟨rfl, hle'⟩
        · exact Or.inl hlt'
        · exact Or.inr ⟨rfl, String.le_trans hle hle'⟩

variable {t t' : Attempts} {now lockDeadline : Millis} {batchSize : ℕ}

theorem mem_claimSelection {row : String × Attempt} (h : row ∈ claimSelection t now batchSize) :
    t.get? row.1 = some row.2 ∧ row.2.claimable now = true := by
  have hmem := List.mem_insertionSort _ |>.mp (List.mem_of_mem_take h)
  rw [List.mem_filter] at hmem
  exact ⟨Dict.mem_items.mp hmem.1, hmem.2⟩

theorem claimSelection_nodup : ((claimSelection t now batchSize).map Prod.fst).Nodup := by
  have hsub : ((t.items.filter fun row => row.2.claimable now).map Prod.fst).Nodup :=
    t.nodup.sublist (List.filter_sublist.map _)
  have hperm := (List.perm_insertionSort claimBefore
    (t.items.filter fun row => row.2.claimable now)).map Prod.fst
  exact (hperm.nodup_iff.mpr hsub).sublist ((List.take_sublist _ _).map _)

/-- A claimable row left out was left out because the batch was full of rows
that come before it. -/
theorem claimSelection_oldest {row : String × Attempt} (hget : t.get? row.1 = some row.2)
    (hclaimable : row.2.claimable now = true)
    (hout : row.1 ∉ (claimSelection t now batchSize).map Prod.fst) :
    (claimSelection t now batchSize).length = batchSize ∧
      ∀ taken ∈ claimSelection t now batchSize, claimBefore taken row := by
  generalize hsorted :
    (t.items.filter fun row => row.2.claimable now).insertionSort claimBefore = sorted
  have hmem : row ∈ sorted := by
    rw [← hsorted, List.mem_insertionSort, List.mem_filter]
    exact ⟨Dict.mem_items.mpr hget, hclaimable⟩
  have hpairwise : sorted.Pairwise claimBefore := hsorted ▸ List.pairwise_insertionSort _ _
  have hselection : claimSelection t now batchSize = sorted.take batchSize := by
    rw [claimSelection, hsorted]
  rw [hselection] at hout ⊢
  have hrest : row ∈ sorted.drop batchSize := by
    rw [← List.take_append_drop batchSize sorted, List.mem_append] at hmem
    exact hmem.resolve_left fun htake => hout (List.mem_map_of_mem htake)
  constructor
  · rw [List.length_take, Nat.min_eq_left]
    by_contra hlt
    rw [List.drop_eq_nil_of_le (by omega)] at hrest
    exact List.not_mem_nil hrest
  · intro taken htaken
    rw [← List.take_append_drop batchSize sorted, List.pairwise_append] at hpairwise
    exact hpairwise.2.2 taken htaken row hrest

/-! ## What a transaction does to the table -/

/-- What a transaction does to a row that is there: its key and kind stay, a
closed row stays closed, and a lock changes only when the row is closed or when
the lock before has expired. -/
structure RowKept (a a' : Attempt) : Prop where
  key : a'.idempotencyKey = a.idempotencyKey
  kind : a'.challengeKind = a.challengeKind
  closed : a.status.terminal = true → a'.status.terminal = true
  lock : a'.status.terminal = true ∨ a'.lockedUntil = a.lockedUntil ∨
    ∃ now lockDeadline, now ≤ lockDeadline ∧ a.claimable now = true ∧
      a'.lockedUntil = some lockDeadline

theorem RowKept.refl (a : Attempt) : RowKept a a := ⟨rfl, rfl, id, Or.inr (Or.inl rfl)⟩

theorem RowKept.live {a a' : Attempt} (h : RowKept a a') : a'.live = a.live := by
  rw [Attempt.live, Attempt.live, h.kind]

/-- A transaction inserts one row, of which `new` holds, under a free id and an
unused key, or updates rows that are there. -/
inductive Change (new : Attempt → Prop) (t t' : Attempts) : Prop where
  | insert (receiptId : String) (row : Attempt) :
      new row → t.get? receiptId = none →
      (∀ k, row.idempotencyKey = some k → ∀ other a, t.get? other = some a →
        a.idempotencyKey ≠ some k) →
      t' = t.set receiptId row → Change new t t'
  | update (f : String → Attempt → Attempt) :
      (∀ receiptId, t'.get? receiptId = (t.get? receiptId).map (f receiptId)) →
      (∀ receiptId a, t.get? receiptId = some a → RowKept a (f receiptId a)) → Change new t t'

variable {new : Attempt → Prop}

theorem Change.refl (t : Attempts) : Change new t t :=
  .update (fun _ a => a) (fun receiptId => by simp) fun _ a _ => RowKept.refl a

/-- A row that is there stays there. -/
theorem Change.kept (h : Change new t t') {receiptId : String} {a : Attempt}
    (hget : t.get? receiptId = some a) :
    ∃ a', t'.get? receiptId = some a' ∧ RowKept a a' := by
  cases h with
  | insert freshId row hnew hfree hkey heq =>
    exact ⟨a, heq ▸ Dict.get?_set_of_none hfree hget, RowKept.refl a⟩
  | update f hrows hkept =>
    refine ⟨f receiptId a, ?_, hkept receiptId a hget⟩
    rw [hrows, hget, Option.map_some]

/-- A row comes from the same row before, or is the inserted one. -/
theorem Change.origin (h : Change new t t') {receiptId : String} {a' : Attempt}
    (hget : t'.get? receiptId = some a') :
    (∃ a, t.get? receiptId = some a ∧ RowKept a a') ∨ new a' := by
  cases h with
  | insert freshId row hnew hfree hkey heq =>
    rw [heq, Dict.get?_set] at hget
    split at hget
    · rw [Option.some.injEq] at hget
      exact Or.inr (hget ▸ hnew)
    · exact Or.inl ⟨a', hget, RowKept.refl a'⟩
  | update f hrows hkept =>
    rw [hrows, Option.map_eq_some_iff] at hget
    obtain ⟨a, ha, rfl⟩ := hget
    exact Or.inl ⟨a, ha, hkept receiptId a ha⟩

theorem insertAttemptIgnore_change (t : Attempts) (receiptId : String) {key : String}
    {row : Attempt} (hnew : new { row with idempotencyKey := some key }) :
    Change new t (insertAttemptIgnore t receiptId key row).1 := by
  rcases insertAttemptIgnore_cases t receiptId key row with ⟨-, heq⟩ | ⟨hfree, hkey, heq⟩
  · rw [heq]
    exact Change.refl t
  · rw [heq]
    refine .insert receiptId _ hnew hfree (fun k hk => ?_) rfl
    rw [Option.some.injEq] at hk
    exact hk ▸ hkey

theorem admitRow_fst (t : Attempts) (receiptId key : String) (adm : Admission) :
    (admitRow t receiptId key adm).1 = (insertAttemptIgnore t receiptId key
      (pendingRow adm (challengeKind adm.challengeId) none adm.receivedAt)).1 := by
  unfold admitRow
  split
  · next heq => rw [heq]
  · next heq =>
      rw [heq]
      split <;> rfl

theorem challengeKind_ne_shadow (challengeId : String) :
    challengeKind challengeId ≠ .kindPerMinerShadow := by
  unfold challengeKind
  split
  · exact nofun
  · split <;> exact nofun

/-- The row `admit_pending` inserts is live. -/
theorem admittedRow_live (adm : Admission) (key : Option String) :
    Attempt.live { pendingRow adm (challengeKind adm.challengeId) none adm.receivedAt with
      idempotencyKey := key } = true := by
  have hkind := challengeKind_ne_shadow adm.challengeId
  simpa [Attempt.live, pendingRow] using hkind

variable {limits : Option QueueBackpressure}

theorem admitPending_change (t : Attempts) (receiptId key : String) (adm : Admission) :
    Change (fun row => row.live = true) t (admitPending limits t receiptId key adm).1 := by
  unfold admitPending
  split
  · exact Change.refl t
  · split
    · exact Change.refl t
    · rw [admitRow_fst]
      exact insertAttemptIgnore_change t receiptId (admittedRow_live adm (some key))

/-- A write to one row by its id. -/
theorem modify_change (receiptId : String) {f : Attempt → Attempt}
    (hkept : ∀ a, t.get? receiptId = some a → RowKept a (f a)) :
    Change new t (t.modify receiptId f) := by
  refine .update (fun other a => if receiptId = other then f a else a) (fun other => ?_) ?_
  · rw [Dict.get?_modify]
    split
    · rfl
    · simp
  · intro other a hget
    split
    · next heq => exact hkept a (heq ▸ hget)
    · exact RowKept.refl a

theorem claimPending_change (workerId : String) (hlock : now ≤ lockDeadline) :
    Change new t (claimPending settings t workerId now lockDeadline batchSize).1 := by
  refine .update (fun other a => if other ∈ (claimSelection t now batchSize).map Prod.fst then
    claimedRow settings workerId now lockDeadline a else a) (fun other => ?_) ?_
  · simp only [claimPending]
    split
    · next hmem => exact Dict.get?_modifyAll_of_mem _ t claimSelection_nodup hmem
    · next hmem =>
        rw [Dict.get?_modifyAll_of_notMem _ t hmem]
        simp
  · intro other a hget
    split
    · next hmem =>
        obtain ⟨row, hrow, heq⟩ := List.mem_map.mp hmem
        obtain ⟨hrow, hclaimable⟩ := mem_claimSelection hrow
        rw [heq, hget, Option.some.injEq] at hrow
        subst hrow
        refine ⟨rfl, rfl, fun hterminal => ?_, Or.inr (Or.inr ⟨now, lockDeadline, hlock, ?_, rfl⟩)⟩
        · simp [Attempt.claimable, hterminal] at hclaimable
        · exact hclaimable
    · exact RowKept.refl a

/-- A shadow row with a key that a step inserts is a shadow admission's. -/
def NewRow (settings : Settings) (action : Action) (row : Attempt) : Prop :=
  row.live = false → ∀ k, row.idempotencyKey = some k → ∃ shadowId twin inlineMarker now,
    action = .admitShadow shadowId twin inlineMarker now ∧ k = twin.shadowKey settings

theorem Change.imp {new' : Attempt → Prop} (h : Change new t t')
    (himp : ∀ row, new row → new' row) :
    Change new' t t' := by
  cases h with
  | insert receiptId row hnew hfree hkey heq =>
    exact .insert receiptId row (himp row hnew) hfree hkey heq
  | update f hrows hkept => exact .update f hrows hkept

theorem step_change {action : Action} (h : Step settings t action t') :
    Change (NewRow settings action) t t' := by
  cases h with
  | @admission _ limits receiptId adm outcome hhotkey hfresh hadm =>
    have hchange : Change (fun row => row.live = true) t
        (admitPending limits t receiptId (adm.key settings) adm).1 := admitPending_change ..
    rw [hadm] at hchange
    refine hchange.imp fun row hlive hshadow => ?_
    rw [hlive] at hshadow
    cases hshadow
  | @admitShadow receiptId inlineMarker adm now hfresh =>
    refine insertAttemptIgnore_change t receiptId fun hlive k hk => ?_
    exact ⟨receiptId, adm, inlineMarker, now, rfl, (Option.some.inj hk).symm⟩
  | @inline attemptId row hfresh hkey =>
    refine .insert attemptId row (fun hlive k hk => ?_) hfresh (fun k hk => ?_) rfl
    · simp [hkey] at hk
    · simp [hkey] at hk
  | @claim _ workerId now lockDeadline batchSize claimed hlock hclaim =>
    have hchange : Change (NewRow settings (.claim workerId now lockDeadline batchSize claimed)) t
        (claimPending settings t workerId now lockDeadline batchSize).1 :=
      claimPending_change workerId hlock
    rwa [hclaim] at hchange
  | reject => exact modify_change _ fun a _ => ⟨rfl, rfl, fun _ => rfl, Or.inl rfl⟩
  | rank => exact modify_change _ fun a _ => ⟨rfl, rfl, fun _ => rfl, Or.inl rfl⟩
  | @shadow receiptId err now =>
    refine modify_change _ fun a _ => ?_
    have hclosed : (shadowRow err now a).status.terminal = true := by
      simp only [shadowRow]
      split <;> rfl
    exact ⟨rfl, rfl, fun _ => hclosed, Or.inl hclosed⟩

/-! ## The invariant -/

/-- No key names two rows. -/
def KeysUnique (t : Attempts) : Prop :=
  ∀ k one other a b, t.get? one = some a → t.get? other = some b →
    a.idempotencyKey = some k → b.idempotencyKey = some k → one = other

/-- A lock that was granted until `lockDeadline` is over only when the row is
closed; until then the row is locked at least as long. -/
def LockedPast (lockDeadline : Millis) (a : Attempt) : Prop :=
  a.status.terminal = true ∨ ∃ u, a.lockedUntil = some u ∧ lockDeadline ≤ u

/-- The hashes of live and shadow keys do not collide in a history. -/
def KeysApart (settings : Settings) (ls : List Action) : Prop :=
  ∀ limits receiptId adm outcome, Action.admission limits receiptId adm outcome ∈ ls →
    ∀ shadowId twin inlineMarker now, Action.admitShadow shadowId twin inlineMarker now ∈ ls →
      adm.key settings = twin.shadowKey settings →
        liveKeyText adm.minerHotkey adm.challengeId adm.dimacsSolutionSha256 =
          shadowKeyText twin.minerHotkey twin.challengeId twin.dimacsSolutionSha256

structure Inv (settings : Settings) (ls : List Action) (t : Attempts) : Prop where
  unique : KeysUnique t
  /-- Every receipt handed out is in the table. -/
  receipts : ∀ limits receiptId adm outcome, Action.admission limits receiptId adm outcome ∈ ls →
    ∀ r, outcome.receiptId = some r →
      ∃ a, t.get? r = some a ∧ a.live = true ∧ a.idempotencyKey = some (adm.key settings)
  /-- A shadow row with a key was admitted as one. -/
  shadows : ∀ receiptId a k, t.get? receiptId = some a → a.live = false →
    a.idempotencyKey = some k → ∃ shadowId twin inlineMarker now,
      Action.admitShadow shadowId twin inlineMarker now ∈ ls ∧ k = twin.shadowKey settings
  locks : ∀ workerId now lockDeadline batchSize claimed,
    Action.claim workerId now lockDeadline batchSize claimed ∈ ls →
      ∀ row ∈ claimed, ∃ a, t.get? row.1 = some a ∧ LockedPast lockDeadline a

/-! ## Keys -/

/-- What stands before the first separator is determined. -/
theorem left_of_separator {x : Char} :
    ∀ {l l' r r' : List Char}, x ∉ l → x ∉ l' → l ++ x :: r = l' ++ x :: r' → l = l'
  | [], [], _, _, _, _, _ => rfl
  | [], _ :: _, _, _, _, hl', h => by
    rw [List.nil_append, List.cons_append, List.cons.injEq] at h
    exact absurd (h.1 ▸ List.mem_cons_self ..) hl'
  | _ :: _, [], _, _, hl, _, h => by
    rw [List.nil_append, List.cons_append, List.cons.injEq] at h
    exact absurd (h.1 ▸ List.mem_cons_self ..) hl
  | a :: l, a' :: l', _, _, hl, hl', h => by
    rw [List.cons_append, List.cons_append, List.cons.injEq] at h
    rw [List.mem_cons, not_or] at hl hl'
    rw [h.1, left_of_separator hl.2 hl'.2 h.2]

/-- A live key text starts with a hotkey, a shadow key text with `shadow`. -/
theorem liveKeyText_ne_shadowKeyText {hotkey c sha hotkey' c' sha' : String}
    (h : IsHotkey hotkey) : liveKeyText hotkey c sha ≠ shadowKeyText hotkey' c' sha' := by
  intro heq
  have hlist := congrArg String.toList heq
  have hnul : "shadow\x00".toList = "shadow".toList ++ ['\x00'] := by decide
  have hsep : "\x00".toList = ['\x00'] := by decide
  simp only [liveKeyText, shadowKeyText, String.toList_append, hnul, hsep, List.append_assoc,
    List.cons_append, List.nil_append] at hlist
  have hshadow : '\x00' ∉ "shadow".toList := by decide
  exact h.2 (String.toList_inj.mp (left_of_separator h.1 hshadow hlist))

theorem KeysUnique.change (h : KeysUnique t) (hchange : Change new t t') : KeysUnique t' := by
  intro k one other a b ha hb hka hkb
  cases hchange with
  | insert freshId row hnew hfree hkey heq =>
    subst heq
    rw [Dict.get?_set] at ha hb
    split at ha
    · next hone =>
        split at hb
        · next hother => exact hone.symm.trans hother
        · rw [Option.some.injEq] at ha
          subst ha
          exact absurd hkb (hkey k hka other b hb)
    · split at hb
      · rw [Option.some.injEq] at hb
        subst hb
        exact absurd hka (hkey k hkb one a ha)
      · exact h k one other a b ha hb hka hkb
  | update f hrows hkept =>
    rw [hrows, Option.map_eq_some_iff] at ha hb
    obtain ⟨a₀, ha₀, rfl⟩ := ha
    obtain ⟨b₀, hb₀, rfl⟩ := hb
    rw [(hkept one a₀ ha₀).key] at hka
    rw [(hkept other b₀ hb₀).key] at hkb
    exact h k one other a₀ b₀ ha₀ hb₀ hka hkb

/-- The live row under a key is what the lookup finds. -/
theorem fetchByIdem_of_unique (hunique : KeysUnique t) {key r : String} {a : Attempt}
    (hget : t.get? r = some a) (hlive : a.live = true) (hkey : a.idempotencyKey = some key) :
    ∃ row, fetchByIdem t key = some row ∧ row.1 = r := by
  cases hfetch : fetchByIdem t key with
  | none => exact absurd ⟨hkey, hlive⟩ (fetchByIdem_eq_none hfetch hget)
  | some row =>
    obtain ⟨hrow, hrowKey, -⟩ := fetchByIdem_eq_some hfetch
    exact ⟨row, rfl, hunique key row.1 r row.2 a hrow hget hrowKey hkey⟩

/-- The receipt an admission answers with is a live row under its key, provided
no shadow row sits on the key. -/
theorem admitPending_receipt {receiptId key : String} {adm : Admission} {outcome : AdmitOutcome}
    (hfresh : t.get? receiptId = none)
    (hshadow : ∀ r a, t.get? r = some a → a.idempotencyKey = some key → a.live = true)
    (h : admitPending limits t receiptId key adm = (t', outcome)) {r : String}
    (hr : outcome.receiptId = some r) :
    ∃ a, t'.get? r = some a ∧ a.live = true ∧ a.idempotencyKey = some key := by
  unfold admitPending at h
  split at h
  · next row hfetch =>
      -- a replay
      obtain ⟨rfl, rfl⟩ := Prod.mk.inj h
      obtain ⟨hget, hkey, hlive⟩ := fetchByIdem_eq_some hfetch
      rw [AdmitOutcome.receiptId, Option.some.injEq] at hr
      exact hr ▸ ⟨row.2, hget, hlive, hkey⟩
  · next hfetch =>
      split at h
      · -- shed, no receipt
        obtain ⟨rfl, rfl⟩ := Prod.mk.inj h
        simp [AdmitOutcome.receiptId] at hr
      · unfold admitRow at h
        rcases insertAttemptIgnore_cases t receiptId key (pendingRow adm
          (challengeKind adm.challengeId) none adm.receivedAt) with ⟨htaken, heq⟩ | ⟨-, -, heq⟩
        · -- the insert cannot have lost: the id is new and the key is on no row
          rcases htaken with htaken | ⟨other, a, hget, hkey⟩
          · exact absurd hfresh htaken
          · exact absurd ⟨hkey, hshadow other a hget hkey⟩ (fetchByIdem_eq_none hfetch hget)
        · rw [heq] at h
          obtain ⟨rfl, rfl⟩ := Prod.mk.inj h
          simp only [AdmitOutcome.receiptId, fetchById, Dict.get?_set_self, Option.map_some,
            Option.some.injEq] at hr
          subst hr
          exact ⟨_, Dict.get?_set_self .., admittedRow_live adm (some key), rfl⟩

/-! ## The invariant holds -/

theorem init_inv : Inv settings [] Dict.empty where
  unique k one other a b ha := by simp at ha
  receipts limits receiptId adm outcome h := by simp at h
  shadows receiptId a k h := by simp at h
  locks workerId now lockDeadline batchSize claimed h := by simp at h

theorem KeysApart.left {ls ms : List Action} (h : KeysApart settings (ls ++ ms)) :
    KeysApart settings ls := by
  intro limits receiptId adm outcome hmem shadowId twin inlineMarker now htwin
  exact h limits receiptId adm outcome (List.mem_append_left _ hmem) shadowId twin inlineMarker now
    (List.mem_append_left _ htwin)

/-- A granted lock is still in force, or over, after every transaction. -/
theorem LockedPast.kept {a a' : Attempt} (h : LockedPast lockDeadline a) (hkept : RowKept a a') :
    LockedPast lockDeadline a' := by
  rcases h with hterminal | ⟨u, hu, hle⟩
  · exact Or.inl (hkept.closed hterminal)
  · rcases hkept.lock with hclosed | hsame | ⟨now', lockDeadline', hlock, hclaimable, hnew⟩
    · exact Or.inl hclosed
    · exact Or.inr ⟨u, hsame ▸ hu, hle⟩
    · -- the next lock begins after this one ended
      have hexpired : u ≤ now' := by
        simp only [Attempt.claimable, hu, Option.all_some, Bool.and_eq_true,
          decide_eq_true_eq] at hclaimable
        exact hclaimable.2
      exact Or.inr ⟨lockDeadline', hnew, (hle.trans hexpired).trans hlock⟩

variable {ls : List Action}

/-- No shadow row sits on the key of a live admission. -/
theorem Inv.noShadow (h : Inv settings ls t) {receiptId : String} {adm : Admission}
    {outcome : AdmitOutcome}
    (hapart : KeysApart settings (ls ++ [.admission limits receiptId adm outcome]))
    (hhotkey : IsHotkey adm.minerHotkey) {r : String} {a : Attempt} (hget : t.get? r = some a)
    (hkey : a.idempotencyKey = some (adm.key settings)) : a.live = true := by
  by_contra hlive
  rw [Bool.not_eq_true] at hlive
  obtain ⟨shadowId, twin, inlineMarker, now, htwin, hsame⟩ := h.shadows r a _ hget hlive hkey
  exact liveKeyText_ne_shadowKeyText hhotkey (hapart limits receiptId adm outcome (by simp)
    shadowId twin inlineMarker now (List.mem_append_left _ htwin) hsame)

theorem step_inv {action : Action} (hinv : Inv settings ls t)
    (hapart : KeysApart settings (ls ++ [action])) (h : Step settings t action t') :
    Inv settings (ls ++ [action]) t' := by
  have hchange := step_change h
  refine ⟨hinv.unique.change hchange, ?_, ?_, ?_⟩
  · -- receipts
    intro limits receiptId adm outcome hmem r hr
    rcases List.mem_append.mp hmem with hold | hnew
    · obtain ⟨a, hget, hlive, hkey⟩ := hinv.receipts limits receiptId adm outcome hold r hr
      obtain ⟨a', hget', hkept⟩ := hchange.kept hget
      exact ⟨a', hget', hkept.live.trans hlive, hkept.key.trans hkey⟩
    · rw [List.mem_singleton] at hnew
      subst hnew
      cases h with
      | admission hhotkey hfresh hadm =>
        refine admitPending_receipt hfresh (fun other a hget hkey => ?_) hadm hr
        exact hinv.noShadow hapart hhotkey hget hkey
  · -- shadows
    intro receiptId a k hget hlive hkey
    rcases hchange.origin hget with ⟨a₀, hget₀, hkept⟩ | hnew
    · obtain ⟨shadowId, twin, inlineMarker, now, htwin, hsame⟩ := hinv.shadows receiptId a₀ k hget₀
        (hkept.live.symm.trans hlive) (hkept.key.symm.trans hkey)
      exact ⟨shadowId, twin, inlineMarker, now, List.mem_append_left _ htwin, hsame⟩
    · obtain ⟨shadowId, twin, inlineMarker, now, rfl, hsame⟩ := hnew hlive k hkey
      exact ⟨shadowId, twin, inlineMarker, now, by simp, hsame⟩
  · -- locks
    intro workerId now lockDeadline batchSize claimed hmem row hrow
    rcases List.mem_append.mp hmem with hold | hnew
    · obtain ⟨a, hget, hpast⟩ :=
        hinv.locks workerId now lockDeadline batchSize claimed hold row hrow
      obtain ⟨a', hget', hkept⟩ := hchange.kept hget
      exact ⟨a', hget', hpast.kept hkept⟩
    · rw [List.mem_singleton] at hnew
      subst hnew
      cases h with
      | claim hlock hclaim =>
        obtain ⟨rfl, rfl⟩ := Prod.mk.inj hclaim
        obtain ⟨selected, hselected, rfl⟩ := List.mem_map.mp hrow
        obtain ⟨hget, -⟩ := mem_claimSelection hselected
        refine ⟨claimedRow settings workerId now lockDeadline selected.2, ?_,
          Or.inr ⟨lockDeadline, rfl, le_rfl⟩⟩
        rw [Dict.get?_modifyAll_of_mem _ t claimSelection_nodup (List.mem_map_of_mem hselected),
          hget, Option.map_some]

theorem run_inv (h : Run (Step settings) Dict.empty ls t) (hapart : KeysApart settings ls) :
    Inv settings ls t := by
  refine Run.history (P := fun ls t => KeysApart settings ls → Inv settings ls t)
    (fun _ => init_inv) ?_ h hapart
  intro ls t action t' ih hs hapart
  exact step_inv (ih hapart.left) hapart hs

/-! ## The laws -/

/-- What one claim takes: claimable rows, each once and at most a batch of them;
a claimable row it leaves comes after every row of a full batch. -/
structure OldestFirst (t : Attempts) (now : Millis) (batchSize : ℕ)
    (claimed : List (String × Attempt)) : Prop where
  claimable : ∀ row ∈ claimed, ∃ a, t.get? row.1 = some a ∧ a.claimable now = true
  distinct : (claimed.map Prod.fst).Nodup
  bounded : claimed.length ≤ batchSize
  oldest : ∀ row : String × Attempt, t.get? row.1 = some row.2 → row.2.claimable now = true →
    row.1 ∉ claimed.map Prod.fst → claimed.length = batchSize ∧
      ∀ taken ∈ claimed, ∀ a, t.get? taken.1 = some a → claimBefore (taken.1, a) row

theorem claimPending_oldestFirst {workerId : String} {claimed : List (String × Attempt)}
    (h : claimPending settings t workerId now lockDeadline batchSize = (t', claimed)) :
    OldestFirst t now batchSize claimed := by
  obtain ⟨-, rfl⟩ := Prod.mk.inj h
  have hids : ((claimSelection t now batchSize).map fun row =>
      (row.1, claimedRow settings workerId now lockDeadline row.2)).map Prod.fst =
        (claimSelection t now batchSize).map Prod.fst := by
    rw [List.map_map]
    rfl
  refine ⟨?_, hids ▸ claimSelection_nodup, ?_, ?_⟩
  · intro row hrow
    obtain ⟨selected, hselected, rfl⟩ := List.mem_map.mp hrow
    exact ⟨selected.2, mem_claimSelection hselected⟩
  · rw [List.length_map]
    exact List.length_take_le ..
  · intro row hget hclaimable hout
    rw [hids] at hout
    obtain ⟨hfull, hbefore⟩ := claimSelection_oldest hget hclaimable hout
    rw [List.length_map]
    refine ⟨hfull, fun taken htaken a ha => ?_⟩
    obtain ⟨selected, hselected, rfl⟩ := List.mem_map.mp htaken
    have hsame := (mem_claimSelection hselected).1
    rw [ha, Option.some.injEq] at hsame
    subst hsame
    exact hbefore selected hselected

/-- A key that is in the table is replayed, whatever the backpressure. -/
theorem admitPending_known (hunique : KeysUnique t) {receiptId key r : String} {adm : Admission}
    {outcome : AdmitOutcome} {a : Attempt} (hget : t.get? r = some a) (hlive : a.live = true)
    (hkey : a.idempotencyKey = some key)
    (h : admitPending limits t receiptId key adm = (t', outcome)) :
    ∃ row, outcome = .replayed row ∧ row.1 = r := by
  obtain ⟨row, hfetch, hrow⟩ := fetchByIdem_of_unique hunique hget hlive hkey
  rw [admitPending, hfetch] at h
  exact ⟨row, (Prod.mk.inj h).2.symm, hrow⟩

/-- The laws of a history that ends in `t`. -/
structure QueueLaws (settings : Settings) (ls : List Action) (t : Attempts) : Prop where
  /-- At most one live row per idempotency key. -/
  oneRow : ∀ k one other a b, t.get? one = some a → t.get? other = some b → a.live = true →
    b.live = true → a.idempotencyKey = some k → b.idempotencyKey = some k → one = other
  /-- Once an admission has answered with a receipt, every later one under its key
  replays that receipt, whatever the backpressure. -/
  sameReceipt : ∀ before between after limits limits' receiptId receiptId' adm adm' outcome
      outcome' r,
    ls = before ++ .admission limits receiptId adm outcome :: between ++
      .admission limits' receiptId' adm' outcome' :: after →
    adm.key settings = adm'.key settings → outcome.receiptId = some r →
      ∃ row, outcome' = .replayed row ∧ row.1 = r
  /-- A row is claimed again only when the lock of every earlier claim of it ended. -/
  exclusive : ∀ before between after workerId workerId' now now' lockDeadline lockDeadline'
      batchSize batchSize' claimed claimed',
    ls = before ++ .claim workerId now lockDeadline batchSize claimed :: between ++
      .claim workerId' now' lockDeadline' batchSize' claimed' :: after →
    ∀ row ∈ claimed, ∀ row' ∈ claimed', row.1 = row'.1 → lockDeadline ≤ now'
  oldestFirst : ∀ before after workerId now lockDeadline batchSize claimed,
    ls = before ++ .claim workerId now lockDeadline batchSize claimed :: after →
      ∃ m, Run (Step settings) Dict.empty before m ∧ OldestFirst m now batchSize claimed

/-- The laws hold of every run from an empty table. -/
theorem queue_laws (hrun : Run (Step settings) Dict.empty ls t) (hapart : KeysApart settings ls) :
    QueueLaws settings ls t := by
  refine ⟨?_, ?_, ?_, ?_⟩
  · intro k one other a b ha hb _ _ hka hkb
    exact (run_inv hrun hapart).unique k one other a b ha hb hka hkb
  · intro before between after limits limits' receiptId receiptId' adm adm' outcome outcome' r hls
      hkey hr
    subst hls
    obtain ⟨m, m', hm, hstep, -⟩ := Run.step_at hrun
    have hinv := run_inv hm hapart.left
    obtain ⟨a, hget, hlive, hrowKey⟩ := hinv.receipts limits receiptId adm outcome (by simp) r hr
    cases hstep with
    | admission hhotkey hfresh hadm =>
      exact admitPending_known hinv.unique hget hlive (hkey ▸ hrowKey) hadm
  · intro before between after workerId workerId' now now' lockDeadline lockDeadline' batchSize
      batchSize' claimed claimed' hls row hrow row' hrow' hid
    subst hls
    obtain ⟨m, m', hm, hstep, -⟩ := Run.step_at hrun
    have hinv := run_inv hm hapart.left
    obtain ⟨a, hget, hpast⟩ := hinv.locks workerId now lockDeadline batchSize claimed (by simp)
      row hrow
    cases hstep with
    | claim hlock hclaim =>
      -- the row is claimable again, so it is open and its lock has ended
      obtain ⟨a', hget', hclaimable⟩ := (claimPending_oldestFirst hclaim).claimable row' hrow'
      rw [← hid, hget, Option.some.injEq] at hget'
      subst hget'
      rcases hpast with hterminal | ⟨u, hu, hle⟩
      · simp [Attempt.claimable, hterminal] at hclaimable
      · simp only [Attempt.claimable, hu, Option.all_some, Bool.and_eq_true,
          decide_eq_true_eq] at hclaimable
        exact hle.trans hclaimable.2
  · intro before after workerId now lockDeadline batchSize claimed hls
    subst hls
    obtain ⟨m, m', hm, hstep, -⟩ := Run.step_at hrun
    cases hstep with
    | claim hlock hclaim => exact ⟨m, hm, claimPending_oldestFirst hclaim⟩

/-! ## A retried submission under two workers -/

def sampleSettings : Settings where
  sha256Hex := id
  lockWins := false
  publicRowScoreMultiplier := 1
  epochSalt := ""
  weightFor := fun _ => 1
  postgres := false

def sampleAdmission : Admission where
  minerHotkey := "5F"
  challengeId := "c1"
  dimacsSolutionSha256 := "aa"
  dimacsSolution := "s SATISFIABLE"
  submittedAt := "t"
  receivedAt := 0
  signature := "sig"
  epoch := 0
  assignmentIdentity := none

/-- A submission is admitted, retried while the queue is full, claimed, and
claimed again by a second worker once the first lock has ended. -/
theorem queue_laws_retry : ∃ ls t, ls.length = 4 ∧ t.keys = ["sub_1"] ∧
    QueueLaws sampleSettings ls t := by
  have hhotkey : IsHotkey sampleAdmission.minerHotkey := ⟨by decide, by decide⟩
  have hstart : Run (Step sampleSettings) Dict.empty [] Dict.empty := .nil
  have hadm := hstart.snoc (l := .admission none "sub_1" sampleAdmission _)
    (.admission hhotkey rfl rfl)
  have hretry := hadm.snoc (l := .admission (some ⟨1, 1, 0⟩) "sub_2" sampleAdmission _)
    (.admission hhotkey rfl rfl)
  have hclaim := hretry.snoc (l := .claim "w1" 10 120010 8 _) (.claim (by decide) rfl)
  have hreclaim := hclaim.snoc (l := .claim "w2" 120010 240010 8 _) (.claim (by decide) rfl)
  refine ⟨_, _, rfl, ?_, queue_laws hreclaim ?_⟩
  · decide +kernel
  · intro limits receiptId adm outcome _ shadowId twin inlineMarker now htwin
    simp at htwin

end Cathedral.Publisher.Leases
