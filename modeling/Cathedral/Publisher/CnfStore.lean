import Cathedral.Lib.Bytes
import Cathedral.Publisher.Bitset

/-!
# Cathedral.Publisher.CnfStore — baked formulas and the verdict on an event

`v2_cnf_store` keeps the formulas of challenges, compressed, under their ids. Issuances and
verifications bake what they generate; `verify_bitset_one` reads the formula of an event with the
digest of its token, and generates the formula again where the store has none with that digest.
-/

namespace Cathedral.Publisher.CnfStore

open Bitset

/-! ## The store -/

/-- A row of `v2_cnf_store`. -/
structure CnfRow where
  cnfSha256 : String
  cnfZlib : Bytes
  createdAt : Millis

/-- The table, under the challenge ids. -/
abbrev Store : Type := Dict String CnfRow

/-- `zlib` and the hash; `none` where `zlib.decompress` raises. -/
structure Codec where
  compress : Bytes → Bytes
  decompress : Bytes → Option Bytes
  sha256Hex : Bytes → String

/-- What is compressed is read back. -/
def Codec.Lossless (codec : Codec) : Prop :=
  ∀ raw, codec.decompress (codec.compress raw) = some raw

/-- `read_enabled` and `write_enabled`. -/
structure Switches where
  read : Bool
  write : Bool

section Store

variable (codec : Codec) (switches : Switches)

def textSha256 (text : String) : String := codec.sha256Hex (encodeUtf8 text.toList)

/-- The row that `put` inserts. -/
def bakedRow (now : Millis) (cnfText : String) : CnfRow :=
  ⟨textSha256 codec cnfText, codec.compress (encodeUtf8 cnfText.toList), now⟩

/-- `put`; one that fails leaves the store as it is. -/
def put (now : Millis) (challengeId cnfText : String) (store : Store) : Store :=
  if switches.write then (store.insertIgnore challengeId (bakedRow codec now cnfText)).1 else store

/-- The text of a row; `none` where reading it raises. -/
def CnfRow.text (row : CnfRow) : Option String :=
  (codec.decompress row.cnfZlib).bind fun raw => (decodeUtf8 raw).map String.ofList

/-- Whether a digest is demanded and not this one. -/
def refuses (expected : Option String) (sha : String) : Bool :=
  expected.any fun digest => digest ≠ "" ∧ sha ≠ digest

/-- `get`; a query that fails answers like an empty store. -/
def get (store : Store) (challengeId : String) (expected : Option String) : Option String :=
  if switches.read then do
    let row ← store.get? challengeId
    if refuses expected row.cnfSha256 then none
    else
      let cnfText ← row.text codec
      if textSha256 codec cnfText ≠ row.cnfSha256 then none
      else if refuses expected (textSha256 codec cnfText) then none
      else some cnfText
  else none

def purgeOlderThan (cutoff : Millis) (store : Store) : Store :=
  store.filterItems fun _ row => cutoff ≤ row.createdAt

/-! ## Verification over the store -/

/-- The environment of a verification that reads the store. -/
def withStore (store : Store) (env : GradeEnv) : GradeEnv :=
  { env with
    storedCnf := fun cid expected => get codec switches store cid (some expected)
    cnfSha256 := textSha256 codec }

def slotId (env : GradeEnv) (e : BitsetEvent) : String :=
  env.instanceId (env.scoringIdentity e.minerHotkey) e.epoch e.tier e.seq

/-- The formula of the slot of an event under the present configuration. -/
def generated (env : GradeEnv) (e : BitsetEvent) : Option (String × String) :=
  env.generateInstance (env.scoringIdentity e.minerHotkey) e.epoch e.tier e.seq

/-- The checks before the formula of an event is loaded. -/
def Gated (env : GradeEnv) (e : BitsetEvent) : Prop :=
  (e.epoch = env.currentEpoch ∨ e.epoch = env.currentEpoch - 1) ∧ slotId env e = e.challengeId

instance (env : GradeEnv) (e : BitsetEvent) : Decidable (Gated env e) :=
  inferInstanceAs (Decidable (_ ∧ _))

/-- The formula that a verification works on, with its digest. -/
def loaded (store : Store) (env : GradeEnv) (e : BitsetEvent) :
    Option (Except String (String × String)) :=
  loadCnf (withStore codec switches store env) e (env.scoringIdentity e.minerHotkey) (slotId env e)

/-- The store after `verify_bitset_one`: a formula that had to be generated is baked. -/
def storeAfter (env : GradeEnv) (e : BitsetEvent) (store : Store) : Store :=
  match get codec switches store (slotId env e) (some (env.lower e.cnfSha256)),
      loaded codec switches store env e with
  | none, some (.ok (cnfText, _)) =>
    if Gated env e then put codec switches env.now (slotId env e) cnfText store else store
  | _, _ => store

/-- The tables after `verify_bitset_one`. The class of an exception is that of what raised: the
generator, or what reads the loaded formula. -/
def verifyBitsetOne (bridge : Bool)
    (exception : Option (Except String (String × String)) → String) (receiptId : String)
    (store : Store) (env : GradeEnv) (e : BitsetEvent) (t : Tables) : Tables :=
  match gradeBitset (withStore codec switches store env) e with
  | some grade => finish bridge receiptId e grade env.now t
  | none => unlock receiptId (exception (loaded codec switches store env e)) t

end Store

/-- The stores that issuances, verifications and purges leave, each in its own configuration. -/
inductive Written (codec : Codec) : Store → Prop where
  | start : Written codec Dict.empty
  | issue {store : Store} (h : Written codec store) (env : GradeEnv) (switches : Switches)
      {identity challengeId cnfText : String} {epoch tier seq : ℤ}
      (hgenerated : env.generateInstance identity epoch tier seq = some (challengeId, cnfText)) :
      Written codec (put codec switches env.now challengeId cnfText store)
  | verify {store : Store} (h : Written codec store) (env : GradeEnv) (switches : Switches)
      (e : BitsetEvent) : Written codec (storeAfter codec switches env e store)
  | purge {store : Store} (h : Written codec store) (cutoff : Millis) :
      Written codec (purgeOlderThan cutoff store)

/-- The store has a formula of the event's slot with the event's digest. -/
def Hit (switches : Switches) (store : Store) (env : GradeEnv) (e : BitsetEvent) : Prop :=
  switches.read = true ∧ ∃ row, store.get? (slotId env e) = some row ∧
    row.cnfSha256 = env.lower e.cnfSha256

/-- The configuration still derives the formula of the event's token. -/
def Derives (codec : Codec) (env : GradeEnv) (e : BitsetEvent) : Prop :=
  ∃ cnfText, generated env e = some (slotId env e, cnfText) ∧
    textSha256 codec cnfText = env.lower e.cnfSha256

def texts (codec : Codec) (store : Store) : Set String :=
  {cnfText | ∃ challengeId row, store.get? challengeId = some row ∧ row.text codec = some cnfText}

/-- No two of the texts have one digest. -/
def CollisionFree (codec : Codec) (of : Set String) : Prop :=
  ∀ a ∈ of, ∀ b ∈ of, textSha256 codec a = textSha256 codec b → a = b

/-! ## What a written store serves -/

variable {codec : Codec} {switches : Switches} {store store' : Store} {env : GradeEnv}
variable {e : BitsetEvent} {challengeId expected cnfText : String}

/-- Every row has the text of its digest. -/
def Baked (codec : Codec) (store : Store) : Prop :=
  ∀ challengeId row, store.get? challengeId = some row →
    ∃ cnfText, row.text codec = some cnfText ∧ textSha256 codec cnfText = row.cnfSha256

theorem text_bakedRow (hcodec : codec.Lossless) (now : Millis) (cnfText : String) :
    (bakedRow codec now cnfText).text codec = some cnfText := by
  unfold CnfRow.text bakedRow
  rw [hcodec, Option.bind_some, decodeUtf8_encodeUtf8, Option.map_some, String.ofList_toList]

theorem baked_put (hcodec : codec.Lossless) (h : Baked codec store) (now : Millis)
    (challengeId cnfText : String) :
    Baked codec (put codec switches now challengeId cnfText store) := by
  unfold put
  split
  · intro other row hrow
    rcases store.insertIgnore_cases challengeId (bakedRow codec now cnfText) with
      ⟨-, -, heq⟩ | ⟨-, heq⟩
    · -- the first writer wins
      rw [heq] at hrow
      exact h other row hrow
    · rw [heq, Dict.get?_set] at hrow
      split at hrow
      · obtain rfl := Option.some.inj hrow
        exact ⟨cnfText, text_bakedRow hcodec now cnfText, rfl⟩
      · exact h other row hrow
  · exact h

theorem baked_of_written (hcodec : codec.Lossless) (h : Written codec store) :
    Baked codec store := by
  induction h with
  | start =>
    intro challengeId row hrow
    rw [Dict.get?_empty] at hrow
    cases hrow
  | issue _ _ _ _ ih => exact baked_put hcodec ih _ _ _
  | verify _ env switches e ih =>
    unfold storeAfter
    split
    · split
      · exact baked_put hcodec ih _ _ _
      · exact ih
    · exact ih
  | purge _ cutoff ih =>
    intro challengeId row hrow
    rw [purgeOlderThan, Dict.get?_filterItems] at hrow
    exact ih challengeId row (Option.filter_eq_some_iff.mp hrow).1

theorem refuses_iff (hdigest : expected ≠ "") (sha : String) :
    refuses (some expected) sha = true ↔ sha ≠ expected := by
  simp [refuses, hdigest]

/-- A formula is served where it is the one with the digest that is asked for. -/
theorem get_eq_some (hbaked : Baked codec store) (hdigest : expected ≠ "") :
    get codec switches store challengeId (some expected) = some cnfText ↔
      switches.read = true ∧ ∃ row, store.get? challengeId = some row ∧
        row.cnfSha256 = expected ∧ row.text codec = some cnfText := by
  unfold get
  simp only [Option.ite_none_right_eq_some, Option.bind_eq_bind, Option.bind_eq_some_iff,
    refuses_iff hdigest, Option.ite_none_left_eq_some, not_not, Option.some.injEq]
  refine and_congr_right fun _ => exists_congr fun row => and_congr_right fun hrow => ?_
  constructor
  · rintro ⟨hsha, cnfText', htext, -, -, rfl⟩
    exact ⟨hsha, htext⟩
  · rintro ⟨hsha, htext⟩
    obtain ⟨cnfText', htext', hown⟩ := hbaked challengeId row hrow
    rw [htext, Option.some.injEq] at htext'
    subst htext'
    exact ⟨hsha, cnfText, htext, hown, hown.trans hsha, rfl⟩

/-- A hit serves a text of the store that has the digest. -/
theorem get_of_hit (hbaked : Baked codec store) (hdigest : env.lower e.cnfSha256 ≠ "")
    (h : Hit switches store env e) :
    ∃ cnfText ∈ texts codec store, textSha256 codec cnfText = env.lower e.cnfSha256 ∧
      get codec switches store (slotId env e) (some (env.lower e.cnfSha256)) = some cnfText := by
  obtain ⟨hread, row, hrow, hsha⟩ := h
  obtain ⟨cnfText, htext, hown⟩ := hbaked _ row hrow
  exact ⟨cnfText, ⟨_, row, hrow, htext⟩, hown.trans hsha,
    (get_eq_some hbaked hdigest).mpr ⟨hread, row, hrow, hsha, htext⟩⟩

theorem get_of_miss (hbaked : Baked codec store) (hdigest : env.lower e.cnfSha256 ≠ "")
    (h : ¬ Hit switches store env e) :
    get codec switches store (slotId env e) (some (env.lower e.cnfSha256)) = none := by
  rw [Option.eq_none_iff_forall_not_mem]
  intro cnfText htext
  obtain ⟨hread, row, hrow, hsha, -⟩ := (get_eq_some hbaked hdigest).mp htext
  exact h ⟨hread, row, hrow, hsha⟩

/-! ## What is loaded -/

theorem loaded_of_get (h : get codec switches store (slotId env e)
    (some (env.lower e.cnfSha256)) = some cnfText) :
    loaded codec switches store env e = some (.ok (cnfText, env.lower e.cnfSha256)) := by
  unfold loaded loadCnf withStore
  simp only [h]

theorem loaded_of_none (h : get codec switches store (slotId env e)
    (some (env.lower e.cnfSha256)) = none) :
    loaded codec switches store env e = (generated env e).map fun drawn =>
      if drawn.1 ≠ slotId env e then .error "challenge_id_mismatch"
      else if textSha256 codec drawn.2 ≠ env.lower e.cnfSha256 then .error "cnf_sha_drift"
      else .ok (drawn.2, textSha256 codec drawn.2) := by
  unfold loaded loadCnf withStore generated
  simp only [h]
  split
  · next hnone => rw [hnone, Option.map_none]
  · next cid cnfText hsome =>
      rw [hsome, Option.map_some]
      split
      · rfl
      · split <;> rfl

/-- The token's formula, where the configuration still derives it. -/
theorem loaded_of_derives (hbaked : Baked codec store) (hdigest : env.lower e.cnfSha256 ≠ "")
    (hgenerated : generated env e = some (slotId env e, cnfText))
    (hsha : textSha256 codec cnfText = env.lower e.cnfSha256)
    (hfree : CollisionFree codec (texts codec store ∪ {cnfText})) :
    loaded codec switches store env e = some (.ok (cnfText, env.lower e.cnfSha256)) := by
  by_cases hhit : Hit switches store env e
  · obtain ⟨cnfText', hmem, hsha', hget⟩ := get_of_hit hbaked hdigest hhit
    obtain rfl := hfree cnfText' (Or.inl hmem) cnfText (Or.inr rfl) (hsha'.trans hsha.symm)
    exact loaded_of_get hget
  · rw [loaded_of_none (get_of_miss hbaked hdigest hhit), hgenerated, Option.map_some]
    simp only [ne_eq, not_true_eq_false, if_false, hsha]

/-- Two stores that both have the formula, or both miss it, load the same. -/
theorem loaded_of_iff (hbaked : Baked codec store) (hbaked' : Baked codec store')
    (hdigest : env.lower e.cnfSha256 ≠ "")
    (hiff : Hit switches store env e ↔ Hit switches store' env e)
    (hfree : CollisionFree codec (texts codec store ∪ texts codec store')) :
    loaded codec switches store env e = loaded codec switches store' env e := by
  by_cases hhit : Hit switches store env e
  · obtain ⟨cnfText, hmem, hsha, hget⟩ := get_of_hit hbaked hdigest hhit
    obtain ⟨cnfText', hmem', hsha', hget'⟩ := get_of_hit hbaked' hdigest (hiff.mp hhit)
    obtain rfl := hfree cnfText (Or.inl hmem) cnfText' (Or.inr hmem') (hsha.trans hsha'.symm)
    rw [loaded_of_get hget, loaded_of_get hget']
  · rw [loaded_of_none (get_of_miss hbaked hdigest hhit),
      loaded_of_none (get_of_miss hbaked' hdigest fun h => hhit (hiff.mpr h))]

/-- The loaded formula is all that grading takes from the store. -/
theorem grade_eq (codec : Codec) (switches : Switches) (store : Store) (env : GradeEnv)
    (e : BitsetEvent) : gradeBitset (withStore codec switches store env) e =
      if e.epoch ≠ env.currentEpoch ∧ e.epoch ≠ env.currentEpoch - 1 then
        some (.rejected "per_miner_challenge_expired")
      else if slotId env e ≠ e.challengeId then some (.rejected "challenge_id_mismatch")
      else
        match loaded codec switches store env e with
        | none => none
        | some (.error reason) => some (.rejected reason)
        | some (.ok (cnfText, cnfSha)) => gradeAssignment env e cnfText cnfSha := rfl

/-- Past the first checks, grading is a matter of what is loaded. -/
theorem grade_gated (hgated : Gated env e) :
    gradeBitset (withStore codec switches store env) e =
      match loaded codec switches store env e with
      | none => none
      | some (.error reason) => some (.rejected reason)
      | some (.ok (cnfText, cnfSha)) => gradeAssignment env e cnfText cnfSha := by
  obtain ⟨hepoch, hid⟩ := hgated
  rw [grade_eq, if_neg (by omega), if_neg (not_not.mpr hid)]

/-! ## The verdict -/

/-- Where two stores load the same, `verify_bitset_one` leaves the same. -/
theorem verify_congr (h : loaded codec switches store env e = loaded codec switches store' env e)
    (bridge : Bool) (exception : Option (Except String (String × String)) → String)
    (receiptId : String) (t : Tables) :
    gradeBitset (withStore codec switches store env) e =
        gradeBitset (withStore codec switches store' env) e ∧
      verifyBitsetOne codec switches bridge exception receiptId store env e t =
        verifyBitsetOne codec switches bridge exception receiptId store' env e t := by
  unfold verifyBitsetOne
  rw [grade_eq, grade_eq, h]
  exact ⟨rfl, rfl⟩

/-- An event that fails the first checks is rejected whatever the store has. -/
theorem verify_ungated (h : ¬ Gated env e) (bridge : Bool)
    (exception : Option (Except String (String × String)) → String) (receiptId : String)
    (t : Tables) :
    gradeBitset (withStore codec switches store env) e =
        gradeBitset (withStore codec switches store' env) e ∧
      verifyBitsetOne codec switches bridge exception receiptId store env e t =
        verifyBitsetOne codec switches bridge exception receiptId store' env e t := by
  unfold verifyBitsetOne
  rw [grade_eq, grade_eq]
  by_cases hepoch : e.epoch ≠ env.currentEpoch ∧ e.epoch ≠ env.currentEpoch - 1
  · rw [if_pos hepoch, if_pos hepoch]
    exact ⟨rfl, rfl⟩
  · have hid : slotId env e ≠ e.challengeId := fun hid => h ⟨by omega, hid⟩
    rw [if_neg hepoch, if_pos hid, if_neg hepoch, if_pos hid]
    exact ⟨rfl, rfl⟩

/-- The reasons for which a generated formula is refused. -/
def driftReasons : List String := ["challenge_id_mismatch", "cnf_sha_drift"]

/-- A miss after a drift: the generated formula is not that of the token. -/
theorem grade_of_drift (hbaked : Baked codec store) (hdigest : env.lower e.cnfSha256 ≠ "")
    (hgated : Gated env e) (hmiss : ¬ Hit switches store env e) (hdrift : ¬ Derives codec env e) :
    gradeBitset (withStore codec switches store env) e = none ∧ generated env e = none ∨
      ∃ reason ∈ driftReasons,
        gradeBitset (withStore codec switches store env) e = some (.rejected reason) := by
  rw [grade_gated hgated, loaded_of_none (get_of_miss hbaked hdigest hmiss)]
  cases hgenerated : generated env e with
  | none => exact Or.inl ⟨rfl, rfl⟩
  | some drawn =>
    refine Or.inr ?_
    rw [Option.map_some]
    by_cases hid : drawn.1 = slotId env e
    · have hsha : textSha256 codec drawn.2 ≠ env.lower e.cnfSha256 := fun hsha =>
        hdrift ⟨drawn.2, by rw [hgenerated, ← hid], hsha⟩
      rw [if_neg (not_not.mpr hid), if_pos hsha]
      exact ⟨_, List.mem_cons_of_mem _ List.mem_cons_self, rfl⟩
    · rw [if_pos hid]
      exact ⟨_, List.mem_cons_self, rfl⟩

/-- The verdict on an event over two written stores. It is the same for an event that fails the
first checks, while the configuration still derives the formula of the token, and where both
stores have the formula or neither has it. After a drift the store that has it judges the
assignment on it, and the one that has not rejects the event, or raises with the generator. -/
theorem verdict_of_stores (hcodec : codec.Lossless) (hwritten : Written codec store)
    (hwritten' : Written codec store') (hdigest : env.lower e.cnfSha256 ≠ "")
    (hfree : CollisionFree codec (texts codec store ∪ texts codec store' ∪
      {cnfText | generated env e = some (slotId env e, cnfText)})) :
    (¬ Gated env e ∨ Derives codec env e ∨
        (Hit switches store env e ↔ Hit switches store' env e) →
      ∀ bridge exception receiptId t,
        gradeBitset (withStore codec switches store env) e =
            gradeBitset (withStore codec switches store' env) e ∧
          verifyBitsetOne codec switches bridge exception receiptId store env e t =
            verifyBitsetOne codec switches bridge exception receiptId store' env e t) ∧
    (¬ Derives codec env e → Gated env e → Hit switches store env e →
      ¬ Hit switches store' env e →
      (∃ cnfText ∈ texts codec store, textSha256 codec cnfText = env.lower e.cnfSha256 ∧
        gradeBitset (withStore codec switches store env) e =
          gradeAssignment env e cnfText (env.lower e.cnfSha256)) ∧
      (gradeBitset (withStore codec switches store' env) e = none ∧ generated env e = none ∨
        ∃ reason ∈ driftReasons,
          gradeBitset (withStore codec switches store' env) e = some (.rejected reason))) := by
  have hbaked := baked_of_written hcodec hwritten
  have hbaked' := baked_of_written hcodec hwritten'
  constructor
  · intro hsame bridge exception receiptId t
    rcases hsame with hungated | ⟨cnfText, hgenerated, hsha⟩ | hiff
    · exact verify_ungated hungated bridge exception receiptId t
    · refine verify_congr ?_ bridge exception receiptId t
      have hthis : ∀ a ∈ ({cnfText} : Set String), generated env e = some (slotId env e, a) := by
        rintro a rfl
        exact hgenerated
      rw [loaded_of_derives hbaked hdigest hgenerated hsha fun a ha b hb =>
          hfree a (ha.imp Or.inl (hthis a)) b (hb.imp Or.inl (hthis b)),
        loaded_of_derives hbaked' hdigest hgenerated hsha fun a ha b hb =>
          hfree a (ha.imp Or.inr (hthis a)) b (hb.imp Or.inr (hthis b))]
    · refine verify_congr ?_ bridge exception receiptId t
      exact loaded_of_iff hbaked hbaked' hdigest hiff fun a ha b hb =>
        hfree a (Or.inl ha) b (Or.inl hb)
  · intro hdrift hgated hhit hmiss
    obtain ⟨cnfText, hmem, hsha, hget⟩ := get_of_hit hbaked hdigest hhit
    refine ⟨⟨cnfText, hmem, hsha, ?_⟩, grade_of_drift hbaked' hdigest hgated hmiss hdrift⟩
    rw [grade_gated hgated, loaded_of_get hget]

/-! ## A formula of another shape -/

/-- The formula of a slot drawn with one clause. -/
def mintedCnf : String := "p cnf 3 1\n1 -3 2 0\n"

/-- The formula of the slot drawn with two clauses. -/
def driftedCnf : String := "p cnf 3 2\n1 -3 2 0\n-3 1 2 0\n"

/-- What `zlib` and the hash return for the two formulas. -/
def sampleCodec : Codec where
  compress := fun raw =>
    if raw = encodeUtf8 mintedCnf.toList then
      [120, 156, 43, 80, 72, 206, 75, 83, 48, 86, 48, 228, 50, 84, 208, 53, 86, 48, 82, 48, 224, 2,
        0, 45, 190, 3, 211]
    else 0 :: raw
  decompress := fun blob =>
    match blob with
    | 0 :: raw => some raw
    | _ => some (encodeUtf8 mintedCnf.toList)
  sha256Hex := fun raw =>
    if raw = encodeUtf8 mintedCnf.toList then
      "81b80f2463f90cea73c5d1de3c530cfb67728a783e80832aafb4764b554cad6b"
    else "b9fdd06d0bdd6daccff00af03e243b28ccde304a101a17d6ba80bb479a5077ae"

theorem sampleCodec_lossless : sampleCodec.Lossless := by
  intro raw
  by_cases h : raw = encodeUtf8 mintedCnf.toList
  · have hblob : sampleCodec.compress raw = [120, 156, 43, 80, 72, 206, 75, 83, 48, 86, 48, 228, 50,
        84, 208, 53, 86, 48, 82, 48, 224, 2, 0, 45, 190, 3, 211] := if_pos h
    rw [hblob, h]
    rfl
  · have hblob : sampleCodec.compress raw = 0 :: raw := if_neg h
    rw [hblob]
    rfl

/-- A configuration that draws this formula for the slot. -/
def drawing (cnfText : String) : GradeEnv where
  now := 0
  currentEpoch := 1
  scoringIdentity := id
  instanceId := fun _ _ _ _ => "pm-t1-e1-e16a9f7d0c658e8e74506a8b"
  storedCnf := fun _ _ => none
  generateInstance := fun _ _ _ _ => some ("pm-t1-e1-e16a9f7d0c658e8e74506a8b", cnfText)
  cnfSha256 := fun _ => ""
  lower := id
  parseCnf := fun text =>
    if text = mintedCnf then some (3, [[1, -3, 2]]) else some (3, [[1, -3, 2], [-3, 1, 2]])
  b64decode := fun _ => some [0]
  bytesSha256 := fun _ => "6e340b9cffb37a989ca544e6bb780a2c78901d3fb33738768511a30617afa01d"
  detailsSha256 := fun _ _ _ _ =>
    "4c707c462c10d308ddccfccc0d07d95063a37026518f7792afae56cee9944deb"
  weightFor := fun _ => 1

/-- The planted assignment, submitted with a token of the first formula. -/
def mintedEvent : BitsetEvent where
  minerHotkey := "5F"
  challengeId := "pm-t1-e1-e16a9f7d0c658e8e74506a8b"
  epoch := 1
  tier := 1
  seq := 0
  cnfSha256 := "81b80f2463f90cea73c5d1de3c530cfb67728a783e80832aafb4764b554cad6b"
  assignmentB64 := "AA=="
  status := .received
  eligibilityStatus := "unknown_beta"
  receivedAt := 0
  verifiedAt := none
  weightedScore := 0
  answerHash := ""
  verifierDetailsHash := ""
  lockedBy := none
  lockedUntil := none
  lastError := none

/-- The store after the issuance of the event's challenge. -/
def mintedStore : Store :=
  put sampleCodec ⟨true, true⟩ 0 "pm-t1-e1-e16a9f7d0c658e8e74506a8b" mintedCnf Dict.empty

theorem mintedStore_written : Written sampleCodec mintedStore :=
  @Written.issue sampleCodec _ .start (drawing mintedCnf) ⟨true, true⟩ "5F" _ _ 1 1 0 rfl

theorem minted_derives : Derives sampleCodec (drawing mintedCnf) mintedEvent :=
  ⟨mintedCnf, rfl, by decide +kernel⟩

theorem texts_minted : ∀ a ∈ texts sampleCodec mintedStore ∪ texts sampleCodec Dict.empty,
    a = mintedCnf := by
  rintro a (⟨challengeId, row, hrow, htext⟩ | ⟨challengeId, row, hrow, -⟩)
  swap
  · rw [Dict.get?_empty] at hrow
    cases hrow
  have hstore : mintedStore = Dict.empty.set "pm-t1-e1-e16a9f7d0c658e8e74506a8b"
      (bakedRow sampleCodec 0 mintedCnf) := rfl
  rw [hstore, Dict.get?_set] at hrow
  split at hrow
  · obtain rfl := Option.some.inj hrow
    rw [text_bakedRow sampleCodec_lossless] at htext
    exact (Option.some.inj htext).symm
  · rw [Dict.get?_empty] at hrow
    cases hrow

/-- The event is verified from the baked formula and from the generated one alike. -/
theorem minted_verified :
    gradeBitset (withStore sampleCodec ⟨true, true⟩ mintedStore (drawing mintedCnf)) mintedEvent =
        some (.verified 1 "6e340b9cffb37a989ca544e6bb780a2c78901d3fb33738768511a30617afa01d"
          "4c707c462c10d308ddccfccc0d07d95063a37026518f7792afae56cee9944deb") ∧
      gradeBitset (withStore sampleCodec ⟨true, true⟩ mintedStore (drawing mintedCnf)) mintedEvent =
        gradeBitset (withStore sampleCodec ⟨true, true⟩ Dict.empty (drawing mintedCnf))
          mintedEvent := by
  have hone : ∀ a ∈ texts sampleCodec mintedStore ∪ texts sampleCodec Dict.empty ∪
      {cnfText | generated (drawing mintedCnf) mintedEvent =
        some (slotId (drawing mintedCnf) mintedEvent, cnfText)}, a = mintedCnf := by
    rintro a (ha | ha)
    · exact texts_minted a ha
    · exact (Prod.mk.inj (Option.some.inj ha)).2.symm
  refine ⟨by decide +kernel, ?_⟩
  exact ((@verdict_of_stores sampleCodec ⟨true, true⟩ mintedStore Dict.empty (drawing mintedCnf)
    mintedEvent sampleCodec_lossless mintedStore_written .start (by decide) fun a ha b hb _ =>
      (hone a ha).trans (hone b hb).symm).1 (Or.inr (Or.inl minted_derives)) true (fun _ => "")
        "r1" ⟨Dict.empty, Dict.empty⟩).1

/-- Between issuance and verification the number of clauses changes: with the baked formula the
event is verified, without it the event is rejected. -/
theorem drift_verdicts : ¬ ∀ codec store store' switches env e, Codec.Lossless codec →
    Written codec store → Written codec store' →
    CollisionFree codec (texts codec store ∪ texts codec store') →
    gradeBitset (withStore codec switches store env) e =
      gradeBitset (withStore codec switches store' env) e := by
  intro h
  have hsame := h sampleCodec mintedStore Dict.empty ⟨true, true⟩ (drawing driftedCnf) mintedEvent
    sampleCodec_lossless mintedStore_written .start fun a ha b hb _ =>
      (texts_minted a ha).trans (texts_minted b hb).symm
  revert hsame
  decide +kernel

end Cathedral.Publisher.CnfStore
