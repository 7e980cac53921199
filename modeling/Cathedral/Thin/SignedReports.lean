import Cathedral.Thin.Canonical
import Cathedral.Thin.Reports

/-!
# Cathedral.Thin.SignedReports — signing a report and reading it back

What `sign_report` writes, `verify_report` parses as canonical, with the id and the signature
that it expects (`signReport_reads_back`).
-/

namespace Cathedral.Thin

section Signed

variable {platform : Platform} {sign : Bytes → Bytes} {fields report : Fields} {depth : ℕ}

/-- Sorting the keys commutes with leaving some out. -/
theorem dumps_without_sorted (h : Writable depth (.obj fields))
    (hreport : Json.sorted (.obj fields) = .obj report) (names : List String) :
    dumps (.obj (report.without names)) = dumps (.obj (fields.without names)) := by
  have hstrict : Strict depth (.obj report) := hreport ▸ Json.wf_sorted h
  have hwithout : Strict depth (Json.sorted (.obj (fields.without names))) :=
    Json.wf_sorted (writable_without h names)
  rw [Json.sorted, Json.obj.injEq] at hreport
  rw [Json.sorted] at hwithout
  -- both are sorted, and each has the members of the other
  have hperm : (report.without names).Perm
      (Json.sortMembers (Json.sortedMembers (fields.without names))) := by
    rw [← hreport, Json.sortedMembers_eq_map, Json.sortedMembers_eq_map]
    refine ((Json.sortMembers_perm _).filter _).trans (.trans (.of_eq ?_)
      (Json.sortMembers_perm _).symm)
    exact List.filter_map
  have heq : report.without names =
      Json.sortMembers (Json.sortedMembers (fields.without names)) := by
    cases hstrict with
    | obj hkeys =>
      cases hwithout with
      | obj hkeys' =>
        exact @List.Perm.eq_of_pairwise _ (fun a b => a.1 < b.1) _ _
          (fun a b _ _ hab hba => absurd hab hba.asymm)
          ((List.pairwise_map.mp hkeys).sublist List.filter_sublist) (List.pairwise_map.mp hkeys')
          hperm
  rw [heq]
  exact dumps_sorted (writable_without h names)

theorem canonicalJson_without (h : Writable depth (.obj fields))
    (hwrite : depth ≤ platform.writeDepth) (names : List String) :
    canonicalJson platform (.obj (fields.without names)) =
      .ok (dumps (.obj (fields.without names))) :=
  canonicalJson_writable (writable_without h names) hwrite

/-- The verifier writes the sorted document again as the signer wrote its own. -/
theorem canonicalJson_without_sorted (h : Writable depth (.obj fields))
    (hreport : Json.sorted (.obj fields) = .obj report) (hwrite : depth ≤ platform.writeDepth)
    (names : List String) : canonicalJson platform (.obj (report.without names)) =
      canonicalJson platform (.obj (fields.without names)) := by
  have hstrict : Strict depth (.obj report) := hreport ▸ Json.wf_sorted h
  rw [canonicalJson_without hstrict.writable hwrite, canonicalJson_without h hwrite,
    dumps_without_sorted h hreport]

theorem Fields.without_set {name : String} {value : Document} {names : List String}
    (h : name ∈ names) : (fields.set name value).without names = fields.without names := by
  unfold Fields.set Fields.without
  rw [List.filter_append, List.filter_cons_of_neg (by simpa using ⟨name, h, rfl⟩), List.filter_nil,
    List.append_nil]

theorem Fields.get_set {name : String} {value : Document}
    (h : PyStr.ofString name ∉ fields.map Prod.fst) (other : String) :
    (fields.set name value).get other = if other = name then value else fields.get other := by
  unfold Fields.set Fields.get
  rw [List.lookup_append]
  split_ifs with heq
  · have hnone : fields.lookup (PyStr.ofString name) = none :=
      Option.eq_none_iff_forall_ne_some.mpr fun v hv => h (List.mem_map_of_mem (mem_of_lookup hv))
    rw [heq, hnone, Option.none_or, List.lookup_cons_self]
    rfl
  · rw [List.lookup_cons, beq_eq_false_iff_ne.mpr (PyStr.ofString_injective.ne heq)]
    simp

theorem writable_set {name : String} {value : Document} (hw : Writable (depth + 1) (.obj fields))
    (h : PyStr.ofString name ∉ fields.map Prod.fst) (hvalue : Writable depth value) :
    Writable (depth + 1) (.obj (fields.set name value)) := by
  unfold Fields.set
  cases hw with
  | obj hkeys hjoined hmembers =>
    refine .obj ?_ ?_ ?_
    · simp [List.nodup_append', hkeys, h]
    all_goals
      intro m hm
      rcases List.mem_append.mp hm with hm | hm
    · exact hjoined m hm
    · rw [List.mem_singleton.mp hm]
      exact Json.joined_ofString name
    · exact hmembers m hm
    · rw [List.mem_singleton.mp hm]
      exact hvalue

theorem signatureObject_eq (algorithm : String) (signature : Bytes) :
    signatureObject algorithm signature = .obj (Fields.ofList
      [("algorithm", strConst algorithm),
        ("value_base64", strConst (String.ofList (Base64.encode signature)))]) := rfl

/-- A signature of the message of the document itself, under a key that the policy trusts. -/
theorem checkReportSignature_signed {ed25519 : PublicKey → Bytes → Bytes → Bool}
    {policy : ExternalClassPolicy} {keyId : String} {key : PublicKey} {message : Bytes}
    (hkeyId : report.get "signing_key_id" = strConst keyId) (hok : isKeyId keyId.toList = true)
    (htrusted : policy.trustedKeys.get? keyId = some key)
    (hmessage : reportMessage platform report = .ok message)
    (hobject : report.get "signature" = signatureObject "ed25519" (sign message))
    (hlaw : ∀ m, (sign m).length = 64 ∧ ed25519 key (sign m) m = true) :
    checkReportSignature platform ed25519 policy report = .ok keyId := by
  refine bind_eq_ok.mpr ⟨keyId, matching_eq_ok.mpr ⟨hkeyId, hok⟩, ?_⟩
  rw [htrusted, hobject]
  refine bind_eq_ok.mpr ⟨_, rfl, bind_eq_ok.mpr ⟨(), requireExactKeys_eq_ok.mpr ?_,
    bind_eq_ok.mpr ⟨(), refuse_eq_ok.mpr ?_, bind_eq_ok.mpr ⟨sign message,
      base64Bytes_eq_ok.mpr ⟨rfl, (hlaw message).1⟩, bind_eq_ok.mpr ⟨message, hmessage,
        bind_eq_ok.mpr ⟨(), refuse_eq_ok.mpr ?_, rfl⟩⟩⟩⟩⟩⟩
  · simp [Fields.HasKeys, signatureKeys]
  · simp [Fields.get]
  · simp [(hlaw message).2]

/-- What the verifier makes of the bytes of a signed report. -/
structure ReadsBack (platform : Platform) (sign : Bytes → Bytes) (fields : Fields) (raw : Bytes)
    (report : Fields) : Prop where
  canonical : canonicalJson platform (.obj report) = .ok raw
  parsed : raw.length ≤ maxReportBytes → parseStrictJson platform raw maxReportBytes = .ok report
  same : ∀ name ∉ ["report_id", "signature"], report.get name = (fields.get name).sorted
  id : ∃ id, report.get "report_id" = strConst id ∧ reportIdFor platform report = .ok id
  /-- A policy that trusts the key accepts the signature. -/
  signature : ∀ ed25519 : PublicKey → Bytes → Bytes → Bool, ∀ policy keyId key,
    fields.get "signing_key_id" = strConst keyId → isKeyId keyId.toList = true →
      policy.trustedKeys.get? keyId = some key →
        (∀ m, (sign m).length = 64 ∧ ed25519 key (sign m) m = true) →
          checkReportSignature platform ed25519 policy report = .ok keyId

theorem signReport_reads_back (hw : Writable (depth + 2) (.obj fields))
    (hid : PyStr.ofString "report_id" ∉ fields.map Prod.fst)
    (hsig : PyStr.ofString "signature" ∉ fields.map Prod.fst)
    (hread : depth + 2 ≤ platform.readDepth) (hwrite : depth + 2 ≤ platform.writeDepth) :
    ∃ raw report, signReport platform sign fields = .ok raw ∧
      ReadsBack platform sign fields raw report := by
  -- the id is of the unsigned document, the signature covers the document with its id
  obtain ⟨id, hreportId⟩ : ∃ id, reportIdFor platform fields = .ok id :=
    ⟨_, bind_eq_ok.mpr ⟨_, canonicalJson_without hw hwrite _, rfl⟩⟩
  have hsigned := writable_set hw hid (wf_strConst id)
  obtain ⟨message, hmessage⟩ :
      ∃ message, reportMessage platform (fields.set "report_id" (strConst id)) = .ok message :=
    ⟨_, bind_eq_ok.mpr ⟨_, canonicalJson_without hsigned hwrite _, rfl⟩⟩
  have hobject : Strict (depth + 1) (signatureObject "ed25519" (sign message)) := by
    rw [signatureObject_eq, strict_ofList]
    exact ⟨(by decide : ["algorithm", "value_base64"].Pairwise (· < ·)), by simp⟩
  have hkey : PyStr.ofString "signature" ∉
      (fields.set "report_id" (strConst id)).map Prod.fst := by
    have hne : PyStr.ofString "signature" ≠ PyStr.ofString "report_id" := by decide
    simp [Fields.set, hsig, hne]
  have hfull := writable_set hsigned hkey hobject.writable
  obtain ⟨report, hreport, hget⟩ := get_sorted hfull
  have hstrict : Strict (depth + 2) (.obj report) := hreport ▸ Json.wf_sorted hfull
  have hraw := dumps_sorted hfull
  rw [hreport] at hraw
  have hsame : ∀ name ≠ "signature", report.get name =
      ((fields.set "report_id" (strConst id)).get name).sorted := by
    intro name hname
    rw [hget, Fields.get_set hkey, if_neg hname]
  have hobject' : report.get "signature" = signatureObject "ed25519" (sign message) := by
    rw [hget, Fields.get_set hkey, if_pos rfl, Json.sorted_eq_self hobject]
  refine ⟨_, report, bind_eq_ok.mpr ⟨(), by simp [hid, hsig], bind_eq_ok.mpr ⟨id, hreportId,
    bind_eq_ok.mpr ⟨message, hmessage, canonicalJson_writable hfull hwrite⟩⟩⟩, ?_, ?_, ?_, ?_, ?_⟩
  · rw [← hraw]
    exact canonicalJson_strict hstrict hwrite
  · rw [← hraw]
    exact parseStrictJson_dumps hstrict hread
  · intro name hname
    simp only [List.mem_cons, List.not_mem_nil, or_false, not_or] at hname
    rw [hsame name hname.2, Fields.get_set hid, if_neg hname.1]
  · refine ⟨id, ?_, ?_⟩
    · rw [hsame _ (by decide), Fields.get_set hid, if_pos rfl]
      rfl
    · rw [← hreportId]
      unfold reportIdFor
      rw [canonicalJson_without_sorted hfull hreport hwrite, Fields.without_set (by simp),
        Fields.without_set (by simp)]
  · -- the signature covers what the reader writes again
    intro ed25519 policy keyId key hkeyId hok htrusted hlaw
    refine checkReportSignature_signed ?_ hok htrusted ?_ hobject' hlaw
    · rw [hsame _ (by decide), Fields.get_set hid, if_neg (by decide), hkeyId]
      rfl
    · rw [← hmessage]
      unfold reportMessage
      rw [canonicalJson_without_sorted hfull hreport hwrite, Fields.without_set (by simp)]

theorem signReport_reads_back_zero : ∃ raw report,
    signReport zeroPlatform (fun _ => zeroSignature)
      (Fields.ofList [("signing_key_id", strConst "key-1")]) = .ok raw ∧
    ReadsBack zeroPlatform (fun _ => zeroSignature)
      (Fields.ofList [("signing_key_id", strConst "key-1")]) raw report :=
  signReport_reads_back (strict_ofList.mpr ⟨by simp, by simp⟩ : Strict 2 _).writable (by decide)
    (by decide) (by decide) (by decide)

end Signed

end Cathedral.Thin
