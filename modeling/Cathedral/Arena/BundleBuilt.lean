import Cathedral.Arena.AnchorBinding
import Cathedral.Arena.Bundle

/-!
# Cathedral.Arena.BundleBuilt — bundles that are built are accepted

A bundle that is put together of a receipt, a replay and the commitment to the round of the
receipt is accepted: `verifyBundle_assemble`. What it shows as the weight entry does not matter,
and neither does whether it shows a replay. The path that `build_bundle` puts in is one that
leads to the root (`buildBundle_accepted`).
-/

namespace Cathedral.Arena

open PyJson (Value)

/-! ## Paths -/

section Paths

variable {C : Crypto} {leaves : List PyStr} {leaf root : PyStr}

/-- The path that is built for a leaf leads to the root. -/
theorem exists_merkleProof (h : ∀ s ∈ leaves, IsHexLeaf s) (hleaf : leaf ∈ leaves)
    (hroot : merkleRoot C leaves = some root) :
    ∃ path, merkleProof C leaves (leaves.idxOf leaf) = some path ∧
      verifyMerkleProof C leaf path root = some true := by
  obtain ⟨nodes, hlen, rfl⟩ := exists_nodes h
  -- the first place of the leaf, and its node there
  have hidx := List.idxOf_lt_length_of_mem hleaf
  have hi : (nodes.map Hex.encode).idxOf leaf < nodes.length := by
    rwa [List.length_map] at hidx
  have hself : Hex.encode nodes[(nodes.map Hex.encode).idxOf leaf] = leaf := by
    rw [← List.getElem_map Hex.encode (h := hidx)]
    exact List.getElem_idxOf hidx
  have hnode : leafNode C leaf = some nodes[(nodes.map Hex.encode).idxOf leaf] := by
    conv_lhs => rw [← hself]
    exact leafNode_encode (hlen _ (List.getElem_mem hi))
  obtain ⟨steps, hproof, -, htop⟩ :=
    Merkle.walk_proof (H := C.join) (List.getElem?_eq_getElem hi)
  rw [merkleRoot_encode hlen (List.ne_nil_of_length_pos (by omega)), htop] at hroot
  refine ⟨steps.map PathStep.ofStep, ?_, ?_⟩
  · rw [merkleProof, mapM_leafNode_encode hlen, Option.bind_eq_bind, Option.bind_some, hproof]
    rfl
  · rw [verifyMerkleProof, hnode, mapM_ofStep]
    cases hroot
    exact congrArg some (decide_eq_true rfl)

end Paths

/-! ## Documents -/

section Documents

variable {C : Crypto} {targets : Registry} {b : BundleSource} {path : List PathStep} {entry : Value}

/-- The members of the document that is put together. -/
def assembled (targets : Registry) (b : BundleSource) (path : List PathStep) (entry : Value) :
    List (String × Value) :=
  [("schema", text "cathedral-arena-proof-bundle/v2"), ("agent_id", .str b.agentId),
    ("miner_hotkey", .str b.minerHotkey), ("season", .str b.season), ("round", integer b.roundNo),
    ("environment", .str b.environment), ("target_netuid", integer b.targetNetuid),
    ("mission_id", .str b.missionId), ("nonce", .str b.nonce), ("receipt", receiptToDict b.receipt),
    ("expected_artifact", .obj b.artifact), ("replay", replayPart b.theater),
    ("proof_provenance", provenancePart targets b.theater), ("corroborating_evidence", b.evidence),
    ("merkle_inclusion", .obj (record [("leaf", .str b.head), ("path", pathValue path),
      ("root", .str b.root)])),
    ("anchor", .obj b.anchor), ("weight_entry", entry), ("gates_passed", .bool b.gatesPassed),
    ("provenance_grade", .str b.grade)]

/-- What is taken out of that document. -/
def presented (targets : Registry) (b : BundleSource) (path : List PathStep) (entry : Value) :
    Presented where
  bundle := record (assembled targets b path entry)
  receipt := b.receipt
  expected := ⟨.str b.minerHotkey, .str b.missionId, .str b.nonce, .given (.obj b.artifact)⟩
  leaf := b.head
  path := path
  root := .str b.root
  anchor := b.anchor
  merkleRoot := .str b.root

theorem pathOf_pathValue (path : List PathStep) : pathOf (pathValue path) = some path := by
  have hstep : ∀ s : PathStep, PathStep.ofValue
      (.obj (record [("hash", .str s.hash), ("side", .str s.side)])) = some s := fun s => by
    simp [PathStep.ofValue, get_record, List.lookup_cons]
  rw [pathValue, pathOf]
  induction path with
  | nil => rfl
  | cons s path ih =>
    rw [List.map_cons, List.mapM_cons, hstep, ih]
    rfl

theorem get_assembled (name : String) : get (record (assembled targets b path entry)) name =
    (assembled targets b path entry).lookup name := get_record _ name

theorem present_assemble (hroot : get b.anchor "merkle_root" = some (.str b.root)) :
    present (assemble targets b path entry) = some (presented targets b path entry) := by
  show present (.obj (record (assembled targets b path entry))) = _
  rw [present]
  simp only [get_assembled]
  simp [assembled, List.lookup_cons, receiptFromDict_receiptToDict, get_record, pathOf_pathValue,
    hroot, presented]

theorem partOf_eq_there {bundle members : Members} {name : String}
    (h : get bundle name = some (.obj members)) (hne : members ≠ []) :
    partOf bundle name = .there members := by
  rw [partOf, h]
  cases members with
  | nil => exact absurd rfl hne
  | cons m members => rfl

theorem partOf_eq_absent {bundle : Members} {name : String} (h : get bundle name = some .null) :
    partOf bundle name = .absent := by
  rw [partOf, h]
  rfl

theorem get_replay_assembled :
    get (record (assembled targets b path entry)) "replay" = some (replayPart b.theater) := by
  rw [get_assembled]
  simp [assembled, List.lookup_cons]

theorem get_provenance_assembled :
    get (record (assembled targets b path entry)) "proof_provenance" =
      some (provenancePart targets b.theater) := by
  rw [get_assembled]
  simp [assembled, List.lookup_cons]

theorem get_weight_assembled :
    get (record (assembled targets b path entry)) "weight_entry" = some entry := by
  rw [get_assembled]
  simp [assembled, List.lookup_cons]

/-- The part with the witness reproduces what it says. -/
theorem replayCheck_assembled (htheater : ∀ id witness reproduced,
    b.theater = some (id, witness, reproduced) → ∃ target out, targets id = some target ∧
      runReplay targets id witness = some out ∧ out.reproduced = reproduced) :
    replayCheck targets (record (assembled targets b path entry)) = some true := by
  have hpart : get (record (assembled targets b path entry)) "replay" =
      some (replayPart b.theater) := get_replay_assembled
  rw [replayCheck]
  cases hcase : b.theater with
  | none =>
    rw [hcase] at hpart
    rw [partOf_eq_absent hpart]
  | some shown =>
    obtain ⟨id, witness, reproduced⟩ := shown
    obtain ⟨target, out, -, hout, rfl⟩ := htheater id witness reproduced hcase
    rw [hcase] at hpart
    rw [partOf_eq_there hpart (List.cons_ne_nil _ _)]
    have hself : PyJson.pyEq (.bool out.reproduced) (.bool out.reproduced) = true := by
      cases out.reproduced <;> rfl
    simp [get_record, List.lookup_cons, replayOf, hout, hself]

/-- The provenance that is written is the registered one. -/
theorem sourceCheck_assembled (htheater : ∀ id witness reproduced,
    b.theater = some (id, witness, reproduced) → ∃ target, targets id = some target) :
    sourceCheck targets (record (assembled targets b path entry)) = some true := by
  have hpart : get (record (assembled targets b path entry)) "proof_provenance" =
      some (provenancePart targets b.theater) := get_provenance_assembled
  rw [sourceCheck]
  cases hcase : b.theater with
  | none =>
    rw [hcase] at hpart
    rw [partOf_eq_absent hpart]
  | some shown =>
    obtain ⟨id, witness, reproduced⟩ := shown
    obtain ⟨target, htarget⟩ := htheater id witness reproduced hcase
    rw [hcase, provenancePart, htarget] at hpart
    rw [partOf_eq_there hpart (List.cons_ne_nil _ _)]
    simp [get_record, List.lookup_cons, Registry.lookup, htarget, PyJson.pyEqGet, PyJson.pyEq_str]

/-- A bundle of a receipt of at least one step, that is in a round, and of the commitment to the
round. -/
structure Genuine (C : Crypto) (targets : Registry) (b : BundleSource) (r : Round) : Prop where
  receipt : ∃ (key : SigningKey C) (raw : List RawStep) (attestation : Value) (claim : Bool),
    raw ≠ [] ∧ b.receipt = buildReceipt C key b.agentId b.minerHotkey b.missionId b.nonce
      b.environment raw b.artifact attestation ∧ b.receipt.attestedClaim = some claim
  head : b.receipt.head = .str b.head
  /-- Neither the challenge nor the formula is a NaN. -/
  artifact : ∀ name, PyJson.pyEqGet (get b.artifact name) (get b.artifact name) = true
  digests : ∀ s ∈ r.leaves C, IsHexLeaf s
  leaves : b.leaves = r.leaves C
  member : b.head ∈ b.leaves
  anchor : ∃ key, buildAnchor C key r = some b.anchor
  root : get b.anchor "merkle_root" = some (.str b.root)
  vector : b.vector = r.vector
  theater : ∀ id witness reproduced, b.theater = some (id, witness, reproduced) →
    ∃ target out, targets id = some target ∧ runReplay targets id witness = some out ∧
      out.reproduced = reproduced
  evidence : b.evidence = .null

/-- With any path that leads from the head to the root, and whatever weight entry, the document is
accepted. -/
theorem verifyBundle_assemble {r : Round} (h : Genuine C targets b r)
    (hpath : verifyMerkleProof C b.head path b.root = some true) :
    ∃ checks, verifyBundle C targets (assemble targets b path entry) = some checks ∧
      checks.ok = true := by
  obtain ⟨key, raw, attestation, claim, hraw, hreceipt, hclaim⟩ := h.receipt
  obtain ⟨akey, hbuilt⟩ := h.anchor
  obtain ⟨-, -, -, hsigned⟩ := buildAnchor_eq_some hbuilt
  have hagrees : ∀ name, (ExpectedArtifact.given (.obj b.artifact)).agrees b.artifact name =
      some true := fun name => congrArg some (h.artifact name)
  obtain ⟨v, hv, hok⟩ : ∃ v, verifyReceipt C b.receipt
      ⟨.str b.minerHotkey, .str b.missionId, .str b.nonce, .given (.obj b.artifact)⟩ true false [] =
        some v ∧ v.ok = true := by
    rw [hreceipt] at hclaim ⊢
    obtain ⟨v, hv, hok, -⟩ := verifyReceipt_buildReceipt key hraw hclaim
      (hagrees "challenge_id") (hagrees "cnf_sha256")
    exact ⟨v, hv, hok⟩
  have hevidence : evidenceCheck C (record (assembled targets b path entry)) = some true := by
    rw [evidenceCheck, partOf_eq_absent]
    rw [get_record, ← h.evidence]
    simp [assembled, List.lookup_cons]
  have hreplay : replayCheck targets (record (assembled targets b path entry)) = some true :=
    replayCheck_assembled h.theater
  have hsource : sourceCheck targets (record (assembled targets b path entry)) = some true :=
    sourceCheck_assembled fun id witness reproduced hmem => by
      obtain ⟨target, -, htarget, -⟩ := h.theater id witness reproduced hmem
      exact ⟨target, htarget⟩
  rw [verifyBundle, present_assemble h.root, Option.bind_some, checkPresented]
  simp only [presented, Option.bind_eq_bind, Option.bind_some, hv, hreplay, hpath, hsource,
    hevidence]
  refine ⟨_, rfl, ?_⟩
  rw [ProvenanceVerdict.ok, Bool.and_eq_true, Bool.and_eq_true, Bool.and_eq_true] at hok
  obtain ⟨⟨⟨hs, hc⟩, hb⟩, -⟩ := hok
  simp [BundleChecks.ok, hs, hc, hb, hsigned, h.head, PyJson.pyEq_str]

/-- What is built for an agent of the round is accepted. -/
theorem buildBundle_accepted {r : Round} (h : Genuine C targets b r) :
    ∃ bundle checks, buildBundle C targets b = some bundle ∧
      verifyBundle C targets bundle = some checks ∧ checks.ok = true := by
  obtain ⟨_, hanchor⟩ := h.anchor
  obtain ⟨root, hroot, hnamed, -⟩ := buildAnchor_eq_some hanchor
  -- the root that the commitment names is the one over the leaves
  obtain rfl : b.root = root := by simpa [h.root] using hnamed
  have hmember := h.member
  rw [h.leaves] at hmember
  obtain ⟨path, hpath, hverified⟩ := exists_merkleProof h.digests hmember hroot
  obtain ⟨checks, hchecks, hok⟩ := verifyBundle_assemble h hverified
  refine ⟨_, checks, ?_, hchecks, hok⟩
  rw [buildBundle, if_pos h.member, h.leaves, hpath]
  rfl

end Documents

end Cathedral.Arena
