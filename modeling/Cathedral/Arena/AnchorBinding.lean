import Cathedral.Arena.Anchor

/-!
# Cathedral.Arena.AnchorBinding — what the commitment to a round binds

A root does not tell the number of its leaves: equal roots bind equally many leaves, a path
binds its leaf when it has a step for each level, and a commitment binds rounds of equally
many receipts. `commitment_binding` has these three, and what is accepted otherwise.

That SHA-256 has no collisions is said of the texts that are hashed on the way to the roots
and along the path.
-/

namespace Cathedral.Arena

/-! ## What is hashed -/

def concat (p : Bytes × Bytes) : Bytes := p.1 ++ p.2

/-- What is hashed above the leaves. -/
def rootTexts (C : Crypto) (leaves : List PyStr) : List Bytes :=
  if leaves = [] then [emptyRound]
  else (Merkle.joined C.join ((leaves.mapM (leafNode C)).getD [])).map concat

/-- What is hashed along a path. -/
def pathTexts (C : Crypto) (leaf : PyStr) (path : List PathStep) : List Bytes :=
  match leafNode C leaf, path.mapM PathStep.step with
  | some node, some steps => (Merkle.walked C.join node steps).map concat
  | _, _ => []

section Aligned

variable {C : Crypto}

/-- Pairs that start with a digest are told apart by what they are hashed as. -/
theorem apart_of_collisionFree {ps qs : List (Bytes × Bytes)}
    (hps : ∀ p ∈ ps, p.1.length = 32 ∨ p.2.length = 32)
    (hqs : ∀ q ∈ qs, q.1.length = 32 ∧ q.2.length = 32)
    (h : CollisionFree C (ps.map concat ++ qs.map concat)) : Merkle.Apart C.join ps qs := by
  intro p hp q hq hjoin
  have htext : concat p = concat q :=
    h _ (List.mem_append_left _ (List.mem_map_of_mem hp)) _
      (List.mem_append_right _ (List.mem_map_of_mem hq)) hjoin
  obtain ⟨hleft, hright⟩ := hqs q hq
  rcases hps p hp with hlen | hlen
  · obtain ⟨hfirst, hsecond⟩ := List.append_inj htext (hlen.trans hleft.symm)
    exact Prod.ext hfirst hsecond
  · obtain ⟨hfirst, hsecond⟩ := List.append_inj' htext (hlen.trans hright.symm)
    exact Prod.ext hfirst hsecond

/-- Over digests every pair is of digests. -/
theorem length_of_mem_joined {nodes : List Bytes} (h : ∀ node ∈ nodes, node.length = 32) :
    ∀ p ∈ Merkle.joined C.join nodes, p.1.length = 32 ∧ p.2.length = 32 := by
  induction nodes using Merkle.level_induction (H := C.join) with
  | htop nodes hle =>
    rw [Merkle.joined_of_le_one hle]
    simp
  | hlevel nodes hlt ih =>
    intro p hp
    rw [Merkle.joined_eq hlt] at hp
    rcases List.mem_append.mp hp with hpair | hup
    · obtain ⟨hfirst, hsecond⟩ := Merkle.mem_of_mem_pairs hpair
      exact ⟨h _ hfirst, h _ hsecond⟩
    · refine ih (fun node hnode => ?_) p hup
      obtain ⟨q, -, rfl⟩ := List.mem_map.mp hnode
      exact C.length_sha256 _

/-- From a digest on, every pair of a path has one. -/
theorem length_of_mem_walked : ∀ {steps : List (Merkle.Step Bytes)} {node : Bytes},
    node.length = 32 → ∀ p ∈ Merkle.walked C.join node steps, p.1.length = 32 ∨ p.2.length = 32
  | [], _, _, p, hp => by cases hp
  | s :: steps, node, hnode, p, hp => by
    rw [Merkle.walked] at hp
    rcases List.mem_cons.mp hp with rfl | hrest
    · rw [Merkle.Step.pair]
      cases s.onRight with
      | true => exact Or.inl hnode
      | false => exact Or.inr hnode
    · exact length_of_mem_walked (C.length_sha256 _) p hrest

end Aligned

/-! ## Nodes -/

section Nodes

variable {C : Crypto} {nodes nodes' : List Bytes}

theorem merkleRoot_encode (h : ∀ node ∈ nodes, node.length = 32) (hne : nodes ≠ []) :
    merkleRoot C (nodes.map Hex.encode) = (Merkle.root C.join nodes).map Hex.encode := by
  rw [merkleRoot, if_neg (by simpa using hne), mapM_leafNode_encode h]
  rfl

theorem rootTexts_encode (h : ∀ node ∈ nodes, node.length = 32) (hne : nodes ≠ []) :
    rootTexts C (nodes.map Hex.encode) = (Merkle.joined C.join nodes).map concat := by
  rw [rootTexts, if_neg (by simpa using hne), mapM_leafNode_encode h]
  rfl

/-- Equal roots in digits are equal nodes. -/
theorem root_eq_of_merkleRoot_eq (h : ∀ node ∈ nodes, node.length = 32)
    (h' : ∀ node ∈ nodes', node.length = 32) (hne : nodes ≠ []) (hne' : nodes' ≠ [])
    (hroot : merkleRoot C (nodes.map Hex.encode) = merkleRoot C (nodes'.map Hex.encode)) :
    Merkle.root C.join nodes = Merkle.root C.join nodes' := by
  rw [merkleRoot_encode h hne, merkleRoot_encode h' hne'] at hroot
  exact Option.map_injective Hex.encode_injective hroot

theorem apart_of_rootTexts (h : ∀ node ∈ nodes, node.length = 32)
    (h' : ∀ node ∈ nodes', node.length = 32) (hne : nodes ≠ []) (hne' : nodes' ≠ [])
    (hfree : CollisionFree C
      (rootTexts C (nodes.map Hex.encode) ++ rootTexts C (nodes'.map Hex.encode))) :
    Merkle.Apart C.join (Merkle.joined C.join nodes) (Merkle.joined C.join nodes') := by
  rw [rootTexts_encode h hne, rootTexts_encode h' hne'] at hfree
  exact apart_of_collisionFree (fun p hp => Or.inl (length_of_mem_joined h p hp).1)
    (length_of_mem_joined h') hfree

end Nodes

/-! ## Lists of leaves -/

/-- Lists of these lengths have one root only when they are equal. -/
def LengthsBind (m n : ℕ) : Prop := m = n ∨ (m = 0 ∧ 2 ≤ n) ∨ (n = 0 ∧ 2 ≤ m)

section Roots

variable {C : Crypto} {leaves leaves' : List PyStr}

theorem emptyRound_length : emptyRound.length = 21 := rfl

/-- No tree of two leaves or more has the root of the empty round. -/
theorem merkleRoot_ne_nil {nodes : List Bytes} (h : ∀ node ∈ nodes, node.length = 32)
    (hlen : 2 ≤ nodes.length)
    (hfree : CollisionFree C (rootTexts C (nodes.map Hex.encode) ++ [emptyRound])) :
    merkleRoot C (nodes.map Hex.encode) ≠ merkleRoot C [] := by
  intro hroot
  have hne : nodes ≠ [] := List.ne_nil_of_length_pos (by omega)
  obtain ⟨p, hp, htop⟩ := Merkle.root_eq_joinPair (H := C.join) hlen
  rw [merkleRoot_encode h hne, htop, merkleRoot, if_pos rfl, Option.map_some,
    Option.some.injEq] at hroot
  rw [rootTexts_encode h hne] at hfree
  -- a pair of digests is longer than the text of the empty round
  have htext : concat p = emptyRound :=
    hfree _ (List.mem_append_left _ (List.mem_map_of_mem hp)) _ (by simp)
      (Hex.encode_injective hroot)
  have hlong := congrArg List.length htext
  obtain ⟨hfirst, hsecond⟩ := length_of_mem_joined h p hp
  rw [concat, List.length_append, hfirst, hsecond, emptyRound_length] at hlong
  omega

/-- Equal roots of lists whose lengths bind come from equal lists. -/
theorem eq_of_merkleRoot_eq (h : ∀ s ∈ leaves, IsHexLeaf s) (h' : ∀ s ∈ leaves', IsHexLeaf s)
    (hfree : CollisionFree C (rootTexts C leaves ++ rootTexts C leaves'))
    (hlen : LengthsBind leaves.length leaves'.length)
    (hroot : merkleRoot C leaves = merkleRoot C leaves') : leaves = leaves' := by
  obtain ⟨nodes, hnodes, rfl⟩ := exists_nodes h
  obtain ⟨nodes', hnodes', rfl⟩ := exists_nodes h'
  rw [List.length_map, List.length_map] at hlen
  rcases hlen with hsame | ⟨hnil, htwo⟩ | ⟨hnil, htwo⟩
  · by_cases hne : nodes = []
    · subst hne
      rw [List.length_eq_zero_iff.mp hsame.symm]
    · have hne' : nodes' ≠ [] := by
        rintro rfl
        exact hne (List.length_eq_zero_iff.mp hsame)
      rw [Merkle.root_inj hsame (apart_of_rootTexts hnodes hnodes' hne hne' hfree)
        (root_eq_of_merkleRoot_eq hnodes hnodes' hne hne' hroot)]
  · rw [List.length_eq_zero_iff] at hnil
    subst hnil
    refine absurd hroot.symm (merkleRoot_ne_nil hnodes' htwo (hfree.mono fun x hx => ?_))
    rw [List.mem_append, List.mem_singleton] at hx
    rcases hx with hx | rfl
    · exact List.mem_append_right _ hx
    · exact List.mem_append_left _ (by simp [rootTexts])
  · rw [List.length_eq_zero_iff] at hnil
    subst hnil
    exact absurd hroot (merkleRoot_ne_nil hnodes htwo hfree)

/-- A node joined with itself, again and again. -/
theorem length_doubled (k : ℕ) {node : Bytes} (h : node.length = 32) :
    ((fun x => Merkle.joinPair C.join (x, x))^[k] node).length = 32 := by
  cases k with
  | zero => exact h
  | succ k =>
    rw [Function.iterate_succ_apply']
    exact C.length_sha256 _

theorem merkleRoot_replicate {node : Bytes} (h : node.length = 32) {n : ℕ} (hn : 0 < n) :
    merkleRoot C (List.replicate n (Hex.encode node)) = some (Hex.encode
      ((fun x => Merkle.joinPair C.join (x, x))^[Nat.clog 2 n] node)) := by
  have hall : ∀ x ∈ List.replicate n node, x.length = 32 := fun x hx => by
    rw [List.eq_of_mem_replicate hx]
    exact h
  rw [← List.map_replicate, merkleRoot_encode hall (by simp; omega),
    Merkle.root_replicate node hn, Option.map_some]

/-- Copies of one leaf, and copies of a node above it, have one root. -/
theorem exists_merkleRoot_eq_of_le {m n : ℕ} (hm : 0 < m) (hn : 0 < n)
    (hdepth : Nat.clog 2 m ≤ Nat.clog 2 n) :
    ∃ s s', IsHexLeaf s ∧ IsHexLeaf s' ∧
      merkleRoot C (List.replicate m s) = merkleRoot C (List.replicate n s') := by
  have hzero : (List.replicate 32 (0 : UInt8)).length = 32 := List.length_replicate
  have hnode := length_doubled (C := C) (Nat.clog 2 n - Nat.clog 2 m) hzero
  refine ⟨_, _, isHexLeaf_encode hnode, isHexLeaf_encode hzero, ?_⟩
  rw [merkleRoot_replicate hnode hm, merkleRoot_replicate hzero hn, ← Function.iterate_add_apply,
    Nat.add_sub_cancel' hdepth]

theorem merkleRoot_singleton {node : Bytes} (h : node.length = 32) :
    merkleRoot C [Hex.encode node] = some (Hex.encode node) :=
  merkleRoot_replicate (n := 1) h one_pos

/-- Any other two lengths have lists with one root. -/
theorem exists_merkleRoot_eq {m n : ℕ} (h : ¬ LengthsBind m n) :
    ∃ leaves leaves' : List PyStr, leaves.length = m ∧ leaves'.length = n ∧
      (∀ s ∈ leaves, IsHexLeaf s) ∧ (∀ s ∈ leaves', IsHexLeaf s) ∧
        merkleRoot C leaves = merkleRoot C leaves' := by
  rw [LengthsBind, not_or, not_or] at h
  obtain ⟨hne, hzero, hzero'⟩ := h
  have hcopies : ∀ {k : ℕ} {s : PyStr}, IsHexLeaf s → ∀ t ∈ List.replicate k s, IsHexLeaf t :=
    fun hs t ht => List.eq_of_mem_replicate ht ▸ hs
  have hempty : IsHexLeaf (C.sha256Hex emptyRound) := isHexLeaf_encode (C.length_sha256 _)
  rcases Nat.eq_zero_or_pos m with rfl | hm
  · obtain rfl : n = 1 := by omega
    refine ⟨[], [C.sha256Hex emptyRound], rfl, rfl, by simp, by simpa using hempty, ?_⟩
    exact (merkleRoot_singleton (C.length_sha256 _)).symm
  · rcases Nat.eq_zero_or_pos n with rfl | hn
    · obtain rfl : m = 1 := by omega
      refine ⟨[C.sha256Hex emptyRound], [], rfl, rfl, by simpa using hempty, by simp, ?_⟩
      exact merkleRoot_singleton (C.length_sha256 _)
    · rcases Nat.le_total (Nat.clog 2 m) (Nat.clog 2 n) with hle | hle
      · obtain ⟨s, s', hs, hs', hroot⟩ := exists_merkleRoot_eq_of_le (C := C) hm hn hle
        exact ⟨_, _, List.length_replicate, List.length_replicate, hcopies hs, hcopies hs', hroot⟩
      · obtain ⟨s', s, hs', hs, hroot⟩ := exists_merkleRoot_eq_of_le (C := C) hn hm hle
        exact ⟨_, _, List.length_replicate, List.length_replicate, hcopies hs, hcopies hs',
          hroot.symm⟩

end Roots

/-! ## Paths -/

/-- A path over so many leaves has a step for each level; over none it has a step. -/
def PathFits (k m : ℕ) : Prop := (m = 0 ∧ 1 ≤ k) ∨ (0 < m ∧ k = Nat.clog 2 m)

section Paths

variable {C : Crypto} {leaves : List PyStr} {leaf root : PyStr} {path : List PathStep}

theorem verifyMerkleProof_eq_true (h : verifyMerkleProof C leaf path root = some true) :
    ∃ node steps, leafNode C leaf = some node ∧ path.mapM PathStep.step = some steps ∧
      Hex.encode (Merkle.walk C.join node steps) = root := by
  simp only [verifyMerkleProof, Option.bind_eq_bind, Option.bind_eq_some_iff, Option.some.injEq,
    decide_eq_true_eq] at h
  obtain ⟨node, hnode, steps, hsteps, hroot⟩ := h
  exact ⟨node, steps, hnode, hsteps, hroot⟩

theorem length_of_mapM {α β : Type} {f : α → Option β} : ∀ {xs : List α} {ys : List β},
    xs.mapM f = some ys → ys.length = xs.length
  | [], ys, h => by
    rw [List.mapM_nil] at h
    cases h
    rfl
  | x :: xs, ys, h => by
    simp only [List.mapM_cons, Option.bind_eq_bind, Option.bind_eq_some_iff, Option.pure_def,
      Option.some.injEq] at h
    obtain ⟨y, -, rest, hrest, rfl⟩ := h
    rw [List.length_cons, List.length_cons, length_of_mapM hrest]

/-- A path of the right length from a digest starts at a leaf. -/
theorem mem_of_verifyMerkleProof (h : ∀ s ∈ leaves, IsHexLeaf s) (hleaf : IsHexLeaf leaf)
    (hfree : CollisionFree C (rootTexts C leaves ++ pathTexts C leaf path))
    (hfits : PathFits path.length leaves.length) (hroot : merkleRoot C leaves = some root)
    (hverify : verifyMerkleProof C leaf path root = some true) : leaf ∈ leaves := by
  obtain ⟨nodes, hnodes, rfl⟩ := exists_nodes h
  obtain ⟨node, hlen, rfl⟩ := hleaf.exists_node
  obtain ⟨node', steps, hnode', hsteps, hwalk⟩ := verifyMerkleProof_eq_true hverify
  rw [leafNode_encode hlen, Option.some.injEq] at hnode'
  subst hnode'
  have htexts : pathTexts C (Hex.encode node) path =
      (Merkle.walked C.join node steps).map concat := by
    rw [pathTexts, leafNode_encode hlen, hsteps]
  rw [htexts] at hfree
  rw [List.length_map, ← length_of_mapM hsteps] at hfits
  rcases hfits with ⟨hnil, hlong⟩ | ⟨hpos, hdepth⟩
  · -- over no leaves the root is the digest of a text that is shorter than any pair
    rw [List.length_eq_zero_iff] at hnil
    subst hnil
    have hsteps' : steps ≠ [] := List.ne_nil_of_length_pos hlong
    obtain ⟨p, hp, htop⟩ := Merkle.walk_eq_joinPair (H := C.join) hsteps' node
    rw [List.map_nil, merkleRoot, if_pos rfl, Option.some.injEq, ← hwalk, htop] at hroot
    have htext : emptyRound = concat p :=
      hfree _ (by simp [rootTexts]) _ (List.mem_append_right _ (List.mem_map_of_mem hp))
        (Hex.encode_injective hroot)
    have hshort := congrArg List.length htext
    rw [concat, List.length_append, emptyRound_length] at hshort
    rcases length_of_mem_walked hlen p hp with hfirst | hsecond <;> omega
  · have hne : nodes ≠ [] := List.ne_nil_of_length_pos hpos
    rw [merkleRoot_encode hnodes hne] at hroot
    obtain ⟨top, htop, rfl⟩ := Option.map_eq_some_iff.mp hroot
    rw [Hex.encode_injective hwalk.symm] at htop
    rw [rootTexts_encode hnodes hne] at hfree
    refine List.mem_map_of_mem (Merkle.mem_of_walk hdepth (apart_of_collisionFree
      (length_of_mem_walked hlen) (length_of_mem_joined hnodes) (hfree.mono fun x hx => ?_)) htop)
    rw [List.mem_append] at hx ⊢
    exact hx.symm

theorem decode_ofStep (s : Merkle.Step Bytes) : (PathStep.ofStep s).step = some s := by
  have hside : (PyStr.ofString (if s.onRight then "right" else "left") = PyStr.ofString "right") ↔
      s.onRight = true := by
    cases s.onRight with
    | true => exact iff_of_true rfl rfl
    | false => exact iff_of_false (by decide) (by decide)
  simp only [PathStep.step, PathStep.ofStep, Hex.decode_encode, Option.map_some, hside,
    Bool.decide_eq_true]

theorem mapM_ofStep : ∀ steps : List (Merkle.Step Bytes),
    (steps.map PathStep.ofStep).mapM PathStep.step = some steps
  | [] => rfl
  | s :: steps => by
    rw [List.map_cons, List.mapM_cons, decode_ofStep, mapM_ofStep steps]
    rfl

/-- Whatever leads to a node of the tree, be it a leaf or above the leaves, is led on to the
root by the path of that node. -/
theorem exists_verifyMerkleProof {nodes level : List Bytes}
    (h : ∀ node ∈ nodes, node.length = 32) (hne : nodes ≠ [])
    (hlevel : Merkle.IsLevel C.join nodes level)
    (hroot : merkleRoot C (nodes.map Hex.encode) = some root)
    {start node : Bytes} {steps : List (Merkle.Step Bytes)} (hleaf : leafNode C leaf = some start)
    (hpath : path.mapM PathStep.step = some steps) (hwalk : Merkle.walk C.join start steps = node)
    (hnode : node ∈ level) :
    ∃ rest, rest.length = Merkle.depth level ∧
      verifyMerkleProof C leaf (path ++ rest) root = some true := by
  obtain ⟨i, hi⟩ := List.mem_iff_getElem?.mp hnode
  obtain ⟨more, -, hlen, htop⟩ := Merkle.walk_proof (H := C.join) hi
  rw [hlevel.root_eq] at htop
  rw [merkleRoot_encode h hne, htop, Option.map_some, Option.some.injEq] at hroot
  refine ⟨more.map PathStep.ofStep, by rw [List.length_map, hlen], ?_⟩
  rw [verifyMerkleProof, hleaf, List.mapM_append, hpath, mapM_ofStep]
  show some (decide (Hex.encode (Merkle.walk C.join start (steps ++ more)) = root)) = some true
  rw [Merkle.walk_append, hwalk, hroot, decide_eq_true rfl]

end Paths

/-! ## Rounds -/

/-- Commitments bind rounds with so many receipts. -/
def RoundsBind (p q : ℕ) : Prop := p = q ∨ Nat.clog 2 (p + 1) ≠ Nat.clog 2 (q + 1)

section Rounds

variable {C : Crypto} {r r' : Round} {key : SigningKey C} {commitment : Members}

theorem isHexLeaf_ne_nil {s : PyStr} (h : IsHexLeaf s) : s ≠ [] := by
  rintro rfl
  exact absurd h.1 (by simp)

/-- The leaves of a round: its heads in order, and the digest of its vector. -/
theorem leaves_eq (h : ∀ s ∈ r.heads, IsHexLeaf s) :
    r.leaves C = r.heads.insertionSort (· ≤ ·) ++ [vectorDigest C r.vector] := by
  rw [Round.leaves, roundLeaves, List.filter_eq_self.mpr]
  intro s hs
  exact decide_eq_true (isHexLeaf_ne_nil (h s hs))

theorem length_leaves (h : ∀ s ∈ r.heads, IsHexLeaf s) :
    (r.leaves C).length = r.heads.length + 1 := by
  rw [leaves_eq h, List.length_append, List.length_insertionSort, List.length_singleton]

theorem isHexLeaf_of_mem_leaves (h : ∀ s ∈ r.heads, IsHexLeaf s) :
    ∀ s ∈ r.leaves C, IsHexLeaf s := by
  intro s hs
  rw [leaves_eq h] at hs
  rcases List.mem_append.mp hs with hhead | hdigest
  · exact h s ((List.perm_insertionSort (· ≤ ·) r.heads).mem_iff.mp hhead)
  · rw [List.mem_singleton] at hdigest
    rw [hdigest]
    exact isHexLeaf_encode (C.length_sha256 _)

/-- A commitment that is built names its root, and its signature verifies. -/
theorem buildAnchor_eq_some (h : buildAnchor C key r = some commitment) :
    ∃ root, merkleRoot C (r.leaves C) = some root ∧
      get commitment "merkle_root" = some (.str root) ∧ C.signatureOk commitment = true := by
  simp only [buildAnchor, Option.bind_eq_bind, Option.bind_eq_some_iff, Option.some.injEq] at h
  obtain ⟨root, hroot, rfl⟩ := h
  refine ⟨root, hroot, ?_, ?_⟩
  · rw [anchorBody, record_append, get_record]
    simp [List.lookup_cons, List.lookup_nil]
  · have hunsigned : ∀ signature, unsigned (anchorBody C r root (Hex.encode key.publicKey) ++
        record [("signature", .str signature)]) =
          anchorBody C r root (Hex.encode key.publicKey) := fun signature => by
      rw [anchorBody, record_append, unsigned_record]
      simp
    have hkey : ∀ signature, get (anchorBody C r root (Hex.encode key.publicKey) ++
        record [("signature", .str signature)]) "pubkey" =
          some (.str (Hex.encode key.publicKey)) := fun signature => by
      rw [anchorBody, record_append, get_record]
      simp [List.lookup_cons, List.lookup_nil]
    have hsignature : ∀ signature, get (anchorBody C r root (Hex.encode key.publicKey) ++
        record [("signature", .str signature)]) "signature" = some (.str signature) :=
      fun signature => by
        rw [anchorBody, record_append, get_record]
        simp [List.lookup_cons, List.lookup_nil]
    rw [Crypto.signatureOk, hunsigned, hkey, hsignature]
    simp only [Hex.decode_encode]
    exact key.verifies _

/-- What is hashed for two rounds. -/
def roundTexts (C : Crypto) (r r' : Round) : List Bytes :=
  rootTexts C (r.leaves C) ++ rootTexts C (r'.leaves C) ++
    [C.canonical r.vector, C.canonical r'.vector]

/-- A shallow round has the root of a deeper one only when its vector is a text of 64 bytes. -/
theorem merkleRoot_ne_of_deeper (h : ∀ s ∈ r.heads, IsHexLeaf s) (h' : ∀ s ∈ r'.heads, IsHexLeaf s)
    (hdepth : Nat.clog 2 (r.heads.length + 1) < Nat.clog 2 (r'.heads.length + 1))
    (hfree : CollisionFree C (roundTexts C r r')) (hlen : (C.canonical r.vector).length ≠ 64) :
    merkleRoot C (r.leaves C) ≠ merkleRoot C (r'.leaves C) := by
  intro hroot
  have hcount := length_leaves (C := C) h
  have hcount' := length_leaves (C := C) h'
  obtain ⟨nodes, hnodes, hmap⟩ := exists_nodes (isHexLeaf_of_mem_leaves (C := C) h)
  obtain ⟨nodes', hnodes', hmap'⟩ := exists_nodes (isHexLeaf_of_mem_leaves (C := C) h')
  rw [← hmap, List.length_map] at hcount
  rw [← hmap', List.length_map] at hcount'
  have hne : nodes ≠ [] := List.ne_nil_of_length_pos (by omega)
  have hne' : nodes' ≠ [] := List.ne_nil_of_length_pos (by omega)
  -- the digest of the vector is the last node
  have hlast : nodes.getLast? = some (C.sha256 (C.canonical r.vector)) := by
    have hleaf : (nodes.map Hex.encode).getLast? = some (vectorDigest C r.vector) := by
      rw [hmap, leaves_eq h, List.getLast?_append, List.getLast?_singleton, Option.some_or]
    rw [List.getLast?_map] at hleaf
    exact Option.map_injective Hex.encode_injective hleaf
  rw [roundTexts, ← hmap, ← hmap'] at hfree
  rw [← hmap, ← hmap'] at hroot
  have hapart := apart_of_rootTexts hnodes hnodes' hne hne'
    (hfree.mono (List.subset_append_left _ _))
  obtain ⟨p, hp, hjoin⟩ := Merkle.getLast?_of_deeper
    (by rw [Merkle.depth, Merkle.depth, hcount, hcount']; exact hdepth) hne hapart
    (root_eq_of_merkleRoot_eq hnodes hnodes' hne hne' hroot)
  rw [hlast, Option.some.injEq] at hjoin
  have hmem : concat p ∈ rootTexts C (nodes'.map Hex.encode) := by
    rw [rootTexts_encode hnodes' hne']
    exact List.mem_map_of_mem hp
  have htext : C.canonical r.vector = concat p :=
    hfree _ (by simp) _ (by simp [hmem]) hjoin
  obtain ⟨hfirst, hsecond⟩ := length_of_mem_joined hnodes' p hp
  refine hlen ?_
  rw [htext, concat, List.length_append, hfirst, hsecond]

/-- The root that a commitment names is the root of every round it is verified for. -/
theorem merkleRoot_eq_of_verifyAnchor (hbuilt : buildAnchor C key r = some commitment)
    (hverify : verifyAnchor C commitment r'.heads r'.vector = some true) :
    merkleRoot C (r.leaves C) = merkleRoot C (r'.leaves C) := by
  obtain ⟨root, hroot, hnamed, -⟩ := buildAnchor_eq_some hbuilt
  simp only [verifyAnchor, Option.bind_eq_bind, Option.bind_eq_some_iff] at hverify
  obtain ⟨root', hroot', hchecked⟩ := hverify
  rw [hnamed] at hchecked
  split_ifs at hchecked with hdiffer
  · cases hchecked
  · simp only [ne_eq, Option.some.injEq, Json.str.injEq, not_not] at hdiffer
    rw [hroot, hdiffer]
    exact hroot'.symm

/-- A commitment is verified for no round with other heads, when their numbers bind. -/
theorem perm_of_verifyAnchor (h : ∀ s ∈ r.heads, IsHexLeaf s) (h' : ∀ s ∈ r'.heads, IsHexLeaf s)
    (hfree : CollisionFree C (roundTexts C r r'))
    (hlen : r.heads.length ≠ r'.heads.length →
      (C.canonical r.vector).length ≠ 64 ∧ (C.canonical r'.vector).length ≠ 64)
    (hbind : RoundsBind r.heads.length r'.heads.length)
    (hbuilt : buildAnchor C key r = some commitment)
    (hverify : verifyAnchor C commitment r'.heads r'.vector = some true) :
    r.heads.Perm r'.heads := by
  have hroot := merkleRoot_eq_of_verifyAnchor hbuilt hverify
  rcases hbind with hsame | hdepth
  · have hleaves := eq_of_merkleRoot_eq (isHexLeaf_of_mem_leaves h) (isHexLeaf_of_mem_leaves h')
      (hfree.mono (List.subset_append_left _ _))
      (Or.inl (by rw [length_leaves h, length_leaves h', hsame])) hroot
    rw [leaves_eq h, leaves_eq h'] at hleaves
    have hsorted := (List.append_inj' hleaves rfl).1
    have hperm := List.perm_insertionSort (· ≤ ·) r.heads
    rw [hsorted] at hperm
    exact hperm.symm.trans (List.perm_insertionSort (· ≤ ·) r'.heads)
  · have hcount : r.heads.length ≠ r'.heads.length := fun hsame => hdepth (by rw [hsame])
    rcases Nat.lt_or_gt_of_ne hdepth with hlt | hlt
    · exact absurd hroot (merkleRoot_ne_of_deeper h h' hlt hfree (hlen hcount).1)
    · refine absurd hroot.symm
        (merkleRoot_ne_of_deeper h' h hlt (hfree.mono fun x hx => ?_) (hlen hcount).2)
      simp only [roundTexts, List.mem_append, List.mem_cons, List.not_mem_nil, or_false] at hx ⊢
      tauto

/-- A round in which every head is the digest of the vector. -/
def copies (C : Crypto) (vector : Members) (k : ℕ) : Round :=
  ⟨List.replicate k (vectorDigest C vector), vector, [], 0, 0, []⟩

theorem isHexLeaf_of_mem_copies {vector : Members} {k : ℕ} :
    ∀ s ∈ (copies C vector k).heads, IsHexLeaf s :=
  fun _ hs => List.eq_of_mem_replicate hs ▸ isHexLeaf_encode (C.length_sha256 _)

theorem merkleRoot_copies (vector : Members) (k : ℕ) :
    merkleRoot C ((copies C vector k).leaves C) = some (Hex.encode
      ((fun x => Merkle.joinPair C.join (x, x))^[Nat.clog 2 (k + 1)]
        (C.sha256 (C.canonical vector)))) := by
  have hsorted : (List.replicate k (vectorDigest C vector)).insertionSort (· ≤ ·) =
      List.replicate k (vectorDigest C vector) :=
    List.perm_replicate.mp (List.perm_insertionSort (· ≤ ·) _)
  rw [leaves_eq isHexLeaf_of_mem_copies, copies, hsorted, ← List.replicate_succ']
  exact merkleRoot_replicate (C.length_sha256 _) (Nat.succ_pos k)

/-- Any other two numbers of receipts have rounds of which one is verified for the other. -/
theorem verifyAnchor_copies (key : SigningKey C) (vector : Members) {p q : ℕ}
    (h : ¬ RoundsBind p q) :
    ∃ commitment, buildAnchor C key (copies C vector p) = some commitment ∧
      verifyAnchor C commitment (copies C vector q).heads vector = some true := by
  rw [RoundsBind, not_or, not_not] at h
  obtain ⟨commitment, hbuilt⟩ : ∃ commitment,
      buildAnchor C key (copies C vector p) = some commitment := by
    rw [buildAnchor, merkleRoot_copies]
    exact ⟨_, rfl⟩
  obtain ⟨root, hroot, hnamed, hsigned⟩ := buildAnchor_eq_some hbuilt
  refine ⟨commitment, hbuilt, ?_⟩
  have hroot' : merkleRoot C (roundLeaves C (copies C vector q).heads vector) = some root := by
    rw [← hroot, merkleRoot_copies, h.2]
    exact merkleRoot_copies vector q
  rw [verifyAnchor, hroot']
  show (if get commitment "merkle_root" ≠ some (.str root) then some false
    else some (C.signatureOk commitment)) = some true
  rw [if_neg (by simp [hnamed]), hsigned]

end Rounds

/-! ## The commitment -/

/-- What the commitment to a round binds, and what it leaves open. -/
structure CommitmentBinding (C : Crypto) : Prop where
  roots : ∀ leaves leaves', (∀ s ∈ leaves, IsHexLeaf s) → (∀ s ∈ leaves', IsHexLeaf s) →
    CollisionFree C (rootTexts C leaves ++ rootTexts C leaves') →
      LengthsBind leaves.length leaves'.length →
        merkleRoot C leaves = merkleRoot C leaves' → leaves = leaves'
  rootsOpen : ∀ m n, ¬ LengthsBind m n → ∃ leaves leaves' : List PyStr,
    leaves.length = m ∧ leaves'.length = n ∧ (∀ s ∈ leaves, IsHexLeaf s) ∧
      (∀ s ∈ leaves', IsHexLeaf s) ∧ merkleRoot C leaves = merkleRoot C leaves'
  paths : ∀ leaves leaf path root, (∀ s ∈ leaves, IsHexLeaf s) → IsHexLeaf leaf →
    CollisionFree C (rootTexts C leaves ++ pathTexts C leaf path) →
      PathFits path.length leaves.length → merkleRoot C leaves = some root →
        verifyMerkleProof C leaf path root = some true → leaf ∈ leaves
  pathsOpen : ∀ nodes level root, (∀ node ∈ nodes, node.length = 32) → nodes ≠ [] →
    Merkle.IsLevel C.join nodes level → merkleRoot C (nodes.map Hex.encode) = some root →
      ∀ leaf path start steps, leafNode C leaf = some start →
        path.mapM PathStep.step = some steps → Merkle.walk C.join start steps ∈ level →
          ∃ rest, rest.length = Merkle.depth level ∧
            verifyMerkleProof C leaf (path ++ rest) root = some true
  rounds : ∀ (key : SigningKey C) r r' commitment,
    (∀ s ∈ r.heads, IsHexLeaf s) → (∀ s ∈ r'.heads, IsHexLeaf s) →
      CollisionFree C (roundTexts C r r') →
        (r.heads.length ≠ r'.heads.length →
          (C.canonical r.vector).length ≠ 64 ∧ (C.canonical r'.vector).length ≠ 64) →
          RoundsBind r.heads.length r'.heads.length → buildAnchor C key r = some commitment →
            verifyAnchor C commitment r'.heads r'.vector = some true → r.heads.Perm r'.heads
  roundsOpen : ∀ (key : SigningKey C) (vector : Members) p q, ¬ RoundsBind p q →
    ∃ r r' commitment, Round.heads r = List.replicate p (vectorDigest C vector) ∧
      Round.heads r' = List.replicate q (vectorDigest C vector) ∧
        r'.vector = r.vector ∧ buildAnchor C key r = some commitment ∧
          verifyAnchor C commitment r'.heads r'.vector = some true

theorem commitment_binding (C : Crypto) : CommitmentBinding C where
  roots := fun _ _ h h' hfree hlen hroot => eq_of_merkleRoot_eq h h' hfree hlen hroot
  rootsOpen := fun _ _ h => exists_merkleRoot_eq h
  paths := fun _ _ _ _ h hleaf hfree hfits hroot hverify =>
    mem_of_verifyMerkleProof h hleaf hfree hfits hroot hverify
  pathsOpen := fun _ _ _ h hne hlevel hroot _ _ _ _ hleaf hpath hnode =>
    exists_verifyMerkleProof h hne hlevel hroot hleaf hpath rfl hnode
  rounds := fun _ _ _ _ h h' hfree hlen hbind hbuilt hverify =>
    perm_of_verifyAnchor h h' hfree hlen hbind hbuilt hverify
  roundsOpen := fun key vector p q h => by
    obtain ⟨commitment, hbuilt, hverify⟩ := verifyAnchor_copies key vector h
    exact ⟨copies C vector p, copies C vector q, commitment, rfl, rfl, rfl, hbuilt, hverify⟩

/-- A leaf of one digit. -/
def sampleLeaf (c : Char) : PyStr := List.replicate 64 (CodePoint.ofChar c)

def sampleNode (b : UInt8) : Bytes := List.replicate 32 b

theorem sampleLeaf_eq : sampleLeaf 'a' = Hex.encode (sampleNode 0xaa) ∧
    sampleLeaf 'b' = Hex.encode (sampleNode 0xbb) ∧
      sampleLeaf 'c' = Hex.encode (sampleNode 0xcc) ∧
        Hex.decode (sampleLeaf 'A') = some (sampleNode 0xaa) := by decide +kernel

theorem roundsBind_two_three : ¬ RoundsBind 2 3 := by
  rw [RoundsBind, not_or, not_not]
  refine ⟨by omega, ?_⟩
  rw [Nat.clog_of_two_le (n := 2 + 1) (by omega) (by omega),
    Nat.clog_of_two_le (n := 3 + 1) (by omega) (by omega)]

/-- Three leaves, and the same with the last one twice, have one root; a leaf in upper case is
proved to be in a list that does not have it; a round of two receipts is verified as one of
three. -/
theorem commitment_open :
    (∀ C, merkleRoot C [sampleLeaf 'a', sampleLeaf 'b', sampleLeaf 'c'] =
      merkleRoot C [sampleLeaf 'a', sampleLeaf 'b', sampleLeaf 'c', sampleLeaf 'c']) ∧
    (∀ C, merkleRoot C [sampleLeaf 'a'] = some (sampleLeaf 'a') ∧
      verifyMerkleProof C (sampleLeaf 'A') [] (sampleLeaf 'a') = some true ∧
        sampleLeaf 'A' ∉ [sampleLeaf 'a']) ∧
    ∀ (C : Crypto) (key : SigningKey C), ∃ (r r' : Round) (commitment : Members),
      buildAnchor C key r = some commitment ∧
        verifyAnchor C commitment r'.heads r'.vector = some true ∧ ¬ r.heads.Perm r'.heads := by
  obtain ⟨ha, hb, hc, hupper⟩ := sampleLeaf_eq
  have hlen : ∀ b, (sampleNode b).length = 32 := fun b => List.length_replicate
  refine ⟨fun C => ?_, fun C => ⟨?_, ?_, by decide⟩, fun C key => ?_⟩
  · have hthree : merkleRoot C ([sampleNode 0xaa, sampleNode 0xbb, sampleNode 0xcc].map Hex.encode)
        = (Merkle.root C.join _).map Hex.encode :=
      merkleRoot_encode (by simp [hlen]) (by simp)
    have hfour : merkleRoot C
        ([sampleNode 0xaa, sampleNode 0xbb, sampleNode 0xcc, sampleNode 0xcc].map Hex.encode) =
          (Merkle.root C.join _).map Hex.encode :=
      merkleRoot_encode (by simp [hlen]) (by simp)
    rw [ha, hb, hc]
    refine hthree.trans (Eq.trans ?_ hfour.symm)
    -- the last of three is doubled
    rw [← Merkle.root_levelUp (l := [_, _, _]) (by simp),
      ← Merkle.root_levelUp (l := [_, _, _, _]) (by simp)]
    rfl
  · rw [ha]
    exact merkleRoot_singleton (hlen _)
  · have hnode : leafNode C (sampleLeaf 'A') = some (sampleNode 0xaa) := by
      rw [leafNode, if_pos (by decide), hupper]
    rw [verifyMerkleProof, hnode, ha]
    show some (decide (Hex.encode (sampleNode 0xaa) = Hex.encode (sampleNode 0xaa))) = some true
    rw [decide_eq_true rfl]
  · obtain ⟨commitment, hbuilt, hverify⟩ := verifyAnchor_copies key [] roundsBind_two_three
    refine ⟨copies C [] 2, copies C [] 3, commitment, hbuilt, hverify, fun hperm => ?_⟩
    have hcount := hperm.length_eq
    rw [copies, copies, List.length_replicate, List.length_replicate] at hcount
    omega

end Cathedral.Arena
