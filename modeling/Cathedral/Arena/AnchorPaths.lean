import Cathedral.Arena.AnchorBinding

/-!
# Cathedral.Arena.AnchorPaths — the path to a leaf is accepted

Whatever the leaves are, digits or texts that are hashed, the path that is built for one of
them leads from it to the root over all of them: `verify_merkleProof`. That is for leaves that
can be encoded; one with a lone surrogate raises where it is hashed.
-/

namespace Cathedral.Arena

variable {C : Crypto} {leaves : List PyStr} {s : PyStr} {i : ℕ}

/-- A text that `encode` takes. -/
def Encodable (s : PyStr) : Prop := (utf8 s).isSome

instance (s : PyStr) : Decidable (Encodable s) := inferInstanceAs (Decidable (_ = _))

theorem exists_leafNode (C : Crypto) (h : Encodable s) : ∃ node, leafNode C s = some node := by
  obtain ⟨bytes, hbytes⟩ := Option.isSome_iff_exists.mp h
  rw [leafNode]
  split
  · exact ⟨_, rfl⟩
  · exact ⟨C.sha256 bytes, by rw [hbytes]; rfl⟩

/-- Every leaf has its node, at its own place. -/
theorem exists_mapM_leafNode (C : Crypto) : ∀ {leaves : List PyStr}, (∀ s ∈ leaves, Encodable s) →
    ∃ nodes, leaves.mapM (leafNode C) = some nodes ∧ nodes.length = leaves.length ∧
      ∀ (i : ℕ) (hi : i < leaves.length), ∃ x, leafNode C leaves[i] = some x ∧ nodes[i]? = some x
  | [], _ => ⟨[], rfl, rfl, fun i hi => absurd hi (Nat.not_lt_zero i)⟩
  | s :: leaves, h => by
    obtain ⟨node, hnode⟩ := exists_leafNode C (h s List.mem_cons_self)
    obtain ⟨nodes, hnodes, hlen, hat⟩ :=
      exists_mapM_leafNode C fun t ht => h t (List.mem_cons_of_mem s ht)
    refine ⟨node :: nodes, ?_, by rw [List.length_cons, List.length_cons, hlen], fun i hi => ?_⟩
    · rw [List.mapM_cons, hnode, hnodes]
      rfl
    · cases i with
      | zero => exact ⟨node, hnode, rfl⟩
      | succ i => exact hat i (Nat.lt_of_succ_lt_succ hi)

/-- What verifies of a leaf: the path built for it leads to the root that is built over all
leaves, and has as many steps as the tree is high. -/
def PathAccepted (C : Crypto) (leaves : List PyStr) (i : ℕ) : Prop :=
  ∃ leaf path root, leaves[i]? = some leaf ∧ merkleProof C leaves i = some path ∧
    merkleRoot C leaves = some root ∧ verifyMerkleProof C leaf path root = some true ∧
      path.length = Nat.clog 2 leaves.length

theorem verify_merkleProof (C : Crypto) (leaves : List PyStr) (h : ∀ s ∈ leaves, Encodable s)
    (i : ℕ) (hi : i < leaves.length) : PathAccepted C leaves i := by
  obtain ⟨nodes, hnodes, hlen, hat⟩ := exists_mapM_leafNode C h
  obtain ⟨x, hx, hnode⟩ := hat i hi
  obtain ⟨steps, hsteps, hheight, hroot⟩ := Merkle.walk_proof (H := C.join) hnode
  have hne : leaves ≠ [] := List.ne_nil_of_length_pos (by omega)
  refine ⟨leaves[i], steps.map PathStep.ofStep, Hex.encode (Merkle.walk C.join x steps),
    List.getElem?_eq_getElem hi, ?_, ?_, ?_, ?_⟩
  · rw [merkleProof, hnodes, Option.bind_eq_bind, Option.bind_some, hsteps]
    rfl
  · rw [merkleRoot, if_neg hne, hnodes, Option.bind_eq_bind, Option.bind_some, hroot]
    rfl
  · rw [verifyMerkleProof, hx, mapM_ofStep]
    show some (decide (Hex.encode (Merkle.walk C.join x steps) = _)) = some true
    rw [decide_eq_true rfl]
  · rw [List.length_map, hheight, Merkle.depth, hlen]

/-- Digits, a text and the empty text: the last leaf is doubled, and its path is of two steps. -/
theorem last_of_three_accepted :
    (∀ s ∈ [sampleLeaf 'a', PyStr.ofString "agent", []], Encodable s) ∧
      ∀ C : Crypto, PathAccepted C [sampleLeaf 'a', PyStr.ofString "agent", []] 2 :=
  ⟨by decide +kernel, fun C => verify_merkleProof C _ (by decide +kernel) 2 (by decide)⟩

/-- A leaf with a lone surrogate leaves the tree without a root. -/
theorem surrogate_leaf_raises :
    ¬ Encodable [0xD800] ∧
      ∀ C : Crypto, merkleRoot C [[0xD800]] = none ∧ merkleProof C [[0xD800]] 0 = none ∧
        ¬ PathAccepted C [[0xD800]] 0 := by
  refine ⟨by decide, fun C => ?_⟩
  have hroot : merkleRoot C [[0xD800]] = none := rfl
  refine ⟨hroot, rfl, ?_⟩
  rintro ⟨leaf, path, root, -, -, hsome, -⟩
  rw [hroot] at hsome
  cases hsome

end Cathedral.Arena
