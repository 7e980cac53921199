import Cathedral.Arena.Primitives
import Cathedral.Lib.Merkle

/-!
# Cathedral.Arena.Anchor — the commitment to a round

`game/arena/anchor.py`: the heads of the receipts of a round and the digest of its signed
vector are the leaves of a hash tree whose root is signed. The root says nothing of the
number of leaves; the commitment carries that number, and nothing compares it.

A leaf that is read as digits stands for its bytes, however it is spelled; a leaf in digits
as the code writes them is the spelling of one node (`IsHexLeaf.exists_node`).
-/

namespace Cathedral.Arena

/-! ## The tree -/

/-- `_leaf`; `none` where `encode` raises. -/
def leafNode (C : Crypto) (s : PyStr) : Option Bytes :=
  match if s.length = 64 then Hex.decode s else none with
  | some bytes => some bytes
  | none => (utf8 s).map C.sha256

/-- `_h(left + right)`. -/
def Crypto.join (C : Crypto) (left right : Bytes) : Bytes := C.sha256 (left ++ right)

def emptyRound : Bytes := asciiBytes "cathedral-empty-round".toList

def merkleRoot (C : Crypto) (leaves : List PyStr) : Option PyStr :=
  if leaves = [] then some (C.sha256Hex emptyRound)
  else do
    let nodes ← leaves.mapM (leafNode C)
    (Merkle.root C.join nodes).map Hex.encode

/-- A step of a path as the proof carries it. -/
structure PathStep where
  hash : PyStr
  side : PyStr

def PathStep.ofStep (s : Merkle.Step Bytes) : PathStep :=
  ⟨Hex.encode s.sibling, PyStr.ofString (if s.onRight then "right" else "left")⟩

def PathStep.step (s : PathStep) : Option (Merkle.Step Bytes) :=
  (Hex.decode s.hash).map fun sibling => ⟨sibling, s.side = PyStr.ofString "right"⟩

/-- `merkle_proof`; `none` where a leaf cannot be encoded or is missing. -/
def merkleProof (C : Crypto) (leaves : List PyStr) (index : ℕ) : Option (List PathStep) := do
  let nodes ← leaves.mapM (leafNode C)
  let steps ← Merkle.proof C.join nodes index
  some (steps.map PathStep.ofStep)

/-- `verify_merkle_proof`; `none` where `fromhex` or `encode` raises. -/
def verifyMerkleProof (C : Crypto) (leaf : PyStr) (path : List PathStep) (root : PyStr) :
    Option Bool := do
  let node ← leafNode C leaf
  let steps ← path.mapM PathStep.step
  some (Hex.encode (Merkle.walk C.join node steps) = root)

/-! ## The commitment -/

def vectorDigest (C : Crypto) (vector : Members) : PyStr := C.sha256Hex (C.canonical vector)

/-- `round_leaves`, of the trace digests of the agents. -/
def roundLeaves (C : Crypto) (heads : List PyStr) (vector : Members) : List PyStr :=
  (heads.filter (· ≠ [])).insertionSort (· ≤ ·) ++ [vectorDigest C vector]

/-- A round as it is committed to. -/
structure Round where
  heads : List PyStr
  vector : Members
  season : PyStr
  roundNo : ℤ
  epoch : ℤ
  anchoredAt : PyStr

def Round.leaves (C : Crypto) (r : Round) : List PyStr := roundLeaves C r.heads r.vector

/-- `build_anchor` without the signature. -/
def anchorBody (C : Crypto) (r : Round) (root publicKey : PyStr) : Members :=
  record [("season", .str r.season), ("round", integer r.roundNo), ("epoch", integer r.epoch),
    ("merkle_root", .str root), ("n_leaves", integer (r.leaves C).length),
    ("policy_version", (get r.vector "policy_version").getD .null),
    ("anchored_at", .str r.anchoredAt), ("pubkey", .str publicKey),
    ("anchor_target", text "bittensor commitment (DEFERRED — no mainnet write)")]

def buildAnchor (C : Crypto) (key : SigningKey C) (r : Round) : Option Members := do
  let root ← merkleRoot C (r.leaves C)
  let body := anchorBody C r root (Hex.encode key.publicKey)
  some (body ++ record [("signature", .str (Hex.encode (key.sign (C.canonical body))))])

/-- `verify_anchor`; `none` where a leaf cannot be encoded. -/
def verifyAnchor (C : Crypto) (commitment : Members) (heads : List PyStr) (vector : Members) :
    Option Bool := do
  let root ← merkleRoot C (roundLeaves C heads vector)
  if get commitment "merkle_root" ≠ some (.str root) then some false
  else some (C.signatureOk commitment)

/-! ## Hexadecimal leaves -/

/-- A digest as the code writes it. -/
def IsHexLeaf (s : PyStr) : Prop := s.length = 64 ∧ ∀ p ∈ s, Hex.IsLower p

instance (s : PyStr) : Decidable (IsHexLeaf s) := inferInstanceAs (Decidable (_ ∧ _))

section Leaves

variable {C : Crypto} {s : PyStr} {leaves : List PyStr}

theorem isHexLeaf_encode {bytes : Bytes} (h : bytes.length = 32) : IsHexLeaf (Hex.encode bytes) :=
  ⟨by rw [Hex.length_encode, h], fun _ => Hex.isLower_of_mem_encode⟩

theorem leafNode_encode {bytes : Bytes} (h : bytes.length = 32) :
    leafNode C (Hex.encode bytes) = some bytes := by
  rw [leafNode, if_pos (by rw [Hex.length_encode, h]), Hex.decode_encode]

/-- The digits of a leaf are those of its node. -/
theorem IsHexLeaf.exists_node (h : IsHexLeaf s) :
    ∃ node : Bytes, node.length = 32 ∧ Hex.encode node = s := by
  obtain ⟨node, -, hencode⟩ := Hex.encode_decode h.2 (by rw [h.1])
  refine ⟨node, ?_, hencode⟩
  have hlen := congrArg List.length hencode
  rw [Hex.length_encode, h.1] at hlen
  omega

/-- Leaves in digits are read as their nodes. -/
theorem mapM_leafNode_encode : ∀ {nodes : List Bytes}, (∀ node ∈ nodes, node.length = 32) →
    (nodes.map Hex.encode).mapM (leafNode C) = some nodes
  | [], _ => rfl
  | node :: nodes, h => by
    rw [List.map_cons, List.mapM_cons, leafNode_encode (h node List.mem_cons_self),
      mapM_leafNode_encode fun n hn => h n (List.mem_cons_of_mem node hn)]
    rfl

theorem exists_nodes : ∀ {leaves : List PyStr}, (∀ s ∈ leaves, IsHexLeaf s) →
    ∃ nodes : List Bytes, (∀ node ∈ nodes, node.length = 32) ∧ nodes.map Hex.encode = leaves
  | [], _ => ⟨[], by simp, rfl⟩
  | s :: leaves, h => by
    obtain ⟨node, hlen, rfl⟩ := (h s List.mem_cons_self).exists_node
    obtain ⟨nodes, hnodes, rfl⟩ :=
      exists_nodes fun t ht => h t (List.mem_cons_of_mem _ ht)
    refine ⟨node :: nodes, fun n hn => ?_, rfl⟩
    rcases List.mem_cons.mp hn with rfl | hn
    · exact hlen
    · exact hnodes n hn

end Leaves

end Cathedral.Arena
