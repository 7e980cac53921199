import Cathedral.Lib.Hex
import Cathedral.Lib.PyValue

/-!
# Cathedral.Arena.Primitives — hashes, signatures and documents of the arena

What the modules under `game/arena` take from `hashlib`, `cryptography` and `json`. Of
SHA-256 only the length of a digest is known; that there are no collisions is said, where
it matters, of the texts that are hashed there.
-/

namespace Cathedral.Arena

/-- The members of a dictionary with texts as keys. -/
abbrev Members : Type := List (PyStr × PyJson.Value)

structure Crypto where
  sha256 : Bytes → Bytes
  length_sha256 : ∀ text, (sha256 text).length = 32
  /-- `Ed25519PublicKey.verify` of a public key, a signature and a message; false where it, or
  reading the key, raises. -/
  ed25519 : Bytes → Bytes → Bytes → Bool
  /-- `float.__repr__`. -/
  floatRepr : ℚ → List Char

/-- A private key: what it signs verifies. -/
structure SigningKey (C : Crypto) where
  publicKey : Bytes
  sign : Bytes → Bytes
  verifies : ∀ message, C.ed25519 publicKey (sign message) message = true

/-- Of these texts no two have one digest. -/
def CollisionFree (C : Crypto) (texts : List Bytes) : Prop :=
  ∀ x ∈ texts, ∀ y ∈ texts, C.sha256 x = C.sha256 y → x = y

theorem CollisionFree.mono {C : Crypto} {texts texts' : List Bytes} (h : CollisionFree C texts)
    (hsub : texts' ⊆ texts) : CollisionFree C texts' :=
  fun x hx y hy => h x (hsub hx) y (hsub hy)

/-- `hashlib.sha256(...).hexdigest()`. -/
def Crypto.sha256Hex (C : Crypto) (text : Bytes) : PyStr := Hex.encode (C.sha256 text)

@[simp] theorem Crypto.length_sha256Hex (C : Crypto) (text : Bytes) :
    (C.sha256Hex text).length = 64 := by
  rw [Crypto.sha256Hex, Hex.length_encode, C.length_sha256]

/-- `text.encode()`; `none` where it raises `UnicodeEncodeError`. -/
def utf8 (text : PyStr) : Option Bytes := (PyStr.encode? text).map fun s => encodeUtf8 s.toList

/-- `json.dumps` of a number. -/
def Crypto.numeral (C : Crypto) : PyNumber → List Char
  | .int n => Json.intNumeral n
  | .float (.finite q) => C.floatRepr q
  | .float .nan => "NaN".toList
  | .float .posInf => "Infinity".toList
  | .float .negInf => "-Infinity".toList

/-- `json.dumps(members, sort_keys=True, separators=(",", ":")).encode()`. -/
def Crypto.canonical (C : Crypto) (members : Members) : Bytes :=
  asciiBytes (Json.render C.numeral (Json.obj members).sorted)

/-- `hashlib.sha256(json.dumps(members, sort_keys=True).encode()).hexdigest()`: the separators are
not those of `canonical`. -/
def Crypto.sha (C : Crypto) (members : Members) : PyStr :=
  C.sha256Hex (asciiBytes (PyJson.renderSpaced C.numeral (Json.obj members).sorted))

/-- `members.get(name)`. -/
def get (members : Members) (name : String) : Option PyJson.Value :=
  Dict.find (PyStr.ofString name) members

/-- The members of a dictionary with constant keys. -/
def record (members : List (String × PyJson.Value)) : Members :=
  members.map fun m => (PyStr.ofString m.1, m.2)

/-- A text that a constant is. -/
def text (s : String) : PyJson.Value := .str (PyStr.ofString s)

def integer (n : ℤ) : PyJson.Value := .num (.int n)

/-- `all` of a signed document but its signature. -/
def unsigned (members : Members) : Members :=
  members.filter fun m => m.1 ≠ PyStr.ofString "signature"

theorem get_record (members : List (String × PyJson.Value)) (name : String) :
    get (record members) name = members.lookup name := by
  induction members with
  | nil => rfl
  | cons m members ih =>
    rw [record, List.map_cons, List.lookup_cons, get, Dict.find]
    by_cases hname : m.1 = name
    · subst hname
      rw [if_pos rfl, beq_self_eq_true]
    · rw [if_neg fun h => hname (PyStr.ofString_injective h), beq_false_of_ne (Ne.symm hname)]
      exact ih

theorem unsigned_record (members : List (String × PyJson.Value)) :
    unsigned (record members) = record (members.filter fun m => m.1 ≠ "signature") := by
  rw [unsigned, record, record, List.filter_map]
  congr 1
  apply List.filter_congr
  intro m _
  simp only [Function.comp_apply, ne_eq, PyStr.ofString_injective.eq_iff]

theorem record_append (members members' : List (String × PyJson.Value)) :
    record members ++ record members' = record (members ++ members') := List.map_append.symm

/-- The signature of a document verifies under the key that the document names. -/
def Crypto.signatureOk (C : Crypto) (members : Members) : Bool :=
  match get members "pubkey", get members "signature" with
  | some (.str publicKey), some (.str signature) =>
    match Hex.decode publicKey, Hex.decode signature with
    | some publicKey, some signature =>
      C.ed25519 publicKey signature (C.canonical (unsigned members))
    | _, _ => false
  | _, _ => false

end Cathedral.Arena
