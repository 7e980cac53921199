import Cathedral.Lib.JsonRoundTrip
import Cathedral.Lib.Url
import Cathedral.Lib.UtcTime
import Cathedral.Thin.Core

/-!
# Cathedral.Thin.Documents — canonical documents and their fields

`parse_strict_json`, `canonical_json` and the field checks of
`cathedral_thin/score_classes.py`, on which reports, receipts and bundles rest.
A document is one JSON object with integers only. Its keys are looked up as
Python strings; a field that has passed its check is a text.

Two Python exceptions can leave the checks besides `ThinSubnetError`: a string
with a lone surrogate raises `UnicodeEncodeError` where its UTF-8 length is
taken, and `urlsplit` raises `ValueError`.

In messages a surrogate shows as U+FFFD, and the `repr` of a key is its text in
quotes.
-/

namespace Cathedral.Thin

/-- What the documents take from the interpreter, the URL library and the hash. -/
structure Platform where
  /-- Containers that the JSON reader opens before it raises `RecursionError`. -/
  readDepth : ℕ
  /-- Containers that the JSON writer enters before it raises `RecursionError`. -/
  writeDepth : ℕ
  urls : Url.Tables
  sha256 : Bytes → Sha256

abbrev Document : Type := Json ℤ

/-- The members of an object. -/
abbrev Fields : Type := List (PyStr × Document)

/-! ## Reading and writing -/

/-- The digits that `int` and `str` convert. -/
def maxStrDigits : ℕ := 4300

def parseInt (text : List Char) : Except Exc ℤ :=
  if maxStrDigits < (text.filter Char.isDigit).length then
    .error (.other "ValueError" "Exceeds the limit (4300 digits) for integer string conversion")
  else do
    let parsed := Json.readInt text
    refuse (¬ (-2 ^ 63 ≤ parsed ∧ parsed ≤ 2 ^ 63 - 1)) "JSON integer outside signed 64-bit range"
    pure parsed

/-- The hooks that `parse_strict_json` passes to `json.loads`. -/
def strictHooks : Json.Hooks ℤ Exc where
  int := parseInt
  float _ := fail "floating-point JSON is forbidden; use decimal strings"
  constant _ := fail "non-finite JSON is forbidden"
  duplicate name := .thinSubnetError ("duplicate JSON key: " ++ PyStr.display name)

def parseStrictJson (platform : Platform) (raw : Bytes) (maximumBytes : ℕ) : Except Exc Fields :=
  if raw = [] ∨ maximumBytes < raw.length then
    fail "JSON artifact is empty or exceeds the size limit"
  else
    match decodeUtf8 raw with
    | none => fail "artifact is not strict UTF-8 JSON"
    | some text =>
      match Json.loads strictHooks platform.readDepth text with
      | .ok (.obj fields) => pure fields
      | .ok _ => fail "artifact must be a JSON object"
      | .error (.hook (.thinSubnetError message)) => fail message
      | .error _ => fail "artifact is not strict UTF-8 JSON"

/-- `int.__repr__` does not raise. -/
def numeralFits (n : ℤ) : Bool := n.natAbs < 10 ^ maxStrDigits

/-- `json.dumps(value, sort_keys=True, ensure_ascii=True, separators=(",", ":"))`. -/
def dumps (value : Document) : Bytes := asciiBytes (Json.render Json.intNumeral value.sorted)

def canonicalJson (platform : Platform) (value : Document) : Except Exc Bytes :=
  if value.fits numeralFits platform.writeDepth then pure (dumps value)
  else fail "artifact contains a non-canonical value"

/-- A ThinSubnetError, the exception that callers isolate. -/
def Exc.IsThin (e : Exc) : Prop := ∃ message, e = .thinSubnetError message

/-- A computation that raises nothing but `ThinSubnetError`. -/
def Isolated {α : Type} (x : Except Exc α) : Prop := ∀ e, x = .error e → e.IsThin

@[simp] theorem isolated_ok {α : Type} (a : α) : Isolated (.ok a : Except Exc α) := by
  intro e h
  cases h

@[simp] theorem isolated_pure {α : Type} (a : α) : Isolated (pure a : Except Exc α) := isolated_ok a

@[simp] theorem isolated_fail {α : Type} (message : String) :
    Isolated (fail message : Except Exc α) := by
  intro e h
  cases h
  exact ⟨message, rfl⟩

@[simp] theorem isolated_refuse {condition : Prop} [Decidable condition] {message : String} :
    Isolated (refuse condition message) := by
  unfold refuse
  split_ifs
  · exact isolated_fail message
  · exact isolated_ok ()

variable {α β : Type}

theorem Isolated.bind {x : Except Exc α} {f : α → Except Exc β} (hx : Isolated x)
    (hf : ∀ a, x = .ok a → Isolated (f a)) : Isolated (x >>= f) := by
  intro e h
  rcases bind_eq_error.mp h with h | ⟨a, ha, h⟩
  · exact hx e h
  · exact hf a ha e h

/-- A block of steps is isolated if all of its steps are, which `simp` finds out step by step. -/
@[simp] theorem isolated_bind_iff {x : Except Exc α} {f : α → Except Exc β} :
    Isolated (x >>= f) ↔ Isolated x ∧ ∀ a, x = .ok a → Isolated (f a) := by
  constructor
  · intro h
    exact ⟨fun e he => h e (bind_eq_error.mpr (.inl he)),
      fun a ha e he => h e (bind_eq_error.mpr (.inr ⟨a, ha, he⟩))⟩
  · exact fun h => h.1.bind h.2

@[simp] theorem isolated_map_iff {x : Except Exc α} {f : α → β} :
    Isolated (f <$> x) ↔ Isolated x := by
  cases x with
  | error e => simp [Isolated, Functor.map, Except.map]
  | ok a => exact iff_of_true (isolated_ok (f a)) (isolated_ok a)

@[simp] theorem isolated_ite {c : Prop} [Decidable c] {x y : Except Exc α} :
    Isolated (if c then x else y) ↔ (c → Isolated x) ∧ (¬ c → Isolated y) := by
  split_ifs with hc
  · simp [hc]
  · simp [hc]

/-- A computation that raises something else. -/
def Escapes {α : Type} (x : Except Exc α) : Prop := ∃ e, x = .error e ∧ ¬ e.IsThin

theorem isolated_iff {α : Type} {x : Except Exc α} : Isolated x ↔ ¬ Escapes x := by
  constructor
  · rintro h ⟨e, he, hthin⟩
    exact hthin (h e he)
  · intro h e he
    by_contra hthin
    exact h ⟨e, he, hthin⟩

theorem Isolated.not_escapes {α : Type} {x : Except Exc α} (h : Isolated x) : ¬ Escapes x :=
  isolated_iff.mp h

theorem escapes_bind_iff {x : Except Exc α} {f : α → Except Exc β} :
    Escapes (x >>= f) ↔ Escapes x ∨ ∃ a, x = .ok a ∧ Escapes (f a) := by
  constructor
  · rintro ⟨e, he, hthin⟩
    rcases bind_eq_error.mp he with hx | ⟨a, ha, hf⟩
    · exact Or.inl ⟨e, hx, hthin⟩
    · exact Or.inr ⟨a, ha, e, hf, hthin⟩
  · rintro (⟨e, hx, hthin⟩ | ⟨a, ha, e, hf, hthin⟩)
    · exact ⟨e, bind_eq_error.mpr (.inl hx), hthin⟩
    · exact ⟨e, bind_eq_error.mpr (.inr ⟨a, ha, hf⟩), hthin⟩

/-- A sequence whose first part is isolated escapes in its second. -/
theorem Isolated.escapes_bind_iff {x : Except Exc α} {f : α → Except Exc β} (hx : Isolated x) :
    Escapes (x >>= f) ↔ ∃ a, x = .ok a ∧ Escapes (f a) := by
  rw [Cathedral.Thin.escapes_bind_iff, or_iff_right hx.not_escapes]

/-- A sequence whose second part is isolated escapes in its first. -/
theorem escapes_bind_iff_left {x : Except Exc α} {f : α → Except Exc β}
    (hf : ∀ a, x = .ok a → Isolated (f a)) : Escapes (x >>= f) ↔ Escapes x := by
  rw [escapes_bind_iff, or_iff_left]
  rintro ⟨a, ha, hescape⟩
  exact (hf a ha).not_escapes hescape

/-- A loop escapes exactly in a pass that it reaches. -/
theorem escapes_foldlM_iff {step : β → α → Except Exc β} {xs : List α} {acc : β} :
    Escapes (xs.foldlM step acc) ↔ ∃ before x after acc', xs = before ++ x :: after ∧
      before.foldlM step acc = .ok acc' ∧ Escapes (step acc' x) := by
  induction xs generalizing acc with
  | nil =>
    constructor
    · intro h
      exact absurd h (isolated_ok acc).not_escapes
    · rintro ⟨before, x, after, _, heq, _⟩
      simp at heq
  | cons x xs ih =>
    rw [List.foldlM_cons, escapes_bind_iff]
    constructor
    · rintro (hx | ⟨mid, hmid, hxs⟩)
      · exact ⟨[], x, xs, acc, rfl, rfl, hx⟩
      · rcases ih.mp hxs with ⟨before, y, after, acc', rfl, hbefore, hy⟩
        exact ⟨x :: before, y, after, acc', rfl, bind_eq_ok.mpr ⟨mid, hmid, hbefore⟩, hy⟩
    · rintro ⟨before, y, after, acc', heq, hbefore, hy⟩
      cases before with
      | nil =>
        cases heq
        cases hbefore
        exact Or.inl hy
      | cons z before =>
        rw [List.cons_append, List.cons.injEq] at heq
        rcases heq with ⟨rfl, rfl⟩
        rcases bind_eq_ok.mp hbefore with ⟨mid, hmid, hbefore⟩
        exact Or.inr ⟨mid, hmid, ih.mpr ⟨before, y, after, acc', rfl, hbefore, hy⟩⟩

/-- A loop that isolates everything else escapes exactly if an item makes its pass escape. -/
theorem escapes_foldlM_of_total {step : β → α → Except Exc β} {P : α → Prop}
    (hescapes : ∀ acc x, P x → Escapes (step acc x))
    (htotal : ∀ acc x, ¬ P x → ∃ acc', step acc x = .ok acc') {xs : List α} {acc : β} :
    Escapes (xs.foldlM step acc) ↔ ∃ x ∈ xs, P x := by
  induction xs generalizing acc with
  | nil =>
    constructor
    · intro h
      exact absurd h (isolated_ok acc).not_escapes
    · rintro ⟨x, hx, _⟩
      exact absurd hx List.not_mem_nil
  | cons x xs ih =>
    rw [List.foldlM_cons, escapes_bind_iff, List.exists_mem_cons_iff]
    by_cases hx : P x
    · exact iff_of_true (.inl (hescapes acc x hx)) (.inl hx)
    · rcases htotal acc x hx with ⟨mid, hmid⟩
      rw [hmid, or_iff_right (isolated_ok mid).not_escapes, or_iff_right hx]
      constructor
      · rintro ⟨acc', hacc', h⟩
        cases hacc'
        exact ih.mp h
      · intro h
        exact ⟨mid, rfl, ih.mpr h⟩

/-- A comprehension escapes exactly at an item that it reaches. -/
theorem escapes_mapM_iff {f : α → Except Exc β} {xs : List α} :
    Escapes (xs.mapM f) ↔ ∃ before x after, xs = before ++ x :: after ∧
      (∀ y ∈ before, ∃ b, f y = .ok b) ∧ Escapes (f x) := by
  induction xs with
  | nil =>
    constructor
    · intro h
      exact absurd h (isolated_ok []).not_escapes
    · rintro ⟨before, x, after, heq, _⟩
      simp at heq
  | cons x xs ih =>
    rw [List.mapM_cons, escapes_bind_iff]
    constructor
    · rintro (hx | ⟨b, hb, hxs⟩)
      · exact ⟨[], x, xs, rfl, by simp, hx⟩
      · have hxs := (escapes_bind_iff_left fun bs _ => isolated_pure (b :: bs)).mp hxs
        rcases ih.mp hxs with ⟨before, y, after, rfl, hbefore, hy⟩
        exact ⟨x :: before, y, after, rfl, List.forall_mem_cons.mpr ⟨⟨b, hb⟩, hbefore⟩, hy⟩
    · rintro ⟨before, y, after, heq, hbefore, hy⟩
      cases before with
      | nil =>
        cases heq
        exact Or.inl hy
      | cons z before =>
        rw [List.cons_append, List.cons.injEq] at heq
        rcases heq with ⟨rfl, rfl⟩
        rcases hbefore x (List.mem_cons_self ..) with ⟨b, hb⟩
        refine Or.inr ⟨b, hb, escapes_bind_iff.mpr (Or.inl (ih.mpr ?_))⟩
        exact ⟨before, y, after, rfl, fun w hw => hbefore w (List.mem_cons_of_mem _ hw), hy⟩

theorem isolated_mapM {f : α → Except Exc β} (xs : List α) (h : ∀ x, Isolated (f x)) :
    Isolated (xs.mapM f) := by
  rw [isolated_iff, escapes_mapM_iff]
  rintro ⟨_, x, _, _, _, hescape⟩
  exact (h x).not_escapes hescape

@[simp] theorem isolated_parseStrictJson (platform : Platform) (raw : Bytes) (maximumBytes : ℕ) :
    Isolated (parseStrictJson platform raw maximumBytes) := by
  unfold parseStrictJson
  split_ifs
  · simp
  · split
    · simp
    · split <;> simp

@[simp] theorem isolated_canonicalJson (platform : Platform) (value : Document) :
    Isolated (canonicalJson platform value) := by
  simp [canonicalJson]

/-! ## Canonical documents -/

/-- The integers of a strict document. -/
def InRange (n : ℤ) : Prop := -2 ^ 63 ≤ n ∧ n ≤ 2 ^ 63 - 1

theorem numeralFits_of_inRange {n : ℤ} (h : InRange n) : numeralFits n = true := by
  have hlarge : 2 ^ 64 ≤ 10 ^ maxStrDigits := by
    have hpow : 10 ^ 20 ≤ 10 ^ maxStrDigits := Nat.pow_le_pow_right (by decide) (by decide)
    exact le_trans (by norm_num) hpow
  rw [numeralFits, decide_eq_true_eq]
  rcases h with ⟨hlow, hhigh⟩
  have hbound : n.natAbs < 2 ^ 64 := by omega
  omega

theorem parseInt_ok {text : List Char} {n : ℤ} (h : parseInt text = .ok n) : InRange n := by
  unfold parseInt at h
  split_ifs at h
  rcases bind_eq_ok.mp h with ⟨_, hrange, h⟩
  cases h
  rw [refuse_eq_ok, not_not] at hrange
  exact hrange

theorem strictHooks_yields : strictHooks.Yields InRange where
  int _ _ h := parseInt_ok h
  float _ _ h := by cases h
  constant _ _ h := by cases h

/-- A numeral has at most twenty characters. -/
theorem length_intNumeral {n : ℤ} (h : InRange n) : (Json.intNumeral n).length ≤ 20 := by
  have hdigits : ∀ m : ℕ, m ≤ 2 ^ 63 → (Nat.toDigits 10 m).length ≤ 19 := by
    intro m hm
    rw [Nat.length_toDigits_le_iff (by decide) (by decide)]
    exact lt_of_le_of_lt hm (by norm_num)
  rcases h with ⟨hlow, hhigh⟩
  cases n with
  | ofNat m =>
    have := hdigits m (by
      have : (Int.ofNat m) = (m : ℤ) := rfl
      omega)
    show (Nat.toDigits 10 m).length ≤ 20
    omega
  | negSucc m =>
    have := hdigits (m + 1) (by
      rw [Int.negSucc_eq] at hlow
      omega)
    show (Nat.toDigits 10 (m + 1)).length + 1 ≤ 20
    omega

theorem parseInt_intNumeral {n : ℤ} (h : InRange n) : parseInt (Json.intNumeral n) = .ok n := by
  have hlength : ((Json.intNumeral n).filter Char.isDigit).length ≤ maxStrDigits := by
    have := List.length_filter_le Char.isDigit (Json.intNumeral n)
    have := length_intNumeral h
    have : maxStrDigits = 4300 := rfl
    omega
  unfold parseInt
  rw [if_neg (by omega), Json.readInt_intNumeral]
  refine bind_eq_ok.mpr ⟨(), ?_, rfl⟩
  rw [refuse_eq_ok, not_not]
  exact h

theorem readsBack_strict : Json.ReadsBack strictHooks Json.intNumeral InRange :=
  Json.readsBack_int fun _ h => parseInt_intNumeral h

/-- An object with sorted keys, integers in range and containers up to a depth. -/
def Strict (depth : ℕ) (value : Document) : Prop := Json.Wf InRange Json.SortedKeys depth value

variable {value : Document}

theorem Strict.nodup {depth : ℕ} (h : Strict depth value) :
    Json.Wf InRange List.Nodup depth value := h.mono fun _ hkeys => hkeys.nodup

theorem dumps_strict {depth : ℕ} (h : Strict depth value) :
    dumps value = asciiBytes (Json.render Json.intNumeral value) := by
  rw [dumps, Json.sorted_eq_self h]

theorem decodeUtf8_dumps {depth : ℕ} (h : Strict depth value) :
    decodeUtf8 (dumps value) = some (Json.render Json.intNumeral value) := by
  rw [dumps_strict h]
  exact decodeUtf8_asciiBytes (Json.render_isAscii (fun n _ => Json.intNumeral_isAscii n) h)

/-- Strict documents are determined by their bytes. -/
theorem dumps_injective {depth depth' : ℕ} {a b : Document} (ha : Strict depth a)
    (hb : Strict depth' b) (h : dumps a = dumps b) : a = b := by
  have hdecode := decodeUtf8_dumps ha
  rw [h, decodeUtf8_dumps hb] at hdecode
  exact Json.render_injective readsBack_strict ha.nodup hb.nodup (Option.some.inj hdecode).symm

theorem canonicalJson_strict {platform : Platform} {depth : ℕ} (h : Strict depth value)
    (hdepth : depth ≤ platform.writeDepth) : canonicalJson platform value = .ok (dumps value) := by
  have hfits : value.fits numeralFits platform.writeDepth = true := by
    have hwf : Json.Wf (fun n => numeralFits n = true) Json.SortedKeys depth value :=
      h.imp fun _ hn => numeralFits_of_inRange hn
    exact Json.fits_of_wf (hwf.deeper hdepth)
  exact if_pos hfits

/-- Reading back the bytes of a strict document. -/
theorem parseStrictJson_dumps {platform : Platform} {depth maximumBytes : ℕ} {fields : Fields}
    (h : Strict depth (.obj fields)) (hdepth : depth ≤ platform.readDepth)
    (hsize : (dumps (.obj fields)).length ≤ maximumBytes) :
    parseStrictJson platform (dumps (.obj fields)) maximumBytes = .ok fields := by
  have hload : Json.loads strictHooks platform.readDepth
      (Json.render Json.intNumeral (.obj fields)) = .ok (.obj fields) :=
    Json.loads_render readsBack_strict (h.nodup.deeper hdepth)
  have hne : dumps (.obj fields) ≠ [] := by
    rw [dumps_strict h]
    exact List.cons_ne_nil _ _
  unfold parseStrictJson
  rw [if_neg (by rintro (hnil | hlong); exacts [hne hnil, absurd hsize (by omega)]),
    decodeUtf8_dumps h]
  simp only [hload]
  rfl

/-- A document that is read from its own canonical bytes is strict. -/
theorem strict_of_canonical {platform : Platform} {raw : Bytes} {maximumBytes : ℕ}
    {fields : Fields} (h : parseStrictJson platform raw maximumBytes = .ok fields)
    (hraw : canonicalJson platform (.obj fields) = .ok raw) :
    Strict platform.readDepth (.obj fields) ∧ raw = dumps (.obj fields) := by
  have hdumps : raw = dumps (.obj fields) := by
    unfold canonicalJson at hraw
    split_ifs at hraw
    · exact (Except.ok.inj hraw).symm
    · cases hraw
  unfold parseStrictJson at h
  split_ifs at h
  · cases h
  · split at h
    · cases h
    · rename_i text htext
      split at h
      · rename_i fields' hload
        cases h
        have hwf := Json.wf_sorted (Json.loads_wf strictHooks_yields hload)
        have hascii := Json.render_isAscii (fun n _ => Json.intNumeral_isAscii n) hwf
        rw [hdumps, dumps, decodeUtf8_asciiBytes hascii] at htext
        have hcanonical := Json.loads_canonical strictHooks_yields readsBack_strict hload
          (Option.some.inj htext).symm
        exact ⟨hcanonical.2, hdumps⟩
      all_goals cases h

/-! ## Fields -/

namespace Fields

/-- `document.get(name)`, which is `document[name]` where the key is there. -/
def get (fields : Fields) (name : String) : Document :=
  (fields.lookup (PyStr.ofString name)).getD .null

/-- `{key: value for key, value in document.items() if key not in names}`. -/
def without (fields : Fields) (names : List String) : Fields :=
  fields.filter fun member => member.1 ∉ names.map PyStr.ofString

/-- The document has exactly these keys. -/
def HasKeys (fields : Fields) (expected : List String) : Prop :=
  (∀ name ∈ expected, PyStr.ofString name ∈ fields.map Prod.fst) ∧
    ∀ key ∈ fields.map Prod.fst, key ∈ expected.map PyStr.ofString

instance (fields : Fields) (expected : List String) : Decidable (fields.HasKeys expected) :=
  inferInstanceAs (Decidable (_ ∧ _))

end Fields

/-- `repr` of a list of keys. -/
def listText (names : List String) : String :=
  "[" ++ ", ".intercalate (names.map fun name => "'" ++ name ++ "'") ++ "]"

/-- `_require_exact_keys`, and `_exact_keys`. -/
def requireExactKeys (fields : Fields) (expected : List String) (label : String) :
    Except Exc Unit :=
  let missing := expected.filter fun name => PyStr.ofString name ∉ fields.map Prod.fst
  let unknown := (fields.map Prod.fst).filter fun key => key ∉ expected.map PyStr.ofString
  refuse (¬ fields.HasKeys expected)
    (label ++ " fields mismatch missing=" ++ listText (missing.insertionSort (· ≤ ·)) ++
      " unknown=" ++ listText ((unknown.insertionSort (· ≤ ·)).map PyStr.display))

/-- `isinstance(value, dict)`. -/
def object (value : Document) (message : String) : Except Exc Fields :=
  match value with
  | .obj fields => pure fields
  | _ => fail message

/-- A string, as a constant of the source. -/
def strConst (s : String) : Document := .str (PyStr.ofString s)

/-- A string that matches a pattern of ASCII characters. -/
def matching (accepts : List Char → Bool) (value : Document) (message : String) :
    Except Exc String :=
  match value with
  | .str t =>
    match t.encode? with
    | some s => if accepts s.toList = true then pure s else fail message
    | none => fail message
  | _ => fail message

def isLowerAlpha (c : Char) : Bool := 'a' ≤ c && c ≤ 'z'

/-- `[a-z][a-z0-9_]{0,63}`. -/
def isIdentifier : List Char → Bool
  | [] => false
  | c :: rest =>
    isLowerAlpha c && decide (rest.length ≤ 63) &&
      rest.all fun c => isLowerAlpha c || c.isDigit || c = '_'

/-- `[A-Za-z0-9][A-Za-z0-9._:-]{0,127}`. -/
def isKeyId : List Char → Bool
  | [] => false
  | c :: rest =>
    c.isAlphanum && decide (rest.length ≤ 127) &&
      rest.all fun c => c.isAlphanum || c ∈ ['.', '_', ':', '-']

/-- `<tag>:[0-9a-f]{64}`. -/
def isTagged (tag : String) (text : List Char) : Bool :=
  (tag ++ ":").toList.isPrefixOf text && text.length == tag.length + 65 &&
    (text.drop (tag.length + 1)).all isLowerHex

/-- The digests that score reports use. -/
def isReportDigest (text : List Char) : Bool :=
  isTagged "sha256" text || isTagged "receipt-sha256" text

/-- `(?:0|[1-9][0-9]{0,29})(?:\.[0-9]{1,12})?`, with the value. -/
def decimal? (text : List Char) : Option ℚ :=
  let whole := text.takeWhile (· ≠ '.')
  let part := (text.dropWhile (· ≠ '.')).drop 1
  if whole.all Char.isDigit = true ∧ 1 ≤ whole.length ∧ whole.length ≤ 30 ∧
      (whole.head? ≠ some '0' ∨ whole.length = 1) then
    if text.contains '.' = false then some (Nat.ofDigitChars 10 whole 0 : ℚ)
    else if part.all Char.isDigit = true ∧ 1 ≤ part.length ∧ part.length ≤ 12 then
      some (Nat.ofDigitChars 10 whole 0 + Nat.ofDigitChars 10 part 0 / 10 ^ part.length)
    else none
  else none

/-- A canonical decimal string. -/
def decimal (value : Document) (message : String) : Except Exc ℚ :=
  match value with
  | .str t =>
    match t.encode?.bind fun s => decimal? s.toList with
    | some parsed => pure parsed
    | none => fail message
  | _ => fail message

/-- An integer that is not negative; a `bool` is none. -/
def nonnegativeInt (value : Document) (message : String) : Except Exc ℤ :=
  match value with
  | .num n => if 0 ≤ n then pure n else fail message
  | _ => fail message

/-- `str.encode("utf-8")` on a lone surrogate. -/
def unicodeEncodeError : Exc :=
  .other "UnicodeEncodeError" "'utf-8' codec can't encode character: surrogates not allowed"

/-- `isinstance(value, str) and 1 <= len(value.encode("utf-8")) <= maximum`. -/
def boundedString (value : Document) (maximum : ℕ) (message : String) : Except Exc String :=
  match value with
  | .str t =>
    match t.encode? with
    | some s => if 1 ≤ s.utf8ByteSize ∧ s.utf8ByteSize ≤ maximum then pure s else fail message
    | none => .error unicodeEncodeError
  | _ => fail message

/-- The characters of `[0-9]{4}-[0-9]{2}-[0-9]{2}T[0-9]{2}:[0-9]{2}:[0-9]{2}\.[0-9]{6}Z`. -/
def isTimeText (text : List Char) : Bool :=
  let shape := "dddd-dd-ddTdd:dd:dd.ddddddZ".toList
  text.length == shape.length &&
    (shape.zip text).all fun (s, c) => if s = 'd' then c.isDigit else c == s

def parseTime (value : Document) (label : String) : Except Exc UtcTime := do
  let text ← matching isTimeText value
    (label ++ " must be canonical UTC with six fractional digits")
  match UtcTime.parse 6 text with
  | some moment => pure moment
  | none => fail ("invalid " ++ label)

/-- Bytes in canonical base64 of one length. -/
def base64Bytes (value : Document) (length : ℕ) (malformed wrongLength : String) :
    Except Exc Bytes :=
  match value with
  | .str t =>
    match t.encode?.bind fun s => Base64.decode s.toList with
    | some bytes =>
      if bytes.length = length ∧ t = PyStr.ofString (String.ofList (Base64.encode bytes)) then
        pure bytes
      else fail wrongLength
    | none => fail malformed
  | _ => fail malformed

/-- `urllib.parse.urlsplit`, which may raise. -/
def splitUrl (platform : Platform) (text : String) : Except Exc Url.SplitResult :=
  match Url.urlsplit platform.urls text.toList with
  | some url => pure url
  | none => .error (.other "ValueError" "Invalid URL")

/-- HTTPS or IPFS, with a host and without credentials or fragment. -/
def CredentialFree (url : Url.SplitResult) : Prop :=
  (url.scheme = "https".toList ∨ url.scheme = "ipfs".toList) ∧ url.netloc ≠ [] ∧
    url.username = [] ∧ url.password = [] ∧ url.fragment = []

instance (url : Url.SplitResult) : Decidable (CredentialFree url) :=
  inferInstanceAs (Decidable (_ ∧ _))

section Isolation

@[simp] theorem isolated_requireExactKeys (fields : Fields) (expected : List String)
    (label : String) : Isolated (requireExactKeys fields expected label) := isolated_refuse

variable (value : Document)

@[simp] theorem isolated_object (message : String) : Isolated (object value message) := by
  unfold object
  split <;> simp

@[simp] theorem isolated_matching (accepts : List Char → Bool) (value : Document)
    (message : String) : Isolated (matching accepts value message) := by
  unfold matching
  split
  · split <;> simp
  · simp

@[simp] theorem isolated_decimal (message : String) : Isolated (decimal value message) := by
  unfold decimal
  split
  · split <;> simp
  · simp

@[simp] theorem isolated_nonnegativeInt (message : String) :
    Isolated (nonnegativeInt value message) := by
  unfold nonnegativeInt
  split <;> simp

@[simp] theorem isolated_parseTime (label : String) : Isolated (parseTime value label) := by
  refine (isolated_matching _ _ _).bind fun text _ => ?_
  split <;> simp

@[simp] theorem isolated_base64Bytes (length : ℕ) (malformed wrongLength : String) :
    Isolated (base64Bytes value length malformed wrongLength) := by
  unfold base64Bytes
  split
  · split <;> simp
  · simp

/-- A string that has no UTF-8 form. -/
def Unencodable (value : Document) : Prop := ∃ t, value = .str t ∧ t.encode? = none

theorem not_isThin_other (type message : String) : ¬ (Exc.other type message).IsThin := by
  rintro ⟨_, h⟩
  cases h

/-- Taking the length of a string raises exactly on a lone surrogate. -/
theorem escapes_boundedString {value : Document} {maximum : ℕ} {message : String} :
    Escapes (boundedString value maximum message) ↔ Unencodable value := by
  constructor
  · rintro ⟨e, he, hthin⟩
    unfold boundedString at he
    split at he
    · rename_i t
      split at he
      · split_ifs at he
        · cases he
        · cases he
          exact absurd ⟨message, rfl⟩ hthin
      · rename_i hnone
        exact ⟨t, rfl, hnone⟩
    · cases he
      exact absurd ⟨message, rfl⟩ hthin
  · rintro ⟨t, rfl, hnone⟩
    refine ⟨unicodeEncodeError, ?_, not_isThin_other _ _⟩
    simp only [boundedString, hnone]

/-- Splitting a URL raises exactly where `urlsplit` does. -/
theorem escapes_splitUrl {platform : Platform} {text : String} :
    Escapes (splitUrl platform text) ↔ Url.urlsplit platform.urls text.toList = none := by
  constructor
  · rintro ⟨e, he, _⟩
    unfold splitUrl at he
    split at he
    · cases he
    · assumption
  · intro hnone
    refine ⟨_, ?_, not_isThin_other "ValueError" "Invalid URL"⟩
    simp only [splitUrl, hnone]

end Isolation

end Cathedral.Thin
