import Mathlib.Data.Nat.Basic

/-!
# Cathedral.Lib.Bytes — bytes and texts

ASCII and UTF-8, as `bytes.decode("utf-8")` reads it: no overlong form, no surrogate.

Base64, as `base64.b64encode` writes it and `base64.b64decode(..., validate=True)`
reads it: groups of four characters, padding only at the end, no other character.
The bits that padding leaves over are not checked, and padding after a full group is
skipped, so a text need not be what its bytes are encoded to: it is if it is `tight`.
-/

namespace Cathedral

abbrev Bytes : Type := List UInt8

/-! ## ASCII and UTF-8 -/

/-- `text.encode("ascii")` of an ASCII text. -/
def asciiBytes (text : List Char) : Bytes := text.map fun c => UInt8.ofNat c.toNat

/-- The six bits of a continuation byte. -/
def continuation? (b : UInt8) : Option ℕ :=
  if 0x80 ≤ b.toNat ∧ b.toNat < 0xC0 then some (b.toNat - 0x80) else none

/-- A character, with the characters after it. -/
def decoded (n : ℕ) (more : Option (List Char)) : Option (List Char) :=
  if n.isValidChar then more.map (Char.ofNat n :: ·) else none

/-- `bytes.decode("utf-8")`, `none` where it raises. -/
def decodeUtf8 : Bytes → Option (List Char)
  | [] => some []
  | a :: rest =>
    if a.toNat < 0x80 then decoded a.toNat (decodeUtf8 rest)
    else
      match rest with
      | b :: rest =>
        if 0xC2 ≤ a.toNat ∧ a.toNat < 0xE0 then do
          let b ← continuation? b
          decoded ((a.toNat - 0xC0) * 0x40 + b) (decodeUtf8 rest)
        else
          match rest with
          | c :: rest =>
            if 0xE0 ≤ a.toNat ∧ a.toNat < 0xF0 then do
              let b ← continuation? b
              let c ← continuation? c
              let n := ((a.toNat - 0xE0) * 0x40 + b) * 0x40 + c
              if 0x800 ≤ n then decoded n (decodeUtf8 rest) else none
            else
              match rest with
              | d :: rest =>
                if 0xF0 ≤ a.toNat ∧ a.toNat < 0xF5 then do
                  let b ← continuation? b
                  let c ← continuation? c
                  let d ← continuation? d
                  let n := (((a.toNat - 0xF0) * 0x40 + b) * 0x40 + c) * 0x40 + d
                  if 0x10000 ≤ n then decoded n (decodeUtf8 rest) else none
                else none
              | [] => none
          | [] => none
      | [] => none

/-- A text of ASCII characters. -/
def IsAscii (text : List Char) : Prop := ∀ c ∈ text, c.toNat < 0x80

instance (text : List Char) : Decidable (IsAscii text) := List.decidableBAll _ _

@[simp] theorem length_asciiBytes (text : List Char) : (asciiBytes text).length = text.length :=
  List.length_map _

theorem decodeUtf8_asciiBytes {text : List Char} (h : IsAscii text) :
    decodeUtf8 (asciiBytes text) = some text := by
  induction text with
  | nil => rfl
  | cons c text ih =>
    have ih := ih fun d hd => h d (List.mem_cons_of_mem _ hd)
    have hc := h c (List.mem_cons_self ..)
    have hbyte : (UInt8.ofNat c.toNat).toNat = c.toNat := by
      rw [UInt8.toNat_ofNat']
      exact Nat.mod_eq_of_lt (by omega)
    show decodeUtf8 (UInt8.ofNat c.toNat :: asciiBytes text) = _
    unfold decodeUtf8
    rw [if_pos (by rw [hbyte]; exact hc), ih, hbyte]
    unfold decoded
    rw [if_pos (Or.inl (by omega)), Option.map_some, Char.ofNat_toNat]

/-- `text.encode("utf-8")`. -/
def encodeUtf8 (text : List Char) : Bytes := text.flatMap String.utf8EncodeChar

theorem continuation?_ofNat (n : ℕ) :
    continuation? (UInt8.ofNat (n % 0x40 + 0x80)) = some (n % 0x40) := by
  have hlt : n % 0x40 < 0x40 := Nat.mod_lt _ (by decide)
  have hvalue : (UInt8.ofNat (n % 0x40 + 0x80)).toNat = n % 0x40 + 0x80 :=
    UInt8.toNat_ofNat_of_lt' (by simp only [UInt8.size]; omega)
  rw [continuation?, hvalue, if_pos (by omega)]
  simp

theorem decoded_val (c : Char) (more : Option (List Char)) :
    decoded c.val.toNat more = more.map (c :: ·) := by
  have hvalid : c.val.toNat.isValidChar := c.valid
  rw [decoded, if_pos hvalid]
  have hc : Char.ofNat c.val.toNat = c := Char.ofNat_toNat c
  rw [hc]

/-- The bytes of a character are read as it. -/
theorem decodeUtf8_append (c : Char) (rest : Bytes) :
    decodeUtf8 (String.utf8EncodeChar c ++ rest) = (decodeUtf8 rest).map (c :: ·) := by
  have hmax : c.val.toNat < 0x110000 := by
    rcases c.valid with h | h
    · exact Nat.lt_trans h (by decide)
    · exact h.2
  rw [← decoded_val]
  obtain ⟨v, hv⟩ : ∃ v, c.val.toNat = v := ⟨_, rfl⟩
  unfold String.utf8EncodeChar
  rw [hv] at hmax ⊢
  have hbyte : ∀ n < 256, (UInt8.ofNat n).toNat = n := fun n hn =>
    UInt8.toNat_ofNat_of_lt' (by simpa [UInt8.size] using hn)
  -- one case for each number of bytes
  dsimp only
  split_ifs with hone htwo hthree
  · simp only [List.cons_append, List.nil_append]
    conv => lhs; unfold decodeUtf8
    rw [hbyte v (by omega), if_pos (by omega)]
  · simp only [List.cons_append, List.nil_append]
    conv => lhs; unfold decodeUtf8
    rw [hbyte _ (by omega), if_neg (by omega)]
    dsimp only
    rw [if_pos (by omega), continuation?_ofNat]
    simp only [Option.bind_eq_bind, Option.bind_some]
    congr 1
    omega
  · simp only [List.cons_append, List.nil_append]
    conv => lhs; unfold decodeUtf8
    rw [hbyte _ (by omega), if_neg (by omega)]
    dsimp only
    rw [if_neg (by omega), if_pos (by omega), continuation?_ofNat, continuation?_ofNat]
    simp only [Option.bind_eq_bind, Option.bind_some]
    rw [if_pos (by omega)]
    congr 1
    omega
  · simp only [List.cons_append, List.nil_append]
    conv => lhs; unfold decodeUtf8
    rw [hbyte _ (by omega), if_neg (by omega)]
    dsimp only
    rw [if_neg (by omega), if_neg (by omega), if_pos (by omega), continuation?_ofNat,
      continuation?_ofNat, continuation?_ofNat]
    simp only [Option.bind_eq_bind, Option.bind_some]
    rw [if_pos (by omega)]
    congr 1
    omega

theorem decodeUtf8_encodeUtf8 (text : List Char) : decodeUtf8 (encodeUtf8 text) = some text := by
  induction text with
  | nil => rfl
  | cons c text ih =>
    rw [encodeUtf8, List.flatMap_cons, decodeUtf8_append]
    show (decodeUtf8 (encodeUtf8 text)).map _ = _
    rw [ih, Option.map_some]

example : decodeUtf8 [0x61, 0xC3, 0xA9, 0xF0, 0x9F, 0x98, 0x80] = some ['a', 'é', '😀'] := by
  decide +kernel

example : decodeUtf8 [0xED, 0xA0, 0x80] = none := by decide +kernel

/-! ## Base64 -/

namespace Base64

/-- The character of six bits. -/
def symbol (n : ℕ) : Char :=
  if n < 26 then Char.ofNat ('A'.toNat + n)
  else if n < 52 then Char.ofNat ('a'.toNat + (n - 26))
  else if n < 62 then Char.ofNat ('0'.toNat + (n - 52))
  else if n = 62 then '+'
  else '/'

def value? (c : Char) : Option ℕ :=
  if 'A' ≤ c ∧ c ≤ 'Z' then some (c.toNat - 'A'.toNat)
  else if 'a' ≤ c ∧ c ≤ 'z' then some (c.toNat - 'a'.toNat + 26)
  else if '0' ≤ c ∧ c ≤ '9' then some (c.toNat - '0'.toNat + 52)
  else if c = '+' then some 62
  else if c = '/' then some 63
  else none

/-- `base64.b64encode`. -/
def encode : Bytes → List Char
  | [] => []
  | [a] => [symbol (a.toNat / 4), symbol (a.toNat % 4 * 16), '=', '=']
  | [a, b] =>
    [symbol (a.toNat / 4), symbol (a.toNat % 4 * 16 + b.toNat / 16),
      symbol (b.toNat % 16 * 4), '=']
  | a :: b :: c :: rest =>
    symbol (a.toNat / 4) :: symbol (a.toNat % 4 * 16 + b.toNat / 16) ::
      symbol (b.toNat % 16 * 4 + c.toNat / 64) :: symbol (c.toNat % 64) :: encode rest

/-- The bytes of a group, from the six bits of two neighbours. -/
def first (p q : ℕ) : UInt8 := UInt8.ofNat (p * 4 + q / 16)

def second (q r : ℕ) : UInt8 := UInt8.ofNat (q % 16 * 16 + r / 4)

def third (r s : ℕ) : UInt8 := UInt8.ofNat (r % 4 * 64 + s)

/-- The bytes of a last group, which may be padded. -/
def lastGroup (p q : ℕ) (c d : Char) : Option Bytes :=
  if d = '=' then
    if c = '=' then some [first p q]
    else (value? c).map fun r => [first p q, second q r]
  else do
    let r ← value? c
    let s ← value? d
    some [first p q, second q r, third r s]

/-- `base64.b64decode(..., validate=True)`, `none` where it raises. After a full group
there may be any number of padding characters. -/
def decode : List Char → Option Bytes
  | [] => some []
  | a :: b :: c :: d :: rest => do
    let p ← value? a
    let q ← value? b
    if rest = [] then lastGroup p q c d
    else do
      let r ← value? c
      let s ← value? d
      let more ← if rest.all (· = '=') then some [] else decode rest
      some (first p q :: second q r :: third r s :: more)
  | _ => none

/-- Zeros in the bits that the padding of a last group leaves over. -/
def tightGroup (b c d : Char) : Bool :=
  if d = '=' then
    if c = '=' then (value? b).any fun q => q % 16 = 0
    else (value? c).any fun r => r % 4 = 0
  else true

/-- No padding after a full group, and zeros in the bits that padding leaves over. -/
def tight : List Char → Bool
  | [] => true
  | _ :: b :: c :: d :: rest => if rest = [] then tightGroup b c d else tight rest
  | _ => false

theorem value?_symbol : ∀ n < 64, value? (symbol n) = some n := by decide

theorem symbol_ne_pad : ∀ n < 64, symbol n ≠ '=' := by decide

theorem ofNat_of_eq {a : UInt8} {n : ℕ} (h : n = a.toNat) : UInt8.ofNat n = a := by
  rw [h]
  exact UInt8.ofNat_toNat

theorem first_eq (a : UInt8) {n : ℕ} (hn : n < 16) :
    first (a.toNat / 4) (a.toNat % 4 * 16 + n) = a := ofNat_of_eq (by omega)

theorem second_eq (a b : UInt8) {n : ℕ} (hn : n < 4) :
    second (a.toNat % 4 * 16 + b.toNat / 16) (b.toNat % 16 * 4 + n) = b := by
  have hb := b.toNat_lt
  exact ofNat_of_eq (by omega)

theorem third_eq (b c : UInt8) :
    third (b.toNat % 16 * 4 + c.toNat / 64) (c.toNat % 64) = c := by
  have hc := c.toNat_lt
  exact ofNat_of_eq (by omega)

theorem length_encode (bytes : Bytes) : (encode bytes).length = (bytes.length + 2) / 3 * 4 := by
  fun_induction encode bytes with
  | case1 | case2 a | case3 a b => simp
  | case4 a b c rest ih =>
    simp only [List.length_cons, ih]
    omega

/-- What is written starts with no padding. -/
theorem all_pad_encode {bytes : Bytes} (h : bytes ≠ []) :
    (encode bytes).all (· = '=') = false := by
  have hhead : ∃ n < 64, ∃ rest, encode bytes = symbol n :: rest := by
    fun_cases encode bytes with
    | case1 => exact absurd rfl h
    | case2 a | case3 a b | case4 a b c rest =>
      have ha := a.toNat_lt
      exact ⟨a.toNat / 4, by omega, _, rfl⟩
  obtain ⟨n, hn, rest, hencode⟩ := hhead
  rw [hencode, List.all_cons, decide_eq_false (symbol_ne_pad n hn), Bool.false_and]

/-- The decoder reads back what the encoder wrote. -/
theorem decode_encode (bytes : Bytes) : decode (encode bytes) = some bytes := by
  fun_induction encode bytes with
  | case1 => rfl
  | case2 a =>
    have ha := a.toNat_lt
    have hp := value?_symbol (a.toNat / 4) (by omega)
    have hq := value?_symbol (a.toNat % 4 * 16) (by omega)
    have h1 : first (a.toNat / 4) (a.toNat % 4 * 16) = a := first_eq a (by decide : 0 < 16)
    simp [decode, lastGroup, hp, hq, h1]
  | case3 a b =>
    have ha := a.toNat_lt
    have hb := b.toNat_lt
    have hp := value?_symbol (a.toNat / 4) (by omega)
    have hq := value?_symbol (a.toNat % 4 * 16 + b.toNat / 16) (by omega)
    have hr := value?_symbol (b.toNat % 16 * 4) (by omega)
    have hpad := symbol_ne_pad (b.toNat % 16 * 4) (by omega)
    have h1 := first_eq a (n := b.toNat / 16) (by omega)
    have h2 : second (a.toNat % 4 * 16 + b.toNat / 16) (b.toNat % 16 * 4) = b :=
      second_eq a b (by decide : 0 < 4)
    simp [decode, lastGroup, hp, hq, hr, hpad, h1, h2]
  | case4 a b c rest ih =>
    have ha := a.toNat_lt
    have hb := b.toNat_lt
    have hc := c.toNat_lt
    have hp := value?_symbol (a.toNat / 4) (by omega)
    have hq := value?_symbol (a.toNat % 4 * 16 + b.toNat / 16) (by omega)
    have hr := value?_symbol (b.toNat % 16 * 4 + c.toNat / 64) (by omega)
    have hs := value?_symbol (c.toNat % 64) (by omega)
    have hpad := symbol_ne_pad (c.toNat % 64) (by omega)
    have h1 := first_eq a (n := b.toNat / 16) (by omega)
    have h2 := second_eq a b (n := c.toNat / 64) (by omega)
    have h3 := third_eq b c
    by_cases hrest : encode rest = []
    · -- the last group is full
      rw [hrest] at ih ⊢
      have hnil : rest = [] := by
        rw [decode] at ih
        exact (Option.some.inj ih).symm
      simp [decode, lastGroup, hp, hq, hr, hs, hpad, h1, h2, h3, hnil]
    · -- the next group starts with no padding
      have hmore : (encode rest).all (· = '=') = false := by
        refine all_pad_encode ?_
        rintro rfl
        exact hrest rfl
      simp [decode, hp, hq, hr, hs, hrest, hmore, ih, h1, h2, h3]

theorem symbol_of_value? {c : Char} {n : ℕ} (h : value? c = some n) : n < 64 ∧ symbol n = c := by
  have hA : 'A'.toNat = 65 := rfl
  have ha : 'a'.toNat = 97 := rfl
  have h0 : '0'.toNat = 48 := rfl
  have hle : ∀ {x y : Char}, x ≤ y ↔ x.toNat ≤ y.toNat := UInt32.le_iff_toNat_le
  have hZ : 'Z'.toNat = 90 := rfl
  have hz : 'z'.toNat = 122 := rfl
  have h9 : '9'.toNat = 57 := rfl
  unfold value? at h
  split_ifs at h with hupper hlower hdigit hplus hslash
  · obtain ⟨hlo, hhi⟩ := hupper
    rw [hle] at hlo hhi
    have hn := Option.some.inj h
    refine ⟨by omega, ?_⟩
    rw [symbol, if_pos (by omega), show 'A'.toNat + n = c.toNat by omega, Char.ofNat_toNat]
  · obtain ⟨hlo, hhi⟩ := hlower
    rw [hle] at hlo hhi
    have hn := Option.some.inj h
    refine ⟨by omega, ?_⟩
    rw [symbol, if_neg (by omega), if_pos (by omega), show 'a'.toNat + (n - 26) = c.toNat by omega,
      Char.ofNat_toNat]
  · obtain ⟨hlo, hhi⟩ := hdigit
    rw [hle] at hlo hhi
    have hn := Option.some.inj h
    refine ⟨by omega, ?_⟩
    rw [symbol, if_neg (by omega), if_neg (by omega), if_pos (by omega),
      show '0'.toNat + (n - 52) = c.toNat by omega, Char.ofNat_toNat]
  · cases h
    exact ⟨by decide, by rw [hplus]; decide⟩
  · cases h
    exact ⟨by decide, by rw [hslash]; decide⟩

theorem symbol_inj {m n : ℕ} (hm : m < 64) (hn : n < 64) : symbol m = symbol n ↔ m = n := by
  constructor
  · intro h
    have hvalue := value?_symbol m hm
    rw [h, value?_symbol n hn] at hvalue
    exact (Option.some.inj hvalue).symm
  · rintro rfl
    rfl

theorem toNat_first {p q : ℕ} (hp : p < 64) (hq : q < 64) : (first p q).toNat = p * 4 + q / 16 := by
  rw [first, UInt8.toNat_ofNat']
  exact Nat.mod_eq_of_lt (by omega)

theorem toNat_second {q r : ℕ} (hr : r < 64) : (second q r).toNat = q % 16 * 16 + r / 4 := by
  rw [second, UInt8.toNat_ofNat']
  exact Nat.mod_eq_of_lt (by omega)

theorem toNat_third {r s : ℕ} (hs : s < 64) : (third r s).toNat = r % 4 * 64 + s := by
  rw [third, UInt8.toNat_ofNat']
  exact Nat.mod_eq_of_lt (by omega)

/-- Four characters are written for a full group. -/
theorem encode_full {p q r s : ℕ} {more : Bytes} (hp : p < 64) (hq : q < 64) (hr : r < 64)
    (hs : s < 64) : encode (first p q :: second q r :: third r s :: more) =
      symbol p :: symbol q :: symbol r :: symbol s :: encode more := by
  rw [encode, toNat_first hp hq, toNat_second hr, toNat_third hs,
    show (p * 4 + q / 16) / 4 = p by omega,
    show (p * 4 + q / 16) % 4 * 16 + (q % 16 * 16 + r / 4) / 16 = q by omega,
    show (q % 16 * 16 + r / 4) % 16 * 4 + (r % 4 * 64 + s) / 64 = r by omega,
    show (r % 4 * 64 + s) % 64 = s by omega]

/-- A last group is what its bytes are encoded to exactly if it is tight. -/
theorem encode_lastGroup {a b c d : Char} {p q : ℕ} {bytes : Bytes} (ha : value? a = some p)
    (hb : value? b = some q) (h : lastGroup p q c d = some bytes) :
    encode bytes = [a, b, c, d] ↔ tightGroup b c d = true := by
  obtain ⟨hp, hpa⟩ := symbol_of_value? ha
  obtain ⟨hq, hqb⟩ := symbol_of_value? hb
  have hfirst := toNat_first hp hq
  unfold lastGroup at h
  unfold tightGroup
  by_cases hd : d = '='
  · rw [if_pos hd] at h ⊢
    by_cases hc : c = '='
    · rw [if_pos hc] at h ⊢
      cases h
      rw [hb, Option.any_some, decide_eq_true_eq, encode, hfirst, hc, hd, ← hqb,
        show (p * 4 + q / 16) / 4 = p by omega, hpa]
      simp only [List.cons.injEq, true_and, and_true]
      rw [symbol_inj (by omega) hq]
      omega
    · rw [if_neg hc] at h ⊢
      obtain ⟨r, hvalue, rfl⟩ := Option.map_eq_some_iff.mp h
      obtain ⟨hr, hrc⟩ := symbol_of_value? hvalue
      have hsecond := toNat_second (q := q) hr
      rw [hvalue, Option.any_some, decide_eq_true_eq, encode, hfirst, hsecond, hd, ← hrc,
        show (p * 4 + q / 16) / 4 = p by omega, hpa,
        show (p * 4 + q / 16) % 4 * 16 + (q % 16 * 16 + r / 4) / 16 = q by omega, hqb]
      simp only [List.cons.injEq, true_and, and_true]
      rw [symbol_inj (by omega) hr]
      omega
  · -- a full group has no bits left over
    rw [if_neg hd] at h ⊢
    simp only [Option.bind_eq_bind, Option.bind_eq_some_iff] at h
    obtain ⟨r, hvalue, s, hvalue', h⟩ := h
    obtain ⟨hr, hrc⟩ := symbol_of_value? hvalue
    obtain ⟨hs, hsd⟩ := symbol_of_value? hvalue'
    have hbytes := (Option.some.inj h).symm
    subst hbytes
    rw [encode_full hp hq hr hs, encode, hpa, hqb, hrc, hsd]
    exact ⟨fun _ => rfl, fun _ => rfl⟩

theorem tight_pad {text : List Char} (hne : text ≠ []) (hpad : text.all (· = '=') = true) :
    tight text = false := by
  fun_induction tight text with
  | case1 => exact absurd rfl hne
  | case2 a b c d =>
    simp only [List.all_cons, List.all_nil, Bool.and_true, Bool.and_eq_true, decide_eq_true_eq]
      at hpad
    obtain ⟨-, rfl, rfl, rfl⟩ := hpad
    rfl
  | case3 a b c d rest hrest ih =>
    simp only [List.all_cons, Bool.and_eq_true] at hpad
    exact ih hrest hpad.2.2.2.2
  | case4 => rfl

/-- A text is what its bytes are encoded to exactly if it is tight. -/
theorem encode_of_decode {text : List Char} {bytes : Bytes} (h : decode text = some bytes) :
    encode bytes = text ↔ tight text = true := by
  fun_induction tight text generalizing bytes with
  | case1 =>
    cases h
    exact ⟨fun _ => rfl, fun _ => rfl⟩
  | case2 a b c d =>
    simp only [decode, Option.bind_eq_bind, Option.bind_eq_some_iff, if_true] at h
    obtain ⟨p, hp, q, hq, h⟩ := h
    exact encode_lastGroup hp hq h
  | case3 a b c d rest hrest ih =>
    simp only [decode, Option.bind_eq_bind, Option.bind_eq_some_iff, if_neg hrest] at h
    obtain ⟨p, hp, q, hq, r, hr, s, hs, h⟩ := h
    obtain ⟨hp, hpa⟩ := symbol_of_value? hp
    obtain ⟨hq, hqb⟩ := symbol_of_value? hq
    obtain ⟨hr, hrc⟩ := symbol_of_value? hr
    obtain ⟨hs, hsd⟩ := symbol_of_value? hs
    have hfour : ∀ more, encode (first p q :: second q r :: third r s :: more) =
        a :: b :: c :: d :: rest ↔ encode more = rest := by
      intro more
      rw [encode_full hp hq hr hs, hpa, hqb, hrc, hsd]
      simp only [List.cons.injEq, true_and]
    by_cases hpad : rest.all (· = '=') = true
    · -- what follows is padding only, and it is not written
      rw [if_pos hpad] at h
      cases h
      rw [hfour, tight_pad hrest hpad, encode]
      exact ⟨fun heq => absurd heq.symm hrest, fun heq => absurd heq (by decide)⟩
    · rw [if_neg hpad, Option.bind_eq_some_iff] at h
      obtain ⟨more, hmore, h⟩ := h
      cases h
      rw [hfour]
      exact ih hmore
  | case4 text hnil hcons =>
    unfold decode at h
    split at h
    · exact absurd rfl hnil
    · next a b c d rest => exact absurd rfl (hcons a b c d rest)
    · cases h

end Base64

end Cathedral
