import Mathlib.Data.List.DropRight
import Mathlib.Tactic
import Cathedral.Lib.PyStr

/-!
# Cathedral.Lib.PyText — lines, words and numerals of Python strings

`str.splitlines`, `str.split`, `str.strip`, `str.upper` and `int`. What Unicode's tables
say of code points above ASCII, their decimal value and their upper case, is a parameter;
white space and line boundaries are listed.
-/

namespace Cathedral

/-- Unicode's tables, used above ASCII. -/
structure UnicodeTables where
  decimal : CodePoint → Option (Fin 10)
  upper : CodePoint → PyStr

namespace PyStr

/-! ## Lines -/

/-- A line boundary of `str.splitlines`. -/
def isLineBreak (p : CodePoint) : Bool :=
  (0x0A ≤ p.val && p.val ≤ 0x0D) || (0x1C ≤ p.val && p.val ≤ 0x1E) || p.val = 0x85 ||
    p.val = 0x2028 || p.val = 0x2029

/-- Put a code point in front of the first line. -/
def consLine (p : CodePoint) : List PyStr → List PyStr
  | [] => [[p]]
  | line :: lines => (p :: line) :: lines

/-- `str.splitlines`; a carriage return in front of a line feed belongs to it. -/
def splitLines : PyStr → List PyStr
  | [] => []
  | p :: rest =>
    if p.val = 13 ∧ rest.head?.any (·.val = 10) then splitLines rest
    else if isLineBreak p then [] :: splitLines rest
    else consLine p (splitLines rest)

def newline : CodePoint := 10

theorem splitLines_line {line : PyStr} (h : ∀ p ∈ line, isLineBreak p = false) (rest : PyStr) :
    splitLines (line ++ newline :: rest) = line :: splitLines rest := by
  induction line with
  | nil =>
    have hbreak : isLineBreak newline = true := by decide
    have hcr : ¬ (newline.val = 13 ∧ rest.head?.any (·.val = 10)) := by
      rintro ⟨hval, -⟩
      exact absurd hval (by decide)
    rw [List.nil_append, splitLines, if_neg hcr, if_pos hbreak]
  | cons p line ih =>
    have hp := h p List.mem_cons_self
    have hcr : ¬ (p.val = 13 ∧ (line ++ newline :: rest).head?.any (·.val = 10)) := by
      rintro ⟨hval, -⟩
      simp [isLineBreak, hval] at hp
    rw [List.cons_append, splitLines, if_neg hcr, if_neg (by simp [hp]),
      ih fun q hq => h q (List.mem_cons_of_mem p hq), consLine]

/-! ## White space -/

/-- `str.isspace` of one code point. -/
def isSpace (p : CodePoint) : Bool :=
  (0x09 ≤ p.val && p.val ≤ 0x0D) || (0x1C ≤ p.val && p.val ≤ 0x20) || p.val = 0x85 ||
    p.val = 0xA0 || p.val = 0x1680 || (0x2000 ≤ p.val && p.val ≤ 0x200A) || p.val = 0x2028 ||
    p.val = 0x2029 || p.val = 0x202F || p.val = 0x205F || p.val = 0x3000

def space : CodePoint := 32

theorem isSpace_space : isSpace space = true := by decide

def strip (t : PyStr) : PyStr := (t.dropWhile isSpace).rdropWhile isSpace

/-- `str.split`. -/
def words : PyStr → List PyStr
  | [] => []
  | p :: rest =>
    if isSpace p then words rest
    else if rest.head?.any fun q => !isSpace q then consLine p (words rest)
    else [p] :: words rest

variable {p : CodePoint}

theorem words_cons_of_isSpace (hp : isSpace p = true) (t : PyStr) : words (p :: t) = words t := by
  rw [words, if_pos hp]

/-- White space at the end does not count. -/
theorem words_concat_of_isSpace (hp : isSpace p = true) (t : PyStr) :
    words (t ++ [p]) = words t := by
  induction t with
  | nil => rw [List.nil_append, words_cons_of_isSpace hp]
  | cons q t ih =>
    have hhead : ((t ++ [p]).head?.any fun r => !isSpace r) = t.head?.any fun r => !isSpace r := by
      cases t with
      | nil => simp [hp]
      | cons r t => rfl
    rw [List.cons_append, words, words, ih, hhead]

theorem words_rstrip (t : PyStr) : words (t.rdropWhile isSpace) = words t := by
  induction t using List.reverseRecOn with
  | nil => rfl
  | append_singleton t p ih =>
    by_cases hp : isSpace p = true
    · rw [List.rdropWhile_concat_pos _ _ _ hp, ih, words_concat_of_isSpace hp]
    · rw [List.rdropWhile_concat_neg _ _ _ hp]

theorem rstrip_cons (hp : isSpace p = false) (t : PyStr) :
    (p :: t).rdropWhile isSpace = p :: t.rdropWhile isSpace := by
  induction t using List.reverseRecOn with
  | nil => rw [List.rdropWhile_singleton, if_neg (by simp [hp]), List.rdropWhile_nil]
  | append_singleton t q ih =>
    rw [← List.cons_append]
    by_cases hq : isSpace q = true
    · rw [List.rdropWhile_concat_pos _ _ _ hq, List.rdropWhile_concat_pos _ _ _ hq, ih]
    · rw [List.rdropWhile_concat_neg _ _ _ hq, List.rdropWhile_concat_neg _ _ _ hq,
        List.cons_append]

/-- A line that starts with no space keeps its start. -/
theorem strip_cons (hp : isSpace p = false) (t : PyStr) :
    strip (p :: t) = p :: t.rdropWhile isSpace := by
  rw [strip, List.dropWhile_cons_of_neg (by simp [hp]), rstrip_cons hp]

theorem strip_ne_nil {t : PyStr} (hp : isSpace p = false) (hmem : p ∈ t) : strip t ≠ [] := by
  induction t with
  | nil => cases hmem
  | cons q t ih =>
    by_cases hq : isSpace q = true
    · have hstrip : strip (q :: t) = strip t := by
        rw [strip, List.dropWhile_cons_of_pos hq, strip]
      rw [hstrip]
      rcases List.mem_cons.mp hmem with rfl | hrest
      · rw [hp] at hq
        cases hq
      · exact ih hrest
    · rw [strip_cons (by simpa using hq)]
      exact List.cons_ne_nil _ _

/-- A word in front of a space, or at the end. -/
theorem words_word {w : PyStr} (hne : w ≠ []) (hw : ∀ p ∈ w, isSpace p = false) {rest : PyStr}
    (hrest : ∀ p ∈ rest.head?, isSpace p = true) : words (w ++ rest) = w :: words rest := by
  induction w with
  | nil => exact absurd rfl hne
  | cons p w ih =>
    have hp := hw p List.mem_cons_self
    rw [List.cons_append, words, if_neg (by simp [hp])]
    cases w with
    | nil =>
      have hhead : (rest.head?.any fun q => !isSpace q) = false := by
        rw [Option.any_eq_false]
        intro q hq
        simp [hrest q hq]
      rw [List.nil_append, hhead, if_neg (by simp)]
    | cons q w =>
      have hq := hw q (List.mem_cons_of_mem p List.mem_cons_self)
      have hhead : (((q :: w) ++ rest).head?.any fun r => !isSpace r) = true := by simp [hq]
      rw [hhead, if_pos rfl, ih (List.cons_ne_nil q w)
        fun r hr => hw r (List.mem_cons_of_mem p hr), consLine]

/-- Words with a space in front of each. -/
def spaced (ws : List PyStr) : PyStr := ws.flatMap fun w => space :: w

variable {ws : List PyStr}

theorem head_spaced : ∀ p ∈ (spaced ws).head?, isSpace p = true := by
  intro p hp
  cases ws with
  | nil => cases hp
  | cons v ws =>
    cases hp
    exact isSpace_space

theorem words_spaced (h : ∀ w ∈ ws, w ≠ [] ∧ ∀ p ∈ w, isSpace p = false) :
    words (spaced ws) = ws := by
  induction ws with
  | nil => rfl
  | cons w ws ih =>
    obtain ⟨hne, hw⟩ := h w List.mem_cons_self
    have hcons : spaced (w :: ws) = space :: (w ++ spaced ws) := rfl
    rw [hcons, words_cons_of_isSpace isSpace_space, words_word hne hw head_spaced,
      ih fun v hv => h v (List.mem_cons_of_mem w hv)]

/-- A fixed text is a word, by computation. -/
theorem word_of_all {w : PyStr} (hne : w ≠ []) (h : (w.all fun p => !isSpace p) = true) :
    w ≠ [] ∧ ∀ p ∈ w, isSpace p = false := by
  refine ⟨hne, fun p hp => ?_⟩
  simpa using List.all_eq_true.mp h p hp

/-- Words with a space between them end with the last code point of a word. -/
theorem exists_last_words : ∀ {ws : List PyStr} {w : PyStr},
    (∀ v ∈ w :: ws, v ≠ [] ∧ ∀ p ∈ v, isSpace p = false) →
    ∃ init p, w ++ spaced ws = init ++ [p] ∧ isSpace p = false
  | [], w, h => by
    obtain ⟨hne, hw⟩ := h w List.mem_cons_self
    refine ⟨w.dropLast, w.getLast hne, ?_, hw _ (List.getLast_mem hne)⟩
    rw [List.dropLast_append_getLast hne]
    exact List.append_nil w
  | v :: ws, w, h => by
    have hrest : ∀ u ∈ v :: ws, u ≠ [] ∧ ∀ p ∈ u, isSpace p = false :=
      fun u hu => h u (List.mem_cons_of_mem w hu)
    obtain ⟨init, p, heq, hp⟩ := exists_last_words hrest
    refine ⟨w ++ space :: init, p, ?_, hp⟩
    have hcons : w ++ spaced (v :: ws) = w ++ space :: (v ++ spaced ws) := rfl
    rw [hcons, heq, List.append_assoc, List.cons_append]

/-- Words with a space between them have none at their ends. -/
theorem strip_words {w : PyStr} (h : ∀ v ∈ w :: ws, v ≠ [] ∧ ∀ p ∈ v, isSpace p = false) :
    strip (w ++ spaced ws) = w ++ spaced ws := by
  obtain ⟨init, p, heq, hp⟩ := exists_last_words h
  obtain ⟨hne, hw⟩ := h w List.mem_cons_self
  have hend : (w ++ spaced ws).rdropWhile isSpace = w ++ spaced ws := by
    rw [heq, List.rdropWhile_concat_neg _ _ _ (by simp [hp])]
  cases w with
  | nil => exact absurd rfl hne
  | cons q w =>
    have hq := hw q List.mem_cons_self
    rw [strip, List.cons_append, List.dropWhile_cons_of_neg (by simp [hq]), ← List.cons_append,
      hend]

/-- Words with a space between them are read back. -/
theorem words_joined {w : PyStr} (h : ∀ v ∈ w :: ws, v ≠ [] ∧ ∀ p ∈ v, isSpace p = false) :
    words (w ++ spaced ws) = w :: ws := by
  obtain ⟨hne, hw⟩ := h w List.mem_cons_self
  rw [words_word hne hw head_spaced, words_spaced fun v hv => h v (List.mem_cons_of_mem w hv)]

/-- Words without line boundaries stay on one line. -/
theorem isLineBreak_words {w : PyStr} (h : ∀ v ∈ w :: ws, ∀ p ∈ v, isLineBreak p = false) :
    ∀ p ∈ w ++ spaced ws, isLineBreak p = false := by
  intro p hp
  rcases List.mem_append.mp hp with hw | hrest
  · exact h w List.mem_cons_self p hw
  · obtain ⟨v, hv, hmem⟩ := List.mem_flatMap.mp hrest
    rcases List.mem_cons.mp hmem with rfl | hmem
    · decide
    · exact h v (List.mem_cons_of_mem w hv) p hmem

/-! ## Case -/

/-- `str.upper` of one code point. -/
def upperPoint (tables : UnicodeTables) (p : CodePoint) : PyStr :=
  if p.val < 128 then
    if h : 97 ≤ p.val ∧ p.val ≤ 122 then [⟨p.val - 32, by omega⟩] else [p]
  else tables.upper p

def upper (tables : UnicodeTables) (t : PyStr) : PyStr := t.flatMap (upperPoint tables)

/-- ASCII without small letters is upper case. -/
theorem upper_of_ascii {tables : UnicodeTables} {t : PyStr}
    (h : ∀ p ∈ t, p.val < 128 ∧ ¬ (97 ≤ p.val ∧ p.val ≤ 122)) : upper tables t = t := by
  induction t with
  | nil => rfl
  | cons p t ih =>
    obtain ⟨hascii, hsmall⟩ := h p List.mem_cons_self
    have hrest := ih fun q hq => h q (List.mem_cons_of_mem p hq)
    unfold upper at hrest ⊢
    rw [List.flatMap_cons, hrest, upperPoint, if_pos hascii, dif_neg hsmall]
    rfl

/-! ## Numerals -/

/-- The value of a decimal digit. -/
def digit? (tables : UnicodeTables) (p : CodePoint) : Option ℕ :=
  if p.val < 128 then if 48 ≤ p.val ∧ p.val ≤ 57 then some (p.val - 48) else none
  else (tables.decimal p).map Fin.val

/-- The digits of a numeral, single underscores between them; `none` for another text. -/
def digits? (tables : UnicodeTables) : PyStr → Option (List ℕ)
  | [] => none
  | [p] => (digit? tables p).map fun d => [d]
  | p :: q :: rest =>
    (digit? tables p).bind fun d =>
      (if q.val = 95 then digits? tables rest else digits? tables (q :: rest)).map (d :: ·)

/-- `sys.get_int_max_str_digits()`. -/
def maxStrDigits : ℕ := 4300

def natOfDigits (ds : List ℕ) : ℕ := ds.foldl (fun n d => 10 * n + d) 0

/-- The numeral after its sign; more digits than the limit raise. -/
def nat? (tables : UnicodeTables) (t : PyStr) : Option ℕ := do
  let ds ← digits? tables t
  if ds.length ≤ maxStrDigits then some (natOfDigits ds) else none

/-- `int(t)` of a text without white space at its ends; `none` where it raises. -/
def int? (tables : UnicodeTables) (t : PyStr) : Option ℤ :=
  match t with
  | [] => none
  | p :: rest =>
    if p.val = 45 then (nat? tables rest).map fun n : ℕ => -(n : ℤ)
    else if p.val = 43 then (nat? tables rest).map Int.ofNat
    else (nat? tables (p :: rest)).map Int.ofNat

variable {tables : UnicodeTables}

theorem digit?_lt {d : ℕ} (h : digit? tables p = some d) : d < 10 := by
  unfold digit? at h
  split_ifs at h with hascii hdigit
  · cases h
    omega
  · obtain ⟨e, -, rfl⟩ := Option.map_eq_some_iff.mp h
    exact e.isLt

theorem digits?_lt {t : PyStr} {ds : List ℕ} (h : digits? tables t = some ds) :
    ∀ d ∈ ds, d < 10 := by
  induction t using digits?.induct generalizing ds with
  | case1 => cases h
  | case2 p =>
    obtain ⟨e, he, rfl⟩ := Option.map_eq_some_iff.mp h
    intro d hd
    rw [List.mem_singleton.mp hd]
    exact digit?_lt he
  | case3 p q rest ih ih' =>
    obtain ⟨e, he, h⟩ := Option.bind_eq_some_iff.mp h
    obtain ⟨es, hes, rfl⟩ := Option.map_eq_some_iff.mp h
    intro d hd
    rcases List.mem_cons.mp hd with rfl | hd
    · exact digit?_lt he
    · split at hes
      · exact ih hes d hd
      · exact ih' hes d hd

theorem natOfDigits_lt {ds : List ℕ} (h : ∀ d ∈ ds, d < 10) : natOfDigits ds < 10 ^ ds.length := by
  induction ds using List.reverseRecOn with
  | nil => exact Nat.one_pos
  | append_singleton ds d ih =>
    have hlow := ih fun e he => h e (List.mem_append_left _ he)
    have hd := h d (List.mem_append_right _ (List.mem_singleton_self d))
    unfold natOfDigits at hlow ⊢
    rw [List.foldl_append, List.length_append, List.length_singleton, pow_succ']
    simp only [List.foldl_cons, List.foldl_nil]
    omega

theorem nat?_lt {t : PyStr} {n : ℕ} (h : nat? tables t = some n) : n < 10 ^ maxStrDigits := by
  unfold nat? at h
  simp only [Option.bind_eq_bind, Option.bind_eq_some_iff] at h
  obtain ⟨ds, hds, h⟩ := h
  split at h
  · next hlength =>
      cases h
      exact (natOfDigits_lt (digits?_lt hds)).trans_le (Nat.pow_le_pow_right (by decide) hlength)
  · cases h

/-- What `int` reads has no more digits than the limit. -/
theorem int?_lt {t : PyStr} {n : ℤ} (h : int? tables t = some n) : |n| < 10 ^ maxStrDigits := by
  have habs : ∀ {t : PyStr} {m : ℕ}, nat? tables t = some m → |(m : ℤ)| < 10 ^ maxStrDigits := by
    intro t m hm
    rw [Nat.abs_cast]
    exact_mod_cast nat?_lt hm
  unfold int? at h
  split at h
  · cases h
  · split_ifs at h <;> obtain ⟨m, hm, rfl⟩ := Option.map_eq_some_iff.mp h
    · rw [abs_neg]
      exact habs hm
    · exact habs hm
    · exact habs hm

/-- `str` of an integer. -/
def numeral (n : ℤ) : PyStr :=
  (if n < 0 then [45] else []) ++ (Nat.toDigits 10 n.natAbs).map CodePoint.ofChar

theorem bounds_of_isDigit {c : Char} (h : c.isDigit = true) : 48 ≤ c.toNat ∧ c.toNat ≤ 57 :=
  Char.isDigit_iff_toNat.mp h

theorem isDigit_of_mem {c : Char} {n : ℕ} (h : c ∈ Nat.toDigits 10 n) : c.isDigit = true :=
  Nat.isDigit_of_mem_toDigits (by decide) (by decide) h

theorem digit?_ofChar {c : Char} (h : c.isDigit = true) :
    digit? tables (CodePoint.ofChar c) = some (c.toNat - 48) := by
  obtain ⟨hlow, hhigh⟩ := bounds_of_isDigit h
  rw [digit?, CodePoint.ofChar_val, if_pos (by omega), if_pos ⟨hlow, hhigh⟩]

theorem digits?_ofChars {cs : List Char} (hne : cs ≠ []) (h : ∀ c ∈ cs, c.isDigit = true) :
    digits? tables (cs.map CodePoint.ofChar) = some (cs.map fun c => c.toNat - 48) := by
  induction cs with
  | nil => exact absurd rfl hne
  | cons c cs ih =>
    have hc := @digit?_ofChar tables c (h c List.mem_cons_self)
    cases cs with
    | nil => simp [digits?, hc]
    | cons c' cs =>
      have hdigit := bounds_of_isDigit (h c' (List.mem_cons_of_mem c List.mem_cons_self))
      have hrest := ih (List.cons_ne_nil c' cs) fun d hd => h d (List.mem_cons_of_mem c hd)
      have hnot : ¬ (CodePoint.ofChar c').val = 95 := by
        rw [CodePoint.ofChar_val]
        omega
      rw [List.map_cons, List.map_cons, digits?, hc, if_neg hnot, ← List.map_cons, hrest]
      rfl

theorem natOfDigits_toDigits (n : ℕ) :
    natOfDigits ((Nat.toDigits 10 n).map fun c => c.toNat - 48) = n := by
  have hfold := Nat.ofDigitChars_ten_toDigits (n := n)
  rw [natOfDigits, List.foldl_map]
  exact hfold

theorem nat?_toDigits (n : ℕ) : nat? tables ((Nat.toDigits 10 n).map CodePoint.ofChar) =
    if n < 10 ^ maxStrDigits then some n else none := by
  have hlength : (Nat.toDigits 10 n).length ≤ maxStrDigits ↔ n < 10 ^ maxStrDigits :=
    Nat.length_toDigits_le_iff (by decide) (by decide)
  rw [nat?, digits?_ofChars Nat.toDigits_ne_nil
    fun c hc => isDigit_of_mem hc]
  simp only [Option.bind_eq_bind, Option.bind_some, List.length_map, natOfDigits_toDigits, hlength]

/-- Reading a numeral back: it raises from the limit on. -/
theorem int?_numeral (n : ℤ) : int? tables (numeral n) =
    if |n| < 10 ^ maxStrDigits then some n else none := by
  have hbound : n.natAbs < 10 ^ maxStrDigits ↔ |n| < 10 ^ maxStrDigits := by
    rw [Int.abs_eq_natAbs]
    norm_cast
  by_cases hneg : n < 0
  · have hint : int? tables (numeral n) = (nat? tables
        ((Nat.toDigits 10 n.natAbs).map CodePoint.ofChar)).map fun m : ℕ => -(m : ℤ) := by
      rw [numeral, if_pos hneg]
      rfl
    have hvalue : -(n.natAbs : ℤ) = n := by omega
    rw [hint, nat?_toDigits]
    simp only [hbound]
    split
    · rw [Option.map_some, hvalue]
    · rfl
  · have hint : int? tables (numeral n) = (nat? tables
        ((Nat.toDigits 10 n.natAbs).map CodePoint.ofChar)).map Int.ofNat := by
      -- the first digit is no sign
      rw [numeral, if_neg hneg, List.nil_append]
      cases hdigits : Nat.toDigits 10 n.natAbs with
      | nil => exact absurd hdigits Nat.toDigits_ne_nil
      | cons c cs =>
        have hc : c ∈ Nat.toDigits 10 n.natAbs := by
          rw [hdigits]
          exact List.mem_cons_self
        have hlow := (bounds_of_isDigit (isDigit_of_mem hc)).1
        rw [List.map_cons, int?, CodePoint.ofChar_val, if_neg (by omega), if_neg (by omega)]
    have hvalue : Int.ofNat n.natAbs = n := by
      rw [Int.ofNat_eq_natCast]
      omega
    rw [hint, nat?_toDigits]
    simp only [hbound]
    split
    · rw [Option.map_some, hvalue]
    · rfl

/-- The code points of a numeral: a minus sign or a digit. -/
theorem mem_numeral {n : ℤ} (h : p ∈ numeral n) : p.val = 45 ∨ (48 ≤ p.val ∧ p.val ≤ 57) := by
  rcases List.mem_append.mp h with hsign | hdigit
  · split at hsign
    · rw [List.mem_singleton.mp hsign]
      exact Or.inl rfl
    · cases hsign
  · obtain ⟨c, hc, rfl⟩ := List.mem_map.mp hdigit
    exact Or.inr (bounds_of_isDigit (isDigit_of_mem hc))

theorem numeral_ne_nil (n : ℤ) : numeral n ≠ [] := by
  intro h
  rw [numeral, List.append_eq_nil_iff, List.map_eq_nil_iff] at h
  exact Nat.toDigits_ne_nil h.2

theorem isSpace_of_mem_numeral {n : ℤ} (h : p ∈ numeral n) : isSpace p = false := by
  have hval := mem_numeral h
  simp only [isSpace, Bool.or_eq_false_iff, Bool.and_eq_false_iff, decide_eq_false_iff_not]
  omega

/-- A numeral is a word. -/
theorem numeral_word (n : ℤ) : numeral n ≠ [] ∧ ∀ p ∈ numeral n, isSpace p = false :=
  ⟨numeral_ne_nil n, fun _ => isSpace_of_mem_numeral⟩

theorem isLineBreak_of_mem_numeral {n : ℤ} (h : p ∈ numeral n) : isLineBreak p = false := by
  have hval := mem_numeral h
  simp only [isLineBreak, Bool.or_eq_false_iff, Bool.and_eq_false_iff, decide_eq_false_iff_not]
  omega

end PyStr

end Cathedral
