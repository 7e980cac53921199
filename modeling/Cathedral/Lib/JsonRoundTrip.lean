import Cathedral.Lib.Bytes
import Cathedral.Lib.Fallible
import Cathedral.Lib.Json

/-!
# Cathedral.Lib.JsonRoundTrip — what was written is read back
-/

namespace Cathedral

namespace Json

variable {ν ε : Type}

/-! ## Strings -/

theorem hexValue?_hexDigit : ∀ n < 16, hexValue? (hexDigit n) = some n := by decide

variable {p : CodePoint}

theorem hex4_escapeUnit (hp : p.val < 0x10000) (rest : List Char) :
    hex4 (ε := ε) ((escapeUnit p).drop 2 ++ rest) = .ok (p, rest) := by
  have h1 := hexValue?_hexDigit (p.val / 4096 % 16) (by omega)
  have h2 := hexValue?_hexDigit (p.val / 256 % 16) (by omega)
  have h3 := hexValue?_hexDigit (p.val / 16 % 16) (by omega)
  have h4 := hexValue?_hexDigit (p.val % 16) (by omega)
  have hvalue : ((p.val / 4096 % 16 * 16 + p.val / 256 % 16) * 16 + p.val / 16 % 16) * 16 +
      p.val % 16 = p.val := by omega
  simp only [escapeUnit, List.drop_succ_cons, List.drop_zero, List.cons_append, List.nil_append,
    hex4, h1, h2, h3, h4, hvalue]
  congr
  exact Fin.ext (Nat.mod_eq_of_lt p.isLt)

theorem unit_quoteUnit (hp : p.val < 0x10000) :
    ∃ c cs, quoteUnit p = c :: cs ∧ c ≠ '"' ∧
      ∀ rest, unit (ε := ε) c (cs ++ rest) = .ok (p, rest) := by
  unfold quoteUnit
  split
  · case h_1 letter c hfind =>
    have hc : CodePoint.ofChar c = p := by simpa using List.find?_some hfind
    have hmem := List.mem_of_find?_eq_some hfind
    subst hc
    refine ⟨'\\', [letter], rfl, by decide, fun rest => ?_⟩
    clear hfind hp
    simp only [shortEscapes, List.mem_cons, Prod.mk.injEq, List.not_mem_nil, or_false] at hmem
    rcases hmem with ⟨rfl, rfl⟩ | ⟨rfl, rfl⟩ | ⟨rfl, rfl⟩ | ⟨rfl, rfl⟩ | ⟨rfl, rfl⟩ |
      ⟨rfl, rfl⟩ | ⟨rfl, rfl⟩ <;> rfl
  · case h_2 hfind =>
    split_ifs with hprintable
    · have hvalid : p.val.isValidChar := Or.inl (by omega)
      have hchar : CodePoint.ofChar (Char.ofNat p.val) = p := by
        rw [Char.ofNat, dif_pos hvalid]
        rfl
      have hescape : ∀ e ∈ shortEscapes, Char.ofNat p.val ≠ e.2 := by
        intro e he heq
        have := List.find?_eq_none.mp hfind e he
        rw [← heq, hchar] at this
        simp at this
      refine ⟨Char.ofNat p.val, [], rfl, hescape ('"', '"') (by decide), fun rest => ?_⟩
      unfold unit
      rw [if_neg (hescape ('\\', '\\') (by decide)), if_neg, hchar]
      · rfl
      · have := congrArg Fin.val hchar
        rw [CodePoint.ofChar_val] at this
        omega
    · refine ⟨'\\', (escapeUnit p).drop 1, rfl, by decide, fun rest => ?_⟩
      exact hex4_escapeUnit hp rest

theorem units_quote {n : ℕ} {ps : PyStr} (hps : ∀ p ∈ ps, p.val < 0x10000) (hn : ps.length < n)
    (rest : List Char) :
    units (ε := ε) n (ps.flatMap quoteUnit ++ '"' :: rest) = .ok (ps, rest) := by
  induction n generalizing ps with
  | zero => omega
  | succ n ih =>
    cases ps with
    | nil => rfl
    | cons p ps =>
      rcases unit_quoteUnit (ε := ε) (hps p (List.mem_cons_self ..)) with
        ⟨c, cs, hquote, hc, hunit⟩
      have hrest := ih (fun q hq => hps q (List.mem_cons_of_mem _ hq))
        (by simp only [List.length_cons] at hn; omega)
      rw [List.flatMap_cons, hquote, List.append_assoc, List.cons_append]
      unfold units
      rw [if_neg hc]
      exact bind_eq_ok.mpr ⟨_, hunit _, bind_eq_ok.mpr ⟨_, hrest, rfl⟩⟩

/-- No two neighbours are the halves of a surrogate pair. -/
def Joined (s : PyStr) : Prop := s.IsChain fun p q => ¬ (p.IsHigh ∧ q.IsLow)

/-- No surrogate is a character. -/
theorem joined_ofString (s : String) : Joined (PyStr.ofString s) := by
  apply List.Pairwise.isChain
  apply List.pairwise_of_forall_mem_list
  intro p hp q _ hpair
  rcases List.mem_map.mp hp with ⟨c, _, rfl⟩
  exact CodePoint.not_isHigh_ofChar c hpair.1

theorem pairOf_val (p q : CodePoint) : (pairOf p q).val =
    (0x10000 + (p.val - 0xD800) * 0x400 + (q.val - 0xDC00)) % 0x110000 := rfl

theorem pairOf_isAstral {p q : CodePoint} (hp : p.IsHigh) (hq : q.IsLow) :
    0x10000 ≤ (pairOf p q).val := by
  rcases hp with ⟨_, _⟩
  rcases hq with ⟨_, _⟩
  rw [pairOf_val]
  omega

theorem highHalf_val : (highHalf p).val = 0xD800 + (p.val - 0x10000) / 0x400 := by
  have := p.isLt
  exact Nat.mod_eq_of_lt (by omega)

theorem lowHalf_val :
    (lowHalf p).val = 0xDC00 + (p.val - 0x10000) % 0x400 := Nat.mod_eq_of_lt (by omega)

theorem isHigh_highHalf (p : CodePoint) : (highHalf p).IsHigh := by
  have := p.isLt
  unfold CodePoint.IsHigh
  rw [highHalf_val]
  omega

theorem isLow_lowHalf (p : CodePoint) : (lowHalf p).IsLow := by
  unfold CodePoint.IsLow
  rw [lowHalf_val]
  omega

theorem pairOf_halves (hp : 0x10000 ≤ p.val) : pairOf (highHalf p) (lowHalf p) = p := by
  apply Fin.ext
  have := p.isLt
  rw [pairOf_val, highHalf_val, lowHalf_val]
  omega

theorem splitPairs_cons (p : CodePoint) (s : PyStr) :
    splitPairs (p :: s) =
      if 0x10000 ≤ p.val then highHalf p :: lowHalf p :: splitPairs s
      else p :: splitPairs s := by
  unfold splitPairs
  rw [List.flatMap_cons]
  split_ifs <;> rfl

theorem splitPairs_lt {s : PyStr} : ∀ p ∈ splitPairs s, p.val < 0x10000 := by
  intro p hp
  unfold splitPairs at hp
  rcases List.mem_flatMap.mp hp with ⟨q, _, hq⟩
  split_ifs at hq with hastral
  · simp only [List.mem_cons, List.not_mem_nil, or_false] at hq
    rcases hq with rfl | rfl
    · have := (isHigh_highHalf q).2
      omega
    · have := (isLow_lowHalf q).2
      omega
  · rw [List.mem_singleton] at hq
    subst hq
    omega

/-- What starts the halves of a string is no second half, unless the string starts so. -/
theorem isLow_of_splitPairs {s rest : PyStr} {q : CodePoint} (h : splitPairs s = q :: rest)
    (hq : q.IsLow) : ∃ t, s = q :: t := by
  cases s with
  | nil => cases h
  | cons p t =>
    rw [splitPairs_cons] at h
    split_ifs at h with hastral
    · rw [List.cons.injEq] at h
      have hhigh := (isHigh_highHalf p).2
      have hlow := hq.1
      rw [← h.1] at hlow
      omega
    · rw [List.cons.injEq] at h
      exact ⟨t, by rw [h.1]⟩

theorem joinPairs_splitPairs {s : PyStr} (hs : Joined s) : joinPairs (splitPairs s) = s := by
  induction s with
  | nil => rfl
  | cons p s ih =>
    have ih := ih hs.of_cons
    rw [splitPairs_cons]
    split_ifs with hastral
    · unfold joinPairs
      rw [if_pos ⟨isHigh_highHalf p, isLow_lowHalf p⟩, pairOf_halves hastral, ih]
    · cases hsplit : splitPairs s with
      | nil =>
        rw [hsplit] at ih
        rw [← ih]
        rfl
      | cons q rest =>
        unfold joinPairs
        rw [if_neg, ← hsplit, ih]
        rintro ⟨hp, hq⟩
        rcases isLow_of_splitPairs hsplit hq with ⟨t, rfl⟩
        exact (List.isChain_cons_cons.mp hs).1 ⟨hp, hq⟩

theorem joined_joinPairs (ps : PyStr) : Joined (joinPairs ps) := by
  fun_induction joinPairs ps with
  | case1 => exact .nil
  | case2 p => exact .singleton _
  | case3 p q rest hpair ih =>
    refine List.isChain_cons.mpr ⟨fun r _ hr => ?_, ih⟩
    have := pairOf_isAstral hpair.1 hpair.2
    have := hr.1.2
    omega
  | case4 p q rest hpair ih =>
    refine List.isChain_cons.mpr ⟨fun r hr hr' => ?_, ih⟩
    -- what follows `p` is `q`, or a code point from a pair that `q` starts
    apply hpair
    refine ⟨hr'.1, ?_⟩
    cases rest with
    | nil =>
      cases hr
      exact hr'.2
    | cons r' rest =>
      unfold joinPairs at hr
      split_ifs at hr with hnext
      · rw [List.head?_cons, Option.mem_some_iff] at hr
        have hastral := pairOf_isAstral hnext.1 hnext.2
        have hlow := hr'.2.2
        rw [← hr] at hlow
        omega
      · cases hr
        exact hr'.2

/-- A string is read back with its surrogate pairs joined. -/
theorem string_quote_units (s : PyStr) (rest : List Char) :
    string (ε := ε) ((splitPairs s).flatMap quoteUnit ++ '"' :: rest) =
      .ok (joinPairs (splitPairs s), rest) := by
  have hlength : (splitPairs s).length ≤ ((splitPairs s).flatMap quoteUnit).length := by
    generalize hps : splitPairs s = ps
    have hlt : ∀ p ∈ ps, p.val < 0x10000 := hps ▸ splitPairs_lt
    clear hps
    induction ps with
    | nil => exact Nat.zero_le _
    | cons p ps ih =>
      have ih := ih fun q hq => hlt q (List.mem_cons_of_mem _ hq)
      rcases unit_quoteUnit (ε := ε) (hlt p (List.mem_cons_self ..)) with ⟨c, cs, hquote, _⟩
      rw [List.flatMap_cons, List.length_append, hquote, List.length_cons, List.length_cons]
      omega
  unfold string
  refine bind_eq_ok.mpr ⟨_, units_quote splitPairs_lt ?_ rest, rfl⟩
  rw [List.length_append]
  omega

theorem string_quote {s : PyStr} (hs : Joined s) (rest : List Char) :
    string (ε := ε) ((splitPairs s).flatMap quoteUnit ++ '"' :: rest) = .ok (s, rest) := by
  rw [string_quote_units, joinPairs_splitPairs hs]

/-! ## Reading what was written -/

/-- What may follow a value. -/
def Delimited (rest : List Char) : Prop := ∀ c ∈ rest.head?, c = ',' ∨ c = ']' ∨ c = '}'

theorem delimited_cons {c : Char} (hc : c = ',' ∨ c = ']' ∨ c = '}') (rest : List Char) :
    Delimited (c :: rest) := by
  intro c' hc'
  rw [List.head?_cons, Option.mem_some_iff] at hc'
  exact hc' ▸ hc

/-- What may start a value: no blank, and nothing that closes a container. -/
def IsLead (c : Char) : Prop := isSpace c = false ∧ c ≠ ']' ∧ c ≠ '}'

instance (c : Char) : Decidable (IsLead c) := inferInstanceAs (Decidable (_ ∧ _))

theorem skip_of_lead {c : Char} {text : List Char} (hc : IsLead c) :
    skip (c :: text) = c :: text := by
  unfold skip
  rw [List.dropWhile_cons_of_neg (by rw [hc.1]; decide)]

/-- A reader of numbers that reads the numerals of a writer. -/
structure ReadsBack (hooks : Hooks ν ε) (numeral : ν → List Char) (okNum : ν → Prop) :
    Prop where
  /-- A numeral does not start as anything else does. -/
  lead : ∀ n, okNum n → ∃ c cs, numeral n = c :: cs ∧ IsLead c ∧ c ≠ '"' ∧ c ≠ '[' ∧ c ≠ '{'
  scalar : ∀ n rest, okNum n → Delimited rest →
    scalar hooks (numeral n ++ rest) = .ok (.num n, rest)

/-- Documents of a depth whose numbers and keys satisfy a predicate. -/
inductive Wf (okNum : ν → Prop) (okKeys : List PyStr → Prop) : ℕ → Json ν → Prop where
  | null {depth : ℕ} : Wf okNum okKeys depth .null
  | bool {depth : ℕ} (b : Bool) : Wf okNum okKeys depth (.bool b)
  | num {depth : ℕ} {n : ν} (h : okNum n) : Wf okNum okKeys depth (.num n)
  | str {depth : ℕ} {s : PyStr} (h : Joined s) : Wf okNum okKeys depth (.str s)
  | arr {depth : ℕ} {xs : List (Json ν)} (h : ∀ x ∈ xs, Wf okNum okKeys depth x) :
      Wf okNum okKeys (depth + 1) (.arr xs)
  | obj {depth : ℕ} {ms : List (PyStr × Json ν)} (hkeys : okKeys (ms.map Prod.fst))
      (hjoined : ∀ m ∈ ms, Joined m.1) (h : ∀ m ∈ ms, Wf okNum okKeys depth m.2) :
      Wf okNum okKeys (depth + 1) (.obj ms)

theorem length_separated (close : Char) (texts : List (List Char)) :
    texts.length ≤ (separated close texts).length := by
  fun_induction separated close texts with
  | case1 => exact Nat.zero_le _
  | case2 text => simp
  | case3 text next texts ih =>
    simp only [List.length_cons, List.length_append] at ih ⊢
    omega

theorem getLast?_separated (close : Char) (texts : List (List Char)) :
    (separated close texts).getLast? = some close := by
  fun_induction separated close texts with
  | case1 => rfl
  | case2 text => simp
  | case3 text next texts ih => simp [List.getLast?_append, List.getLast?_cons, ih]

/-- The text of a value, as a reader takes it off. -/
structure Reads {α : Type} (entry : Reader ε α) (x : α) (text : List Char) : Prop where
  lead : ∃ c cs, text = c :: cs ∧ IsLead c
  read : ∀ rest, Delimited rest → entry (text ++ rest) = .ok (x, rest)

theorem separated_lead {α : Type} {entry : Reader ε α} {x : α} {text : List Char}
    (h : Reads entry x text) (close : Char) (texts : List (List Char)) :
    ∃ c cs, separated close (text :: texts) = c :: cs ∧ IsLead c := by
  rcases h.lead with ⟨c, cs, rfl, hlead⟩
  cases texts with
  | nil => exact ⟨c, _, rfl, hlead⟩
  | cons next texts => exact ⟨c, _, rfl, hlead⟩

theorem sequence_separated {α : Type} {entry : Reader ε α} {close : Char}
    (hclose : close = ']' ∨ close = '}') {n : ℕ} {x : α} {xs : List α} {text : List Char}
    {texts : List (List Char)} (hx : Reads entry x text)
    (hxs : List.Forall₂ (Reads entry) xs texts) (hn : xs.length < n) (rest : List Char) :
    sequence close entry n (separated close (text :: texts) ++ rest) = .ok (x :: xs, rest) := by
  have hspace : ∀ (c : Char) (text : List Char), c = ',' ∨ c = ']' ∨ c = '}' →
      skip (c :: text) = c :: text := by
    rintro c text (rfl | rfl | rfl) <;> rfl
  induction n generalizing x xs text texts with
  | zero => exact absurd hn (Nat.not_lt_zero _)
  | succ n ih =>
    cases hxs with
    | nil =>
      have hread := hx.read (close :: rest) (delimited_cons (.inr hclose) rest)
      show sequence close entry (n + 1) ((text ++ [close]) ++ rest) = _
      rw [List.append_assoc]
      unfold sequence
      refine bind_eq_ok.mpr ⟨_, hread, ?_⟩
      simp only [hspace close rest (.inr hclose), if_true]
    | @cons y next ys nexts hy hys =>
      have hread := hx.read (',' :: (separated close (next :: nexts) ++ rest))
        (delimited_cons (.inl rfl) _)
      have hrest := ih hy hys (by simp only [List.length_cons] at hn; omega)
      have hcomma : ',' ≠ close := by rcases hclose with rfl | rfl <;> decide
      rcases separated_lead hy close nexts with ⟨c, cs, heq, hlead⟩
      show sequence close entry (n + 1)
        ((text ++ ',' :: separated close (next :: nexts)) ++ rest) = _
      rw [List.append_assoc, List.cons_append]
      unfold sequence
      refine bind_eq_ok.mpr ⟨_, hread, ?_⟩
      simp only [hspace ',' _ (.inl rfl), if_neg hcomma, if_true]
      refine bind_eq_ok.mpr ⟨(y :: ys, rest), ?_, rfl⟩
      rw [heq] at hrest ⊢
      rw [List.cons_append, skip_of_lead hlead]
      exact hrest

theorem fits_of_wf {okNum : ν → Bool} {okKeys : List PyStr → Prop} {depth : ℕ} {j : Json ν}
    (h : Wf (fun n => okNum n = true) okKeys depth j) : fits okNum depth j = true := by
  induction h with
  | null => simp [fits]
  | bool b => simp [fits]
  | num hn => simpa [fits] using hn
  | str hs => simp [fits]
  | @arr depth xs _ ih =>
    rw [fits]
    clear * - ih
    induction xs with
    | nil => simp [fitsItems]
    | cons x xs hxs =>
      rw [fitsItems, ih x (List.mem_cons_self ..), Bool.true_and]
      exact hxs fun y hy => ih y (List.mem_cons_of_mem _ hy)
  | @obj depth ms _ _ _ ih =>
    rw [fits]
    clear * - ih
    induction ms with
    | nil => simp [fitsMembers]
    | cons m ms hms =>
      rw [fitsMembers, ih m (List.mem_cons_self ..), Bool.true_and]
      exact hms fun n hn => ih n (List.mem_cons_of_mem _ hn)

/-- A list that is written has its items one level down. -/
theorem fits_arr {okNum : ν → Bool} {depth : ℕ} {items : List (Json ν)}
    (h : fits okNum depth (.arr items) = true) :
    ∃ d, depth = d + 1 ∧ ∀ item ∈ items, fits okNum d item = true := by
  cases depth with
  | zero => simp [fits] at h
  | succ d =>
    rw [fits] at h
    refine ⟨d, rfl, ?_⟩
    induction items with
    | nil => exact fun item hitem => absurd hitem List.not_mem_nil
    | cons x xs ih =>
      rw [fitsItems, Bool.and_eq_true] at h
      exact List.forall_mem_cons.mpr ⟨h.1, ih h.2⟩

/-- An object that is written has its members one level down. -/
theorem fits_obj {okNum : ν → Bool} {depth : ℕ} {members : List (PyStr × Json ν)}
    (h : fits okNum depth (.obj members) = true) :
    ∃ d, depth = d + 1 ∧ ∀ m ∈ members, fits okNum d m.2 = true := by
  cases depth with
  | zero => simp [fits] at h
  | succ d =>
    rw [fits] at h
    refine ⟨d, rfl, ?_⟩
    induction members with
    | nil => exact fun m hm => absurd hm List.not_mem_nil
    | cons m ms ih =>
      rw [fitsMembers, Bool.and_eq_true] at h
      exact List.forall_mem_cons.mpr ⟨h.1, ih h.2⟩

section RoundTrip

variable {hooks : Hooks ν ε} {numeral : ν → List Char} {okNum : ν → Prop}
  {okKeys : List PyStr → Prop}

theorem render_lead (hnum : ReadsBack hooks numeral okNum) {depth : ℕ} {j : Json ν}
    (h : Wf okNum okKeys depth j) : ∃ c cs, render numeral j = c :: cs ∧ IsLead c := by
  cases h with
  | null => exact ⟨_, _, rfl, by decide⟩
  | bool b => cases b <;> exact ⟨_, _, rfl, by decide⟩
  | num hn =>
    rcases hnum.lead _ hn with ⟨c, cs, heq, hlead, _⟩
    exact ⟨c, cs, heq, hlead⟩
  | str hs => exact ⟨_, _, rfl, by decide⟩
  | arr _ => exact ⟨_, _, rfl, by decide⟩
  | obj _ _ _ => exact ⟨_, _, rfl, by decide⟩

theorem quote_append (s : PyStr) (rest : List Char) :
    quote s ++ rest = '"' :: ((splitPairs s).flatMap quoteUnit ++ '"' :: rest) := by
  unfold quote
  rw [List.append_assoc]
  rfl

variable {item : Reader ε (Json ν)}

/-- A member is read when its value is. -/
theorem reads_member {name : PyStr} {x : Json ν} {text : List Char} (hname : Joined name)
    (h : Reads item x text) : Reads (member item) (name, x) (quote name ++ ':' :: text) := by
  constructor
  · exact ⟨'"', _, rfl, by decide⟩
  · intro rest hrest
    rcases h.lead with ⟨c, cs, heq, hlead⟩
    have hkey : key (ε := ε) (quote name ++ ':' :: (text ++ rest)) = .ok (name, text ++ rest) := by
      rw [quote_append]
      refine bind_eq_ok.mpr ⟨_, string_quote hname _, ?_⟩
      show Except.ok (name, skip (text ++ rest)) = _
      rw [heq, List.cons_append, skip_of_lead hlead]
    rw [List.append_assoc, List.cons_append]
    exact bind_eq_ok.mpr ⟨_, hkey, bind_eq_ok.mpr ⟨_, h.read rest hrest, rfl⟩⟩

theorem forall₂_renderItems {xs : List (Json ν)} (h : ∀ x ∈ xs, Reads item x (render numeral x)) :
    List.Forall₂ (Reads item) xs (renderItems numeral xs) := by
  induction xs with
  | nil => exact .nil
  | cons x xs ih =>
    exact .cons (h x (List.mem_cons_self ..)) (ih fun y hy => h y (List.mem_cons_of_mem _ hy))

theorem forall₂_renderMembers {ms : List (PyStr × Json ν)} (hjoined : ∀ m ∈ ms, Joined m.1)
    (h : ∀ m ∈ ms, Reads item m.2 (render numeral m.2)) :
    List.Forall₂ (Reads (member item)) ms (renderMembers numeral ms) := by
  induction ms with
  | nil => exact .nil
  | cons m ms ih =>
    refine .cons ?_ (ih (fun n hn => hjoined n (List.mem_cons_of_mem _ hn))
      fun n hn => h n (List.mem_cons_of_mem _ hn))
    exact reads_member (hjoined m (List.mem_cons_self ..)) (h m (List.mem_cons_self ..))

theorem contents_separated {α : Type} {entry : Reader ε α} {close : Char}
    (hclose : close = ']' ∨ close = '}') {xs : List α} {texts : List (List Char)}
    (h : List.Forall₂ (Reads entry) xs texts) (rest : List Char) :
    contents close entry (separated close texts ++ rest) = .ok (xs, rest) := by
  cases h with
  | nil => rcases hclose with rfl | rfl <;> rfl
  | @cons x text xs texts hx hxs =>
    have hlength : xs.length < (separated close (text :: texts) ++ rest).length + 1 := by
      have := length_separated close (text :: texts)
      have := hxs.length_eq
      simp only [List.length_cons, List.length_append] at *
      omega
    have hread := sequence_separated hclose hx hxs hlength rest
    rcases separated_lead hx close texts with ⟨c, cs, heq, hlead⟩
    rw [heq, List.cons_append] at hread ⊢
    unfold contents
    rw [skip_of_lead hlead]
    have hword : word [close] (c :: (cs ++ rest)) = none := by
      refine if_neg ?_
      rcases hclose with rfl | rfl
      · exact hlead.2.1
      · exact hlead.2.2
    rw [hword]
    exact hread

theorem repeated_eq_none {seen names : List PyStr} :
    repeated seen names = none ↔ names.Nodup ∧ ∀ name ∈ names, name ∉ seen := by
  induction names generalizing seen with
  | nil => simp [repeated]
  | cons name names ih =>
    unfold repeated
    split_ifs with hseen
    · simp [hseen]
    · rw [ih, List.nodup_cons]
      simp only [List.mem_cons, not_or, forall_eq_or_imp]
      constructor
      · rintro ⟨hnodup, hfresh⟩
        exact ⟨⟨fun hmem => (hfresh name hmem).1 rfl, hnodup⟩, hseen,
          fun other hother => (hfresh other hother).2⟩
      · rintro ⟨⟨hname, hnodup⟩, _, hfresh⟩
        exact ⟨hnodup, fun other hother =>
          ⟨fun heq => hname (heq ▸ hother), hfresh other hother⟩⟩

/-- What was written is read back. -/
theorem reads_render (hnum : ReadsBack hooks numeral okNum) {depth : ℕ} {j : Json ν}
    (h : Wf okNum List.Nodup depth j) : Reads (value hooks depth) j (render numeral j) := by
  refine ⟨render_lead hnum h, ?_⟩
  induction h with
  | @null depth => intro rest _; cases depth <;> rfl
  | @bool depth b => intro rest _; cases depth <;> cases b <;> rfl
  | @num depth n hn =>
    intro rest hrest
    rcases hnum.lead n hn with ⟨c, cs, heq, _, hquote, hopen, hbrace⟩
    have hscalar := hnum.scalar n rest hn hrest
    show value hooks depth (numeral n ++ rest) = _
    rw [heq, List.cons_append] at hscalar ⊢
    rw [← hscalar]
    cases depth <;> exact (if_neg hquote).trans ((if_neg hopen).trans (if_neg hbrace))
  | @str depth s hs =>
    intro rest _
    show value hooks depth (quote s ++ rest) = _
    rw [quote_append]
    cases depth <;> exact bind_eq_ok.mpr ⟨_, string_quote hs rest, rfl⟩
  | @arr depth xs hxs ih =>
    intro rest _
    have hreads : ∀ x ∈ xs, Reads (value hooks depth) x (render numeral x) :=
      fun x hx => ⟨render_lead hnum (hxs x hx), ih x hx⟩
    exact bind_eq_ok.mpr ⟨_, contents_separated (.inl rfl) (forall₂_renderItems hreads) rest, rfl⟩
  | @obj depth ms hkeys hjoined hms ih =>
    intro rest _
    have hreads : ∀ m ∈ ms, Reads (value hooks depth) m.2 (render numeral m.2) :=
      fun m hm => ⟨render_lead hnum (hms m hm), ih m hm⟩
    have hdistinct : distinct hooks ms = .ok (.obj ms) := by
      unfold distinct
      rw [repeated_eq_none.mpr ⟨hkeys, fun _ _ => List.not_mem_nil⟩]
    exact bind_eq_ok.mpr ⟨_, contents_separated (.inr rfl) (forall₂_renderMembers hjoined hreads)
      rest, bind_eq_ok.mpr ⟨_, hdistinct, rfl⟩⟩

/-- `json.loads` reads what `json.dumps` wrote. -/
theorem loads_render (hnum : ReadsBack hooks numeral okNum) {depth : ℕ} {j : Json ν}
    (h : Wf okNum List.Nodup depth j) : loads hooks depth (render numeral j) = .ok j := by
  have hreads := reads_render hnum h
  have hvalue := hreads.read [] (by intro c hc; cases hc)
  rcases hreads.lead with ⟨c, cs, heq, hlead⟩
  rw [List.append_nil] at hvalue
  unfold loads
  rw [heq] at hvalue ⊢
  rw [skip_of_lead hlead]
  exact bind_eq_ok.mpr ⟨_, hvalue, rfl⟩

end RoundTrip

/-! ## ASCII -/

theorem isAscii_append {a b : List Char} (ha : IsAscii a) (hb : IsAscii b) : IsAscii (a ++ b) :=
  List.forall_mem_append.mpr ⟨ha, hb⟩

theorem isAscii_cons {c : Char} {text : List Char} (hc : c.toNat < 0x80) (h : IsAscii text) :
    IsAscii (c :: text) := List.forall_mem_cons.mpr ⟨hc, h⟩

theorem hexDigit_isAscii : ∀ n < 16, (hexDigit n).toNat < 0x80 := by decide

theorem quoteUnit_isAscii (p : CodePoint) : IsAscii (quoteUnit p) := by
  unfold quoteUnit
  split
  · case h_1 letter c hfind =>
    have hmem := List.mem_of_find?_eq_some hfind
    have hletters : ∀ e ∈ shortEscapes, e.1.toNat < 0x80 := by decide
    exact isAscii_cons (by decide) (isAscii_cons (hletters _ hmem) (by decide))
  · split_ifs with hprintable
    · refine isAscii_cons ?_ (by decide)
      rw [Char.ofNat, dif_pos (Or.inl (by omega))]
      show p.val < 0x80
      omega
    · intro c hc
      simp only [escapeUnit, List.mem_cons, List.not_mem_nil, or_false] at hc
      rcases hc with rfl | rfl | rfl | rfl | rfl | rfl
      · decide
      · decide
      all_goals exact hexDigit_isAscii _ (by omega)

theorem quote_isAscii (s : PyStr) : IsAscii (quote s) := by
  refine isAscii_append (isAscii_cons (by decide) fun c hc => ?_) (by decide)
  rcases List.mem_flatMap.mp hc with ⟨p, _, hp⟩
  exact quoteUnit_isAscii p c hp

theorem separated_isAscii {close : Char} (hclose : close.toNat < 0x80)
    {texts : List (List Char)} (h : ∀ text ∈ texts, IsAscii text) :
    IsAscii (separated close texts) := by
  fun_induction separated close texts with
  | case1 => exact isAscii_cons hclose (by decide)
  | case2 text =>
    exact isAscii_append (h text (List.mem_cons_self ..)) (isAscii_cons hclose (by decide))
  | case3 text next texts ih =>
    have ih := ih fun t ht => h t (List.mem_cons_of_mem _ ht)
    exact isAscii_append (h text (List.mem_cons_self ..)) (isAscii_cons (by decide) ih)

/-- What is written is ASCII. -/
theorem render_isAscii {numeral : ν → List Char} {okNum : ν → Prop}
    {okKeys : List PyStr → Prop} (hnum : ∀ n, okNum n → IsAscii (numeral n)) {depth : ℕ}
    {j : Json ν} (h : Wf okNum okKeys depth j) : IsAscii (render numeral j) := by
  induction h with
  | null =>
    show IsAscii "null".toList
    decide
  | bool b =>
    have hwords : IsAscii "true".toList ∧ IsAscii "false".toList := by decide
    cases b with
    | true => exact hwords.1
    | false => exact hwords.2
  | num hn => exact hnum _ hn
  | @str _ s hs => exact quote_isAscii s
  | @arr depth xs _ ih =>
    refine isAscii_cons (by decide) (separated_isAscii (by decide) ?_)
    clear * - ih
    induction xs with
    | nil => intro text ht; cases ht
    | cons x xs hxs =>
      exact List.forall_mem_cons.mpr ⟨ih x (List.mem_cons_self ..),
        hxs fun y hy => ih y (List.mem_cons_of_mem _ hy)⟩
  | @obj depth ms _ _ _ ih =>
    refine isAscii_cons (by decide) (separated_isAscii (by decide) ?_)
    clear * - ih
    induction ms with
    | nil => intro text ht; cases ht
    | cons m ms hms =>
      exact List.forall_mem_cons.mpr
        ⟨isAscii_append (quote_isAscii _)
          (isAscii_cons (by decide) (ih m (List.mem_cons_self ..))),
          hms fun n hn => ih n (List.mem_cons_of_mem _ hn)⟩

/-! ## Sorted keys -/

/-- The keys of an object in the order of `sort_keys`. -/
def SortedKeys (keys : List PyStr) : Prop := keys.Pairwise (· < ·)

theorem SortedKeys.nodup {keys : List PyStr} (h : SortedKeys keys) : keys.Nodup :=
  h.imp fun hlt => hlt.ne

theorem sortedItems_eq_map (xs : List (Json ν)) : sortedItems xs = xs.map sorted := by
  induction xs with
  | nil => rfl
  | cons x xs ih => rw [sortedItems, ih, List.map_cons]

theorem sortedMembers_eq_map (ms : List (PyStr × Json ν)) :
    sortedMembers ms = ms.map fun m => (m.1, m.2.sorted) := by
  induction ms with
  | nil => rfl
  | cons m ms ih => rw [sortedMembers, ih, List.map_cons]

theorem sortMembers_perm (ms : List (PyStr × Json ν)) : (sortMembers ms).Perm ms :=
  List.perm_insertionSort _ ms

variable {ms : List (PyStr × Json ν)}

theorem mem_sortMembers {m : PyStr × Json ν} :
    m ∈ sortMembers ms ↔ m ∈ ms := (sortMembers_perm ms).mem_iff

instance : Std.Total fun a b : PyStr × Json ν => a.1 ≤ b.1 := ⟨fun a b => le_total a.1 b.1⟩

instance : IsTrans (PyStr × Json ν) fun a b => a.1 ≤ b.1 := ⟨fun _ _ _ => le_trans⟩

theorem sortMembers_keys (h : (ms.map Prod.fst).Nodup) :
    SortedKeys ((sortMembers ms).map Prod.fst) := by
  have hnodup : ((sortMembers ms).map Prod.fst).Nodup :=
    ((sortMembers_perm ms).map Prod.fst).nodup_iff.mpr h
  have hsorted : ((sortMembers ms).map Prod.fst).Pairwise (· ≤ ·) :=
    List.pairwise_map.mpr (List.pairwise_insertionSort _ ms)
  exact (hsorted.and hnodup).imp fun h => lt_of_le_of_ne h.1 h.2

theorem sortMembers_eq_self (h : SortedKeys (ms.map Prod.fst)) : sortMembers ms = ms := by
  apply List.Pairwise.insertionSort_eq
  exact (List.pairwise_map.mp h).imp le_of_lt

section Sorted

variable {okNum : ν → Prop}

theorem Wf.mono {okKeys okKeys' : List PyStr → Prop} (himp : ∀ keys, okKeys keys → okKeys' keys)
    {depth : ℕ} {j : Json ν} (h : Wf okNum okKeys depth j) : Wf okNum okKeys' depth j := by
  induction h with
  | null => exact .null
  | bool b => exact .bool b
  | num hn => exact .num hn
  | str hs => exact .str hs
  | arr _ ih => exact .arr ih
  | obj hkeys hjoined _ ih => exact .obj (himp _ hkeys) hjoined ih

theorem Wf.imp {okNum' : ν → Prop} (himp : ∀ n, okNum n → okNum' n)
    {okKeys : List PyStr → Prop} {depth : ℕ} {j : Json ν} (h : Wf okNum okKeys depth j) :
    Wf okNum' okKeys depth j := by
  induction h with
  | null => exact .null
  | bool b => exact .bool b
  | num hn => exact .num (himp _ hn)
  | str hs => exact .str hs
  | arr _ ih => exact .arr ih
  | obj hkeys hjoined _ ih => exact .obj hkeys hjoined ih

theorem wf_sorted {depth : ℕ} {j : Json ν} (h : Wf okNum List.Nodup depth j) :
    Wf okNum SortedKeys depth j.sorted := by
  induction h with
  | null => exact .null
  | bool b => exact .bool b
  | num hn => exact .num hn
  | str hs => exact .str hs
  | @arr depth xs _ ih =>
    rw [sorted, sortedItems_eq_map]
    refine .arr fun y hy => ?_
    rcases List.mem_map.mp hy with ⟨x, hx, rfl⟩
    exact ih x hx
  | @obj depth ms hkeys hjoined _ ih =>
    rw [sorted, sortedMembers_eq_map]
    have hmem : ∀ m ∈ sortMembers (ms.map fun m => (m.1, m.2.sorted)),
        ∃ n ∈ ms, (n.1, n.2.sorted) = m :=
      fun m hm => List.mem_map.mp (mem_sortMembers.mp hm)
    refine .obj (sortMembers_keys ?_) ?_ ?_
    · rw [List.map_map]
      exact hkeys
    · intro m hm
      rcases hmem m hm with ⟨n, hn, rfl⟩
      exact hjoined n hn
    · intro m hm
      rcases hmem m hm with ⟨n, hn, rfl⟩
      exact ih n hn

/-- `sort_keys` changes nothing where the keys are sorted. -/
theorem sorted_eq_self {depth : ℕ} {j : Json ν} (h : Wf okNum SortedKeys depth j) :
    j.sorted = j := by
  induction h with
  | null => rfl
  | bool b => rfl
  | num hn => rfl
  | str hs => rfl
  | @arr depth xs _ ih =>
    rw [sorted, sortedItems_eq_map, List.map_congr_left ih, List.map_id']
  | @obj depth ms hkeys _ _ ih =>
    have hmap : ms.map (fun m => (m.1, m.2.sorted)) = ms := by
      rw [List.map_congr_left (g := id) fun m hm => by rw [ih m hm]; rfl, List.map_id]
    rw [sorted, sortedMembers_eq_map, hmap, sortMembers_eq_self hkeys]

end Sorted

/-! ## What the reader lets in -/

/-- Hooks that let in numbers of a kind. -/
structure Hooks.Yields (hooks : Hooks ν ε) (okNum : ν → Prop) : Prop where
  int : ∀ text n, hooks.int text = .ok n → okNum n
  float : ∀ text n, hooks.float text = .ok n → okNum n
  constant : ∀ text n, hooks.constant text = .ok n → okNum n

theorem hooked_eq_ok {α : Type} {x : Except ε α} {a : α} : hooked x = .ok a ↔ x = .ok a := by
  cases x <;> simp [hooked]

section Soundness

variable {hooks : Hooks ν ε} {okNum : ν → Prop}

variable {text rest : List Char}

theorem joined_of_string {s : PyStr} (h : string (ε := ε) text = .ok (s, rest)) : Joined s := by
  rcases bind_eq_ok.mp h with ⟨⟨ps, rest'⟩, _, h⟩
  cases h
  exact joined_joinPairs ps

variable {j : Json ν}

theorem number_wf (hhooks : hooks.Yields okNum) (h : number hooks text = .ok (j, rest)) :
    ∃ n, j = .num n ∧ okNum n := by
  unfold number at h
  rcases bind_eq_ok.mp h with ⟨⟨whole, rest'⟩, _, h⟩
  rcases bind_eq_ok.mp h with ⟨n, hn, h⟩
  cases h
  rw [hooked_eq_ok] at hn
  refine ⟨n, rfl, ?_⟩
  split_ifs at hn
  · exact hhooks.int _ n hn
  · exact hhooks.float _ n hn

variable {depth : ℕ}

theorem scalar_wf (hhooks : hooks.Yields okNum) {okKeys : List PyStr → Prop}
    (h : scalar hooks text = .ok (j, rest)) : Wf okNum okKeys depth j := by
  unfold scalar at h
  split at h
  · cases h
    exact .null
  · cases h
    exact .bool true
  · cases h
    exact .bool false
  · split at h
    · rcases bind_eq_ok.mp h with ⟨n, hn, h⟩
      cases h
      exact .num (hhooks.constant _ n (hooked_eq_ok.mp hn))
    · rcases number_wf hhooks h with ⟨n, rfl, hn⟩
      exact .num hn

theorem sequence_forall {α : Type} {P : α → Prop} {entry : Reader ε α}
    (hentry : ∀ text x rest, entry text = .ok (x, rest) → P x) {close : Char} {n : ℕ} {xs : List α}
    (h : sequence close entry n text = .ok (xs, rest)) : ∀ x ∈ xs, P x := by
  induction n generalizing text xs with
  | zero => cases h
  | succ n ih =>
    unfold sequence at h
    rcases bind_eq_ok.mp h with ⟨⟨x, rest'⟩, hx, h⟩
    have hP := hentry _ _ _ hx
    simp only at h
    split at h
    · cases h
    · split_ifs at h
      · cases h
        simpa using hP
      · rcases bind_eq_ok.mp h with ⟨⟨xs', rest''⟩, hxs, h⟩
        cases h
        exact List.forall_mem_cons.mpr ⟨hP, ih hxs⟩
      · cases h

theorem contents_forall {α : Type} {P : α → Prop} {entry : Reader ε α}
    (hentry : ∀ text x rest, entry text = .ok (x, rest) → P x) {close : Char} {xs : List α}
    (h : contents close entry text = .ok (xs, rest)) : ∀ x ∈ xs, P x := by
  unfold contents at h
  split at h
  · cases h
    simp
  · exact sequence_forall hentry h

theorem joined_of_key {name : PyStr} (h : key (ε := ε) text = .ok (name, rest)) : Joined name := by
  unfold key at h
  split at h
  · cases h
  · split_ifs at h
    · rcases bind_eq_ok.mp h with ⟨⟨name', rest'⟩, hname, h⟩
      simp only at h
      split at h
      · cases h
      · split_ifs at h
        · cases h
          exact joined_of_string hname
        · cases h
    · cases h

theorem valueOf_wf (hhooks : hooks.Yields okNum) {inner : Option (Reader ε (Json ν))}
    (hinner : ∀ item ∈ inner, ∃ depth', depth = depth' + 1 ∧ ∀ text x rest,
      item text = .ok (x, rest) → Wf okNum List.Nodup depth' x)
    (h : valueOf hooks inner text = .ok (j, rest)) : Wf okNum List.Nodup depth j := by
  unfold valueOf at h
  split at h
  · cases h
  · split_ifs at h
    · rcases bind_eq_ok.mp h with ⟨⟨s, rest'⟩, hs, h⟩
      cases h
      exact .str (joined_of_string hs)
    · split at h
      · cases h
      · rename_i item
        rcases hinner item rfl with ⟨depth', rfl, hitem⟩
        rcases bind_eq_ok.mp h with ⟨⟨xs, rest'⟩, hxs, h⟩
        cases h
        exact .arr (contents_forall hitem hxs)
    · split at h
      · cases h
      · rename_i item
        rcases hinner item rfl with ⟨depth', rfl, hitem⟩
        rcases bind_eq_ok.mp h with ⟨⟨ms, rest'⟩, hms, h⟩
        rcases bind_eq_ok.mp h with ⟨object, hdistinct, h⟩
        cases h
        have hmember : ∀ text m rest, member item text = .ok (m, rest) →
            Joined m.1 ∧ Wf okNum List.Nodup depth' m.2 := by
          intro text m rest hm
          rcases bind_eq_ok.mp hm with ⟨⟨name, rest₁⟩, hname, hm⟩
          rcases bind_eq_ok.mp hm with ⟨⟨x, rest₂⟩, hx, hm⟩
          cases hm
          exact ⟨joined_of_key hname, hitem _ _ _ hx⟩
        have hall := contents_forall hmember hms
        unfold distinct at hdistinct
        split at hdistinct
        · cases hdistinct
        · rename_i hnone
          cases hdistinct
          exact .obj (repeated_eq_none.mp hnone).1 (fun m hm => (hall m hm).1)
            fun m hm => (hall m hm).2
    · exact scalar_wf hhooks h

theorem value_wf (hhooks : hooks.Yields okNum) (h : value hooks depth text = .ok (j, rest)) :
    Wf okNum List.Nodup depth j := by
  induction depth generalizing text j rest with
  | zero => exact valueOf_wf hhooks (fun item hitem => by cases hitem) h
  | succ depth ih =>
    refine valueOf_wf hhooks (fun item hitem => ?_) h
    cases hitem
    exact ⟨depth, rfl, fun _ _ _ hread => ih hread⟩

/-- What `json.loads` returns. -/
theorem loads_wf (hhooks : hooks.Yields okNum) {text : List Char}
    (h : loads hooks depth text = .ok j) : Wf okNum List.Nodup depth j := by
  rcases bind_eq_ok.mp h with ⟨⟨document, rest⟩, hvalue, h⟩
  simp only at h
  split_ifs at h
  · cases h
    exact value_wf hhooks hvalue
  · cases h

/-- A text that is what would be written for the document read from it has sorted keys. -/
theorem loads_canonical (hhooks : hooks.Yields okNum) {numeral : ν → List Char}
    (hnum : ReadsBack hooks numeral okNum) {text : List Char} (h : loads hooks depth text = .ok j)
    (hcanonical : text = render numeral j.sorted) : j.sorted = j ∧ Wf okNum SortedKeys depth j := by
  have hsorted := wf_sorted (loads_wf hhooks h)
  have hback := loads_render hnum (hsorted.mono fun _ hkeys => hkeys.nodup)
  rw [← hcanonical, h] at hback
  have heq : j = j.sorted := Except.ok.inj hback
  exact ⟨heq.symm, heq ▸ hsorted⟩

end Soundness

theorem Wf.deeper {okNum : ν → Prop} {okKeys : List PyStr → Prop} {depth depth' : ℕ} {j : Json ν}
    (h : Wf okNum okKeys depth j) (hle : depth ≤ depth') : Wf okNum okKeys depth' j := by
  induction h generalizing depth' with
  | null => exact .null
  | bool b => exact .bool b
  | num hn => exact .num hn
  | str hs => exact .str hs
  | arr _ ih =>
    obtain ⟨d, rfl⟩ : ∃ d, depth' = d + 1 := ⟨depth' - 1, by omega⟩
    exact .arr fun x hx => ih x hx (by omega)
  | obj hkeys hjoined _ ih =>
    obtain ⟨d, rfl⟩ : ∃ d, depth' = d + 1 := ⟨depth' - 1, by omega⟩
    exact .obj hkeys hjoined fun m hm => ih m hm (by omega)

/-- Different documents are written differently. -/
theorem render_injective {hooks : Hooks ν ε} {numeral : ν → List Char} {okNum : ν → Prop}
    (hnum : ReadsBack hooks numeral okNum) {depth depth' : ℕ} {i j : Json ν}
    (hi : Wf okNum List.Nodup depth i) (hj : Wf okNum List.Nodup depth' j)
    (h : render numeral i = render numeral j) : i = j := by
  have hi' := loads_render hnum (hi.deeper (le_max_left depth depth'))
  have hj' := loads_render hnum (hj.deeper (le_max_right depth depth'))
  rw [h, hj'] at hi'
  exact (Except.ok.inj hi').symm

/-! ## Integers -/

def intNumeral : ℤ → List Char
  | .ofNat n => Nat.toDigits 10 n
  | .negSucc n => '-' :: Nat.toDigits 10 (n + 1)

/-- `int(text)` of a numeral. -/
def readInt : List Char → ℤ
  | [] => 0
  | c :: text =>
    if c = '-' then - (Nat.ofDigitChars 10 text 0 : ℤ) else Nat.ofDigitChars 10 (c :: text) 0

section Integers

variable {hooks : Hooks ν ε}

theorem ne_of_isDigit {c d : Char} (hc : c.isDigit = true) (hd : d.isDigit = false) : c ≠ d := by
  rintro rfl
  rw [hc] at hd
  cases hd

theorem toDigits_cons (n : ℕ) :
    ∃ c cs, Nat.toDigits 10 n = c :: cs ∧ c.isDigit = true ∧ ∀ d ∈ cs, d.isDigit = true := by
  have hall : ∀ d ∈ Nat.toDigits 10 n, d.isDigit = true :=
    fun d hd => Nat.isDigit_of_mem_toDigits (by decide) (by decide) hd
  cases h : Nat.toDigits 10 n with
  | nil => exact absurd h Nat.toDigits_ne_nil
  | cons c cs =>
    rw [h] at hall
    exact ⟨c, cs, rfl, hall c (List.mem_cons_self ..),
      fun d hd => hall d (List.mem_cons_of_mem _ hd)⟩

/-- No numeral has a leading zero. -/
theorem toDigits_lead_zero {n : ℕ} {cs : List Char} (h : Nat.toDigits 10 n = '0' :: cs) :
    cs = [] := by
  induction n using Nat.strong_induction_on generalizing cs with
  | _ n ih =>
    by_cases hn : n < 10
    · rw [Nat.toDigits_of_lt_base hn] at h
      exact (List.cons.inj h).2.symm
    · rw [Nat.toDigits_of_base_le (by decide) (by omega)] at h
      rcases toDigits_cons (n / 10) with ⟨c, cs', heq, _⟩
      rw [heq, List.cons_append, List.cons.injEq] at h
      rcases h with ⟨rfl, _⟩
      -- the quotient would be written `0`
      have hzero := ih (n / 10) (by omega) heq
      rw [hzero] at heq
      have hvalue := Nat.ofDigitChars_ten_toDigits (n := n / 10)
      rw [heq, Nat.ofDigitChars_cons, Nat.ofDigitChars_nil] at hvalue
      have : '0'.toNat = 48 := rfl
      omega

theorem readInt_intNumeral (n : ℤ) : readInt (intNumeral n) = n := by
  cases n with
  | ofNat n =>
    rcases toDigits_cons n with ⟨c, cs, heq, hdigit, _⟩
    show readInt (Nat.toDigits 10 n) = _
    have hvalue := Nat.ofDigitChars_ten_toDigits (n := n)
    rw [heq] at hvalue ⊢
    refine (if_neg (ne_of_isDigit hdigit (by decide))).trans ?_
    rw [hvalue]
    rfl
  | negSucc n =>
    show - (Nat.ofDigitChars 10 (Nat.toDigits 10 (n + 1)) 0 : ℤ) = _
    rw [Nat.ofDigitChars_ten_toDigits, Int.negSucc_eq]
    push_cast
    rfl

theorem intNumeral_isAscii (n : ℤ) : IsAscii (intNumeral n) := by
  have hdigits : ∀ m, IsAscii (Nat.toDigits 10 m) := by
    intro m c hc
    have hdigit := Nat.isDigit_of_mem_toDigits (by decide) (by decide) hc
    rw [Char.isDigit_iff_toNat] at hdigit
    have : '9'.toNat = 57 := rfl
    omega
  cases n with
  | ofNat n => exact hdigits n
  | negSucc n => exact isAscii_cons (by decide) (hdigits (n + 1))

theorem takeWhile_digits {cs rest : List Char} (hcs : ∀ d ∈ cs, d.isDigit = true)
    (hrest : Delimited rest) : (cs ++ rest).takeWhile Char.isDigit = cs ∧
      (cs ++ rest).dropWhile Char.isDigit = rest := by
  have hstop : rest.takeWhile Char.isDigit = [] ∧ rest.dropWhile Char.isDigit = rest := by
    cases rest with
    | nil => exact ⟨rfl, rfl⟩
    | cons c rest =>
      have hc : c.isDigit = false := by
        rcases hrest c rfl with rfl | rfl | rfl <;> rfl
      exact ⟨List.takeWhile_cons_of_neg (by rw [hc]; decide),
        List.dropWhile_cons_of_neg (by rw [hc]; decide)⟩
  rw [List.takeWhile_append_of_pos hcs, List.dropWhile_append_of_pos hcs, hstop.1, hstop.2,
    List.append_nil]
  exact ⟨rfl, rfl⟩

theorem intPart_toDigits (n : ℕ) {rest : List Char} (hrest : Delimited rest) :
    intPart (ε := ε) (Nat.toDigits 10 n ++ rest) = .ok (Nat.toDigits 10 n, rest) := by
  rcases toDigits_cons n with ⟨c, cs, heq, hdigit, hcs⟩
  have hspan := takeWhile_digits (List.forall_mem_cons.mpr ⟨hdigit, hcs⟩) hrest
  rw [List.cons_append] at hspan
  rw [heq, List.cons_append]
  by_cases hzero : c = '0'
  · subst hzero
    rw [toDigits_lead_zero heq]
    rfl
  · refine (if_neg hzero).trans ((if_pos hdigit).trans ?_)
    rw [hspan.1, hspan.2]

theorem number_delimited (minus whole : List Char) {rest text : List Char} {n : ν}
    (hsign : sign ['-'] text = (minus, whole ++ rest))
    (hwhole : intPart (ε := ε) (whole ++ rest) = .ok (whole, rest)) (hrest : Delimited rest)
    (hint : hooks.int (minus ++ whole) = .ok n) : number hooks text = .ok (.num n, rest) := by
  have hpart : fraction rest = ([], rest) := by
    cases rest with
    | nil => rfl
    | cons c rest => rcases hrest c rfl with rfl | rfl | rfl <;> rfl
  have hpower : exponent rest = ([], rest) := by
    cases rest with
    | nil => rfl
    | cons c rest =>
      unfold exponent
      refine if_neg ?_
      rintro ⟨hc | hc, _⟩ <;> rcases hrest c rfl with rfl | rfl | rfl <;> exact absurd hc (by decide)
  unfold number
  rw [hsign]
  refine bind_eq_ok.mpr ⟨_, hwhole, ?_⟩
  simp only [hpart, hpower, and_self, if_true, hint]
  rfl

theorem word_cons_of_ne {w c : Char} (ws text : List Char) (h : c ≠ w) :
    word (w :: ws) (c :: text) = none := if_neg h

/-- The first character of a numeral. -/
theorem intNumeral_lead (n : ℤ) : ∃ c cs, intNumeral n = c :: cs ∧ IsLead c ∧ c ≠ '"' ∧ c ≠ '[' ∧
    c ≠ '{' := by
  cases n with
  | ofNat n =>
    rcases toDigits_cons n with ⟨c, cs, heq, hdigit, _⟩
    refine ⟨c, cs, heq, ⟨?_, ?_, ?_⟩, ?_, ?_, ?_⟩
    · have hspaces : [' ', '\t', '\n', '\r'].all (fun d => !d.isDigit) = true := by decide
      have hne : ∀ d ∈ [' ', '\t', '\n', '\r'], c ≠ d := fun d hd =>
        ne_of_isDigit hdigit ((Bool.not_eq_true' _).mp (List.all_eq_true.mp hspaces d hd))
      simp only [List.mem_cons, List.not_mem_nil, or_false, forall_eq_or_imp, forall_eq] at hne
      simp [isSpace, hne]
    all_goals exact ne_of_isDigit hdigit (by decide)
  | negSucc n => exact ⟨'-', _, rfl, by decide, by decide, by decide, by decide⟩

/-- A numeral is read as what `int` makes of it. -/
theorem scalar_intNumeral {n : ℤ} {x : ν} {rest : List Char}
    (hint : hooks.int (intNumeral n) = .ok x) (hrest : Delimited rest) :
    scalar hooks (intNumeral n ++ rest) = .ok (.num x, rest) := by
  cases n with
  | ofNat n =>
    rcases toDigits_cons n with ⟨c, cs, heq, hdigit, _⟩
    have hwhole := intPart_toDigits (ε := ε) n hrest
    show scalar hooks (Nat.toDigits 10 n ++ rest) = _
    have hnumber : number hooks (Nat.toDigits 10 n ++ rest) = .ok (.num x, rest) := by
      refine number_delimited [] _ ?_ hwhole hrest hint
      rw [heq, List.cons_append]
      exact if_neg (by
        rw [List.mem_singleton]
        exact ne_of_isDigit hdigit (by decide))
    rw [heq, List.cons_append] at hnumber ⊢
    have hne : ∀ w ws, w.isDigit = false → word (w :: ws) (c :: (cs ++ rest)) = none :=
      fun w ws hw => word_cons_of_ne ws _ (ne_of_isDigit hdigit hw)
    unfold scalar
    rw [show "null".toList = 'n' :: "ull".toList from rfl, hne _ _ rfl,
      show "true".toList = 't' :: "rue".toList from rfl, hne _ _ rfl,
      show "false".toList = 'f' :: "alse".toList from rfl, hne _ _ rfl]
    have hconstant : ["NaN".toList, "Infinity".toList, "-Infinity".toList].find?
        (fun w => (word w (c :: (cs ++ rest))).isSome) = none := by
      rw [List.find?_eq_none]
      intro w hw
      simp only [List.mem_cons, List.not_mem_nil, or_false] at hw
      rcases hw with rfl | rfl | rfl
      · rw [show "NaN".toList = 'N' :: "aN".toList from rfl, hne _ _ rfl]
        decide
      · rw [show "Infinity".toList = 'I' :: "nfinity".toList from rfl, hne _ _ rfl]
        decide
      · rw [show "-Infinity".toList = '-' :: "Infinity".toList from rfl, hne _ _ rfl]
        decide
    simp only [hconstant]
    exact hnumber
  | negSucc n =>
    rcases toDigits_cons (n + 1) with ⟨c, cs, heq, hdigit, _⟩
    have hwhole := intPart_toDigits (ε := ε) (n + 1) hrest
    have hnumber : number hooks ('-' :: (Nat.toDigits 10 (n + 1) ++ rest)) =
        .ok (.num x, rest) :=
      number_delimited ['-'] (Nat.toDigits 10 (n + 1)) rfl hwhole hrest hint
    show scalar hooks ('-' :: (Nat.toDigits 10 (n + 1) ++ rest)) = _
    unfold scalar
    rw [heq, List.cons_append] at hnumber ⊢
    have hconstant : ["NaN".toList, "Infinity".toList, "-Infinity".toList].find?
        (fun w => (word w ('-' :: c :: (cs ++ rest))).isSome) = none := by
      have hinfinity : word "-Infinity".toList ('-' :: c :: (cs ++ rest)) = none :=
        (if_pos rfl).trans (word_cons_of_ne _ _ (ne_of_isDigit hdigit (by decide)))
      rw [List.find?_eq_none]
      intro w hw
      simp only [List.mem_cons, List.not_mem_nil, or_false] at hw
      rcases hw with rfl | rfl | rfl
      · exact Bool.false_ne_true
      · exact Bool.false_ne_true
      · rw [hinfinity]
        decide
    simp only [hconstant]
    exact hnumber

/-- Integers are read back when `int` is right on their numerals. -/
theorem readsBack_int {hooks : Hooks ℤ ε} {okNum : ℤ → Prop}
    (hint : ∀ n, okNum n → hooks.int (intNumeral n) = .ok n) :
    ReadsBack hooks intNumeral okNum where
  lead n _ := intNumeral_lead n
  scalar n _ hn hrest := scalar_intNumeral (hint n hn) hrest

end Integers

end Json

end Cathedral
