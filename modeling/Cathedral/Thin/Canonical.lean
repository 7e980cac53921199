import Cathedral.Thin.Documents

/-!
# Cathedral.Thin.Canonical — documents that are built and digested

A document that the code builds lists its members in the order of the source, and
`canonical_json` sorts them. `Writable` documents have no repeated key and are
determined by their canonical bytes up to that order: `get_of_dumps_eq` says that two of
them with equal bytes agree on every field. `Strict` documents, whose keys are sorted
already, are the ones that are read.
-/

namespace Cathedral.Thin

def Fields.ofList (members : List (String × Document)) : Fields :=
  members.map fun m => (PyStr.ofString m.1, m.2)

/-- `{key: document[key] for key in names}`. -/
def Fields.pick (fields : Fields) (names : List String) : Fields :=
  .ofList (names.map fun name => (name, fields.get name))

/-- `raw[:-1] if raw.endswith(b"\n") else raw`. -/
def stripNewline (raw : Bytes) : Bytes := if raw.getLast? = some 10 then raw.dropLast else raw

/-! ## Fields of built documents -/

section Lookup

theorem mem_of_lookup {α β : Type} [BEq α] [LawfulBEq α] {l : List (α × β)} {k : α} {v : β}
    (h : l.lookup k = some v) : (k, v) ∈ l := by
  rcases List.lookup_eq_some_iff.mp h with ⟨_, _, rfl, _⟩
  exact List.mem_append_right _ (List.mem_cons_self ..)

/-- Where no key is repeated, lookup does not depend on the order. -/
theorem lookup_eq_some_iff_mem {α β : Type} [BEq α] [LawfulBEq α] {l : List (α × β)} {k : α}
    {v : β} (hkeys : (l.map Prod.fst).Nodup) : l.lookup k = some v ↔ (k, v) ∈ l := by
  refine ⟨mem_of_lookup, fun h => ?_⟩
  rcases List.append_of_mem h with ⟨before, after, rfl⟩
  refine List.lookup_eq_some_iff.mpr ⟨before, after, rfl, fun m hm => ?_⟩
  rw [List.map_append, List.map_cons] at hkeys
  have hne : k ≠ m.1 := by
    rintro rfl
    exact (List.nodup_append.mp hkeys).2.2 m.1 (List.mem_map_of_mem hm) m.1
      (List.mem_cons_self ..) rfl
  exact bne_iff_ne.mpr hne

theorem lookup_perm {α β : Type} [BEq α] [LawfulBEq α] {l l' : List (α × β)} (h : l.Perm l')
    (hkeys : (l.map Prod.fst).Nodup) (k : α) : l.lookup k = l'.lookup k := by
  apply Option.ext
  intro v
  rw [lookup_eq_some_iff_mem hkeys, lookup_eq_some_iff_mem ((h.map Prod.fst).nodup_iff.mp hkeys)]
  exact h.mem_iff

theorem lookup_map_snd {α β γ : Type} [BEq α] {l : List (α × β)} (f : β → γ) (k : α) :
    (l.map fun m => (m.1, f m.2)).lookup k = (l.lookup k).map f := by
  induction l with
  | nil => rfl
  | cons m l ih =>
    rw [List.map_cons, List.lookup_cons, List.lookup_cons]
    cases k == m.1 with
    | true => rfl
    | false => exact ih

variable {members : List (String × Document)} {fields : Fields} {name : String}

@[simp] theorem keys_ofList :
    (Fields.ofList members).map Prod.fst = (members.map Prod.fst).map PyStr.ofString := by
  simp [Fields.ofList]

@[simp] theorem get_ofList :
    (Fields.ofList members).get name = (members.lookup name).getD .null := by
  unfold Fields.get
  congr 1
  induction members with
  | nil => rfl
  | cons m members ih =>
    show List.lookup _ ((PyStr.ofString m.1, m.2) :: Fields.ofList members) = _
    rw [List.lookup_cons, List.lookup_cons]
    by_cases h : name = m.1
    · rw [h, beq_self_eq_true, beq_self_eq_true]
    · have hstr : PyStr.ofString name ≠ PyStr.ofString m.1 :=
        fun heq => h (PyStr.ofString_injective heq)
      rw [beq_eq_false_iff_ne.mpr h, beq_eq_false_iff_ne.mpr hstr]
      exact ih

theorem lookup_map_self {names : List String} {f : String → Document} (h : name ∈ names) :
    (names.map fun name => (name, f name)).lookup name = some (f name) := by
  induction names with
  | nil => exact absurd h List.not_mem_nil
  | cons n names ih =>
    rw [List.map_cons, List.lookup_cons]
    by_cases hn : name = n
    · rw [hn, beq_self_eq_true]
    · rw [beq_eq_false_iff_ne.mpr hn]
      exact ih ((List.mem_cons.mp h).resolve_left hn)

/-- A picked field is the field of the document. -/
theorem get_pick {names : List String} (h : name ∈ names) :
    (fields.pick names).get name = fields.get name := by
  rw [Fields.pick, get_ofList, lookup_map_self h, Option.getD_some]

/-- A field that is not dropped is the field of the document. -/
theorem get_without {names : List String} (h : name ∉ names) :
    (fields.without names).get name = fields.get name := by
  have hkey : PyStr.ofString name ∉ names.map PyStr.ofString := by
    rw [List.mem_map_of_injective PyStr.ofString_injective]
    exact h
  unfold Fields.get Fields.without
  congr 1
  induction fields with
  | nil => rfl
  | cons m fields ih =>
    rw [List.filter_cons]
    by_cases hm : PyStr.ofString name = m.1
    · rw [if_pos (decide_eq_true (hm ▸ hkey)), List.lookup_cons, List.lookup_cons, hm,
        beq_self_eq_true]
    · split_ifs
      · rw [List.lookup_cons, List.lookup_cons, beq_eq_false_iff_ne.mpr hm]
        exact ih
      · rw [List.lookup_cons, beq_eq_false_iff_ne.mpr hm]
        exact ih

end Lookup

/-! ## What a checked field is -/

section Checks

variable {value : Document} {message : String}

theorem encode?_eq_some_strConst {t : PyStr} {s : String} (h : t.encode? = some s) :
    Json.str t = strConst s := by
  rw [PyStr.encode?_eq_some.mp h]
  rfl

theorem matching_eq_ok {accepts : List Char → Bool} {s : String} :
    matching accepts value message = .ok s ↔ value = strConst s ∧ accepts s.toList = true := by
  constructor
  · intro h
    unfold matching at h
    split at h
    · split at h
      · rename_i hencode
        split_ifs at h with haccepts
        · cases h
          exact ⟨encode?_eq_some_strConst hencode, haccepts⟩
        · cases h
      · cases h
    · cases h
  · rintro ⟨rfl, haccepts⟩
    simp only [matching, strConst, PyStr.encode?_ofString]
    exact if_pos haccepts

theorem boundedString_eq_ok {maximum : ℕ} {s : String} :
    boundedString value maximum message = .ok s ↔
      value = strConst s ∧ 1 ≤ s.utf8ByteSize ∧ s.utf8ByteSize ≤ maximum := by
  constructor
  · intro h
    unfold boundedString at h
    split at h
    · split at h
      · rename_i hencode
        split_ifs at h with hsize
        · cases h
          exact ⟨encode?_eq_some_strConst hencode, hsize⟩
        · cases h
      · cases h
    · cases h
  · rintro ⟨rfl, hsize⟩
    simp only [boundedString, strConst, PyStr.encode?_ofString]
    exact if_pos hsize

theorem decimal_eq_ok {q : ℚ} :
    decimal value message = .ok q ↔ ∃ s, value = strConst s ∧ decimal? s.toList = some q := by
  constructor
  · intro h
    unfold decimal at h
    split at h
    · split at h
      · rename_i parsed hparsed
        cases h
        rcases Option.bind_eq_some_iff.mp hparsed with ⟨s, hencode, hdecimal⟩
        exact ⟨s, encode?_eq_some_strConst hencode, hdecimal⟩
      · cases h
    · cases h
  · rintro ⟨s, rfl, hdecimal⟩
    simp only [decimal, strConst, PyStr.encode?_ofString, Option.bind_some, hdecimal]
    rfl

theorem nonnegativeInt_eq_ok {n : ℤ} :
    nonnegativeInt value message = .ok n ↔ value = .num n ∧ 0 ≤ n := by
  constructor
  · intro h
    unfold nonnegativeInt at h
    split at h
    · split_ifs at h with hn
      · cases h
        exact ⟨rfl, hn⟩
      · cases h
    · cases h
  · rintro ⟨rfl, hn⟩
    exact if_pos hn

theorem base64Bytes_eq_ok {length : ℕ} {malformed wrongLength : String} {bytes : Bytes} :
    base64Bytes value length malformed wrongLength = .ok bytes ↔
      value = strConst (String.ofList (Base64.encode bytes)) ∧ bytes.length = length := by
  constructor
  · intro h
    unfold base64Bytes at h
    split at h
    · split at h
      · split_ifs at h with hlength
        · cases h
          exact ⟨congrArg Json.str hlength.2, hlength.1⟩
        · cases h
      · cases h
    · cases h
  · rintro ⟨rfl, hlength⟩
    simp only [base64Bytes, strConst, PyStr.encode?_ofString, Option.bind_some,
      String.toList_ofList, Base64.decode_encode]
    exact if_pos ⟨hlength, trivial⟩

theorem requireExactKeys_eq_ok {fields : Fields} {expected : List String} {label : String} :
    requireExactKeys fields expected label = .ok () ↔ fields.HasKeys expected :=
  refuse_eq_ok.trans not_not

/-- A built object has the keys of its members. -/
theorem hasKeys_ofList {members : List (String × Document)} {expected : List String} :
    (Fields.ofList members).HasKeys expected ↔
      (∀ name ∈ expected, name ∈ members.map Prod.fst) ∧
        ∀ name ∈ members.map Prod.fst, name ∈ expected := by
  unfold Fields.HasKeys
  rw [keys_ofList]
  refine and_congr ?_ ?_
  · refine forall_congr' fun name => imp_congr_right fun _ => ?_
    exact List.mem_map_of_injective PyStr.ofString_injective
  · rw [List.forall_mem_map]
    refine forall_congr' fun name => imp_congr_right fun _ => ?_
    exact List.mem_map_of_injective PyStr.ofString_injective

end Checks

/-! ## Writable documents -/

/-- No key twice, integers in range, and containers up to a depth. -/
def Writable (depth : ℕ) (value : Document) : Prop := Json.Wf InRange List.Nodup depth value

section Writable

variable {depth : ℕ}

theorem wf_strConst {okKeys : List PyStr → Prop} (s : String) :
    Json.Wf InRange okKeys depth (strConst s) := .str (Json.joined_ofString s)

theorem Strict.writable {value : Document} (h : Strict depth value) : Writable depth value :=
  h.nodup

theorem wf_ofList {okKeys : List PyStr → Prop} {members : List (String × Document)}
    (hkeys : okKeys ((members.map Prod.fst).map PyStr.ofString))
    (h : ∀ m ∈ members, Json.Wf InRange okKeys depth m.2) :
    Json.Wf InRange okKeys (depth + 1) (.obj (Fields.ofList members)) := by
  refine .obj (keys_ofList ▸ hkeys) ?_ ?_
  · intro m hm
    rcases List.mem_map.mp hm with ⟨n, _, rfl⟩
    exact Json.joined_ofString n.1
  · intro m hm
    rcases List.mem_map.mp hm with ⟨n, hn, rfl⟩
    exact h n hn

@[simp] theorem strict_null : Strict depth .null := .null

@[simp] theorem strict_bool (b : Bool) : Strict depth (.bool b) := .bool b

@[simp] theorem strict_strConst (s : String) : Strict depth (strConst s) := wf_strConst s

@[simp] theorem strict_num {n : ℤ} : Strict depth (.num n) ↔ InRange n :=
  ⟨fun h => by cases h; assumption, .num⟩

/-- A built object is strict if its names come in order. -/
@[simp] theorem strict_ofList {members : List (String × Document)} :
    Strict (depth + 1) (.obj (Fields.ofList members)) ↔
      (members.map Prod.fst).Pairwise (· < ·) ∧ ∀ m ∈ members, Strict depth m.2 := by
  constructor
  · intro h
    cases h with
    | obj hkeys _ hmembers =>
      rw [keys_ofList] at hkeys
      refine ⟨(List.pairwise_map.mp hkeys).imp PyStr.ofString_lt_iff.mp, fun m hm => ?_⟩
      exact hmembers _ (List.mem_map_of_mem hm)
  · rintro ⟨hkeys, h⟩
    refine wf_ofList ?_ h
    exact List.pairwise_map.mpr (hkeys.imp PyStr.ofString_lt_iff.mpr)

/-- A built object is writable if its names are distinct. -/
theorem writable_ofList {members : List (String × Document)}
    (hkeys : (members.map Prod.fst).Nodup) (h : ∀ m ∈ members, Writable depth m.2) :
    Writable (depth + 1) (.obj (Fields.ofList members)) :=
  wf_ofList (hkeys.map PyStr.ofString_injective) h

theorem wf_get {okKeys : List PyStr → Prop} {fields : Fields}
    (h : Json.Wf InRange okKeys (depth + 1) (.obj fields)) (name : String) :
    Json.Wf InRange okKeys depth (fields.get name) := by
  cases h with
  | obj _ _ hmembers =>
    unfold Fields.get
    cases hlookup : fields.lookup (PyStr.ofString name) with
    | none => exact .null
    | some value => exact hmembers _ (mem_of_lookup hlookup)

/-- The fields of a strict object are strict. -/
theorem Strict.get {fields : Fields} (h : Strict (depth + 1) (.obj fields)) (name : String) :
    Strict depth (fields.get name) := wf_get h name

theorem Strict.depth_pos {fields : Fields} (h : Strict depth (.obj fields)) :
    ∃ d, depth = d + 1 := by
  cases h
  exact ⟨_, rfl⟩

theorem writable_pick {fields : Fields} (h : Writable (depth + 1) (.obj fields))
    {names : List String} (hnames : names.Nodup) :
    Writable (depth + 1) (.obj (fields.pick names)) := by
  refine writable_ofList ?_ ?_
  · rw [List.map_map]
    exact (List.map_id names).symm ▸ hnames
  · intro m hm
    rcases List.mem_map.mp hm with ⟨name, _, rfl⟩
    exact wf_get h name

theorem writable_without {fields : Fields} (h : Writable depth (.obj fields))
    (names : List String) : Writable depth (.obj (fields.without names)) := by
  cases h with
  | obj hkeys hjoined hmembers =>
    refine .obj (hkeys.sublist (List.filter_sublist.map _)) ?_ ?_
    · intro m hm
      exact hjoined m (List.mem_of_mem_filter hm)
    · intro m hm
      exact hmembers m (List.mem_of_mem_filter hm)

theorem canonicalJson_ok {platform : Platform} {value : Document} {bytes : Bytes}
    (h : canonicalJson platform value = .ok bytes) : bytes = dumps value := by
  unfold canonicalJson at h
  split_ifs at h
  · exact (Except.ok.inj h).symm
  · cases h

/-- What is written is within the writer's depth. -/
theorem fits_of_canonicalJson {platform : Platform} {value : Document} {bytes : Bytes}
    (h : canonicalJson platform value = .ok bytes) :
    value.fits numeralFits platform.writeDepth = true := by
  unfold canonicalJson at h
  split_ifs at h with hfits
  · exact hfits
  · cases h

/-- Lookup commutes with `sort_keys`. -/
theorem get_sorted {fields : Fields} (h : Writable depth (.obj fields)) :
    ∃ sorted : Fields, Json.sorted (.obj fields) = .obj sorted ∧
      ∀ name, sorted.get name = (fields.get name).sorted := by
  cases h with
  | obj hkeys _ _ =>
    rw [Json.sorted, Json.sortedMembers_eq_map]
    refine ⟨_, rfl, fun name => ?_⟩
    have hkeys' : ((fields.map fun m => (m.1, m.2.sorted)).map Prod.fst).Nodup := by
      rw [List.map_map]
      exact hkeys
    unfold Fields.get
    rw [← lookup_perm (Json.sortMembers_perm _).symm hkeys', lookup_map_snd]
    cases fields.lookup (PyStr.ofString name) with
    | none => rfl
    | some value => rfl

/-- A document and its canonical form have the same bytes. -/
theorem dumps_sorted {value : Document} (h : Writable depth value) :
    dumps value.sorted = dumps value := by
  unfold dumps
  rw [Json.sorted_eq_self (Json.wf_sorted h)]

/-- Writable documents with equal bytes agree on every field. -/
theorem get_of_dumps_eq {depth' : ℕ} {a b : Fields} (ha : Writable depth (.obj a))
    (hb : Writable depth' (.obj b)) (h : dumps (.obj a) = dumps (.obj b)) (name : String) :
    (a.get name).sorted = (b.get name).sorted := by
  rw [← dumps_sorted ha, ← dumps_sorted hb] at h
  have heq := dumps_injective (Json.wf_sorted ha) (Json.wf_sorted hb) h
  rcases get_sorted ha with ⟨a', ha', hgeta⟩
  rcases get_sorted hb with ⟨b', hb', hgetb⟩
  rw [ha', hb', Json.obj.injEq] at heq
  rw [← hgeta, ← hgetb, heq]

/-- Selections of strict documents with equal bytes agree on what they select. -/
theorem get_of_dumps_pick {depth' : ℕ} {a b : Fields} {names : List String}
    (ha : Strict depth (.obj a)) (hb : Strict depth' (.obj b)) (hnames : names.Nodup)
    (h : dumps (.obj (a.pick names)) = dumps (.obj (b.pick names))) {name : String}
    (hname : name ∈ names) : a.get name = b.get name := by
  rcases ha.depth_pos with ⟨d, rfl⟩
  rcases hb.depth_pos with ⟨d', rfl⟩
  have hget := get_of_dumps_eq (writable_pick ha.writable hnames)
    (writable_pick hb.writable hnames) h name
  rw [get_pick hname, get_pick hname] at hget
  rw [Json.sorted_eq_self (ha.get name), Json.sorted_eq_self (hb.get name)] at hget
  exact hget

/-- Strict documents with equal bytes but for some members agree on all others. -/
theorem get_of_dumps_without {depth' : ℕ} {a b : Fields} {names : List String}
    (ha : Strict depth (.obj a)) (hb : Strict depth' (.obj b))
    (h : dumps (.obj (a.without names)) = dumps (.obj (b.without names))) {name : String}
    (hname : name ∉ names) : a.get name = b.get name := by
  rcases ha.depth_pos with ⟨d, rfl⟩
  rcases hb.depth_pos with ⟨d', rfl⟩
  have hget := get_of_dumps_eq (writable_without ha.writable names)
    (writable_without hb.writable names) h name
  rw [get_without hname, get_without hname] at hget
  rw [Json.sorted_eq_self (ha.get name), Json.sorted_eq_self (hb.get name)] at hget
  exact hget

theorem canonicalJson_writable {platform : Platform} {value : Document} (h : Writable depth value)
    (hdepth : depth ≤ platform.writeDepth) : canonicalJson platform value = .ok (dumps value) := by
  have hwf : Json.Wf (fun n => numeralFits n = true) List.Nodup depth value :=
    Json.Wf.imp (fun _ hn => numeralFits_of_inRange hn) h
  exact if_pos (Json.fits_of_wf (hwf.deeper hdepth))

/-- No canonical object ends in a newline. -/
theorem stripNewline_dumps (fields : Fields) :
    stripNewline (dumps (.obj fields)) = dumps (.obj fields) := by
  have hlast : (dumps (.obj fields)).getLast? = some 125 := by
    unfold dumps asciiBytes
    rw [Json.sorted, Json.render, List.getLast?_map, List.getLast?_cons,
      Json.getLast?_separated]
    rfl
  unfold stripNewline
  rw [hlast, if_neg (by decide)]

end Writable

/-! A platform whose hash is constant, a minute after noon, and a signature of zeros: the
documents of the examples are checked on it. -/

def zeroPlatform : Platform where
  readDepth := 100
  writeDepth := 100
  urls := ⟨id, fun _ => false⟩
  sha256 _ := zeroDigest

def noonTime : UtcTime where
  year := 2026
  month := 7
  day := 26
  hour := 12
  minute := 1
  second := 0
  microsecond := 0
  valid := by decide +kernel

def zeroSignature : Bytes := List.replicate 64 0

end Cathedral.Thin
