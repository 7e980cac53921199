import Cathedral.Lib.Bytes
import Cathedral.Lib.PyText

/-!
# Cathedral.Publisher.ClientIp — the address of a client behind proxies

`_client_ip_from_scope` of `publisher/ratelimit.py`. In railway mode the chain of forwarded
addresses is read from its right end, where the trusted proxies append; nothing that a client
sends moves what is there: `clientIp_appended`.
-/

namespace Cathedral.Publisher.ClientIp

/-- `scope["headers"]`: names and values as they came. -/
abbrev Headers : Type := List (Bytes × Bytes)

inductive Mode where
  | headers
  | railway
  | socket
deriving DecidableEq

structure Scope where
  headers : Headers
  /-- The first component of `scope["client"]`. -/
  client : Option PyStr

/-- `bytes.lower()`. -/
def lower (name : Bytes) : Bytes := name.map fun b => if 65 ≤ b ∧ b ≤ 90 then b + 32 else b

/-- `value.decode("latin-1")`. -/
def latin1 (value : Bytes) : PyStr := value.map fun b => Fin.ofNat _ b.toNat

def comma : CodePoint := CodePoint.ofChar ','

def xffName : Bytes := asciiBytes "x-forwarded-for".toList

/-- `_get_header`, of a name in lower case. -/
def getHeader (headers : Headers) (name : Bytes) : Option PyStr :=
  (headers.find? fun line => lower line.1 = name).map fun line => latin1 line.2

/-- The entries of one header line. -/
def entries (value : Bytes) : List PyStr :=
  (((latin1 value).splitOn comma).map PyStr.strip).filter (· ≠ [])

def allXffValues (headers : Headers) : List PyStr :=
  headers.flatMap fun line => if lower line.1 = xffName then entries line.2 else []

def unresolvedIp : PyStr := PyStr.ofString "\x00unresolved"

/-- `client[0]` of a peer, if there is one. -/
def peer (scope : Scope) : PyStr := scope.client.getD (PyStr.ofString "unknown")

/-- `_client_ip_from_scope` under a mode and a hop count. -/
def clientIpFromScope (mode : Mode) (hops : ℕ) (scope : Scope) : PyStr :=
  match mode with
  | .railway =>
    let chain := allXffValues scope.headers
    if chain.length ≥ hops then chain.getD (chain.length - hops) unresolvedIp else unresolvedIp
  | .socket => peer scope
  | .headers =>
    match (getHeader scope.headers (asciiBytes "cf-connecting-ip".toList)).filter (· ≠ []) with
    | some cf => PyStr.strip cf
    | none =>
      match (getHeader scope.headers (asciiBytes "x-real-ip".toList)).filter (· ≠ []) with
      | some real => PyStr.strip real
      | none =>
        match (getHeader scope.headers xffName).filter (· ≠ []) with
        | some xff => PyStr.strip (((xff.splitOn comma).head?).getD [])
        | none => peer scope

/-! ## What proxies append -/

/-- What a proxy writes of a peer: one entry, which is not blank. -/
structure Address where
  bytes : Bytes
  no_comma : comma ∉ latin1 bytes
  not_blank : PyStr.strip (latin1 bytes) ≠ []

def Address.text (a : Address) : PyStr := PyStr.strip (latin1 a.bytes)

/-- A proxy appends an address: as a line of its own at the end, or after a comma to the last of
the lines that are there. -/
inductive Appended (a : Address) : Headers → Headers → Prop where
  | line (headers : Headers) (name : Bytes) (hname : lower name = xffName) :
      Appended a headers (headers ++ [(name, a.bytes)])
  | comma (before later : Headers) (name value : Bytes) (hname : lower name = xffName)
      (hlast : ∀ line ∈ later, lower line.1 ≠ xffName) :
      Appended a (before ++ (name, value) :: later)
        (before ++ (name, value ++ asciiBytes [','] ++ a.bytes) :: later)

/-- Proxies append their addresses, one after the other. -/
inductive AppendedAll : List Address → Headers → Headers → Prop where
  | nil (headers : Headers) : AppendedAll [] headers headers
  | cons {a : Address} {addresses : List Address} {headers headers' headers'' : Headers} :
      Appended a headers headers' → AppendedAll addresses headers' headers'' →
        AppendedAll (a :: addresses) headers headers''

section Chain

variable {a : Address} {addresses : List Address} {headers headers' : Headers}

theorem latin1_comma (value value' : Bytes) :
    latin1 (value ++ asciiBytes [','] ++ value') = latin1 value ++ comma :: latin1 value' := by
  rw [latin1, List.map_append, List.map_append, List.append_assoc]
  rfl

theorem entries_address (a : Address) : entries a.bytes = [a.text] := by
  rw [entries, List.splitOn_eq_singleton a.no_comma, List.map_cons, List.map_nil]
  exact List.filter_cons_of_pos (by simpa using a.not_blank)

/-- The entries before a comma stay as they are. -/
theorem entries_comma (value : Bytes) (a : Address) :
    entries (value ++ asciiBytes [','] ++ a.bytes) = entries value ++ [a.text] := by
  rw [← entries_address, entries, latin1_comma, List.splitOn_append_cons_self, List.map_append,
    List.filter_append]
  rfl

theorem allXffValues_append (headers headers' : Headers) :
    allXffValues (headers ++ headers') = allXffValues headers ++ allXffValues headers' :=
  List.flatMap_append

theorem allXffValues_cons (name value : Bytes) (hname : lower name = xffName) :
    allXffValues ((name, value) :: headers) = entries value ++ allXffValues headers := by
  rw [allXffValues, List.flatMap_cons, if_pos hname]
  rfl

theorem allXffValues_eq_nil (h : ∀ line ∈ headers, lower line.1 ≠ xffName) :
    allXffValues headers = [] :=
  List.flatMap_eq_nil_iff.mpr fun line hline => if_neg (h line hline)

/-- However it is appended, an address is the last entry of the chain. -/
theorem allXffValues_appended (h : Appended a headers headers') :
    allXffValues headers' = allXffValues headers ++ [a.text] := by
  cases h with
  | line _ name hname =>
    rw [allXffValues_append, allXffValues_cons name _ hname, entries_address]
    rfl
  | comma before later name value hname hlast =>
    rw [allXffValues_append, allXffValues_append, allXffValues_cons name _ hname,
      allXffValues_cons name _ hname, entries_comma, allXffValues_eq_nil hlast,
      List.append_nil, List.append_nil, List.append_assoc]

theorem allXffValues_appendedAll (h : AppendedAll addresses headers headers') :
    allXffValues headers' = allXffValues headers ++ addresses.map Address.text := by
  induction h with
  | nil headers => rw [List.map_nil, List.append_nil]
  | cons hfirst hrest ih =>
    rw [ih, allXffValues_appended hfirst, List.append_assoc, List.map_cons]
    rfl

end Chain

/-- Whatever the client sends, the address is the first one of as many as there are hops; with a
shorter chain there is none. -/
theorem clientIp_appended (hops : ℕ) :
    (∀ (sent received : Headers) (client : Option PyStr) (first : Address) (rest : List Address),
      (first :: rest).length = hops → AppendedAll (first :: rest) sent received →
        clientIpFromScope .railway hops ⟨received, client⟩ = first.text) ∧
    ∀ scope : Scope, (allXffValues scope.headers).length < hops →
      clientIpFromScope .railway hops scope = unresolvedIp := by
  refine ⟨fun sent received client first rest hlen h => ?_, fun scope hshort => ?_⟩
  · have hchain := allXffValues_appendedAll h
    have hlength : (allXffValues received).length = (allXffValues sent).length + hops := by
      rw [hchain, List.length_append, List.length_map, hlen]
    simp only [clientIpFromScope]
    rw [if_pos (by omega), show (allXffValues received).length - hops =
      (allXffValues sent).length by omega, hchain, List.getD_eq_getElem?_getD,
      List.getElem?_append_right le_rfl, Nat.sub_self]
    rfl
  · simp only [clientIpFromScope]
    exact if_neg (by omega)

def address (text : List Char) (h : comma ∉ latin1 (asciiBytes text))
    (h' : PyStr.strip (latin1 (asciiBytes text)) ≠ []) : Address := ⟨asciiBytes text, h, h'⟩

/-- The first proxy appends to the line of the client, the second one adds a line. -/
theorem clientIp_spoofed :
    clientIpFromScope .railway 2
      ⟨[(asciiBytes "X-Forwarded-For".toList, asciiBytes "6.6.6.6,, ,9.9.9.9".toList),
        (xffName, asciiBytes " 10.0.0.1".toList)], none⟩ = PyStr.ofString "9.9.9.9" :=
  ((clientIp_appended 2).1 _ _ none (address "9.9.9.9".toList (by decide) (by decide))
    [address " 10.0.0.1".toList (by decide) (by decide)] rfl
    (.cons (.comma [] [] _ (asciiBytes "6.6.6.6,, ".toList) (by decide) (by simp))
      (.cons (.line _ xffName (by decide)) (.nil _)))).trans (by decide)

end Cathedral.Publisher.ClientIp
